import InView.Proofs.Layout.Record
import Mathlib.Tactic.MkIffOfInductiveProp

/-!
# The grammar of layouts

Which texts are boxes, viewports, elements and layouts, and of which value.  `BoxText`,
`ViewportText`, `ElementsText` and `LayoutText` say so without reference to any reader; keys are
compared after their escapes are resolved.

Every reader is then shown to accept exactly its texts, and `document_eq_ok_iff` draws the
conclusion for whole documents: reading succeeds on nothing but the texts of a layout between
blanks, and on each of them with that layout.
-/

namespace InView

open Json Json.Reader

/-! ## Texts -/

/-- The members of a box: each edge exactly once, and well-formed values under other keys. -/
structure Box.OfMembers (b : Box) (members : List Member) : Prop where
  top : Held RealText "top" (some b.top) members
  left : Held RealText "left" (some b.left) members
  right : Held RealText "right" (some b.right) members
  bottom : Held RealText "bottom" (some b.bottom) members
  others : Others ["top", "left", "right", "bottom"] members

/-- The texts of a box. -/
def BoxText : Box → List Char → Prop :=
  RecordText (fun b => List.Forall₂ RealText [b.top, b.left, b.right, b.bottom]) Box.OfMembers

/-- The members of a viewport: each dimension exactly once, and well-formed values under other
keys. -/
structure Viewport.OfMembers (v : Viewport) (members : List Member) : Prop where
  width : Held RealText "width" (some v.width) members
  height : Held RealText "height" (some v.height) members
  others : Others ["width", "height"] members

/-- The texts of a viewport. -/
def ViewportText : Viewport → List Char → Prop :=
  RecordText (fun v => List.Forall₂ RealText [v.width, v.height]) Viewport.OfMembers

/-- Boxes put under ids one after the other. -/
def Elements.ofEntries (entries : List (String × Box)) : Elements :=
  entries.foldl (fun e entry => e.insert entry.1 entry.2) .empty

/-- An entry as a member. -/
def EntryText (entry : String × Box) (m : Member) : Prop :=
  entry.1 = m.key ∧ BoxText entry.2 m.value

/-- The texts of elements: objects whose members are all boxes, under any keys. -/
def ElementsText (e : Elements) (t : List Char) : Prop :=
  ∃ members entries, ObjectText members t ∧ List.Forall₂ EntryText entries members ∧
    e = .ofEntries entries

/-- The members of a layout: the viewport exactly once, the elements at most once, and well-formed
values under other keys. -/
structure Layout.OfMembers (l : Layout) (members : List Member) : Prop where
  viewport : Held ViewportText "viewport" (some l.viewport) members
  elements : ∃ elements?, Held ElementsText "elements" elements? members ∧
    l.elements = elements?.getD .empty
  others : Others ["viewport", "elements"] members

/-- The items of a layout: the viewport, and the elements unless they are left out. -/
def Layout.OfItems (l : Layout) (items : List (List Char)) : Prop :=
  ∃ v rest, items = v :: rest ∧ ViewportText l.viewport v ∧
    ((rest = [] ∧ l.elements = .empty) ∨ List.Forall₂ ElementsText [l.elements] rest)

/-- The texts of a layout. -/
def LayoutText : Layout → List Char → Prop := RecordText Layout.OfItems Layout.OfMembers

/-! ## Boxes -/

/-- What a member does to the edges read before it. -/
@[mk_iff]
structure Box.Takes (d : Box.Draft) (m : Member) (d' : Box.Draft) : Prop where
  top : Sets RealText "top" d.top d'.top m
  left : Sets RealText "left" d.left d'.left m
  right : Sets RealText "right" d.right d'.right m
  bottom : Sets RealText "bottom" d.bottom d'.bottom m
  others : m.key ∉ ["top", "left", "right", "bottom"] → ValueText m.value

lemma Box.takesMembers : TakesMembers Box.readMember Box.Takes := by
  intro d key
  unfold Box.readMember
  split
  case h_5 =>
    refine behindKey_congr (readOther_accepts d) fun v d' => ?_
    obtain ⟨top, left, right, bottom⟩ := d
    obtain ⟨top', left', right', bottom'⟩ := d'
    grind [Box.takes_iff, Sets]
  all_goals
    refine behindKey_congr (setField_accepts _ _ readBinary64_reads _) fun v d' => ?_
    obtain ⟨top', left', right', bottom'⟩ := d'
    grind [Box.takes_iff, Sets]

/-- All edges that members set, one by one. -/
lemma Box.makes_iff {d d' : Box.Draft} {members : List Member} :
    Makes Box.Takes d members d' ↔
      Completes RealText d.top d'.top (valuesOf "top" members) ∧
      Completes RealText d.left d'.left (valuesOf "left" members) ∧
      Completes RealText d.right d'.right (valuesOf "right" members) ∧
      Completes RealText d.bottom d'.bottom (valuesOf "bottom" members) ∧
      Others ["top", "left", "right", "bottom"] members := by
  induction members generalizing d with
  | nil =>
      obtain ⟨top, left, right, bottom⟩ := d
      obtain ⟨top', left', right', bottom'⟩ := d'
      simp [Makes]
  | cons m members ih =>
      simp only [Makes, ih, completes_cons, others_cons]
      constructor
      · rintro ⟨d₁, ⟨top, left, right, bottom, other⟩, tops, lefts, rights, bottoms, others⟩
        exact ⟨⟨_, top, tops⟩, ⟨_, left, lefts⟩, ⟨_, right, rights⟩, ⟨_, bottom, bottoms⟩,
          other, others⟩
      · rintro ⟨⟨top, sets, tops⟩, ⟨left, sets', lefts⟩, ⟨right, sets'', rights⟩,
          ⟨bottom, sets''', bottoms⟩, other, others⟩
        exact ⟨⟨top, left, right, bottom⟩, ⟨sets, sets', sets'', sets''', other⟩, tops, lefts,
          rights, bottoms, others⟩

lemma Box.readObject_accepts : AcceptsObject Box.readObject Box.OfMembers where
  sound := by
    intro cs b rest run
    rw [Box.readObject] at run
    obtain ⟨d, _, membersRun, run⟩ := run_bind_eq_ok.mp run
    obtain ⟨top, _, topRun, run⟩ := run_bind_eq_ok.mp run
    obtain ⟨left, _, leftRun, run⟩ := run_bind_eq_ok.mp run
    obtain ⟨right, _, rightRun, run⟩ := run_bind_eq_ok.mp run
    obtain ⟨bottom, _, bottomRun, run⟩ := run_bind_eq_ok.mp run
    obtain ⟨rfl, rfl⟩ := run_pure_eq_ok.mp run
    obtain ⟨hasBottom, rfl⟩ := run_requireField_eq_ok.mp bottomRun
    obtain ⟨hasRight, rfl⟩ := run_requireField_eq_ok.mp rightRun
    obtain ⟨hasLeft, rfl⟩ := run_requireField_eq_ok.mp leftRun
    obtain ⟨hasTop, rfl⟩ := run_requireField_eq_ok.mp topRun
    obtain ⟨t, rfl, members, items, all, isItems, makes⟩ :=
      (readMembers_accepts Box.takesMembers _).sound membersRun
    simp only [Box.makes_iff, completes_none, hasTop, hasLeft, hasRight, hasBottom] at makes
    obtain ⟨tops, lefts, rights, bottoms, others⟩ := makes
    exact ⟨t, rfl, members, items, all, isItems, tops, lefts, rights, bottoms, others⟩
  complete := by
    rintro b t rest ⟨members, items, all, isItems, of⟩ -
    have makes : Makes Box.Takes ⟨none, none, none, none⟩ members
        ⟨some b.top, some b.left, some b.right, some b.bottom⟩ := by
      simp only [Box.makes_iff, completes_none]
      exact ⟨of.top, of.left, of.right, of.bottom, of.others⟩
    rw [Box.readObject, run_bind_ok ((readMembers_accepts Box.takesMembers _).complete
      ⟨members, items, all, isItems, makes⟩ trivial)]
    rfl

lemma Box.readList_accepts :
    Box.readList.AcceptsItems true
      fun b => List.Forall₂ RealText [b.top, b.left, b.right, b.bottom] := by
  have reads := readItem_accepts 0 (recordLength "BoundingBox" 4) readBinary64_reads fun top =>
    readItem_accepts 1 (recordLength "BoundingBox" 4) readBinary64_reads fun left =>
      readItem_accepts 2 (recordLength "BoundingBox" 4) readBinary64_reads fun right =>
        readItem_accepts 3 (recordLength "BoundingBox" 4) readBinary64_reads fun bottom =>
          closeList_accepts (⟨top, left, right, bottom⟩ : Box)
  refine Accepts.congr reads fun b t => exists_congr fun items => and_congr_right fun _ => ?_
  constructor
  · rintro ⟨top, _, _, rfl, isTop, left, _, _, rfl, isLeft, right, _, _, rfl, isRight,
      bottom, _, _, rfl, isBottom, rfl, rfl⟩
    exact .cons isTop (.cons isLeft (.cons isRight (.cons isBottom .nil)))
  · rintro (_ | ⟨isTop, _ | ⟨isLeft, _ | ⟨isRight, _ | ⟨isBottom, _ | _⟩⟩⟩⟩)
    exact ⟨_, _, _, rfl, isTop, _, _, _, rfl, isLeft, _, _, _, rfl, isRight, _, _, _, rfl,
      isBottom, rfl, rfl⟩

/-- A box is read from exactly its texts. -/
lemma Box.read_reads : Box.read.ReadsValue BoxText :=
  readRecord_reads "BoundingBox" Box.readList_accepts Box.readObject_accepts

/-! ## Viewports -/

/-- What a member does to the dimensions read before it. -/
@[mk_iff]
structure Viewport.Takes (d : Viewport.Draft) (m : Member) (d' : Viewport.Draft) : Prop where
  width : Sets RealText "width" d.width d'.width m
  height : Sets RealText "height" d.height d'.height m
  others : m.key ∉ ["width", "height"] → ValueText m.value

lemma Viewport.takesMembers : TakesMembers Viewport.readMember Viewport.Takes := by
  intro d key
  unfold Viewport.readMember
  split
  case h_3 =>
    refine behindKey_congr (readOther_accepts d) fun v d' => ?_
    obtain ⟨width, height⟩ := d
    obtain ⟨width', height'⟩ := d'
    grind [Viewport.takes_iff, Sets]
  all_goals
    refine behindKey_congr (setField_accepts _ _ readBinary64_reads _) fun v d' => ?_
    obtain ⟨width', height'⟩ := d'
    grind [Viewport.takes_iff, Sets]

/-- Both dimensions that members set, one by one. -/
lemma Viewport.makes_iff {d d' : Viewport.Draft} {members : List Member} :
    Makes Viewport.Takes d members d' ↔
      Completes RealText d.width d'.width (valuesOf "width" members) ∧
      Completes RealText d.height d'.height (valuesOf "height" members) ∧
      Others ["width", "height"] members := by
  induction members generalizing d with
  | nil =>
      obtain ⟨width, height⟩ := d
      obtain ⟨width', height'⟩ := d'
      simp [Makes]
  | cons m members ih =>
      simp only [Makes, ih, completes_cons, others_cons]
      constructor
      · rintro ⟨d₁, ⟨width, height, other⟩, widths, heights, others⟩
        exact ⟨⟨_, width, widths⟩, ⟨_, height, heights⟩, other, others⟩
      · rintro ⟨⟨width, sets, widths⟩, ⟨height, sets', heights⟩, other, others⟩
        exact ⟨⟨width, height⟩, ⟨sets, sets', other⟩, widths, heights, others⟩

lemma Viewport.readObject_accepts : AcceptsObject Viewport.readObject Viewport.OfMembers where
  sound := by
    intro cs v rest run
    rw [Viewport.readObject] at run
    obtain ⟨d, _, membersRun, run⟩ := run_bind_eq_ok.mp run
    obtain ⟨width, _, widthRun, run⟩ := run_bind_eq_ok.mp run
    obtain ⟨height, _, heightRun, run⟩ := run_bind_eq_ok.mp run
    obtain ⟨rfl, rfl⟩ := run_pure_eq_ok.mp run
    obtain ⟨hasHeight, rfl⟩ := run_requireField_eq_ok.mp heightRun
    obtain ⟨hasWidth, rfl⟩ := run_requireField_eq_ok.mp widthRun
    obtain ⟨t, rfl, members, items, all, isItems, makes⟩ :=
      (readMembers_accepts Viewport.takesMembers _).sound membersRun
    simp only [Viewport.makes_iff, completes_none, hasWidth, hasHeight] at makes
    obtain ⟨widths, heights, others⟩ := makes
    exact ⟨t, rfl, members, items, all, isItems, widths, heights, others⟩
  complete := by
    rintro v t rest ⟨members, items, all, isItems, of⟩ -
    have makes : Makes Viewport.Takes ⟨none, none⟩ members ⟨some v.width, some v.height⟩ := by
      simp only [Viewport.makes_iff, completes_none]
      exact ⟨of.width, of.height, of.others⟩
    rw [Viewport.readObject, run_bind_ok ((readMembers_accepts Viewport.takesMembers _).complete
      ⟨members, items, all, isItems, makes⟩ trivial)]
    rfl

lemma Viewport.readList_accepts :
    Viewport.readList.AcceptsItems true fun v => List.Forall₂ RealText [v.width, v.height] := by
  have reads := readItem_accepts 0 (recordLength "Viewport" 2) readBinary64_reads fun width =>
    readItem_accepts 1 (recordLength "Viewport" 2) readBinary64_reads fun height =>
      closeList_accepts (⟨width, height⟩ : Viewport)
  refine Accepts.congr reads fun v t => exists_congr fun items => and_congr_right fun _ => ?_
  constructor
  · rintro ⟨width, _, _, rfl, isWidth, height, _, _, rfl, isHeight, rfl, rfl⟩
    exact .cons isWidth (.cons isHeight .nil)
  · rintro (_ | ⟨isWidth, _ | ⟨isHeight, _ | _⟩⟩)
    exact ⟨_, _, _, rfl, isWidth, _, _, _, rfl, isHeight, rfl, rfl⟩

/-- A viewport is read from exactly its texts. -/
lemma Viewport.read_reads : Viewport.read.ReadsValue ViewportText :=
  readRecord_reads "Viewport" Viewport.readList_accepts Viewport.readObject_accepts

/-! ## Elements -/

/-- What a member does to the elements read before it. -/
def Elements.Takes (e : Elements) (m : Member) (e' : Elements) : Prop :=
  ∃ b, BoxText b m.value ∧ e.insert m.key b = e'

lemma Elements.takesMembers : TakesMembers Elements.readMember Elements.Takes := fun e key =>
  (behindColon_accepts Box.read_reads.accepts fun b => e.insert key b)

/-- Entries are put in place one by one. -/
lemma Elements.makes_iff {e e' : Elements} {members : List Member} :
    Makes Elements.Takes e members e' ↔
      ∃ entries : List (String × Box), List.Forall₂ EntryText entries members ∧
        e' = entries.foldl (fun e entry => e.insert entry.1 entry.2) e := by
  induction members generalizing e with
  | nil =>
      constructor
      · rintro rfl
        exact ⟨[], .nil, rfl⟩
      · rintro ⟨_, ⟨⟩, rfl⟩
        rfl
  | cons m members ih =>
      simp only [Makes, ih]
      constructor
      · rintro ⟨_, ⟨b, box, rfl⟩, entries, all, rfl⟩
        exact ⟨(m.key, b) :: entries, .cons ⟨rfl, box⟩ all, rfl⟩
      · rintro ⟨_, _ | @⟨entry, _, entries, _, ⟨key, box⟩, all⟩, rfl⟩
        exact ⟨_, ⟨entry.2, box, rfl⟩, entries, all, by rw [List.foldl_cons, key]⟩

lemma ElementsText.begins {e : Elements} {t : List Char} (h : ElementsText e t) :
    BeginsValue t := by
  obtain ⟨_, _, object, -⟩ := h
  exact object.begins

/-- Elements are read from exactly their texts. -/
lemma Elements.read_reads : Elements.read.ReadsValue ElementsText where
  accepts := by
    refine Accepts.spaced ⟨?_, ?_⟩ fun h => h.begins
    · intro cs e rest run
      rw [run_peek_bind] at run
      split at run
      case h_1 => cases run
      case h_2 brace =>
        obtain ⟨behind, rfl⟩ := List.head?_eq_some_iff.mp brace
        obtain ⟨t, rfl, members, items, all, isItems, makes⟩ :=
          (readMembers_accepts Elements.takesMembers _).sound run
        obtain ⟨entries, isEntries, rfl⟩ := Elements.makes_iff.mp makes
        exact ⟨'{' :: t, rfl, members, entries, ⟨items, t, all, isItems, rfl⟩, isEntries, rfl⟩
      case h_3 => exact (fails_refuse _ run).elim
    · rintro e _ rest ⟨members, entries, ⟨items, t, all, isItems, rfl⟩, isEntries, rfl⟩ -
      exact (readMembers_accepts Elements.takesMembers _).complete
        ⟨members, items, all, isItems, Elements.makes_iff.mpr ⟨entries, isEntries, rfl⟩⟩ trivial
  begins h := h.begins

/-! ## Layouts -/

/-- What a member does to the fields of a layout read before it. -/
@[mk_iff]
structure Layout.Takes (d : Layout.Draft) (m : Member) (d' : Layout.Draft) : Prop where
  viewport : Sets ViewportText "viewport" d.viewport d'.viewport m
  elements : Sets ElementsText "elements" d.elements d'.elements m
  others : m.key ∉ ["viewport", "elements"] → ValueText m.value

lemma Layout.takesMembers : TakesMembers Layout.readMember Layout.Takes := by
  intro d key
  unfold Layout.readMember
  split
  case h_1 =>
    refine behindKey_congr (setField_accepts _ _ Viewport.read_reads _) fun v d' => ?_
    obtain ⟨viewport', elements'⟩ := d'
    grind [Layout.takes_iff, Sets]
  case h_2 =>
    refine behindKey_congr (setField_accepts _ _ Elements.read_reads _) fun v d' => ?_
    obtain ⟨viewport', elements'⟩ := d'
    grind [Layout.takes_iff, Sets]
  case h_3 =>
    refine behindKey_congr (readOther_accepts d) fun v d' => ?_
    obtain ⟨viewport, elements⟩ := d
    obtain ⟨viewport', elements'⟩ := d'
    grind [Layout.takes_iff, Sets]

/-- Both fields that members set, one by one. -/
lemma Layout.makes_iff {d d' : Layout.Draft} {members : List Member} :
    Makes Layout.Takes d members d' ↔
      Completes ViewportText d.viewport d'.viewport (valuesOf "viewport" members) ∧
      Completes ElementsText d.elements d'.elements (valuesOf "elements" members) ∧
      Others ["viewport", "elements"] members := by
  induction members generalizing d with
  | nil =>
      obtain ⟨viewport, elements⟩ := d
      obtain ⟨viewport', elements'⟩ := d'
      simp [Makes]
  | cons m members ih =>
      simp only [Makes, ih, completes_cons, others_cons]
      constructor
      · rintro ⟨d₁, ⟨viewport, elements, other⟩, viewports, maps, others⟩
        exact ⟨⟨_, viewport, viewports⟩, ⟨_, elements, maps⟩, other, others⟩
      · rintro ⟨⟨viewport, sets, viewports⟩, ⟨elements, sets', maps⟩, other, others⟩
        exact ⟨⟨viewport, elements⟩, ⟨sets, sets', other⟩, viewports, maps, others⟩

lemma Layout.readObject_accepts : AcceptsObject Layout.readObject Layout.OfMembers where
  sound := by
    intro cs l rest run
    rw [Layout.readObject] at run
    obtain ⟨d, _, membersRun, run⟩ := run_bind_eq_ok.mp run
    obtain ⟨viewport, _, viewportRun, run⟩ := run_bind_eq_ok.mp run
    obtain ⟨rfl, rfl⟩ := run_pure_eq_ok.mp run
    obtain ⟨hasViewport, rfl⟩ := run_requireField_eq_ok.mp viewportRun
    obtain ⟨t, rfl, members, items, all, isItems, makes⟩ :=
      (readMembers_accepts Layout.takesMembers _).sound membersRun
    simp only [Layout.makes_iff, completes_none, hasViewport] at makes
    obtain ⟨viewports, maps, others⟩ := makes
    exact ⟨t, rfl, members, items, all, isItems, viewports, ⟨d.elements, maps, rfl⟩, others⟩
  complete := by
    rintro l t rest ⟨members, items, all, isItems, viewports, ⟨elements?, maps, elements⟩, others⟩ -
    have makes : Makes Layout.Takes ⟨none, none⟩ members ⟨some l.viewport, elements?⟩ := by
      simp only [Layout.makes_iff, completes_none]
      exact ⟨viewports, maps, others⟩
    rw [Layout.readObject, run_bind_ok ((readMembers_accepts Layout.takesMembers _).complete
      ⟨members, items, all, isItems, makes⟩ trivial)]
    obtain ⟨viewport, _⟩ := l
    obtain rfl := elements
    rfl

/-- Reads the end of the list form of a layout. -/
def Layout.closing (viewport : Viewport) (elements : Elements) : Reader Layout := do
  closeList
  return ⟨viewport, elements⟩

lemma Layout.closing_accepts (viewport : Viewport) (elements : Elements) :
    (Layout.closing viewport elements).AcceptsItems false
      fun l items => items = [] ∧ l = ⟨viewport, elements⟩ :=
  closeList_accepts _

/-- The rest of the list form behind the viewport. -/
lemma Layout.readRest_accepts (viewport : Viewport) :
    (nextItem false >>= fun more =>
      if more then Elements.read >>= Layout.closing viewport
      else Layout.closing viewport .empty).AcceptsItems
        false fun l items => l.viewport = viewport ∧
        ((items = [] ∧ l.elements = .empty) ∨ List.Forall₂ ElementsText [l.elements] items) where
  sound := by
    intro cs l rest run
    obtain ⟨more, between, nextRun, behind⟩ := run_bind_eq_ok.mp run
    have split := nextItem_split nextRun
    cases more with
    | true =>
        simp only [if_true] at split behind
        obtain ⟨lead, isLead, rfl⟩ := split
        obtain ⟨t, split, items, isItems, e, item, _, rfl, isElements, rfl, rfl⟩ :=
          Elements.read_reads.next_split (Layout.closing_accepts viewport) isLead behind
        exact ⟨t, split, [item], isItems, rfl, .inr (.cons isElements .nil)⟩
    | false =>
        simp only [Bool.false_eq_true, if_false] at split
        obtain ⟨b, _, blanks, -, rfl⟩ := split
        obtain ⟨t, rfl, _, isItems, rfl, rfl⟩ :=
          (Layout.closing_accepts viewport .empty).sound behind
        cases isItems with
        | @close _ b' blanks' =>
            exact ⟨b ++ b' ++ [']'], by simp, [], .close (blanks.append blanks'), rfl,
              .inl ⟨rfl, rfl⟩⟩
  complete := by
    rintro l t rest ⟨items, isItems, rfl, of⟩ -
    rcases of with ⟨rfl, none⟩ | all
    · cases isItems with
      | @close _ b blanks =>
          rw [List.append_assoc, List.singleton_append,
            run_bind_ok (run_nextItem_close false blanks rest)]
          refine (Layout.closing_accepts l.viewport .empty).complete (t := [']'])
            ⟨[], .close blanks_nil, rfl, ?_⟩ trivial
          rw [← none]
    · obtain ⟨item, _, isElements, ⟨⟩, rfl⟩ := List.forall₂_cons_left_iff.mp all
      cases isItems with
      | @next _ lead _ t _ isLead isItems =>
          rw [List.append_assoc, List.append_assoc,
            run_bind_ok (run_nextItem isLead isElements.begins _)]
          exact Elements.read_reads.run_next (Layout.closing_accepts l.viewport) isElements
            isItems ⟨rfl, rfl⟩ rest

lemma Layout.readList_accepts : Layout.readList.AcceptsItems true Layout.OfItems := by
  have reads := readItem_accepts 0 (recordLength "LayoutSnapshot" 2) Viewport.read_reads
    Layout.readRest_accepts
  refine Accepts.congr reads fun l t => exists_congr fun items => and_congr_right fun _ => ?_
  constructor
  · rintro ⟨_, v, behind, rfl, isViewport, rfl, of⟩
    exact ⟨v, behind, rfl, isViewport, of⟩
  · rintro ⟨v, behind, rfl, isViewport, of⟩
    exact ⟨_, v, behind, rfl, isViewport, rfl, of⟩

/-- A layout is read from exactly its texts. -/
lemma Layout.read_reads : Layout.read.ReadsValue LayoutText :=
  readRecord_reads "LayoutSnapshot" Layout.readList_accepts Layout.readObject_accepts

/-! ## Documents -/

/-- A document ends where nothing but blanks is left. -/
lemma run_finish_eq_ok {cs rest : List Char} :
    finish.run cs = .ok ((), rest) ↔ Blanks cs ∧ rest = [] := by
  rw [finish, run_peekToken_bind, run_peek_bind]
  cases ahead : cs.dropWhile isBlank with
  | nil =>
      have blanks : Blanks cs := fun c mem => List.dropWhile_eq_nil_iff.mp ahead c mem
      simp [blanks, eq_comm]
  | cons c left =>
      have notBlanks : ¬Blanks cs := by
        intro blanks
        rw [List.dropWhile_eq_nil_iff.mpr blanks] at ahead
        cases ahead
      simp [notBlanks]

/-- A document is read if a value is, and nothing but blanks is left. -/
lemma document_eq_ok {α : Type} {r : Reader α} {cs : List Char} {a : α} :
    document r cs = .ok a ↔ ∃ rest, r.run cs = .ok (a, rest) ∧ Blanks rest := by
  rw [document, run_bind]
  cases r.run cs with
  | error => simp
  | ok read =>
      obtain ⟨b, rest⟩ := read
      simp only [run_bind]
      constructor
      · intro run
        cases finishRun : finish.run rest with
        | error => simp [finishRun] at run
        | ok left =>
            rw [finishRun] at run
            cases run
            exact ⟨rest, rfl, (run_finish_eq_ok.mp finishRun).1⟩
      · rintro ⟨_, ⟨⟩, blanks⟩
        rw [run_finish_eq_ok.mpr ⟨blanks, rfl⟩]
        rfl

/-- A document is a value between blanks. -/
lemma document_reads {α : Type} {r : Reader α} {V : α → List Char → Prop} (h : r.ReadsValue V)
    {cs : List Char} {a : α} :
    document r cs = .ok a ↔
      ∃ before value after, cs = before ++ (value ++ after) ∧ Blanks before ∧ V a value ∧
        Blanks after := by
  rw [document_eq_ok]
  constructor
  · rintro ⟨after, run, blanks'⟩
    obtain ⟨_, rfl, before, value, rfl, blanks, isValue⟩ := h.accepts.sound run
    exact ⟨before, value, after, by simp, blanks, isValue, blanks'⟩
  · rintro ⟨before, value, after, rfl, blanks, isValue, blanks'⟩
    refine ⟨after, ?_, blanks'⟩
    rw [← List.append_assoc]
    exact h.accepts.complete (spaced_of blanks isValue) blanks'.numeralEnds

/-- **The reader accepts exactly the texts of layouts.**  A document is read if and only if it is
the text of a layout between blanks, and that layout is then what is read. -/
theorem document_eq_ok_iff (text : String) (l : Layout) :
    document Layout.read text.toList = .ok l ↔
      ∃ before value after, text.toList = before ++ (value ++ after) ∧ Blanks before ∧
        LayoutText l value ∧ Blanks after :=
  document_reads Layout.read_reads

end InView
