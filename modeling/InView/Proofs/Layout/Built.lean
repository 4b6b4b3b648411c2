import InView.Proofs.Elements
import InView.Proofs.Layout.Storage

/-!
# Layouts that are spelled and layouts that are built

A layout can be built: from a viewport, with boxes put under ids one after the other.  `Parts` is
such a plan, and `Parts.Text` says which texts spell it: each record as a list or as an object,
the members of an object in any order and among others, and the boxes as members in the order in
which they are put.

`Parts.document_eq_build` says that a document is read as the layout that its parts build.  What is
found under an id is therefore the box of its last member, and it does not matter how members of
different ids are ordered.
-/

namespace InView

open Json Json.Reader

namespace Layout

/-! ## Parts -/

/-- What a layout is built of: a viewport, and boxes with the ids that they are put under. -/
structure Parts where
  viewport : Viewport
  entries : List (String × Box)

namespace Parts

/-- The layout that is built by putting the boxes under their ids, one after the other. -/
def build (p : Parts) : Layout := (ofViewport p.viewport).withElements p.entries

/-- The boxes that are put under an id, in their order. -/
def under (p : Parts) (id : String) : List Box := (p.entries.filter (·.1 = id)).map (·.2)

lemma withElements_eq (l : Layout) (entries : List (String × Box)) :
    l.withElements entries =
      ⟨l.viewport, entries.foldl (fun e entry => e.insert entry.1 entry.2) l.elements⟩ := by
  rw [withElements]
  induction entries generalizing l with
  | nil => rfl
  | cons entry entries ih => exact ih _

lemma build_eq (p : Parts) : p.build = ⟨p.viewport, .ofEntries p.entries⟩ := withElements_eq _ _

/-- The last box that is put under an id is the one that stays there. -/
lemma get?_build (p : Parts) (id : String) : p.build.get? id = (p.under id).getLast? := by
  rw [build_eq]
  exact (Elements.get?_foldl_insert p.entries .empty id).trans (Option.or_none)

/-- **The order of boxes under different ids does not matter.** -/
theorem build_congr {p q : Parts} (viewport : p.viewport = q.viewport)
    (boxes : ∀ id, p.under id = q.under id) : p.build = q.build := by
  have elements : Elements.ofEntries p.entries = .ofEntries q.entries := by
    refine Elements.ext_get? fun id => ?_
    have found (p : Parts) : (Elements.ofEntries p.entries).get? id = (p.under id).getLast? := by
      rw [← get?_build, build_eq, get?]
    rw [found, found, boxes]
  rw [build_eq, build_eq, viewport, elements]

/-- Entries with an id each may be put in any order. -/
lemma under_eq_of_perm {p q : Parts} (perm : p.entries.Perm q.entries)
    (distinct : (p.entries.map (·.1)).Nodup) (id : String) : p.under id = q.under id := by
  have differ : p.entries.Pairwise fun a b => a.1 ≠ b.1 := List.pairwise_map.mp distinct
  have differ' : q.entries.Pairwise fun a b => a.1 ≠ b.1 :=
    (perm.pairwise_iff fun ne => Ne.symm ne).mp differ
  have same : p.entries.filter (·.1 = id) = q.entries.filter (·.1 = id) := by
    refine (perm.filter _).eq_of_pairwise ?_ (differ.filter _) (differ'.filter _)
    intro a b mem mem' ne
    have ida : a.1 = id := by simpa using (List.mem_filter.mp mem).2
    have idb : b.1 = id := by simpa using (List.mem_filter.mp mem').2
    exact absurd (ida.trans idb.symm) ne
  rw [under, under, same]

/-! ## Texts of parts -/

/-- The texts of entries: objects that have the entries as members, in their order. -/
def EntriesText (entries : List (String × Box)) (t : List Char) : Prop :=
  ∃ members, ObjectText members t ∧ List.Forall₂ EntryText entries members

/-- The members of parts: the viewport exactly once, the entries exactly once or, if there are none,
not at all, and well-formed values under other keys. -/
structure OfMembers (p : Parts) (members : List Member) : Prop where
  viewport : Held ViewportText "viewport" (some p.viewport) members
  elements : Held EntriesText "elements" (some p.entries) members ∨
    p.entries = [] ∧ valuesOf "elements" members = []
  others : Others ["viewport", "elements"] members

/-- The items of parts: the viewport, and the entries unless there are none. -/
def OfItems (p : Parts) (items : List (List Char)) : Prop :=
  ∃ v rest, items = v :: rest ∧ ViewportText p.viewport v ∧
    (List.Forall₂ EntriesText [p.entries] rest ∨ p.entries = [] ∧ rest = [])

/-- The texts of parts. -/
def Text : Parts → List Char → Prop := RecordText OfItems OfMembers

/-- The documents that spell parts: a text of them, with nothing but blanks around it. -/
def SpelledBy (p : Parts) (text : String) : Prop :=
  ∃ before value after, text.toList = before ++ (value ++ after) ∧ Blanks before ∧
    p.Text value ∧ Blanks after

lemma EntriesText.elementsText {entries : List (String × Box)} {t : List Char}
    (h : EntriesText entries t) : ElementsText (.ofEntries entries) t := by
  obtain ⟨members, object, all⟩ := h
  exact ⟨members, entries, object, all, rfl⟩

/-- A text of parts is a text of the layout that they build. -/
lemma Text.layoutText {p : Parts} {t : List Char} (h : p.Text t) : LayoutText p.build t := by
  rw [build_eq]
  rcases h with ⟨items, list, v, rest, rfl, isViewport, entries⟩ | ⟨members, object, of⟩
  · refine .inl ⟨_, list, v, rest, rfl, isViewport, ?_⟩
    rcases entries with entries | ⟨none, rfl⟩
    · obtain ⟨t, behind, isEntries, ⟨⟩, rfl⟩ := List.forall₂_cons_left_iff.mp entries
      exact .inr (.cons (EntriesText.elementsText isEntries) .nil)
    · exact .inl ⟨rfl, by rw [none]; rfl⟩
  · refine .inr ⟨members, object, of.viewport, ?_, of.others⟩
    rcases of.elements with entries | ⟨none, absent⟩
    · exact ⟨_, entries.imp fun _ text => text.elementsText, rfl⟩
    · refine ⟨.none, ?_, by rw [none]; rfl⟩
      rw [Held, absent]
      exact .nil

/-- A text of a layout is a text of parts that build it. -/
lemma exists_text {l : Layout} {t : List Char} (h : LayoutText l t) :
    ∃ p : Parts, p.Text t ∧ l = p.build := by
  obtain ⟨viewport, elements⟩ := l
  simp only [build_eq]
  rcases h with ⟨_, list, v, rest, rfl, isViewport, ofRest⟩ | ⟨members, object, of⟩
  · rcases ofRest with ⟨rfl, none⟩ | all
    · exact ⟨⟨viewport, []⟩, .inl ⟨_, list, v, [], rfl, isViewport, .inr ⟨rfl, rfl⟩⟩,
        congrArg _ none⟩
    · obtain ⟨t, _, ⟨inner, entries, isObject, isEntries, made⟩, ⟨⟩, rfl⟩ :=
        List.forall₂_cons_left_iff.mp all
      exact ⟨⟨viewport, entries⟩, .inl ⟨_, list, v, [t], rfl, isViewport,
        .inl (.cons ⟨inner, isObject, isEntries⟩ .nil)⟩, congrArg _ made⟩
  · obtain ⟨elements?, held, made⟩ := of.elements
    cases elements? with
    | none =>
        have absent : valuesOf "elements" members = [] := List.forall₂_nil_left_iff.mp held
        exact ⟨⟨viewport, []⟩, .inr ⟨members, object, of.viewport, .inr ⟨rfl, absent⟩, of.others⟩,
          congrArg _ made⟩
    | some e =>
        obtain ⟨t, _, ⟨inner, entries, isObject, isEntries, rfl⟩, ⟨⟩, split⟩ :=
          List.forall₂_cons_left_iff.mp held
        refine ⟨⟨viewport, entries⟩, .inr ⟨members, object, of.viewport, .inl ?_, of.others⟩,
          congrArg _ made⟩
        rw [Held, split]
        exact .cons ⟨inner, isObject, isEntries⟩ .nil

lemma SpelledBy.document {p : Parts} {text : String} (h : p.SpelledBy text) :
    document Layout.read text.toList = .ok p.build := by
  obtain ⟨before, value, after, split, blanks, isText, blanks'⟩ := h
  exact document_reads Layout.read_reads |>.mpr
    ⟨before, value, after, split, blanks, isText.layoutText, blanks'⟩

/-- **A document is read as a layout exactly if it spells parts of which that layout is built.** -/
theorem document_eq_ok_iff_spelledBy {text : String} {l : Layout} :
    Reader.document Layout.read text.toList = .ok l ↔
      ∃ p : Parts, p.SpelledBy text ∧ l = p.build := by
  constructor
  · intro read
    obtain ⟨before, value, after, split, blanks, isText, blanks'⟩ :=
      (document_reads Layout.read_reads).mp read
    obtain ⟨p, text, rfl⟩ := exists_text isText
    exact ⟨p, ⟨before, value, after, split, blanks, text, blanks'⟩, rfl⟩
  · rintro ⟨p, spelled, rfl⟩
    exact spelled.document

end Parts

/-- A document with the entries in front of the viewport, and with a remark in front of both. -/
def Parts.remarked (p : Parts) (remark : Binary64) : Document :=
  .object [("remark", .number remark),
    ("elements", .object (p.entries.map fun entry => (entry.1, entry.2.toDocument))),
    ("viewport", p.viewport.toDocument)]

/-- Parts are spelled by a written document, if their numbers come back as they were. -/
lemma Parts.spelledBy_remarked {spacing : Spacing} (blank : spacing.IsBlank) {p : Parts}
    {remark : Binary64} (finite : remark.isFinite)
    (viewport : p.viewport.width.isFinite ∧ p.viewport.height.isFinite ∧
      p.viewport.reread = p.viewport)
    (boxes : ∀ entry ∈ p.entries, entry.2.isFinite ∧ entry.2.reread = entry.2) :
    p.SpelledBy ((p.remarked remark).render spacing) := by
  refine ⟨[], (p.remarked remark).write spacing 0, [], ?_, blanks_nil,
    .inr ⟨_, Document.objectText_write blank 0 _, ?_, .inl ?_, ?_⟩, blanks_nil⟩
  · rw [List.nil_append, List.append_nil]
    exact String.toList_ofList
  · obtain ⟨width, height, same⟩ := viewport
    have isViewport := viewportText_write blank 1 width height
    rw [same] at isViewport
    exact .cons isViewport .nil
  · refine .cons ⟨_, Document.objectText_write blank 1 _, ?_⟩ .nil
    simp only [List.map_map, List.forall₂_map_right_iff, List.forall₂_same]
    intro entry mem
    have isBox := boxText_write blank 2 (boxes entry mem).1
    rw [(boxes entry mem).2] at isBox
    exact ⟨rfl, isBox⟩
  · obtain ⟨_, ⟨numeral, isNumeral, -⟩, -⟩ := realText_numeral finite
    have ignored : ValueText ((Document.number remark).write spacing 1) := by
      rw [Document.write, isNumeral]
      exact .plain (.numeral numeral)
    simpa [Others, Document.written] using ignored

/-- **Reading a document and building its layout agree.**  However a document spells a viewport and
entries, it is read as the layout that is built of them, and loading it gives that layout or the
fault of validating it.  Of several boxes under an id the last one stays.  A document that spells
the same boxes under each id, or the same entries if no id is repeated, is read as the same layout,
whatever the order of members of different ids. -/
theorem Parts.document_eq_build (p : Parts) (text : String) (spelled : p.SpelledBy text) :
    document Layout.read text.toList = .ok p.build ∧
      ofText text = p.build.validate.map (fun _ => p.build) ∧
      (∀ id, p.build.get? id = (p.under id).getLast?) ∧
      ∀ (q : Parts) (text' : String), q.SpelledBy text' → q.viewport = p.viewport →
        ((∀ id, q.under id = p.under id) ∨
          q.entries.Perm p.entries ∧ (q.entries.map (·.1)).Nodup) →
        document Layout.read text'.toList = document Layout.read text.toList := by
  have read := spelled.document
  refine ⟨read, ofText_of_read read, p.get?_build, fun q text' spelled' viewport reordered => ?_⟩
  have boxes : ∀ id, q.under id = p.under id := by
    rcases reordered with same | ⟨perm, distinct⟩
    · exact same
    · exact under_eq_of_perm perm distinct
  rw [spelled'.document, read, build_congr viewport boxes]

/-- Two boxes under one id, written with and without blanks, and with a box under another id between
them or in front of them. -/
theorem Parts.document_eq_build_reordered :
    let low : Box := ⟨0, 0, .ofNat 1, .ofNat 1⟩
    let high : Box := ⟨.ofNat 1, 0, .ofNat 2, .ofNat 2⟩
    let p : Parts := ⟨⟨.ofNat 4, .ofNat 3⟩, [("a", low), ("b", high), ("a", high)]⟩
    let q : Parts := ⟨⟨.ofNat 4, .ofNat 3⟩, [("b", high), ("a", low), ("a", high)]⟩
    let text := (p.remarked (-.ofNat 7)).render .indented
    let text' := (q.remarked 0).render .compact
    p.SpelledBy text ∧ q.SpelledBy text' ∧ (∀ id, q.under id = p.under id) ∧
      document Layout.read text.toList = .ok p.build ∧ p.build.get? "a" = some high ∧
      document Layout.read text'.toList = document Layout.read text.toList := by
  intro low high p q text text'
  have viewport : p.viewport.width.isFinite ∧ p.viewport.height.isFinite ∧
      p.viewport.reread = p.viewport := by
    decide +kernel
  have spelled : p.SpelledBy text :=
    spelledBy_remarked Spacing.isBlank_indented (by decide +kernel) viewport (by decide +kernel)
  have spelled' : q.SpelledBy text' :=
    spelledBy_remarked Spacing.isBlank_compact rfl viewport (by decide +kernel)
  have same : ∀ id, q.under id = p.under id := by
    intro id
    by_cases first : "a" = id
    · subst first
      rfl
    · simp [under, p, q, List.filter_cons, first]
  obtain ⟨read, -, found, reordered⟩ := p.document_eq_build text spelled
  exact ⟨spelled, spelled', same, read, found "a", reordered q text' spelled' rfl (.inl same)⟩

end Layout

end InView
