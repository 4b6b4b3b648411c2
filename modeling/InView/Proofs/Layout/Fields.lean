import InView.Proofs.Json.Members
import InView.Proofs.Layout.Grammar
import InView.Proofs.Layout.Storable
import Mathlib.Data.List.Find
import Mathlib.Data.List.Induction

/-!
# Fields that are repeated or missing

The members of a record in object form may be well formed, each for itself, and still be refused
together.  A field that is set again is refused at once, where its key is; a field that is missing
is only noticed at the end.  So a repeated field is reported even if others are missing, the first
one that is repeated in the order of the text, and of the missing ones the first in the order of the
fields.

A record collects its fields in a draft.  `CollectsFields` says what its reader does with a draft,
and the two ways to be refused follow from that for every record alike
(`CollectsFields.run_repeated`, `CollectsFields.run_missing`).
-/

namespace InView

open Json Json.Reader

/-! ## Fields among members -/

/-- The keys of members, in the order of the text. -/
def keysOf (members : List Member) : List String := members.map (·.key)

/-- Every field is the key of one member at most. -/
def SetsOnce (fields : List String) (members : List Member) : Prop :=
  ∀ name ∈ fields, (keysOf members).count name ≤ 1

instance (fields : List String) (members : List Member) : Decidable (SetsOnce fields members) :=
  inferInstanceAs (Decidable (∀ name ∈ fields, (keysOf members).count name ≤ 1))

lemma length_valuesOf (name : String) (members : List Member) :
    (valuesOf name members).length = (keysOf members).count name := by
  induction members with
  | nil => rfl
  | cons m members ih =>
      rw [valuesOf_cons, keysOf, List.map_cons, List.count_cons]
      by_cases same : m.key = name
      · simp [same, ih, keysOf]
      · simp [same, ih, keysOf]

lemma keysOf_append (front behind : List Member) :
    keysOf (front ++ behind) = keysOf front ++ keysOf behind := List.map_append

/-- Where a field is repeated, there is a first member that repeats one. -/
lemma exists_repeated {fields : List String} {members : List Member}
    (h : ¬SetsOnce fields members) :
    ∃ front m behind, members = front ++ m :: behind ∧ m.key ∈ fields ∧ m.key ∈ keysOf front ∧
      SetsOnce fields front := by
  induction members using List.reverseRecOn with
  | nil => exact absurd (fun _ _ => by simp [keysOf]) h
  | append_singleton front m ih =>
      by_cases once : SetsOnce fields front
      · refine ⟨front, m, [], rfl, ?_, ?_, once⟩
        · by_contra other
          refine h fun name mem => ?_
          have differs : m.key ≠ name := fun same => other (same ▸ mem)
          simpa [keysOf_append, keysOf, List.count_cons, differs] using once name mem
        · by_contra absent
          refine h fun name mem => ?_
          by_cases same : m.key = name
          · subst same
            rw [keysOf_append, List.count_append, List.count_eq_zero.mpr absent]
            simp [keysOf]
          · simpa [keysOf_append, keysOf, List.count_cons, same] using once name mem
      · obtain ⟨front', m', behind, split, isField, repeats, once'⟩ := ih once
        exact ⟨front', m', behind ++ [m], by simp [split], isField, repeats, once'⟩

/-- A member that is well formed for itself: the value of a field is readable as such, and that of
any other key is some value. -/
def WellFormed (FieldText : String → List Char → Prop) (fields : List String) (m : Member) : Prop :=
  if m.key ∈ fields then FieldText m.key m.value else ValueText m.value

section

variable {FieldText : String → List Char → Prop} {fields : List String} {members : List Member}

lemma WellFormed.others (h : ∀ m ∈ members, WellFormed FieldText fields m) :
    Others fields members := fun m mem noField => by
  simpa [WellFormed, noField] using h m mem

/-- What well-formed members hold under the key of a field that none of them repeats. -/
lemma WellFormed.exists_held {α : Type} {V : α → List Char → Prop} (name : String)
    (h : ∀ m ∈ members, WellFormed FieldText fields m) (once : SetsOnce fields members)
    (isField : name ∈ fields) (readable : ∀ t, FieldText name t → ∃ a, V a t) :
    ∃ held : Option α, Held V name held members ∧ (held.isSome ↔ name ∈ keysOf members) := by
  have atMost := once name isField
  rw [← length_valuesOf] at atMost
  have occurs : name ∈ keysOf members ↔ valuesOf name members ≠ [] := by
    rw [← List.count_pos_iff, ← length_valuesOf, List.length_pos_iff]
  cases values : valuesOf name members with
  | nil => exact ⟨none, by simp [Held, values], by simp [occurs, values]⟩
  | cons t rest =>
      rw [values, List.length_cons] at atMost
      obtain rfl : rest = [] := List.eq_nil_of_length_eq_zero (by omega)
      have mem : t ∈ valuesOf name members := by simp [values]
      obtain ⟨m, filtered, rfl⟩ := List.mem_map.mp mem
      obtain ⟨isMember, isName⟩ := List.mem_filter.mp filtered
      obtain rfl : m.key = name := by simpa using isName
      obtain ⟨a, value⟩ := readable m.value (by simpa [WellFormed, isField] using h m isMember)
      exact ⟨some a, by simpa [Held, values] using value, by simp [occurs, values]⟩

end

/-! ## Drafts -/

lemma run_readField_repeated {α : Type} (name : String) {held : Option α} (set : held.isSome)
    (value : Reader α) {b : List Char} (blanks : Blanks b) (left : List Char) :
    (readField name held value).run (b ++ ':' :: left) =
      .error (.here (.duplicateField name) (':' :: left)) := by
  have noBrace : (takeIf (· = '}')).run (':' :: left) = .ok (false, ':' :: left) :=
    run_takeIf_of_not (by simp)
  rw [readField, if_pos set, refuseObject, run_bind_ok (run_blanks _),
    dropWhile_token blanks (by decide), run_bind_ok noBrace, run_failHere]

/-- How the object form of a record is read.  `member` reads what follows a key and `finish` makes a
value of the draft at the end; `has` tells which fields are in a draft. -/
structure CollectsFields {σ α : Type} (object : Reader α) (member : σ → String → Reader σ)
    (Takes : σ → Member → σ → Prop) (start : σ) (finish : σ → Reader α)
    (has : σ → String → Bool) (fields required : List String)
    (FieldText : String → List Char → Prop) (OfMembers : α → List Member → Prop) : Prop where
  /-- The object form is the members and the end. -/
  object_eq : object = readMembers member start >>= finish
  /-- A member does to a draft what the relation says. -/
  takes : TakesMembers member Takes
  /-- Well-formed members that repeat no field make a draft of their fields. -/
  fills {members} : SetsOnce fields members → (∀ m ∈ members, WellFormed FieldText fields m) →
    ∃ d, Makes Takes start members d ∧ ∀ name ∈ fields, has d name ↔ name ∈ keysOf members
  /-- A field that is in the draft is refused in front of the colon. -/
  repeated {d name b} : has d name → Blanks b → ∀ left,
    (member d name).run (b ++ ':' :: left) = .error (.here (.duplicateField name) (':' :: left))
  /-- The first field that is not in the draft is missed at the end. -/
  missing {d name} : required.find? (!has d ·) = some name → ∀ rest,
    (finish d).run rest = .error (.here (.missingField name) rest)
  /-- A draft of all fields that are required is the draft of a value. -/
  complete {d members} : Makes Takes start members d → (∀ name ∈ required, has d name) →
    ∃ a, OfMembers a members
  /-- What is required is a field. -/
  required_subset : required ⊆ fields

namespace CollectsFields

variable {σ α : Type} {object : Reader α} {member : σ → String → Reader σ}
  {Takes : σ → Member → σ → Prop} {start : σ} {finish : σ → Reader α} {has : σ → String → Bool}
  {fields required : List String} {FieldText : String → List Char → Prop}
  {OfMembers : α → List Member → Prop}

/-- **A field that is repeated is refused behind its key**, whatever follows. -/
theorem run_repeated
    (h : CollectsFields object member Takes start finish has fields required FieldText OfMembers)
    {front : List Member} {key : String} (once : SetsOnce fields front)
    (wellFormed : ∀ m ∈ front, WellFormed FieldText fields m) (isField : key ∈ fields)
    (repeats : key ∈ keysOf front) {passed : List Char} (upTo : UpToKey front key ('{' :: passed))
    (left : List Char) :
    object.run (passed ++ ':' :: left) = .error (.here (.duplicateField key) (':' :: left)) := by
  obtain ⟨d, makes, holds⟩ := h.fills once wellFormed
  have nonempty : front ≠ [] := by
    rintro rfl
    simp [keysOf] at repeats
  have set := (holds key isField).mpr repeats
  rw [h.object_eq, run_bind, run_readMembers_failing h.takes makes nonempty
    (fun b blanks => h.repeated set blanks left) upTo]

/-- **A field that is missing is refused behind the closing brace**, the first one of those that are
required. -/
theorem run_missing
    (h : CollectsFields object member Takes start finish has fields required FieldText OfMembers)
    {members : List Member} (once : SetsOnce fields members)
    (wellFormed : ∀ m ∈ members, WellFormed FieldText fields m) {name : String}
    (absent : required.find? (· ∉ keysOf members) = some name) {t : List Char}
    (isObject : ObjectText members ('{' :: t)) (rest : List Char) :
    object.run (t ++ rest) = .error (.here (.missingField name) rest) := by
  obtain ⟨d, makes, holds⟩ := h.fills once wellFormed
  obtain ⟨items, behind, all, isItems, eq⟩ := isObject
  obtain rfl := (List.cons.inj eq).2
  have run : (readMembers member start).run (t ++ rest) = .ok (d, rest) :=
    (readMembers_accepts h.takes start).complete ⟨members, items, all, isItems, makes⟩ trivial
  have same : required.find? (!has d ·) = required.find? (· ∉ keysOf members) := by
    refine List.find?_congr fun other mem => ?_
    rw [Bool.eq_iff_iff]
    simp [← holds other (h.required_subset mem)]
  rw [h.object_eq, run_bind_ok run, h.missing (same.trans absent)]

/-- Well-formed members that repeat no field and miss none are those of a value. -/
lemma exists_ofMembers
    (h : CollectsFields object member Takes start finish has fields required FieldText OfMembers)
    {members : List Member} (once : SetsOnce fields members)
    (wellFormed : ∀ m ∈ members, WellFormed FieldText fields m)
    (present : required ⊆ keysOf members) : ∃ a, OfMembers a members := by
  obtain ⟨d, makes, holds⟩ := h.fills once wellFormed
  exact h.complete makes fun name mem => (holds name (h.required_subset mem)).mpr (present mem)

end CollectsFields

/-! ## Records -/

/-- Which edges are in a draft. -/
def Box.Draft.has (d : Box.Draft) : String → Bool
  | "top" => d.top.isSome
  | "left" => d.left.isSome
  | "right" => d.right.isSome
  | "bottom" => d.bottom.isSome
  | _ => false

/-- Makes a box of a draft. -/
def Box.Draft.finish (d : Box.Draft) : Reader Box := do
  let top ← requireField "top" d.top
  let left ← requireField "left" d.left
  let right ← requireField "right" d.right
  let bottom ← requireField "bottom" d.bottom
  return ⟨top, left, right, bottom⟩

/-- Which dimensions are in a draft. -/
def Viewport.Draft.has (d : Viewport.Draft) : String → Bool
  | "width" => d.width.isSome
  | "height" => d.height.isSome
  | _ => false

/-- Makes a viewport of a draft. -/
def Viewport.Draft.finish (d : Viewport.Draft) : Reader Viewport := do
  let width ← requireField "width" d.width
  let height ← requireField "height" d.height
  return ⟨width, height⟩

/-- Which fields of a layout are in a draft. -/
def Layout.Draft.has (d : Layout.Draft) : String → Bool
  | "viewport" => d.viewport.isSome
  | "elements" => d.elements.isSome
  | _ => false

/-- Makes a layout of a draft. -/
def Layout.Draft.finish (d : Layout.Draft) : Reader Layout := do
  let viewport ← requireField "viewport" d.viewport
  return ⟨viewport, d.elements.getD .empty⟩

/-- The texts of numbers, under any key. -/
def NumberField (_ : String) (t : List Char) : Prop := ∃ x, RealText x t

/-- The texts of viewports and of elements, each under its key. -/
def LayoutField (name : String) (t : List Char) : Prop :=
  if name = "viewport" then ∃ v, ViewportText v t else ∃ e, ElementsText e t

lemma Box.collectsFields : CollectsFields Box.readObject Box.readMember Box.Takes
    ⟨none, none, none, none⟩ Box.Draft.finish Box.Draft.has ["top", "left", "right", "bottom"]
    ["top", "left", "right", "bottom"] NumberField Box.OfMembers where
  object_eq := rfl
  takes := Box.takesMembers
  fills := by
    intro members once wellFormed
    obtain ⟨top, isTop, hasTop⟩ := WellFormed.exists_held "top" wellFormed once
      (by simp) fun _ => id
    obtain ⟨left, isLeft, hasLeft⟩ := WellFormed.exists_held "left" wellFormed once
      (by simp) fun _ => id
    obtain ⟨right, isRight, hasRight⟩ := WellFormed.exists_held "right" wellFormed once
      (by simp) fun _ => id
    obtain ⟨bottom, isBottom, hasBottom⟩ := WellFormed.exists_held "bottom" wellFormed
      once (by simp) fun _ => id
    refine ⟨⟨top, left, right, bottom⟩, ?_, by simp [Draft.has, *]⟩
    simp only [Box.makes_iff, completes_none]
    exact ⟨isTop, isLeft, isRight, isBottom, WellFormed.others wellFormed⟩
  repeated := by
    intro d name b set blanks left
    unfold Draft.has at set
    split at set
    case h_5 => cases set
    all_goals
      rw [Box.readMember, run_bind, run_readField_repeated _ set _ blanks]
  missing := by
    rintro ⟨_ | top, _ | left, _ | right, _ | bottom⟩ name absent rest
    all_goals simp only [List.find?_cons, List.find?_nil, Draft.has, Option.isSome_none,
      Option.isSome_some, Bool.not_false, Bool.not_true, Option.some.injEq, reduceCtorEq] at absent
    all_goals
      subst absent
      rfl
  complete := by
    rintro ⟨top, left, right, bottom⟩ members makes has
    simp only [List.forall_mem_cons, Draft.has, Option.isSome_iff_exists] at has
    obtain ⟨⟨top, rfl⟩, ⟨left, rfl⟩, ⟨right, rfl⟩, ⟨bottom, rfl⟩, -⟩ := has
    simp only [Box.makes_iff, completes_none] at makes
    obtain ⟨tops, lefts, rights, bottoms, others⟩ := makes
    exact ⟨⟨top, left, right, bottom⟩, tops, lefts, rights, bottoms, others⟩
  required_subset := List.Subset.refl _

lemma Viewport.collectsFields : CollectsFields Viewport.readObject Viewport.readMember
    Viewport.Takes ⟨none, none⟩ Viewport.Draft.finish Viewport.Draft.has ["width", "height"]
    ["width", "height"] NumberField Viewport.OfMembers where
  object_eq := rfl
  takes := Viewport.takesMembers
  fills := by
    intro members once wellFormed
    obtain ⟨width, isWidth, hasWidth⟩ := WellFormed.exists_held "width" wellFormed once
      (by simp) fun _ => id
    obtain ⟨height, isHeight, hasHeight⟩ := WellFormed.exists_held "height" wellFormed
      once (by simp) fun _ => id
    refine ⟨⟨width, height⟩, ?_, by simp [Draft.has, *]⟩
    simp only [Viewport.makes_iff, completes_none]
    exact ⟨isWidth, isHeight, WellFormed.others wellFormed⟩
  repeated := by
    intro d name b set blanks left
    unfold Draft.has at set
    split at set
    case h_3 => cases set
    all_goals
      rw [Viewport.readMember, run_bind, run_readField_repeated _ set _ blanks]
  missing := by
    rintro ⟨_ | width, _ | height⟩ name absent rest
    all_goals simp only [List.find?_cons, List.find?_nil, Draft.has, Option.isSome_none,
      Option.isSome_some, Bool.not_false, Bool.not_true, Option.some.injEq, reduceCtorEq] at absent
    all_goals
      subst absent
      rfl
  complete := by
    rintro ⟨width, height⟩ members makes has
    simp only [List.forall_mem_cons, Draft.has, Option.isSome_iff_exists] at has
    obtain ⟨⟨width, rfl⟩, ⟨height, rfl⟩, -⟩ := has
    simp only [Viewport.makes_iff, completes_none] at makes
    obtain ⟨widths, heights, others⟩ := makes
    exact ⟨⟨width, height⟩, widths, heights, others⟩
  required_subset := List.Subset.refl _

lemma Layout.collectsFields : CollectsFields Layout.readObject Layout.readMember Layout.Takes
    ⟨none, none⟩ Layout.Draft.finish Layout.Draft.has ["viewport", "elements"] ["viewport"]
    LayoutField Layout.OfMembers where
  object_eq := rfl
  takes := Layout.takesMembers
  fills := by
    intro members once wellFormed
    obtain ⟨viewport, isViewport, hasViewport⟩ := WellFormed.exists_held
      (V := ViewportText) "viewport" wellFormed once (by simp) fun t => by simp [LayoutField]
    obtain ⟨elements, isElements, hasElements⟩ := WellFormed.exists_held
      (V := ElementsText) "elements" wellFormed once (by simp) fun t => by simp [LayoutField]
    refine ⟨⟨viewport, elements⟩, ?_, by simp [Draft.has, *]⟩
    simp only [Layout.makes_iff, completes_none]
    exact ⟨isViewport, isElements, WellFormed.others wellFormed⟩
  repeated := by
    intro d name b set blanks left
    unfold Draft.has at set
    split at set
    case h_3 => cases set
    all_goals
      rw [Layout.readMember, run_bind, run_readField_repeated _ set _ blanks]
  missing := by
    rintro ⟨_ | viewport, elements⟩ name absent rest
    all_goals simp only [List.find?_cons, List.find?_nil, Draft.has, Option.isSome_none,
      Option.isSome_some, Bool.not_false, Bool.not_true, Option.some.injEq, reduceCtorEq] at absent
    subst absent
    rfl
  complete := by
    rintro ⟨viewport, elements⟩ members makes has
    simp only [List.forall_mem_cons, Draft.has, Option.isSome_iff_exists] at has
    obtain ⟨⟨viewport, rfl⟩, -⟩ := has
    simp only [Layout.makes_iff, completes_none] at makes
    obtain ⟨viewports, maps, others⟩ := makes
    exact ⟨⟨viewport, elements.getD .empty⟩, viewports, ⟨elements, maps, rfl⟩, others⟩
  required_subset := by simp

/-! ## Documents -/

/-- A text is refused as a document, for a cause and behind a part of it. -/
def RefusedBehind {α : Type} (r : Reader α) (text : String) (cause : Cause)
    (passed : List Char) : Prop :=
  ∃ f, document r text.toList = .error f ∧ f.cause = cause ∧
    f.position text.toList = .after (bytes passed)

/-- A text is refused for one cause only. -/
lemma RefusedBehind.cause_eq {α : Type} {r : Reader α} {text : String} {cause : Cause}
    {passed : List Char} (h : RefusedBehind r text cause passed) {f : Failure}
    (refused : document r text.toList = .error f) : f.cause = cause := by
  obtain ⟨f', refused', rfl, -⟩ := h
  rw [refused] at refused'
  exact congrArg Failure.cause (Except.error.inj refused')

lemma refusedBehind_of_error {α : Type} {r : Reader α} {text : String} {cause : Cause}
    {passed : List Char} (left : List Char) (split : text.toList = passed ++ left)
    (failed : r.run text.toList = .error (.here cause left)) :
    RefusedBehind r text cause passed := by
  refine ⟨_, Layout.document_of_error failed, rfl, ?_⟩
  rw [split]
  exact position_of_left rfl

/-- Behind blanks and a brace, a record is read in its object form. -/
lemma run_readRecord_object {α : Type} (kind : String) (ofList ofObject : Reader α)
    {before : List Char} (blanks : Blanks before) (t : List Char) :
    (readRecord kind ofList ofObject).run (before ++ '{' :: t) = ofObject.run t := by
  rw [readRecord, run_peekToken_bind, dropWhile_token blanks (by decide)]
  rfl

namespace CollectsFields

variable {σ α : Type} {member : σ → String → Reader σ} {Takes : σ → Member → σ → Prop} {start : σ}
  {finish : σ → Reader α} {has : σ → String → Bool} {fields required : List String}
  {FieldText : String → List Char → Prop} {OfMembers : α → List Member → Prop} {kind : String}
  {ofList ofObject r : Reader α} {text : String} {before object after : List Char}
  {members : List Member}

lemma refused_repeated
    (h : CollectsFields ofObject member Takes start finish has fields required FieldText OfMembers)
    (isRecord : r = readRecord kind ofList ofObject)
    (split : text.toList = before ++ (object ++ after)) (blanks : Blanks before)
    (isObject : ObjectText members object)
    (wellFormed : ∀ m ∈ members, WellFormed FieldText fields m) (twice : ¬SetsOnce fields members) :
    ∃ front m behind passed left, members = front ++ m :: behind ∧ m.key ∈ fields ∧
      m.key ∈ keysOf front ∧ SetsOnce fields front ∧ object = passed ++ ':' :: left ∧
      UpToKey front m.key passed ∧
      RefusedBehind r text (.duplicateField m.key) (before ++ passed) := by
  obtain ⟨front, m, behind, rfl, isField, repeats, once⟩ := exists_repeated twice
  obtain ⟨passed, left, upTo, rfl⟩ := isObject.upToKey
  refine ⟨front, m, behind, passed, left, rfl, isField, repeats, once, rfl, upTo, ?_⟩
  obtain ⟨_, _, _, _, _, -, -, -, -, -, brace⟩ := id upTo
  subst brace
  refine refusedBehind_of_error (':' :: (left ++ after)) (by simp [split]) ?_
  have failed := h.run_repeated once
    (fun m' mem => wellFormed m' (List.mem_append_left _ mem)) isField repeats upTo (left ++ after)
  rw [split, isRecord]
  simpa using (run_readRecord_object kind ofList ofObject blanks _).trans failed

lemma refused_missing
    (h : CollectsFields ofObject member Takes start finish has fields required FieldText OfMembers)
    (isRecord : r = readRecord kind ofList ofObject)
    (split : text.toList = before ++ (object ++ after)) (blanks : Blanks before)
    (isObject : ObjectText members object)
    (wellFormed : ∀ m ∈ members, WellFormed FieldText fields m) (once : SetsOnce fields members)
    {name : String} (absent : required.find? (· ∉ keysOf members) = some name) :
    RefusedBehind r text (.missingField name) (before ++ object) := by
  refine refusedBehind_of_error after (by simp [split]) ?_
  obtain ⟨_, behind, -, -, rfl⟩ := id isObject
  rw [split, isRecord]
  exact (run_readRecord_object kind ofList ofObject blanks _).trans
    (h.run_missing once wellFormed absent isObject after)

lemma document_read
    (h : CollectsFields ofObject member Takes start finish has fields required FieldText OfMembers)
    {OfList : α → List (List Char) → Prop}
    (reads : r.ReadsValue (RecordText OfList OfMembers))
    (split : text.toList = before ++ (object ++ after)) (blanks : Blanks before)
    (blanks' : Blanks after) (isObject : ObjectText members object)
    (wellFormed : ∀ m ∈ members, WellFormed FieldText fields m) (once : SetsOnce fields members)
    (present : required ⊆ keysOf members) :
    ∃ a, document r text.toList = .ok a ∧ OfMembers a members := by
  obtain ⟨a, ofMembers⟩ := h.exists_ofMembers once wellFormed present
  exact ⟨a, (document_reads reads).mpr
    ⟨before, object, after, split, blanks, .inr ⟨members, isObject, ofMembers⟩, blanks'⟩, ofMembers⟩

end CollectsFields

/-- The records that have fields. -/
inductive RecordKind where
  | box
  | viewport
  | layout

namespace RecordKind

/-- The values of a record. -/
def Value : RecordKind → Type
  | box => Box
  | viewport => Viewport
  | layout => Layout

/-- Reads a record. -/
def read : (kind : RecordKind) → Reader kind.Value
  | box => Box.read
  | viewport => Viewport.read
  | layout => Layout.read

/-- The fields of a record, in their order. -/
def fields : RecordKind → List String
  | box => ["top", "left", "right", "bottom"]
  | viewport => ["width", "height"]
  | layout => ["viewport", "elements"]

/-- The fields that must not be missing, in their order. -/
def required : RecordKind → List String
  | box => ["top", "left", "right", "bottom"]
  | viewport => ["width", "height"]
  | layout => ["viewport"]

/-- The texts that are readable as a field. -/
def FieldText : RecordKind → String → List Char → Prop
  | box => NumberField
  | viewport => NumberField
  | layout => LayoutField

/-- A value has the members of an object as its fields. -/
def OfMembers : (kind : RecordKind) → kind.Value → List Member → Prop
  | box => Box.OfMembers
  | viewport => Viewport.OfMembers
  | layout => Layout.OfMembers

/-- Every record collects its fields. -/
lemma collectsFields (kind : RecordKind) :
    ∃ (σ : Type) (member : σ → String → Reader σ) (Takes : σ → Member → σ → Prop) (start : σ)
      (finish : σ → Reader kind.Value) (has : σ → String → Bool) (name : String)
      (ofList ofObject : Reader kind.Value) (OfList : kind.Value → List (List Char) → Prop),
      CollectsFields ofObject member Takes start finish has kind.fields kind.required
        kind.FieldText kind.OfMembers ∧
      kind.read = readRecord name ofList ofObject ∧
      kind.read.ReadsValue (RecordText OfList kind.OfMembers) := by
  cases kind with
  | box => exact ⟨_, _, _, _, _, _, _, _, _, _, Box.collectsFields, rfl, Box.read_reads⟩
  | viewport =>
      exact ⟨_, _, _, _, _, _, _, _, _, _, Viewport.collectsFields, rfl, Viewport.read_reads⟩
  | layout => exact ⟨_, _, _, _, _, _, _, _, _, _, Layout.collectsFields, rfl, Layout.read_reads⟩

lemma elements_not_required (kind : RecordKind) : "elements" ∉ kind.required := by
  cases kind <;> simp [required]

/-- **Which field is reported.**  The members of an object are well formed, each for itself, in any
order and any number.

* If a field is repeated, the first member that repeats one is refused, in front of its colon, no
  matter what else is wrong.
* Otherwise, if a field that is required is missing, the first one in the order of the fields is
  reported, behind the closing brace.
* Otherwise the record is read, and each field has the value of its own member.

The elements of a layout are never reported as missing. -/
theorem document_object (kind : RecordKind) (text : String) {before object after : List Char}
    {members : List Member} (split : text.toList = before ++ (object ++ after))
    (blanks : Blanks before) (blanks' : Blanks after) (isObject : ObjectText members object)
    (wellFormed : ∀ m ∈ members, WellFormed kind.FieldText kind.fields m) :
    (¬SetsOnce kind.fields members →
      ∃ front m behind passed left, members = front ++ m :: behind ∧ m.key ∈ kind.fields ∧
        m.key ∈ keysOf front ∧ SetsOnce kind.fields front ∧ object = passed ++ ':' :: left ∧
        UpToKey front m.key passed ∧
        RefusedBehind kind.read text (.duplicateField m.key) (before ++ passed)) ∧
    (SetsOnce kind.fields members → ∀ name, kind.required.find? (· ∉ keysOf members) = some name →
      RefusedBehind kind.read text (.missingField name) (before ++ object)) ∧
    (SetsOnce kind.fields members → kind.required ⊆ keysOf members →
      ∃ a, document kind.read text.toList = .ok a ∧ kind.OfMembers a members) ∧
    ∀ f, document kind.read text.toList = .error f → f.cause ≠ .missingField "elements" := by
  obtain ⟨σ, member, Takes, start, finish, has, name, ofList, ofObject, OfList, h, isRecord,
    reads⟩ := kind.collectsFields
  have repeated := h.refused_repeated isRecord split blanks isObject wellFormed
  have missing (once : SetsOnce kind.fields members) (name : String)
      (absent : kind.required.find? (· ∉ keysOf members) = some name) :=
    h.refused_missing isRecord split blanks isObject wellFormed once absent
  have read := h.document_read reads split blanks blanks' isObject wellFormed
  refine ⟨repeated, missing, read, fun f refused => ?_⟩
  by_cases once : SetsOnce kind.fields members
  · cases absent : kind.required.find? (· ∉ keysOf members) with
    | some name =>
        have isRequired : name ∈ kind.required := List.mem_of_find?_eq_some absent
        rw [(missing once name absent).cause_eq refused]
        rintro ⟨rfl⟩
        exact kind.elements_not_required isRequired
    | none =>
        have present : kind.required ⊆ keysOf members := fun name mem => by
          simpa using List.find?_eq_none.mp absent name mem
        obtain ⟨a, isRead, -⟩ := read once present
        cases isRead.symm.trans refused
  · obtain ⟨_, m, _, _, _, -, -, -, -, -, -, refused'⟩ := repeated once
    rw [refused'.cause_eq refused]
    exact nofun

/-- A box that sets one edge twice, once with an escaped letter and a blank behind the key, and has
none of the others; and one that has two of its edges in reverse order. -/
theorem document_object_edges :
    let twice := "\x7b\"top\":1,\"\\u0074op\" :2\x7d"
    let reversed := "\x7b\"right\":1,\"top\":2\x7d"
    (∃ f, document box.read twice.toList = .error f ∧
      f.message twice.toList = "duplicate field `top` at line 1 column 20") ∧
    ∃ f, document box.read reversed.toList = .error f ∧
      f.message reversed.toList = "missing field `left` at line 1 column 19" := by
  intro twice reversed
  have literal {key : String} {t : List Char} (run : readKey.run t = .ok (key, [])) :
      LiteralText key t := by
    obtain ⟨_, rfl, isLiteral⟩ := readKey_accepts.sound run
    simpa using isLiteral
  have number {n : Number} {t : List Char} (run : readNumber.run t = .ok (n, [])) (key : String) :
      NumberField key t := by
    obtain ⟨_, rfl, isNumber⟩ := readNumber_accepts.sound run
    exact ⟨_, n, by simpa using isNumber, rfl⟩
  have object (key : String) (t : List Char) (key' : String) (t' b : List Char) (d d' : Char)
      (run : readKey.run t = .ok (key, [])) (run' : readKey.run t' = .ok (key', []))
      (blanks : Blanks b) : ObjectText [⟨key, [d]⟩, ⟨key', [d']⟩]
        ('{' :: ([','].intercalate [t ++ [':', d], t' ++ (b ++ [':', d'])] ++ ['}'])) := by
    have member : MemberText ⟨key, [d]⟩ (t ++ [':', d]) :=
      ⟨t, [], [], literal run, blanks_nil, blanks_nil, rfl⟩
    have member' : MemberText ⟨key', [d']⟩ (t' ++ (b ++ [':', d'])) :=
      ⟨t', b, [], literal run', blanks, blanks_nil, rfl⟩
    exact ⟨_, _, .cons member (.cons member' .nil), itemsText_intercalate '}' _, rfl⟩
  have one := number (t := ['1']) (n := .natural 1) (by decide +kernel)
  have two := number (t := ['2']) (n := .natural 2) (by decide +kernel)
  constructor
  · have isObject := object "top" "\"top\"".toList "top" "\"\\u0074op\"".toList [' '] '1' '2'
      (by decide +kernel) (by decide +kernel) (by decide)
    obtain ⟨_, _, _, _, _, -, -, -, -, -, -, f, refused, -⟩ :=
      (@document_object box twice [] _ [] _ (by decide +kernel) blanks_nil blanks_nil isObject
        (by simp [WellFormed, FieldText, fields, one, two])).1 (by decide)
    have fault : (document Box.read twice.toList).map (fun _ => ()) =
        .error ⟨.duplicateField "top", 3⟩ := by
      decide +kernel
    change document Box.read twice.toList = .error f at refused
    obtain rfl : f = ⟨.duplicateField "top", 3⟩ := by simpa [refused, Except.map] using fault
    exact ⟨_, refused, by decide +kernel⟩
  · have isObject := object "right" "\"right\"".toList "top" "\"top\"".toList [] '1' '2'
      (by decide +kernel) (by decide +kernel) (by decide)
    obtain ⟨f, refused, cause, position⟩ :=
      (@document_object box reversed [] _ [] _ (by decide +kernel) blanks_nil blanks_nil isObject
        (by simp [WellFormed, FieldText, fields, one, two])).2.1 (by decide)
        "left" (by decide)
    refine ⟨f, refused, ?_⟩
    rw [Failure.message, position, cause]
    decide +kernel

end RecordKind

end InView
