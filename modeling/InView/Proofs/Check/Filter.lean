import InView.Proofs.Check
import InView.Proofs.Elements

/-!
# Filtering the elements of a layout

Checking many elements of a layout filters them, since the layout is the same at every check: those
stay that the layout shows (`Layout.shows`), as often as they are asked for and in that order.
The only thing that can fail is to find an element, so the first id without a box decides about a
failure, whatever stands before and behind it (`result_visible_layout`).

The ids of a layout all have boxes.  Asking for all of them therefore never fails, and nothing
is demanded of the boxes or the viewport for it.
-/

namespace InView

/-- Whether there is a box under an id that is visible in the viewport of the layout. -/
def Layout.shows (l : Layout) (id : String) : Bool :=
  (l.get? id).any fun box => classify box l.viewport = .visible

namespace Check

/-- An element of a layout is visible if the layout shows it; one without a box is not known. -/
lemma result_isVisible_layout (l : Layout) (id : String) :
    ((isVisible Layout.host id).run l).result =
      if (l.get? id).isSome then .ok (l.shows id) else .error (.unknownElement id) := by
  rw [result_isVisible, result_classify_layout]
  cases held : l.get? id with
  | none => simp [Except.map]
  | some box => simp [Except.map, Layout.shows, held, Visibility.isVisible]

/-- **Many checks of a layout are one filter**, unless an element is not known; the first such
element is the one that is told of. -/
lemma result_visible_layout (l : Layout) (ids : List String) :
    ((visible Layout.host ids).run l).result =
      match ids.find? fun id => (l.get? id).isNone with
      | none => .ok (ids.filter l.shows)
      | some id => .error (.unknownElement id) := by
  induction ids with
  | nil => rfl
  | cons id rest ih =>
      rw [result_visible_layout_cons, result_isVisible_layout, ih]
      cases held : l.get? id with
      | none => simp [held, bind, Except.bind]
      | some box =>
          simp only [Option.isSome_some, if_true, List.find?_cons, held, Option.isNone_some]
          cases rest.find? fun id => (l.get? id).isNone with
          | some unknown => simp [bind, Except.bind]
          | none => simp [bind, Except.bind, pure, Except.pure, List.filter_cons]

variable {l : Layout} {ids : List String}

/-- Elements of a layout are filtered exactly if all of them are known. -/
lemma result_visible_layout_eq_ok_iff {found : List String} :
    ((visible Layout.host ids).run l).result = .ok found ↔
      (∀ id ∈ ids, (l.get? id).isSome) ∧ found = ids.filter l.shows := by
  have known : (ids.find? fun id => (l.get? id).isNone) = none ↔
      ∀ id ∈ ids, (l.get? id).isSome := by
    simp only [List.find?_eq_none, Option.isNone_iff_eq_none, Option.isSome_iff_ne_none, ne_eq]
  rw [result_visible_layout, ← known]
  cases ids.find? fun id => (l.get? id).isNone with
  | none => simp [eq_comm]
  | some unknown => simp

/-- Otherwise the fault is that the first one without a box is not known. -/
lemma result_visible_layout_eq_error_iff {fault : Fault} :
    ((visible Layout.host ids).run l).result = .error fault ↔
      ∃ before id after, ids = before ++ id :: after ∧ (∀ other ∈ before, (l.get? other).isSome) ∧
        l.get? id = none ∧ fault = .unknownElement id := by
  have first : ((visible Layout.host ids).run l).result = .error fault ↔
      ∃ id, (ids.find? fun id => (l.get? id).isNone) = some id ∧ fault = .unknownElement id := by
    rw [result_visible_layout]
    cases ids.find? fun id => (l.get? id).isNone with
    | none => simp
    | some id => simp [eq_comm]
  simp only [first, List.find?_eq_some_iff_append, Option.isNone_iff_eq_none, Bool.not_eq_true',
    Option.isNone_eq_false_iff]
  constructor
  · rintro ⟨id, ⟨absent, before, after, split, known⟩, isFault⟩
    exact ⟨before, id, after, split, known, absent, isFault⟩
  · rintro ⟨before, id, after, split, known, absent, isFault⟩
    exact ⟨id, ⟨absent, before, after, split, known⟩, isFault⟩

/-- **Checking elements of a layout filters them.**  It succeeds exactly if each of the elements has
a box, and finds those among them, in their order and with repeats, whose box is visible in the
viewport of the layout.  Otherwise the fault is that the first element without a box is not known,
whatever the others are.  Checking all elements that the layout has succeeds for every layout, and
no check changes the layout. -/
theorem visible_filters_layout (l : Layout) (ids : List String) :
    let run := (visible Layout.host ids).run l
    (∀ found, run.result = .ok found ↔
      (∀ id ∈ ids, (l.get? id).isSome) ∧ found = ids.filter l.shows) ∧
    (∀ fault, run.result = .error fault ↔
      ∃ before id after, ids = before ++ id :: after ∧ (∀ other ∈ before, (l.get? other).isSome) ∧
        l.get? id = none ∧ fault = .unknownElement id) ∧
    ((visible Layout.host l.ids).run l).result = .ok (l.ids.filter l.shows) ∧
    run.state = l := by
  intro run
  have listed : ∀ id ∈ l.ids, (l.get? id).isSome := by
    intro id mem
    exact (l.elements.mem_ids_iff id).mp mem
  refine ⟨?_, ?_, ?_, keeps_visible_layout ids l⟩
  · intro found
    exact result_visible_layout_eq_ok_iff
  · intro fault
    exact result_visible_layout_eq_error_iff
  · exact result_visible_layout_eq_ok_iff.mpr ⟨listed, rfl⟩

/-- A window with one box inside, one with a `nan` edge and one outside.  What is asked for twice is
found twice, and of two unknown elements the first is told of. -/
theorem visible_filters_layout_repeats :
    let inside : Box := ⟨0, 0, .ofNat 4, .ofNat 3⟩
    let blurred : Box := ⟨0, .nan, .ofNat 4, .ofNat 3⟩
    let outside : Box := ⟨0, 0, .ofNat 5, .ofNat 3⟩
    let l := (Layout.ofViewport ⟨.ofNat 4, .ofNat 3⟩).withElements
      [("in", inside), ("nan", blurred), ("out", outside)]
    ((visible Layout.host ["nan", "out", "in", "nan"]).run l).result = .ok ["nan", "in", "nan"] ∧
      ((visible Layout.host ["out", "?", "in", "!"]).run l).result =
        .error (.unknownElement "?") := by
  intro inside blurred outside l
  constructor
  · exact ((visible_filters_layout l _).1 _).mpr ⟨by decide +kernel, by decide +kernel⟩
  · exact ((visible_filters_layout l _).2.1 _).mpr
      ⟨["out"], "?", ["in", "!"], rfl, by decide +kernel, by decide +kernel, rfl⟩

end Check

end InView
