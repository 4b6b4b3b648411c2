import InView.Layout.Storage
import InView.Proofs.Binary64.Order

/-!
# What validation accepts

`Layout.Valid` lists what a layout must have to be stored, and `validate_eq_ok_iff` says that
validation accepts exactly such layouts.  A layout that was loaded is one of them
(`ofText_eq_ok_iff`).
-/

namespace InView.Layout

open Json

/-- A layout that can be stored. -/
structure Valid (l : Layout) : Prop where
  width : l.viewport.width.isDimension
  height : l.viewport.height.isDimension
  ids : ∀ entry ∈ l.elements.entries, entry.1 ≠ ""
  edges : ∀ entry ∈ l.elements.entries, entry.2.isFinite

lemma elementViolation?_eq_none_iff {entry : String × Box} :
    elementViolation? entry = none ↔ entry.1 ≠ "" ∧ entry.2.isFinite := by
  rw [elementViolation?]
  by_cases empty : entry.1 = ""
  · simp [empty]
  · by_cases finite : entry.2.isFinite <;> simp [empty, finite]

/-- **Validation accepts exactly the valid layouts.** -/
theorem validate_eq_ok_iff {l : Layout} : l.validate = .ok () ↔ l.Valid := by
  have accepted : l.validate = .ok () ↔ l.violation? = none := by
    rw [validate]
    cases l.violation? <;> simp
  rw [accepted, violation?]
  by_cases width : l.viewport.width.isDimension
  · by_cases height : l.viewport.height.isDimension
    · simp only [width, height, Bool.not_true, Bool.false_eq_true, if_false,
        List.findSome?_eq_none_iff, elementViolation?_eq_none_iff]
      constructor
      · exact fun all => ⟨width, height, fun e mem => (all e mem).1, fun e mem => (all e mem).2⟩
      · exact fun valid e mem => ⟨valid.ids e mem, valid.edges e mem⟩
    · simp only [width, height, Bool.not_true, Bool.false_eq_true, Bool.not_false, if_true,
        if_false]
      exact iff_of_false nofun fun valid => height valid.height
  · simp only [width, Bool.not_false, if_true]
    exact iff_of_false nofun fun valid => width valid.width

lemma isNumber_of_isDimension {x : Binary64} (h : x.isDimension) : x.IsNumber := by
  rw [Binary64.isDimension, Bool.and_eq_true] at h
  exact Binary64.isNumber_of_isFinite h.1

/-- A layout that was read is loaded or refused as it is by validation. -/
lemma ofText_of_read {text : String} {l : Layout}
    (h : Reader.document read text.toList = .ok l) : ofText text = l.validate.map fun _ => l := by
  simp only [ofText, h]
  cases l.validate <;> rfl

/-- Loading is reading and validating. -/
lemma ofText_eq_ok_iff {text : String} {l : Layout} :
    ofText text = .ok l ↔ Reader.document Layout.read text.toList = .ok l ∧ l.Valid := by
  rw [ofText, ← validate_eq_ok_iff]
  cases Reader.document Layout.read text.toList with
  | error failure => simp [throw, throwThe, MonadExceptOf.throw]
  | ok read =>
      cases valid : read.validate with
      | error fault =>
          simp only [valid, bind, Except.bind]
          constructor
          · exact fun h => by cases h
          · rintro ⟨⟨⟩, h⟩
            rw [valid] at h
            cases h
      | ok u =>
          simp only [valid, bind, Except.bind, pure, Except.pure, Except.ok.injEq]
          constructor
          · rintro rfl
            exact ⟨rfl, valid⟩
          · exact fun h => h.1

/-- Validation does not fault the document. -/
lemma validate_ne_serialization (l : Layout) (reason : String) :
    l.validate ≠ .error (.serialization reason) := by
  rw [validate]
  cases l.violation? <;> simp

/-- The reason for which a document is at fault is the message of the failure to read it. -/
lemma ofText_eq_serialization_iff {text reason : String} :
    ofText text = .error (.serialization reason) ↔
      ∃ f, Reader.document Layout.read text.toList = .error f ∧
        f.message text.toList = reason := by
  cases outcome : Reader.document Layout.read text.toList with
  | error f => simp [ofText, outcome, throw, throwThe, MonadExceptOf.throw]
  | ok l =>
      rw [ofText_of_read outcome]
      cases invalid : l.validate with
      | ok => simp [Except.map]
      | error fault =>
          have other : fault ≠ .serialization reason := by
            rintro rfl
            exact l.validate_ne_serialization reason invalid
          simp [Except.map, other]

end InView.Layout
