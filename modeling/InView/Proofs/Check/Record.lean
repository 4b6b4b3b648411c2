import InView.Proofs.Check.Survey
import Mathlib.Data.List.Basic

/-!
# The record of a check

A check of many elements keeps nothing from one of them to the next.  It is the checks of the
single elements one after the other (`Check.oneByOne`), so each element is judged by what the host
replies at its turn, and the first read that fails is the last.

What comes of the readings comes in two lists, the elements that are found visible and the events
of those that are not.  `visible_reads_in_order` accounts for the first and for the reads,
`visible_events` for the second; together the lists have one entry for each reading.
-/

namespace InView

variable {σ ε α : Type}

/-! ## One element after the other -/

/-- The fault that a run ended with, if it did. -/
def Run.fault? (run : Run σ ε α) : Option Fault :=
  match run.result with
  | .error fault => some fault
  | .ok _ => none

namespace Check

/-- The runs of a check of each element, every one from the state that the one before it left, up to
the first that fails. -/
def runs (check : ε → Check σ ε α) : List ε → σ → List (Run σ ε α)
  | [], _ => []
  | element :: rest, s =>
    let first := (check element).run s
    match first.result with
    | .error _ => [first]
    | .ok _ => first :: runs check rest first.state

/-- What comes of checking elements one after the other: those found visible, or the fault of the
last run, with the records of all the runs. -/
def oneByOne (host : Host σ ε) (elements : List ε) (s : σ) : Run σ ε (List ε) :=
  let all := runs (isVisible host) elements s
  { result :=
      match all.findSome? Run.fault? with
      | none => .ok (((elements.zip all).filter fun e => e.2.result.toOption = some true).map (·.1))
      | some fault => .error fault
    state := (all.map (·.state)).getLastD s
    queries := all.flatMap (·.queries)
    events := all.flatMap (·.events) }

/-- **Checking many elements is checking one after the other**, up to the first that fails. -/
theorem run_visible_eq_oneByOne (host : Host σ ε) (elements : List ε) (s : σ) :
    (visible host elements).run s = oneByOne host elements s := by
  induction elements generalizing s with
  | nil => rfl
  | cons element rest ih =>
      rcases first : (isVisible host element).run s with ⟨result, s₁, queries, events⟩
      cases result with
      | error fault =>
          rw [run_visible_of_error rest first]
          simp [oneByOne, runs, first, Run.fault?]
      | ok found =>
          rw [run_visible_of_ok rest first, ih s₁]
          simp only [oneByOne, runs, first, List.findSome?_cons, Run.fault?, List.map_cons,
            List.getLastD_cons, List.flatMap_cons, List.zip_cons_cons, List.filter_cons,
            Except.toOption]
          cases (runs (isVisible host) rest s₁).findSome? Run.fault? with
          | none => cases found <;> rfl
          | some fault => rfl

/-! ## What is read and logged -/

/-- **A check of many elements reads the host anew for each of them, in order.**  It is the checks
of the single elements one after the other.  For each element the box is read and then the viewport,
each once, and the first read that fails ends the check with its fault.  If none fails, the
elements are found whose box lies in the viewport that was read behind it. -/
theorem visible_reads_in_order (host : Host σ ε) (elements : List ε) (s : σ) :
    let run := (visible host elements).run s
    let survey := host.survey elements s
    run = oneByOne host elements s ∧ run.state = survey.state ∧
      run.queries = survey.readings.flatMap (fun r => [.box r.element, .viewport]) ++
        survey.failure?.toList.flatMap FailedRead.queries ∧
      match survey.failure? with
      | none =>
        elements = survey.readings.map (·.element) ∧
          run.result = .ok ((survey.readings.filter fun r =>
            InView.classify r.box r.viewport = .visible).map (·.element))
      | some failed =>
        run.result = .error failed.fault ∧
          ∃ rest, elements = survey.readings.map (·.element) ++ failed.element :: rest := by
  intro run survey
  have accounted : run = survey.toRun := run_visible host elements s
  have inOrder := host.elements_survey elements s
  refine ⟨run_visible_eq_oneByOne host elements s, by rw [accounted]; rfl,
    by rw [accounted]; rfl, ?_⟩
  rw [accounted]
  cases failure : survey.failure? with
  | none =>
      rw [failure] at inOrder
      refine ⟨inOrder, ?_⟩
      simp only [Survey.toRun, failure]
      rfl
  | some failed =>
      rw [failure] at inOrder
      refine ⟨?_, inOrder⟩
      simp only [Survey.toRun, failure]

/-- The events of some readings are those of the elements that are not visible. -/
lemma flatMap_events (readings : List (Reading ε)) :
    readings.flatMap Reading.events =
      (readings.filter fun r => r.visibility ≠ .visible).map Reading.event := by
  induction readings with
  | nil => rfl
  | cons r readings ih =>
      rw [List.flatMap_cons, ih, List.filter_cons]
      by_cases visible : r.visibility = .visible
      · simp [Reading.events, visible]
      · simp [Reading.events, visible]

/-- **Every element that was checked is either found or logged.**  There is one event for each
reading of an element that is not visible, in order and with what was read, and none for any other.
Without a failed read each element is thus found or logged, and behind a failed read the events
of the elements before it remain. -/
theorem visible_events (host : Host σ ε) (elements : List ε) (s : σ) :
    let run := (visible host elements).run s
    let survey := host.survey elements s
    run.events = (survey.readings.filter fun r =>
        InView.classify r.box r.viewport ≠ .visible).map
          (fun r => ⟨r.box, r.viewport, InView.classify r.box r.viewport⟩) ∧
      match run.result with
      | .ok found =>
        survey.readings.map (·.element) = elements ∧
          run.events.length + found.length = elements.length
      | .error fault =>
        ∃ failed k, survey.failure? = some failed ∧ failed.fault = fault ∧
          elements[k]? = some failed.element ∧
          survey.readings.map (·.element) = elements.take k := by
  intro run survey
  have accounted : run = survey.toRun := run_visible host elements s
  have logged : run.events =
      (survey.readings.filter fun r => r.visibility ≠ .visible).map Reading.event := by
    rw [accounted, ← flatMap_events]
    rfl
  have inOrder := host.elements_survey elements s
  refine ⟨logged, ?_⟩
  rw [logged, accounted]
  cases failure : survey.failure? with
  | none =>
      rw [failure] at inOrder
      simp only [Survey.toRun, failure, List.length_map]
      refine ⟨inOrder.symm, ?_⟩
      have both := survey.readings.length_eq_length_filter_add fun r => r.visibility = .visible
      have total : elements.length = survey.readings.length := by
        rw [inOrder, List.length_map]
      simp only [← decide_not, ← ne_eq] at both
      omega
  | some failed =>
      rw [failure] at inOrder
      simp only [Survey.toRun, failure]
      obtain ⟨rest, split⟩ := inOrder
      have first : survey.readings.length = (survey.readings.map (·.element)).length := by
        rw [List.length_map]
      refine ⟨failed, survey.readings.length, rfl, rfl, ?_, ?_⟩
      · rw [split, first, List.getElem?_append_right (Nat.le_refl _), Nat.sub_self,
          List.getElem?_cons_zero]
      · rw [split, first, List.take_left]

end Check

end InView
