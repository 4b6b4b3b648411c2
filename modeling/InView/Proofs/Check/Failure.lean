import InView.Proofs.Check.Survey
import InView.Proofs.HostError

/-!
# Failing reads

A check that meets a failing read ends with the fault of that read, as it is.  It does not matter
which of the two reads for an element fails (`Host.ReadFails`), nor how many elements were checked
before: checking elements one list after the other is checking the joined list
(`run_visible_append`), so a failure behind some elements is a failure of the whole.

Together with `ErrorLibrary.Documented.shows_ofMessages` this follows an error of a host from where
it is made to where a check returns it.
-/

namespace InView

variable {σ ε : Type}

/-- A read for an element fails: that of its box, or that of the viewport behind its box. -/
inductive Host.ReadFails (host : Host σ ε) (element : ε) (s : σ) (fault : Fault) : Prop
  | box {s₁ : σ} (failed : host.box element s = (.error fault, s₁))
  | viewport {box : Box} {s₁ s₂ : σ} (read : host.box element s = (.ok box, s₁))
      (failed : host.viewport s₁ = (.error fault, s₂))

namespace Check

variable {host : Host σ ε} {element : ε} {s s₁ : σ} {fault : Fault} {queries : List (Query ε)}
  {events : List Event}

/-! ## A single element -/

lemma result_classify_of_readFails (h : host.ReadFails element s fault) :
    ((classify host element).run s).result = .error fault := by
  cases h with
  | box failed => exact congrArg Run.result (run_bind_error (run_readBox failed))
  | viewport read failed =>
      exact congrArg Run.result
        (run_bind_ok (run_readBox read) (run_bind_error (run_readViewport failed)))

lemma result_isVisible_of_readFails (h : host.ReadFails element s fault) :
    ((isVisible host element).run s).result = .error fault := by
  rw [result_isVisible, result_classify_of_readFails h]
  rfl

/-! ## Any number of elements -/

/-- Elements behind others are checked from the state that these leave, and found behind them. -/
lemma run_visible_append {before found : List ε} (rest : List ε)
    (first : (visible host before).run s = ⟨.ok found, s₁, queries, events⟩) :
    (visible host (before ++ rest)).run s =
      let behind := (visible host rest).run s₁
      ⟨behind.result.map fun others => found ++ others, behind.state, queries ++ behind.queries,
        events ++ behind.events⟩ := by
  induction before generalizing s found queries events with
  | nil =>
      cases first
      rw [List.nil_append]
      rcases (visible host rest).run s₁ with ⟨result, s₂, queries₂, events₂⟩
      cases result with
      | error fault => rfl
      | ok others => rfl
  | cons element before ih =>
      rcases checked : (isVisible host element).run s with ⟨result, s₂, queries₁, events₁⟩
      cases result with
      | error fault =>
          rw [run_visible_of_error before checked] at first
          cases first
      | ok isFound =>
          rw [run_visible_of_ok before checked] at first
          rcases behind : (visible host before).run s₂ with ⟨result, s₃, queries₂, events₂⟩
          rw [behind] at first
          cases result with
          | error fault => cases first
          | ok others =>
              cases first
              rw [List.cons_append, run_visible_of_ok _ checked, ih behind]
              rcases (visible host rest).run s₃ with ⟨result, s₄, queries₃, events₃⟩
              cases result with
              | error fault => simp [Except.map]
              | ok others' => cases isFound <;> simp [Except.map]

/-- A failing read behind elements that were checked fails the whole check. -/
lemma result_visible_of_readFails {before found : List ε} (after : List ε)
    (isFound : ((visible host before).run s).result = .ok found)
    (h : host.ReadFails element ((visible host before).run s).state fault) :
    ((visible host (before ++ element :: after)).run s).result = .error fault := by
  rcases checked : (visible host before).run s with ⟨result, s₁, queries₁, events₁⟩
  rcases failed : (isVisible host element).run s₁ with ⟨result', s₂, queries₂, events₂⟩
  rw [checked] at isFound h
  obtain rfl : result = .ok found := isFound
  have isError := result_isVisible_of_readFails h
  rw [failed] at isError
  obtain rfl : result' = .error fault := isError
  rw [run_visible_append _ checked, run_visible_of_error after failed]
  rfl

/-- **An error of a host arrives unharmed.**  Let an error be made of a root message and contexts,
in a library of errors that does what it is documented to do.  Then it is shown by just one host
error, which says the last context, has the messages before it as its sources, back to the root, and
the root as its root cause.  Its full text is that of the error: the message, and each source behind
a colon.  And a check that meets this fault in a read, for whichever element, ends with it. -/
theorem host_error_unharmed {κ : Type} {lib : ErrorLibrary κ} (documented : lib.Documented)
    (root : String) (contexts : List String) (host : Host σ ε) :
    let error := lib.ofMessages root contexts
    let shown := HostError.ofMessages root contexts
    let fault := Fault.host shown
    (∀ shown', lib.Shows error shown' ↔ shown' = shown) ∧
    (fault.message = lib.message error ∧
      fault.message = (root :: contexts).getLast (List.cons_ne_nil _ _)) ∧
    fault.sources = (root :: contexts).dropLast.reverse ∧
    (shown.rootCause = root ∧ lib.message (lib.rootCause error) = root) ∧
    (fault.fullMessage = lib.fullMessage error ∧
      fault.fullMessage = fault.message ++ String.join (fault.sources.map (": " ++ ·))) ∧
    ∀ element s, host.ReadFails element s fault →
      ((classify host element).run s).result = .error fault ∧
      ((isVisible host element).run s).result = .error fault ∧
      ∀ before found after s₀, ((visible host before).run s₀).result = .ok found →
        ((visible host before).run s₀).state = s →
        ((visible host (before ++ element :: after)).run s₀).result = .error fault := by
  intro error shown fault
  have isShown : lib.Shows error shown := documented.shows_ofMessages root contexts
  have made := HostError.ofMessages_eq root contexts
  have rootCause : shown.rootCause = root := HostError.rootCause_ofMessages root contexts
  refine ⟨?_, ⟨isShown.message, congrArg HostError.message made⟩, congrArg HostError.causes made,
    ⟨rootCause, ?_⟩, ⟨?_, fault.fullMessage_eq_append⟩, ?_⟩
  · intro shown'
    exact ⟨fun h => h.unique isShown, fun same => same ▸ isShown⟩
  · rw [documented.message_rootCause isShown.causes, ← isShown.message]
    exact rootCause
  · rw [documented.fullMessage_eq isShown.causes, ← isShown.message]
    rfl
  · intro element s failing
    refine ⟨result_classify_of_readFails failing, result_isVisible_of_readFails failing, ?_⟩
    rintro before found after s₀ isFound rfl
    exact result_visible_of_readFails after isFound failing

/-- A window whose display is gone when the second element is checked.  The error of the host is
told as it was made, and the third element is not asked for any more. -/
theorem host_error_unharmed_display :
    let shown : HostError :=
      .ofMessages "display disconnected" ["querying window size", "placing the window"]
    let fault := Fault.host shown
    let box : Box := ⟨0, 0, .ofNat 4, .ofNat 3⟩
    let script : Script :=
      ⟨[("a", ⟨.ok box, []⟩), ("b", ⟨.ok box, []⟩)],
        ⟨.ok ⟨.ofNat 4, .ofNat 3⟩, [.error fault]⟩⟩
    ((visible Script.host ["a", "b", "c"]).run script).result = .error fault ∧
      fault.message = "placing the window" ∧
      fault.sources = ["querying window size", "display disconnected"] ∧
      shown.rootCause = "display disconnected" ∧
      fault.fullMessage = HostError.library.fullMessage shown := by
  intro shown fault box script
  obtain ⟨-, ⟨-, message⟩, sources, ⟨rootCause, -⟩, ⟨fullMessage, -⟩, arrives⟩ :=
    host_error_unharmed HostError.documented_library "display disconnected"
      ["querying window size", "placing the window"] Script.host
  let left : Script := { script with viewports := ⟨.error fault, []⟩ }
  have read : Script.host.box "b" left = (.ok box, left) := rfl
  have failed : Script.host.viewport left = (.error fault, left) := rfl
  have isLeft : ((visible Script.host ["a"]).run script).state = left := by
    rw [run_visible]
    rfl
  refine ⟨?_, message, sources, rootCause, fullMessage⟩
  exact (arrives "b" left (.viewport read failed)).2.2 ["a"] ["a"] ["c"] script
    (by decide +kernel) isLeft

end Check

end InView
