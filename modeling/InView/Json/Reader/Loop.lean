import InView.Json.Reader.Basic

/-!
# Loops of readers

A loop repeats a step from state to state.  Its step must be `Strict`: wherever it succeeds it reads
at least one character, so the loop ends with the text at the latest.

Most steps begin by looking at the next character and then read it in one way or another;
`strict_peek` and its companions reduce the strictness of such a step to that of its branches.
-/

namespace InView.Json.Reader

variable {σ α β : Type}

/-! ## Strict readers -/

/-- A reader that reads at least one character wherever it succeeds. -/
def Strict (r : Reader α) : Prop :=
  ∀ ⦃cs a rest⦄, r.run cs = .ok (a, rest) → rest.length < cs.length

/-- A sequence is strict if its first part is. -/
theorem Strict.bind_left {r : Reader α} (h : r.Strict) (f : α → Reader β) :
    (r >>= f).Strict := by
  intro cs b rest run
  obtain ⟨a, between, first, second⟩ := run_bind_eq_ok.mp run
  exact Nat.lt_of_le_of_lt ((f a).suffix second).length_le (h first)

/-- A sequence is strict if its second part is. -/
theorem Strict.bind_right (r : Reader α) {f : α → Reader β} (h : ∀ a, (f a).Strict) :
    (r >>= f).Strict := by
  intro cs b rest run
  obtain ⟨a, between, first, second⟩ := run_bind_eq_ok.mp run
  exact Nat.lt_of_lt_of_le (h a second) (r.suffix first).length_le

theorem strict_fail (failure : List Char → Failure) : (fail failure : Reader α).Strict := by
  intro cs a rest run
  cases run

/-- A reader that reads at least one character wherever it succeeds in front of `c`. -/
def Reads (c : Char) (r : Reader α) : Prop :=
  ∀ ⦃cs a rest⦄, r.run (c :: cs) = .ok (a, rest) → rest.length ≤ cs.length

theorem Strict.reads {r : Reader α} (h : r.Strict) (c : Char) : r.Reads c :=
  fun _ _ _ run => Nat.le_of_lt_succ (h run)

theorem reads_fail (c : Char) (failure : List Char → Failure) :
    (fail failure : Reader α).Reads c :=
  (strict_fail failure).reads c

theorem Reads.bind_left {c : Char} {r : Reader α} (h : r.Reads c) (f : α → Reader β) :
    (r >>= f).Reads c := by
  intro cs b rest run
  obtain ⟨a, between, first, second⟩ := run_bind_eq_ok.mp run
  exact Nat.le_trans ((f a).suffix second).length_le (h first)

theorem reads_advance (c : Char) (f : Unit → Reader α) : (advance >>= f).Reads c :=
  fun _ _ _ run => ((f ()).suffix run).length_le

/-- A reader that looks at a character is strict, if it goes on to read that character, and is
strict where there is none. -/
theorem strict_peek {f : Option Char → Reader α} (atEnd : (f none).Strict)
    (within : ∀ c, (f (some c)).Reads c) : (peek >>= f).Strict := by
  intro cs a rest run
  rw [run_bind, run_peek] at run
  cases cs with
  | nil => exact atEnd run
  | cons c cs => exact Nat.lt_succ_of_le (within c run)

/-- A reader that reads a character of a kind is strict, if it is where that is not in front. -/
theorem strict_takeIf {kind : Char → Bool} {f : Bool → Reader α} (otherwise : (f false).Strict) :
    (takeIf kind >>= f).Strict := by
  intro cs a rest run
  rw [run_bind] at run
  cases cs with
  | nil => exact otherwise run
  | cons c cs =>
    rw [run_takeIf_cons] at run
    by_cases h : kind c
    · simp only [h, if_true] at run
      exact Nat.lt_succ_of_le ((f true).suffix run).length_le
    · simp only [h] at run
      exact otherwise run

theorem run_peekToken_bind (f : Option Char → Reader α) (cs : List Char) :
    (peekToken >>= f).run cs = (peek >>= f).run (cs.dropWhile isBlank) := rfl

/-- The same for a reader that looks at the character behind the blanks. -/
theorem strict_peekToken {f : Option Char → Reader α} (atEnd : (f none).Strict)
    (within : ∀ c, (f (some c)).Reads c) : (peekToken >>= f).Strict := by
  intro cs a rest run
  rw [run_peekToken_bind] at run
  exact Nat.lt_of_lt_of_le (strict_peek atEnd within run) (List.dropWhile_suffix _).length_le

/-! ## Loops -/

/-- The outcome of one step of a loop. -/
inductive Turn (σ α : Type) where
  | more (state : σ)
  | done (value : α)

/-- The outcome of a loop on a text. -/
def loopOn (step : σ → Reader (Turn σ α)) (strict : ∀ s, (step s).Strict) (s : σ)
    (cs : List Char) : Except Failure (α × List Char) :=
  match h : (step s).run cs with
  | .error failure => .error failure
  | .ok (.done a, rest) => .ok (a, rest)
  | .ok (.more s', rest) =>
    have : rest.length < cs.length := strict s h
    loopOn step strict s' rest
termination_by cs.length

theorem loopOn_suffix {step : σ → Reader (Turn σ α)} {strict : ∀ s, (step s).Strict} {s : σ}
    {cs rest : List Char} {a : α} (h : loopOn step strict s cs = .ok (a, rest)) :
    rest <:+ cs := by
  fun_induction loopOn step strict s cs with
  | case1 => cases h
  | case2 s cs a rest first =>
    cases h
    exact (step s).suffix first
  | case3 s cs s' between first _ ih => exact (ih h).trans ((step s).suffix first)

/-- Repeats a step, from state to state, until it is done. -/
def loop (step : σ → Reader (Turn σ α)) (strict : ∀ s, (step s).Strict) (s : σ) : Reader α where
  run := loopOn step strict s
  suffix := loopOn_suffix

/-- A loop is its first step, and the loop from the next state unless it is done. -/
theorem loop_eq (step : σ → Reader (Turn σ α)) (strict : ∀ s, (step s).Strict) (s : σ) :
    loop step strict s = step s >>= fun
      | .more s' => loop step strict s'
      | .done a => pure a := by
  ext cs
  rw [run_bind]
  change loopOn step strict s cs = _
  rw [loopOn]
  split
  case h_1 first => rw [first]
  case h_2 first =>
    rw [first]
    rfl
  case h_3 first =>
    simp only [first]
    rfl

end InView.Json.Reader
