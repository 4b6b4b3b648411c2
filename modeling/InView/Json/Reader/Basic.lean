import InView.Json.Failure

/-!
# Readers

A reader takes the characters in front of it and returns a value with the characters behind it, or a
failure.  What is left is always the end of what was there, and that is part of the type.

Every reader is put together from the few of this module: they look at the next character without
reading it, read it, read all characters of a kind in front, or fail.  `run_bind_eq_ok` takes a
sequence apart again, and the laws of monads hold for readers that agree on every text.
-/

namespace InView.Json

/-- Reads a value from the front of a text. -/
structure Reader (α : Type) where
  /-- The outcome on a text: a value and what is left, or a failure. -/
  run : List Char → Except Failure (α × List Char)
  /-- What is left is the end of the text. -/
  suffix : ∀ {cs a rest}, run cs = .ok (a, rest) → rest <:+ cs

namespace Reader

variable {α β : Type}

/-! ## Sequences -/

/-- A value without reading. -/
@[inline] def value (a : α) : Reader α where
  run cs := .ok (a, cs)
  suffix h := by
    cases h
    exact List.suffix_rfl

/-- Goes on with the value of a reader behind what it read. -/
@[inline] def andThen (r : Reader α) (f : α → Reader β) : Reader β where
  run cs :=
    match r.run cs with
    | .error failure => .error failure
    | .ok (a, rest) => (f a).run rest
  suffix h := by
    split at h
    · cases h
    case h_2 first => exact ((f _).suffix h).trans (r.suffix first)

instance : Monad Reader where
  pure := value
  bind := andThen

@[simp] theorem run_pure (a : α) (cs : List Char) : (pure a : Reader α).run cs = .ok (a, cs) := rfl

theorem run_bind (r : Reader α) (f : α → Reader β) (cs : List Char) :
    (r >>= f).run cs =
      match r.run cs with
      | .error failure => .error failure
      | .ok (a, rest) => (f a).run rest := rfl

/-- A sequence succeeds where its parts do, one behind the other. -/
theorem run_bind_eq_ok {r : Reader α} {f : α → Reader β} {cs rest : List Char} {b : β} :
    (r >>= f).run cs = .ok (b, rest) ↔
      ∃ a between, r.run cs = .ok (a, between) ∧ (f a).run between = .ok (b, rest) := by
  rw [run_bind]
  constructor
  · intro h
    split at h
    · cases h
    case h_2 first => exact ⟨_, _, first, h⟩
  · rintro ⟨a, between, first, second⟩
    simp [first, second]

/-- Readers with the same outcome on every text are equal. -/
@[ext] protected theorem ext {r s : Reader α} (h : ∀ cs, r.run cs = s.run cs) : r = s := by
  cases r
  cases s
  congr
  exact funext h

theorem run_map (f : α → β) (r : Reader α) (cs : List Char) :
    (f <$> r).run cs =
      match r.run cs with
      | .error failure => .error failure
      | .ok (a, rest) => .ok (f a, rest) := rfl

protected theorem id_map (r : Reader α) : id <$> r = r := by
  ext cs
  rw [run_map]
  split <;> simp [*]

protected theorem bind_assoc {γ : Type} (r : Reader α) (f : α → Reader β) (g : β → Reader γ) :
    r >>= f >>= g = r >>= fun a => f a >>= g := by
  ext cs
  simp only [run_bind]
  cases r.run cs <;> rfl

instance : LawfulMonad Reader :=
  .mk' _ Reader.id_map (fun _ _ => rfl) Reader.bind_assoc

/-! ## Failures -/

/-- Fails, with a placed cause that depends on what is left. -/
def fail (failure : List Char → Failure) : Reader α where
  run cs := .error (failure cs)
  suffix h := by cases h

@[simp] theorem run_fail (failure : List Char → Failure) (cs : List Char) :
    (fail failure : Reader α).run cs = .error (failure cs) := rfl

/-- Fails in front of what is left. -/
def failHere (cause : Cause) : Reader α := fail (.here cause)

/-- Fails one byte into what is left. -/
def failNext (cause : Cause) : Reader α := fail (.next cause)

@[simp] theorem run_failHere (cause : Cause) (cs : List Char) :
    (failHere cause : Reader α).run cs = .error (.here cause cs) := rfl

@[simp] theorem run_failNext (cause : Cause) (cs : List Char) :
    (failNext cause : Reader α).run cs = .error (.next cause cs) := rfl

/-! ## Characters -/

/-- The next character, which is not read; none at the end of the text. -/
def peek : Reader (Option Char) where
  run cs := .ok (cs.head?, cs)
  suffix h := by
    cases h
    exact List.suffix_rfl

/-- Reads one character. -/
def advance : Reader Unit where
  run cs := .ok ((), cs.tail)
  suffix h := by
    cases h
    exact List.tail_suffix _

@[simp] theorem run_peek (cs : List Char) : peek.run cs = .ok (cs.head?, cs) := rfl

@[simp] theorem run_advance (cs : List Char) : advance.run cs = .ok ((), cs.tail) := rfl

/-- Reads a character if it is of a kind, and tells whether it was. -/
def takeIf (kind : Char → Bool) : Reader Bool := do
  if (← peek).any kind then
    advance
    return true
  else
    return false

theorem run_takeIf_cons (kind : Char → Bool) (c : Char) (cs : List Char) :
    (takeIf kind).run (c :: cs) = if kind c then .ok (true, cs) else .ok (false, c :: cs) := by
  cases h : kind c <;> simp [takeIf, run_bind, run_map, h]

/-- Reads all characters of a kind in front. -/
def takeWhile (kind : Char → Bool) : Reader (List Char) where
  run cs := .ok (cs.takeWhile kind, cs.dropWhile kind)
  suffix h := by
    cases h
    exact List.dropWhile_suffix _

@[simp] theorem run_takeWhile (kind : Char → Bool) (cs : List Char) :
    (takeWhile kind).run cs = .ok (cs.takeWhile kind, cs.dropWhile kind) := rfl

end Reader

/-- The characters that may stand between any two tokens. -/
def isBlank (c : Char) : Bool := c = ' ' || c = '\n' || c = '\t' || c = '\r'

namespace Reader

variable {α : Type}

/-- Reads all blanks in front. -/
def blanks : Reader Unit := do
  let _ ← takeWhile isBlank

/-- Reads the blanks in front, and looks at the character behind them. -/
def peekToken : Reader (Option Char) := do
  blanks
  peek

@[simp] theorem run_blanks (cs : List Char) : blanks.run cs = .ok ((), cs.dropWhile isBlank) := rfl

@[simp] theorem run_peekToken (cs : List Char) :
    peekToken.run cs = .ok ((cs.dropWhile isBlank).head?, cs.dropWhile isBlank) := rfl

/-! ## Documents -/

/-- Reads the blanks at the end of a text, where nothing else may follow. -/
def finish : Reader Unit := do
  if (← peekToken).isSome then failNext .trailingCharacters

/-- Reads a document: one value, with nothing but blanks around it. -/
def document (value : Reader α) (cs : List Char) : Except Failure α :=
  match (value >>= fun a => finish >>= fun _ => pure a).run cs with
  | .error failure => .error failure
  | .ok (a, _) => .ok a

end Reader

end InView.Json
