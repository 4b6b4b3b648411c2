import InView.Event
import InView.Host

/-!
# Checking elements

A check asks a host for the box of an element and then for the viewport, both at the time of the
check, and classifies the one in the other.  It keeps a record: every read of the host in order,
and one logged event for every element that is not found visible.  A check that fails stops at
the failing read, and its record stays.

`Check` is the type of such computations and `Run` of their outcomes; the record of a sequence of
checks is the records of the checks, one after the other.
-/

namespace InView

/-- A question put to a host. -/
inductive Query (ε : Type) where
  | box (element : ε)
  | viewport
  deriving DecidableEq

/-- The outcome of a check: its result, the state of the host afterwards, and the record. -/
structure Run (σ ε α : Type) where
  result : Except Fault α
  state : σ
  queries : List (Query ε)
  events : List Event

/-- A computation over a host that may fail and that keeps a record. -/
def Check (σ ε α : Type) : Type := σ → Run σ ε α

namespace Check

variable {σ ε α β : Type}

/-- Carries out a check from a state of the host. -/
def run (c : Check σ ε α) (s : σ) : Run σ ε α := c s

/-- A value without asking anybody. -/
def value (a : α) : Check σ ε α := fun s => ⟨.ok a, s, [], []⟩

/-- Goes on with the result of a check, unless it failed. -/
def andThen (c : Check σ ε α) (f : α → Check σ ε β) : Check σ ε β := fun s =>
  let first := c s
  match first.result with
  | .error fault => ⟨.error fault, first.state, first.queries, first.events⟩
  | .ok a =>
    let second := f a first.state
    ⟨second.result, second.state, first.queries ++ second.queries,
      first.events ++ second.events⟩

instance : Monad (Check σ ε) where
  pure := value
  bind := andThen

@[simp] theorem run_pure (a : α) (s : σ) :
    (pure a : Check σ ε α).run s = ⟨.ok a, s, [], []⟩ := rfl

/-- Nothing is asked behind a failure. -/
theorem run_bind_of_error {c : Check σ ε α} {s : σ} {fault : Fault}
    (h : (c.run s).result = .error fault) (f : α → Check σ ε β) :
    (c >>= f).run s = ⟨.error fault, (c.run s).state, (c.run s).queries, (c.run s).events⟩ := by
  change andThen c f s = _
  unfold run at h
  rw [andThen, h]
  rfl

/-- The record of a sequence is the record of its first part and then that of its second. -/
theorem run_bind_of_ok {c : Check σ ε α} {s : σ} {a : α} (h : (c.run s).result = .ok a)
    (f : α → Check σ ε β) :
    (c >>= f).run s =
      ⟨((f a).run (c.run s).state).result, ((f a).run (c.run s).state).state,
        (c.run s).queries ++ ((f a).run (c.run s).state).queries,
        (c.run s).events ++ ((f a).run (c.run s).state).events⟩ := by
  change andThen c f s = _
  unfold run at h
  rw [andThen, h]
  rfl

/-- Reads the box of an element. -/
def readBox (host : Host σ ε) (element : ε) : Check σ ε Box := fun s =>
  let (reply, s) := host.box element s
  ⟨reply, s, [.box element], []⟩

/-- Reads the viewport. -/
def readViewport (host : Host σ ε) : Check σ ε Viewport := fun s =>
  let (reply, s) := host.viewport s
  ⟨reply, s, [.viewport], []⟩

/-- Logs an event. -/
def log (event : Event) : Check σ ε Unit := fun s => ⟨.ok (), s, [], [event]⟩

/-- Classifies an element, and logs it unless it is visible. -/
def classify (host : Host σ ε) (element : ε) : Check σ ε Visibility := do
  let box ← readBox host element
  let view ← readViewport host
  let visibility := InView.classify box view
  if !visibility.isVisible then log ⟨box, view, visibility⟩
  return visibility

/-- Whether an element is visible. -/
def isVisible (host : Host σ ε) (element : ε) : Check σ ε Bool :=
  return (← classify host element).isVisible

/-- The visible ones of some elements, checked in order up to the first failure. -/
def visible (host : Host σ ε) : List ε → Check σ ε (List ε)
  | [] => return []
  | element :: rest => do
    let found ← isVisible host element
    let others ← visible host rest
    return if found then element :: others else others

end Check

end InView
