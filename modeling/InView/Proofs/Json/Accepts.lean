import InView.Json.Reader.Loop
import Mathlib.Data.List.TakeWhile

/-!
# Readers and the texts they accept

A reader is described by a relation between values and texts: `r.Accepts P stop` says that `r`
succeeds exactly on the texts that `P` relates to a value, and returns that value.  Success
means that a beginning of the text is such a text, and the rest is left (`sound`).  Conversely a
text of `P` is read to its end whatever follows, as long as what follows is not taken for more of
it (`complete`); `stop` says what that asks of the rest, and for most readers it asks nothing.

Blanks may stand in front of every token, so readers of whole values accept texts that begin
with blanks (`Spaced`), and `Accepts.spaced` reduces them to what they do behind the blanks.
-/

namespace InView.Json

/-! ## Blanks -/

/-- Any number of blanks. -/
def Blanks (t : List Char) : Prop := ∀ c ∈ t, isBlank c

instance : DecidablePred Blanks := fun _ => decidable_of_iff _ List.all_eq_true

lemma blanks_nil : Blanks [] := by simp [Blanks]

lemma Blanks.append {b b' : List Char} (h : Blanks b) (h' : Blanks b') : Blanks (b ++ b') :=
  fun c mem => (List.mem_append.mp mem).elim (h c) (h' c)

/-- Blanks, and behind them a text of a kind. -/
def Spaced (P : List Char → Prop) (t : List Char) : Prop :=
  ∃ blanks inner, t = blanks ++ inner ∧ Blanks blanks ∧ P inner

lemma spaced_of {P : List Char → Prop} {blanks t : List Char} (hb : Blanks blanks) (h : P t) :
    Spaced P (blanks ++ t) := ⟨blanks, t, rfl, hb, h⟩

/-- Without blanks in front. -/
lemma spaced_self {P : List Char → Prop} {t : List Char} (h : P t) : Spaced P t :=
  spaced_of blanks_nil h

/-- Every text begins with the blanks that are dropped in front of a token. -/
lemma exists_blanks (cs : List Char) : ∃ b, Blanks b ∧ cs = b ++ cs.dropWhile isBlank :=
  ⟨cs.takeWhile isBlank, fun _ mem => List.mem_takeWhile_imp mem,
    (List.takeWhile_append_dropWhile).symm⟩

lemma dropWhile_blanks {b : List Char} (hb : Blanks b) (cs : List Char) :
    (b ++ cs).dropWhile isBlank = cs.dropWhile isBlank :=
  List.dropWhile_append_of_pos hb

/-- What is in front of a text whose beginning was dropped is of another kind. -/
lemma not_of_dropWhile {α : Type} {kind : α → Bool} {as behind : List α} {a : α}
    (h : as.dropWhile kind = a :: behind) : kind a = false := by
  have := List.head?_dropWhile_not kind as
  rw [h] at this
  simpa using this

/-- A text that begins with a character which is neither a blank nor closes a list. -/
def BeginsValue (t : List Char) : Prop :=
  ∃ c cs, t = c :: cs ∧ isBlank c = false ∧ c ≠ ']'

lemma beginsValue_cons {c : Char} (noBlank : isBlank c = false) (noClose : c ≠ ']')
    (cs : List Char) : BeginsValue (c :: cs) := ⟨c, cs, rfl, noBlank, noClose⟩

/-- Behind blanks a token is what is left. -/
lemma dropWhile_token {b cs : List Char} {c : Char} (hb : Blanks b) (hc : isBlank c = false) :
    (b ++ c :: cs).dropWhile isBlank = c :: cs := by
  rw [dropWhile_blanks hb, List.dropWhile_cons_of_neg (by simp [hc])]

lemma BeginsValue.dropWhile {b t : List Char} (ht : BeginsValue t) (hb : Blanks b)
    (rest : List Char) : (b ++ (t ++ rest)).dropWhile isBlank = t ++ rest := by
  obtain ⟨c, cs, rfl, hc, -⟩ := ht
  exact dropWhile_token hb hc

namespace Reader

variable {α β σ : Type}

/-! ## Running a sequence -/

@[simp] lemma run_peek_bind (f : Option Char → Reader α) (cs : List Char) :
    (peek >>= f).run cs = (f cs.head?).run cs := rfl

@[simp] lemma run_advance_bind (f : Unit → Reader α) (c : Char) (cs : List Char) :
    (advance >>= f).run (c :: cs) = (f ()).run cs := rfl

lemma run_pure_eq_ok {a b : α} {cs rest : List Char} :
    (pure a : Reader α).run cs = .ok (b, rest) ↔ a = b ∧ cs = rest := by
  rw [run_pure, Except.ok.injEq, Prod.mk.injEq]

/-- A sequence goes on where its first part has stopped. -/
lemma run_bind_ok {r : Reader α} {cs rest : List Char} {a : α} (h : r.run cs = .ok (a, rest))
    (f : α → Reader β) : (r >>= f).run cs = (f a).run rest := by
  rw [run_bind, h]

/-! ## Taking a character -/

lemma run_takeIf {kind : Char → Bool} {c : Char} (h : kind c) (cs : List Char) :
    (takeIf kind).run (c :: cs) = .ok (true, cs) := by
  rw [run_takeIf_cons, if_pos h]

/-- A character that does not begin the text is not taken. -/
lemma run_takeIf_of_not {kind : Char → Bool} {cs : List Char}
    (h : ∀ c ∈ cs.head?, kind c = false) : (takeIf kind).run cs = .ok (false, cs) := by
  cases cs with
  | nil => rfl
  | cons c cs => rw [run_takeIf_cons, if_neg (by simp [h c rfl])]

lemma takeIf_true {kind : Char → Bool} {cs rest : List Char}
    (run : (takeIf kind).run cs = .ok (true, rest)) : ∃ c, kind c ∧ cs = c :: rest := by
  cases cs with
  | nil => cases run
  | cons c cs =>
      rw [run_takeIf_cons] at run
      split at run
      case isTrue isKind =>
        cases run
        exact ⟨c, isKind, rfl⟩
      case isFalse => cases run

lemma takeIf_false {kind : Char → Bool} {cs rest : List Char}
    (run : (takeIf kind).run cs = .ok (false, rest)) :
    rest = cs ∧ ∀ c ∈ cs.head?, kind c = false := by
  cases cs with
  | nil =>
      cases run
      simp
  | cons c cs =>
      rw [run_takeIf_cons] at run
      split at run
      case isTrue => cases run
      case isFalse isNot =>
        cases run
        simpa using isNot

/-! ## Acceptance -/

/-- The reader accepts exactly the texts of a relation, in front of a rest that stops it. -/
structure Accepts (r : Reader α) (P : α → List Char → Prop) (stop : List Char → Prop) : Prop where
  sound : ∀ {cs a rest}, r.run cs = .ok (a, rest) → ∃ t, cs = t ++ rest ∧ P a t
  complete : ∀ {a t rest}, P a t → stop rest → r.run (t ++ rest) = .ok (a, rest)

/-- Nothing is asked of the rest. -/
def AnyRest (_ : List Char) : Prop := True

variable {P : α → List Char → Prop} {stop : List Char → Prop}

/-- A reader that looks behind the blanks accepts what it accepts there, with blanks in front. -/
lemma Accepts.spaced {f : Option Char → Reader α} (h : (peek >>= f).Accepts P stop)
    (begins : ∀ {a t}, P a t → BeginsValue t) :
    (peekToken >>= f).Accepts (fun a => Spaced (P a)) stop where
  sound := by
    intro cs a rest run
    rw [run_peekToken_bind] at run
    obtain ⟨t, split, ht⟩ := h.sound run
    obtain ⟨b, hb, eq⟩ := exists_blanks cs
    refine ⟨b ++ t, ?_, spaced_of hb ht⟩
    rw [List.append_assoc, ← split]
    exact eq
  complete := by
    rintro a t rest ⟨b, inner, rfl, hb, inside⟩ hrest
    rw [run_peekToken_bind, List.append_assoc, (begins inside).dropWhile hb]
    exact h.complete inside hrest

/-- A reader may be asked for less. -/
lemma Accepts.stops {r : Reader α} {stop' : List Char → Prop} (h : r.Accepts P stop)
    (stops : ∀ {rest}, stop' rest → stop rest) : r.Accepts P stop' where
  sound := h.sound
  complete accepted hrest := h.complete accepted (stops hrest)

/-- The accepted texts may be described in another way. -/
lemma Accepts.congr {r : Reader α} {P' : α → List Char → Prop} (h : r.Accepts P stop)
    (same : ∀ a t, P a t ↔ P' a t) : r.Accepts P' stop where
  sound run := by
    obtain ⟨t, split, ht⟩ := h.sound run
    exact ⟨t, split, (same _ t).mp ht⟩
  complete accepted := h.complete ((same _ _).mpr accepted)

/-- The value of an accepted text may be changed. -/
lemma Accepts.bindPure {r : Reader α} (h : r.Accepts P stop) (f : α → β) :
    (r >>= fun a => pure (f a)).Accepts (fun b t => ∃ a, P a t ∧ f a = b) stop where
  sound := by
    intro cs b rest run
    obtain ⟨a, between, first, last⟩ := run_bind_eq_ok.mp run
    obtain ⟨rfl, rfl⟩ := run_pure_eq_ok.mp last
    obtain ⟨t, split, ht⟩ := h.sound first
    exact ⟨t, split, a, ht, rfl⟩
  complete := by
    rintro _ t rest ⟨a, ht, rfl⟩ hrest
    rw [run_bind_ok (h.complete ht hrest), run_pure]

/-- What a reader accepts at the beginning of a text is determined: the value, and where it ends. -/
lemma Accepts.unique {r : Reader α} (h : r.Accepts P stop) {a a' : α} {t t' rest rest' : List Char}
    (accepted : P a t) (accepted' : P a' t') (hrest : stop rest) (hrest' : stop rest')
    (same : t ++ rest = t' ++ rest') : a = a' ∧ t = t' ∧ rest = rest' := by
  have run := h.complete accepted hrest
  rw [same, h.complete accepted' hrest', Except.ok.injEq, Prod.mk.injEq] at run
  obtain ⟨rfl, rfl⟩ := run
  exact ⟨rfl, List.append_cancel_right same, rfl⟩

/-! ## Loops -/

variable {step : σ → Reader (Turn σ α)} {strict : ∀ s, (step s).Strict} {s s' : σ}

lemma run_loop_done {cs rest : List Char} {a : α} (h : (step s).run cs = .ok (.done a, rest)) :
    (loop step strict s).run cs = .ok (a, rest) := by
  rw [loop_eq, run_bind_ok h, run_pure]

lemma run_loop_more {cs between : List Char} (h : (step s).run cs = .ok (.more s', between)) :
    (loop step strict s).run cs = (loop step strict s').run between := by
  rw [loop_eq, run_bind_ok h]

/-- **What a loop did.**  A relation between a state with a text and the outcome holds of every
successful loop, if it holds of a last step and is carried back over every other step. -/
theorem loop_induction {Q : σ → List Char → α → List Char → Prop}
    (done : ∀ {s cs a rest}, (step s).run cs = .ok (.done a, rest) → Q s cs a rest)
    (more : ∀ {s cs s' between a rest}, (step s).run cs = .ok (.more s', between) →
      Q s' between a rest → Q s cs a rest)
    {cs rest : List Char} {a : α} (run : (loop step strict s).run cs = .ok (a, rest)) :
    Q s cs a rest := by
  change loopOn step strict s cs = .ok (a, rest) at run
  fun_induction loopOn step strict s cs with
  | case1 => cases run
  | case2 s cs a rest last =>
      cases run
      exact done last
  | case3 s cs s' between first _ ih => exact more first (ih run)

end Reader

end InView.Json
