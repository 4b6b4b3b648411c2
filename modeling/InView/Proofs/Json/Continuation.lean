import InView.Proofs.Json.Accepts

/-!
# Readers and what follows

A reader sees its text from the front.  This module says what that means for texts of which only a
beginning is there.

* A reader is `Closed` if what follows does not change what it has read, as that of an object,
  which ends with its brace.  A reader of numbers is not closed: more digits may follow.
* A reader goes `Forward` if what it has read does not depend on anything behind the next
  character, and if it fails on the beginning of a text on which it succeeds only because that
  beginning ends.  The failure is then placed at the end, and its cause is that the text has ended,
  or one that the `Region` of the text excuses there.  If the same holds where nothing has been read
  yet, the reader is `Cuttable`, and may stand behind others.

All of this is carried from the parts of a sequence to the sequence, and from a step to its loop.
-/

namespace InView.Json

namespace Reader

variable {α β σ : Type}

/-! ## Readers that fail -/

/-- A reader that succeeds on no text. -/
def Fails (r : Reader α) : Prop := ∀ ⦃cs a rest⦄, r.run cs ≠ .ok (a, rest)

lemma fails_fail (failure : List Char → Failure) : (fail failure : Reader α).Fails := nofun

/-- A sequence fails if its second part does. -/
lemma Fails.bind_right (r : Reader α) {f : α → Reader β} (h : ∀ a, (f a).Fails) :
    (r >>= f).Fails := by
  intro cs b rest run
  obtain ⟨a, between, -, second⟩ := run_bind_eq_ok.mp run
  exact h a second

/-! ## Closed readers -/

/-- What follows does not change what a reader reads in front of it. -/
def Closed (r : Reader α) : Prop :=
  ∀ ⦃cs a rest⦄, r.run cs = .ok (a, rest) → ∀ u, r.run (cs ++ u) = .ok (a, rest ++ u)

/-- The same, of texts that begin with `c`. -/
def ClosedFrom (c : Char) (r : Reader α) : Prop :=
  ∀ ⦃cs a rest⦄, r.run (c :: cs) = .ok (a, rest) → ∀ u, r.run (c :: cs ++ u) = .ok (a, rest ++ u)

lemma Closed.closedFrom {r : Reader α} (h : r.Closed) (c : Char) : r.ClosedFrom c :=
  fun _ _ _ run => h run

lemma Fails.closed {r : Reader α} (h : r.Fails) : r.Closed := fun _ _ _ run => absurd run (h ·)

lemma closed_pure (a : α) : (pure a : Reader α).Closed := by
  intro cs b rest run u
  obtain ⟨rfl, rfl⟩ := run_pure_eq_ok.mp run
  rfl

/-- A reader is closed if it accepts its texts whatever follows. -/
lemma Accepts.closed {r : Reader α} {P : α → List Char → Prop} (h : r.Accepts P AnyRest) :
    r.Closed := by
  intro cs a rest run u
  obtain ⟨t, rfl, accepted⟩ := h.sound run
  rw [List.append_assoc]
  exact h.complete accepted trivial

lemma Closed.bind {r : Reader α} (h : r.Closed) {f : α → Reader β} (hf : ∀ a, (f a).Closed) :
    (r >>= f).Closed := by
  intro cs b rest run u
  obtain ⟨a, between, first, second⟩ := run_bind_eq_ok.mp run
  rw [run_bind_ok (h first u)]
  exact hf a second u

lemma ClosedFrom.bind {c : Char} {r : Reader α} (h : r.ClosedFrom c) {f : α → Reader β}
    (hf : ∀ a, (f a).Closed) : (r >>= f).ClosedFrom c := by
  intro cs b rest run u
  obtain ⟨a, between, first, second⟩ := run_bind_eq_ok.mp run
  rw [run_bind_ok (h first u)]
  exact hf a second u

lemma closedFrom_advance (c : Char) {f : Unit → Reader α} (h : (f ()).Closed) :
    (advance >>= f).ClosedFrom c := fun _ _ _ run u => h run u

lemma advance_closedFrom (c : Char) : advance.ClosedFrom c := by
  intro cs a rest run u
  cases run
  rfl

/-- A reader that looks behind the blanks is closed, if it fails where the text ends. -/
lemma closed_peekToken {f : Option Char → Reader α} (atEnd : (f none).Fails)
    (within : ∀ c, (f (some c)).ClosedFrom c) : (peekToken >>= f).Closed := by
  intro cs a rest run u
  obtain ⟨b, blanks, split⟩ := exists_blanks cs
  rw [run_peekToken_bind] at run ⊢
  cases ahead : cs.dropWhile isBlank with
  | nil =>
      rw [ahead] at run
      exact absurd run (atEnd ·)
  | cons c left =>
      rw [ahead] at run split
      rw [split, List.append_assoc, List.cons_append,
        dropWhile_token blanks (not_of_dropWhile ahead)]
      exact within c run u

end Reader

/-! ## Cuts -/

/-- Whether a cause is that the text has ended. -/
def Cause.isEnd : Cause → Bool
  | .unfinishedValue | .unfinishedText | .unfinishedList | .unfinishedObject => true
  | _ => false

/-- A part of a text in which it may be cut: which texts lead back to where they began, and which
causes besides the end of the text are excused at its end, if it is cut between two texts. -/
structure Region where
  Whole : List Char → Prop
  Excuses : Cause → List Char → List Char → Prop
  nil : Whole []
  append : ∀ {s t}, Whole s → Whole t → Whole (s ++ t)
  behind : ∀ {cause s p u}, Whole s → Excuses cause p u → Excuses cause (s ++ p) u

/-- A region in which every cut leads back to where it began, and in which some causes are
excused. -/
def Region.excusing (excused : Cause → Prop) : Region where
  Whole _ := True
  Excuses cause _ _ := excused cause
  nil := trivial
  append _ _ := trivial
  behind _ := id

/-- A failure at the end of a text that goes on with `u`, for no other reason than that end. -/
structure Failure.Cut (R : Region) (f : Failure) (p u : List Char) : Prop where
  atEnd : f.left = 0
  cause : f.cause.isEnd ∨ R.Excuses f.cause p u

lemma Failure.Cut.behind {R : Region} {f : Failure} {s p u : List Char} (h : f.Cut R p u)
    (whole : R.Whole s) : f.Cut R (s ++ p) u :=
  ⟨h.atEnd, h.cause.imp_right (R.behind whole)⟩

namespace Reader

variable {α β σ : Type}

/-- A reader goes forward on a text. -/
structure ForwardAt (R : Region) (r : Reader α) (cs : List Char) : Prop where
  /-- It reads whole texts. -/
  whole : ∀ {a rest}, r.run cs = .ok (a, rest) → ∃ t, cs = t ++ rest ∧ R.Whole t
  /-- What it has read does not change with what follows the next character. -/
  steady : ∀ {a rest}, r.run cs = .ok (a, rest) → rest ≠ [] →
    ∀ u, r.run (cs ++ u) = .ok (a, rest ++ u)
  /-- It fails on the beginning of what it reads because that is only the beginning. -/
  cut : ∀ {f u a rest}, r.run cs = .error f → r.run (cs ++ u) = .ok (a, rest) → f.Cut R cs u

/-- A reader goes forward on every text. -/
def Forward (R : Region) (r : Reader α) : Prop := ∀ cs, r.ForwardAt R cs

/-- A reader goes forward on every text that begins with `c`. -/
def ForwardFrom (R : Region) (c : Char) (r : Reader α) : Prop := ∀ cs, r.ForwardAt R (c :: cs)

/-- If a reader fails at the end of a text, it does so because the text has ended. -/
def EndsShort (R : Region) (r : Reader α) : Prop := ∀ ⦃f⦄, r.run [] = .error f → ∀ u, f.Cut R [] u

/-- A reader may be cut if it goes forward on every text, and fails at the end only for that end. -/
structure Cuttable (R : Region) (r : Reader α) : Prop where
  forward : r.Forward R
  short : r.EndsShort R

variable {R : Region}

lemma Forward.from {r : Reader α} (h : r.Forward R) (c : Char) : r.ForwardFrom R c :=
  fun cs => h (c :: cs)

lemma forwardAt_nil {r : Reader α} (h : r.EndsShort R) : r.ForwardAt R [] where
  whole run := ⟨[], by rw [List.suffix_nil.mp (r.suffix run)]; rfl, R.nil⟩
  steady run left := absurd (List.suffix_nil.mp (r.suffix run)) left
  cut failed _ := h failed _

/-- A reader that goes on with another one behind a whole text. -/
lemma ForwardAt.behind {r r' : Reader α} {t cs : List Char} (whole : R.Whole t)
    (same : ∀ u, r.run (t ++ (cs ++ u)) = r'.run (cs ++ u)) (h : r'.ForwardAt R cs) :
    r.ForwardAt R (t ++ cs) := by
  have here : r.run (t ++ cs) = r'.run cs := by simpa using same []
  refine ⟨fun run => ?_, fun run left u => ?_, fun {f u a rest} failed read => ?_⟩
  · obtain ⟨s, rfl, whole'⟩ := h.whole (here ▸ run)
    exact ⟨t ++ s, by rw [List.append_assoc], R.append whole whole'⟩
  · rw [List.append_assoc, same]
    exact h.steady (here ▸ run) left u
  · rw [List.append_assoc, same] at read
    exact (h.cut (here ▸ failed) read).behind whole

/-- A reader goes forward on a text of another region, if whole texts of it and what is excused
there are that in the other region too. -/
lemma ForwardAt.transfer {R' : Region} {r : Reader α} {cs : List Char} (h : r.ForwardAt R cs)
    (whole : ∀ {a t rest}, cs = t ++ rest → r.run cs = .ok (a, rest) → R'.Whole t)
    (excuses : ∀ {f u a rest}, r.run cs = .error f → r.run (cs ++ u) = .ok (a, rest) →
      R.Excuses f.cause cs u → R'.Excuses f.cause cs u) : r.ForwardAt R' cs where
  whole run := by
    obtain ⟨t, split, -⟩ := h.whole run
    exact ⟨t, split, whole split run⟩
  steady := h.steady
  cut failed read := by
    have cut := h.cut failed read
    exact ⟨cut.atEnd, cut.cause.imp_right (excuses failed read)⟩

lemma Fails.forward {r : Reader α} (h : r.Fails) : r.Forward R := fun _ =>
  ⟨fun run => absurd run (h ·), fun run => absurd run (h ·), fun _ read => absurd read (h ·)⟩

lemma forward_fail (failure : List Char → Failure) : (fail failure : Reader α).Forward R :=
  (fails_fail failure).forward

lemma forward_pure (a : α) : (pure a : Reader α).Forward R := by
  refine fun cs => ⟨fun run => ?_, fun run _ u => ?_, fun failed _ => nomatch failed⟩
  · obtain ⟨rfl, rfl⟩ := run_pure_eq_ok.mp run
    exact ⟨[], rfl, R.nil⟩
  · obtain ⟨rfl, rfl⟩ := run_pure_eq_ok.mp run
    rfl

/-- A reader that fails at the end for that end. -/
lemma endsShort_of_error {r : Reader α} {cause : Cause} (h : r.run [] = .error ⟨cause, 0⟩)
    (isEnd : cause.isEnd) : r.EndsShort R := by
  intro f failed u
  rw [h] at failed
  cases failed
  exact ⟨rfl, .inl isEnd⟩

/-! ## Sequences -/

/-- A sequence goes forward if its parts do, and if it does where the first part has read all there
was and the second part fails. -/
lemma ForwardAt.bind_of {r : Reader α} {f : α → Reader β} {cs : List Char}
    (hr : r.ForwardAt R cs)
    (hf : ∀ {a rest}, r.run cs = .ok (a, rest) → (f a).ForwardAt R rest)
    (joint : ∀ {a a' u rest' g b rest}, r.run cs = .ok (a, []) → r.run (cs ++ u) = .ok (a', rest') →
      (f a).run [] = .error g → (f a').run rest' = .ok (b, rest) → g.Cut R cs u) :
    (r >>= f).ForwardAt R cs := by
  refine ⟨fun run => ?_, fun run left u => ?_, fun {g u b rest} failed read => ?_⟩
  · obtain ⟨a, between, first, second⟩ := run_bind_eq_ok.mp run
    obtain ⟨s, rfl, whole⟩ := hr.whole first
    obtain ⟨t, rfl, whole'⟩ := (hf first).whole second
    exact ⟨s ++ t, by rw [List.append_assoc], R.append whole whole'⟩
  · obtain ⟨a, between, first, second⟩ := run_bind_eq_ok.mp run
    have goesOn : between ≠ [] := by
      rintro rfl
      exact left (List.suffix_nil.mp ((f a).suffix second))
    rw [run_bind_ok (hr.steady first goesOn u)]
    exact (hf first).steady second left u
  · obtain ⟨a', between', first', second'⟩ := run_bind_eq_ok.mp read
    cases first : r.run cs with
    | error g' =>
        rw [run_bind, first] at failed
        cases failed
        exact hr.cut first first'
    | ok outcome =>
        obtain ⟨a, between⟩ := outcome
        rw [run_bind_ok first] at failed
        cases between with
        | nil => exact joint first first' failed second'
        | cons c between =>
            rw [hr.steady first (List.cons_ne_nil c between) u] at first'
            cases first'
            obtain ⟨t, rfl, whole⟩ := hr.whole first
            exact ((hf first).cut failed second').behind whole

/-- A sequence whose second part fails at the end only for that end. -/
lemma ForwardAt.bind_short {r : Reader α} {f : α → Reader β} {cs : List Char}
    (hr : r.ForwardAt R cs) (hf : ∀ {a rest}, r.run cs = .ok (a, rest) → (f a).ForwardAt R rest)
    (short : ∀ a, (f a).EndsShort R) : (r >>= f).ForwardAt R cs := by
  refine hr.bind_of hf fun {a _ u _ _ _ _} first _ failed _ => ?_
  obtain ⟨t, rfl, whole⟩ := hr.whole first
  exact (short a failed u).behind whole

/-- A sequence whose first part reads the same whatever follows. -/
lemma ForwardAt.bind_closed {r : Reader α} {f : α → Reader β} {cs : List Char}
    (hr : r.ForwardAt R cs)
    (closed : ∀ {a rest}, r.run cs = .ok (a, rest) → ∀ u, r.run (cs ++ u) = .ok (a, rest ++ u))
    (hf : ∀ a, (f a).Forward R) : (r >>= f).ForwardAt R cs := by
  refine hr.bind_of (fun {a rest} _ => hf a rest) fun {a _ u _ _ _ _} first first' failed read => ?_
  rw [closed first u] at first'
  cases first'
  obtain ⟨t, rfl, whole⟩ := hr.whole first
  exact ((hf a []).cut failed read).behind whole

lemma EndsShort.bind {r : Reader α} {f : α → Reader β} (hr : r.EndsShort R)
    (hf : ∀ {a rest}, r.run [] = .ok (a, rest) → (f a).EndsShort R) : (r >>= f).EndsShort R := by
  intro g failed
  cases first : r.run [] with
  | error g' =>
      rw [run_bind, first] at failed
      cases failed
      exact hr first
  | ok outcome =>
      obtain ⟨a, rest⟩ := outcome
      obtain rfl := List.suffix_nil.mp (r.suffix first)
      rw [run_bind_ok first] at failed
      exact hf first failed

/-! ## Readers that may be cut -/

lemma cuttable_pure (a : α) : (pure a : Reader α).Cuttable R := ⟨forward_pure a, nofun⟩

lemma Cuttable.bind {r : Reader α} {f : α → Reader β} (hr : r.Cuttable R)
    (hf : ∀ a, (f a).Cuttable R) : (r >>= f).Cuttable R where
  forward cs := (hr.forward cs).bind_short (fun {a rest} _ => (hf a).forward rest) fun a =>
    (hf a).short
  short := hr.short.bind fun {a _} _ => (hf a).short

/-- The value of a reader may be changed. -/
lemma Cuttable.bind_pure {r : Reader α} (hr : r.Cuttable R) (f : α → β) :
    (r >>= fun a => pure (f a)).Cuttable R := hr.bind fun _ => cuttable_pure _

/-- Behind a closed reader that does not succeed at the end, nothing is asked of the end. -/
lemma Cuttable.bind_closed {r : Reader α} {f : α → Reader β} (hr : r.Cuttable R)
    (closed : r.Closed) (stuck : ∀ {a rest}, r.run [] ≠ .ok (a, rest))
    (hf : ∀ a, (f a).Forward R) : (r >>= f).Cuttable R where
  forward cs := (hr.forward cs).bind_closed (fun {_ _} run => closed run) hf
  short := hr.short.bind fun run => absurd run stuck

lemma ForwardFrom.bind {c : Char} {r : Reader α} {f : α → Reader β} (hr : r.ForwardFrom R c)
    (hf : ∀ a, (f a).Cuttable R) : (r >>= f).ForwardFrom R c := fun cs =>
  (hr cs).bind_short (fun {a rest} _ => (hf a).forward rest) fun a => (hf a).short

lemma ForwardFrom.bind_closed {c : Char} {r : Reader α} {f : α → Reader β}
    (hr : r.ForwardFrom R c) (closed : r.ClosedFrom c) (hf : ∀ a, (f a).Forward R) :
    (r >>= f).ForwardFrom R c := fun cs =>
  (hr cs).bind_closed (fun {_ _} run => closed run) hf

lemma ForwardFrom.bind_pure {c : Char} {r : Reader α} (hr : r.ForwardFrom R c) (f : α → β) :
    (r >>= fun a => pure (f a)).ForwardFrom R c := hr.bind fun _ => cuttable_pure _

lemma Forward.bind_closed {r : Reader α} {f : α → Reader β} (hr : r.Forward R)
    (closed : r.Closed) (hf : ∀ a, (f a).Forward R) : (r >>= f).Forward R := fun cs =>
  (hr cs).bind_closed (fun {_ _} run => closed run) hf

lemma Forward.bind_pure {r : Reader α} (hr : r.Forward R) (f : α → β) :
    (r >>= fun a => pure (f a)).Forward R := fun cs =>
  (hr cs).bind_short (fun {_ rest} _ => forward_pure _ rest) fun _ => nofun

/-! ## Characters -/

lemma forwardFrom_peek {c : Char} {f : Option Char → Reader α}
    (h : (f (some c)).ForwardFrom R c) : (peek >>= f).ForwardFrom R c := by
  intro cs
  have same (u : List Char) :
      (peek >>= f).run ([] ++ (c :: cs ++ u)) = (f (some c)).run (c :: cs ++ u) := rfl
  exact .behind R.nil same (h cs)

lemma advance_forwardFrom {c : Char} (whole : R.Whole [c]) : advance.ForwardFrom R c :=
  fun cs => .behind whole (fun _ => rfl) (forward_pure () cs)

lemma forwardFrom_advance {c : Char} (whole : R.Whole [c]) {f : Unit → Reader α}
    (h : (f ()).Forward R) : (advance >>= f).ForwardFrom R c :=
  fun cs => .behind whole (fun _ => rfl) (h cs)

/-- A reader that looks at a character may be cut, if it goes forward from every character, and
where there is none fails only for that. -/
lemma cuttable_peek {f : Option Char → Reader α} (atEnd : (f none).EndsShort R)
    (within : ∀ c, (f (some c)).ForwardFrom R c) : (peek >>= f).Cuttable R where
  forward
    | [] => forwardAt_nil atEnd
    | c :: cs => forwardFrom_peek (within c) cs
  short := atEnd

/-- Characters of a kind in front are read, if texts of them are whole. -/
lemma cuttable_takeWhile {kind : Char → Bool} (whole : ∀ {t : List Char}, (∀ c ∈ t, kind c) →
    R.Whole t) : (takeWhile kind).Cuttable R := by
  refine ⟨fun cs => ⟨fun run => ?_, fun run left u => ?_, nofun⟩, nofun⟩
  · cases run
    exact ⟨cs.takeWhile kind, List.takeWhile_append_dropWhile.symm,
      whole fun _ mem => List.mem_takeWhile_imp mem⟩
  · cases run
    obtain ⟨c, behind, ahead⟩ := List.exists_cons_of_ne_nil left
    have stops : kind c = false := not_of_dropWhile ahead
    have taken : ∀ d ∈ cs.takeWhile kind, kind d := fun d mem => List.mem_takeWhile_imp mem
    have split : cs ++ u = cs.takeWhile kind ++ (c :: (behind ++ u)) := by
      rw [← List.cons_append, ← ahead, ← List.append_assoc, List.takeWhile_append_dropWhile]
    rw [run_takeWhile, split, List.takeWhile_append_of_pos taken,
      List.dropWhile_append_of_pos taken, ahead]
    simp [stops]

/-- A reader that looks behind the blanks may be cut, if blanks are whole. -/
lemma cuttable_peekToken {f : Option Char → Reader α}
    (blanks : ∀ {t : List Char}, Blanks t → R.Whole t) (atEnd : (f none).EndsShort R)
    (within : ∀ c, (f (some c)).ForwardFrom R c) : (peekToken >>= f).Cuttable R := by
  have same : (peekToken >>= f) = (takeWhile isBlank >>= fun _ => peek >>= f) := rfl
  rw [same]
  exact (cuttable_takeWhile blanks).bind fun _ => cuttable_peek atEnd within

/-- Whether a character was taken is known, and nothing fails. -/
lemma cuttable_takeIf {kind : Char → Bool} (whole : ∀ {c}, kind c → R.Whole [c]) :
    (takeIf kind).Cuttable R := by
  refine cuttable_peek nofun fun c => ?_
  rw [Option.any_some]
  split
  case isTrue isKind => exact forwardFrom_advance (whole isKind) (forward_pure true)
  case isFalse => exact (forward_pure false).from c

/-! ## Loops -/

variable {step : σ → Reader (Turn σ α)} {strict : ∀ s, (step s).Strict}

/-- A loop fails at the end as its first step does. -/
lemma endsShort_loop {s : σ} (h : (step s).EndsShort R) : (loop step strict s).EndsShort R := by
  rw [loop_eq]
  exact h.bind fun run => absurd (strict s run) (Nat.not_lt_zero _)

/-- **A loop may be cut if its steps may.** -/
theorem cuttable_loop (h : ∀ s, (step s).Cuttable R) (s : σ) :
    (loop step strict s).Cuttable R := by
  refine ⟨fun cs => ?_, endsShort_loop (h s).short⟩
  induction length : cs.length using Nat.strong_induction_on generalizing s cs with
  | _ n ih =>
      rw [loop_eq]
      refine ((h s).forward cs).bind_short (fun {turn rest} run => ?_) fun turn => ?_
      · have shorter := strict s run
        cases turn with
        | more s' => exact ih rest.length (length ▸ shorter) s' rest rfl
        | done a => exact forward_pure a rest
      · cases turn with
        | more s' => exact endsShort_loop (h s').short
        | done a => nofun

end Reader

end InView.Json
