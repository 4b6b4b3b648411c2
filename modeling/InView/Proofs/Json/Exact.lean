import InView.Decimal.Shortest
import InView.Proofs.Binary64.Nearest
import InView.Proofs.Json.Numeral

/-!
# What a numeral spells

A numeral spells a decimal: the digits on both sides of its point, scaled by its exponent less one
power of ten for each digit behind the point (`NumeralForm.decimal`).  The number that it denotes
is the one nearest to that decimal, under the sign of the numeral, and there is only one
(`NumeralForm.Denotes.unique`).

A reader need not find that number.  As long as it loses no digit, it scales the digits and the
power of ten of this decimal (`value?_of_keepsDigits`), and scaling rounds more than once.

Of a text that begins with a numeral it is determined which one this is and where it ends
(`NumeralForm.unique`), so nothing here depends on how a numeral is taken apart.
-/

namespace InView.Json

open Reader

/-! ## The decimal of a numeral -/

/-- The power of ten that an exponent stands for. -/
def ExponentForm.power (e : ExponentForm) : Int :=
  if e.sign = ['-'] then -(Nat.ofDigitChars 10 e.digits 0 : Int) else Nat.ofDigitChars 10 e.digits 0

/-- The power of ten that stands in the place of an exponent. -/
def exponentPower : Option ExponentForm → Int
  | some e => e.power
  | none => 0

namespace NumeralForm

/-- The digits behind the point. -/
def places (n : NumeralForm) : List Char := n.fraction.getD []

/-- The decimal that a numeral spells, without its sign. -/
def decimal (n : NumeralForm) : Decimal where
  digits := Nat.ofDigitChars 10 (n.whole ++ n.places) 0
  exponent := exponentPower n.exponent - n.places.length

/-- The finite number nearest to what a numeral spells, ties going to the even significand.  Its
sign is that of the numeral, also if it is zero. -/
def Denotes (n : NumeralForm) (x : Binary64) : Prop :=
  ∃ units fits, x = .finite n.negative units fits ∧
    Binary64.IsNearest units (n.decimal.digits * 10 ^ n.decimal.exponent.toNat * Binary64.one)
      (10 ^ (-n.decimal.exponent).toNat)

lemma denotes_iff {n : NumeralForm} {x : Binary64} :
    n.Denotes x ↔ ∃ fits, x = .finite n.negative n.decimal.nearestUnits fits := by
  have pos : 0 < 10 ^ (-n.decimal.exponent).toNat := Nat.pow_pos (by decide)
  constructor
  · rintro ⟨units, fits, rfl, nearest⟩
    obtain rfl : units = n.decimal.nearestUnits := (Binary64.isNearest_iff pos).mp nearest
    exact ⟨fits, rfl⟩
  · rintro ⟨fits, rfl⟩
    exact ⟨_, fits, rfl, (Binary64.isNearest_iff pos).mpr rfl⟩

/-- A numeral denotes one number. -/
lemma Denotes.unique {n : NumeralForm} {x y : Binary64} (h : n.Denotes x) (h' : n.Denotes y) :
    x = y := by
  obtain ⟨_, rfl⟩ := denotes_iff.mp h
  obtain ⟨_, rfl⟩ := denotes_iff.mp h'
  rfl

end NumeralForm

/-! ## Numerals at the beginning of a text -/

/-- Of an exponent that ends where no digit follows, the parts are determined. -/
lemma ExponentForm.unique {e e' : ExponentForm} {rest rest' : List Char}
    (hrest : NoDigitAhead rest) (hrest' : NoDigitAhead rest')
    (same : e.text ++ rest = e'.text ++ rest') : e = e' ∧ rest = rest' := by
  obtain ⟨mark, sign, digits, isMark, isSign, isDigits⟩ := e
  obtain ⟨mark', sign', digits', isMark', isSign', isDigits'⟩ := e'
  simp only [text, List.cons_append, List.append_assoc, List.cons.injEq] at same
  obtain ⟨rfl, same⟩ := same
  obtain ⟨-, rfl, behindSign⟩ := exponentSign_accepts.unique ⟨isSign, decide_eq_true_iff⟩
    ⟨isSign', decide_eq_true_iff⟩ (isDigits.noSignAhead _) (isDigits'.noSignAhead _) same
  have run := run_someDigits .invalidNumber isDigits hrest
  rw [behindSign, run_someDigits .invalidNumber isDigits' hrest'] at run
  cases run
  exact ⟨rfl, rfl⟩

/-- Whether there is an exponent is seen from its mark. -/
lemma exponent_unique {e e' : Option ExponentForm} {rest rest' : List Char}
    (hrest : ExponentEnds e rest) (hrest' : ExponentEnds e' rest')
    (same : NumeralForm.exponentText e ++ rest = NumeralForm.exponentText e' ++ rest') :
    e = e' ∧ rest = rest' := by
  have marked {e : ExponentForm} {rest rest' : List Char} (hrest : ExponentEnds none rest) :
      rest ≠ e.text ++ rest' := by
    rintro rfl
    exact absurd (hrest.mark rfl e.mark rfl) (by simp [e.isMark])
  cases e with
  | none =>
      cases e' with
      | none => exact ⟨rfl, same⟩
      | some e' => exact absurd same (marked hrest)
  | some e =>
      cases e' with
      | none => exact absurd same.symm (marked hrest')
      | some e' =>
          obtain ⟨rfl, rest_eq⟩ := ExponentForm.unique hrest.digit hrest'.digit same
          exact ⟨rfl, rest_eq⟩

/-- **At the beginning of a text there is at most one numeral that ends where it cannot go on.** -/
theorem NumeralForm.unique {n n' : NumeralForm} {rest rest' : List Char} (hrest : NumeralEnds rest)
    (hrest' : NumeralEnds rest') (same : n.text ++ rest = n'.text ++ rest') :
    n = n' ∧ rest = rest' := by
  have ends := hrest.ends n
  have ends' := hrest'.ends n'
  have sign := run_sign n rest
  rw [same, run_sign n' rest', Except.ok.injEq, Prod.mk.injEq] at sign
  obtain ⟨negative, behindSign⟩ := sign
  have whole := run_wholeDigits .invalidNumber n.isWhole ends.noDigitBehindWhole
  rw [← behindSign, run_wholeDigits .invalidNumber n'.isWhole ends'.noDigitBehindWhole,
    Except.ok.injEq, Prod.mk.injEq] at whole
  obtain ⟨whole, behindWhole⟩ := whole
  have noPoint {m : NumeralForm} {left : List Char} (h : m.Ends left) (fraction : m.fraction = none)
      (behind : List Char) : '.' :: behind ≠ exponentText m.exponent ++ left := by
    intro point
    exact absurd (h.noPoint fraction '.' (by rw [← point]; rfl)) (by decide)
  obtain ⟨_, _, fraction, exponent, _, isFraction⟩ := n
  obtain ⟨_, _, fraction', exponent', _, isFraction'⟩ := n'
  simp only at negative whole behindWhole
  subst negative whole
  cases fraction with
  | none =>
      cases fraction' with
      | none =>
          obtain ⟨rfl, rest_eq⟩ := exponent_unique ends.toExponentEnds ends'.toExponentEnds
            behindWhole.symm
          exact ⟨rfl, rest_eq⟩
      | some digits' => exact absurd behindWhole (noPoint ends rfl _)
  | some digits =>
      cases fraction' with
      | none => exact absurd behindWhole.symm (noPoint ends' rfl _)
      | some digits' =>
          simp only [fractionText, List.cons_append, List.cons.injEq, true_and] at behindWhole
          have run := run_someDigits .invalidNumber (isFraction digits rfl)
            ends.toExponentEnds.noDigitAhead
          rw [← behindWhole, run_someDigits .invalidNumber (isFraction' digits' rfl)
            ends'.toExponentEnds.noDigitAhead, Except.ok.injEq, Prod.mk.injEq] at run
          obtain ⟨rfl, behindPoint⟩ := run
          obtain ⟨rfl, rest_eq⟩ := exponent_unique ends.toExponentEnds ends'.toExponentEnds
            behindPoint.symm
          exact ⟨rfl, rest_eq⟩

lemma le_ofDigitChars (ds : List Char) (n : Nat) : n ≤ Nat.ofDigitChars 10 ds n := by
  rw [Nat.ofDigitChars_eq_ofDigitChars_zero]
  exact (Nat.le_mul_of_pos_left n (Nat.pow_pos (by decide))).trans (Nat.le_add_right _ _)

/-- Digits that stay below the bound are all absorbed. -/
lemma absorb_of_lt {bound n : Nat} {ds : List Char} (h : Nat.ofDigitChars 10 ds n < bound) :
    absorb bound n ds = (Nat.ofDigitChars 10 ds n, []) := by
  induction ds generalizing n with
  | nil => rfl
  | cons d ds ih =>
      rw [Nat.ofDigitChars_cons] at h ⊢
      have lt : 10 * n + digitValue d < bound := (le_ofDigitChars ds _).trans_lt h
      rw [absorb, if_pos lt]
      exact ih h

/-! ## Reading without losing digits -/

namespace NumeralForm

/-- Reading the numeral loses none of its digits: the significand and the exponent are within the
bounds of what is read, and it has a point or an exponent, so it is not read as a whole number. -/
structure KeepsDigits (n : NumeralForm) : Prop where
  real : n.fraction ≠ none ∨ n.exponent ≠ none
  digits : n.decimal.digits < significandLimit
  exponent : ∀ e ∈ n.exponent, Nat.ofDigitChars 10 e.digits 0 < exponentLimit ∧
    -(exponentLimit : Int) ≤ n.decimal.exponent ∧ n.decimal.exponent < exponentLimit

/-- An exponent that fits is added to the power of ten. -/
lemma scaled?_eq {exponent : Option ExponentForm} (negative : Bool) (significand : Nat)
    {power total : Int} (sum : total = exponentPower exponent + power)
    (fits : ∀ e ∈ exponent, Nat.ofDigitChars 10 e.digits 0 < exponentLimit ∧
      -(exponentLimit : Int) ≤ total ∧ total < exponentLimit) :
    scaled? negative significand power exponent =
      (scale? significand total).map fun x => .real (withSign negative x) := by
  cases exponent with
  | none =>
      rw [scaled?, sum, exponentPower, Int.zero_add]
  | some e =>
      obtain ⟨digits, lower, upper⟩ := fits e rfl
      have power_eq : (if e.sign = ['-'] then power - Nat.ofDigitChars 10 e.digits 0
          else power + Nat.ofDigitChars 10 e.digits 0) = total := by
        rw [sum, exponentPower, ExponentForm.power]
        split <;> omega
      rw [scaled?, ExponentForm.value?, absorb_of_lt digits]
      simp only [power_eq]
      rw [clampExponent, Int.min_eq_right (by omega), Int.max_eq_right lower]

/-- If all digits fit into the significand, those behind the point lower the power of ten. -/
lemma value?_eq_scaled? {n : NumeralForm} (real : n.fraction ≠ none ∨ n.exponent ≠ none)
    (digits : n.decimal.digits < significandLimit) :
    n.value? = scaled? n.negative n.decimal.digits (-(n.places.length : Int)) n.exponent := by
  rw [decimal, Nat.ofDigitChars_append] at digits
  rw [value?, absorb_of_lt ((le_ofDigitChars n.places _).trans_lt digits), decimal,
    Nat.ofDigitChars_append]
  cases fraction : n.fraction with
  | some places =>
      simp only [NumeralForm.places, fraction, Option.getD_some] at digits ⊢
      simp only [scaledFraction?, absorb_of_lt digits, List.length_nil]
      congr 1
      simp
  | none =>
      simp only [NumeralForm.places, fraction, Option.getD_none]
      cases exponent : n.exponent with
      | none => exact absurd (real.resolve_left (absurd fraction)) (absurd exponent)
      | some e => rfl

/-- **A numeral whose digits are kept is read by scaling the decimal that it spells.** -/
theorem value?_of_keepsDigits {n : NumeralForm} (h : n.KeepsDigits) :
    n.value? = (scale? n.decimal.digits n.decimal.exponent).map
      fun x => .real (withSign n.negative x) := by
  have spelt : n.decimal.exponent = exponentPower n.exponent + -(n.places.length : Int) := rfl
  rw [value?_eq_scaled? h.real h.digits, scaled?_eq n.negative n.decimal.digits spelt h.exponent]

end NumeralForm

end InView.Json
