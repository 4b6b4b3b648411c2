import InView.Proofs.Json.Exact
import InView.Proofs.Json.Scale
import InView.Proofs.Json.Spelling
import Mathlib.Algebra.Order.Field.Power
import Mathlib.Algebra.Order.Field.Rat
import Mathlib.Tactic.FieldSimp
import Mathlib.Tactic.Positivity

/-!
# Brief numerals

A numeral is brief if its digits, and the power of ten that they are scaled by, are numbers that the
format holds.  Such a numeral is read as the number that it denotes, whatever its notation is: as a
whole number, with a point, or with an exponent (`IsBrief.value?_of_exponentInRange`).

Only the exponent as it is written may be too large to be read, if some two billion digits behind
the point make up for it.  The numeral is then out of range
(`IsBrief.value?_of_not_exponentInRange`), even if all that it spells is one (`value?_shiftedOne`).

Numerals of the same rational number denote equal numbers (`Denotes.beq_of_rational_eq`); they may
differ in the sign of zero.
-/

namespace InView.Json

open Binary64

/-! ## Rounding of small decimals -/

/-- Digits and powers of ten that the format holds make up a number within the format. -/
lemma fits_nearestUnits {d : Decimal} (digits : d.digits ≤ 2 ^ 53)
    (exponent : d.exponent.natAbs ≤ 22) : Fits d.nearestUnits := by
  have least : d.nearestUnits ≤ roundUnits (d.digits * 10 ^ d.exponent.toNat * one) 1 := by
    refine roundUnits_mono (Nat.pow_pos (by decide)) Nat.one_pos ?_
    rw [Nat.mul_one]
    exact Nat.le_mul_of_pos_right _ (Nat.pow_pos (by decide))
  refine fits_roundUnits (least.trans_lt (roundUnits_lt_limit ?_))
  calc d.digits * 10 ^ d.exponent.toNat
      ≤ 10 ^ 16 * 10 ^ 22 := Nat.mul_le_mul (digits.trans (by decide))
        (Nat.pow_le_pow_right (by decide) (by omega))
    _ ≤ 10 ^ stepExponent := by
        rw [← Nat.pow_add]
        exact Nat.pow_le_pow_right (by decide) (by decide)

/-- A whole number up to `2 ^ 53` is its own rounding. -/
lemma nearestUnits_whole {n : Nat} (h : n ≤ 2 ^ 53) : Decimal.nearestUnits ⟨n, 0⟩ = n * one := by
  have fits := fits_mul_one h
  simp [Decimal.nearestUnits, roundUnits_of_fits fits]

lemma nearestUnits_zero (exponent : Int) : Decimal.nearestUnits ⟨0, exponent⟩ = 0 := by
  rw [Decimal.nearestUnits, Nat.zero_mul, Nat.zero_mul, ← Nat.le_zero]
  exact roundUnits_le (Nat.pow_pos (by decide)) (dvd_zero _) (Nat.zero_le _)

/-! ## Reading brief numerals -/

/-- Digits that reach the bound are not all absorbed. -/
lemma absorb_of_le {bound n : Nat} {ds : List Char} (start : n < bound)
    (h : bound ≤ Nat.ofDigitChars 10 ds n) :
    ∃ m d left, absorb bound n ds = (m, d :: left) := by
  induction ds generalizing n with
  | nil => exact absurd start (Nat.not_lt.mpr h)
  | cons d ds ih =>
      rw [Nat.ofDigitChars_cons] at h
      by_cases room : 10 * n + digitValue d < bound
      · rw [absorb, if_pos room]
        exact ih room h
      · exact ⟨n, d, ds, by rw [absorb, if_neg room]⟩

namespace NumeralForm

/-- The digits of a numeral are a number up to `2 ^ 53`, and its power of ten is at most the
twenty-second in either direction. -/
structure IsBrief (n : NumeralForm) : Prop where
  digits : n.decimal.digits ≤ 2 ^ 53
  exponent : n.decimal.exponent.natAbs ≤ 22

variable {n : NumeralForm}

lemma IsBrief.denotes (h : n.IsBrief) :
    n.Denotes (.finite n.negative n.decimal.nearestUnits (fits_nearestUnits h.digits h.exponent)) :=
  denotes_iff.mpr ⟨_, rfl⟩

lemma withSign_finite (negative : Bool) {units : Nat} (fits : Fits units) :
    withSign negative (.finite false units fits) = .finite negative units fits := by
  cases negative <;> rfl

/-- A whole number up to `2 ^ 53` is read as it is, and zero with its sign. -/
lemma toBinary64_wholeNumber (negative : Bool) {n : Nat} (h : n ≤ 2 ^ 53) :
    ∃ fits, (wholeNumber negative n).toBinary64 = .finite negative (n * one) fits := by
  obtain ⟨fits, whole⟩ := ofNat_of_le h
  have signed : (wholeNumber negative n).toBinary64 = withSign negative (ofNat n) := by
    cases negative with
    | false => simp only [wholeNumber, Bool.not_false, if_true, Number.toBinary64, withSign,
        Bool.false_eq_true, if_false]
    | true =>
        simp only [wholeNumber, Bool.not_true, Bool.false_eq_true, if_false, withSign, if_true]
        split <;> simp only [Number.toBinary64]
  exact ⟨fits, by rw [signed, whole, withSign_finite]⟩

/-- A numeral without a point and an exponent is read as a whole number. -/
lemma IsBrief.value?_of_whole (h : n.IsBrief) (noPoint : n.fraction = none)
    (noExponent : n.exponent = none) : ∃ v, n.value? = some v ∧ n.Denotes v.toBinary64 := by
  have digits : n.decimal.digits = Nat.ofDigitChars 10 n.whole 0 := by
    simp [decimal, places, noPoint]
  have exponent : n.decimal.exponent = 0 := by
    simp [decimal, places, noPoint, noExponent, exponentPower]
  have small : Nat.ofDigitChars 10 n.whole 0 ≤ 2 ^ 53 := digits ▸ h.digits
  have absorbed : absorb significandLimit 0 n.whole = (Nat.ofDigitChars 10 n.whole 0, []) :=
    absorb_of_lt (small.trans_lt (by decide))
  have read : n.value? = some (wholeNumber n.negative (Nat.ofDigitChars 10 n.whole 0)) := by
    simp only [value?, absorbed, noPoint, noExponent, List.isEmpty_nil, if_true]
  have nearest : n.decimal.nearestUnits = Nat.ofDigitChars 10 n.whole 0 * one := by
    have whole : n.decimal = ⟨Nat.ofDigitChars 10 n.whole 0, 0⟩ := by
      rw [← digits, ← exponent]
    rw [whole, nearestUnits_whole small]
  obtain ⟨fits, value⟩ := toBinary64_wholeNumber n.negative small
  refine ⟨_, read, denotes_iff.mpr ⟨nearest ▸ fits, ?_⟩⟩
  simp only [value, nearest]

/-- A numeral with a point or an exponent is read by scaling its digits once. -/
lemma IsBrief.value?_of_scaled (h : n.IsBrief) (real : n.fraction ≠ none ∨ n.exponent ≠ none)
    (within : ∀ e ∈ n.exponent, Nat.ofDigitChars 10 e.digits 0 < exponentLimit) :
    ∃ v, n.value? = some v ∧ n.Denotes v.toBinary64 := by
  have exponent := h.exponent
  have keeps : n.KeepsDigits :=
    { real
      digits := h.digits.trans_lt (by decide)
      exponent := fun e mem => ⟨within e mem, by rw [exponentLimit]; omega,
        by rw [exponentLimit]; omega⟩ }
  have fits := fits_nearestUnits h.digits h.exponent
  refine ⟨.real (.finite n.negative n.decimal.nearestUnits fits), ?_, h.denotes⟩
  rw [value?_of_keepsDigits keeps, scale?_of_small h.digits h.exponent fits rfl, Option.map_some,
    withSign_finite]

/-- The exponent can be read as it is written: it is below the bound of exponents, unless the digits
are zero and any exponent will do. -/
def ExponentInRange (n : NumeralForm) : Prop :=
  n.decimal.digits = 0 ∨ ∀ e ∈ n.exponent, Nat.ofDigitChars 10 e.digits 0 < exponentLimit

/-- Behind the bound an exponent is not read any further: zero remains zero, and any other number is
out of range.  If the numeral is brief, there are digits behind the point to make up for it. -/
lemma IsBrief.value?_of_large (h : n.IsBrief) {e : ExponentForm} (isExponent : n.exponent = some e)
    (large : exponentLimit ≤ Nat.ofDigitChars 10 e.digits 0) :
    exponentLimit ≤ n.places.length + 22 ∧
      n.value? = if n.decimal.digits = 0 then some (.real (.zero n.negative)) else none := by
  obtain ⟨m, d, left, absorbed⟩ := absorb_of_le (show 0 < exponentLimit by decide) large
  have read : n.value? = e.value? n.negative n.decimal.digits (-(n.places.length : Int)) := by
    rw [value?_eq_scaled? (.inr (by simp [isExponent])) (h.digits.trans_lt (by decide)),
      isExponent, scaled?]
  have spelt : n.decimal.exponent = e.power - n.places.length := by
    rw [decimal, isExponent, exponentPower]
  have within := h.exponent
  have up : e.sign ≠ ['-'] := by
    intro down
    rw [ExponentForm.power, if_pos down] at spelt
    rw [exponentLimit] at large
    omega
  rw [ExponentForm.power, if_neg up] at spelt
  refine ⟨by omega, ?_⟩
  rw [read, ExponentForm.value?, absorbed]
  by_cases zero : n.decimal.digits = 0
  · simp [zero]
  · simp [zero, up]

lemma denotes_zero (zero : n.decimal.digits = 0) : n.Denotes (.zero n.negative) := by
  have nearest : n.decimal.nearestUnits = 0 := by
    rw [← nearestUnits_zero n.decimal.exponent, ← zero]
  refine denotes_iff.mpr ⟨nearest ▸ fits_zero, ?_⟩
  simp only [Binary64.zero, nearest]

/-- **A brief numeral is read as the number that it denotes**, if its exponent can be read. -/
theorem IsBrief.value?_of_exponentInRange (h : n.IsBrief) (inRange : n.ExponentInRange) :
    ∃ v, n.value? = some v ∧ n.Denotes v.toBinary64 := by
  cases exponent : n.exponent with
  | none =>
      cases fraction : n.fraction with
      | none => exact h.value?_of_whole fraction exponent
      | some digits =>
          exact h.value?_of_scaled (.inl (by simp [fraction])) (by simp [exponent])
  | some e =>
      by_cases large : exponentLimit ≤ Nat.ofDigitChars 10 e.digits 0
      · have zero : n.decimal.digits = 0 :=
          inRange.resolve_right fun within => absurd (within e exponent) (Nat.not_lt.mpr large)
        obtain ⟨-, read⟩ := h.value?_of_large exponent large
        rw [if_pos zero] at read
        exact ⟨_, read, denotes_zero zero⟩
      · refine h.value?_of_scaled (.inr (by simp [exponent])) ?_
        simpa [exponent] using large

/-- If its exponent cannot be read, a brief numeral is out of range. -/
theorem IsBrief.value?_of_not_exponentInRange (h : n.IsBrief) (outOfRange : ¬ n.ExponentInRange) :
    n.value? = none ∧ exponentLimit ≤ n.places.length + 22 := by
  simp only [ExponentInRange, not_or, not_forall, Nat.not_lt] at outOfRange
  obtain ⟨nonzero, e, isExponent, large⟩ := outOfRange
  obtain ⟨places, read⟩ := h.value?_of_large isExponent large
  exact ⟨by rw [read, if_neg nonzero], places⟩

/-- A brief numeral whose exponent can be read, with no more digits behind its point than a count of
32 bits holds. -/
structure IsReadable (n : NumeralForm) : Prop extends IsBrief n where
  places : n.places.length ≤ 2 ^ 31
  inRange : n.ExponentInRange

end NumeralForm

/-! ### One behind zeros -/

/-- One with zeros behind the point, and an exponent that moves the point behind its last digit. -/
def shiftedOne (zeros : Nat) : NumeralForm where
  negative := false
  whole := ['0']
  fraction := some (List.replicate zeros '0' ++ ['1'])
  exponent := some ⟨'e', [], Nat.toDigits 10 (zeros + 1), rfl, .inl rfl, isDigits_toDigits _⟩
  isWhole := by decide
  isFraction := by
    rintro _ ⟨⟩
    refine ⟨by simp, fun d mem => ?_⟩
    rw [List.mem_append, List.mem_replicate, List.mem_singleton] at mem
    rcases mem with ⟨-, rfl⟩ | rfl <;> rfl

lemma length_places_shiftedOne (zeros : Nat) : (shiftedOne zeros).places.length = zeros + 1 := by
  simp [NumeralForm.places, shiftedOne]

lemma decimal_shiftedOne (zeros : Nat) : (shiftedOne zeros).decimal = ⟨1, 0⟩ := by
  have exponent : exponentPower (shiftedOne zeros).exponent = (zeros + 1 : Nat) := by
    simp [shiftedOne, exponentPower, ExponentForm.power, Nat.ofDigitChars_ten_toDigits]
  have digits :
      Nat.ofDigitChars 10 ((shiftedOne zeros).whole ++ (shiftedOne zeros).places) 0 = 1 := by
    simp [shiftedOne, NumeralForm.places, Nat.ofDigitChars_append, Nat.ofDigitChars_cons]
  rw [NumeralForm.decimal, digits, exponent, length_places_shiftedOne, Int.sub_self]

/-- It denotes one, however many zeros there are. -/
lemma denotes_shiftedOne (zeros : Nat) : (shiftedOne zeros).Denotes (.ofNat 1) := by
  obtain ⟨fits, one⟩ := ofNat_of_le (show 1 ≤ 2 ^ 53 by decide)
  refine NumeralForm.denotes_iff.mpr ⟨?_, ?_⟩
  · rw [decimal_shiftedOne, nearestUnits_whole (by decide)]
    exact fits
  · simp only [decimal_shiftedOne, nearestUnits_whole (show 1 ≤ 2 ^ 53 by decide), one]
    rfl

lemma isBrief_shiftedOne (zeros : Nat) : (shiftedOne zeros).IsBrief := by
  constructor <;> simp [decimal_shiftedOne]

/-- But with so many zeros that the exponent cannot be read it is out of range. -/
lemma value?_shiftedOne {zeros : Nat} (many : exponentLimit ≤ zeros + 1) :
    (shiftedOne zeros).value? = none := by
  refine ((isBrief_shiftedOne zeros).value?_of_not_exponentInRange ?_).1
  rintro (zero | within)
  · simp [decimal_shiftedOne] at zero
  · have small := within _ rfl
    rw [Nat.ofDigitChars_ten_toDigits] at small
    omega

/-! ## Numerals of the same number -/

namespace NumeralForm

variable {n : NumeralForm}

/-- The rational number that a numeral spells. -/
def rational (n : NumeralForm) : ℚ :=
  (if n.negative then -1 else 1) * (n.decimal.digits * 10 ^ n.decimal.exponent)

lemma zpow_ten (e : Int) : (10 : ℚ) ^ e = 10 ^ e.toNat / 10 ^ (-e).toNat := by
  have split : e = (e.toNat : Int) - ((-e).toNat : Int) := by omega
  calc (10 : ℚ) ^ e = 10 ^ ((e.toNat : Int) - ((-e).toNat : Int)) := by rw [← split]
    _ = 10 ^ e.toNat / 10 ^ (-e).toNat := by
        rw [zpow_sub₀ (by norm_num), zpow_natCast, zpow_natCast]

/-- Decimals of the same number have the same rounding. -/
lemma nearestUnits_congr {d d' : Decimal}
    (same : (d.digits * 10 ^ d.exponent : ℚ) = d'.digits * 10 ^ d'.exponent) :
    d.nearestUnits = d'.nearestUnits := by
  rw [zpow_ten, zpow_ten, mul_div_assoc', mul_div_assoc',
    div_eq_div_iff (by positivity) (by positivity)] at same
  have crossed : d.digits * 10 ^ d.exponent.toNat * 10 ^ (-d'.exponent).toNat =
      d'.digits * 10 ^ d'.exponent.toNat * 10 ^ (-d.exponent).toNat := by
    exact_mod_cast same
  refine roundUnits_congr (Nat.pow_pos (by decide)) (Nat.pow_pos (by decide)) ?_
  rw [Nat.mul_right_comm, crossed, Nat.mul_right_comm]

lemma abs_rational (n : NumeralForm) :
    |n.rational| = n.decimal.digits * 10 ^ n.decimal.exponent := by
  have nonneg : (0 : ℚ) ≤ n.decimal.digits * 10 ^ n.decimal.exponent := by positivity
  rw [rational, abs_mul, abs_of_nonneg nonneg]
  split <;> simp

lemma rational_neg_iff (n : NumeralForm) :
    n.rational < 0 ↔ n.negative ∧ n.decimal.digits ≠ 0 := by
  have power : (0 : ℚ) < 10 ^ n.decimal.exponent := by positivity
  rw [rational]
  cases n.negative with
  | false => simpa using by positivity
  | true =>
      rw [if_pos rfl, neg_one_mul, neg_lt_zero, mul_pos_iff_of_pos_right power, Nat.cast_pos,
        Nat.pos_iff_ne_zero]
      simp

/-- **Numerals of the same number denote equal numbers.** -/
theorem Denotes.beq_of_rational_eq {n' : NumeralForm} {x x' : Binary64} (h : n.Denotes x)
    (h' : n'.Denotes x') (same : n.rational = n'.rational) : x == x' := by
  obtain ⟨fits, rfl⟩ := denotes_iff.mp h
  obtain ⟨fits', rfl⟩ := denotes_iff.mp h'
  have units : n.decimal.nearestUnits = n'.decimal.nearestUnits :=
    nearestUnits_congr (by rw [← abs_rational, ← abs_rational, same])
  refine Binary64.beq_iff.mpr ⟨nofun, nofun, ?_⟩
  rw [level, level, ← units]
  by_cases zero : n.decimal.nearestUnits = 0
  · cases n.negative <;> cases n'.negative <;> simp [signed, zero]
  · have digits {m : NumeralForm} (nonzero : m.decimal.nearestUnits ≠ 0) :
        m.decimal.digits ≠ 0 := by
      intro none
      rw [← nearestUnits_zero m.decimal.exponent, ← none] at nonzero
      exact nonzero rfl
    have sign := n.rational_neg_iff
    rw [same, rational_neg_iff, and_iff_left (digits zero),
      and_iff_left (digits (units ▸ zero))] at sign
    rw [Bool.eq_iff_iff.mpr sign]

end NumeralForm

end InView.Json
