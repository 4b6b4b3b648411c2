import InView.Proofs.Json.Exact

/-!
# The numeral of a decimal

What a number is written as is a numeral, and reading it starts from the digits that were
written.  `Decimal.readBack` is the significand and the power of ten that are read: those of the
decimal, except that a whole number in plain form ends in `.0`, which adds a digit and lowers the
power.

The three forms of a numeral are dealt with one by one, and `spells_decimal` draws them together:
the numeral of a short decimal spells what is read back from it, and none of its digits is lost in
reading.  So it is read as what scaling makes of its significand (`numberText_decimal`).
-/

namespace InView

open Binary64 Json

/-! ## What is read from a decimal -/

/-- Whether a decimal is written plainly. -/
def Decimal.IsPlain (d : Decimal) : Prop :=
  -5 ≤ d.exponent + (Nat.toDigits 10 d.digits).length - 1 ∧
    d.exponent + (Nat.toDigits 10 d.digits).length - 1 ≤ 15

instance (d : Decimal) : Decidable d.IsPlain := inferInstanceAs (Decidable (_ ∧ _))

/-- The significand and the power of ten that are read from the numeral of a decimal. -/
def Decimal.readBack (d : Decimal) : Nat × Int :=
  if d.IsPlain ∧ 0 ≤ d.exponent then (d.digits * 10 ^ (d.exponent.toNat + 1), -1)
  else (d.digits, d.exponent)

/-- A whole number in plain form has at most sixteen digits, to which reading adds one. -/
lemma Decimal.readBack_le {d : Decimal} (plain : d.IsPlain) (whole : 0 ≤ d.exponent) :
    d.digits * 10 ^ (d.exponent.toNat + 1) ≤ 10 ^ 17 := by
  have digits_lt : d.digits < 10 ^ (Nat.toDigits 10 d.digits).length :=
    (Nat.length_toDigits_le_iff (by decide) Nat.length_toDigits_pos).mp (le_refl _)
  calc d.digits * 10 ^ (d.exponent.toNat + 1)
      ≤ 10 ^ (Nat.toDigits 10 d.digits).length * 10 ^ (d.exponent.toNat + 1) :=
        Nat.mul_le_mul_right _ digits_lt.le
    _ = 10 ^ ((Nat.toDigits 10 d.digits).length + (d.exponent.toNat + 1)) :=
        (Nat.pow_add 10 _ _).symm
    _ ≤ 10 ^ 17 := Nat.pow_le_pow_right (by decide) (by have := plain.2; omega)

/-- The bounds within which a decimal is written and read without losing digits. -/
structure Decimal.IsShort (d : Decimal) : Prop where
  digits : d.digits ≤ 10 ^ 18
  exponent : d.exponent.natAbs ≤ 1000
  zero : d.digits = 0 → d.exponent = 0

namespace Json

/-! ## Digits -/

lemma isDigits_toDigits (n : Nat) : IsDigits (Nat.toDigits 10 n) :=
  ⟨Nat.toDigits_ne_nil, fun _ mem => Nat.isDigit_of_mem_toDigits (by decide) (by decide) mem⟩

/-- The digits of a positive number do not begin with a zero. -/
lemma head?_toDigits {n : Nat} (h : n ≠ 0) : (Nat.toDigits 10 n).head? ≠ some '0' := by
  induction n using Nat.strong_induction_on with
  | _ n ih =>
      rw [Nat.toDigits_eq_if (by decide)]
      split
      case isTrue lt =>
        have digit : ∀ n < 10, n ≠ 0 → n.digitChar ≠ '0' := by decide
        simpa using digit n lt h
      case isFalse ge =>
        have first := ih (n / 10) (by omega) (by omega)
        obtain ⟨d, ds, split⟩ := List.exists_cons_of_ne_nil (isDigits_toDigits (n / 10)).1
        rw [split] at first ⊢
        simpa using first

/-! ## Digits around the point -/

/-- Digits behind so many zeros that there are more of them than places. -/
def padded (digits : List Char) (places : Nat) : List Char :=
  List.replicate (places + 1 - digits.length) '0' ++ digits

/-- The padded digits before the point. -/
def beforePoint (digits : List Char) (places : Nat) : List Char :=
  (padded digits places).take ((padded digits places).length - places)

/-- The padded digits behind the point. -/
def behindPoint (digits : List Char) (places : Nat) : List Char :=
  (padded digits places).drop ((padded digits places).length - places)

lemma length_padded (digits : List Char) (places : Nat) :
    (padded digits places).length = max (places + 1) digits.length := by
  rw [padded, List.length_append, List.length_replicate]
  omega

lemma length_behindPoint (digits : List Char) (places : Nat) :
    (behindPoint digits places).length = places := by
  rw [behindPoint, List.length_drop, length_padded]
  omega

section

variable {digits : List Char} (isDigits : IsDigits digits)

include isDigits

lemma isDigit_padded (places : Nat) : ∀ c ∈ padded digits places, c.isDigit := by
  intro c mem
  rcases List.mem_append.mp mem with mem | mem
  · rw [List.eq_of_mem_replicate mem]
    decide
  · exact isDigits.2 c mem

/-- Either the only digit before the point is a padding zero, or nothing was padded. -/
lemma isWhole_beforePoint (first : digits.head? ≠ some '0') (places : Nat) :
    IsWhole (beforePoint digits places) := by
  have length := length_padded digits places
  refine ⟨⟨?_, fun c mem => isDigit_padded isDigits places c (List.mem_of_mem_take mem)⟩, ?_⟩
  · rw [← List.length_pos_iff, beforePoint, List.length_take]
    omega
  · by_cases few : digits.length ≤ places
    · obtain ⟨j, zeros⟩ : ∃ j, places + 1 - digits.length = j + 1 :=
        ⟨places - digits.length, by omega⟩
      refine Or.inl ?_
      rw [beforePoint, show (padded digits places).length - places = 1 by omega, padded, zeros,
        List.replicate_succ]
      rfl
    · refine Or.inr ?_
      obtain ⟨j, before⟩ : ∃ j, (padded digits places).length - places = j + 1 :=
        ⟨(padded digits places).length - places - 1, by omega⟩
      obtain ⟨c, cs, rfl⟩ := List.exists_cons_of_ne_nil isDigits.1
      rw [beforePoint, before, padded,
        show places + 1 - (c :: cs).length = 0 by omega, List.replicate_zero, List.nil_append,
        List.take_succ_cons]
      simpa using first

lemma isDigits_behindPoint {places : Nat} (pos : 0 < places) :
    IsDigits (behindPoint digits places) := by
  refine ⟨?_, fun c mem => isDigit_padded isDigits places c (List.mem_of_mem_drop mem)⟩
  rw [← List.length_pos_iff, length_behindPoint]
  exact pos

end

/-- Neither the point nor the padding changes the digits. -/
lemma ofDigitChars_point (digits : List Char) (places : Nat) :
    Nat.ofDigitChars 10 (beforePoint digits places ++ behindPoint digits places) 0 =
      Nat.ofDigitChars 10 digits 0 := by
  rw [beforePoint, behindPoint, List.take_append_drop, padded, Nat.ofDigitChars_append,
    Nat.ofDigitChars_replicate_zero, Nat.mul_zero]

/-! ## Numerals of decimals -/

/-- The exponent of a decimal numeral, with its sign. -/
def exponentForm (leading : Int) : ExponentForm where
  mark := 'e'
  sign := if leading < 0 then ['-'] else ['+']
  digits := Nat.toDigits 10 leading.natAbs
  isMark := by decide
  isSign := by
    split
    · exact Or.inr (Or.inr rfl)
    · exact Or.inr (Or.inl rfl)
  isDigits := isDigits_toDigits _

/-- An exponent form stands for the exponent that it spells. -/
lemma power_exponentForm (leading : Int) :
    Nat.ofDigitChars 10 (exponentForm leading).digits 0 = leading.natAbs ∧
      (exponentForm leading).power = leading := by
  have digits : Nat.ofDigitChars 10 (exponentForm leading).digits 0 = leading.natAbs :=
    Nat.ofDigitChars_ten_toDigits
  refine ⟨digits, ?_⟩
  rw [ExponentForm.power, digits]
  by_cases down : leading < 0
  · rw [if_pos (by simp [exponentForm, down])]
    omega
  · rw [if_neg (by simp [exponentForm, down])]
    omega

/-- A numeral spells the characters given, under a sign, and stands for a decimal all of whose
digits are kept when it is read. -/
structure SpellsDecimal (n : NumeralForm) (negative : Bool) (text : List Char) (digits : Nat)
    (exponent : Int) : Prop where
  sign : n.negative = negative
  characters : n.text = (if negative then ['-'] else []) ++ text
  decimal : n.decimal = ⟨digits, exponent⟩
  keeps : n.KeepsDigits

/-- One digit before the point and an exponent: the digits are scaled so that the last of them has
the power of the decimal. -/
lemma spellsDecimal_exponentForm {first : Char} {rest : List Char} {digits : Nat}
    {exponent leading : Int} (negative : Bool) (fraction : Option (List Char))
    (isWhole : IsWhole [first]) (isFraction : ∀ digits ∈ fraction, IsDigits digits)
    (places : fraction.getD [] = rest) (value : Nat.ofDigitChars 10 (first :: rest) 0 = digits)
    (sum : leading = exponent + rest.length) (small : digits < significandLimit)
    (near : exponent.natAbs ≤ 1000 ∧ leading.natAbs ≤ 2000) :
    SpellsDecimal ⟨negative, [first], fraction, some (exponentForm leading), isWhole, isFraction⟩
      negative ([first] ++ (NumeralForm.fractionText fraction ++ (exponentForm leading).text))
      digits exponent := by
  obtain ⟨leadingDigits, power⟩ := power_exponentForm leading
  have bound : exponentLimit = 2147483648 := rfl
  have decimal : NumeralForm.decimal
      ⟨negative, [first], fraction, some (exponentForm leading), isWhole, isFraction⟩ =
        ⟨digits, exponent⟩ := by
    rw [NumeralForm.decimal]
    simp only [NumeralForm.places, places, List.singleton_append, value, exponentPower, power]
    congr 1
    omega
  refine ⟨rfl, rfl, decimal, ⟨.inr (Option.some_ne_none _), ?_, ?_⟩⟩
  · rw [decimal]
    exact small
  · rintro e ⟨⟩
    rw [decimal, leadingDigits]
    simp only
    omega

variable {d : Decimal} (short : d.IsShort) (negative : Bool)

include short

lemma length_toDigits_le : (Nat.toDigits 10 d.digits).length ≤ 19 := by
  rw [Nat.length_toDigits_le_iff (by decide) (by decide)]
  exact short.digits.trans_lt (by decide)

/-- A whole number may end in zeros, and only zero itself begins with one. -/
lemma isWhole_zeros :
    IsWhole (Nat.toDigits 10 d.digits ++ List.replicate d.exponent.toNat '0') := by
  by_cases h : d.digits = 0
  · rw [short.zero h, h]
    exact ⟨⟨by simp, by simp⟩, Or.inl rfl⟩
  · obtain ⟨c, cs, split⟩ := List.exists_cons_of_ne_nil (isDigits_toDigits d.digits).1
    have first := head?_toDigits h
    refine ⟨⟨by simp, fun c mem => ?_⟩, Or.inr ?_⟩
    · rcases List.mem_append.mp mem with mem | mem
      · exact (isDigits_toDigits d.digits).2 c mem
      · rw [List.eq_of_mem_replicate mem]
        decide
    · rw [split] at first ⊢
      simpa using first

/-- A whole number in plain form. -/
lemma spells_plain (plain : d.IsPlain) (whole : 0 ≤ d.exponent) :
    ∃ n, SpellsDecimal n negative (Numeral.plain (Nat.toDigits 10 d.digits) d.exponent)
      (d.digits * 10 ^ (d.exponent.toNat + 1)) (-1) := by
  have isWhole := isWhole_zeros short
  set n : NumeralForm := ⟨negative, _, some ['0'], none, isWhole, by simp [IsDigits]⟩ with n_eq
  have decimal : n.decimal = ⟨d.digits * 10 ^ (d.exponent.toNat + 1), -1⟩ := by
    have value : Nat.ofDigitChars 10
        (Nat.toDigits 10 d.digits ++ List.replicate d.exponent.toNat '0' ++ ['0']) 0 =
          d.digits * 10 ^ (d.exponent.toNat + 1) := by
      rw [List.append_assoc, ← List.replicate_succ', Nat.ofDigitChars_append,
        Nat.ofDigitChars_ten_toDigits, Nat.ofDigitChars_replicate_zero, Nat.mul_comm]
    rw [NumeralForm.decimal]
    exact congrArg (Decimal.mk · (-1)) value
  refine ⟨n, rfl, ?_, decimal, ⟨.inl (Option.some_ne_none _), ?_, by simp [n_eq]⟩⟩
  · rw [Numeral.plain, if_pos whole]
    rfl
  · rw [decimal]
    exact (Decimal.readBack_le plain whole).trans_lt (by decide)

/-- A number with places behind the point in plain form. -/
lemma spells_places (fractional : d.exponent < 0) :
    ∃ n, SpellsDecimal n negative (Numeral.plain (Nat.toDigits 10 d.digits) d.exponent)
      d.digits d.exponent := by
  have positive : d.digits ≠ 0 := fun h => by
    have := short.zero h
    omega
  obtain ⟨places, pos, same⟩ : ∃ places : Nat, 0 < places ∧ d.exponent = -(places : Int) :=
    ⟨(-d.exponent).toNat, by omega, by omega⟩
  have isWhole := isWhole_beforePoint (isDigits_toDigits d.digits) (head?_toDigits positive) places
  have isFraction := isDigits_behindPoint (isDigits_toDigits d.digits) pos
  set n : NumeralForm := ⟨negative, _, some _, none, isWhole, by simpa using isFraction⟩ with n_eq
  have decimal : n.decimal = ⟨d.digits, d.exponent⟩ := by
    have value := ofDigitChars_point (Nat.toDigits 10 d.digits) places
    rw [Nat.ofDigitChars_ten_toDigits] at value
    rw [NumeralForm.decimal, same]
    simp only [n_eq, NumeralForm.places, Option.getD_some, value, exponentPower,
      length_behindPoint, Int.zero_sub]
  refine ⟨n, rfl, ?_, decimal, ⟨.inl (Option.some_ne_none _), ?_, by simp [n_eq]⟩⟩
  · rw [Numeral.plain, if_neg (not_le.mpr fractional), same, Int.neg_neg, Int.toNat_natCast]
    simp [n_eq, NumeralForm.text, NumeralForm.fractionText, NumeralForm.exponentText, beforePoint,
      behindPoint, padded]
  · rw [decimal]
    exact short.digits.trans_lt (by decide)

/-- A number in scientific form. -/
lemma spells_scientific :
    ∃ n, SpellsDecimal n negative
      (Numeral.scientific ['+'] (Nat.toDigits 10 d.digits)
        (d.exponent + (Nat.toDigits 10 d.digits).length - 1)) d.digits d.exponent := by
  have length := length_toDigits_le short
  have exponent := short.exponent
  have isDigits := isDigits_toDigits d.digits
  have value : Nat.ofDigitChars 10 (Nat.toDigits 10 d.digits) 0 = d.digits :=
    Nat.ofDigitChars_ten_toDigits
  have small : d.digits < significandLimit := short.digits.trans_lt (by decide)
  generalize Nat.toDigits 10 d.digits = digits at *
  obtain ⟨first, rest, rfl⟩ := List.exists_cons_of_ne_nil isDigits.1
  have isWhole : IsWhole [first] := by
    refine ⟨⟨by simp, by simpa using isDigits.2 first List.mem_cons_self⟩, ?_⟩
    by_cases zero : first = '0'
    · exact Or.inl (by rw [zero])
    · exact Or.inr (by simpa using zero)
  have sum : d.exponent + (first :: rest).length - 1 = d.exponent + rest.length := by
    rw [List.length_cons]
    omega
  rw [List.length_cons] at length
  rw [sum]
  have near : d.exponent.natAbs ≤ 1000 ∧ (d.exponent + rest.length).natAbs ≤ 2000 := by omega
  cases rest with
  | nil =>
      exact ⟨_, spellsDecimal_exponentForm negative none isWhole (by simp) rfl value rfl small near⟩
  | cons second rest =>
      have isFraction : IsDigits (second :: rest) :=
        ⟨by simp, fun c mem => isDigits.2 c (List.mem_cons_of_mem _ mem)⟩
      have spells := spellsDecimal_exponentForm negative (some (second :: rest)) isWhole
        (by simpa using isFraction) rfl value rfl small near
      have text (leading : Int) : Numeral.scientific ['+'] (first :: second :: rest) leading =
          [first] ++ (NumeralForm.fractionText (some (second :: rest)) ++
            (exponentForm leading).text) := by
        simp [Numeral.scientific, NumeralForm.fractionText, ExponentForm.text, exponentForm]
      exact ⟨_, text _ ▸ spells⟩

/-- **The numeral of a short decimal spells what is read back from it**, and is read without losing
a digit. -/
theorem spells_decimal :
    ∃ n, SpellsDecimal n negative (numeralStyle.decimal d) d.readBack.1 d.readBack.2 := by
  have spelt : numeralStyle.decimal d =
      if d.IsPlain then Numeral.plain (Nat.toDigits 10 d.digits) d.exponent
      else Numeral.scientific ['+'] (Nat.toDigits 10 d.digits)
        (d.exponent + (Nat.toDigits 10 d.digits).length - 1) := rfl
  rw [spelt, Decimal.readBack]
  by_cases plain : d.IsPlain
  · rw [if_pos plain]
    by_cases whole : 0 ≤ d.exponent
    · rw [if_pos ⟨plain, whole⟩]
      exact spells_plain short negative plain whole
    · rw [if_neg fun h => whole h.2]
      exact spells_places short negative (by omega)
  · rw [if_neg plain, if_neg fun h => plain h.1]
    exact spells_scientific short negative

/-- The numeral of a short decimal is read as what its significand and power of ten make. -/
lemma numberText_decimal {x : Binary64} (made : scale? d.readBack.1 d.readBack.2 = some x) :
    NumberText (.real (withSign negative x))
      ((if negative then ['-'] else []) ++ numeralStyle.decimal d) := by
  obtain ⟨n, spells⟩ := spells_decimal short negative
  refine ⟨n, spells.characters.symm, ?_⟩
  rw [NumeralForm.value?_of_keepsDigits spells.keeps, spells.decimal, spells.sign, made]
  rfl

end Json

end InView
