import InView.Proofs.Json.Scale
import InView.Proofs.Json.Spelling

/-!
# Reading back a written number

A number is written by its shortest decimal, and read back by scaling what is read from the
numeral of that decimal.  `Binary64.reread` is the number that comes back.

`numberText_numeral` shows that this is what is read, for every finite number, and
`reread_finite` that it is finite again and has the same sign.  It is not always the same number,
since scaling rounds more than once; `ReadsInOneStep.reread_eq` says where it rounds only once.

What was written is not to blame: rounded once, the numeral of a number always gives that number
(`denotes_numeral`).
-/

namespace InView

open Binary64 Json

/-! ## Numbers read back -/

/-- What a number comes back as when it is written and read again. -/
def Binary64.reread : Binary64 → Binary64
  | .finite negative units _ =>
    let (significand, exponent) := (shortest .even units).readBack
    withSign negative ((scale? significand exponent).getD .nan)
  | x => x

lemma isShort_shortest {units : Nat} (fits : Fits units) : (shortest .even units).IsShort where
  digits := digits_shortest_le .even fits
  exponent := by
    by_cases hu : units = 0
    · rw [shortest, if_pos hu]
      decide
    · have := exponent_shortest .even fits hu
      have := log2_lt_of_fits fits
      rw [lastExponent, topExponent] at *
      omega
  zero := by
    intro zero
    by_cases hu : units = 0
    · rw [shortest, if_pos hu]
    · exact absurd zero (digits_shortest_ne_zero .even fits hu)

/-! ## Shortest decimals read back -/

/-- What is read back from a decimal denotes the same magnitude. -/
lemma Decimal.nearestUnits_readBack (d : Decimal) :
    Decimal.nearestUnits ⟨d.readBack.1, d.readBack.2⟩ = d.nearestUnits := by
  rw [Decimal.readBack]
  split
  case isTrue form =>
    have noPlaces : (-d.exponent).toNat = 0 := Int.toNat_of_nonpos (by omega)
    rw [Decimal.nearestUnits, Decimal.nearestUnits, noPlaces]
    refine roundUnits_congr (Nat.pow_pos (by decide)) (Nat.pow_pos (by decide)) ?_
    change d.digits * 10 ^ (d.exponent.toNat + 1) * 1 * one * 1 = _ * 10
    ring
  case isFalse => rfl

lemma scale?_readBack {units : Nat} (fits : Fits units) :
    ∃ x, scale? (shortest .even units).readBack.1 (shortest .even units).readBack.2 = some x ∧
      x.IsMagnitude := by
  rw [Decimal.readBack]
  split
  case isTrue form =>
    exact scale?_of_neg ((Decimal.readBack_le form.1 form.2).trans_lt (by decide))
      (show (-1 : Int) < 0 by decide)
  case isFalse => exact scale?_shortest fits

namespace Binary64

/-- A finite number comes back as a finite number of the same sign. -/
lemma reread_finite (negative : Bool) {units : Nat} (fits : Fits units) :
    ∃ units' fits', reread (.finite negative units fits) = .finite negative units' fits' ∧
      scale? (shortest .even units).readBack.1 (shortest .even units).readBack.2 =
        some (.finite false units' fits') := by
  obtain ⟨_, made, units', fits', rfl⟩ := scale?_readBack fits
  refine ⟨units', fits', ?_, made⟩
  cases negative with
  | true => simp [reread, made, withSign, Neg.neg, neg]
  | false => simp [reread, made, withSign]

/-- **A written number is read as its rereading.** -/
theorem numberText_numeral {x : Binary64} (finite : x.isFinite) :
    NumberText (.real x.reread) (numeralStyle.numeral x) := by
  cases x with
  | nan => cases finite
  | infinite => cases finite
  | finite negative units fits =>
      obtain ⟨units', fits', reread, made⟩ := reread_finite negative fits
      have text := numberText_decimal (isShort_shortest fits) negative made
      have signed : withSign negative (.finite false units' fits') =
          .finite negative units' fits' := by
        cases negative <;> rfl
      rw [signed] at text
      rw [reread]
      exact text

/-- **A written numeral denotes the number**, its sign included. -/
theorem denotes_numeral {x : Binary64} (finite : x.isFinite) :
    ∃ n : NumeralForm, numeralStyle.numeral x = n.text ∧ n.Denotes x := by
  cases x with
  | nan => cases finite
  | infinite => cases finite
  | finite negative units fits =>
      obtain ⟨n, spells⟩ := spells_decimal (isShort_shortest fits) negative
      refine ⟨n, spells.characters.symm, NumeralForm.denotes_iff.mpr ?_⟩
      have nearest : n.decimal.nearestUnits = units := by
        rw [spells.decimal, Decimal.nearestUnits_readBack, nearestUnits_shortest .even fits]
      exact ⟨nearest.symm ▸ fits, by simp only [spells.sign, nearest]⟩

/-- Rereading keeps a number finite. -/
lemma isFinite_reread (x : Binary64) : x.reread.isFinite = x.isFinite := by
  cases x with
  | nan => rfl
  | infinite => rfl
  | finite negative units fits =>
      obtain ⟨_, _, same, -⟩ := reread_finite negative fits
      rw [same]
      rfl

/-- Zero comes back as zero, with its sign. -/
lemma reread_zero (negative : Bool) : (zero negative).reread = zero negative := by
  revert negative
  decide +kernel

/-- Whether reading the numeral of a number rounds only once: the significand has at most 53 bits,
and the power of ten is at most the twenty-second. -/
def ReadsInOneStep : Binary64 → Prop
  | .finite _ units _ =>
    (shortest .even units).readBack.1 < 2 ^ 53 ∧ (shortest .even units).readBack.2.natAbs ≤ 22
  | _ => False

instance : DecidablePred ReadsInOneStep
  | .finite .. => inferInstanceAs (Decidable (_ ∧ _))
  | .nan => inferInstanceAs (Decidable False)
  | .infinite _ => inferInstanceAs (Decidable False)

/-- **Short numbers come back.**  Where reading rounds only once, it rounds to the number that the
decimal denotes, which is the number that was written. -/
theorem ReadsInOneStep.reread_eq {x : Binary64} (h : x.ReadsInOneStep) : x.reread = x := by
  cases x with
  | nan => cases h
  | infinite => cases h
  | finite negative units fits =>
      obtain ⟨significand, exponent⟩ := h
      have denotes : Decimal.nearestUnits ⟨(shortest .even units).readBack.1,
          (shortest .even units).readBack.2⟩ = units := by
        rw [Decimal.nearestUnits_readBack, nearestUnits_shortest .even fits]
      obtain ⟨_, _, reread, made⟩ := reread_finite negative fits
      rw [scale?_of_small significand.le exponent fits denotes] at made
      obtain ⟨⟩ := made
      exact reread

end Binary64

end InView
