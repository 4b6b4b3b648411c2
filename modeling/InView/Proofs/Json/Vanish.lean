import InView.Proofs.Json.Reread

/-!
# No number vanishes

Scaling down rounds up to three times, and rounding can lead to zero.  A shortest decimal never
comes that far (`reread_units_eq_zero_iff`), so a number below zero comes back as one below zero.

* In one step down there is nothing to show: the greatest power of ten that is divided by leaves
  something even of the number one.
* Two steps down are taken only from tiny magnitudes.  Unless the magnitude is the least one, its
  decimal is above one unit, and for each power of ten it is enough to look at the least
  significand of which that is so.
-/

namespace InView.Json

open Binary64

/-! ## Quotients by powers of ten -/

/-- The units of a magnitude divided by a power of ten. -/
def scaledDown (units k : Nat) : Nat := roundUnits (units * one) (roundUnits (10 ^ k * one) 1)

lemma scaledDown_mono {units units' k k' : Nat} (h : units ≤ units') (h' : k' ≤ k) :
    scaledDown units k ≤ scaledDown units' k' := by
  have pos (k : Nat) : 0 < roundUnits (10 ^ k * one) 1 := one_units_pos.trans_le (one_le_tenTo k)
  have power : roundUnits (10 ^ k' * one) 1 ≤ roundUnits (10 ^ k * one) 1 := by
    refine roundUnits_mono Nat.one_pos Nat.one_pos ?_
    rw [Nat.mul_one, Nat.mul_one]
    exact Nat.mul_le_mul_right one (Nat.pow_le_pow_right (by decide) h')
  exact roundUnits_mono (pos k) (pos k') (Nat.mul_le_mul (Nat.mul_le_mul_right one h) power)

lemma div_tenTo {x : Binary64} {units k : Nat} {fits : Fits units}
    (hx : x = .finite false units fits) (hk : k ≤ stepExponent) :
    ∃ fits, x / tenTo k = .finite false (scaledDown units k) fits := by
  obtain ⟨_, power⟩ := tenTo_eq hk
  obtain ⟨units', fits', quotient⟩ := isMagnitude_div hx power (one_le_tenTo k)
  have pos : roundUnits (10 ^ k * one) 1 ≠ 0 := (one_units_pos.trans_le (one_le_tenTo k)).ne'
  have divided : x / tenTo k = rounded false (units * one) (roundUnits (10 ^ k * one) 1) := by
    rw [hx, power]
    change div _ _ = _
    rw [div, if_neg pos]
    rfl
  rw [divided, rounded] at quotient
  split at quotient
  case isTrue lt => exact ⟨fits_roundUnits lt, by rw [divided, rounded_of_lt lt]; rfl⟩
  case isFalse => cases quotient

/-! ## What is evaluated -/

/-- The least power of ten that leaves less than a unit of eighteen digits. -/
def vanishing : Nat := 342

/-- The units of a significand scaled down in two steps. -/
def scaledDownTwice (n down : Nat) : Nat :=
  scaledDown (scaledDown (roundUnits (n * one) 1) stepExponent) (down - stepExponent)

/-- The least significands do not vanish: the digit one in one step, and in two steps, for each of
the powers that leave anything of eighteen digits, the first significand above one unit. -/
lemma least_pos : 0 < scaledUp 1 0 ∧ 0 < scaledDown (roundUnits (1 * one) 1) stepExponent ∧
    10 ^ 18 * one < 10 ^ vanishing ∧
    (List.range vanishing).all fun down => down ≤ stepExponent ||
      (0).blt (scaledDownTwice (10 ^ down / one + 1) down) := by
  decide +kernel

/-- Above one unit two steps down leave something. -/
lemma scaledDownTwice_pos {n down : Nat} (short : n ≤ 10 ^ 18) (far : stepExponent < down)
    (above : 10 ^ down < n * one) : 0 < scaledDownTwice n down := by
  obtain ⟨-, -, last, least⟩ := least_pos
  have inRange : down < vanishing := by
    by_contra beyond
    have : 10 ^ vanishing ≤ 10 ^ down := Nat.pow_le_pow_right (by decide) (by omega)
    have := Nat.mul_le_mul_right one short
    omega
  have pos : 0 < scaledDownTwice (10 ^ down / one + 1) down := by
    have := List.all_eq_true.mp least down (List.mem_range.mpr inRange)
    simpa [Nat.not_le.mpr far] using this
  have first : 10 ^ down / one + 1 ≤ n := (Nat.div_lt_iff_lt_mul one_units_pos).mpr above
  have whole : roundUnits ((10 ^ down / one + 1) * one) 1 ≤ roundUnits (n * one) 1 := by
    refine roundUnits_mono Nat.one_pos Nat.one_pos ?_
    rw [Nat.mul_one, Nat.mul_one]
    exact Nat.mul_le_mul_right one first
  exact pos.trans_le (scaledDown_mono (scaledDown_mono whole (le_refl _)) (le_refl _))

/-! ## Scaling leaves something -/

/-- What is scaled up does not vanish. -/
lemma scale?_up_pos {n : Nat} {e : Int} (pos : 0 < n) (short : n ≤ 10 ^ 18) (up : 0 ≤ e)
    {units : Nat} {fits : Fits units} (made : scale? n e = some (.finite false units fits)) :
    0 < units := by
  obtain ⟨_, whole⟩ := isMagnitude_ofNat (lt_significandLimit short)
  rw [scale?, if_pos up] at made
  dsimp only at made
  split at made
  case isTrue near =>
    obtain ⟨_, power⟩ := tenTo_eq near
    have product : ofNat n * tenTo e.toNat = rounded false (roundUnits (n * one) 1 *
        roundUnits (10 ^ e.toNat * one) 1) one := by
      rw [whole, power]
      rfl
    rw [product, rounded] at made
    split at made
    case isTrue lt =>
      simp only [isFinite, if_true, Option.some.injEq, finite.injEq, true_and] at made
      rw [← made]
      exact least_pos.1.trans_le (scaledUp_mono pos (Nat.zero_le _))
    case isFalse => cases made
  case isFalse =>
    rw [if_neg pos.ne'] at made
    cases made

/-- What is scaled down from above one unit does not vanish. -/
lemma scale?_down_pos {n : Nat} {e : Int} (pos : 0 < n) (short : n ≤ 10 ^ 18) (down : e < 0)
    (above : 10 ^ (-e).toNat < n * one) {units : Nat} {fits : Fits units}
    (made : scale? n e = some (.finite false units fits)) : 0 < units := by
  obtain ⟨_, whole⟩ := isMagnitude_ofNat (lt_significandLimit short)
  rw [scale?, if_neg (Int.not_le.mpr down)] at made
  dsimp only at made
  split at made
  case isTrue near =>
    obtain ⟨_, quotient⟩ := div_tenTo whole near
    rw [quotient, Option.some.injEq, finite.injEq] at made
    have one_le : roundUnits (1 * one) 1 ≤ roundUnits (n * one) 1 :=
      roundUnits_mono Nat.one_pos Nat.one_pos
        (Nat.mul_le_mul_right 1 (Nat.mul_le_mul_right one pos))
    rw [← made.2]
    exact least_pos.2.1.trans_le (scaledDown_mono one_le near)
  case isFalse far =>
    have twice := scaledDownTwice_pos short (Nat.not_le.mp far) above
    split at made
    case isTrue near =>
      obtain ⟨_, first⟩ := div_tenTo whole (le_refl stepExponent)
      obtain ⟨_, second⟩ := div_tenTo first (k := (-e).toNat - stepExponent) (by omega)
      rw [second, Option.some.injEq, finite.injEq] at made
      exact made.2 ▸ twice
    case isFalse beyond =>
      have : 10 ^ vanishing ≤ 10 ^ (-e).toNat :=
        Nat.pow_le_pow_right (by decide) (by rw [stepExponent] at beyond; rw [vanishing]; omega)
      have := Nat.mul_le_mul_right one short
      have := least_pos.2.2.1
      omega

end InView.Json

namespace InView.Binary64

open Json

/-- The least magnitude comes back. -/
lemma reread_least (negative : Bool) (fits : Fits 1) :
    reread (.finite negative 1 fits) = .finite negative 1 fits := by
  revert negative fits
  decide +kernel

/-- Above the least magnitude the decimal that is read is above one unit. -/
lemma above_of_nearestUnits {n : Nat} {e : Int} (down : e < 0)
    (denotes : 1 < Decimal.nearestUnits ⟨n, e⟩) : 10 ^ (-e).toNat < n * one := by
  by_contra below
  have le : Decimal.nearestUnits ⟨n, e⟩ ≤ 1 := by
    refine roundUnits_le (Nat.pow_pos (by decide)) (spacing_dvd_two_pow 0) ?_
    simp only [Int.toNat_of_nonpos down.le, Nat.pow_zero, Nat.mul_one, Nat.one_mul]
    omega
  omega

/-- The significand that is read from a decimal of a number other than zero is short, and not
zero. -/
lemma readBack_shortest {units : Nat} (fits : Fits units) (nonzero : units ≠ 0) :
    0 < (shortest .even units).readBack.1 ∧ (shortest .even units).readBack.1 ≤ 10 ^ 18 := by
  have pos := Nat.pos_of_ne_zero (digits_shortest_ne_zero .even fits nonzero)
  rw [Decimal.readBack]
  split
  case isTrue form =>
    exact ⟨Nat.mul_pos pos (Nat.pow_pos (by decide)),
      (Decimal.readBack_le form.1 form.2).trans (by decide)⟩
  case isFalse => exact ⟨pos, digits_shortest_le .even fits⟩

/-- **No number vanishes.**  A finite number comes back as zero only if it is zero. -/
theorem reread_units_eq_zero_iff {negative : Bool} {units units' : Nat} {fits : Fits units}
    {fits' : Fits units'}
    (h : reread (.finite negative units fits) = .finite negative units' fits') :
    units' = 0 ↔ units = 0 := by
  constructor
  · intro vanished
    by_contra nonzero
    -- the decimal of the least magnitude need not be above one unit, so it is evaluated
    by_cases least : units = 1
    · subst least
      rw [reread_least negative fits, finite.injEq] at h
      omega
    have denotes : 1 < Decimal.nearestUnits ⟨(shortest .even units).readBack.1,
        (shortest .even units).readBack.2⟩ := by
      rw [Decimal.nearestUnits_readBack, nearestUnits_shortest .even fits]
      omega
    obtain ⟨pos, short⟩ := readBack_shortest fits nonzero
    obtain ⟨_, _, same, made⟩ := reread_finite negative fits
    rw [h] at same
    cases same
    rcases Int.lt_or_le (shortest .even units).readBack.2 0 with down | up
    · exact (scale?_down_pos pos short down (above_of_nearestUnits down denotes) made).ne' vanished
    · exact (scale?_up_pos pos short up made).ne' vanished
  · rintro rfl
    have zero : finite negative units' fits' = Binary64.zero negative :=
      h.symm.trans (reread_zero negative)
    exact ((finite.injEq _ _ _ _ _ _).mp zero).2

end InView.Binary64
