import InView.Proofs.Binary64.Order

/-!
# Whole numbers of pixels

Up to `2 ^ 53` on either side of zero every whole number is a number of the format.  Arithmetic on
them is exact there: a sum that stays within this reach is not rounded (`IsPixels.add`).  Beyond it
the first whole number that is missing is `2 ^ 53 + 1`.

Order and equality of such numbers are those of the integers they stand for.
-/

namespace InView.Binary64

/-- The whole number of pixels up to a number. -/
def pixels (x : Binary64) : ℤ := x.level / one

/-- Within the reach in which the format has every whole number. -/
def WithinReach (n : ℤ) : Prop := -(2 ^ 53) ≤ n ∧ n ≤ 2 ^ 53

instance (n : ℤ) : Decidable (WithinReach n) := inferInstanceAs (Decidable (_ ∧ _))

/-- Within reach, the two ends apart. -/
def InsideReach (n : ℤ) : Prop := -(2 ^ 53) < n ∧ n < 2 ^ 53

/-- A whole number of pixels within reach. -/
structure IsPixels (x : Binary64) : Prop where
  finite : x.isFinite
  level : x.level = x.pixels * one
  within : WithinReach x.pixels

lemma isPixels_iff {x : Binary64} :
    x.IsPixels ↔ x.isFinite ∧ x.level = x.pixels * one ∧ WithinReach x.pixels :=
  ⟨fun h => ⟨h.finite, h.level, h.within⟩, fun h => ⟨h.1, h.2.1, h.2.2⟩⟩

instance (x : Binary64) : Decidable x.IsPixels := decidable_of_iff' _ isPixels_iff

/-- A number is known to be whole from its level. -/
lemma isPixels_of_level {x : Binary64} {n : ℤ} (finite : x.isFinite) (level : x.level = n * one)
    (within : WithinReach n) : x.IsPixels ∧ x.pixels = n := by
  have pixels : x.pixels = n := by
    rw [Binary64.pixels, level]
    exact Int.mul_ediv_cancel n (Int.natCast_ne_zero.mpr one_units_pos.ne')
  exact ⟨⟨finite, pixels ▸ level, pixels ▸ within⟩, pixels⟩

/-! ## Arithmetic -/

/-- A whole number within reach is its own rounding. -/
lemma roundedLevel_mul_one {n : ℤ} (h : WithinReach n) : roundedLevel (n * one) = n * one := by
  have units : (n * (one : ℤ)).natAbs = n.natAbs * one := by
    rw [Int.natAbs_mul, Int.natAbs_natCast]
  have fits : Fits (n.natAbs * one) := fits_mul_one (by unfold WithinReach at h; omega)
  rw [roundedLevel, roundedUnits, units, roundUnits_of_fits fits, min_eq_left fits.2.le, ← units]
  generalize n * (one : ℤ) = v
  rcases lt_or_ge v 0 with below | above
  · rw [signed, if_pos (decide_eq_true below)]
    omega
  · rw [signed, if_neg (by simpa using above)]
    omega

lemma level_neg (x : Binary64) : (-x).level = -x.level := by
  have turned (negative : Bool) (n : Nat) : signed (!negative) n = -signed negative n := by
    cases negative <;> simp [signed]
  cases x with
  | nan => rfl
  | infinite negative => exact turned negative limit
  | finite negative units fits => exact turned negative units

variable {x y x' y' : Binary64}

lemma IsPixels.neg (h : x.IsPixels) : (-x).IsPixels ∧ (-x).pixels = -x.pixels := by
  refine isPixels_of_level ?_ ?_ ?_
  · rw [isFinite_neg]
    exact h.finite
  · rw [level_neg, h.level, Int.neg_mul]
  · have within := h.within
    unfold WithinReach at *
    omega

/-- **Within reach, sums of whole numbers are exact.** -/
theorem IsPixels.add (hx : x.IsPixels) (hy : y.IsPixels)
    (within : WithinReach (x.pixels + y.pixels)) :
    (x + y).IsPixels ∧ (x + y).pixels = x.pixels + y.pixels := by
  have level : (x + y).level = (x.pixels + y.pixels) * one := by
    rw [level_add_finite hx.finite hy.finite, hx.level, hy.level, ← Int.add_mul]
    exact roundedLevel_mul_one within
  refine isPixels_of_level ?_ level within
  -- a level of the format below the limits belongs to a finite number
  have fits := fits_mul_one (show (x.pixels + y.pixels).natAbs ≤ 2 ^ 53 by
    unfold WithinReach at within
    omega)
  have units : ((x.pixels + y.pixels) * (one : ℤ)).natAbs < limit := by
    rw [Int.natAbs_mul, Int.natAbs_natCast]
    exact fits.2
  rw [isFinite_iff_level (isNumber_add (isNumber_of_isFinite hx.finite) hy.finite), level]
  omega

/-- A sum that is stored inside the reach was not rounded: rounding never leads back over an end. -/
lemma IsPixels.within_of_add (hx : x.IsPixels) (hy : y.IsPixels)
    (inside : InsideReach (x + y).pixels) : WithinReach (x.pixels + y.pixels) := by
  have pos : (0 : ℤ) < one := Int.natCast_pos.mpr one_units_pos
  have level : (x + y).level = roundedLevel ((x.pixels + y.pixels) * one) := by
    rw [level_add_finite hx.finite hy.finite, hx.level, hy.level, ← Int.add_mul]
  -- the ends are numbers of the format, so a sum on either side of one is rounded to that side
  have least : roundedLevel (-(2 ^ 53) * one) = -(2 ^ 53) * one := roundedLevel_mul_one (by decide)
  have greatest : roundedLevel (2 ^ 53 * one) = 2 ^ 53 * one := roundedLevel_mul_one (by decide)
  constructor
  · by_contra out
    have le : (x.pixels + y.pixels) * one ≤ -(2 ^ 53) * one :=
      Int.mul_le_mul_of_nonneg_right (by omega) pos.le
    have stored : (x + y).level ≤ -(2 ^ 53) * one := by
      rw [level, ← least]
      exact roundedLevel_mono le
    have := Int.ediv_le_ediv pos stored
    rw [Int.mul_ediv_cancel _ pos.ne'] at this
    exact absurd inside.1 (Int.not_lt.mpr this)
  · by_contra out
    have le : 2 ^ 53 * (one : ℤ) ≤ (x.pixels + y.pixels) * one :=
      Int.mul_le_mul_of_nonneg_right (by omega) pos.le
    have stored : 2 ^ 53 * (one : ℤ) ≤ (x + y).level := by
      rw [level, ← greatest]
      exact roundedLevel_mono le
    have := Int.ediv_le_ediv pos stored
    rw [Int.mul_ediv_cancel _ pos.ne'] at this
    exact absurd inside.2 (Int.not_lt.mpr this)

/-! ## Order -/

lemma IsPixels.isNumber (h : x.IsPixels) : x.IsNumber := isNumber_of_isFinite h.finite

lemma isPixels_zero : (0 : Binary64).IsPixels ∧ (0 : Binary64).pixels = 0 :=
  isPixels_of_level rfl (Int.zero_mul _).symm (by decide)

lemma IsPixels.le_iff (hx : x.IsPixels) (hy : y.IsPixels) : x ≤ y ↔ x.pixels ≤ y.pixels := by
  have pos : (0 : ℤ) < one := Int.natCast_pos.mpr one_units_pos
  rw [Binary64.le_iff, hx.level, hy.level, Int.mul_le_mul_right pos]
  exact ⟨fun h => h.2.2, fun h => ⟨hx.isNumber, hy.isNumber, h⟩⟩

lemma IsPixels.beq_of_eq (hx : x.IsPixels) (hy : y.IsPixels) (same : x.pixels = y.pixels) :
    x == y :=
  beq_iff_le.mpr ⟨(hx.le_iff hy).mpr same.le, (hy.le_iff hx).mpr same.ge⟩

/-- Differences are rounded alike if they are equal, even if they are out of reach. -/
lemma IsPixels.sub_beq_sub (hx : x.IsPixels) (hy : y.IsPixels) (hx' : x'.IsPixels)
    (hy' : y'.IsPixels) (same : x.pixels - y.pixels = x'.pixels - y'.pixels) :
    x - y == x' - y' := by
  have difference {a b : Binary64} (ha : a.IsPixels) (hb : b.IsPixels) :
      (a - b).IsNumber ∧ (a - b).level = roundedLevel ((a.pixels - b.pixels) * one) := by
    obtain ⟨neg, pixels⟩ := hb.neg
    refine ⟨isNumber_add ha.isNumber neg.finite, ?_⟩
    change (a + -b).level = _
    rw [level_add_finite ha.finite neg.finite, ha.level, neg.level, pixels, ← Int.add_mul,
      Int.sub_eq_add_neg]
  obtain ⟨number, level⟩ := difference hx hy
  obtain ⟨number', level'⟩ := difference hx' hy'
  exact Binary64.beq_iff.mpr ⟨number, number', by rw [level, level', same]⟩

end InView.Binary64
