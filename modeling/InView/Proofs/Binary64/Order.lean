import InView.Proofs.Binary64.Rounding

/-!
# Order and arithmetic of binary64 numbers

Away from `nan` a number is known to the order by its level alone, so what an operation does to
the order is what it does to levels.  Negation turns levels around.  A sum with a finite number
rounds the sum of the levels (`level_add_finite`), and rounding is monotone, so adding the same
finite number on both sides keeps the order (`add_le_add_of_isFinite`), whatever is rounded and
whatever overflows on the way.
-/

namespace InView.Binary64

/-! ## Numbers that are not `nan` -/

/-- Some number that the order knows: an infinity or a finite number. -/
def IsNumber (x : Binary64) : Prop := x ≠ .nan

instance (x : Binary64) : Decidable x.IsNumber := inferInstanceAs (Decidable (x ≠ .nan))

lemma isNumber_of_isFinite {x : Binary64} (h : x.isFinite) : x.IsNumber := by
  rintro rfl
  simp [isFinite] at h

lemma IsNumber.left_of_le {x y : Binary64} (h : x ≤ y) : x.IsNumber := h.1

lemma IsNumber.right_of_le {x y : Binary64} (h : x ≤ y) : y.IsNumber := h.2.1

lemma isNumber_zero : (0 : Binary64).IsNumber := by
  intro h
  cases h

@[simp] lemma level_zero : (0 : Binary64).level = 0 := rfl

/-- On numbers, not to be greater is to be smaller or equal. -/
lemma not_lt {x y : Binary64} (hx : x.IsNumber) (hy : y.IsNumber) : ¬ y < x ↔ x ≤ y := by
  rw [lt_iff, le_iff]
  constructor
  · intro h
    exact ⟨hx, hy, Int.not_lt.mp fun lt => h ⟨hy, hx, lt⟩⟩
  · rintro ⟨-, -, le⟩ ⟨-, -, lt⟩
    omega

lemma le_trans {x y z : Binary64} (h : x ≤ y) (h' : y ≤ z) : x ≤ z :=
  ⟨h.1, h'.2.1, Int.le_trans h.2.2 h'.2.2⟩

/-! ## Levels -/

lemma isFinite_neg (x : Binary64) : (-x).isFinite = x.isFinite := by
  cases x <;> rfl

/-- The limits of the format are the levels of the infinities, and no level is beyond them. -/
lemma abs_level_le (x : Binary64) : -(limit : Int) ≤ x.level ∧ x.level ≤ limit := by
  have pos := limit_pos
  cases x with
  | nan => simp [level]
  | infinite negative => cases negative <;> simp [level, signed]
  | finite negative units fits =>
      have := fits.2
      cases negative <;> simp [level, signed] <;> omega

/-- A magnitude of a whole number of units, rounded and cut off at the limit. -/
def roundedUnits (n : Nat) : Nat := min (roundUnits n 1) limit

/-- A level, rounded and cut off at the limits. -/
def roundedLevel (v : Int) : Int := signed (v < 0) (roundedUnits v.natAbs)

lemma level_rounded (negative : Bool) (n : Nat) :
    (rounded negative n 1).level = signed negative (roundedUnits n) := by
  unfold rounded roundedUnits
  split
  case isTrue h => rw [level, min_eq_left h.le]
  case isFalse h => rw [level, min_eq_right (Nat.not_lt.mp h)]

lemma isNumber_rounded (negative : Bool) (num den : Nat) :
    (rounded negative num den).IsNumber := by
  unfold rounded
  split <;> exact fun h => by cases h

lemma roundedUnits_mono {m n : Nat} (h : m ≤ n) : roundedUnits m ≤ roundedUnits n :=
  min_le_min_right limit (roundUnits_mono Nat.one_pos Nat.one_pos (Nat.mul_le_mul_right 1 h))

lemma roundedUnits_zero : roundedUnits 0 = 0 := by
  rw [roundedUnits, roundUnits_of_fits fits_zero, Nat.zero_min]

/-- Rounding of levels is monotone: on each side of zero by rounding of magnitudes, and across
zero by the sign alone. -/
lemma roundedLevel_mono {v w : Int} (h : v ≤ w) : roundedLevel v ≤ roundedLevel w := by
  unfold roundedLevel signed
  by_cases hv : v < 0 <;> by_cases hw : w < 0
  · have := roundedUnits_mono (show w.natAbs ≤ v.natAbs by omega)
    simp only [hv, hw, decide_true, if_true]
    omega
  · simp only [hv, hw, decide_true, decide_false, if_true, Bool.false_eq_true, if_false]
    omega
  · omega
  · have := roundedUnits_mono (show v.natAbs ≤ w.natAbs by omega)
    simp only [hv, hw, decide_false]
    simpa using this

/-! ## Addition -/

/-- The sum of finite numbers has the rounded sum of their levels. -/
lemma level_add_finite {x y : Binary64} (hx : x.isFinite) (hy : y.isFinite) :
    (x + y).level = roundedLevel (x.level + y.level) := by
  cases x with
  | nan => simp [isFinite] at hx
  | infinite s => simp [isFinite] at hx
  | finite s m hm =>
      cases y with
      | nan => simp [isFinite] at hy
      | infinite t => simp [isFinite] at hy
      | finite t n hn =>
          change (add (.finite s m hm) (.finite t n hn)).level = _
          simp only [add, level]
          by_cases h : signed s m + signed t n = 0
          · rw [if_pos h, h]
            simp [roundedLevel, roundedUnits_zero, zero, signed]
          · rw [if_neg h]
            exact level_rounded _ _

/-- A finite number does not move an infinity. -/
lemma infinite_add {y : Binary64} (negative : Bool) (hy : y.isFinite) :
    .infinite negative + y = .infinite negative := by
  cases y with
  | nan => simp [isFinite] at hy
  | infinite t => simp [isFinite] at hy
  | finite t n hn => rfl

/-- A sum with a finite number is a number: there are no opposite infinities in it. -/
lemma isNumber_add {x y : Binary64} (hx : x.IsNumber) (hy : y.isFinite) :
    (x + y).IsNumber := by
  cases x with
  | nan => exact absurd rfl hx
  | infinite s =>
      rw [infinite_add s hy]
      exact fun h => by cases h
  | finite s m hm =>
      cases y with
      | nan => simp [isFinite] at hy
      | infinite t => simp [isFinite] at hy
      | finite t n hn =>
          change (add (.finite s m hm) (.finite t n hn)).IsNumber
          simp only [add]
          split
          · exact fun h => by cases h
          · exact isNumber_rounded _ _ _

/-- **Adding a finite number keeps the order**, through rounding and overflow. -/
theorem add_le_add_of_isFinite {x y z : Binary64} (h : x ≤ y) (hz : z.isFinite) :
    x + z ≤ y + z := by
  refine ⟨isNumber_add h.1 hz, isNumber_add h.2.1 hz, ?_⟩
  obtain ⟨hx, hy, le⟩ := h
  have bounds := abs_level_le
  cases x with
  | nan => exact absurd rfl hx
  | infinite s =>
      rw [infinite_add s hz]
      cases s with
      | true => exact (bounds _).1
      | false =>
          -- only positive infinity is at least positive infinity
          cases y with
          | nan => exact absurd rfl hy
          | infinite t => rwa [infinite_add t hz]
          | finite t n hn =>
              have := hn.2
              cases t <;> simp [level, signed] at le <;> omega
  | finite s m hm =>
      cases y with
      | nan => exact absurd rfl hy
      | infinite t =>
          rw [infinite_add t hz]
          cases t with
          | false => exact (bounds _).2
          | true =>
              have := hm.2
              cases s <;> simp [level, signed] at le <;> omega
      | finite t n hn =>
          rw [level_add_finite rfl hz, level_add_finite rfl hz]
          exact roundedLevel_mono (Int.add_le_add_right le _)

/-! ## Equality -/

instance : PartialEquivBEq Binary64 where
  symm h := beq_iff.mpr ⟨(beq_iff.mp h).2.1, (beq_iff.mp h).1, (beq_iff.mp h).2.2.symm⟩
  trans h h' := beq_iff.mpr
    ⟨(beq_iff.mp h).1, (beq_iff.mp h').2.1, (beq_iff.mp h).2.2.trans (beq_iff.mp h').2.2⟩

/-- Exactly the numbers are equal to themselves. -/
lemma beq_self_iff {x : Binary64} : x == x ↔ x.IsNumber := by
  rw [beq_iff]
  exact ⟨fun h => h.1, fun h => ⟨h, h, rfl⟩⟩

/-- Equal is what is not smaller on either side. -/
lemma beq_iff_le {x y : Binary64} : x == y ↔ x ≤ y ∧ y ≤ x := by
  rw [beq_iff, le_iff, le_iff]
  constructor
  · rintro ⟨hx, hy, same⟩
    exact ⟨⟨hx, hy, same.le⟩, hy, hx, same.ge⟩
  · rintro ⟨⟨hx, hy, le⟩, -, -, ge⟩
    exact ⟨hx, hy, le_antisymm le ge⟩

variable {x x' y y' z : Binary64}

/-- The order does not tell equal numbers apart. -/
lemma lt_congr (h : x == x') (h' : y == y') : x < y ↔ x' < y' := by
  obtain ⟨hx, hx', same⟩ := beq_iff.mp h
  obtain ⟨hy, hy', same'⟩ := beq_iff.mp h'
  rw [lt_iff, lt_iff, same, same']
  tauto

/-- A number is finite if its level lies within the limits of the format. -/
lemma isFinite_iff_level (hx : x.IsNumber) :
    x.isFinite ↔ -(limit : Int) < x.level ∧ x.level < limit := by
  cases x with
  | nan => exact absurd rfl hx
  | infinite negative => cases negative <;> simp [isFinite, level, signed]
  | finite negative units fits =>
      have := fits.2
      cases negative <;> simp [isFinite, level, signed] <;> omega

/-- Equal numbers are finite together. -/
lemma isFinite_congr (h : x == x') : x.isFinite = x'.isFinite := by
  obtain ⟨hx, hx', same⟩ := beq_iff.mp h
  rw [Bool.eq_iff_iff, isFinite_iff_level hx, isFinite_iff_level hx', same]

/-- **Adding a finite number keeps numbers equal**, whatever the signs of zeros. -/
theorem add_beq_add_of_isFinite (h : x == y) (hz : z.isFinite) : x + z == y + z := by
  obtain ⟨le, ge⟩ := beq_iff_le.mp h
  exact beq_iff_le.mpr ⟨add_le_add_of_isFinite le hz, add_le_add_of_isFinite ge hz⟩

end InView.Binary64
