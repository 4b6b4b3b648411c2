/-!
# Rounding to binary64 magnitudes

Every finite binary64 number is a whole multiple of `2 ^ -1074`, the least subnormal.  A magnitude
is therefore kept as a natural number of these **units**: the number one is `2 ^ 1074` units, and
`2 ^ 2098` units, that is `2 ^ 1024`, is the first magnitude the format cannot hold.  Order and
exact arithmetic on magnitudes are then order and arithmetic of natural numbers, and the only
thing left to say is how a quotient of natural numbers is rounded.

* `Fits n` says which natural numbers are magnitudes: those with at most 53 significant bits,
  below the limit.
* `roundUnits num den` is the nearest such number to `num / den`, a tie going to the even
  significand; `fits_roundUnits` says that below the limit it is a magnitude, and
  `roundUnits_of_fits` that a magnitude is its own rounding.
-/

namespace InView.Binary64

/-- The powers that the definitions are about, whichever others are in scope. -/
@[reducible] def natPow : Pow Nat Nat := instPowNat

attribute [local instance] natPow

/-- The number one, in units. -/
@[irreducible] def one : Nat := 2 ^ (1074 : Nat)

/-- The number of places by which a significand of 53 bits can be shifted up from the units. -/
@[irreducible] def greatestShift : Nat := 2045

/-- The least power of two that is too large for the format, in units. -/
@[irreducible] def limit : Nat := 2 ^ (53 + greatestShift)

/-- The distance of neighbouring magnitudes around `n` units: a single unit while 53 bits
suffice, and beyond that the power of two which leaves 53 significant bits. -/
def spacing (n : Nat) : Nat := 2 ^ (n.log2 - 52)

/-- A number of units that binary64 holds exactly. -/
def Fits (n : Nat) : Prop := spacing n ∣ n ∧ n < limit

instance (n : Nat) : Decidable (Fits n) := inferInstanceAs (Decidable (_ ∧ _))

/-- The whole number nearest to `num / den`; a half goes to the even neighbour. -/
def roundDiv (num den : Nat) : Nat :=
  let below := num / den
  let excess := 2 * (num % den)
  if excess < den ∨ (excess = den ∧ below % 2 = 0) then below else below + 1

/-- The number of units nearest to `num / den` among those with at most 53 significant bits; a
half goes to the even significand. -/
def roundUnits (num den : Nat) : Nat :=
  let step := spacing (num / den)
  roundDiv num (den * step) * step

/-! ## Laws -/

theorem spacing_pos (n : Nat) : 0 < spacing n := Nat.two_pow_pos _

/-- Scaling a number of at most 53 bits by a power of two leaves at most 53 significant bits. -/
theorem spacing_dvd_mul_two_pow {m : Nat} (j : Nat) (hm : m < 2 ^ (53 : Nat)) :
    spacing (m * 2 ^ j) ∣ m * 2 ^ j := by
  by_cases h : m * 2 ^ j = 0
  · exact h ▸ Nat.dvd_zero _
  · have bound : m * 2 ^ j < 2 ^ (53 + j) := by
      rw [Nat.pow_add]
      exact Nat.mul_lt_mul_of_pos_right hm (Nat.two_pow_pos j)
    have := (Nat.log2_lt h).mpr bound
    exact Nat.dvd_trans (Nat.pow_dvd_pow 2 (by omega)) (Nat.dvd_mul_left _ _)

/-- A number of at most 53 bits, scaled by a power of two, is a magnitude below the limit. -/
theorem fits_mul_two_pow {m j : Nat} (hm : m < 2 ^ (53 : Nat)) (hj : j ≤ greatestShift) :
    Fits (m * 2 ^ j) := by
  refine ⟨spacing_dvd_mul_two_pow j hm, ?_⟩
  unfold limit
  calc m * 2 ^ j < 2 ^ 53 * 2 ^ j := Nat.mul_lt_mul_of_pos_right hm (Nat.two_pow_pos j)
    _ = 2 ^ (53 + j) := (Nat.pow_add 2 53 j).symm
    _ ≤ 2 ^ (53 + greatestShift) := Nat.pow_le_pow_right (by decide) (by omega)

theorem limit_pos : 0 < limit := by
  unfold limit
  exact Nat.two_pow_pos _

theorem fits_zero : Fits 0 := ⟨Nat.dvd_zero _, limit_pos⟩

/-- The rounded quotient is one of the two whole numbers around the quotient. -/
theorem roundDiv_eq (num den : Nat) :
    roundDiv num den = num / den ∨ roundDiv num den = num / den + 1 := by
  unfold roundDiv
  dsimp only
  split
  · exact .inl rfl
  · exact .inr rfl

/-- Counted in steps of its own spacing, a number has at most 53 bits. -/
theorem div_spacing_lt (n : Nat) : n / spacing n < 2 ^ (53 : Nat) := by
  rw [Nat.div_lt_iff_lt_mul (spacing_pos n)]
  calc n < 2 ^ (n.log2 + 1) := Nat.lt_log2_self
    _ ≤ 2 ^ (53 + (n.log2 - 52)) := Nat.pow_le_pow_right (by decide) (by omega)
    _ = 2 ^ 53 * spacing n := Nat.pow_add _ _ _

/-- Rounding leaves at most 53 significant bits. -/
theorem spacing_dvd_roundUnits (num den : Nat) :
    spacing (roundUnits num den) ∣ roundUnits num den := by
  have hlt := div_spacing_lt (num / den)
  rw [Nat.div_div_eq_div_mul] at hlt
  have hle : roundDiv num (den * spacing (num / den)) ≤ 2 ^ 53 := by
    rcases roundDiv_eq num (den * spacing (num / den)) with h | h <;> omega
  unfold roundUnits spacing at *
  dsimp only at *
  rcases Nat.lt_or_eq_of_le hle with h | h
  · exact spacing_dvd_mul_two_pow _ h
  · rw [h, show (2 : Nat) ^ 53 = 2 ^ 52 * 2 from rfl, Nat.mul_assoc, ← Nat.pow_succ']
    exact spacing_dvd_mul_two_pow _ (by decide)

/-- Below the limit a rounded quotient is a magnitude. -/
theorem fits_roundUnits {num den : Nat} (h : roundUnits num den < limit) :
    Fits (roundUnits num den) :=
  ⟨spacing_dvd_roundUnits num den, h⟩

/-- A magnitude is its own rounding. -/
theorem roundUnits_of_fits {n : Nat} (h : Fits n) : roundUnits n 1 = n := by
  unfold roundUnits roundDiv
  simp only [Nat.div_one, Nat.one_mul, Nat.mod_eq_zero_of_dvd h.1, Nat.mul_zero, spacing_pos,
    true_or, ↓reduceIte]
  exact Nat.div_mul_cancel h.1

end InView.Binary64
