import InView.Proofs.Binary64.Rounding
import Mathlib.Algebra.Group.Nat.Even

/-!
# Rounding to nearest

`IsNearest` says what it means to round a quotient to 53 significant bits: no such number is nearer
to it, and if another one is as near, the last of the 53 bits is zero.  There is exactly one number
of which that is true, and `roundUnits` computes it (`isNearest_iff`).

Distances are compared in parts of the denominator.  A number with a finer spacing than the one
around the quotient is never nearest, because the power of two that begins the range of the quotient
lies between them.  So it is enough to look at the multiples of one step.
-/

namespace InView.Binary64

/-- How far a number of units is from `num / den`, in parts of `den`. -/
def distance (units num den : Nat) : Nat := ((units * den : Nat) - (num : ℤ)).natAbs

/-- The nearest to `num / den` of the numbers with at most 53 significant bits; of two that are
equally near, the one whose significand is even. -/
structure IsNearest (units num den : Nat) : Prop where
  significant : spacing units ∣ units
  nearest : ∀ other, spacing other ∣ other → distance units num den ≤ distance other num den
  even : ∀ other, spacing other ∣ other → other ≠ units →
    distance other num den = distance units num den → Even (units / spacing units)

lemma even_div_spacing_iff {units : Nat} (significant : spacing units ∣ units) :
    Even (units / spacing units) ↔ 2 * spacing units ∣ units := by
  rw [even_iff_two_dvd, Nat.dvd_div_iff_mul_dvd significant, Nat.mul_comm]

/-! ## Whole numbers -/

/-- A rounded quotient is at most a half away, and even if it is as far as that. -/
lemma distance_roundDiv (num : Nat) {den : Nat} (hden : 0 < den) :
    2 * distance (roundDiv num den) num den ≤ den ∧
      (2 * distance (roundDiv num den) num den = den → Even (roundDiv num den)) := by
  have upper := (roundDiv_le_iff hden (roundDiv num den)).mp le_rfl
  have lower : ∀ j, roundDiv num den = j + 1 →
      ¬ (2 * num < (2 * j + 1) * den ∨ 2 * num = (2 * j + 1) * den ∧ j % 2 = 0) := by
    intro j succ le
    have := (roundDiv_le_iff hden j).mpr le
    omega
  rw [Nat.even_iff, distance]
  generalize roundDiv num den = k at *
  have expand : (2 * k + 1) * den = 2 * (k * den) + den := by ring
  rw [expand] at upper
  cases k with
  | zero => omega
  | succ j =>
      have below := lower j rfl
      have shift : (2 * j + 1) * den + den = 2 * ((j + 1) * den) := by ring
      omega

/-- No whole number is nearer than the rounded quotient, and if another one is as near, the rounded
quotient is even. -/
lemma distance_roundDiv_le (num : Nat) {den : Nat} (hden : 0 < den) (j : Nat) :
    distance (roundDiv num den) num den ≤ distance j num den ∧
      (j ≠ roundDiv num den → distance j num den = distance (roundDiv num den) num den →
        Even (roundDiv num den)) := by
  obtain ⟨near, tie⟩ := distance_roundDiv num hden
  generalize roundDiv num den = k at *
  by_cases same : j = k
  · subst same
    exact ⟨le_rfl, fun differs => absurd rfl differs⟩
  · -- another multiple of the denominator is a whole one away
    have apart : j * den + den ≤ k * den ∨ k * den + den ≤ j * den := by
      rcases Nat.lt_or_gt_of_ne same with lt | lt
      · exact .inl (by simpa [Nat.succ_mul] using Nat.mul_le_mul_right den (Nat.succ_le_of_lt lt))
      · exact .inr (by simpa [Nat.succ_mul] using Nat.mul_le_mul_right den (Nat.succ_le_of_lt lt))
    unfold distance at *
    exact ⟨by omega, fun _ as_near => tie (by omega)⟩

/-! ## Numbers with 53 significant bits -/

/-- A number that is no multiple of the step around the quotient is farther away than one that
is. -/
lemma exists_nearer {m num den : Nat} (hden : 0 < den) (significant : spacing m ∣ m)
    (finer : ¬ spacing (num / den) ∣ m) :
    ∃ p, spacing (num / den) ∣ p ∧ distance p num den < distance m num den := by
  have log : m.log2 < (num / den).log2 := by
    by_contra ge
    exact finer ((Nat.pow_dvd_pow 2 (by omega)).trans significant)
  have quotient : num / den ≠ 0 := by
    intro zero
    simp [zero] at log
  refine ⟨2 ^ (num / den).log2, Nat.pow_dvd_pow 2 (Nat.sub_le _ 52), ?_⟩
  have below : m < 2 ^ (num / den).log2 :=
    Nat.lt_log2_self.trans_le (Nat.pow_le_pow_right (by decide) log)
  have above : 2 ^ (num / den).log2 * den ≤ num :=
    (Nat.le_div_iff_mul_le hden).mp (Nat.log2_self_le quotient)
  have := Nat.mul_lt_mul_of_pos_right below hden
  unfold distance
  omega

/-- Distances from a quotient, counted in steps. -/
lemma distance_mul_step (j num den step : Nat) :
    distance (j * step) num den = distance j num (den * step) := by
  rw [distance, distance, Nat.mul_assoc, Nat.mul_comm step]

/-- An even number of steps has an even significand, also where it begins the next range. -/
lemma two_mul_spacing_dvd_roundUnits {num den : Nat} (hden : 0 < den)
    (even : 2 * spacing (num / den) ∣ roundUnits num den) :
    2 * spacing (roundUnits num den) ∣ roundUnits num den := by
  have upper : roundUnits num den ≤ 2 ^ ((num / den).log2 + 1) := by
    refine roundUnits_le hden (spacing_dvd_two_pow _) ?_
    exact ((Nat.div_lt_iff_lt_mul hden).mp Nat.lt_log2_self).le
  rcases upper.lt_or_eq with lt | eq
  · have log : (roundUnits num den).log2 ≤ (num / den).log2 := by
      by_cases zero : roundUnits num den = 0
      · simp [zero]
      · exact Nat.lt_succ_iff.mp ((Nat.log2_lt zero).mpr lt)
    refine (Nat.mul_dvd_mul_left 2 ?_).trans even
    exact Nat.pow_dvd_pow 2 (Nat.sub_le_sub_right log 52)
  · rw [eq, spacing, Nat.log2_two_pow, ← Nat.pow_succ']
    exact Nat.pow_dvd_pow 2 (by omega)

/-- **`roundUnits` rounds to nearest, and ties to even.** -/
theorem roundUnits_isNearest (num : Nat) {den : Nat} (hden : 0 < den) :
    IsNearest (roundUnits num den) num den := by
  have pos : 0 < den * spacing (num / den) := Nat.mul_pos hden (spacing_pos _)
  have steps : roundUnits num den =
      roundDiv num (den * spacing (num / den)) * spacing (num / den) := rfl
  have distance_eq : distance (roundUnits num den) num den =
      distance (roundDiv num (den * spacing (num / den))) num (den * spacing (num / den)) := by
    rw [steps, distance_mul_step]
  -- the multiples of the step first: in steps they are whole numbers
  have multiple : ∀ m, spacing (num / den) ∣ m →
      distance (roundUnits num den) num den ≤ distance m num den ∧
        (m ≠ roundUnits num den → distance m num den = distance (roundUnits num den) num den →
          2 * spacing (num / den) ∣ roundUnits num den) := by
    rintro m ⟨j, rfl⟩
    rw [Nat.mul_comm, distance_mul_step, distance_eq]
    obtain ⟨le, tie⟩ := distance_roundDiv_le num pos j
    refine ⟨le, fun differs as_near => ?_⟩
    have other : j ≠ roundDiv num (den * spacing (num / den)) := fun same =>
      differs (by rw [steps, same])
    rw [steps]
    exact Nat.mul_dvd_mul_right (even_iff_two_dvd.mp (tie other as_near)) _
  have strict : ∀ m, spacing m ∣ m → ¬ spacing (num / den) ∣ m →
      distance (roundUnits num den) num den < distance m num den := by
    intro m significant finer
    obtain ⟨p, dvd, nearer⟩ := exists_nearer hden significant finer
    exact (multiple p dvd).1.trans_lt nearer
  refine ⟨spacing_dvd_roundUnits num den, fun m significant => ?_, ?_⟩
  · by_cases dvd : spacing (num / den) ∣ m
    · exact (multiple m dvd).1
    · exact (strict m significant dvd).le
  · intro m significant differs as_near
    rw [even_div_spacing_iff (spacing_dvd_roundUnits num den)]
    by_cases dvd : spacing (num / den) ∣ m
    · exact two_mul_spacing_dvd_roundUnits hden ((multiple m dvd).2 differs as_near)
    · exact absurd as_near (strict m significant dvd).ne'

/-- Behind a number with 53 significant bits comes the one that is its spacing away. -/
lemma spacing_dvd_add_spacing {u : Nat} (significant : spacing u ∣ u) :
    spacing (u + spacing u) ∣ u + spacing u := by
  rcases (add_spacing_le significant).lt_or_eq with lt | eq
  · have ne : u + spacing u ≠ 0 := by have := spacing_pos u; omega
    have log : (u + spacing u).log2 = u.log2 := by
      have := log2_le_log2 (Nat.le_add_right u (spacing u))
      have := (Nat.log2_lt ne).mpr lt
      omega
    rw [show spacing (u + spacing u) = spacing u by rw [spacing, log, spacing]]
    exact Nat.dvd_add significant dvd_rfl
  · rw [eq]
    exact spacing_dvd_two_pow _

/-- The nearest number is not below another one that is nearest too. -/
lemma IsNearest.not_lt {u v num den : Nat} (hden : 0 < den) (h : IsNearest u num den)
    (h' : IsNearest v num den) : ¬ u < v := by
  intro lt
  have same := (h.nearest v h'.significant).antisymm (h'.nearest u h.significant)
  have scaled := Nat.mul_lt_mul_of_pos_right lt hden
  -- no third number lies between them, so the greater one comes right behind the smaller one
  have next : v = u + spacing u := by
    have ge : u + spacing u ≤ v := by
      have dvd : spacing u ∣ v - u :=
        Nat.dvd_sub ((spacing_dvd_spacing lt.le).trans h'.significant) h.significant
      have := Nat.le_of_dvd (Nat.sub_pos_of_lt lt) dvd
      omega
    by_contra other
    have between : u + spacing u < v := by omega
    have nearest := h.nearest _ (spacing_dvd_add_spacing h.significant)
    have lower := Nat.mul_lt_mul_of_pos_right
      (Nat.lt_add_of_pos_right (spacing_pos u) : u < u + spacing u) hden
    have upper := Nat.mul_lt_mul_of_pos_right between hden
    unfold distance at *
    omega
  -- both have an even significand, so both are multiples of twice the spacing of the smaller one
  have even := (even_div_spacing_iff h.significant).mp
    (h.even v h'.significant lt.ne' same.symm)
  have even' := (even_div_spacing_iff h'.significant).mp
    (h'.even u h.significant lt.ne same)
  have wide : 2 * spacing u ∣ v := (Nat.mul_dvd_mul_left 2 (spacing_dvd_spacing lt.le)).trans even'
  have step : 2 * spacing u ∣ spacing u := by
    rw [next] at wide
    exact (Nat.dvd_add_right even).mp wide
  have := Nat.le_of_dvd (spacing_pos u) step
  have := spacing_pos u
  omega

/-- **There is one nearest number, and `roundUnits` computes it.** -/
theorem isNearest_iff {u num den : Nat} (hden : 0 < den) :
    IsNearest u num den ↔ u = roundUnits num den := by
  constructor
  · intro h
    have rounded := roundUnits_isNearest num hden
    exact le_antisymm (Nat.not_lt.mp (rounded.not_lt hden h))
      (Nat.not_lt.mp (h.not_lt hden rounded))
  · rintro rfl
    exact roundUnits_isNearest num hden

end InView.Binary64
