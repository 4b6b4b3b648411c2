import InView.Binary64.Basic
import Mathlib.Tactic.Linarith
import Mathlib.Tactic.Ring

/-!
# Rounding respects order

Rounding takes a quotient to a nearby magnitude, and everything that is said about arithmetic
elsewhere needs only one thing of it: it never crosses a magnitude.  A quotient on one side of
a number with at most 53 significant bits is rounded to that side (`roundUnits_le`,
`le_roundUnits`), and from this, and from the same for whole numbers, rounding is monotone
(`roundUnits_mono`).  Quotients are compared by cross multiplication, so no rational numbers
occur.
-/

namespace InView.Binary64

/-! ## Rounding to whole numbers -/

/-- A rounded quotient is at most `k` exactly up to the middle between `k` and its successor,
and at the middle if `k` is even.  This is the only place that looks into `roundDiv`. -/
lemma roundDiv_le_iff {num den : Nat} (hden : 0 < den) (k : Nat) :
    roundDiv num den ≤ k ↔
      2 * num < (2 * k + 1) * den ∨ (2 * num = (2 * k + 1) * den ∧ k % 2 = 0) := by
  have split_num : den * (num / den) + num % den = num := Nat.div_add_mod num den
  have excess_lt : num % den < den := Nat.mod_lt num hden
  unfold roundDiv
  dsimp only
  generalize num / den = q at *
  generalize num % den = r at *
  subst split_num
  have expand : (2 * k + 1) * den = 2 * (den * k) + den := by ring
  rw [expand]
  rcases Nat.lt_trichotomy k q with hk | rfl | hk
  · have step : den * k + den ≤ den * q := by
      simpa [Nat.mul_succ] using Nat.mul_le_mul_left den hk
    split <;> constructor <;> intro h <;> omega
  · split_ifs with h <;> constructor <;> intro h' <;> omega
  · have step : den * q + den ≤ den * k := by
      simpa [Nat.mul_succ] using Nat.mul_le_mul_left den hk
    split <;> constructor <;> intro h <;> omega

/-- Rounding down never passes a whole number. -/
lemma roundDiv_le {num den k : Nat} (hden : 0 < den) (h : num ≤ k * den) :
    roundDiv num den ≤ k := by
  refine (roundDiv_le_iff hden k).mpr (Or.inl ?_)
  have expand : (2 * k + 1) * den = 2 * (k * den) + den := by ring
  omega

/-- Nor does rounding up. -/
lemma le_roundDiv {num den k : Nat} (hden : 0 < den) (h : k * den ≤ num) :
    k ≤ roundDiv num den := by
  by_contra below
  obtain ⟨j, rfl⟩ : ∃ j, k = j + 1 := ⟨k - 1, by omega⟩
  have hj : roundDiv num den ≤ j := by omega
  have expand : (2 * j + 1) * den = 2 * (j * den) + den := by ring
  have expand' : (j + 1) * den = j * den + den := by ring
  rcases (roundDiv_le_iff hden j).mp hj with h' | h' <;> omega

/-- A greater quotient has no smaller rounding. -/
lemma roundDiv_mono {num den num' den' : Nat} (hden : 0 < den) (hden' : 0 < den')
    (h : num * den' ≤ num' * den) : roundDiv num den ≤ roundDiv num' den' := by
  set k := roundDiv num' den' with hk
  refine (roundDiv_le_iff hden k).mpr ?_
  have upper := (roundDiv_le_iff hden' k).mp hk.ge
  -- both bounds of `upper` are carried over to the other denominator by cross multiplication
  have cross : 2 * num * den' ≤ 2 * num' * den := by linarith
  have swap : (2 * k + 1) * den' * den = (2 * k + 1) * den * den' := by ring
  rcases upper with upper | ⟨upper, even⟩
  · refine Or.inl (Nat.lt_of_mul_lt_mul_right (a := den') ?_)
    have := Nat.mul_lt_mul_of_pos_right upper hden
    omega
  · have le : 2 * num ≤ (2 * k + 1) * den := by
      refine Nat.le_of_mul_le_mul_right (c := den') ?_ hden'
      rw [upper, swap] at cross
      exact cross
    rcases Nat.lt_or_eq_of_le le with lt | eq
    · exact Or.inl lt
    · exact Or.inr ⟨eq, even⟩

/-- Rounding adds at most a half. -/
lemma roundDiv_mul_le {num den : Nat} (hden : 0 < den) :
    2 * (roundDiv num den * den) ≤ 2 * num + den := by
  have split_num : den * (num / den) + num % den = num := Nat.div_add_mod num den
  unfold roundDiv
  dsimp only
  split
  case isTrue =>
    rw [Nat.mul_comm (num / den)]
    omega
  case isFalse up =>
    have expand : (num / den + 1) * den = den * (num / den) + den := by ring
    omega

/-! ## Spacing -/

lemma log2_le_log2 {m n : Nat} (h : m ≤ n) : m.log2 ≤ n.log2 := by
  rcases Nat.eq_zero_or_pos m with rfl | hm
  · simp
  · rw [Nat.le_log2 (by omega)]
    exact Nat.le_trans (Nat.log2_self_le (by omega)) h

/-- Spacing grows by powers of two, so a smaller spacing divides a greater one. -/
lemma spacing_dvd_spacing {m n : Nat} (h : m ≤ n) : spacing m ∣ spacing n :=
  Nat.pow_dvd_pow 2 (Nat.sub_le_sub_right (log2_le_log2 h) 52)

/-- A power of two is a multiple of its spacing. -/
lemma spacing_dvd_two_pow (j : Nat) : spacing (2 ^ j) ∣ 2 ^ j := by
  rw [spacing, Nat.log2_two_pow]
  exact Nat.pow_dvd_pow 2 (Nat.sub_le j 52)

/-- A magnitude is as far below the next power of two as its spacing. -/
lemma add_spacing_le {u : Nat} (dvd : spacing u ∣ u) : u + spacing u ≤ 2 ^ (u.log2 + 1) := by
  have lt : u < 2 ^ (u.log2 + 1) := Nat.lt_log2_self
  have dvd' : spacing u ∣ 2 ^ (u.log2 + 1) := Nat.pow_dvd_pow 2 (by omega)
  have le : spacing u ≤ 2 ^ (u.log2 + 1) - u :=
    Nat.le_of_dvd (Nat.sub_pos_of_lt lt) (Nat.dvd_sub dvd' dvd)
  omega

/-! ## The number one -/

lemma one_units_pos : 0 < one := by
  unfold one
  positivity

/-- The number one is a power of two, with room below and above it. -/
lemma one_eq_two_pow : ∃ j, 52 ≤ j ∧ j + 53 ≤ greatestShift ∧ one = 2 ^ j := by
  refine ⟨1074, by decide, ?_, ?_⟩
  · unfold greatestShift
    omega
  · unfold one
    -- the power must not be evaluated
    generalize 1074 = j
    rfl

/-- A whole number of 53 bits is a magnitude, and so is the power of two behind them. -/
lemma fits_mul_one {n : Nat} (h : n ≤ 2 ^ 53) : Fits (n * one) := by
  obtain ⟨j, -, room, power⟩ := one_eq_two_pow
  rw [power]
  rcases h.lt_or_eq with lt | rfl
  · exact fits_mul_two_pow lt (by omega)
  · rw [← Nat.pow_add, ← Nat.one_mul (2 ^ (53 + j))]
    exact fits_mul_two_pow (by decide) (by omega)

/-! ## Rounding to magnitudes -/

/-- **Rounding down never passes a magnitude.** -/
theorem roundUnits_le {m num den : Nat} (hden : 0 < den) (hm : spacing m ∣ m)
    (h : num ≤ m * den) : roundUnits num den ≤ m := by
  have quotient_le : num / den ≤ m := by
    rw [Nat.div_le_iff_le_mul hden]
    omega
  obtain ⟨k, hk⟩ : spacing (num / den) ∣ m := (spacing_dvd_spacing quotient_le).trans hm
  have step_pos := spacing_pos (num / den)
  unfold roundUnits
  dsimp only
  generalize spacing (num / den) = step at *
  have bound : roundDiv num (den * step) ≤ k := by
    refine roundDiv_le (Nat.mul_pos hden step_pos) ?_
    calc num ≤ m * den := h
      _ = k * (den * step) := by rw [hk]; ring
  calc roundDiv num (den * step) * step ≤ k * step := Nat.mul_le_mul_right step bound
    _ = m := by rw [hk, Nat.mul_comm]

/-- **Rounding up never passes a magnitude.**  A magnitude whose spacing is finer than the one
around the quotient lies below the power of two that begins the range of the quotient. -/
theorem le_roundUnits {m num den : Nat} (hden : 0 < den) (hm : spacing m ∣ m)
    (h : m * den ≤ num) : m ≤ roundUnits num den := by
  have le_quotient : m ≤ num / den := (Nat.le_div_iff_mul_le hden).mpr h
  -- `p` is `m` itself, or the power of two above it, and in both cases a multiple of the step
  obtain ⟨p, mp, pq, dvd⟩ : ∃ p, m ≤ p ∧ p ≤ num / den ∧ spacing (num / den) ∣ p := by
    by_cases same : m.log2 = (num / den).log2
    · refine ⟨m, le_refl m, le_quotient, ?_⟩
      rw [spacing, ← same]
      exact hm
    · have below : m.log2 < (num / den).log2 :=
        lt_of_le_of_ne (log2_le_log2 le_quotient) same
      have quotient_ne : num / den ≠ 0 := by
        intro zero
        simp [zero] at below
      refine ⟨2 ^ (num / den).log2, ?_, Nat.log2_self_le quotient_ne,
        Nat.pow_dvd_pow 2 (Nat.sub_le _ 52)⟩
      calc m ≤ 2 ^ (m.log2 + 1) := Nat.lt_log2_self.le
        _ ≤ 2 ^ (num / den).log2 := Nat.pow_le_pow_right (by decide) below
  obtain ⟨k, hk⟩ := dvd
  have step_pos := spacing_pos (num / den)
  have pden : p * den ≤ num := (Nat.le_div_iff_mul_le hden).mp pq
  unfold roundUnits
  dsimp only
  generalize spacing (num / den) = step at *
  have bound : k ≤ roundDiv num (den * step) := by
    refine le_roundDiv (Nat.mul_pos hden step_pos) ?_
    calc k * (den * step) = p * den := by rw [hk]; ring
      _ ≤ num := pden
  calc m ≤ p := mp
    _ = k * step := by rw [hk, Nat.mul_comm]
    _ ≤ roundDiv num (den * step) * step := Nat.mul_le_mul_right step bound

/-- **Rounding is monotone.**  Two quotients in one range are rounded to multiples of one step;
otherwise a power of two lies between them, and neither rounding passes it. -/
theorem roundUnits_mono {num den num' den' : Nat} (hden : 0 < den) (hden' : 0 < den')
    (h : num * den' ≤ num' * den) : roundUnits num den ≤ roundUnits num' den' := by
  have quotients : num / den ≤ num' / den' := by
    rw [Nat.le_div_iff_mul_le hden']
    refine Nat.le_of_mul_le_mul_right (c := den) ?_ hden
    calc num / den * den' * den = num / den * den * den' := by ring
      _ ≤ num * den' := Nat.mul_le_mul_right den' (Nat.div_mul_le_self num den)
      _ ≤ num' * den := h
  by_cases same : (num / den).log2 = (num' / den').log2
  · have step_pos := spacing_pos (num' / den')
    unfold roundUnits
    rw [show spacing (num / den) = spacing (num' / den') by rw [spacing, spacing, same]]
    dsimp only
    generalize spacing (num' / den') = step at *
    refine Nat.mul_le_mul_right step (roundDiv_mono ?_ ?_ ?_)
    · exact Nat.mul_pos hden step_pos
    · exact Nat.mul_pos hden' step_pos
    · calc num * (den' * step) = num * den' * step := by ring
        _ ≤ num' * den * step := Nat.mul_le_mul_right step h
        _ = num' * (den * step) := by ring
  · have below : (num / den).log2 < (num' / den').log2 :=
      lt_of_le_of_ne (log2_le_log2 quotients) same
    have quotient_ne : num' / den' ≠ 0 := by
      intro zero
      simp [zero] at below
    have quotient_lt : num / den < 2 ^ (num' / den').log2 :=
      lt_of_lt_of_le Nat.lt_log2_self (Nat.pow_le_pow_right (by decide) below)
    calc roundUnits num den ≤ 2 ^ (num' / den').log2 := by
          refine roundUnits_le hden (spacing_dvd_two_pow _) ?_
          exact ((Nat.div_lt_iff_lt_mul hden).mp quotient_lt).le
      _ ≤ roundUnits num' den' := by
          refine le_roundUnits hden' (spacing_dvd_two_pow _) ?_
          exact (Nat.le_div_iff_mul_le hden').mp (Nat.log2_self_le quotient_ne)

/-- Only the quotient is rounded, whatever its terms are. -/
lemma roundUnits_congr {num den num' den' : Nat} (hden : 0 < den) (hden' : 0 < den')
    (h : num * den' = num' * den) : roundUnits num den = roundUnits num' den' :=
  (roundUnits_mono hden hden' h.le).antisymm (roundUnits_mono hden' hden h.ge)

/-- Rounding adds at most half a step, which is a small part of a number with 53 bits or more. -/
theorem roundUnits_mul_le {num den : Nat} (hden : 0 < den) (large : 2 ^ 52 * den ≤ num) :
    2 ^ 53 * (roundUnits num den * den) ≤ (2 ^ 53 + 1) * num := by
  have quotient : 2 ^ 52 ≤ num / den := (Nat.le_div_iff_mul_le hden).mpr large
  have bits : 52 ≤ (num / den).log2 := (Nat.le_log2 (by omega)).mpr quotient
  have step_le : 2 ^ 52 * (den * spacing (num / den)) ≤ num := by
    calc 2 ^ 52 * (den * spacing (num / den)) = 2 ^ 52 * spacing (num / den) * den := by ring
      _ = 2 ^ (num / den).log2 * den := by
        rw [spacing, ← Nat.pow_add, Nat.add_sub_of_le bits]
      _ ≤ num / den * den := Nat.mul_le_mul_right den (Nat.log2_self_le (by omega))
      _ ≤ num := Nat.div_mul_le_self num den
  have near := @roundDiv_mul_le num _ (Nat.mul_pos hden (spacing_pos (num / den)))
  have units : roundUnits num den * den =
      roundDiv num (den * spacing (num / den)) * (den * spacing (num / den)) := by
    unfold roundUnits
    ring
  rw [units]
  omega

end InView.Binary64
