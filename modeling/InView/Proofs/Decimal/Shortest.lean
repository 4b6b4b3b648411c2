import InView.Decimal.Shortest
import InView.Proofs.Binary64.Rounding

/-!
# The search for a shortest decimal

The search for a shortest decimal ends on one of its grids, and never falls back on the exact
decimal (`neighbour?_shortest`).  The reason is that a grid finer than half the spacing of a
magnitude has a point that is nearer to it than to any other magnitude, and the nineteenth grid
is that fine (`fine_last`).  The same grid is coarse enough to leave no more than eighteen
digits before it, so every shortest decimal is short (`digits_shortest_le`), and it denotes the
magnitude that it was searched for (`nearestUnits_shortest`).
-/

namespace InView

namespace Binary64

/-! ## Quotients near a magnitude -/

/-- A quotient is rounded to a multiple of the step around it if that is less than half a step
away. -/
lemma roundUnits_eq_of_dvd {u num den : Nat} (hden : 0 < den) (dvd : spacing (num / den) ∣ u)
    (below : 2 * (u * den) < 2 * num + spacing (num / den) * den)
    (above : 2 * num < 2 * (u * den) + spacing (num / den) * den) : roundUnits num den = u := by
  have step_pos := spacing_pos (num / den)
  unfold roundUnits
  dsimp only
  generalize spacing (num / den) = step at *
  obtain ⟨k, rfl⟩ := dvd
  have width_pos : 0 < den * step := Nat.mul_pos hden step_pos
  have middle : step * k * den = k * (den * step) := by ring
  have width : step * den = den * step := Nat.mul_comm step den
  have le : roundDiv num (den * step) ≤ k := by
    refine (roundDiv_le_iff width_pos k).mpr (Or.inl ?_)
    have expand : (2 * k + 1) * (den * step) = 2 * (k * (den * step)) + den * step := by ring
    omega
  have ge : k ≤ roundDiv num (den * step) := by
    by_contra lt
    obtain ⟨j, rfl⟩ : ∃ j, k = j + 1 := ⟨k - 1, by omega⟩
    have expand : (2 * j + 1) * (den * step) = 2 * (j * (den * step)) + den * step := by ring
    have expand' : (j + 1) * (den * step) = j * (den * step) + den * step := by ring
    have le_j : roundDiv num (den * step) ≤ j := by omega
    rcases (roundDiv_le_iff width_pos j).mp le_j with h | h <;> omega
  rw [le_antisymm le ge, Nat.mul_comm]

lemma spacing_le_two_pow (u : Nat) : spacing u ≤ 2 ^ u.log2 :=
  Nat.pow_le_pow_right (by decide) (Nat.sub_le _ 52)

/-- **A quotient near a magnitude is rounded to it.**  A quarter of the spacing is near enough on
both sides, although the spacing below a power of two is only half of the one above. -/
theorem roundUnits_eq_of_near {u num den : Nat} (hden : 0 < den) (hu : u ≠ 0)
    (dvd : spacing u ∣ u) (below : 4 * (u * den) < 4 * num + spacing u * den)
    (above : 4 * num < 4 * (u * den) + spacing u * den) : roundUnits num den = u := by
  have lower : 2 ^ u.log2 ≤ u := Nat.log2_self_le hu
  rcases Nat.lt_or_ge num (u * den) with h | h
  · have quotient_le : num / den ≤ u := by
      have := (Nat.div_lt_iff_lt_mul hden).mpr h
      omega
    have dvd' := (spacing_dvd_spacing quotient_le).trans dvd
    -- the quotient is at most one power of two below, so its spacing is at least half as wide
    have half : spacing u ≤ 2 * spacing (num / den) := by
      have log : u.log2 ≤ (num / den).log2 + 1 := by
        by_contra lt
        obtain ⟨j, hj⟩ : ∃ j, u.log2 = j + 1 := ⟨u.log2 - 1, by omega⟩
        have enough : 2 ^ j ≤ num / den := by
          refine (Nat.le_div_iff_mul_le hden).mpr ?_
          have step := Nat.mul_le_mul_right den (spacing_le_two_pow u)
          have scaled := Nat.mul_le_mul_right den lower
          rw [hj, pow_succ] at step scaled
          have swap : 2 ^ j * 2 * den = 2 * (2 ^ j * den) := by ring
          omega
        have := (Nat.le_log2 (by have := Nat.two_pow_pos j; omega)).mpr enough
        omega
      calc spacing u ≤ 2 ^ ((num / den).log2 - 52 + 1) :=
            Nat.pow_le_pow_right (by decide) (by omega)
        _ = 2 * spacing (num / den) := by rw [pow_succ, Nat.mul_comm, spacing]
    have half' := Nat.mul_le_mul_right den half
    rw [Nat.mul_assoc] at half'
    exact roundUnits_eq_of_dvd hden dvd' (by omega) (by omega)
  · have le_quotient : u ≤ num / den := (Nat.le_div_iff_mul_le hden).mpr h
    have quotient_lt : num / den < 2 ^ (u.log2 + 1) := by
      refine (Nat.div_lt_iff_lt_mul hden).mpr ?_
      have := Nat.mul_le_mul_right den (add_spacing_le dvd)
      rw [Nat.add_mul] at this
      omega
    have same : spacing (num / den) = spacing u := by
      have := log2_le_log2 le_quotient
      have := (Nat.log2_lt (by omega)).mpr quotient_lt
      rw [spacing, spacing, show (num / den).log2 = u.log2 by omega]
    refine roundUnits_eq_of_dvd hden (same ▸ dvd) ?_ ?_ <;> rw [same] <;> omega

end Binary64

open Binary64

/-! ## Neighbours on a grid -/

/-- The preferred one of two neighbours is the nearer one. -/
lemma prefersUpper_near (tie : Tie) (num den : Nat) :
    if tie.prefersUpper num den then den ≤ 2 * (num % den) else 2 * (num % den) ≤ den := by
  cases order : compare (2 * (num % den)) den with
  | lt =>
      have := Nat.compare_eq_lt.mp order
      simp only [Tie.prefersUpper, order, Bool.false_eq_true, if_false]
      omega
  | gt =>
      have := Nat.compare_eq_gt.mp order
      simp only [Tie.prefersUpper, order, if_true]
      omega
  | eq =>
      have := Nat.compare_eq_eq.mp order
      split <;> omega

/-- A grid finer than half the spacing of a magnitude has a neighbour that denotes it. -/
lemma neighbour?_of_fine (tie : Tie) {units : Nat} {e : Int} (hu : units ≠ 0)
    (dvd : spacing units ∣ units)
    (fine : 2 * (one * 10 ^ e.toNat) < spacing units * 10 ^ (-e).toNat) :
    ∃ d, neighbour? tie units e = some d := by
  have scale_pos : 0 < 10 ^ (-e).toNat := Nat.pow_pos (by decide)
  have den_pos : 0 < one * 10 ^ e.toNat :=
    Nat.mul_pos one_units_pos (Nat.pow_pos (by decide))
  have near := prefersUpper_near tie (units * 10 ^ (-e).toNat) (one * 10 ^ e.toNat)
  have split := Nat.div_add_mod (units * 10 ^ (-e).toNat) (one * 10 ^ e.toNat)
  have mod_lt := Nat.mod_lt (units * 10 ^ (-e).toNat) den_pos
  -- the digits that are tried first, and the distance of their decimal
  have denotes : ∀ m : Nat,
      2 * (units * 10 ^ (-e).toNat) ≤ 2 * (m * (one * 10 ^ e.toNat)) + one * 10 ^ e.toNat →
      2 * (m * (one * 10 ^ e.toNat)) ≤ 2 * (units * 10 ^ (-e).toNat) + one * 10 ^ e.toNat →
      (⟨m, e⟩ : Decimal).nearestUnits = units := by
    intro m below above
    have scaled : m * 10 ^ e.toNat * one = m * (one * 10 ^ e.toNat) := by ring
    simp only [Decimal.nearestUnits, scaled]
    exact roundUnits_eq_of_near scale_pos hu dvd (by omega) (by omega)
  rw [← Option.isSome_iff_exists, neighbour?]
  generalize one * 10 ^ e.toNat = den at *
  generalize units * 10 ^ (-e).toNat = num at *
  have product : num / den * den = den * (num / den) := Nat.mul_comm _ _
  rw [List.find?_isSome]
  split at near
  case isTrue upper =>
    have next : (num / den + 1) * den = num / den * den + den := by ring
    exact ⟨⟨num / den + 1, e⟩, by simp [upper], by simpa using denotes _ (by omega) (by omega)⟩
  case isFalse lower =>
    exact ⟨⟨num / den, e⟩, by simp [lower], by simpa using denotes _ (by omega) (by omega)⟩

/-- A neighbour lies on its grid, right below or right above. -/
lemma neighbour?_on_grid {tie : Tie} {units : Nat} {e : Int} {d : Decimal}
    (h : neighbour? tie units e = some d) :
    d.exponent = e ∧
      d.digits ≤ units * 10 ^ (-e).toNat / (one * 10 ^ e.toNat) + 1 := by
  have mem := List.mem_of_find?_eq_some h
  split at mem
  all_goals
    simp only [List.mem_cons, List.not_mem_nil, or_false] at mem
    rcases mem with rfl | rfl <;> simp

/-! ## The last grid -/

/-- The exponent of the grid on which the search has succeeded at the latest, for magnitudes with a
given number of bits. -/
def lastExponent (log : Nat) : Int := ((log : Int) - 1073) * 30103 / 100000 - 17

/-- Whether that grid is fine enough to succeed, and coarse enough for eighteen digits. -/
def suits (log : Nat) : Bool :=
  match lastExponent log with
  | .ofNat up =>
    (2 * (one * 10 ^ up)).blt (2 ^ (log - 52)) && (2 ^ (log + 1)).ble (10 ^ 18 * (one * 10 ^ up))
  | .negSucc down =>
    (2 * one).blt (2 ^ (log - 52) * 10 ^ (down + 1)) &&
      (2 ^ (log + 1) * 10 ^ (down + 1)).ble (10 ^ 18 * one)

/-- The grid suits, whatever the number of bits.  A list is evaluated, since deciding the bounded
quantifier takes several times as long. -/
lemma all_suits : (List.range 2098).all suits := by decide +kernel

lemma fine_last {log : Nat} (h : log < 2098) :
    2 * (one * 10 ^ (lastExponent log).toNat) <
        2 ^ (log - 52) * 10 ^ (-lastExponent log).toNat ∧
      2 ^ (log + 1) * 10 ^ (-lastExponent log).toNat ≤
        10 ^ 18 * (one * 10 ^ (lastExponent log).toNat) := by
  have suits := List.all_eq_true.mp all_suits log (List.mem_range.mpr h)
  rw [InView.suits] at suits
  cases grid : lastExponent log with
  | ofNat up => simpa [grid] using suits
  | negSucc down => simpa [grid] using suits

lemma lastExponent_eq (units : Nat) : lastExponent units.log2 = topExponent units - (18 : Nat) := by
  rw [lastExponent, topExponent]
  omega

lemma log2_lt_of_fits {units : Nat} (fits : Fits units) : units.log2 < 2098 := by
  by_cases hu : units = 0
  · simp [hu]
  · have lt := fits.2
    unfold limit at lt
    have log_lt := (Nat.log2_lt hu).mpr lt
    unfold greatestShift at log_lt
    exact log_lt

/-- A coarser grid leaves no more digits. -/
lemma coarser_le {num den bound : Nat} {e e' : Int} (h : e ≤ e')
    (le : num * 10 ^ (-e).toNat ≤ bound * (den * 10 ^ e.toNat)) :
    num * 10 ^ (-e').toNat ≤ bound * (den * 10 ^ e'.toNat) := by
  calc num * 10 ^ (-e').toNat ≤ num * 10 ^ (-e).toNat :=
        Nat.mul_le_mul_left num (Nat.pow_le_pow_right (by decide) (by omega))
    _ ≤ bound * (den * 10 ^ e.toNat) := le
    _ ≤ bound * (den * 10 ^ e'.toNat) :=
        Nat.mul_le_mul_left bound
          (Nat.mul_le_mul_left den (Nat.pow_le_pow_right (by decide) (by omega)))

variable (tie : Tie) {units : Nat}

/-- **The search succeeds on one of its first nineteen grids.** -/
theorem neighbour?_shortest (fits : Fits units) (hu : units ≠ 0) :
    ∃ k < 19, neighbour? tie units (topExponent units - (k : Nat)) =
      some (shortest tie units) := by
  have fine := (fine_last (log2_lt_of_fits fits)).1
  rw [lastExponent_eq] at fine
  obtain ⟨d, found⟩ := neighbour?_of_fine tie hu fits.1 fine
  obtain ⟨d', first⟩ : ∃ d',
      ((List.range 19).map fun k : Nat => topExponent units - k).findSome?
        (neighbour? tie units) = some d' := by
    rw [← Option.isSome_iff_exists, List.findSome?_isSome_iff]
    exact ⟨_, List.mem_map.mpr ⟨18, by simp, rfl⟩, by rw [found]; rfl⟩
  have same : shortest tie units = d' := by
    have range : List.range 20 = List.range 19 ++ [19] := List.range_succ
    rw [shortest, if_neg hu, searchExponents, range, List.map_append, List.findSome?_append,
      first]
    rfl
  obtain ⟨e, mem, found'⟩ := List.exists_of_findSome?_eq_some first
  obtain ⟨k, inRange, rfl⟩ := List.mem_map.mp mem
  exact ⟨k, List.mem_range.mp inRange, same ▸ found'⟩

/-- **The shortest decimal of a magnitude denotes it.** -/
theorem nearestUnits_shortest (fits : Fits units) : (shortest tie units).nearestUnits = units := by
  by_cases hu : units = 0
  · subst hu
    rw [shortest, if_pos rfl]
    simp [Decimal.nearestUnits, roundUnits_of_fits fits_zero]
  · obtain ⟨k, -, found⟩ := neighbour?_shortest tie fits hu
    exact nearestUnits_of_neighbour? found

/-- Only zero is written with the digit zero alone. -/
lemma digits_shortest_ne_zero (fits : Fits units) (hu : units ≠ 0) :
    (shortest tie units).digits ≠ 0 := by
  intro zero
  have denotes := nearestUnits_shortest tie fits
  rw [Decimal.nearestUnits, zero] at denotes
  have none : roundUnits (0 * 10 ^ (shortest tie units).exponent.toNat * one)
      (10 ^ (-(shortest tie units).exponent).toNat) ≤ 0 :=
    roundUnits_le (Nat.pow_pos (by decide)) (Nat.dvd_zero _) (by simp)
  omega

/-- The exponent of a shortest decimal is one of those that are searched. -/
lemma exponent_shortest (fits : Fits units) (hu : units ≠ 0) :
    lastExponent units.log2 ≤ (shortest tie units).exponent ∧
      (shortest tie units).exponent ≤ topExponent units := by
  obtain ⟨k, lt, found⟩ := neighbour?_shortest tie fits hu
  have := (neighbour?_on_grid found).1
  have := lastExponent_eq units
  omega

/-- **A shortest decimal has no more than eighteen digits**, or is the power of ten behind them. -/
theorem digits_shortest_le (fits : Fits units) : (shortest tie units).digits ≤ 10 ^ 18 := by
  by_cases hu : units = 0
  · subst hu
    rw [shortest, if_pos rfl]
    exact Nat.zero_le _
  · obtain ⟨k, -, found⟩ := neighbour?_shortest tie fits hu
    obtain ⟨onGrid, digits⟩ := neighbour?_on_grid found
    have fine := (fine_last (log2_lt_of_fits fits)).2
    have coarse := coarser_le (exponent_shortest tie fits hu).1 fine
    rw [onGrid] at coarse
    refine digits.trans (Nat.succ_le_of_lt ?_)
    refine (Nat.div_lt_iff_lt_mul (Nat.mul_pos one_units_pos (Nat.pow_pos (by decide)))).mpr ?_
    calc units * 10 ^ (-(topExponent units - (k : Nat))).toNat
        < 2 ^ (units.log2 + 1) * 10 ^ (-(topExponent units - (k : Nat))).toNat :=
          Nat.mul_lt_mul_of_pos_right Nat.lt_log2_self (Nat.pow_pos (by decide))
      _ ≤ _ := coarse

end InView
