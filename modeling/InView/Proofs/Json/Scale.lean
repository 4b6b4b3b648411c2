import InView.Json.Number
import InView.Proofs.Decimal.Shortest

/-!
# Scaling stays within the format

Scaling rounds up to three times, so a number just below the limits of the format could overflow
although it denotes a finite number.  A shortest decimal never does (`scale?_shortest`).

* Down from a power of ten there is nothing to show, since a quotient by a number above one is no
  greater than what is divided.
* Upwards there is room for eighteen digits as long as the power is not among the last eighteen.
* Multiples of `10 ^ 293` have so few digits that only the power is rounded, and none of them lies
  so close to the limit that this matters.
* Between these two, the greatest significands are looked at.  For `10 ^ 292` one of them would
  overflow, but it is not the shortest decimal of any number, because another is nearer.

Where the significand and the power of ten are numbers that the format holds, scaling rounds only
once, and gives the number that the decimal denotes (`scale?_of_small`).
-/

namespace InView

namespace Binary64

/-! ## Magnitudes -/

/-- A finite number without a sign. -/
def IsMagnitude (x : Binary64) : Prop := ∃ units fits, x = .finite false units fits

lemma rounded_of_lt {negative : Bool} {num den : Nat} (h : roundUnits num den < limit) :
    rounded negative num den = .finite negative (roundUnits num den) (fits_roundUnits h) := by
  rw [rounded, dif_pos h]

lemma isMagnitude_rounded {num den : Nat} (h : roundUnits num den < limit) :
    (rounded false num den).IsMagnitude := ⟨_, _, rounded_of_lt h⟩

/-- A quotient by a number from one on is no greater than what is divided. -/
lemma isMagnitude_div {x y : Binary64} {m n : Nat} {hm : Fits m} {hn : Fits n}
    (hx : x = .finite false m hm) (hy : y = .finite false n hn) (ge : one ≤ n) :
    (x / y).IsMagnitude := by
  have n_pos : 0 < n := Nat.lt_of_lt_of_le one_units_pos ge
  have le : roundUnits (m * one) n ≤ m := roundUnits_le n_pos hm.1 (Nat.mul_le_mul_left m ge)
  have quotient : x / y = rounded false (m * one) n := by
    rw [hx, hy]
    change div _ _ = _
    rw [div, if_neg (by omega)]
    rfl
  rw [quotient]
  exact isMagnitude_rounded (le.trans_lt hm.2)

end Binary64

namespace Json

open Binary64

/-! ## What is evaluated -/

/-- The units of a significand scaled up by a power of ten. -/
def scaledUp (n k : Nat) : Nat :=
  roundUnits (roundUnits (n * one) 1 * roundUnits (10 ^ k * one) 1) one

/-- The greatest magnitude of the format. -/
def greatest : Nat := limit - 2 ^ greatestShift

/-- The middle below the greatest magnitude. -/
def middle : Nat := greatest - 2 ^ (greatestShift - 1)

/-- The middle above the greatest magnitude, where rounding begins to lead to the limit. -/
def brink : Nat := limit - 2 ^ (greatestShift - 1)

/-- Roundings on either side of the limit. -/
lemma evaluated : limit ≤ roundUnits brink 1 ∧
    roundUnits (10 ^ stepExponent * one) 1 < limit ∧
    roundUnits ((2 ^ 53 + 1) * middle) (2 ^ 53) < limit ∧
    scaledUp (10 ^ 18) 290 < limit ∧
    scaledUp (brink / (10 ^ 291 * one)) 291 < limit ∧
    scaledUp 17976931348623157 292 < limit := by
  decide +kernel

/-- Where the brink lies among decimals: below `10 ^ 309`, and between two whole multiples of
`10 ^ 292`.  No multiple of `10 ^ 293` lies between the two middles, and up to the lower of them
the multiples have 53 bits. -/
lemma brink_bounds : brink ≤ 10 ^ (stepExponent + 1) * one ∧
    brink ≤ 17976931348623159 * 10 ^ 292 * one ∧
    brink / (10 ^ 293 * one) * (10 ^ 293 * one) ≤ middle ∧
    middle < 2 ^ 53 * (10 ^ 293 * one) := by
  decide +kernel

/-- On the grid `10 ^ 292` two decimals denote the greatest magnitude, and the lower one is
nearer.  Scaling the upper one would lead to the limit. -/
lemma neighbour?_greatest :
    Decimal.nearestUnits ⟨17976931348623158, 292⟩ = greatest ∧
      neighbour? .even greatest 292 = some ⟨17976931348623157, 292⟩ := by
  decide +kernel

/-! ## Powers of ten -/

/-- Whole numbers up to `10 ^ 308` do not reach the limit. -/
lemma roundUnits_lt_limit {n : Nat} (h : n ≤ 10 ^ stepExponent) :
    roundUnits (n * one) 1 < limit := by
  refine (roundUnits_mono Nat.one_pos Nat.one_pos ?_).trans_lt evaluated.2.1
  rw [Nat.mul_one, Nat.mul_one]
  exact Nat.mul_le_mul_right one h

/-- Eighteen digits fit into a significand. -/
lemma lt_significandLimit {n : Nat} (h : n ≤ 10 ^ 18) : n < significandLimit :=
  h.trans_lt (by decide)

/-- A significand is rounded to a finite number. -/
lemma isMagnitude_ofNat {n : Nat} (h : n < significandLimit) :
    ∃ fits, ofNat n = .finite false (roundUnits (n * one) 1) fits := by
  have digits : significandLimit ≤ 10 ^ 20 := by decide
  have power : 10 ^ 20 ≤ 10 ^ stepExponent := Nat.pow_le_pow_right (by decide) (by decide)
  exact ⟨_, rounded_of_lt (roundUnits_lt_limit (h.le.trans (digits.trans power)))⟩

/-- The powers of ten up to `10 ^ 308` are finite, and from one on. -/
lemma tenTo_eq {k : Nat} (h : k ≤ stepExponent) :
    ∃ fits, tenTo k = .finite false (roundUnits (10 ^ k * one) 1) fits := by
  have lt := roundUnits_lt_limit (Nat.pow_le_pow_right (show 0 < 10 by decide) h)
  have scaled : tenTo k = rounded false (10 ^ k * one) 1 := by
    simp [tenTo, ofDecimal]
  exact ⟨fits_roundUnits lt, by rw [scaled, rounded_of_lt lt]⟩

lemma one_le_tenTo (k : Nat) : one ≤ roundUnits (10 ^ k * one) 1 := by
  have dvd : spacing one ∣ one := by
    obtain ⟨j, -, -, power⟩ := one_eq_two_pow
    exact power ▸ spacing_dvd_two_pow j
  refine le_roundUnits Nat.one_pos dvd ?_
  rw [Nat.mul_one]
  exact Nat.le_mul_of_pos_left one (Nat.pow_pos (by decide))

/-! ## Down and up -/

/-- Scaled down, a significand stays finite. -/
lemma scale?_of_neg {n : Nat} (hn : n < significandLimit) {e : Int} (he : e < 0) :
    ∃ x, scale? n e = some x ∧ x.IsMagnitude := by
  obtain ⟨fits, whole⟩ := isMagnitude_ofNat hn
  rw [scale?, if_neg (Int.not_le.mpr he)]
  dsimp only
  split
  case isTrue near =>
    obtain ⟨_, power⟩ := tenTo_eq near
    exact ⟨_, rfl, isMagnitude_div whole power (one_le_tenTo _)⟩
  case isFalse =>
    split
    case isTrue far =>
      obtain ⟨_, power⟩ := tenTo_eq (le_refl stepExponent)
      obtain ⟨_, power'⟩ := tenTo_eq (k := (-e).toNat - stepExponent) (by omega)
      obtain ⟨_, _, first⟩ := isMagnitude_div whole power (one_le_tenTo _)
      exact ⟨_, rfl, isMagnitude_div first power' (one_le_tenTo _)⟩
    case isFalse => exact ⟨0, rfl, _, _, rfl⟩

lemma scaledUp_mono {m n k l : Nat} (h : m ≤ n) (h' : k ≤ l) : scaledUp m k ≤ scaledUp n l := by
  refine roundUnits_mono one_units_pos one_units_pos (Nat.mul_le_mul_right one ?_)
  refine Nat.mul_le_mul (roundUnits_mono Nat.one_pos Nat.one_pos ?_)
    (roundUnits_mono Nat.one_pos Nat.one_pos ?_)
  · rw [Nat.mul_one, Nat.mul_one]
    exact Nat.mul_le_mul_right one h
  · rw [Nat.mul_one, Nat.mul_one]
    exact Nat.mul_le_mul_right one (Nat.pow_le_pow_right (by decide) h')

lemma scale?_of_scaledUp {n k : Nat} (hn : n ≤ 10 ^ 18) (hk : k ≤ stepExponent)
    (h : scaledUp n k < limit) : ∃ x, scale? n k = some x ∧ x.IsMagnitude := by
  obtain ⟨fits, whole⟩ := isMagnitude_ofNat (lt_significandLimit hn)
  obtain ⟨_, power⟩ := tenTo_eq hk
  have product : ofNat n * tenTo k = .finite false (scaledUp n k) (fits_roundUnits h) := by
    rw [whole, power]
    exact rounded_of_lt h
  rw [scale?, if_pos (Int.natCast_nonneg k)]
  simp only [Int.toNat_natCast, hk, if_true, product]
  exact ⟨_, rfl, _, _, rfl⟩

/-! ## One rounding -/

/-- A significand up to `2 ^ 53` is a whole number that the format holds. -/
lemma ofNat_of_le {n : Nat} (h : n ≤ 2 ^ 53) : ∃ fits, ofNat n = .finite false (n * one) fits :=
  ⟨fits_mul_one h, rounded_of_fits false (fits_mul_one h)⟩

/-- Up to the twenty-second the powers of ten are numbers of the format. -/
lemma tenTo_of_le {k : Nat} (h : k ≤ 22) : ∃ fits, tenTo k = .finite false (10 ^ k * one) fits := by
  obtain ⟨j, -, room, one_eq⟩ := one_eq_two_pow
  have five_lt : 5 ^ k < 2 ^ 53 :=
    (Nat.pow_le_pow_right (show 0 < 5 by decide) h).trans_lt (by decide)
  have split : 10 ^ k * one = 5 ^ k * 2 ^ (k + j) := by
    rw [one_eq, show 10 = 5 * 2 from rfl, Nat.mul_pow, Nat.mul_assoc, ← Nat.pow_add]
  have fits : Fits (10 ^ k * one) := split ▸ fits_mul_two_pow five_lt (by omega)
  obtain ⟨_, power⟩ := tenTo_eq (show k ≤ stepExponent by rw [stepExponent]; omega)
  simp only [roundUnits_of_fits fits] at power
  exact ⟨fits, power⟩

/-- With a significand and a power of ten that the format holds, scaling rounds only once, to the
number that the decimal denotes. -/
theorem scale?_of_small {n : Nat} {e : Int} (hn : n ≤ 2 ^ 53) (he : e.natAbs ≤ 22) {units : Nat}
    (fits : Fits units) (denotes : Decimal.nearestUnits ⟨n, e⟩ = units) :
    scale? n e = some (.finite false units fits) := by
  obtain ⟨_, whole⟩ := ofNat_of_le hn
  rw [Decimal.nearestUnits] at denotes
  rcases Int.lt_or_le e 0 with down | up
  · obtain ⟨_, power⟩ := tenTo_of_le (show (-e).toNat ≤ 22 by omega)
    have same : roundUnits (n * one * one) (10 ^ (-e).toNat * one) = units := by
      rw [← denotes]
      refine roundUnits_congr (Nat.mul_pos (Nat.pow_pos (by decide)) one_units_pos)
        (Nat.pow_pos (by decide)) ?_
      simp only [Int.toNat_of_nonpos down.le]
      ring
    have pos : 10 ^ (-e).toNat * one ≠ 0 :=
      (Nat.mul_pos (Nat.pow_pos (by decide)) one_units_pos).ne'
    have quotient : ofNat n / tenTo (-e).toNat = .finite false units fits := by
      rw [whole, power]
      change div _ _ = _
      rw [div, if_neg pos]
      simp only [rounded, same, fits.2, dif_pos]
      rfl
    rw [scale?, if_neg (Int.not_le.mpr down)]
    simp only [show (-e).toNat ≤ stepExponent by rw [stepExponent]; omega, if_true, quotient]
  · obtain ⟨_, power⟩ := tenTo_of_le (show e.toNat ≤ 22 by omega)
    have same : roundUnits (n * one * (10 ^ e.toNat * one)) one = units := by
      rw [← denotes]
      refine roundUnits_congr one_units_pos (Nat.pow_pos (by decide)) ?_
      simp only [Int.toNat_of_nonpos (show -e ≤ 0 by omega)]
      ring
    have product : ofNat n * tenTo e.toNat = .finite false units fits := by
      rw [whole, power]
      change mul _ _ = _
      simp only [mul, rounded, same, fits.2, dif_pos]
      rfl
    rw [scale?, if_pos up]
    simp only [show e.toNat ≤ stepExponent by rw [stepExponent]; omega, if_true, product]
    rfl

/-! ## Near the limit -/

lemma lt_brink {n : Nat} (h : roundUnits n 1 < limit) : n < brink := by
  by_contra above
  have least := evaluated.1
  have mono : roundUnits brink 1 ≤ roundUnits n 1 :=
    roundUnits_mono Nat.one_pos Nat.one_pos (by omega)
  omega

/-- As many steps of a grid as fit below a number. -/
lemma le_div_grid {n m k : Nat} (h : n * (10 ^ k * one) ≤ m) : n ≤ m / (10 ^ k * one) :=
  (Nat.le_div_iff_mul_le (Nat.mul_pos (Nat.pow_pos (by decide)) one_units_pos)).mpr h

/-- Eighteen digits can be scaled up as long as the power is not among the last. -/
lemma scaledUp_lt_limit {n k : Nat} (hn : n ≤ 10 ^ 18) (hk : k ≤ 290) : scaledUp n k < limit :=
  (scaledUp_mono hn hk).trans_lt evaluated.2.2.2.1

/-- A significand that the format holds leaves only the power to be rounded, by a small part of it,
and that does not lead from the lower middle to the limit. -/
lemma scaledUp_lt_of_le_middle {n k : Nat} (hn : n < 2 ^ 53) (h : n * 10 ^ k * one ≤ middle) :
    scaledUp n k < limit := by
  obtain ⟨j, low, -, one_eq⟩ := one_eq_two_pow
  have large : 2 ^ 52 * 1 ≤ 10 ^ k * one := by
    rw [Nat.mul_one, one_eq]
    exact (Nat.pow_le_pow_right (by decide) low).trans
      (Nat.le_mul_of_pos_left _ (Nat.pow_pos (by decide)))
  have power := roundUnits_mul_le Nat.one_pos large
  rw [scaledUp, roundUnits_of_fits (fits_mul_one hn.le)]
  generalize roundUnits (10 ^ k * one) 1 = t at *
  have bound : n * one * t * 2 ^ 53 ≤ (2 ^ 53 + 1) * middle * one := by
    calc n * one * t * 2 ^ 53 = n * one * (2 ^ 53 * (t * 1)) := by ring
      _ ≤ n * one * ((2 ^ 53 + 1) * (10 ^ k * one)) := Nat.mul_le_mul_left _ power
      _ = (2 ^ 53 + 1) * (n * 10 ^ k * one) * one := by ring
      _ ≤ (2 ^ 53 + 1) * middle * one := Nat.mul_le_mul_right _ (Nat.mul_le_mul_left _ h)
  exact (roundUnits_mono one_units_pos (Nat.two_pow_pos 53) bound).trans_lt evaluated.2.2.1

/-- Multiples of `10 ^ 293` stay below the limit. -/
lemma scaledUp_lt_of_multiple {n k : Nat} (hk : 293 ≤ k) (h : n * 10 ^ k * one < brink) :
    scaledUp n k < limit := by
  obtain ⟨-, -, gap, bits⟩ := brink_bounds
  have multiple : n * 10 ^ k * one = n * 10 ^ (k - 293) * (10 ^ 293 * one) := by
    calc n * 10 ^ k * one = n * (10 ^ (k - 293) * 10 ^ 293) * one := by
          rw [← Nat.pow_add, Nat.sub_add_cancel hk]
      _ = n * 10 ^ (k - 293) * (10 ^ 293 * one) := by simp only [Nat.mul_assoc]
  have le : n * 10 ^ k * one ≤ middle := by
    rw [multiple] at h ⊢
    exact le_trans (Nat.mul_le_mul_right _ (le_div_grid h.le)) gap
  refine scaledUp_lt_of_le_middle ?_ le
  by_contra long
  have : 2 ^ 53 * (10 ^ 293 * one) ≤ n * 10 ^ k * one := by
    rw [multiple]
    exact Nat.mul_le_mul_right _ ((Nat.not_lt.mp long).trans
      (Nat.le_mul_of_pos_right n (Nat.pow_pos (by decide))))
  omega

/-! ## Shortest decimals -/

lemma digits_le_of_exponent {units : Nat} (fits : Fits units) (hu : units ≠ 0)
    (grid : (shortest .even units).exponent = 292)
    (lt : (shortest .even units).digits * 10 ^ 292 * one < brink) :
    (shortest .even units).digits ≤ 17976931348623157 := by
  by_contra above
  have upper : (shortest .even units).digits = 17976931348623158 := by
    by_contra differs
    have : 17976931348623159 * 10 ^ 292 * one ≤ (shortest .even units).digits * 10 ^ 292 * one :=
      Nat.mul_le_mul_right _ (Nat.mul_le_mul_right _ (by omega))
    have := brink_bounds.2.1
    omega
  obtain ⟨k, -, found⟩ := neighbour?_shortest .even fits hu
  rw [← (neighbour?_on_grid found).1, grid] at found
  have denotes := nearestUnits_shortest .even fits
  generalize shortest .even units = d at *
  obtain ⟨digits, exponent⟩ := d
  obtain rfl : digits = 17976931348623158 := upper
  obtain rfl : exponent = 292 := grid
  rw [neighbour?_greatest.1] at denotes
  rw [← denotes, neighbour?_greatest.2] at found
  cases found

/-- The shortest decimals with a power of ten that is not negative stay below the limit. -/
lemma scaledUp_shortest {units : Nat} (fits : Fits units) (hu : units ≠ 0) {k : Nat}
    (grid : (shortest .even units).exponent = k) :
    k ≤ stepExponent ∧ scaledUp (shortest .even units).digits k < limit := by
  have short := digits_shortest_le .even fits
  have pos := Nat.pos_of_ne_zero (digits_shortest_ne_zero .even fits hu)
  have lt : (shortest .even units).digits * 10 ^ k * one < brink := by
    refine lt_brink ?_
    have denotes := nearestUnits_shortest .even fits
    rw [Decimal.nearestUnits, grid] at denotes
    simp only [Int.toNat_natCast, Int.toNat_neg_natCast, Nat.pow_zero] at denotes
    rw [denotes]
    exact fits.2
  have k_le : k ≤ stepExponent := by
    by_contra far
    have : 10 ^ (stepExponent + 1) * one ≤ (shortest .even units).digits * 10 ^ k * one := by
      refine Nat.mul_le_mul_right one ?_
      calc 10 ^ (stepExponent + 1) ≤ 10 ^ k := Nat.pow_le_pow_right (by decide) (by omega)
        _ ≤ (shortest .even units).digits * 10 ^ k := Nat.le_mul_of_pos_left _ pos
    have := brink_bounds.1
    omega
  refine ⟨k_le, ?_⟩
  rcases (by omega : k ≤ 290 ∨ k = 291 ∨ k = 292 ∨ 293 ≤ k) with near | rfl | rfl | far
  · exact scaledUp_lt_limit short near
  · refine (scaledUp_mono ?_ (le_refl 291)).trans_lt evaluated.2.2.2.2.1
    rw [Nat.mul_assoc] at lt
    exact le_div_grid lt.le
  · exact (scaledUp_mono (digits_le_of_exponent fits hu grid lt) (le_refl 292)).trans_lt
      evaluated.2.2.2.2.2
  · exact scaledUp_lt_of_multiple far lt

/-- **A shortest decimal is scaled to a finite number.** -/
theorem scale?_shortest {units : Nat} (fits : Fits units) :
    ∃ x, scale? (shortest .even units).digits (shortest .even units).exponent = some x ∧
      x.IsMagnitude := by
  have short := digits_shortest_le .even fits
  by_cases hu : units = 0
  · subst hu
    rw [shortest, if_pos rfl]
    exact scale?_of_scaledUp (k := 0) (Nat.zero_le _) (by decide)
      (scaledUp_lt_limit (Nat.zero_le _) (Nat.zero_le _))
  rcases Int.lt_or_le (shortest .even units).exponent 0 with down | up
  · exact scale?_of_neg (lt_significandLimit short) down
  · obtain ⟨k, grid⟩ := Int.eq_ofNat_of_zero_le up
    obtain ⟨k_le, lt⟩ := scaledUp_shortest fits hu grid
    rw [grid]
    exact scale?_of_scaledUp short k_le lt

end Json

end InView
