import InView.Binary64.Basic

/-!
# Decimals and the shortest decimal of a number

A decimal is a whole number of digits times a power of ten.  `Decimal.nearestUnits` is the binary64
magnitude a decimal denotes, and `shortest` goes the other way: of the decimals that denote a
given magnitude it gives the one with the fewest digits, and among those the nearest.

The search walks the grids `10 ^ e` from coarse to fine.  On each grid only the two neighbours of
the magnitude have to be looked at, since reading is monotone; the first grid with a neighbour
that denotes the magnitude wins.  Seventeen significant digits always suffice, so the walk is
short.
-/

namespace InView

attribute [local instance] Binary64.natPow

/-- The decimal `digits * 10 ^ exponent`. -/
structure Decimal where
  digits : Nat
  exponent : Int
  deriving DecidableEq

namespace Decimal

/-- The units of the binary64 magnitude nearest to the decimal, ties going to the even
significand. -/
def nearestUnits (d : Decimal) : Nat :=
  Binary64.roundUnits (d.digits * 10 ^ d.exponent.toNat * Binary64.one)
    (10 ^ (-d.exponent).toNat)

end Decimal

/-- The number nearest to a decimal under a sign. -/
def Binary64.ofDecimal (negative : Bool) (d : Decimal) : Binary64 :=
  .rounded negative (d.digits * 10 ^ d.exponent.toNat * one) (10 ^ (-d.exponent).toNat)

/-- Which of two equally near decimals is taken. -/
inductive Tie where
  | even
  | upper
  deriving DecidableEq

/-- Whether `num / den` belongs to the upper one of the whole numbers around it. -/
def Tie.prefersUpper (tie : Tie) (num den : Nat) : Bool :=
  match compare (2 * (num % den)) den, tie with
  | .lt, _ => false
  | .gt, _ => true
  | .eq, .even => num / den % 2 = 1
  | .eq, .upper => true

/-- The decimal on the grid `10 ^ e` next to a magnitude that denotes it; the nearer neighbour is
tried first. -/
def neighbour? (tie : Tie) (units : Nat) (e : Int) : Option Decimal :=
  let num := units * 10 ^ (-e).toNat
  let den := Binary64.one * 10 ^ e.toNat
  let lower : Decimal := ⟨num / den, e⟩
  let upper : Decimal := ⟨num / den + 1, e⟩
  let byNearness := if tie.prefersUpper num den then [upper, lower] else [lower, upper]
  byNearness.find? (·.nearestUnits = units)

/-- An exponent just above the leading decimal digit of a magnitude: `30103 / 100000` is a little
more than the logarithm of two. -/
def topExponent (units : Nat) : Int :=
  ((units.log2 : Int) - 1073) * 30103 / 100000 + 1

/-- The exponents at which a shortest decimal is looked for, from the coarsest. -/
def searchExponents (units : Nat) : List Int :=
  (List.range 20).map fun k : Nat => topExponent units - k

/-- The exact decimal of a magnitude. -/
def exactDecimal (units : Nat) : Decimal := ⟨units * 5 ^ (1074 : Nat), -1074⟩

/-- The decimal with the fewest digits that denotes a magnitude. -/
def shortest (tie : Tie) (units : Nat) : Decimal :=
  if units = 0 then ⟨0, 0⟩
  else ((searchExponents units).findSome? (neighbour? tie units)).getD (exactDecimal units)

/-! ## Laws -/

/-- A neighbour found on a grid denotes the magnitude. -/
theorem nearestUnits_of_neighbour? {tie : Tie} {units : Nat} {e : Int} {d : Decimal}
    (h : neighbour? tie units e = some d) : d.nearestUnits = units := by
  simpa using List.find?_some h

end InView
