import InView.Decimal.Shortest

/-!
# Numerals

A numeral spells a number by the digits of its shortest decimal.  Numbers whose leading digit
stands for a power of ten in a given range are written plainly, with at least one digit on each
side of the point; the others have one digit before the point and an exponent.  A
`NumeralStyle` fixes that range and the few other choices in which one format of numbers differs
from another.
-/

namespace InView

/-- The choices of a format of numbers. -/
structure NumeralStyle where
  /-- Which of two equally near shortest decimals is written. -/
  tie : Tie
  /-- The least power of ten of a leading digit that is written plainly. -/
  leastPlain : Int
  /-- The greatest power of ten of a leading digit that is written plainly. -/
  greatestPlain : Int
  /-- The sign written before an exponent that is not negative. -/
  exponentPlus : List Char
  nan : String
  infinity : String
  negativeInfinity : String

namespace Numeral

/-- Digits scaled by `10 ^ exponent`, written with a point and a digit on each side of it. -/
def plain (digits : List Char) (exponent : Int) : List Char :=
  if 0 ≤ exponent then
    digits ++ List.replicate exponent.toNat '0' ++ ['.', '0']
  else
    let places := (-exponent).toNat
    let padded := List.replicate (places + 1 - digits.length) '0' ++ digits
    padded.take (padded.length - places) ++ '.' :: padded.drop (padded.length - places)

/-- One digit, the others after a point if there are any, and the exponent of the first. -/
def scientific (plus : List Char) (digits : List Char) (exponent : Int) : List Char :=
  let mantissa :=
    match digits with
    | first :: second :: rest => first :: '.' :: second :: rest
    | few => few
  let sign := if exponent < 0 then ['-'] else plus
  mantissa ++ 'e' :: sign ++ Nat.toDigits 10 exponent.natAbs

end Numeral

namespace NumeralStyle

/-- The numeral of a decimal. -/
def decimal (style : NumeralStyle) (d : Decimal) : List Char :=
  let digits := Nat.toDigits 10 d.digits
  let leading : Int := d.exponent + digits.length - 1
  if style.leastPlain ≤ leading ∧ leading ≤ style.greatestPlain then
    Numeral.plain digits d.exponent
  else
    Numeral.scientific style.exponentPlus digits leading

/-- The numeral of a number. -/
def numeral (style : NumeralStyle) : Binary64 → List Char
  | .nan => style.nan.toList
  | .infinite false => style.infinity.toList
  | .infinite true => style.negativeInfinity.toList
  | .finite negative units _ =>
    (if negative then ['-'] else []) ++ style.decimal (shortest style.tie units)

end NumeralStyle

end InView
