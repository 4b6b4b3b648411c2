import InView.Decimal.Numeral
import InView.Json.Reader.Loop

/-!
# Numbers

How a number is written in a document, and how it is read.

Writing gives the shortest numeral that denotes the number.  Reading rounds more than once: it
keeps as many leading digits as fit into 64 bits as a **significand**, counts the others into a
power of ten, and **scales** the significand, rounded to a binary64 number, by that power.  The
result is exact for short numerals, and can be a neighbour of the nearest number for long ones.
-/

namespace InView.Json

open Reader

attribute [local instance] Binary64.natPow

/-- Written numbers are plain from `0.00001` to below `10 ^ 16`; an exponent always has a sign, and
a tie between two shortest numerals goes to the even digit.  What is not finite is written as
`null`. -/
def numeralStyle : NumeralStyle where
  tie := .even
  leastPlain := -5
  greatestPlain := 15
  exponentPlus := ['+']
  nan := "null"
  infinity := "null"
  negativeInfinity := "null"

/-- A number as it stands in a document. -/
inductive Number where
  /-- A whole number below `2 ^ 64` without a sign. -/
  | natural (n : Nat)
  /-- The opposite of a positive whole number up to `2 ^ 63`. -/
  | opposite (n : Nat)
  /-- Any other number. -/
  | real (x : Binary64)
  deriving DecidableEq

namespace Number

/-- The binary64 number nearest to a number. -/
def toBinary64 : Number → Binary64
  | natural n => .ofNat n
  | opposite n => -.ofNat n
  | real x => x

/-- What a number is called in a message. -/
def description : Number → String
  | natural n => "integer `" ++ n.repr ++ "`"
  | opposite n => "integer `-" ++ n.repr ++ "`"
  | real x => "floating point `" ++ String.ofList (numeralStyle.numeral x) ++ "`"

end Number

/-! ## Digits -/

/-- The value of a decimal digit. -/
def digitValue (c : Char) : Nat := c.toNat - '0'.toNat

/-- The bound of significands. -/
def significandLimit : Nat := 2 ^ (64 : Nat)

/-- The bound of the digits of an exponent. -/
def exponentLimit : Nat := 2 ^ (31 : Nat)

/-- Appends digits to a number as long as it stays below a bound, and returns the number with the
digits that are left. -/
def absorb (limit : Nat) (n : Nat) : List Char → Nat × List Char
  | [] => (n, [])
  | d :: digits =>
    if 10 * n + digitValue d < limit then absorb limit (10 * n + digitValue d) digits
    else (n, d :: digits)

/-- An exponent kept within 32 bits. -/
def clampExponent (e : Int) : Int := max (-exponentLimit) (min (exponentLimit - 1) e)

/-! ## Scaling -/

/-- The binary64 number nearest to a power of ten. -/
def tenTo (k : Nat) : Binary64 := .ofDecimal false ⟨1, k⟩

/-- The greatest power of ten that is scaled by in one step. -/
def stepExponent : Nat := 308

/-- A significand times a power of ten, with one rounding for the significand, one for the power
and one for each step; none if it is too large.  Two steps down leave nothing of any significand. -/
def scale? (significand : Nat) (exponent : Int) : Option Binary64 :=
  let x := Binary64.ofNat significand
  if 0 ≤ exponent then
    let up := exponent.toNat
    if up ≤ stepExponent then
      let product := x * tenTo up
      if product.isFinite then some product else none
    else if significand = 0 then some 0 else none
  else
    let down := (-exponent).toNat
    if down ≤ stepExponent then some (x / tenTo down)
    else if down ≤ 2 * stepExponent then
      some (x / tenTo stepExponent / tenTo (down - stepExponent))
    else some 0

/-- A number under a sign. -/
def withSign (negative : Bool) (x : Binary64) : Binary64 := if negative then -x else x

/-! ## Reading -/

/-- A whole number under a sign.  Zero keeps its sign, and so does what is below `-2 ^ 63`, as a
binary64 number. -/
def wholeNumber (negative : Bool) (n : Nat) : Number :=
  if !negative then .natural n
  else if n = 0 ∨ 2 ^ (63 : Nat) < n then .real (-.ofNat n)
  else .opposite n

/-- A scaled significand as a number, unless it is too large. -/
def scaledNumber (negative : Bool) (significand : Nat) (exponent : Int) : Reader Number :=
  match scale? significand exponent with
  | some x => return .real (withSign negative x)
  | none => failHere .numberOutOfRange

/-- Whether a character begins an exponent. -/
def isExponentMark (c : Char) : Bool := c = 'e' || c = 'E'

/-- Reads all digits in front, of which there must be one; `atEnd` is the cause of failure if the
text ends instead. -/
def someDigits (atEnd : Cause) : Reader (List Char) := do
  match ← peek with
  | none => failHere atEnd
  | some c => if c.isDigit then takeWhile Char.isDigit else failNext .invalidNumber

theorem someDigits_strict (atEnd : Cause) : (someDigits atEnd).Strict := by
  refine strict_peek (strict_fail _) fun c => ?_
  dsimp only
  split
  case isTrue digit =>
    intro cs a rest run
    simp only [run_takeWhile, Except.ok.injEq, Prod.mk.injEq, List.dropWhile_cons_of_pos digit]
      at run
    exact run.2 ▸ (List.dropWhile_suffix _).length_le
  · exact reads_fail c _

/-- Reads the digits before a point, which must not begin with a zero if there are others. -/
def wholeDigits (atEnd : Cause) : Reader (List Char) := do
  if ← takeIf (· = '0') then
    if (← peek).any Char.isDigit then failNext .invalidNumber
    else return ['0']
  else someDigits atEnd

theorem wholeDigits_strict (atEnd : Cause) : (wholeDigits atEnd).Strict :=
  strict_takeIf (someDigits_strict atEnd)

/-- Reads the sign of an exponent, if there is one, and tells whether it is a minus. -/
def exponentSign : Reader Bool := do
  if ← takeIf (· = '-') then return true
  else
    let _ ← takeIf (· = '+')
    return false

/-- Reads the rest of a number behind the mark of its exponent.  An exponent that is out of bounds
makes the number zero or too large, and the digits behind the bound are then left. -/
def readExponent (negative : Bool) (significand : Nat) (exponent : Int) : Reader Number := do
  let down ← exponentSign
  match absorb exponentLimit 0 (← someDigits .unfinishedValue) with
  | (e, []) =>
    scaledNumber negative significand (clampExponent (if down then exponent - e else exponent + e))
  | (_, _ :: left) =>
    if significand ≠ 0 ∧ !down then fail fun rest => .here .numberOutOfRange (left ++ rest)
    else return .real (.zero negative)

/-- Reads the rest of a number behind its point.  `surplus` counts the digits before the point that
do not fit into the significand. -/
def readFraction (negative : Bool) (significand surplus : Nat) : Reader Number := do
  let digits ← someDigits .unfinishedValue
  let (significand, left) := absorb significandLimit significand digits
  let exponent : Int := surplus - (digits.length - left.length : Nat)
  if ← takeIf isExponentMark then readExponent negative significand exponent
  else scaledNumber negative significand exponent

/-- Reads a number behind its sign. -/
def readUnsigned (negative : Bool) : Reader Number := do
  let (significand, surplus) := absorb significandLimit 0 (← wholeDigits .unfinishedValue)
  if ← takeIf (· = '.') then readFraction negative significand surplus.length
  else if ← takeIf isExponentMark then readExponent negative significand surplus.length
  else if surplus.isEmpty then return wholeNumber negative significand
  else scaledNumber negative significand surplus.length

/-- Reads a number. -/
def readNumber : Reader Number := do
  readUnsigned (← takeIf (· = '-'))

/-- Whether a character can begin a number. -/
def beginsNumber (c : Char) : Bool := c = '-' || c.isDigit

end InView.Json
