import InView.Json.Container
import InView.Json.Value

/-!
# Ignored values

A member that a reader does not know may hold any value.  The value is passed over without being
kept: containers of any depth, with the brackets that are still open on a stack.
-/

namespace InView.Json

open Reader

/-- A container that has been opened. -/
inductive Bracket where
  | list
  | object
  deriving DecidableEq

namespace Bracket

/-- The character that closes the container. -/
def closing : Bracket → Char
  | list => ']'
  | object => '}'

/-- The cause of failure if the text ends in the container. -/
def unfinished : Bracket → Cause
  | list => .unfinishedList
  | object => .unfinishedObject

/-- The cause of failure if neither an item nor the end of the container follows. -/
def expectedEnd : Bracket → Cause
  | list => .expectedListEnd
  | object => .expectedObjectEnd

end Bracket

/-! ## Parts -/

/-- Passes over the exponent of a number, if it has one. -/
def skipExponent : Reader Unit := do
  if ← takeIf isExponentMark then
    let _ ← exponentSign
    let _ ← someDigits .invalidNumber

/-- Passes over a number. -/
def skipNumber : Reader Unit := do
  let _ ← takeIf (· = '-')
  let _ ← wholeDigits .invalidNumber
  if ← takeIf (· = '.') then
    let _ ← someDigits .invalidNumber
  skipExponent

/-- Passes over a value that is no container and begins with a character. -/
def skipPlain (first : Char) : Reader Unit :=
  match first with
  | '"' => do
    advance
    skipLiteral
  | 'n' => readWord "null".toList
  | 't' => readWord "true".toList
  | 'f' => readWord "false".toList
  | c => if beginsNumber c then skipNumber else failNext .expectedValue

/-- Passes over the key of a member and its colon. -/
def skipKey : Reader Unit := do
  match ← peekToken with
  | none => failHere .unfinishedObject
  | some '"' =>
    advance
    skipLiteral
    colon
  | some _ => failNext .expectedKey

/-! ## Nesting -/

/-- What comes next in an ignored value. -/
inductive Ahead where
  /-- A value inside of open containers, which are listed from the inside out. -/
  | value (opened : List Bracket)
  /-- The rest of a container, behind one of its items, inside of other open containers. -/
  | rest (bracket : Bracket) (outer : List Bracket)

/-- What comes behind a value inside of open containers. -/
def behindValue : List Bracket → Turn Ahead Unit
  | [] => .done ()
  | bracket :: outer => .more (.rest bracket outer)

/-- Goes to the value of an item of a container, behind its key if it has one. -/
def enterItem (bracket : Bracket) (outer : List Bracket) : Reader (Turn Ahead Unit) := do
  if bracket = .object then skipKey
  return .more (.value (bracket :: outer))

/-- Goes to the first item of a container behind its opening bracket, or over the closing one. -/
def enter (bracket : Bracket) (outer : List Bracket) : Reader (Turn Ahead Unit) := do
  match ← peekToken with
  | none => failHere bracket.unfinished
  | some c =>
    if c = bracket.closing then
      advance
      return behindValue outer
    else enterItem bracket outer

/-- Passes over a value, or over the beginning of one that is a container. -/
def skipValue (opened : List Bracket) : Reader (Turn Ahead Unit) := do
  match ← peekToken with
  | none => failHere .unfinishedValue
  | some '[' =>
    advance
    enter .list opened
  | some '{' =>
    advance
    enter .object opened
  | some c =>
    skipPlain c
    return behindValue opened

/-- Goes to the next item of a container behind one of its items, or over the closing bracket. -/
def skipRest (bracket : Bracket) (outer : List Bracket) : Reader (Turn Ahead Unit) := do
  match ← peekToken with
  | none => failHere bracket.unfinished
  | some c =>
    if c = bracket.closing then
      advance
      return behindValue outer
    else if c = ',' then
      advance
      enterItem bracket outer
    else failNext bracket.expectedEnd

/-- Passes over a part of an ignored value. -/
def skipStep : Ahead → Reader (Turn Ahead Unit)
  | .value opened => skipValue opened
  | .rest bracket outer => skipRest bracket outer

/-! ## Progress -/

theorem skipNumber_strict : skipNumber.Strict :=
  Strict.bind_right _ fun _ => (wholeDigits_strict _).bind_left _

theorem skipPlain_reads (c : Char) : (skipPlain c).Reads c := by
  unfold skipPlain
  split
  · exact reads_advance _ _
  · exact (readWord_strict _ _).reads _
  · exact (readWord_strict _ _).reads _
  · exact (readWord_strict _ _).reads _
  · split
    · exact skipNumber_strict.reads _
    · exact reads_fail _ _

theorem skipValue_strict (opened : List Bracket) : (skipValue opened).Strict := by
  refine strict_peekToken (strict_fail _) fun c => ?_
  split
  · exact reads_fail c _
  · exact reads_advance c _
  · exact reads_advance c _
  · case h_4 h =>
    cases h
    exact (skipPlain_reads c).bind_left _

theorem skipRest_strict (bracket : Bracket) (outer : List Bracket) :
    (skipRest bracket outer).Strict := by
  refine strict_peekToken (strict_fail _) fun c => ?_
  dsimp only
  split
  · exact reads_advance c _
  · split
    · exact reads_advance c _
    · exact reads_fail c _

theorem skipStep_strict : (ahead : Ahead) → (skipStep ahead).Strict
  | .value opened => skipValue_strict opened
  | .rest bracket outer => skipRest_strict bracket outer

/-- Passes over a value of any kind. -/
def readIgnored : Reader Unit := loop skipStep skipStep_strict (.value [])

end InView.Json
