import InView.Json.Literal
import InView.Json.Number
import InView.Text.Quoted

/-!
# Single values

Reading a value of a kind that is known beforehand, here a number, and the failure of a value of
another kind.  The message about a wrong kind describes the value that was found, so that value is
read first, unless it is a list or an object; if it cannot be read, that is the failure.
-/

namespace InView.Json

open Reader

/-- The description of a list in a message. -/
def listDescription : String := "sequence"

/-- The description of an object in a message. -/
def objectDescription : String := "map"

/-- The description of a text in a message. -/
def textDescription (text : String) : String := "string " ++ Text.quoted text

/-- Reads the letters of a word. -/
def readWord : List Char → Reader Unit
  | [] => return
  | letter :: letters => do
    match ← peek with
    | none => failHere .unfinishedValue
    | some c =>
      if c = letter then
        advance
        readWord letters
      else failNext .expectedWord

theorem readWord_strict (letter : Char) (letters : List Char) :
    (readWord (letter :: letters)).Strict := by
  refine strict_peek (strict_fail _) fun c => ?_
  dsimp only
  split
  · exact reads_advance c _
  · exact reads_fail c _

/-- Reads a value of any kind, lists and objects apart, and describes it; of those, only the kind
is looked at. -/
def describeValue : Reader String := do
  match ← peek with
  | none => failHere .unfinishedValue
  | some 'n' =>
    readWord "null".toList
    return "null"
  | some 't' =>
    readWord "true".toList
    return "boolean `true`"
  | some 'f' =>
    readWord "false".toList
    return "boolean `false`"
  | some '"' =>
    advance
    return textDescription (← readLiteral)
  | some '[' => return listDescription
  | some '{' => return objectDescription
  | some c =>
    if beginsNumber c then return (← readNumber).description
    else failNext .expectedValue

/-- Refuses the value in front, which is not of the expected kind. -/
def refuse {α : Type} (expected : String) : Reader α := do
  let found ← describeValue
  failHere (.wrongKind found expected)

/-- Reads a binary64 number. -/
def readBinary64 : Reader Binary64 := do
  match ← peekToken with
  | none => failHere .unfinishedValue
  | some c => if beginsNumber c then return (← readNumber).toBinary64 else refuse "f64"

end InView.Json
