import InView.Json.Literal
import InView.Json.Number

/-!
# Writing documents

The documents that layouts are written as consist of numbers, texts and objects.  The same
document is written in two ways, which differ in blanks only: **compact**, with none, and
**indented**, with each member on a line of its own.
-/

namespace InView.Json

/-- A document to be written. -/
inductive Document where
  | number (x : Binary64)
  | text (s : String)
  | object (members : List (String × Document))

/-- The blanks of a way of writing. -/
structure Spacing where
  /-- What stands between the brace or comma and a member, by the depth of the member. -/
  lineBreak : Nat → List Char
  /-- What stands behind the colon of a member. -/
  gap : List Char

namespace Spacing

/-- No blanks at all. -/
def compact : Spacing := ⟨fun _ => [], []⟩

/-- Two spaces for each level. -/
def indented : Spacing := ⟨fun depth => '\n' :: List.replicate (2 * depth) ' ', [' ']⟩

end Spacing

namespace Document

mutual

/-- The characters of a document at a depth. -/
def write (spacing : Spacing) (depth : Nat) : Document → List Char
  | number x => numeralStyle.numeral x
  | text s => literal s
  | object [] => ['{', '}']
  | object (member :: members) =>
    '{' :: writeMember spacing (depth + 1) member ++ writeMembers spacing (depth + 1) members ++
      spacing.lineBreak depth ++ ['}']

/-- The characters of a member, with the break in front of it. -/
def writeMember (spacing : Spacing) (depth : Nat) : String × Document → List Char
  | (key, value) =>
    spacing.lineBreak depth ++ literal key ++ ':' :: spacing.gap ++ write spacing depth value

/-- The characters of further members, with the comma in front of each. -/
def writeMembers (spacing : Spacing) (depth : Nat) : List (String × Document) → List Char
  | [] => []
  | member :: members =>
    ',' :: writeMember spacing depth member ++ writeMembers spacing depth members

end

/-- The text of a document. -/
def render (spacing : Spacing) (d : Document) : String := String.ofList (d.write spacing 0)

end Document

end InView.Json
