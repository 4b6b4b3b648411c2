import InView.Json.Writer
import Mathlib.Tactic.Lemma

/-!
# The pieces of a written document

What is written for a document consists of the numerals of its numbers, the literals of its keys
and texts, marks, and blanks.  `pieces` lists them in the order in which they are written, and they
make up what is written (`textOf_pieces`).  A statement about a place in a written text, such as the
first number of some kind, is then a statement about a place in a list.
-/

namespace InView.Json

/-- A piece of a written document. -/
inductive Piece where
  | number (x : Binary64)
  | text (s : String)
  | mark (c : Char)
  | blanks (b : List Char)

/-- The characters of a piece. -/
def Piece.chars : Piece → List Char
  | number x => numeralStyle.numeral x
  | text s => literal s
  | mark c => [c]
  | blanks b => b

/-- The characters of pieces, one behind the other. -/
def textOf (pieces : List Piece) : List Char := pieces.flatMap Piece.chars

@[simp] lemma textOf_nil : textOf [] = [] := rfl

@[simp] lemma textOf_cons (p : Piece) (ps : List Piece) : textOf (p :: ps) = p.chars ++ textOf ps :=
  rfl

@[simp] lemma textOf_append (ps qs : List Piece) : textOf (ps ++ qs) = textOf ps ++ textOf qs :=
  List.flatMap_append

/-- The numbers among pieces. -/
def numbersOf (pieces : List Piece) : List Binary64 :=
  pieces.filterMap fun
    | .number x => some x
    | _ => none

@[simp] lemma numbersOf_nil : numbersOf [] = [] := rfl

@[simp] lemma numbersOf_number (x : Binary64) (ps : List Piece) :
    numbersOf (.number x :: ps) = x :: numbersOf ps := rfl

@[simp] lemma numbersOf_text (s : String) (ps : List Piece) :
    numbersOf (.text s :: ps) = numbersOf ps := rfl

@[simp] lemma numbersOf_mark (c : Char) (ps : List Piece) :
    numbersOf (.mark c :: ps) = numbersOf ps := rfl

@[simp] lemma numbersOf_blanks (b : List Char) (ps : List Piece) :
    numbersOf (.blanks b :: ps) = numbersOf ps := rfl

@[simp] lemma numbersOf_append (ps qs : List Piece) :
    numbersOf (ps ++ qs) = numbersOf ps ++ numbersOf qs := List.filterMap_append

/-- The texts among pieces. -/
def textsOf (pieces : List Piece) : List String :=
  pieces.filterMap fun
    | .text s => some s
    | _ => none

@[simp] lemma textsOf_nil : textsOf [] = [] := rfl

@[simp] lemma textsOf_number (x : Binary64) (ps : List Piece) :
    textsOf (.number x :: ps) = textsOf ps := rfl

@[simp] lemma textsOf_text (s : String) (ps : List Piece) :
    textsOf (.text s :: ps) = s :: textsOf ps := rfl

@[simp] lemma textsOf_mark (c : Char) (ps : List Piece) :
    textsOf (.mark c :: ps) = textsOf ps := rfl

@[simp] lemma textsOf_blanks (b : List Char) (ps : List Piece) :
    textsOf (.blanks b :: ps) = textsOf ps := rfl

@[simp] lemma textsOf_append (ps qs : List Piece) :
    textsOf (ps ++ qs) = textsOf ps ++ textsOf qs := List.filterMap_append

/-- The comma in front of a member, unless it is the first. -/
def leadPieces (first : Bool) : List Piece := if first then [] else [.mark ',']

@[simp] lemma numbersOf_leadPieces (first : Bool) : numbersOf (leadPieces first) = [] := by
  cases first <;> rfl

@[simp] lemma textsOf_leadPieces (first : Bool) : textsOf (leadPieces first) = [] := by
  cases first <;> rfl

namespace Document

mutual

/-- The pieces of a document at a depth. -/
def pieces (spacing : Spacing) (depth : Nat) : Document → List Piece
  | number x => [.number x]
  | text s => [.text s]
  | object members =>
    .mark '{' :: membersPieces spacing (depth + 1) true members ++
      [.blanks (if members.isEmpty then [] else spacing.lineBreak depth), .mark '}']

/-- The pieces of a member, with the break in front of it. -/
def memberPieces (spacing : Spacing) (depth : Nat) : String × Document → List Piece
  | (key, value) =>
    .blanks (spacing.lineBreak depth) :: .text key :: .mark ':' :: .blanks spacing.gap ::
      pieces spacing depth value

/-- The pieces of members, of which the first is that of the object or another. -/
def membersPieces (spacing : Spacing) (depth : Nat) :
    Bool → List (String × Document) → List Piece
  | _, [] => []
  | first, member :: members =>
    leadPieces first ++ memberPieces spacing depth member ++
      membersPieces spacing depth false members

end

variable (spacing : Spacing)

mutual

/-- **The pieces of a document make up what is written.** -/
theorem textOf_pieces (depth : Nat) : (d : Document) →
    textOf (d.pieces spacing depth) = d.write spacing depth
  | number x => by simp [pieces, write, Piece.chars]
  | text s => by simp [pieces, write, Piece.chars]
  | object [] => by simp [pieces, membersPieces, write, Piece.chars]
  | object (member :: members) => by
      simp [pieces, membersPieces, leadPieces, write, Piece.chars,
        textOf_memberPieces (depth + 1) member, textOf_membersPieces (depth + 1) members]

lemma textOf_memberPieces (depth : Nat) : (member : String × Document) →
    textOf (memberPieces spacing depth member) = writeMember spacing depth member
  | (key, value) => by
      simp [memberPieces, writeMember, Piece.chars, textOf_pieces depth value]

lemma textOf_membersPieces (depth : Nat) : (members : List (String × Document)) →
    textOf (membersPieces spacing depth false members) = writeMembers spacing depth members
  | [] => by simp [membersPieces, writeMembers]
  | member :: members => by
      simp [membersPieces, leadPieces, writeMembers, Piece.chars,
        textOf_memberPieces depth member, textOf_membersPieces depth members]

end

end Document

end InView.Json
