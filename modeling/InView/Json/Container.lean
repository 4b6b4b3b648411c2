import InView.Json.Literal

/-!
# Lists and objects

Reading the items of a list and the members of an object whose kind is known beforehand.  The
reader of the contents decides what an item or a member means; this module knows the punctuation.

A container can be well formed and still be refused as a whole, for a member that is missing or
repeated or for a wrong number of items.  Such a refusal is placed behind the closing bracket if
that is what comes next, and in front of what comes instead otherwise.
-/

namespace InView.Json

open Reader

/-! ## Lists -/

/-- Tells that an item follows a comma. -/
def itemBehindComma : Reader Bool := do
  match ← peekToken with
  | none => failHere .unfinishedValue
  | some ']' => failNext .trailingComma
  | some _ => return true

/-- Goes to the next item of a list behind its opening bracket or an item, and tells whether there
is one; the closing bracket is left in place. -/
def nextItem (first : Bool) : Reader Bool := do
  match ← peekToken with
  | none => failHere .unfinishedList
  | some ']' => return false
  | some c =>
    if first then return true
    else if c = ',' then
      advance
      itemBehindComma
    else failNext .expectedListEnd

/-- Reads the item of a list behind `before` others, where the list must have one. -/
def readItem {α : Type} (before : Nat) (expected : String) (item : Reader α) : Reader α := do
  if ← nextItem (before = 0) then item
  else
    advance
    failHere (.wrongLength before expected)

/-- Refuses what follows a comma behind the last item of a list. -/
def refuseSurplus : Reader Unit := do
  match ← peekToken with
  | some ']' => failNext .trailingComma
  | _ => failNext .trailingCharacters

/-- Closes a list that has all its items. -/
def closeList : Reader Unit := do
  match ← peekToken with
  | none => failHere .unfinishedList
  | some ']' => advance
  | some ',' =>
    advance
    refuseSurplus
  | some _ => failNext .trailingCharacters

/-! ## Objects -/

/-- Reads the key of a member. -/
def readKey : Reader String := do
  match ← peek with
  | some '"' =>
    advance
    readLiteral
  | _ => failNext .expectedKey

/-- Reads the key of a member behind a comma. -/
def keyBehindComma : Reader String := do
  match ← peekToken with
  | none => failHere .unfinishedValue
  | some '}' => failNext .trailingComma
  | some _ => readKey

/-- Goes to the next member of an object behind its opening brace or a member, and reads its key;
at the closing brace, which is read, there is none. -/
def nextKey (first : Bool) : Reader (Option String) := do
  match ← peekToken with
  | none => failHere .unfinishedObject
  | some '}' =>
    advance
    return none
  | some c =>
    if first then return some (← readKey)
    else if c = ',' then
      advance
      return some (← keyBehindComma)
    else failNext .expectedObjectEnd

theorem readKey_strict : readKey.Strict := by
  refine strict_peek (strict_fail _) fun c => ?_
  split
  · exact reads_advance c _
  · exact reads_fail c _

theorem nextKey_strict (first : Bool) : (nextKey first).Strict := by
  refine strict_peekToken (strict_fail _) fun c => ?_
  split
  · exact reads_fail c _
  · exact reads_advance c _
  · split
    · exact (readKey_strict.bind_left _).reads c
    · split
      · exact reads_advance c _
      · exact reads_fail c _

/-- Reads the colon between a key and its value. -/
def colon : Reader Unit := do
  match ← peekToken with
  | none => failHere .unfinishedObject
  | some c => if c = ':' then advance else failNext .expectedColon

/-- Refuses an object as a whole. -/
def refuseObject {α : Type} (cause : Cause) : Reader α := do
  blanks
  let _ ← takeIf (· = '}')
  failHere cause

/-- How far the members of an object have been read: whether the next one is the first, and what
has been made of those before it. -/
structure MemberState (σ : Type) where
  first : Bool
  made : σ

/-- Reads a member, or the closing brace.  `member` reads what follows a key, colon included. -/
def memberStep {σ : Type} (member : σ → String → Reader σ) (s : MemberState σ) :
    Reader (Turn (MemberState σ) σ) := do
  match ← nextKey s.first with
  | none => return .done s.made
  | some key => return .more ⟨false, ← member s.made key⟩

theorem memberStep_strict {σ : Type} (member : σ → String → Reader σ) (s : MemberState σ) :
    (memberStep member s).Strict :=
  (nextKey_strict s.first).bind_left _

/-- Reads the members of an object behind its opening brace, up to and with the closing one. -/
def readMembers {σ : Type} (member : σ → String → Reader σ) (start : σ) : Reader σ :=
  loop (memberStep member) (memberStep_strict member) ⟨true, start⟩

/-- Reads the value of a field that must not have been read before. -/
def readField {α : Type} (name : String) (held : Option α) (value : Reader α) :
    Reader (Option α) := do
  if held.isSome then refuseObject (.duplicateField name)
  else
    colon
    return some (← value)

/-- The value of a field that must have been read at the end of an object. -/
def requireField {α : Type} (name : String) : Option α → Reader α
  | some a => return a
  | none => failHere (.missingField name)

end InView.Json
