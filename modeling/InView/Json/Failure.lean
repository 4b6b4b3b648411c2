/-!
# Why and where reading fails

A text is read from the left, so a failure knows its cause and the part of the text that was not
read; the **position** of the failure follows from the two texts.  Positions are counted in UTF-8
bytes: a line number, one more than the line feeds passed, and a column, the bytes passed since
the last of them.

A failure carries the number of bytes that were left.  Most failures are placed either *here*, in
front of what was not read, or *next*, one byte further, so that the position includes the byte
that was looked at and refused.
-/

namespace InView.Json

/-- Why a text is refused. -/
inductive Cause where
  | unfinishedValue
  | unfinishedText
  | unfinishedList
  | unfinishedObject
  | expectedColon
  | expectedListEnd
  | expectedObjectEnd
  | expectedWord
  | expectedValue
  | expectedKey
  | invalidNumber
  | numberOutOfRange
  | invalidEscape
  | unfinishedPair
  | unpairedSurrogate
  | controlCharacter
  | trailingComma
  | trailingCharacters
  | duplicateField (name : String)
  | missingField (name : String)
  | wrongLength (length : Nat) (expected : String)
  | wrongKind (found expected : String)
  | unknownVariant (name expected : String)
  deriving DecidableEq

namespace Cause

/-- The wording of a cause. -/
def message : Cause → String
  | unfinishedValue => "EOF while parsing a value"
  | unfinishedText => "EOF while parsing a string"
  | unfinishedList => "EOF while parsing a list"
  | unfinishedObject => "EOF while parsing an object"
  | expectedColon => "expected `:`"
  | expectedListEnd => "expected `,` or `]`"
  | expectedObjectEnd => "expected `,` or `\x7d`"
  | expectedWord => "expected ident"
  | expectedValue => "expected value"
  | expectedKey => "key must be a string"
  | invalidNumber => "invalid number"
  | numberOutOfRange => "number out of range"
  | invalidEscape => "invalid escape"
  | unfinishedPair => "unexpected end of hex escape"
  | unpairedSurrogate => "lone leading surrogate in hex escape"
  | controlCharacter => "control character (\\u0000-\\u001F) found while parsing a string"
  | trailingComma => "trailing comma"
  | trailingCharacters => "trailing characters"
  | duplicateField name => "duplicate field `" ++ name ++ "`"
  | missingField name => "missing field `" ++ name ++ "`"
  | wrongLength length expected => "invalid length " ++ length.repr ++ ", expected " ++ expected
  | wrongKind found expected => "invalid type: " ++ found ++ ", expected " ++ expected
  | unknownVariant name expected =>
    "unknown variant `" ++ name ++ "`, expected one of " ++ expected

end Cause

/-! ## Bytes and positions -/

/-- The UTF-8 bytes of a text. -/
def bytes (cs : List Char) : List UInt8 := cs.flatMap String.utf8EncodeChar

/-- The number of UTF-8 bytes of a text. -/
def byteSize (cs : List Char) : Nat := cs.foldr (fun c size => c.utf8Size + size) 0

theorem length_bytes (cs : List Char) : (bytes cs).length = byteSize cs := by
  induction cs with
  | nil => rfl
  | cons c rest ih =>
    simp only [bytes, byteSize, List.flatMap_cons, List.length_append, List.foldr_cons,
      String.length_utf8EncodeChar] at *
    rw [ih]

/-- A place in a text. -/
structure Position where
  line : Nat
  column : Nat
  deriving DecidableEq

/-- The byte of a line feed. -/
def lineFeed : UInt8 := 10

/-- The position behind some bytes. -/
def Position.after (passed : List UInt8) : Position where
  line := 1 + passed.count lineFeed
  column := (passed.reverse.takeWhile (· ≠ lineFeed)).length

/-! ## Failures -/

/-- A cause, and the number of bytes of the text behind its position. -/
structure Failure where
  cause : Cause
  left : Nat
  deriving DecidableEq

namespace Failure

/-- A failure in front of what was not read. -/
def here (cause : Cause) (rest : List Char) : Failure := ⟨cause, byteSize rest⟩

/-- A failure one byte into what was not read; at the end of the text, at the end. -/
def next (cause : Cause) (rest : List Char) : Failure := ⟨cause, byteSize rest - 1⟩

/-- A failure at the end of the text. -/
def atEnd (cause : Cause) : Failure := ⟨cause, 0⟩

/-- The position of a failure in the text whose reading failed. -/
def position (f : Failure) (text : List Char) : Position :=
  .after ((bytes text).take (byteSize text - f.left))

/-- The message of a failure to read a text: the cause and the position. -/
def message (f : Failure) (text : List Char) : String :=
  let position := f.position text
  f.cause.message ++ " at line " ++ position.line.repr ++ " column " ++ position.column.repr

end Failure

end InView.Json
