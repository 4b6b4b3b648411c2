import InView.Json.Reader.Loop

/-!
# String literals

A string literal holds its characters between double quotes, each of them as it is, by a short
escape, or by four hexadecimal digits; a character above `U+FFFF` takes two such escapes, a
**leading** and a **trailing** surrogate.

* `escaped` and `literal` write: only what must be escaped is.
* `readLiteral` reads every spelling of a text.
* `skipLiteral` passes over a literal whose text does not matter, and is less strict: it accepts
  surrogates in any order.
-/

namespace InView.Json

open Reader

/-! ## Writing -/

/-- A character as it is written inside quotes. -/
def escaped (c : Char) : List Char :=
  match c with
  | '"' => ['\\', '"']
  | '\\' => ['\\', '\\']
  | '\n' => ['\\', 'n']
  | '\r' => ['\\', 'r']
  | '\t' => ['\\', 't']
  | '\x08' => ['\\', 'b']
  | '\x0c' => ['\\', 'f']
  | c =>
    if c.toNat < 0x20 then
      ['\\', 'u', '0', '0', (c.toNat / 16).digitChar, (c.toNat % 16).digitChar]
    else [c]

/-- A text between quotes. -/
def literal (text : String) : List Char := '"' :: text.toList.flatMap escaped ++ ['"']

/-! ## Escapes -/

/-- The character that a one-letter escape stands for. -/
def shortEscape? : Char → Option Char
  | '"' => some '"'
  | '\\' => some '\\'
  | '/' => some '/'
  | 'b' => some '\x08'
  | 'f' => some '\x0c'
  | 'n' => some '\n'
  | 'r' => some '\r'
  | 't' => some '\t'
  | _ => none

/-- The value of a hexadecimal digit of either case. -/
def hexValue? (c : Char) : Option Nat :=
  if c.isDigit then some (c.toNat - '0'.toNat)
  else if 'a' ≤ c ∧ c ≤ 'f' then some (c.toNat - 'a'.toNat + 10)
  else if 'A' ≤ c ∧ c ≤ 'F' then some (c.toNat - 'A'.toNat + 10)
  else none

/-- The failure where hexadecimal digits are owed and do not follow: as many bytes are looked at
together as there are digits owed. -/
def missingDigits (owed : Nat) (cs : List Char) : Failure :=
  if byteSize cs < owed then .atEnd .unfinishedText else ⟨.invalidEscape, byteSize cs - owed⟩

/-- Reads a number of hexadecimal digits, and appends them to a value. -/
def hexDigits : Nat → Nat → Reader Nat
  | 0, value => return value
  | owed + 1, value => do
    match (← peek).bind hexValue? with
    | some digit =>
      advance
      hexDigits owed (16 * value + digit)
    | none => fail (missingDigits (owed + 1))

/-- Reads the four digits of a code unit. -/
def codeUnit : Reader Nat := hexDigits 4 0

/-! ## Surrogates -/

/-- Whether a code unit is the first half of a pair. -/
def isLeading (unit : Nat) : Bool := 0xd800 ≤ unit && unit < 0xdc00

/-- Whether a code unit is the second half of a pair. -/
def isTrailing (unit : Nat) : Bool := 0xdc00 ≤ unit && unit < 0xe000

/-- The character of a leading and a trailing surrogate. -/
def pairedChar (leading trailing : Nat) : Char :=
  .ofNat (0x10000 + (leading - 0xd800) * 0x400 + (trailing - 0xdc00))

/-- Reads a character that must follow a leading surrogate. -/
def pairMark (mark : Char) : Reader Unit := do
  match ← peek with
  | none => failHere .unfinishedText
  | some c => if c = mark then advance else failNext .unfinishedPair

/-- Reads the rest of a pair behind its leading surrogate. -/
def trailingPart (leading : Nat) : Reader Char := do
  pairMark '\\'
  pairMark 'u'
  let trailing ← codeUnit
  if isTrailing trailing then return pairedChar leading trailing
  else failHere .unpairedSurrogate

/-! ## Reading -/

/-- Reads a character behind the `u` of its escape. -/
def numberedChar : Reader Char := do
  let unit ← codeUnit
  if isTrailing unit then failHere .unpairedSurrogate
  else if isLeading unit then trailingPart unit
  else return .ofNat unit

/-- Reads a character behind the backslash of its escape. -/
def escapedChar : Reader Char := do
  match ← peek with
  | none => failHere .unfinishedText
  | some 'u' =>
    advance
    numberedChar
  | some letter =>
    match shortEscape? letter with
    | some c =>
      advance
      return c
    | none => failNext .invalidEscape

/-- Reads the next character of a literal and puts it in front of those already read, or reads the
closing quote. -/
def literalStep (read : List Char) : Reader (Turn (List Char) String) := do
  match ← peek with
  | none => failHere .unfinishedText
  | some '"' =>
    advance
    return .done (String.ofList read.reverse)
  | some '\\' =>
    advance
    return .more ((← escapedChar) :: read)
  | some c =>
    advance
    if c.toNat < 0x20 then failHere .controlCharacter
    else return .more (c :: read)

theorem literalStep_strict (read : List Char) : (literalStep read).Strict := by
  refine strict_peek (strict_fail _) fun c => ?_
  split
  · exact reads_fail c _
  all_goals exact reads_advance c _

/-- Reads the text of a literal behind its opening quote. -/
def readLiteral : Reader String := loop literalStep literalStep_strict []

/-- Passes over an escape behind its backslash. -/
def skipEscape : Reader Unit := do
  match ← peek with
  | none => failHere .unfinishedText
  | some 'u' =>
    advance
    let _ ← codeUnit
  | some letter => if (shortEscape? letter).isSome then advance else failNext .invalidEscape

/-- Passes over the next character of a literal, or over the closing quote. -/
def skipCharacter (_ : Unit) : Reader (Turn Unit Unit) := do
  match ← peek with
  | none => failHere .unfinishedText
  | some '"' =>
    advance
    return .done ()
  | some '\\' =>
    advance
    skipEscape
    return .more ()
  | some c =>
    if c.toNat < 0x20 then failHere .controlCharacter
    else
      advance
      return .more ()

theorem skipCharacter_strict (u : Unit) : (skipCharacter u).Strict := by
  refine strict_peek (strict_fail _) fun c => ?_
  split
  · exact reads_fail c _
  · exact reads_advance c _
  · exact reads_advance c _
  · split
    · exact reads_fail c _
    · exact reads_advance c _

/-- Passes over a literal behind its opening quote. -/
def skipLiteral : Reader Unit := loop skipCharacter skipCharacter_strict ()

end InView.Json
