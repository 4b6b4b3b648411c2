import InView.Text.Combining
import InView.Text.Unprintable

/-!
# Quoted text for messages

How an id or a message is shown inside another message: in double quotes, on one line, with
nothing in it that a reader could not see.  Quotes, backslashes and the common controls have short
escapes; combining and invisible characters are shown by their code point.
-/

namespace InView.Text

/-- A code point by its number: the letter `u` and lower-case hexadecimal digits in braces. -/
def codePoint (c : Char) : List Char :=
  ['\\', 'u', '{'] ++ Nat.toDigits 16 c.toNat ++ ['}']

/-- A character as it is shown inside quotes. -/
def shown (c : Char) : List Char :=
  match c with
  | '"' => ['\\', '"']
  | '\\' => ['\\', '\\']
  | '\n' => ['\\', 'n']
  | '\r' => ['\\', 'r']
  | '\t' => ['\\', 't']
  | '\x00' => ['\\', '0']
  | c => if isCombining c || isUnprintable c then codePoint c else [c]

/-- A text in double quotes, every character in its shown form. -/
def quoted (text : String) : String :=
  String.ofList ('"' :: text.toList.flatMap shown ++ ['"'])

end InView.Text
