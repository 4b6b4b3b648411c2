import InView.Proofs.Json.Cut.Container
import InView.Proofs.Json.Pieces
import InView.Proofs.Json.Printable
import InView.Proofs.Json.Writer

/-!
# Literals and what is outside them

`lexemes` divides a text into its literals and the characters outside them.  It asks for nothing but
quotes and the backslashes of escapes, so every text has lexemes, and they make it up
(`chars_lexemes`).  A literal of the grammar, in whichever spelling, is a single lexeme
(`lexemes_skippedLiteral`).

`withoutBlanks` deletes the blanks outside literals.  Of a written document it leaves what is
written without blanks (`Document.withoutBlanks_write`), because the pieces that are not blanks are
the same in every way of writing.
-/

namespace InView.Json

/-! ## Lexemes -/

/-- A character outside literals, or a literal by what stands between its quotes.  At the end of a
text the closing quote may be missing. -/
inductive Lexeme where
  | char (c : Char)
  | literal (raw : List Char)
  | unclosed (raw : List Char)

namespace Lexeme

/-- The characters of a lexeme. -/
def chars : Lexeme → List Char
  | char c => [c]
  | literal raw => '"' :: (raw ++ ['"'])
  | unclosed raw => '"' :: raw

/-- Whether a lexeme is no blank. -/
def isSolid : Lexeme → Bool
  | char c => !isBlank c
  | _ => true

/-- What a literal has behind its opening quote, without the closing one. -/
def raw? : Lexeme → Option (List Char)
  | char _ => none
  | literal raw => some raw
  | unclosed raw => some raw

end Lexeme

/-- A place in a text: outside literals, within one behind some of its characters, or there and
behind a backslash that escapes what follows. -/
inductive Place where
  | outside
  | inside (raw : List Char)
  | escape (raw : List Char)

/-- The lexemes of a text that goes on at a place. -/
def lexemesFrom : Place → List Char → List Lexeme
  | .outside, [] => []
  | .inside raw, [] => [.unclosed raw]
  | .escape raw, [] => [.unclosed raw]
  | .outside, c :: cs =>
    if c = '"' then lexemesFrom (.inside []) cs else .char c :: lexemesFrom .outside cs
  | .inside raw, c :: cs =>
    if c = '"' then .literal raw :: lexemesFrom .outside cs
    else if c = '\\' then lexemesFrom (.escape (raw ++ [c])) cs
    else lexemesFrom (.inside (raw ++ [c])) cs
  | .escape raw, c :: cs => lexemesFrom (.inside (raw ++ [c])) cs

/-- The lexemes of a text. -/
def lexemes (cs : List Char) : List Lexeme := lexemesFrom .outside cs

/-- A text without the blanks that are outside literals. -/
def withoutBlanks (cs : List Char) : List Char :=
  ((lexemes cs).filter Lexeme.isSolid).flatMap Lexeme.chars

/-- What stands within the literals of a text, as it is written there. -/
def literalsIn (cs : List Char) : List (List Char) := (lexemes cs).filterMap Lexeme.raw?

/-- What was passed of the literal at a place. -/
def Place.chars : Place → List Char
  | outside => []
  | inside raw => '"' :: raw
  | escape raw => '"' :: raw

lemma chars_lexemesFrom (place : Place) (cs : List Char) :
    (lexemesFrom place cs).flatMap Lexeme.chars = place.chars ++ cs := by
  induction cs generalizing place with
  | nil => cases place <;> simp [lexemesFrom, Lexeme.chars, Place.chars]
  | cons c cs ih =>
      cases place with
      | outside =>
          rw [lexemesFrom]
          split
          case isTrue quote => simp [ih, Place.chars, quote]
          case isFalse => simp [ih, Lexeme.chars, Place.chars]
      | inside raw =>
          rw [lexemesFrom]
          split_ifs with quote
          · simp [ih, Lexeme.chars, Place.chars, quote]
          · simp [ih, Place.chars]
          · simp [ih, Place.chars]
      | escape raw => simp [lexemesFrom, ih, Place.chars]

/-- **The lexemes of a text make it up.** -/
theorem chars_lexemes (cs : List Char) : (lexemes cs).flatMap Lexeme.chars = cs :=
  chars_lexemesFrom .outside cs

/-! ## Outside literals -/

/-- Characters that are no quotes are lexemes by themselves. -/
lemma lexemes_append_of_not_mem {t : List Char} (noQuote : '"' ∉ t) (cs : List Char) :
    lexemes (t ++ cs) = t.map .char ++ lexemes cs := by
  induction t with
  | nil => rfl
  | cons c t ih =>
      obtain ⟨ne, rest⟩ := not_or.mp (mt List.mem_cons.mpr noQuote)
      rw [List.cons_append, lexemes, lexemesFrom, if_neg (Ne.symm ne)]
      exact congrArg _ (ih rest)

/-! ## Within literals -/

/-- Characters that neither end a literal nor begin an escape are passed. -/
lemma lexemesFrom_append {t : List Char} (plain : '"' ∉ t ∧ '\\' ∉ t) (raw cs : List Char) :
    lexemesFrom (.inside raw) (t ++ cs) = lexemesFrom (.inside (raw ++ t)) cs := by
  induction t generalizing raw with
  | nil => simp
  | cons c t ih =>
      obtain ⟨⟨noQuote, restQuote⟩, noBackslash, restBackslash⟩ :=
        plain.imp (not_or.mp <| mt List.mem_cons.mpr ·) (not_or.mp <| mt List.mem_cons.mpr ·)
      rw [List.cons_append, lexemesFrom, if_neg (Ne.symm noQuote), if_neg (Ne.symm noBackslash),
        ih ⟨restQuote, restBackslash⟩, ← List.append_cons]

/-- A backslash hides the character behind it. -/
lemma lexemesFrom_escape (letter : Char) (raw cs : List Char) :
    lexemesFrom (.inside raw) ('\\' :: letter :: cs) =
      lexemesFrom (.inside (raw ++ ['\\', letter])) cs := by
  simp [lexemesFrom]

/-- The digits of a code unit are neither quotes nor backslashes. -/
lemma UnitText.plain {unit : Nat} {digits : List Char} (h : UnitText unit digits) :
    '"' ∉ digits ∧ '\\' ∉ digits := by
  obtain ⟨values, areDigits, -, -⟩ := h
  have valued : ∀ c ∈ digits, (hexValue? c).isSome := by
    clear * - areDigits
    induction areDigits with
    | nil => simp
    | cons value _ ih => exact List.forall_mem_cons.mpr ⟨by simp [value], ih⟩
  exact ⟨fun mem => absurd (valued _ mem) (by decide),
    fun mem => absurd (valued _ mem) (by decide)⟩

/-- A character of a literal is passed. -/
lemma lexemesFrom_skippedChar {t : List Char} (h : SkippedChar t) (raw cs : List Char) :
    lexemesFrom (.inside raw) (t ++ cs) = lexemesFrom (.inside (raw ++ t)) cs := by
  cases h with
  | plain isPlain =>
      refine lexemesFrom_append ?_ raw cs
      simpa [eq_comm] using isPlain.2
  | short => exact lexemesFrom_escape _ raw cs
  | unit value =>
      rw [List.cons_append, List.cons_append, lexemesFrom_escape, lexemesFrom_append value.plain,
        List.append_assoc, List.cons_append, List.cons_append, List.nil_append]

/-- **A literal of the grammar is one lexeme.** -/
theorem lexemes_skippedLiteral {raw : List Char} (h : SkippedLiteral ('"' :: (raw ++ ['"'])))
    (cs : List Char) : lexemes ('"' :: (raw ++ ['"']) ++ cs) = .literal raw :: lexemes cs := by
  obtain ⟨chars, skipped, same⟩ := h
  obtain rfl : raw = chars.flatten := List.append_cancel_right (List.cons.inj same).2
  have passed (before rest : List Char) :
      lexemesFrom (.inside before) (chars.flatten ++ rest) =
        lexemesFrom (.inside (before ++ chars.flatten)) rest := by
    clear same
    induction chars generalizing before with
    | nil => simp
    | cons t chars ih =>
        obtain ⟨first, others⟩ := List.forall_mem_cons.mp skipped
        rw [List.flatten_cons, List.append_assoc, lexemesFrom_skippedChar first, ih others,
          List.append_assoc]
  rw [List.cons_append, List.append_assoc, lexemes, lexemesFrom, if_pos rfl, passed]
  rfl

/-- What a text is written as between the quotes. -/
def escapedText (text : String) : List Char := text.toList.flatMap escaped

lemma lexemes_literal (text : String) (cs : List Char) :
    lexemes (literal text ++ cs) = .literal (escapedText text) :: lexemes cs :=
  lexemes_skippedLiteral (literalText_literal text).skipped cs

lemma printable_escapedText (text : String) : Printable (escapedText text) := by
  have printable := printable_literal text
  rw [literal, printable_append, printable_cons] at printable
  exact printable.1.2

/-! ## Pieces -/

namespace Piece

/-- Whether a piece is not one of blanks. -/
def isSolid : Piece → Bool
  | blanks _ => false
  | _ => true

/-- Marks are visible, and blanks are blanks. -/
def IsTidy : Piece → Prop
  | mark c => IsVisible c
  | blanks b => Blanks b
  | _ => True

/-- The lexemes of a piece. -/
def lexemes : Piece → List Lexeme
  | number x => (numeralStyle.numeral x).map .char
  | text s => [.literal (escapedText s)]
  | mark c => [.char c]
  | blanks b => b.map .char

variable {p : Piece}

lemma lexemes_append (tidy : p.IsTidy) (cs : List Char) :
    Json.lexemes (p.chars ++ cs) = p.lexemes ++ Json.lexemes cs := by
  cases p with
  | text s => exact lexemes_literal s cs
  | number x =>
      exact lexemes_append_of_not_mem (fun mem => (isVisible_numeral x _ mem).2.2 rfl) cs
  | mark c => exact lexemes_append_of_not_mem (by simpa [chars, eq_comm] using tidy.2.2) cs
  | blanks b =>
      exact lexemes_append_of_not_mem (fun mem => absurd (tidy _ mem) (by decide)) cs

/-- Of its lexemes a piece keeps all, unless it is one of blanks. -/
lemma solid_lexemes (tidy : p.IsTidy) :
    (p.lexemes.filter Lexeme.isSolid).flatMap Lexeme.chars = if p.isSolid then p.chars else [] := by
  have plain (t : List Char) : (t.map Lexeme.char).flatMap Lexeme.chars = t := by
    rw [List.flatMap_map]
    exact List.flatMap_singleton' t
  cases p with
  | number x =>
      have solid : ∀ l ∈ (numeralStyle.numeral x).map Lexeme.char, l.isSolid := by
        simpa [Lexeme.isSolid] using fun c mem => (isVisible_numeral x c mem).isBlank
      rw [lexemes, List.filter_eq_self.mpr solid, plain]
      rfl
  | text s =>
      change '"' :: (escapedText s ++ ['"']) ++ [] = literal s
      rw [List.append_nil, literal, escapedText, List.cons_append]
  | mark c =>
      have solid : (Lexeme.char c).isSolid := by simpa [Lexeme.isSolid] using IsVisible.isBlank tidy
      rw [lexemes, List.filter_cons_of_pos solid]
      rfl
  | blanks b =>
      have none : ∀ l ∈ b.map Lexeme.char, ¬l.isSolid := by
        simpa [Lexeme.isSolid, IsTidy, Blanks] using tidy
      rw [lexemes, List.filter_eq_nil_iff.mpr none]
      rfl

lemma raw_lexemes (p : Piece) :
    p.lexemes.filterMap Lexeme.raw? = (textsOf [p]).map escapedText := by
  cases p <;> simp [lexemes, Lexeme.raw?, List.filterMap_map, Function.comp_def]

/-- Outside its literals a piece has blanks and visible characters. -/
lemma visible_lexemes (tidy : p.IsTidy) {c : Char} (mem : .char c ∈ p.lexemes) :
    isBlank c ∨ IsVisible c := by
  cases p with
  | text s => simp [lexemes] at mem
  | number x =>
      obtain ⟨_, mem, ⟨⟩⟩ := List.mem_map.mp mem
      exact .inr (isVisible_numeral x c mem)
  | mark c' =>
      obtain ⟨⟩ := List.mem_singleton.mp mem
      exact .inr tidy
  | blanks b =>
      obtain ⟨_, mem, ⟨⟩⟩ := List.mem_map.mp mem
      exact .inl (tidy c mem)

end Piece

/-- The pieces that are not ones of blanks. -/
def solidOf (pieces : List Piece) : List Piece := pieces.filter Piece.isSolid

@[simp] lemma solidOf_nil : solidOf [] = [] := rfl

@[simp] lemma solidOf_number (x : Binary64) (ps : List Piece) :
    solidOf (.number x :: ps) = .number x :: solidOf ps := rfl

@[simp] lemma solidOf_text (s : String) (ps : List Piece) :
    solidOf (.text s :: ps) = .text s :: solidOf ps := rfl

@[simp] lemma solidOf_mark (c : Char) (ps : List Piece) :
    solidOf (.mark c :: ps) = .mark c :: solidOf ps := rfl

@[simp] lemma solidOf_blanks (b : List Char) (ps : List Piece) :
    solidOf (.blanks b :: ps) = solidOf ps := rfl

@[simp] lemma solidOf_append (ps qs : List Piece) :
    solidOf (ps ++ qs) = solidOf ps ++ solidOf qs := List.filter_append ps qs

section

variable {ps : List Piece} (tidy : ∀ p ∈ ps, p.IsTidy)

include tidy

lemma lexemes_textOf : lexemes (textOf ps) = ps.flatMap Piece.lexemes := by
  induction ps with
  | nil => rfl
  | cons p ps ih =>
      obtain ⟨first, rest⟩ := List.forall_mem_cons.mp tidy
      rw [textOf_cons, Piece.lexemes_append first, ih rest, List.flatMap_cons]

/-- Of pieces all are left but the blanks. -/
lemma withoutBlanks_textOf : withoutBlanks (textOf ps) = textOf (solidOf ps) := by
  rw [withoutBlanks, lexemes_textOf tidy]
  induction ps with
  | nil => rfl
  | cons p ps ih =>
      obtain ⟨first, rest⟩ := List.forall_mem_cons.mp tidy
      rw [List.flatMap_cons, List.filter_append, List.flatMap_append, Piece.solid_lexemes first,
        ih rest]
      cases solid : p.isSolid <;> simp [solidOf, solid]

lemma literalsIn_textOf : literalsIn (textOf ps) = (textsOf ps).map escapedText := by
  rw [literalsIn, lexemes_textOf tidy]
  clear tidy
  induction ps with
  | nil => rfl
  | cons p ps ih =>
      have split : textsOf (p :: ps) = textsOf [p] ++ textsOf ps := textsOf_append [p] ps
      rw [List.flatMap_cons, List.filterMap_append, Piece.raw_lexemes, ih, split, List.map_append]

end

/-! ## Documents -/

namespace Document

variable {spacing : Spacing}

mutual

/-- The pieces of a document are tidy if its blanks are blanks. -/
lemma tidy_pieces (blank : spacing.IsBlank) (depth : Nat) : (d : Document) →
    ∀ p ∈ d.pieces spacing depth, p.IsTidy
  | number _ => List.forall_mem_singleton.mpr trivial
  | text _ => List.forall_mem_singleton.mpr trivial
  | object members => by
      have close : Blanks (if members.isEmpty then [] else spacing.lineBreak depth) := by
        split
        · exact blanks_nil
        · exact blank.lineBreak depth
      have brace : IsVisible '{' ∧ IsVisible '}' := by decide
      have all := tidy_membersPieces blank (depth + 1) true members
      rw [pieces]
      exact List.forall_mem_append.mpr ⟨List.forall_mem_cons.mpr ⟨brace.1, all⟩,
        List.forall_mem_cons.mpr ⟨close, List.forall_mem_singleton.mpr brace.2⟩⟩

lemma tidy_memberPieces (blank : spacing.IsBlank) (depth : Nat) :
    (member : String × Document) →
    ∀ p ∈ memberPieces spacing depth member, p.IsTidy
  | (key, value) => by
      have colon : IsVisible ':' := by decide
      have behind : ∀ p ∈ .blanks spacing.gap :: value.pieces spacing depth, p.IsTidy :=
        List.forall_mem_cons.mpr ⟨blank.gap, tidy_pieces blank depth value⟩
      rw [memberPieces]
      exact List.forall_mem_cons.mpr ⟨blank.lineBreak depth,
        List.forall_mem_cons.mpr ⟨trivial, List.forall_mem_cons.mpr ⟨colon, behind⟩⟩⟩

lemma tidy_membersPieces (blank : spacing.IsBlank) (depth : Nat) :
    (first : Bool) → (members : List (String × Document)) →
    ∀ p ∈ membersPieces spacing depth first members, p.IsTidy
  | _, [] => nofun
  | first, member :: members => by
      have lead : ∀ p ∈ leadPieces first, p.IsTidy := by
        cases first with
        | true => nofun
        | false =>
            have comma : IsVisible ',' := by decide
            exact List.forall_mem_singleton.mpr comma
      rw [membersPieces]
      exact List.forall_mem_append.mpr
        ⟨List.forall_mem_append.mpr ⟨lead, tidy_memberPieces blank depth member⟩,
          tidy_membersPieces blank depth false members⟩

end

variable (spacing)

mutual

/-- **The pieces of a document without the blanks make up what is written without blanks.** -/
theorem textOf_solid (depth depth' : Nat) : (d : Document) →
    textOf (solidOf (d.pieces spacing depth)) = d.write .compact depth'
  | number x => by simp [pieces, write, Piece.chars]
  | text s => by simp [pieces, write, Piece.chars]
  | object [] => by simp [pieces, membersPieces, write, Piece.chars]
  | object (member :: members) => by
      simp [pieces, membersPieces, leadPieces, write, Piece.chars,
        textOf_solid_member (depth + 1) (depth' + 1) member,
        textOf_solid_members (depth + 1) (depth' + 1) members]

lemma textOf_solid_member (depth depth' : Nat) : (member : String × Document) →
    textOf (solidOf (memberPieces spacing depth member)) =
      writeMember .compact depth' member
  | (key, value) => by
      simp [memberPieces, writeMember, Piece.chars, textOf_solid depth depth' value]

lemma textOf_solid_members (depth depth' : Nat) : (members : List (String × Document)) →
    textOf (solidOf (membersPieces spacing depth false members)) =
      writeMembers .compact depth' members
  | [] => by simp [membersPieces, writeMembers]
  | member :: members => by
      simp [membersPieces, leadPieces, writeMembers, Piece.chars,
        textOf_solid_member depth depth' member, textOf_solid_members depth depth' members]

end

variable {spacing} (blank : spacing.IsBlank) (depth : Nat) (d : Document)

include blank

/-- **Without its blanks a document is what is written without blanks.** -/
theorem withoutBlanks_write (depth' : Nat) :
    withoutBlanks (d.write spacing depth) = d.write .compact depth' := by
  rw [← textOf_pieces, withoutBlanks_textOf (tidy_pieces blank depth d), textOf_solid]

/-- The literals of a document are those of its texts. -/
theorem literalsIn_write :
    literalsIn (d.write spacing depth) = (textsOf (d.pieces spacing depth)).map escapedText := by
  rw [← textOf_pieces, literalsIn_textOf (tidy_pieces blank depth d)]

/-- Outside its literals a document has blanks and visible characters. -/
theorem visible_write {c : Char} (mem : .char c ∈ lexemes (d.write spacing depth)) :
    isBlank c ∨ IsVisible c := by
  have tidy := tidy_pieces blank depth d
  rw [← textOf_pieces, lexemes_textOf tidy] at mem
  obtain ⟨p, isPiece, mem⟩ := List.mem_flatMap.mp mem
  exact Piece.visible_lexemes (tidy p isPiece) mem

end Document

end InView.Json
