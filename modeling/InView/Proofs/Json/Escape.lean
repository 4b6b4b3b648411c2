import InView.Proofs.Json.Literal

/-!
# Spellings of a character

The grammar of literals starts from what is written: four digits have a value, and one value or two
stand for a character.  `CharSpelling` starts from the character instead.  It may be written as it
is, by a letter that a table gives for it, or by the digits of its number in either case; one whose
number has more than four digits is written by those of its two surrogates.

Both say the same (`charText_iff_spelling`), so a literal is read as a text exactly if it spells
that text character by character (`literalText_iff_spelling`).
-/

namespace InView.Json

/-! ## Digits -/

/-- The four digits of a code unit, in lower case. -/
def unitDigits (unit : Nat) : List Char :=
  [(unit / 0x1000 % 16).digitChar, (unit / 0x100 % 16).digitChar, (unit / 0x10 % 16).digitChar,
    (unit % 16).digitChar]

/-- The four digits of a code unit, each of them in either case. -/
def UnitSpelling (unit : Nat) (t : List Char) : Prop := t.map Char.toLower = unitDigits unit

lemma hexValue?_ofNat : ∀ n < 128, ∀ digit < 16,
    hexValue? (.ofNat n) = some digit ↔ (Char.ofNat n).toLower = digit.digitChar := by
  decide +kernel

lemma hexValue?_lt {c : Char} {digit : Nat} (h : hexValue? c = some digit) :
    digit < 16 ∧ c.toNat < 128 := by
  unfold hexValue? at h
  split_ifs at h with decimal lower upper
  all_goals
    simp only [Char.isDigit, Bool.and_eq_true, decide_eq_true_eq, Char.le_def,
      UInt32.le_iff_toNat_le, ge_iff_le, Option.some.injEq, UInt32.reduceToNat, Char.reduceVal,
      Char.reduceToNat] at *
    have value : c.toNat = c.val.toNat := rfl
    omega

lemma lt_of_toLower_lt {c : Char} (h : c.toLower.toNat < 128) : c.toNat < 128 := by
  by_cases upper : 'A' ≤ c ∧ c ≤ 'Z'
  · simp only [Char.le_def, UInt32.le_iff_toNat_le, UInt32.reduceToNat, Char.reduceVal] at upper
    have value : c.toNat = c.val.toNat := rfl
    omega
  · have same : c.toLower = c := dif_neg upper
    rwa [same] at h

lemma digitChar_lt : ∀ digit < 16, digit.digitChar.toNat < 128 := by decide

/-- A character is a digit if it is one in lower case. -/
lemma hexValue?_eq_some_iff {c : Char} {digit : Nat} :
    hexValue? c = some digit ↔ digit < 16 ∧ c.toLower = digit.digitChar := by
  constructor
  · intro value
    obtain ⟨lt, small⟩ := hexValue?_lt value
    have same := hexValue?_ofNat c.toNat small digit lt
    rw [Char.ofNat_toNat] at same
    exact ⟨lt, same.mp value⟩
  · rintro ⟨lt, lower⟩
    have small : c.toNat < 128 := lt_of_toLower_lt (lower ▸ digitChar_lt digit lt)
    have same := hexValue?_ofNat c.toNat small digit lt
    rw [Char.ofNat_toNat] at same
    exact same.mpr lower

/-- Four digits have a value exactly if they spell it. -/
lemma unitText_iff {unit : Nat} {t : List Char} :
    UnitText unit t ↔ unit < 0x10000 ∧ UnitSpelling unit t := by
  constructor
  · rintro ⟨digits, all, length, rfl⟩
    match t, digits, all, length with
    | [c₁, c₂, c₃, c₄], [d₁, d₂, d₃, d₄], .cons h₁ (.cons h₂ (.cons h₃ (.cons h₄ .nil))), _ =>
        obtain ⟨lt₁, lower₁⟩ := hexValue?_eq_some_iff.mp h₁
        obtain ⟨lt₂, lower₂⟩ := hexValue?_eq_some_iff.mp h₂
        obtain ⟨lt₃, lower₃⟩ := hexValue?_eq_some_iff.mp h₃
        obtain ⟨lt₄, lower₄⟩ := hexValue?_eq_some_iff.mp h₄
        simp only [List.foldl_cons, List.foldl_nil, UnitSpelling, unitDigits, List.map_cons,
          List.map_nil, lower₁, lower₂, lower₃, lower₄]
        refine ⟨by omega, ?_⟩
        congr <;> omega
  · rintro ⟨lt, spelled⟩
    have length : t.length = 4 := by rw [← List.length_map, spelled, unitDigits]; rfl
    match t, length with
    | [c₁, c₂, c₃, c₄], _ =>
        simp only [UnitSpelling, unitDigits, List.map_cons, List.map_nil, List.cons.injEq,
          and_true] at spelled
        obtain ⟨h₁, h₂, h₃, h₄⟩ := spelled
        refine ⟨[unit / 0x1000 % 16, unit / 0x100 % 16, unit / 0x10 % 16, unit % 16],
          .cons ?_ (.cons ?_ (.cons ?_ (.cons ?_ .nil))), rfl, ?_⟩
        · exact hexValue?_eq_some_iff.mpr ⟨by omega, h₁⟩
        · exact hexValue?_eq_some_iff.mpr ⟨by omega, h₂⟩
        · exact hexValue?_eq_some_iff.mpr ⟨by omega, h₃⟩
        · exact hexValue?_eq_some_iff.mpr ⟨by omega, h₄⟩
        · simp only [List.foldl_cons, List.foldl_nil]
          omega

/-! ## Characters -/

/-- The letters that stand for a character behind a backslash. -/
def shortEscapes : List (Char × Char) :=
  [('"', '"'), ('\\', '\\'), ('/', '/'), ('b', '\x08'), ('f', '\x0c'), ('n', '\n'), ('r', '\r'),
    ('t', '\t')]

/-- The first half of a character above `U+FFFF`. -/
def leadingUnit (c : Char) : Nat := 0xd800 + (c.toNat - 0x10000) / 0x400

/-- The second half of a character above `U+FFFF`. -/
def trailingUnit (c : Char) : Nat := 0xdc00 + (c.toNat - 0x10000) % 0x400

/-- How a character may be spelled in a literal. -/
inductive CharSpelling (c : Char) : List Char → Prop
  /-- As it is, unless it is a control character, a quote or a backslash. -/
  | plain (isPlain : IsPlain c) : CharSpelling c [c]
  /-- By a letter of the table. -/
  | short {letter : Char} (listed : (letter, c) ∈ shortEscapes) : CharSpelling c ['\\', letter]
  /-- By the digits of its number, if there are four of them. -/
  | unit {digits : List Char} (within : c.toNat < 0x10000)
      (spelled : UnitSpelling c.toNat digits) : CharSpelling c ('\\' :: 'u' :: digits)
  /-- By the digits of its halves, if there are more. -/
  | pair {digits digits' : List Char} (beyond : 0x10000 ≤ c.toNat)
      (first : UnitSpelling (leadingUnit c) digits)
      (second : UnitSpelling (trailingUnit c) digits') :
      CharSpelling c ('\\' :: 'u' :: (digits ++ '\\' :: 'u' :: digits'))

lemma shortEscape?_eq_some_iff {letter c : Char} :
    shortEscape? letter = some c ↔ (letter, c) ∈ shortEscapes := by
  simp only [shortEscapes, List.mem_cons, Prod.mk.injEq, List.not_mem_nil, or_false]
  unfold shortEscape?
  split <;> simp_all [eq_comm]

lemma toNat_ofNat {n : Nat} (valid : n.isValidChar) : (Char.ofNat n).toNat = n := by
  rw [Char.ofNat, dif_pos valid]
  rfl

lemma isLeading_iff {unit : Nat} : isLeading unit ↔ 0xd800 ≤ unit ∧ unit < 0xdc00 := by
  simp [isLeading]

lemma isTrailing_iff {unit : Nat} : isTrailing unit ↔ 0xdc00 ≤ unit ∧ unit < 0xe000 := by
  simp [isTrailing]

/-- The halves of a character make it up again. -/
lemma pairedChar_units {c : Char} (beyond : 0x10000 ≤ c.toNat) :
    pairedChar (leadingUnit c) (trailingUnit c) = c := by
  have number : 0x10000 + (leadingUnit c - 0xd800) * 0x400 + (trailingUnit c - 0xdc00) =
      c.toNat := by
    rw [leadingUnit, trailingUnit]
    omega
  rw [pairedChar, number, Char.ofNat_toNat]

/-- What two halves make up has them as its halves. -/
lemma units_pairedChar {leading trailing : Nat} (first : isLeading leading)
    (second : isTrailing trailing) :
    0x10000 ≤ (pairedChar leading trailing).toNat ∧
      leadingUnit (pairedChar leading trailing) = leading ∧
      trailingUnit (pairedChar leading trailing) = trailing := by
  rw [isLeading_iff] at first
  rw [isTrailing_iff] at second
  have number : (pairedChar leading trailing).toNat =
      0x10000 + (leading - 0xd800) * 0x400 + (trailing - 0xdc00) :=
    toNat_ofNat (.inr ⟨by omega, by omega⟩)
  rw [leadingUnit, trailingUnit, number]
  omega

/-- **A character has the spellings that are read as it.** -/
theorem charText_iff_spelling {c : Char} {t : List Char} : CharText c t ↔ CharSpelling c t := by
  constructor
  · rintro (⟨isPlain⟩ | ⟨escape⟩)
    · exact .plain isPlain
    · cases escape with
      | short meaning => exact .short (shortEscape?_eq_some_iff.mp meaning)
      | @unit unit digits value notLeading notTrailing =>
          obtain ⟨lt, spelled⟩ := unitText_iff.mp value
          rw [Bool.eq_false_iff, ne_eq, isLeading_iff] at notLeading
          rw [Bool.eq_false_iff, ne_eq, isTrailing_iff] at notTrailing
          have number : (Char.ofNat unit).toNat = unit := toNat_ofNat (by
            rw [Nat.isValidChar]
            omega)
          rw [← number] at lt spelled
          exact .unit lt spelled
      | pair value leading value' trailing =>
          obtain ⟨beyond, first, second⟩ := units_pairedChar leading trailing
          refine .pair beyond ?_ ?_
          · rw [first]
            exact (unitText_iff.mp value).2
          · rw [second]
            exact (unitText_iff.mp value').2
  · have valid : c.toNat.isValidChar := c.valid
    rw [Nat.isValidChar] at valid
    rintro (isPlain | listed | ⟨within, spelled⟩ | ⟨beyond, first, second⟩)
    · exact .plain isPlain
    · exact .escape (.short (shortEscape?_eq_some_iff.mpr listed))
    · have escape := EscapeText.unit (unitText_iff.mpr ⟨within, spelled⟩)
        (by rw [Bool.eq_false_iff, ne_eq, isLeading_iff]; omega)
        (by rw [Bool.eq_false_iff, ne_eq, isTrailing_iff]; omega)
      rw [Char.ofNat_toNat] at escape
      exact .escape escape
    · have lead : 0xd800 ≤ leadingUnit c ∧ leadingUnit c < 0xdc00 := by
        rw [leadingUnit]
        omega
      have trail : 0xdc00 ≤ trailingUnit c ∧ trailingUnit c < 0xe000 := by
        rw [trailingUnit]
        omega
      have escape := EscapeText.pair (unitText_iff.mpr ⟨by omega, first⟩) (isLeading_iff.mpr lead)
        (unitText_iff.mpr ⟨by omega, second⟩) (isTrailing_iff.mpr trail)
      rw [pairedChar_units beyond] at escape
      exact .escape escape

/-! ## Texts -/

/-- How a text may be spelled as a literal: each of its characters somehow, between quotes. -/
def LiteralSpelling (text : String) (t : List Char) : Prop :=
  ∃ spellings, List.Forall₂ CharSpelling text.toList spellings ∧
    t = '"' :: (spellings.flatten ++ ['"'])

/-- **A literal of a text is a spelling of the text.** -/
theorem literalText_iff_spelling {text : String} {t : List Char} :
    LiteralText text t ↔ LiteralSpelling text t := by
  have same : CharText = CharSpelling := by
    funext c t
    exact propext charText_iff_spelling
  simp only [LiteralText, QuotedText, LiteralSpelling, same]
  constructor
  · rintro ⟨_, ⟨spellings, all, rfl⟩, rfl⟩
    exact ⟨spellings, all, rfl⟩
  · rintro ⟨spellings, all, rfl⟩
    exact ⟨_, ⟨spellings, all, rfl⟩, rfl⟩

end InView.Json
