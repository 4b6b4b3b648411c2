import InView.Proofs.Json.Reread
import InView.Json.Writer

/-!
# Written texts have no control characters

Control characters are escaped in literals, and numerals consist of visible characters.  Without
blanks a written document therefore has no control character at all (`printable_write`), and in
particular it is a single line (`Printable.lineFeed_not_mem`).
-/

namespace InView.Json

/-- No character is a control character. -/
def Printable (cs : List Char) : Prop := ∀ c ∈ cs, 0x20 ≤ c.toNat

@[simp] lemma printable_nil : Printable [] := by simp [Printable]

@[simp] lemma printable_cons (c : Char) (cs : List Char) :
    Printable (c :: cs) ↔ 0x20 ≤ c.toNat ∧ Printable cs := List.forall_mem_cons

@[simp] lemma printable_append (as bs : List Char) :
    Printable (as ++ bs) ↔ Printable as ∧ Printable bs := List.forall_mem_append

lemma Printable.lineFeed_not_mem {cs : List Char} (h : Printable cs) : '\n' ∉ cs :=
  fun mem => absurd (h _ mem) (by decide)

/-! ## Literals -/

lemma printable_digitChar : ∀ n < 16, 0x20 ≤ n.digitChar.toNat := by decide

/-- A character is written without control characters. -/
lemma printable_escaped (c : Char) : Printable (escaped c) := by
  unfold escaped
  split
  case h_8 =>
    split
    case isTrue control =>
      have high := printable_digitChar (c.toNat / 16) (by omega)
      have low := printable_digitChar (c.toNat % 16) (by omega)
      simp [high, low]
    case isFalse plain => simpa using plain
  all_goals simp

/-- **A literal has no control characters.** -/
theorem printable_literal (text : String) : Printable (literal text) := by
  have quoted : Printable (text.toList.flatMap escaped) := by
    intro c mem
    obtain ⟨d, -, mem⟩ := List.mem_flatMap.mp mem
    exact printable_escaped d c mem
  simp [literal, quoted]

/-! ## Numerals -/

/-- A character of ASCII that leaves a mark and is no quote. -/
def IsVisible (c : Char) : Prop := 0x20 < c.toNat ∧ c.toNat < 0x7f ∧ c ≠ '"'

instance : DecidablePred IsVisible :=
  fun c => inferInstanceAs (Decidable (0x20 < c.toNat ∧ c.toNat < 0x7f ∧ c ≠ '"'))

lemma IsVisible.isBlank {c : Char} (h : IsVisible c) : isBlank c = false := by
  simp only [Json.isBlank, Bool.or_eq_false_iff, decide_eq_false_iff_not]
  refine ⟨⟨⟨?_, ?_⟩, ?_⟩, ?_⟩ <;>
  · rintro rfl
    exact absurd h.1 (by decide)

lemma isVisible_isNumeralChar {c : Char} (h : isNumeralChar c) : IsVisible c := by
  simp only [isNumeralChar, isExponentMark, Bool.or_eq_true, decide_eq_true_eq] at h
  rcases h with (((digit | rfl | rfl) | rfl) | rfl) | rfl
  case inl.inl.inl.inl =>
    simp only [Char.isDigit, Bool.and_eq_true, decide_eq_true_eq] at digit
    have least : 48 ≤ c.toNat := UInt32.le_iff_toNat_le.mp digit.1
    have greatest : c.toNat ≤ 57 := UInt32.le_iff_toNat_le.mp digit.2
    refine ⟨by omega, by omega, ?_⟩
    rintro rfl
    exact absurd least (by decide)
  all_goals decide

/-- What is not finite is written as `null`. -/
lemma numeral_of_not_finite {x : Binary64} (h : x.isFinite = false) :
    numeralStyle.numeral x = "null".toList := by
  match x with
  | .nan => rfl
  | .infinite true => rfl
  | .infinite false => rfl

/-- Numerals are visible, and so is the word that stands for what has none. -/
lemma isVisible_numeral (x : Binary64) : ∀ c ∈ numeralStyle.numeral x, IsVisible c := by
  cases finite : x.isFinite with
  | true =>
      obtain ⟨n, written, -⟩ := Binary64.numberText_numeral finite
      rw [written]
      exact fun c mem => isVisible_isNumeralChar (n.isNumeralChar_of_mem c mem)
  | false =>
      rw [numeral_of_not_finite finite]
      change ∀ c ∈ ['n', 'u', 'l', 'l'], IsVisible c
      simp [IsVisible]

/-- A numeral has no control characters. -/
lemma printable_numeral (x : Binary64) : Printable (numeralStyle.numeral x) :=
  fun c mem => (isVisible_numeral x c mem).1.le

/-! ## Documents -/

@[simp] lemma Spacing.compact_lineBreak (depth : Nat) : Spacing.compact.lineBreak depth = [] := rfl

@[simp] lemma Spacing.compact_gap : Spacing.compact.gap = [] := rfl

namespace Document

mutual

/-- **Without blanks a document is written without control characters.** -/
theorem printable_write (depth : Nat) : (d : Document) → Printable (d.write .compact depth)
  | number x => by
      rw [write]
      exact printable_numeral x
  | text s => by
      rw [write]
      exact printable_literal s
  | object [] => by simp [write]
  | object (member :: members) => by
      simp [write, printable_writeMember (depth + 1) member,
        printable_writeMembers (depth + 1) members]

lemma printable_writeMember (depth : Nat) : (member : String × Document) →
    Printable (writeMember .compact depth member)
  | (key, value) => by
      simp [writeMember, printable_literal, printable_write depth value]

lemma printable_writeMembers (depth : Nat) : (members : List (String × Document)) →
    Printable (writeMembers .compact depth members)
  | [] => by simp [writeMembers]
  | member :: members => by
      simp [writeMembers, printable_writeMember depth member, printable_writeMembers depth members]

end

end Document

end InView.Json
