import InView.Json.Failure
import Mathlib.Data.List.TakeWhile
import Mathlib.Tactic.Lemma
import Mathlib.Tactic.SplitIfs

/-!
# Texts and their bytes

UTF-8 keeps the order of characters: of two characters the smaller one has the smaller bytes, and
this is decided before either of them ends, so whatever follows cannot change it
(`bytes_lt_of_lt`).

No byte of a character is a line feed, unless the character is one.  A text without line feeds is
a single line, so a failure behind it has the number of its bytes as the column (`position_here`).
Behind several lines, the column counts the bytes of the last of them (`column_after`).
-/

namespace InView.Json

/-! ## Order -/

lemma byte_lt {m n : Nat} (hm : m < 256) (hn : n < 256) :
    UInt8.ofNat m < UInt8.ofNat n ↔ m < n := by
  rw [UInt8.lt_iff_toNat_lt, UInt8.toNat_ofNat', UInt8.toNat_ofNat', Nat.mod_eq_of_lt hm,
    Nat.mod_eq_of_lt hn]

lemma byte_eq {m n : Nat} (hm : m < 256) (hn : n < 256) :
    UInt8.ofNat m = UInt8.ofNat n ↔ m = n := by
  rw [← UInt8.toNat_inj, UInt8.toNat_ofNat', UInt8.toNat_ofNat', Nat.mod_eq_of_lt hm,
    Nat.mod_eq_of_lt hn]

/-- Code points are ordered by their digits at base 64, the highest of four first. -/
lemma digits_lt {m n : Nat} (h : m < n) (hn : n < 0x110000) :
    m / 262144 % 8 < n / 262144 % 8 ∨ m / 262144 % 8 = n / 262144 % 8 ∧
      (m / 4096 % 64 < n / 4096 % 64 ∨ m / 4096 % 64 = n / 4096 % 64 ∧
        (m / 64 % 64 < n / 64 % 64 ∨ m / 64 % 64 = n / 64 % 64 ∧ m % 64 < n % 64)) := by
  have hm : m / 262144 % 8 = m / 262144 := Nat.mod_eq_of_lt (by omega)
  have hn : n / 262144 % 8 = n / 262144 := Nat.mod_eq_of_lt (by omega)
  by_cases first : m / 262144 = n / 262144
  · by_cases second : m / 4096 = n / 4096
    · by_cases third : m / 64 = n / 64
      · omega
      · omega
    · omega
  · omega

/-- A smaller character has smaller bytes, whatever follows. -/
lemma utf8EncodeChar_append_lt {c d : Char} (h : c < d) (xs ys : List UInt8) :
    String.utf8EncodeChar c ++ xs < String.utf8EncodeChar d ++ ys := by
  have lt : c.val.toNat < d.val.toNat := h
  have bound : d.val.toNat < 0x110000 := by
    have := d.valid
    simp only [UInt32.isValidChar, Nat.isValidChar] at this
    omega
  have digits := digits_lt lt bound
  unfold String.utf8EncodeChar
  dsimp only
  generalize c.val.toNat = m at *
  generalize d.val.toNat = n at *
  split_ifs
  all_goals
    simp (disch := omega) only [List.cons_append, List.nil_append, List.cons_lt_cons_iff, byte_lt,
      byte_eq, Nat.add_lt_add_iff_right, Nat.add_right_cancel_iff]
    omega

lemma bytes_cons (c : Char) (cs : List Char) :
    bytes (c :: cs) = String.utf8EncodeChar c ++ bytes cs := rfl

/-- **Texts are ordered as their bytes are.** -/
theorem bytes_lt_of_lt {as bs : List Char} (h : as < bs) : bytes as < bytes bs := by
  induction h with
  | @nil c cs =>
      have nonempty : String.utf8EncodeChar c ≠ [] := String.utf8EncodeChar_ne_nil
      obtain ⟨b, rest, encoded⟩ := List.exists_cons_of_ne_nil nonempty
      rw [bytes_cons, encoded]
      exact List.nil_lt_cons b _
  | rel lt => exact utf8EncodeChar_append_lt lt _ _
  | cons _ ih => exact List.append_left_lt ih

/-! ## Sizes -/

lemma bytes_append (as bs : List Char) : bytes (as ++ bs) = bytes as ++ bytes bs :=
  List.flatMap_append

lemma byteSize_append (as bs : List Char) : byteSize (as ++ bs) = byteSize as + byteSize bs := by
  simp only [← length_bytes, bytes_append, List.length_append]

/-! ## Lines -/

/-- Only a line feed has the byte of one. -/
lemma lineFeed_mem_utf8EncodeChar {c : Char} (h : lineFeed ∈ String.utf8EncodeChar c) :
    c = '\n' := by
  have ten : lineFeed = UInt8.ofNat 10 := rfl
  rw [ten] at h
  have value : c.val.toNat = 10 := by
    unfold String.utf8EncodeChar at h
    dsimp only at h
    generalize c.val.toNat = n at *
    split_ifs at h
    all_goals
      simp (disch := omega) only [List.mem_cons, List.not_mem_nil, or_false, byte_eq] at h
      omega
  exact Char.ext (UInt32.toNat_inj.mp value)

lemma lineFeed_not_mem_bytes {cs : List Char} (h : '\n' ∉ cs) : lineFeed ∉ bytes cs := by
  intro mem
  obtain ⟨c, isChar, isByte⟩ := List.mem_flatMap.mp mem
  exact h (lineFeed_mem_utf8EncodeChar isByte ▸ isChar)

/-- Behind a single line, the column is the number of bytes. -/
lemma after_of_lineFeed_not_mem {passed : List UInt8} (h : lineFeed ∉ passed) :
    Position.after passed = ⟨1, passed.length⟩ := by
  have all : ∀ b ∈ passed.reverse, (decide (b ≠ lineFeed)) = true := by
    intro b mem
    simp only [decide_eq_true_eq]
    rintro rfl
    exact h (List.mem_reverse.mp mem)
  rw [Position.after, List.count_eq_zero.mpr h, List.takeWhile_eq_self_iff.mpr all,
    List.length_reverse]

/-! ## Positions -/

/-- There are so many bytes behind the last line feed, or behind the beginning if there is none. -/
def Column (passed : List UInt8) (column : Nat) : Prop :=
  ∃ lines line, passed = lines ++ line ∧ (lines = [] ∨ lines.getLast? = some lineFeed) ∧
    lineFeed ∉ line ∧ line.length = column

/-- The column of a position is the one behind the bytes that have been passed. -/
lemma column_after (passed : List UInt8) : Column passed (Position.after passed).column := by
  let beforeFeed := fun b : UInt8 => decide (b ≠ lineFeed)
  refine ⟨(passed.reverse.dropWhile beforeFeed).reverse,
    (passed.reverse.takeWhile beforeFeed).reverse, ?_, ?_, ?_, List.length_reverse⟩
  · rw [← List.reverse_append, List.takeWhile_append_dropWhile, List.reverse_reverse]
  · rw [List.getLast?_reverse, List.reverse_eq_nil_iff]
    have last := List.head?_dropWhile_not beforeFeed passed.reverse
    cases ahead : passed.reverse.dropWhile beforeFeed with
    | nil => exact .inl rfl
    | cons b behind =>
        rw [ahead] at last
        exact .inr (by simpa [beforeFeed] using last)
  · intro mem
    have taken := List.mem_takeWhile_imp (List.mem_reverse.mp mem)
    simp [beforeFeed] at taken

/-- A failure is placed behind what is not left. -/
lemma position_of_left {f : Failure} {passed left : List Char} (h : f.left = byteSize left) :
    f.position (passed ++ left) = .after (bytes passed) := by
  have size : byteSize (passed ++ left) - byteSize left = (bytes passed).length := by
    rw [byteSize_append, Nat.add_sub_cancel, length_bytes]
  rw [Failure.position, h, size, bytes_append, List.take_left]

/-- A failure one byte into a character is placed behind that byte, whatever follows. -/
lemma position_next (cause : Cause) (passed : List Char) (c : Char) (rest : List Char) :
    (Failure.next cause (c :: rest)).position (passed ++ c :: rest) =
      .after (bytes passed ++ (bytes [c]).take 1) := by
  have pos : 1 ≤ (String.utf8EncodeChar c).length :=
    List.length_pos_iff.mpr String.utf8EncodeChar_ne_nil
  have behind : (bytes (c :: rest)).take 1 = (bytes [c]).take 1 := by
    rw [bytes_cons, bytes_cons, List.take_append_of_le_length pos,
      List.take_append_of_le_length pos]
  have size : byteSize (passed ++ c :: rest) - (byteSize (c :: rest) - 1) =
      (bytes passed).length + 1 := by
    have : 1 ≤ byteSize (c :: rest) := by
      rw [← length_bytes, bytes_cons, List.length_append]
      omega
    rw [byteSize_append, length_bytes]
    omega
  rw [Failure.position, Failure.next]
  simp only [size, bytes_append, List.take_length_add_append, behind]

/-- **A failure behind a single line** is placed in the first line, with the bytes of the line as
the column. -/
theorem position_here {passed : List Char} (h : '\n' ∉ passed) (cause : Cause) (left : List Char) :
    (Failure.here cause left).position (passed ++ left) = ⟨1, byteSize passed⟩ := by
  rw [position_of_left rfl, after_of_lineFeed_not_mem (lineFeed_not_mem_bytes h), length_bytes]

end InView.Json
