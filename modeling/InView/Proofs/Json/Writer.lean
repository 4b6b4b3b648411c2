import InView.Json.Writer
import InView.Proofs.Json.Container

/-!
# Written documents belong to the grammar

A written text is a literal of that text, with every character escaped that must be
(`literalText_literal`).  A written object is an object with one member for each of its own, in
the same order, whose value is what is written for it (`objectText_write`).  The blanks between
them do not matter, as long as they are blanks (`Spacing.IsBlank`).
-/

namespace InView.Json

/-! ## Texts -/

lemma hexValue?_digitChar : ∀ n < 16, hexValue? n.digitChar = some n := by decide

/-- The four digits that a control character is written with are those of its code unit. -/
lemma unitText_of_lt {n : Nat} (h : n < 0x20) :
    UnitText n ['0', '0', (n / 16).digitChar, (n % 16).digitChar] := by
  refine ⟨[0, 0, n / 16, n % 16], ?_, rfl, ?_⟩
  · exact .cons rfl (.cons rfl (.cons (hexValue?_digitChar _ (by omega))
      (.cons (hexValue?_digitChar _ (by omega)) .nil)))
  · simp only [List.foldl_cons, List.foldl_nil]
    omega

/-- A character is written as one of its spellings. -/
lemma charText_escaped (c : Char) : CharText c (escaped c) := by
  unfold escaped
  split
  case h_8 noQuote noBackslash _ _ _ _ _ =>
    split
    case isTrue control =>
      have unit : EscapeText (Char.ofNat c.toNat)
          ['u', '0', '0', (c.toNat / 16).digitChar, (c.toNat % 16).digitChar] := by
        refine .unit (unitText_of_lt control) ?_ ?_
        · simp only [isLeading, Bool.and_eq_false_iff, decide_eq_false_iff_not]
          omega
        · simp only [isTrailing, Bool.and_eq_false_iff, decide_eq_false_iff_not]
          omega
      rw [Char.ofNat_toNat] at unit
      exact .escape unit
    case isFalse plain => exact .plain ⟨by omega, noQuote, noBackslash⟩
  all_goals exact .escape (.short rfl)

/-- **A text is written as one of its literals.** -/
theorem literalText_literal (text : String) : LiteralText text (literal text) := by
  refine ⟨text.toList.flatMap escaped ++ ['"'], ⟨text.toList.map escaped, ?_, ?_⟩, rfl⟩
  · rw [List.forall₂_map_right_iff, List.forall₂_same]
    exact fun c _ => charText_escaped c
  · rw [List.flatMap_def]

/-! ## Objects -/

/-- Nothing but blanks stands between the parts of what is written. -/
structure Spacing.IsBlank (spacing : Spacing) : Prop where
  lineBreak : ∀ depth, Blanks (spacing.lineBreak depth)
  gap : Blanks spacing.gap

lemma Spacing.isBlank_compact : Spacing.compact.IsBlank where
  lineBreak _ := blanks_nil
  gap := blanks_nil

lemma Spacing.isBlank_indented : Spacing.indented.IsBlank where
  lineBreak := by
    intro depth c mem
    rcases List.mem_cons.mp mem with rfl | mem
    · rfl
    · rw [List.eq_of_mem_replicate mem]
      rfl
  gap := by
    intro c mem
    rw [List.mem_singleton.mp mem]
    rfl

namespace Document

variable {spacing : Spacing}

/-- A member that holds what is written for its value at a depth. -/
def written (spacing : Spacing) (depth : Nat) (member : String × Document) : Member :=
  ⟨member.1, member.2.write spacing depth⟩

/-- What is written for a member, without the break in front of it. -/
def memberText (spacing : Spacing) (depth : Nat) (member : String × Document) : List Char :=
  literal member.1 ++ ':' :: (spacing.gap ++ member.2.write spacing depth)

lemma writeMember_eq (depth : Nat) (member : String × Document) :
    writeMember spacing depth member =
      spacing.lineBreak depth ++ memberText spacing depth member := by
  obtain ⟨key, value⟩ := member
  simp [writeMember, memberText]

lemma memberText_written (blank : spacing.IsBlank) (depth : Nat) (member : String × Document) :
    MemberText (written spacing depth member) (memberText spacing depth member) :=
  ⟨literal member.1, [], spacing.gap, literalText_literal _, blanks_nil, blank.gap, rfl⟩

/-- What is written for the members behind the first is the rest of an object. -/
lemma itemsText_writeMembers (blank : spacing.IsBlank) (depth : Nat) {b : List Char}
    (blanks : Blanks b) (members : List (String × Document)) :
    ItemsText '}' false (members.map (memberText spacing depth))
      (writeMembers spacing depth members ++ (b ++ ['}'])) := by
  induction members with
  | nil => simpa [writeMembers] using ItemsText.close blanks
  | cons member members ih =>
      have lead : LeadText false (',' :: spacing.lineBreak depth) :=
        leadText_false.mpr ⟨[], _, blanks_nil, blank.lineBreak depth, rfl⟩
      have next : ItemsText '}' false (memberText spacing depth member :: _) _ := .next lead ih
      simpa [writeMembers, writeMember_eq] using next

/-- What is written for an object has what is written for its members as its items. -/
lemma itemsText_write (blank : spacing.IsBlank) (depth : Nat)
    (members : List (String × Document)) :
    ∃ behind, (object members).write spacing depth = '{' :: behind ∧
      ItemsText '}' true (members.map (memberText spacing (depth + 1))) behind := by
  cases members with
  | nil => exact ⟨['}'], by simp [write], .close blanks_nil⟩
  | cons member members =>
      have lead := leadText_true.mpr (blank.lineBreak (depth + 1))
      refine ⟨_, ?_, .next lead
        (itemsText_writeMembers blank (depth + 1) (blank.lineBreak depth) members)⟩
      simp [write, writeMember_eq]

/-- **An object is written as an object with the same keys**, which hold what is written for their
values. -/
theorem objectText_write (blank : spacing.IsBlank) (depth : Nat)
    (members : List (String × Document)) :
    ObjectText (members.map (written spacing (depth + 1)))
      ((object members).write spacing depth) := by
  obtain ⟨behind, text, isItems⟩ := itemsText_write blank depth members
  refine ⟨_, behind, ?_, isItems, text⟩
  rw [List.forall₂_map_left_iff, List.forall₂_map_right_iff, List.forall₂_same]
  exact fun member _ => memberText_written blank _ member

end Document

end InView.Json
