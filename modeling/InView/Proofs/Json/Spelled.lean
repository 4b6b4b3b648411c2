import InView.Proofs.Json.Ignored
import InView.Proofs.Json.Reread
import InView.Proofs.Json.Writer

/-!
# Texts that spell a document

A text spells a document if it has the same structure, its literals spell the texts and keys, and
its numerals denote the numbers, each by one rounding of what it spells (`Document.SpelledBy`).
That is said without a reader, and a reader that rounds differently may well take the text for
another document.

A document whose numbers are finite is written as a text that spells it (`spelledBy_write`), and no
text spells two documents (`spelledBy_unique`).  The document is therefore determined by the text.
-/

namespace InView.Json.Document

open Reader

mutual

/-- The texts that spell a document. -/
def SpelledBy : Document → List Char → Prop
  | number x, t => ∃ n : NumeralForm, t = n.text ∧ n.Denotes x
  | text s, t => LiteralText s t
  | object members, t => ∃ texts, ObjectText texts t ∧ MembersSpelledBy members texts

/-- The members of an object whose keys are those given, and whose values are spelled. -/
def MembersSpelledBy : List (String × Document) → List Member → Prop
  | [], texts => texts = []
  | (key, value) :: members, texts =>
    ∃ t rest, texts = ⟨key, t⟩ :: rest ∧ value.SpelledBy t ∧ MembersSpelledBy members rest

end

mutual

/-- Every number in a document is finite. -/
def IsFinite : Document → Prop
  | number x => x.isFinite
  | text _ => True
  | object members => MembersFinite members

/-- Every number in some members is finite. -/
def MembersFinite : List (String × Document) → Prop
  | [] => True
  | (_, value) :: members => value.IsFinite ∧ MembersFinite members

end

lemma membersFinite_iff {members : List (String × Document)} :
    MembersFinite members ↔ ∀ member ∈ members, member.2.IsFinite := by
  induction members with
  | nil => simp [MembersFinite]
  | cons member members ih =>
      obtain ⟨key, value⟩ := member
      rw [MembersFinite, ih, List.forall_mem_cons]

/-! ## What is written -/

mutual

/-- **A document of finite numbers is spelled by what is written for it**, whatever the blanks
are. -/
theorem spelledBy_write {spacing : Spacing} (blank : spacing.IsBlank) (depth : Nat) :
    (d : Document) → d.IsFinite → d.SpelledBy (d.write spacing depth)
  | number x, finite => by
      rw [write]
      exact Binary64.denotes_numeral finite
  | text s, _ => by
      rw [write]
      exact literalText_literal s
  | object members, finite =>
      ⟨_, objectText_write blank depth members,
        membersSpelledBy_written blank (depth + 1) members finite⟩

lemma membersSpelledBy_written {spacing : Spacing} (blank : spacing.IsBlank) (depth : Nat) :
    (members : List (String × Document)) → MembersFinite members →
      MembersSpelledBy members (members.map (written spacing depth))
  | [], _ => rfl
  | (_, value) :: members, finite =>
      ⟨_, _, rfl, spelledBy_write blank depth value finite.1,
        membersSpelledBy_written blank depth members finite.2⟩

end

/-! ## What can be spelled -/

/-- The characters that a document can begin with. -/
def Begins : Document → Char → Prop
  | number _, c => beginsNumber c
  | text _, c => c = '"'
  | object _, c => c = '{'

lemma SpelledBy.head {d : Document} {t : List Char} (h : d.SpelledBy t) :
    ∃ c cs, t = c :: cs ∧ d.Begins c := by
  cases d with
  | number x =>
      obtain ⟨n, rfl, -⟩ := h
      exact n.begins
  | text s =>
      obtain ⟨quoted, -, rfl⟩ := h
      exact ⟨'"', quoted, rfl, rfl⟩
  | object members =>
      obtain ⟨texts, ⟨items, behind, -, -, rfl⟩, -⟩ := h
      exact ⟨'{', behind, rfl, rfl⟩

/-- Documents that are spelled at the beginning of the same text begin alike. -/
lemma SpelledBy.common_head {d d' : Document} {t t' rest rest' : List Char} (h : d.SpelledBy t)
    (h' : d'.SpelledBy t') (same : t ++ rest = t' ++ rest') : ∃ c, d.Begins c ∧ d'.Begins c := by
  obtain ⟨c, cs, rfl, begins⟩ := h.head
  obtain ⟨c', cs', rfl, begins'⟩ := h'.head
  obtain rfl : c = c' := (List.cons.inj same).1
  exact ⟨c, begins, begins'⟩

lemma SpelledBy.begins {d : Document} {t : List Char} (h : d.SpelledBy t) : BeginsValue t := by
  obtain ⟨c, cs, rfl, first⟩ := h.head
  cases d with
  | number x =>
      exact beginsValue_cons (not_isBlank_of_beginsNumber first)
        (beginsNumber_ne first (by decide)) cs
  | text s =>
      obtain rfl : c = '"' := first
      exact beginsValue_cons (by decide) (by decide) cs
  | object members =>
      obtain rfl : c = '{' := first
      exact beginsValue_cons (by decide) (by decide) cs

/-- What follows the brace of an object, or one of its members, up to the end of the object, where
the members that are still to come are spelled. -/
def RestSpelledBy (first : Bool) (members : List (String × Document)) (t : List Char) : Prop :=
  ∃ texts items, MembersSpelledBy members texts ∧ List.Forall₂ MemberText texts items ∧
    ItemsText '}' first items t

variable {first : Bool} {members : List (String × Document)} {t : List Char}

lemma RestSpelledBy.keyText_none (h : RestSpelledBy first [] t) : KeyText first none t := by
  obtain ⟨texts, items, rfl, all, isItems⟩ := h
  cases all
  cases isItems with
  | close blanks => exact ⟨_, blanks, rfl⟩

/-- A member that is still to come has its key, and behind it the colon and the value. -/
lemma RestSpelledBy.split {key : String} {value : Document}
    (h : RestSpelledBy first ((key, value) :: members) t) :
    ∃ front b b' v behind, KeyText first (some key) front ∧ Blanks b ∧ Blanks b' ∧
      value.SpelledBy v ∧ RestSpelledBy false members behind ∧
      t = front ++ (b ++ ':' :: (b' ++ (v ++ behind))) := by
  obtain ⟨_, items, ⟨v, texts, rfl, spelled, behindSpelled⟩, all, isItems⟩ := h
  cases all with
  | cons isMember all =>
      obtain ⟨literal, b, b', isLiteral, blanks, blanks', rfl⟩ := isMember
      cases isItems with
      | @next _ lead _ behind _ isLead isItems =>
          exact ⟨lead ++ literal, b, b', v, behind, ⟨lead, literal, isLead, isLiteral, rfl⟩, blanks,
            blanks', spelled, ⟨texts, _, behindSpelled, all, isItems⟩, by simp⟩

lemma RestSpelledBy.numeralEnds (h : RestSpelledBy false members t) (rest : List Char) :
    NumeralEnds (t ++ rest) := by
  obtain ⟨_, _, -, -, isItems⟩ := h
  exact isItems.numeralEnds (.inr rfl) rest

mutual

/-- Of a text that begins with what spells a document, it is determined which document that is, and
where it ends. -/
theorem spelledBy_unique : (d d' : Document) → {t t' rest rest' : List Char} →
    d.SpelledBy t → d'.SpelledBy t' → NumeralEnds rest → NumeralEnds rest' →
      t ++ rest = t' ++ rest' → d = d' ∧ rest = rest'
  | number x, d', _, _, _, _, spelled, spelled', ends, ends', same => by
      obtain ⟨c, begins, begins'⟩ := spelled.common_head spelled' same
      cases d' with
      | number x' =>
          obtain ⟨n, rfl, denotes⟩ := spelled
          obtain ⟨n', rfl, denotes'⟩ := spelled'
          obtain ⟨rfl, rest_eq⟩ := NumeralForm.unique ends ends' same
          exact ⟨congrArg number (denotes.unique denotes'), rest_eq⟩
      | text s' => exact absurd begins' (beginsNumber_ne begins (by decide))
      | object members' => exact absurd begins' (beginsNumber_ne begins (by decide))
  | text s, d', _, _, _, _, spelled, spelled', _, _, same => by
      obtain ⟨c, begins, begins'⟩ := spelled.common_head spelled' same
      cases d' with
      | number x' => exact absurd begins (beginsNumber_ne begins' (by decide))
      | text s' =>
          obtain ⟨rfl, -, rest_eq⟩ := readKey_accepts.unique spelled spelled' trivial trivial same
          exact ⟨rfl, rest_eq⟩
      | object members' => exact absurd (begins.symm.trans begins') (by decide)
  | object members, d', _, _, _, _, spelled, spelled', _, _, same => by
      obtain ⟨c, begins, begins'⟩ := spelled.common_head spelled' same
      cases d' with
      | number x' => exact absurd begins (beginsNumber_ne begins' (by decide))
      | text s' => exact absurd (begins.symm.trans begins') (by decide)
      | object members' =>
          obtain ⟨texts, ⟨items, _, all, isItems, rfl⟩, spelled⟩ := spelled
          obtain ⟨texts', ⟨items', _, all', isItems', rfl⟩, spelled'⟩ := spelled'
          obtain ⟨rfl, rest_eq⟩ := restSpelledBy_unique members members'
            ⟨texts, items, spelled, all, isItems⟩ ⟨texts', items', spelled', all', isItems'⟩
            (List.cons.inj same).2
          exact ⟨rfl, rest_eq⟩

lemma restSpelledBy_unique {first : Bool} : (members members' : List (String × Document)) →
    {t t' rest rest' : List Char} → RestSpelledBy first members t →
      RestSpelledBy first members' t' → t ++ rest = t' ++ rest' →
        members = members' ∧ rest = rest'
  | [], [], _, _, _, _, spelled, spelled', same => by
      obtain ⟨-, -, rest_eq⟩ := (nextKey_accepts first).unique spelled.keyText_none
        spelled'.keyText_none trivial trivial same
      exact ⟨rfl, rest_eq⟩
  | [], (key', value') :: members', _, _, _, _, spelled, spelled', same => by
      obtain ⟨front, b, b', v, behind, isKey, -, -, -, -, rfl⟩ := spelled'.split
      rw [List.append_assoc] at same
      obtain ⟨none, -⟩ := (nextKey_accepts first).unique spelled.keyText_none isKey trivial trivial
        same
      cases none
  | (key, value) :: members, [], _, _, _, _, spelled, spelled', same => by
      obtain ⟨front, b, b', v, behind, isKey, -, -, -, -, rfl⟩ := spelled.split
      rw [List.append_assoc] at same
      obtain ⟨none, -⟩ := (nextKey_accepts first).unique isKey spelled'.keyText_none trivial trivial
        same
      cases none
  | (key, value) :: members, (key', value') :: members', _, _, rest, rest', spelled, spelled',
      same => by
      obtain ⟨front, b, b₁, v, behind, isKey, blanks, blanks₁, isValue, isRest, rfl⟩ :=
        spelled.split
      obtain ⟨front', b', b₁', v', behind', isKey', blanks', blanks₁', isValue', isRest', rfl⟩ :=
        spelled'.split
      have parts : front ++ (b ++ ':' :: (b₁ ++ (v ++ (behind ++ rest)))) =
          front' ++ (b' ++ ':' :: (b₁' ++ (v' ++ (behind' ++ rest')))) := by
        simpa only [List.append_assoc, List.cons_append] using same
      obtain ⟨key_eq, -, behindKey⟩ :=
        (nextKey_accepts first).unique isKey isKey' trivial trivial parts
      obtain rfl : key = key' := Option.some.inj key_eq
      -- behind the blanks stands the colon, and behind more blanks the value
      have atColon := congrArg (List.dropWhile isBlank) behindKey
      rw [dropWhile_token blanks (by decide), dropWhile_token blanks' (by decide)] at atColon
      have atValue := congrArg (List.dropWhile isBlank) (List.cons.inj atColon).2
      rw [isValue.begins.dropWhile blanks₁, isValue'.begins.dropWhile blanks₁'] at atValue
      obtain ⟨rfl, behindValue⟩ := spelledBy_unique value value' isValue isValue'
        (isRest.numeralEnds rest) (isRest'.numeralEnds rest') atValue
      obtain ⟨rfl, rest_eq⟩ := restSpelledBy_unique members members' isRest isRest' behindValue
      exact ⟨rfl, rest_eq⟩

end

end InView.Json.Document
