import InView.Json.Container
import InView.Proofs.Json.Literal
import InView.Proofs.Json.Numeral

/-!
# The grammar of lists and objects

The items of a container stand between its brackets with commas between them, and with blanks
around every one of them.  `ItemsText` says so for items whose texts are given, without saying
what those texts are: for a list they are values (`ListText`), for an object they are members
(`ObjectText`), which are keys with the texts of their values.

A list is read item by item up to its closing bracket (`readItem_accepts`, `closeList_accepts`).
The members of an object change what has been made of the members before them, and
`readMembers_accepts` reduces the whole object to what one member does.
-/

namespace InView.Json

open Reader

/-! ## Punctuation -/

/-- What stands in front of an item: blanks, and among them a comma unless it is the first item. -/
def LeadText (first : Bool) (t : List Char) : Prop :=
  if first then Blanks t
  else ∃ b b', Blanks b ∧ Blanks b' ∧ t = b ++ ',' :: b'

/-- What stands behind the opening bracket of a container, or behind one of its items, up to its
end: further items with given texts and the closing bracket. -/
inductive ItemsText (closing : Char) : Bool → List (List Char) → List Char → Prop
  | close {first : Bool} {b : List Char} (blanks : Blanks b) :
      ItemsText closing first [] (b ++ [closing])
  | next {first : Bool} {lead item t : List Char} {items : List (List Char)}
      (isLead : LeadText first lead) (behind : ItemsText closing false items t) :
      ItemsText closing first (item :: items) (lead ++ (item ++ t))

/-- The texts of a list with given items. -/
def ListText (items : List (List Char)) (t : List Char) : Prop :=
  ∃ behind, ItemsText ']' true items behind ∧ t = '[' :: behind

/-- A member of an object: its key, and the text of its value. -/
structure Member where
  key : String
  value : List Char

/-- The texts of a member. -/
def MemberText (m : Member) (t : List Char) : Prop :=
  ∃ key b b', LiteralText m.key key ∧ Blanks b ∧ Blanks b' ∧
    t = key ++ (b ++ ':' :: (b' ++ m.value))

/-- The texts of an object with given members. -/
def ObjectText (members : List Member) (t : List Char) : Prop :=
  ∃ items behind, List.Forall₂ MemberText members items ∧ ItemsText '}' true items behind ∧
    t = '{' :: behind

/-! ## Beginnings and ends -/

lemma LiteralText.begins {key : String} {t : List Char} (h : LiteralText key t) :
    BeginsValue t := by
  obtain ⟨quoted, -, rfl⟩ := h
  exact beginsValue_cons (by decide) (by decide) quoted

lemma ListText.begins {items : List (List Char)} {t : List Char} (h : ListText items t) :
    BeginsValue t := by
  obtain ⟨behind, -, rfl⟩ := h
  exact beginsValue_cons (by decide) (by decide) behind

lemma ObjectText.begins {members : List Member} {t : List Char} (h : ObjectText members t) :
    BeginsValue t := by
  obtain ⟨_, behind, -, -, rfl⟩ := h
  exact beginsValue_cons (by decide) (by decide) behind

lemma leadText_true {t : List Char} : LeadText true t ↔ Blanks t := by simp [LeadText]

lemma leadText_false {t : List Char} :
    LeadText false t ↔ ∃ b b', Blanks b ∧ Blanks b' ∧ t = b ++ ',' :: b' := by
  simp [LeadText]

/-- Blanks may follow what stands in front of an item. -/
lemma LeadText.append {first : Bool} {lead b : List Char} (h : LeadText first lead)
    (hb : Blanks b) : LeadText first (lead ++ b) := by
  cases first with
  | true => exact leadText_true.mpr ((leadText_true.mp h).append hb)
  | false =>
      obtain ⟨b₁, b₂, blanks₁, blanks₂, rfl⟩ := leadText_false.mp h
      exact leadText_false.mpr ⟨b₁, b₂ ++ b, blanks₁, blanks₂.append hb, by simp⟩

/-- A blank ends a numeral. -/
lemma numeralEnds_blank {c : Char} (h : isBlank c) (cs : List Char) : NumeralEnds (c :: cs) := by
  refine numeralEnds_cons ?_ cs
  simp only [isBlank, Bool.or_eq_true, decide_eq_true_eq] at h
  rcases h with ((rfl | rfl) | rfl) | rfl <;> decide

lemma Blanks.numeralEnds {b : List Char} (h : Blanks b) : NumeralEnds b := by
  cases b with
  | nil => exact numeralEnds_nil
  | cons c cs => exact numeralEnds_blank (h c List.mem_cons_self) cs

/-- Blanks and a character that belongs to no numeral end one. -/
lemma numeralEnds_blanks {b cs : List Char} {c : Char} (hb : Blanks b)
    (hc : c.isDigit = false ∧ c ≠ '.' ∧ isExponentMark c = false) :
    NumeralEnds (b ++ c :: cs) := by
  cases b with
  | nil => exact numeralEnds_cons hc _
  | cons d b => exact numeralEnds_blank (hb d List.mem_cons_self) _

/-- What follows an item ends a numeral. -/
lemma ItemsText.numeralEnds {closing : Char} {items : List (List Char)} {t : List Char}
    (h : ItemsText closing false items t) (hc : closing = ']' ∨ closing = '}')
    (rest : List Char) : NumeralEnds (t ++ rest) := by
  cases h with
  | close blanks =>
      rw [List.append_assoc]
      refine numeralEnds_blanks blanks ?_
      rcases hc with rfl | rfl <;> decide
  | next isLead =>
      obtain ⟨b, b', blanks, -, rfl⟩ := leadText_false.mp isLead
      rw [List.append_assoc, List.append_assoc]
      exact numeralEnds_blanks blanks (by decide)

namespace Reader

variable {α β σ : Type}

/-! ## Lists -/

lemma nextItem_split {first more : Bool} {cs rest : List Char}
    (run : (nextItem first).run cs = .ok (more, rest)) :
    if more then ∃ lead, LeadText first lead ∧ cs = lead ++ rest
    else ∃ b rest', Blanks b ∧ rest = ']' :: rest' ∧ cs = b ++ rest := by
  rw [nextItem, run_peekToken_bind, run_peek_bind] at run
  obtain ⟨b, blanks, split⟩ := exists_blanks cs
  cases ahead : cs.dropWhile isBlank with
  | nil =>
      rw [ahead] at run
      cases run
  | cons c left =>
      rw [ahead] at run split
      simp only [List.head?_cons] at run
      split at run
      case h_1 none => cases none
      case h_2 close =>
        cases close
        cases run
        exact ⟨b, left, blanks, rfl, split⟩
      case h_3 same =>
        cases same
        split at run
        case isTrue isFirst =>
          cases run
          subst isFirst
          exact ⟨b, leadText_true.mpr blanks, split⟩
        case isFalse notFirst =>
          split at run
          case isTrue comma =>
            cases comma
            rw [run_advance_bind, itemBehindComma, run_peekToken_bind, run_peek_bind] at run
            obtain ⟨b', blanks', split'⟩ := exists_blanks left
            split at run
            case h_1 => cases run
            case h_2 => cases run
            case h_3 =>
              cases run
              simp only [Bool.not_eq_true] at notFirst
              subst notFirst
              refine ⟨b ++ ',' :: b', leadText_false.mpr ⟨b, b', blanks, blanks', rfl⟩, ?_⟩
              rw [List.append_assoc, List.cons_append, ← split']
              exact split
          case isFalse => cases run

/-- An item ahead is found behind what stands in front of it. -/
lemma run_nextItem {first : Bool} {lead item : List Char} (isLead : LeadText first lead)
    (begins : BeginsValue item) (rest : List Char) :
    (nextItem first).run (lead ++ (item ++ rest)) = .ok (true, item ++ rest) := by
  obtain ⟨c, cs, rfl, noBlank, noClose⟩ := begins
  rw [nextItem, run_peekToken_bind, run_peek_bind]
  cases first with
  | true =>
      rw [List.cons_append, dropWhile_token (leadText_true.mp isLead) noBlank]
      simp only [List.head?_cons, if_true, run_pure]
  | false =>
      obtain ⟨b, b', blanks, blanks', rfl⟩ := leadText_false.mp isLead
      rw [List.append_assoc, List.cons_append, dropWhile_token blanks (by decide)]
      change itemBehindComma.run (b' ++ (c :: cs ++ rest)) = _
      rw [itemBehindComma, run_peekToken_bind, run_peek_bind, List.cons_append,
        dropWhile_token blanks' noBlank]
      simp only [List.head?_cons, run_pure]

/-- At the end of a list there is no item ahead. -/
lemma run_nextItem_close (first : Bool) {b : List Char} (blanks : Blanks b) (rest : List Char) :
    (nextItem first).run (b ++ ']' :: rest) = .ok (false, ']' :: rest) := by
  rw [nextItem, run_peekToken_bind, run_peek_bind, dropWhile_token blanks (by decide)]
  rfl

/-- A reader accepts the rest of a list, of whose items a relation to its value is known. -/
def AcceptsItems (r : Reader α) (first : Bool) (Of : α → List (List Char) → Prop) : Prop :=
  r.Accepts (fun a t => ∃ items, ItemsText ']' first items t ∧ Of a items) AnyRest

/-- The first item is the text of a value, and the others belong to what is made with it. -/
def ItemsFrom (V : α → List Char → Prop) (Of : α → β → List (List Char) → Prop) (b : β)
    (items : List (List Char)) : Prop :=
  ∃ a item behind, items = item :: behind ∧ V a item ∧ Of a b behind

/-- A reader of values: it accepts their texts behind blanks, and values begin as they must. -/
structure ReadsValue (r : Reader α) (V : α → List Char → Prop) : Prop where
  accepts : r.Accepts (fun a => Spaced (V a)) NumeralEnds
  begins : ∀ {a t}, V a t → BeginsValue t

variable {V : α → List Char → Prop} {item : Reader α}

section

variable {k : α → Reader β} {Of : α → β → List (List Char) → Prop}

/-- Where a value was read, and behind it the items that follow. -/
lemma ReadsValue.next_split (h : item.ReadsValue V) (hk : ∀ a, (k a).AcceptsItems false (Of a))
    {first : Bool} {lead cs rest : List Char} {b : β} (isLead : LeadText first lead)
    (run : (item >>= k).run cs = .ok (b, rest)) :
    ∃ t, lead ++ cs = t ++ rest ∧
      ∃ items, ItemsText ']' first items t ∧ ItemsFrom V Of b items := by
  obtain ⟨a, between, itemRun, behindRun⟩ := run_bind_eq_ok.mp run
  obtain ⟨_, rfl, b', v, rfl, blanks, value⟩ := h.accepts.sound itemRun
  obtain ⟨t, rfl, items, isItems, of⟩ := (hk a).sound behindRun
  exact ⟨(lead ++ b') ++ (v ++ t), by simp, v :: items, .next (isLead.append blanks) isItems,
    a, v, items, rfl, value, of⟩

lemma ReadsValue.run_next (h : item.ReadsValue V) (hk : ∀ a, (k a).AcceptsItems false (Of a))
    {a : α} {b : β} {v t : List Char} {items : List (List Char)} (value : V a v)
    (isItems : ItemsText ']' false items t) (of : Of a b items) (rest : List Char) :
    (item >>= k).run (v ++ (t ++ rest)) = .ok (b, rest) := by
  rw [run_bind_ok (h.accepts.complete (spaced_self value) (isItems.numeralEnds (.inl rfl) rest))]
  exact (hk a).complete ⟨items, isItems, of⟩ trivial

/-- A list whose next item must be there: that item, and the list behind it. -/
lemma readItem_accepts (before : Nat) (expected : String) (h : item.ReadsValue V)
    (hk : ∀ a, (k a).AcceptsItems false (Of a)) :
    (readItem before expected item >>= k).AcceptsItems (before = 0) (ItemsFrom V Of) where
  sound := by
    intro cs b rest run
    rw [readItem, Reader.bind_assoc] at run
    obtain ⟨more, between, nextRun, behindRun⟩ := run_bind_eq_ok.mp run
    have split := nextItem_split nextRun
    cases more with
    | true =>
        simp only [if_true] at split behindRun
        obtain ⟨lead, isLead, rfl⟩ := split
        exact h.next_split hk isLead behindRun
    | false =>
        obtain ⟨_, _, advanced, refused⟩ := run_bind_eq_ok.mp behindRun
        obtain ⟨_, _, -, failed⟩ := run_bind_eq_ok.mp advanced
        cases failed
  complete := by
    rintro b t rest ⟨items, isItems, a, v, behind, rfl, value, of⟩ -
    cases isItems with
    | @next _ lead _ t _ isLead isItems =>
        rw [readItem, Reader.bind_assoc, List.append_assoc, List.append_assoc,
          run_bind_ok (run_nextItem isLead (h.begins value) _)]
        exact h.run_next hk value isItems of rest

end

/-- The end of a list. -/
lemma closeList_accepts (a : α) :
    (closeList >>= fun _ => pure a).AcceptsItems false fun b items => items = [] ∧ b = a where
  sound := by
    intro cs b rest run
    obtain ⟨_, between, closeRun, last⟩ := run_bind_eq_ok.mp run
    obtain ⟨rfl, rfl⟩ := run_pure_eq_ok.mp last
    clear run last
    rw [closeList, run_peekToken_bind, run_peek_bind] at closeRun
    obtain ⟨b, blanks, split⟩ := exists_blanks cs
    cases ahead : cs.dropWhile isBlank with
    | nil =>
        rw [ahead] at closeRun
        cases closeRun
    | cons c left =>
        rw [ahead] at closeRun split
        simp only [List.head?_cons] at closeRun
        split at closeRun
        case h_1 none => cases none
        case h_2 close =>
          cases close
          cases closeRun
          exact ⟨b ++ [']'], by simpa using split, [], .close blanks, rfl, rfl⟩
        case h_3 =>
          rw [run_advance_bind, refuseSurplus, run_peekToken_bind, run_peek_bind] at closeRun
          split at closeRun <;> cases closeRun
        case h_4 => cases closeRun
  complete := by
    rintro b t rest ⟨items, isItems, rfl, rfl⟩ -
    cases isItems with
    | @close _ b' blanks =>
        have closed : closeList.run (b' ++ ']' :: rest) = .ok ((), rest) := by
          rw [closeList, run_peekToken_bind, run_peek_bind, dropWhile_token blanks (by decide)]
          rfl
        rw [List.append_assoc]
        exact run_bind_ok closed _

/-! ## Objects -/

lemma colon_accepts :
    colon.Accepts (fun _ t => ∃ b, Blanks b ∧ t = b ++ [':']) AnyRest where
  sound := by
    intro cs _ rest run
    rw [colon, run_peekToken_bind, run_peek_bind] at run
    obtain ⟨b, blanks, split⟩ := exists_blanks cs
    cases ahead : cs.dropWhile isBlank with
    | nil =>
        rw [ahead] at run
        cases run
    | cons c left =>
        rw [ahead] at run split
        simp only [List.head?_cons] at run
        split at run
        case isTrue same =>
          cases same
          cases run
          exact ⟨b ++ [':'], by simpa using split, b, blanks, rfl⟩
        case isFalse => cases run
  complete := by
    rintro _ t rest ⟨b, blanks, rfl⟩ -
    rw [colon, run_peekToken_bind, run_peek_bind, List.append_assoc, List.singleton_append,
      dropWhile_token blanks (by decide)]
    rfl

lemma readKey_accepts : readKey.Accepts LiteralText AnyRest where
  sound := by
    intro cs key rest run
    rw [readKey, run_peek_bind] at run
    cases cs with
    | nil => cases run
    | cons c cs =>
        simp only [List.head?_cons] at run
        split at run
        case h_1 quote =>
          cases quote
          rw [run_advance_bind] at run
          obtain ⟨t, rfl, quoted⟩ := readLiteral_accepts.sound run
          exact ⟨'"' :: t, rfl, t, quoted, rfl⟩
        case h_2 => cases run
  complete := by
    rintro key t rest ⟨quoted, isQuoted, rfl⟩ -
    exact readLiteral_accepts.complete isQuoted trivial

lemma keyBehindComma_accepts :
    keyBehindComma.Accepts (fun key => Spaced (LiteralText key)) AnyRest := by
  refine Accepts.spaced ⟨?_, ?_⟩ LiteralText.begins
  · intro cs key rest run
    rw [run_peek_bind] at run
    split at run
    case h_1 => cases run
    case h_2 => cases run
    case h_3 => exact readKey_accepts.sound run
  · intro key t rest isLiteral _
    have run : readKey.run (t ++ rest) = .ok (key, rest) :=
      readKey_accepts.complete isLiteral trivial
    obtain ⟨quoted, -, rfl⟩ := isLiteral
    exact run

/-- What is read to find the key of a member, or the end of the object. -/
def KeyText (first : Bool) : Option String → List Char → Prop
  | some key, t => ∃ lead literal, LeadText first lead ∧ LiteralText key literal ∧
      t = lead ++ literal
  | none, t => ∃ b, Blanks b ∧ t = b ++ ['}']

/-- What was read up to a key, or up to the end of an object. -/
lemma nextKey_split {first : Bool} {key? : Option String} {cs rest : List Char}
    (run : (nextKey first).run cs = .ok (key?, rest)) :
    ∃ t, cs = t ++ rest ∧ KeyText first key? t := by
  rw [nextKey, run_peekToken_bind, run_peek_bind] at run
  obtain ⟨b, blanks, split⟩ := exists_blanks cs
  cases ahead : cs.dropWhile isBlank with
  | nil =>
      rw [ahead] at run
      cases run
  | cons c left =>
      rw [ahead] at run split
      simp only [List.head?_cons] at run
      split at run
      case h_1 none => cases none
      case h_2 close =>
        cases close
        cases run
        exact ⟨b ++ ['}'], by simpa using split, b, blanks, rfl⟩
      case h_3 same =>
        cases same
        split at run
        case isTrue isFirst =>
          obtain ⟨literal, split', key, isLiteral, rfl⟩ := (readKey_accepts.bindPure some).sound run
          subst isFirst
          exact ⟨b ++ literal, by rw [List.append_assoc, ← split']; exact split,
            b, literal, leadText_true.mpr blanks, isLiteral, rfl⟩
        case isFalse notFirst =>
          rw [Bool.not_eq_true] at notFirst
          subst notFirst
          split at run
          case isTrue comma =>
            cases comma
            rw [run_advance_bind] at run
            obtain ⟨_, rfl, key, ⟨b', literal, rfl, blanks', isLiteral⟩, rfl⟩ :=
              (keyBehindComma_accepts.bindPure some).sound run
            refine ⟨(b ++ ',' :: b') ++ literal, by simpa using split, _, literal,
              leadText_false.mpr ⟨b, b', blanks, blanks', rfl⟩, isLiteral, rfl⟩
          case isFalse => cases run

lemma run_nextKey {first : Bool} {lead literal : List Char} {key : String}
    (isLead : LeadText first lead) (isLiteral : LiteralText key literal) (rest : List Char) :
    (nextKey first).run (lead ++ (literal ++ rest)) = .ok (some key, rest) := by
  rw [nextKey, run_peekToken_bind, run_peek_bind]
  cases first with
  | true =>
      have run : readKey.run (literal ++ rest) = .ok (key, rest) :=
        readKey_accepts.complete isLiteral trivial
      rw [isLiteral.begins.dropWhile (leadText_true.mp isLead)]
      obtain ⟨quoted, -, rfl⟩ := isLiteral
      exact run_bind_ok run _
  | false =>
      obtain ⟨b, b', blanks, blanks', rfl⟩ := leadText_false.mp isLead
      have run : keyBehindComma.run (b' ++ literal ++ rest) = .ok (key, rest) :=
        keyBehindComma_accepts.complete (spaced_of blanks' isLiteral) trivial
      rw [List.append_assoc, List.cons_append, ← List.append_assoc b',
        dropWhile_token blanks (by decide)]
      exact run_bind_ok run _

lemma run_nextKey_close (first : Bool) {b : List Char} (blanks : Blanks b) (rest : List Char) :
    (nextKey first).run (b ++ '}' :: rest) = .ok (none, rest) := by
  rw [nextKey, run_peekToken_bind, run_peek_bind, dropWhile_token blanks (by decide)]
  rfl

/-- The next key, or the end of the object, is found behind what stands in front of it. -/
lemma nextKey_accepts (first : Bool) : (nextKey first).Accepts (KeyText first) AnyRest where
  sound := nextKey_split
  complete := by
    intro key? t rest isKey _
    cases key? with
    | none =>
        obtain ⟨b, blanks, rfl⟩ := isKey
        rw [List.append_assoc]
        exact run_nextKey_close first blanks rest
    | some key =>
        obtain ⟨lead, literal, isLead, isLiteral, rfl⟩ := isKey
        rw [List.append_assoc]
        exact run_nextKey isLead isLiteral rest

/-- What the members of an object make, one behind the other, if `Takes` is what one makes. -/
def Makes (Takes : σ → Member → σ → Prop) : σ → List Member → σ → Prop
  | s, [], made => s = made
  | s, m :: members, made => ∃ s', Takes s m s' ∧ Makes Takes s' members made

/-- What follows the key of a member: a colon with blanks around it, and the text of a value. -/
def BehindKey (Of : List Char → α → Prop) (a : α) (t : List Char) : Prop :=
  ∃ b b' value, Blanks b ∧ Blanks b' ∧ Of value a ∧ t = b ++ ':' :: (b' ++ value)

/-- A reader of members takes what follows their keys, in a relation between what has been made
before a member, the member, and what is made with it. -/
def TakesMembers (member : σ → String → Reader σ) (Takes : σ → Member → σ → Prop) : Prop :=
  ∀ s key, (member s key).Accepts (BehindKey fun value => Takes s ⟨key, value⟩) NumeralEnds

variable {member : σ → String → Reader σ} {Takes : σ → Member → σ → Prop}

/-- A step of reading members ends with the closing brace. -/
lemma memberStep_done {s : MemberState σ} {cs rest : List Char} {made : σ}
    (run : (memberStep member s).run cs = .ok (.done made, rest)) :
    made = s.made ∧ ∃ b, Blanks b ∧ cs = b ++ '}' :: rest := by
  rw [memberStep] at run
  obtain ⟨key?, between, keyRun, last⟩ := run_bind_eq_ok.mp run
  obtain ⟨t, rfl, isKey⟩ := nextKey_split keyRun
  cases key? with
  | none =>
      cases last
      obtain ⟨b, blanks, rfl⟩ := isKey
      exact ⟨rfl, b, blanks, by simp⟩
  | some key =>
      obtain ⟨s', between, -, last⟩ := run_bind_eq_ok.mp last
      cases last

/-- Another step of reading members is over a member. -/
lemma memberStep_more (h : TakesMembers member Takes) {s s' : MemberState σ}
    {cs rest : List Char} (run : (memberStep member s).run cs = .ok (.more s', rest)) :
    s'.first = false ∧ ∃ lead m t, LeadText s.first lead ∧ MemberText m t ∧
      Takes s.made m s'.made ∧ cs = lead ++ (t ++ rest) := by
  rw [memberStep] at run
  obtain ⟨key?, between, keyRun, behind⟩ := run_bind_eq_ok.mp run
  obtain ⟨t, rfl, isKey⟩ := nextKey_split keyRun
  cases key? with
  | none => cases behind
  | some key =>
      obtain ⟨made, between, memberRun, last⟩ := run_bind_eq_ok.mp behind
      cases last
      obtain ⟨lead, literal, isLead, isLiteral, rfl⟩ := isKey
      obtain ⟨_, rfl, b, b', value, blanks, blanks', takes, rfl⟩ := (h s.made key).sound memberRun
      exact ⟨rfl, lead, ⟨key, value⟩, _, isLead,
        ⟨literal, b, b', isLiteral, blanks, blanks', rfl⟩, takes, by simp⟩

lemma run_memberStep_close (s : MemberState σ) {b : List Char} (blanks : Blanks b)
    (rest : List Char) :
    (memberStep member s).run (b ++ '}' :: rest) = .ok (.done s.made, rest) :=
  run_bind_ok (run_nextKey_close s.first blanks rest) _

lemma run_memberStep (h : TakesMembers member Takes) {s : MemberState σ} {lead t : List Char}
    {m : Member} {made : σ} (isLead : LeadText s.first lead) (isMember : MemberText m t)
    (takes : Takes s.made m made) {rest : List Char} (hrest : NumeralEnds rest) :
    (memberStep member s).run (lead ++ (t ++ rest)) = .ok (.more ⟨false, made⟩, rest) := by
  obtain ⟨literal, b, b', isLiteral, blanks, blanks', rfl⟩ := isMember
  have memberRun := (h s.made m.key).complete ⟨b, b', m.value, blanks, blanks', takes, rfl⟩ hrest
  rw [memberStep, List.append_assoc literal, run_bind_ok (run_nextKey isLead isLiteral _)]
  exact run_bind_ok memberRun _

/-- **An object is read up to its closing brace, and makes what its members make.** -/
theorem readMembers_accepts (h : TakesMembers member Takes) (start : σ) :
    (readMembers member start).Accepts
      (fun made t => ∃ members items, List.Forall₂ MemberText members items ∧
        ItemsText '}' true items t ∧ Makes Takes start members made) AnyRest where
  sound := by
    intro cs made rest run
    refine loop_induction (Q := fun s cs made rest => ∃ t, cs = t ++ rest ∧
      ∃ members items, List.Forall₂ MemberText members items ∧
        ItemsText '}' s.first items t ∧ Makes Takes s.made members made) ?_ ?_ run
    · intro s cs made rest last
      obtain ⟨rfl, b, blanks, rfl⟩ := memberStep_done last
      exact ⟨b ++ ['}'], by simp, [], [], .nil, .close blanks, rfl⟩
    · rintro s cs s' between made rest step ⟨t, rfl, members, items, all, isItems, makes⟩
      obtain ⟨notFirst, lead, m, item, isLead, isMember, takes, rfl⟩ := memberStep_more h step
      rw [notFirst] at isItems
      exact ⟨lead ++ (item ++ t), by simp, m :: members, item :: items, .cons isMember all,
        .next isLead isItems, s'.made, takes, makes⟩
  complete := by
    rintro made t rest ⟨members, items, all, isItems, makes⟩ -
    rw [readMembers]
    suffices ∀ s : MemberState σ, ItemsText '}' s.first items t → Makes Takes s.made members made →
        (loop (memberStep member) (memberStep_strict member) s).run (t ++ rest) =
          .ok (made, rest) from this _ isItems makes
    clear makes isItems
    induction all generalizing t with
    | nil =>
        intro s isItems makes
        cases isItems with
        | close blanks =>
            obtain rfl : s.made = made := makes
            rw [List.append_assoc]
            exact run_loop_done (run_memberStep_close s blanks rest)
    | cons isMember all ih =>
        intro s isItems makes
        obtain ⟨s', takes, makes⟩ := makes
        cases isItems with
        | next isLead behind =>
            rw [List.append_assoc, List.append_assoc, run_loop_more
              (run_memberStep h isLead isMember takes (behind.numeralEnds (.inr rfl) rest))]
            exact ih ⟨false, s'⟩ behind makes

end Reader

end InView.Json
