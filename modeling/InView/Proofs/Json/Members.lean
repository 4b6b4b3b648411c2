import InView.Proofs.Json.Bytes
import InView.Proofs.Layout.Record

/-!
# Members up to a place

The members of an object are read one behind the other, so what happens at one of them depends on
what has been made of the members in front of it, and on nothing behind it.

`LeadingItems` is a beginning of a container: items, and what stands in front of each of them.  An
object whose members make something up to a place is read up to that place (`run_loop_leading`), and
if what follows the next key fails there, so does the object (`run_readMembers_failing`).
-/

namespace InView.Json

open Reader

/-! ## Beginnings -/

/-- Items of a container with what stands in front of each, behind its opening bracket or behind
another item. -/
inductive LeadingItems : Bool → List (List Char) → List Char → Prop
  | nil {first : Bool} : LeadingItems first [] []
  | cons {first : Bool} {lead item t : List Char} {items : List (List Char)}
      (isLead : LeadText first lead) (behind : LeadingItems false items t) :
      LeadingItems first (item :: items) (lead ++ (item ++ t))

/-- The text of a container up to one of its items. -/
lemma ItemsText.split {closing : Char} {first : Bool} {front behind : List (List Char)}
    {item t : List Char} (h : ItemsText closing first (front ++ item :: behind) t) :
    ∃ leading lead rest, LeadingItems first front leading ∧
      LeadText (first && front.isEmpty) lead ∧ t = leading ++ (lead ++ (item ++ rest)) := by
  induction front generalizing first t with
  | nil =>
      cases h with
      | @next _ lead _ rest _ isLead =>
          exact ⟨[], lead, rest, .nil, by simpa using isLead, rfl⟩
  | cons other front ih =>
      cases h with
      | @next _ lead _ t _ isLead isItems =>
          obtain ⟨leading, lead', rest, isLeading, isLead', rfl⟩ := ih isItems
          exact ⟨lead ++ (other ++ leading), lead', rest, .cons isLead isLeading,
            by simpa using isLead', by simp⟩

/-- Items with nothing but commas between them. -/
lemma itemsText_intercalate (closing : Char) (items : List (List Char)) :
    ItemsText closing true items ([','].intercalate items ++ [closing]) := by
  have nonempty {first : Bool} {lead : List Char} (isLead : LeadText first lead)
      (item : List Char) (items : List (List Char)) : ItemsText closing first (item :: items)
        (lead ++ ([','].intercalate (item :: items) ++ [closing])) := by
    induction items generalizing first lead item with
    | nil => simpa using ItemsText.next isLead (.close blanks_nil)
    | cons other items ih =>
        have comma : LeadText false [','] :=
          leadText_false.mpr ⟨[], [], blanks_nil, blanks_nil, rfl⟩
        simpa using ItemsText.next isLead (ih comma other)
  cases items with
  | nil => exact .close blanks_nil
  | cons item items => exact nonempty (leadText_true.mpr blanks_nil) item items

lemma listText_intercalate (items : List (List Char)) :
    ListText items ('[' :: ([','].intercalate items ++ [']'])) :=
  ⟨_, itemsText_intercalate ']' items, rfl⟩

/-- What stands in front of an item that is not the first ends a numeral. -/
lemma LeadText.numeralEnds {lead : List Char} (h : LeadText false lead) (rest : List Char) :
    NumeralEnds (lead ++ rest) := by
  obtain ⟨b, b', blanks, -, rfl⟩ := leadText_false.mp h
  rw [List.append_assoc, List.cons_append]
  exact numeralEnds_blanks blanks (by decide)

lemma LeadingItems.numeralEnds {items : List (List Char)} {t rest : List Char}
    (h : LeadingItems false items t) (hrest : NumeralEnds rest) : NumeralEnds (t ++ rest) := by
  cases h with
  | nil => exact hrest
  | cons isLead =>
      rw [List.append_assoc]
      exact isLead.numeralEnds _

/-- An object up to a key and the blanks behind it: other members, and the key of one more. -/
def UpToKey (front : List Member) (key : String) (t : List Char) : Prop :=
  ∃ items leading lead literal b, List.Forall₂ MemberText front items ∧
    LeadingItems true items leading ∧ LeadText front.isEmpty lead ∧ LiteralText key literal ∧
    Blanks b ∧ t = '{' :: (leading ++ (lead ++ (literal ++ b)))

/-- The text of an object up to the colon of one of its members. -/
lemma ObjectText.upToKey {front behind : List Member} {m : Member} {t : List Char}
    (h : ObjectText (front ++ m :: behind) t) :
    ∃ passed left, UpToKey front m.key passed ∧ t = passed ++ ':' :: left := by
  obtain ⟨items, inner, all, isItems, rfl⟩ := h
  have isFront := (List.forall₂_take_append _ _ _ all.flip).flip
  have isRest := (List.forall₂_drop_append _ _ _ all.flip).flip
  obtain ⟨_, _, ⟨literal, b, b', isLiteral, blanks, -, rfl⟩, -, behind_eq⟩ :=
    List.forall₂_cons_left_iff.mp isRest
  rw [← List.take_append_drop front.length items, behind_eq] at isItems
  generalize items.take front.length = frontItems at isFront isItems
  obtain ⟨leading, lead, rest, isLeading, isLead, rfl⟩ := isItems.split
  have empty : front.isEmpty = frontItems.isEmpty := by
    cases isFront <;> rfl
  refine ⟨_, b' ++ (m.value ++ rest), ⟨frontItems, leading, lead, literal, b, isFront, isLeading,
    by simpa [empty] using isLead, isLiteral, blanks, rfl⟩, by simp⟩

/-! ## Reading up to a place -/

namespace Reader

variable {α σ : Type}

/-- A loop fails where its step fails. -/
lemma run_loop_error {step : σ → Reader (Turn σ α)} {strict : ∀ s, (step s).Strict} {s : σ}
    {cs : List Char} {failure : Failure} (h : (step s).run cs = .error failure) :
    (loop step strict s).run cs = .error failure := by
  rw [loop_eq, run_bind, h]

variable {member : σ → String → Reader σ} {Takes : σ → Member → σ → Prop}

/-- Members that make something are read, and what follows them is still to be read. -/
lemma run_loop_leading (h : TakesMembers member Takes) {members : List Member}
    {items : List (List Char)} (all : List.Forall₂ MemberText members items)
    {s : MemberState σ} {t : List Char} (leading : LeadingItems s.first items t) {made : σ}
    (makes : Makes Takes s.made members made) {rest : List Char} (hrest : NumeralEnds rest) :
    (loop (memberStep member) (memberStep_strict member) s).run (t ++ rest) =
      (loop (memberStep member) (memberStep_strict member) ⟨s.first && members.isEmpty, made⟩).run
        rest := by
  induction all generalizing s t with
  | nil =>
      cases leading
      obtain rfl : s.made = made := makes
      simp
  | cons isMember all ih =>
      obtain ⟨s', takes, makes⟩ := makes
      cases leading with
      | cons isLead behind =>
          rw [List.append_assoc, List.append_assoc,
            run_loop_more (run_memberStep h isLead isMember takes (behind.numeralEnds hrest)),
            ih (s := ⟨false, s'⟩) behind makes]
          simp

/-- **An object fails at its first member that fails.**  The members in front of it make something,
and what follows its key cannot be read with that. -/
theorem run_readMembers_failing (h : TakesMembers member Takes) {front : List Member} {key : String}
    {start made : σ} (makes : Makes Takes start front made) (nonempty : front ≠ [])
    {failure : Failure} {left : List Char}
    (fails : ∀ b, Blanks b → (member made key).run (b ++ ':' :: left) = .error failure)
    {passed : List Char} (upTo : UpToKey front key ('{' :: passed)) :
    (readMembers member start).run (passed ++ ':' :: left) = .error failure := by
  obtain ⟨items, leading, lead, literal, b, all, isLeading, isLead, isLiteral, blanks, eq⟩ := upTo
  obtain rfl := (List.cons.inj eq).2
  have notFirst : front.isEmpty = false := by simpa using nonempty
  rw [notFirst] at isLead
  have step : (memberStep member ⟨false, made⟩).run (lead ++ (literal ++ (b ++ ':' :: left))) =
      .error failure := by
    rw [memberStep, run_bind_ok (run_nextKey isLead isLiteral _), run_bind]
    simp only [fails b blanks]
  simp only [List.append_assoc]
  rw [readMembers, run_loop_leading h all (s := ⟨true, start⟩) isLeading makes
    (isLead.numeralEnds _), notFirst, Bool.and_false]
  exact run_loop_error step

end Reader

end InView.Json
