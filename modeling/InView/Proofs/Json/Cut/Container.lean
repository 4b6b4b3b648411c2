import InView.Proofs.Json.Cut.Literal
import InView.Proofs.Json.Cut.Numeral
import InView.Proofs.Json.Ignored

/-!
# Values that are cut

A value can be cut within a literal, within a numeral or between its tokens, at any depth.  In the
`documentRegion` only the second of these is excused from saying that the text has ended: there the
fault may be that of the numeral that is left (`CutsNumeral`).

Containers need no more than that, because everything that may be refused about a container as a
whole is refused behind its closing bracket, or behind a key or a comma that must be followed by
more.  What is in front of such a place is read by a closed reader.
-/

namespace InView.Json

open Reader

/-! ## The region -/

/-- A text that does not end within a literal: literals, and characters that are no quotes. -/
inductive OutsideLiterals : List Char → Prop
  | nil : OutsideLiterals []
  | char {c : Char} {t : List Char} (noQuote : c ≠ '"') (rest : OutsideLiterals t) :
      OutsideLiterals (c :: t)
  | literal {l t : List Char} (isLiteral : SkippedLiteral l) (rest : OutsideLiterals t) :
      OutsideLiterals (l ++ t)

lemma OutsideLiterals.append {s t : List Char} (hs : OutsideLiterals s) (ht : OutsideLiterals t) :
    OutsideLiterals (s ++ t) := by
  induction hs with
  | nil => exact ht
  | char noQuote _ ih => exact .char noQuote ih
  | literal isLiteral _ ih =>
      rw [List.append_assoc]
      exact .literal isLiteral ih

lemma outsideLiterals_of_not_mem {t : List Char} (h : '"' ∉ t) : OutsideLiterals t := by
  induction t with
  | nil => exact .nil
  | cons c t ih =>
      obtain ⟨noQuote, rest⟩ := not_or.mp (mt List.mem_cons.mpr h)
      exact .char (Ne.symm noQuote) (ih rest)

/-- Between the texts there is a numeral: a part of it ends the first, and the other part begins the
second, in which nothing more belongs to it. -/
def CutsNumeral (p u : List Char) : Prop :=
  ∃ (before x y after : List Char) (n : NumeralForm), p = before ++ x ∧ u = y ++ after ∧
    OutsideLiterals before ∧ n.text = x ++ y ∧ x ≠ [] ∧ y ≠ [] ∧ n.Ends after

/-- The region of a document. -/
def documentRegion : Region where
  Whole := OutsideLiterals
  Excuses cause p u := cause.isNumeric ∧ CutsNumeral p u
  nil := .nil
  append := .append
  behind := by
    rintro cause s _ _ whole ⟨isNumeric, before, x, y, after, n, rfl, rfl, outside, cut⟩
    exact ⟨isNumeric, s ++ before, x, y, after, n, by rw [List.append_assoc], rfl,
      whole.append outside, cut⟩

lemma whole_char {c : Char} (h : c ≠ '"') : documentRegion.Whole [c] := .char h .nil

lemma Blanks.outsideLiterals {t : List Char} (h : Blanks t) : OutsideLiterals t :=
  outsideLiterals_of_not_mem fun mem => by simpa [isBlank] using h _ mem

/-- A reader that looks behind the blanks may be cut. -/
lemma cuttable_token {α : Type} {f : Option Char → Reader α} {cause : Cause}
    (atEnd : (f none).run [] = .error ⟨cause, 0⟩) (isEnd : cause.isEnd)
    (within : ∀ c, (f (some c)).ForwardFrom documentRegion c) :
    (peekToken >>= f).Cuttable documentRegion :=
  cuttable_peekToken Blanks.outsideLiterals (endsShort_of_error atEnd isEnd) within

/-! ## Literals -/

lemma skippedChars_of_charText {c : Char} {t : List Char} (h : CharText c t) :
    ∃ chars : List (List Char), (∀ s ∈ chars, SkippedChar s) ∧ t = chars.flatten := by
  cases h with
  | plain isPlain => exact ⟨[[c]], by simpa using .plain isPlain, rfl⟩
  | escape escape =>
      cases escape with
      | @short letter _ meaning =>
          exact ⟨[['\\', letter]], by simpa using .short (by simp [meaning]), rfl⟩
      | @unit _ digits value =>
          exact ⟨[_], by simpa using .unit value, by simp⟩
      | @pair _ _ digits digits' first _ second _ =>
          refine ⟨['\\' :: 'u' :: digits, '\\' :: 'u' :: digits'], ?_, by simp⟩
          simpa using ⟨.unit first, .unit second⟩

/-- A literal that is read could also be passed over. -/
lemma LiteralText.skipped {text : String} {t : List Char} (h : LiteralText text t) :
    SkippedLiteral t := by
  obtain ⟨_, ⟨spellings, all, rfl⟩, rfl⟩ := h
  generalize text.toList = characters at all
  suffices ∃ chars : List (List Char), (∀ s ∈ chars, SkippedChar s) ∧
      spellings.flatten = chars.flatten by
    obtain ⟨chars, skipped, same⟩ := this
    exact ⟨chars, skipped, by rw [same]⟩
  induction all with
  | nil => exact ⟨[], by simp, rfl⟩
  | cons spells _ ih =>
      obtain ⟨first, skipped, rfl⟩ := skippedChars_of_charText spells
      obtain ⟨chars, skipped', same⟩ := ih
      exact ⟨first ++ chars, List.forall_mem_append.mpr ⟨skipped, skipped'⟩, by simp [same]⟩

lemma SkippedLiteral.outsideLiterals {t : List Char} (h : SkippedLiteral t) :
    OutsideLiterals t := by
  simpa using OutsideLiterals.literal h .nil

/-- A reader that may be cut within a literal, behind the opening quote. -/
lemma forwardFrom_quote {α : Type} {r : Reader α} (h : r.Cuttable literalRegion)
    (literal : ∀ {a t rest}, r.run (t ++ rest) = .ok (a, rest) → SkippedLiteral ('"' :: t)) :
    (advance >>= fun _ => r).ForwardFrom documentRegion '"' := fun cs =>
  (forwardFrom_advance (R := literalRegion) trivial h.forward cs).transfer
    (fun {a t rest} split run => by
      cases t with
      | nil => exact .nil
      | cons c t =>
          obtain ⟨rfl, rfl⟩ := List.cons.inj split
          exact (literal run).outsideLiterals)
    fun {_ _ _ _} _ _ => False.elim

lemma forwardFrom_readLiteral :
    (advance >>= fun _ => readLiteral).ForwardFrom documentRegion '"' :=
  forwardFrom_quote cuttable_readLiteral fun {text t rest} run => by
    obtain ⟨t', split, quoted⟩ := readLiteral_accepts.sound run
    obtain rfl := List.append_cancel_right split
    exact LiteralText.skipped ⟨t, quoted, rfl⟩

lemma forwardFrom_skipLiteral :
    (advance >>= fun _ => skipLiteral).ForwardFrom documentRegion '"' :=
  forwardFrom_quote cuttable_skipLiteral fun {_ t rest} run => by
    obtain ⟨t', split, skipped⟩ := skipLiteral_accepts.sound run
    obtain rfl := List.append_cancel_right split
    exact skipped

/-! ## Numerals -/

/-- A reader that reads numerals of a value. -/
structure Reader.ReadsNumeral {α : Type} (r : Reader α) (value? : NumeralForm → Option α) :
    Prop where
  split : ∀ {cs a rest}, r.run cs = .ok (a, rest) →
    ∃ n : NumeralForm, cs = n.text ++ rest ∧ n.Ends rest ∧ value? n = some a
  run : ∀ {n : NumeralForm} {a : α}, value? n = some a → ∀ {rest}, n.Ends rest →
    r.run (n.text ++ rest) = .ok (a, rest)

lemma readNumber_readsNumeral : readNumber.ReadsNumeral NumeralForm.value? :=
  ⟨readNumber_numeral, run_readNumber⟩

lemma skipNumber_readsNumeral : skipNumber.ReadsNumeral fun _ => some () where
  split run := by
    obtain ⟨n, split, ends⟩ := skipNumber_split run
    exact ⟨n, split, ends, rfl⟩
  run _ _ ends := run_skipNumber _ ends

lemma NumeralForm.Ends.of_append {n : NumeralForm} {s t : List Char} (h : n.Ends (s ++ t)) :
    n.Ends s := by
  cases s with
  | nil => exact numeralEnds_nil.ends n
  | cons c s => exact ⟨⟨h.digit, h.mark⟩, h.point⟩

/-- A text on which a reader of numerals fails ends within the numeral that it reads if the text
goes on. -/
lemma Reader.ReadsNumeral.cutsNumeral {α : Type} {r : Reader α} {value? : NumeralForm → Option α}
    (h : r.ReadsNumeral value?) {c : Char} {cs u rest : List Char} {f : Failure} {a : α}
    (failed : r.run (c :: cs) = .error f) (read : r.run (c :: cs ++ u) = .ok (a, rest)) :
    CutsNumeral (c :: cs) u := by
  obtain ⟨n, split, ends, value⟩ := h.split read
  rcases List.append_eq_append_iff.mp split with ⟨y, whole, rfl⟩ | ⟨behind, inside, rfl⟩
  · refine ⟨[], c :: cs, y, rest, n, rfl, rfl, .nil, whole, List.cons_ne_nil c cs, ?_, ends⟩
    rintro rfl
    have read' := h.run value (numeralEnds_nil.ends n)
    rw [List.append_nil, whole, List.append_nil, failed] at read'
    cases read'
  · have read' := h.run value ends.of_append
    rw [← inside, failed] at read'
    cases read'

lemma NumeralForm.outsideLiterals (n : NumeralForm) : OutsideLiterals n.text :=
  outsideLiterals_of_not_mem fun mem => absurd (n.isNumeralChar_of_mem _ mem) (by decide)

lemma Reader.ReadsNumeral.forwardFrom {α : Type} {r : Reader α} {value? : NumeralForm → Option α}
    (h : r.ReadsNumeral value?) (cuttable : r.Cuttable numeralRegion) (c : Char) :
    r.ForwardFrom documentRegion c := fun cs =>
  (cuttable.forward (c :: cs)).transfer
    (fun {a t rest} same run => by
      obtain ⟨n, split, -, -⟩ := h.split run
      rw [List.append_cancel_right (same.symm.trans split)]
      exact n.outsideLiterals)
    fun {_ _ _ _} failed read isNumeric => ⟨isNumeric, h.cutsNumeral failed read⟩

/-! ## Plain values -/

lemma cuttable_readWord {word : List Char} (noQuote : '"' ∉ word) :
    (readWord word).Cuttable documentRegion := by
  induction word with
  | nil => exact cuttable_pure _
  | cons letter word ih =>
      obtain ⟨first, rest⟩ := not_or.mp (mt List.mem_cons.mpr noQuote)
      refine cuttable_peek (endsShort_of_error rfl rfl) fun c => ?_
      dsimp only
      split
      case isTrue same =>
        exact forwardFrom_advance (whole_char (same ▸ Ne.symm first)) (ih rest).forward
      case isFalse => exact (forward_fail _).from c

lemma forwardFrom_skipPlain (c : Char) : (skipPlain c).ForwardFrom documentRegion c := by
  unfold skipPlain
  split
  · exact forwardFrom_skipLiteral
  · exact (cuttable_readWord (by decide)).forward.from _
  · exact (cuttable_readWord (by decide)).forward.from _
  · exact (cuttable_readWord (by decide)).forward.from _
  · split
    · exact skipNumber_readsNumeral.forwardFrom cuttable_skipNumber c
    · exact (forward_fail _).from c

/-! ## Punctuation -/

lemma cuttable_colon : colon.Cuttable documentRegion := by
  refine cuttable_token rfl rfl fun c => ?_
  dsimp only
  split
  case isTrue isColon => exact advance_forwardFrom (whole_char (by simp [isColon]))
  case isFalse => exact (forward_fail _).from c

lemma cuttable_closeList : closeList.Cuttable documentRegion := by
  refine cuttable_token rfl rfl fun c => ?_
  split
  case h_1 none => cases none
  case h_2 bracket =>
    cases bracket
    exact advance_forwardFrom (whole_char (by decide))
  case h_3 =>
    have refused : refuseSurplus.Fails := by
      refine .bind_right _ fun c => ?_
      split
      · exact fails_fail _
      · exact fails_fail _
    exact (Fails.bind_right _ fun _ => refused).forward.from c
  case h_4 => exact (forward_fail _).from c

/-! ## Items -/

lemma cuttable_itemBehindComma : itemBehindComma.Cuttable documentRegion := by
  refine cuttable_token rfl rfl fun c => ?_
  split
  case h_1 none => cases none
  case h_2 => exact (forward_fail _).from c
  case h_3 => exact (forward_pure _).from c

lemma cuttable_nextItem (first : Bool) : (nextItem first).Cuttable documentRegion := by
  refine cuttable_token rfl rfl fun c => ?_
  split
  case h_1 none => cases none
  case h_2 => exact (forward_pure _).from c
  case h_3 same =>
    cases same
    split
    · exact (forward_pure _).from c
    · split
      case isTrue isComma =>
        exact forwardFrom_advance (whole_char (by simp [isComma])) cuttable_itemBehindComma.forward
      case isFalse => exact (forward_fail _).from c

/-- Whether there is an item shows in front of it. -/
lemma nextItem_closed (first : Bool) : (nextItem first).Closed := by
  have behindComma : itemBehindComma.Closed := by
    refine closed_peekToken (fails_fail _) fun c => ?_
    split
    · exact (fails_fail _).closed.closedFrom c
    · exact (fails_fail _).closed.closedFrom c
    · exact (closed_pure _).closedFrom c
  refine closed_peekToken (fails_fail _) fun c => ?_
  split
  · exact (fails_fail _).closed.closedFrom c
  · exact (closed_pure _).closedFrom c
  · split
    · exact (closed_pure _).closedFrom c
    · split
      · exact closedFrom_advance c behindComma
      · exact (fails_fail _).closed.closedFrom c

variable {α σ : Type}

lemma cuttable_readItem (before : Nat) (expected : String) {item : Reader α}
    (h : item.Cuttable documentRegion) :
    (readItem before expected item).Cuttable documentRegion := by
  refine (cuttable_nextItem _).bind_closed (nextItem_closed _) nofun fun more => ?_
  split
  · exact h.forward
  · exact (Fails.bind_right _ fun _ => fails_fail _).forward

/-! ## Members -/

lemma forwardFrom_readKey (c : Char) : readKey.ForwardFrom documentRegion c := by
  refine forwardFrom_peek ?_
  split
  case h_1 quote =>
    cases quote
    exact forwardFrom_readLiteral
  case h_2 => exact (forward_fail _).from c

lemma cuttable_keyBehindComma : keyBehindComma.Cuttable documentRegion := by
  refine cuttable_token rfl rfl fun c => ?_
  split
  case h_1 none => cases none
  case h_2 => exact (forward_fail _).from c
  case h_3 => exact forwardFrom_readKey c

lemma cuttable_nextKey (first : Bool) : (nextKey first).Cuttable documentRegion := by
  refine cuttable_token rfl rfl fun c => ?_
  split
  case h_1 none => cases none
  case h_2 brace =>
    cases brace
    exact forwardFrom_advance (whole_char (by decide)) (forward_pure _)
  case h_3 same =>
    cases same
    split
    · exact (forwardFrom_readKey c).bind_pure _
    · split
      case isTrue isComma =>
        exact forwardFrom_advance (whole_char (by simp [isComma]))
          (cuttable_keyBehindComma.bind_pure _).forward
      case isFalse => exact (forward_fail _).from c

/-- **The members of an object may be cut** if what follows each key is read forward.  The key
itself is closed, so a field that occurs twice may be refused whatever is behind its second key. -/
theorem cuttable_readMembers {member : σ → String → Reader σ}
    (h : ∀ s key, (member s key).Forward documentRegion) (start : σ) :
    (readMembers member start).Cuttable documentRegion := by
  refine cuttable_loop (fun s => ?_) _
  refine (cuttable_nextKey _).bind_closed (nextKey_accepts _).closed nofun fun key? => ?_
  split
  · exact forward_pure _
  · exact (h _ _).bind_pure _

lemma forward_readField (name : String) (held : Option α) {value : Reader α}
    (h : value.Cuttable documentRegion) : (readField name held value).Forward documentRegion := by
  unfold readField
  split
  · have refused : (refuseObject (.duplicateField name) : Reader (Option α)).Fails :=
      .bind_right _ fun _ => .bind_right _ fun _ => fails_fail _
    exact refused.forward
  · exact (cuttable_colon.bind fun _ => h.bind_pure _).forward

lemma requireField_closed (name : String) (held : Option α) :
    (requireField name held).Closed := by
  cases held with
  | none => exact (fails_fail _).closed
  | some a => exact closed_pure a

lemma forward_requireField (name : String) (held : Option α) :
    (requireField name held).Forward documentRegion := by
  cases held with
  | none => exact forward_fail _
  | some a => exact forward_pure a

/-! ## Ignored values -/

lemma cuttable_skipKey : skipKey.Cuttable documentRegion := by
  refine cuttable_token rfl rfl fun c => ?_
  split
  case h_1 none => cases none
  case h_2 quote =>
    cases quote
    rw [← Reader.bind_assoc]
    exact forwardFrom_skipLiteral.bind fun _ => cuttable_colon
  case h_3 => exact (forward_fail _).from c

lemma cuttable_enterItem (bracket : Bracket) (outer : List Bracket) :
    (enterItem bracket outer).Cuttable documentRegion := by
  unfold enterItem
  split
  · exact cuttable_skipKey.bind_pure _
  · exact cuttable_pure _

lemma whole_closing (bracket : Bracket) : documentRegion.Whole [bracket.closing] := by
  cases bracket with
  | list => exact whole_char (by decide)
  | object => exact whole_char (by decide)

lemma isEnd_unfinished (bracket : Bracket) : bracket.unfinished.isEnd := by
  cases bracket <;> rfl

lemma cuttable_enter (bracket : Bracket) (outer : List Bracket) :
    (enter bracket outer).Cuttable documentRegion := by
  refine cuttable_token rfl (isEnd_unfinished bracket) fun c => ?_
  dsimp only
  split
  case isTrue closes =>
    rw [closes]
    exact forwardFrom_advance (whole_closing bracket) (forward_pure _)
  case isFalse => exact (cuttable_enterItem _ _).forward.from c

lemma cuttable_skipValue (opened : List Bracket) : (skipValue opened).Cuttable documentRegion := by
  refine cuttable_token rfl rfl fun c => ?_
  split
  case h_1 none => cases none
  case h_2 bracket =>
    cases bracket
    exact forwardFrom_advance (whole_char (by decide)) (cuttable_enter _ _).forward
  case h_3 brace =>
    cases brace
    exact forwardFrom_advance (whole_char (by decide)) (cuttable_enter _ _).forward
  case h_4 same =>
    cases same
    exact (forwardFrom_skipPlain c).bind_pure _

lemma cuttable_skipRest (bracket : Bracket) (outer : List Bracket) :
    (skipRest bracket outer).Cuttable documentRegion := by
  refine cuttable_token rfl (isEnd_unfinished bracket) fun c => ?_
  dsimp only
  split
  case isTrue closes =>
    rw [closes]
    exact forwardFrom_advance (whole_closing bracket) (forward_pure _)
  case isFalse =>
    split
    case isTrue isComma =>
      exact forwardFrom_advance (whole_char (by simp [isComma])) (cuttable_enterItem _ _).forward
    case isFalse => exact (forward_fail _).from c

/-- **An ignored value may be cut**, however deep. -/
theorem cuttable_readIgnored : readIgnored.Cuttable documentRegion := by
  refine cuttable_loop (fun ahead => ?_) _
  cases ahead with
  | value opened => exact cuttable_skipValue opened
  | rest bracket outer => exact cuttable_skipRest bracket outer

end InView.Json
