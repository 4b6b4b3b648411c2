import InView.Json.Ignored
import InView.Proofs.Json.Bytes
import InView.Proofs.Json.Numeral

/-!
# Where readers fail

A failure knows how many bytes of the text stand behind its position.  A reader is `Placed` if these
are never more than the text has, so that there is such a position.  The number can come from far
behind, where the cause is only noticed after more has been read, and even be put together of two
parts of the text (`placed_readExponent`); for all other readers it is enough that every failure is
placed by what is left where it occurs.
-/

namespace InView.Json

namespace Reader

variable {α β σ : Type}

/-- Wherever a reader fails, no more bytes are left than there were. -/
def Placed (r : Reader α) : Prop := ∀ ⦃cs f⦄, r.run cs = .error f → f.left ≤ byteSize cs

lemma byteSize_le_of_suffix {rest cs : List Char} (h : rest <:+ cs) :
    byteSize rest ≤ byteSize cs := by
  obtain ⟨t, rfl⟩ := h
  rw [byteSize_append]
  exact Nat.le_add_left _ _

/-! ## Sequences -/

/-- A sequence is placed if its first part is, and its second part wherever the first has
succeeded. -/
lemma Placed.bind_of {r : Reader α} {f : α → Reader β} (hr : r.Placed)
    (hf : ∀ ⦃cs a rest g⦄, r.run cs = .ok (a, rest) → (f a).run rest = .error g →
      g.left ≤ byteSize cs) : (r >>= f).Placed := by
  intro cs g failed
  rw [run_bind] at failed
  split at failed
  case h_1 first =>
    cases failed
    exact hr first
  case h_2 first => exact hf first failed

lemma Placed.bind {r : Reader α} {f : α → Reader β} (hr : r.Placed) (hf : ∀ a, (f a).Placed) :
    (r >>= f).Placed :=
  hr.bind_of fun _ a _ _ first failed =>
    (hf a failed).trans (byteSize_le_of_suffix (r.suffix first))

lemma placed_pure (a : α) : (pure a : Reader α).Placed := nofun

/-- The value of a reader may be changed. -/
lemma Placed.bind_pure {r : Reader α} (hr : r.Placed) (f : α → β) :
    (r >>= fun a => pure (f a)).Placed := hr.bind fun _ => placed_pure _

/-! ## Failures and characters -/

lemma placed_failHere (cause : Cause) : (failHere cause : Reader α).Placed := by
  intro cs f failed
  cases failed
  exact le_rfl

lemma placed_failNext (cause : Cause) : (failNext cause : Reader α).Placed := by
  intro cs f failed
  cases failed
  exact Nat.sub_le _ _

lemma placed_peek : peek.Placed := nofun

lemma placed_advance : advance.Placed := nofun

lemma placed_takeWhile (kind : Char → Bool) : (takeWhile kind).Placed := nofun

lemma placed_blanks : blanks.Placed := nofun

lemma placed_peekToken : peekToken.Placed := nofun

lemma placed_takeIf (kind : Char → Bool) : (takeIf kind).Placed := by
  refine placed_peek.bind fun c => ?_
  split
  · exact placed_advance.bind_pure _
  · exact placed_pure _

lemma placed_finish : finish.Placed := by
  refine placed_peekToken.bind fun c => ?_
  split
  · exact placed_failNext _
  · exact placed_pure _

/-! ## Loops -/

/-- **A loop is placed if its steps are.** -/
theorem placed_loop {step : σ → Reader (Turn σ α)} {strict : ∀ s, (step s).Strict}
    (h : ∀ s, (step s).Placed) (s : σ) : (loop step strict s).Placed := by
  intro cs f failed
  change loopOn step strict s cs = .error f at failed
  fun_induction loopOn step strict s cs with
  | case1 s cs f first =>
      cases failed
      exact h s first
  | case2 => cases failed
  | case3 s cs s' between first _ ih =>
      exact (ih failed).trans (byteSize_le_of_suffix ((step s).suffix first))

end Reader

open Reader

variable {α σ : Type}

/-! ## Numbers -/

lemma placed_someDigits (atEnd : Cause) : (someDigits atEnd).Placed := by
  refine placed_peek.bind fun c => ?_
  split
  · exact placed_failHere _
  · split
    · exact placed_takeWhile _
    · exact placed_failNext _

lemma placed_wholeDigits (atEnd : Cause) : (wholeDigits atEnd).Placed := by
  refine (placed_takeIf _).bind fun zero => ?_
  split
  · refine placed_peek.bind fun c => ?_
    split
    · exact placed_failNext _
    · exact placed_pure _
  · exact placed_someDigits _

lemma placed_exponentSign : exponentSign.Placed := by
  refine (placed_takeIf _).bind fun minus => ?_
  split
  · exact placed_pure _
  · exact (placed_takeIf _).bind_pure _

lemma placed_scaledNumber (negative : Bool) (significand : Nat) (exponent : Int) :
    (scaledNumber negative significand exponent).Placed := by
  unfold scaledNumber
  split
  · exact placed_pure _
  · exact placed_failHere _

/-- The digits that are not absorbed are the last of them. -/
lemma absorb_suffix (limit n : Nat) (ds : List Char) : (absorb limit n ds).2 <:+ ds := by
  induction ds generalizing n with
  | nil => exact List.suffix_rfl
  | cons d ds ih =>
      rw [absorb]
      split
      · exact (ih _).trans (List.suffix_cons d ds)
      · exact List.suffix_rfl

/-- An exponent that is out of bounds is refused within its digits, although all of them have been
read. -/
lemma placed_readExponent (negative : Bool) (significand : Nat) (exponent : Int) :
    (readExponent negative significand exponent).Placed := by
  refine placed_exponentSign.bind fun down => (placed_someDigits _).bind_of ?_
  intro cs ds rest f digits failed
  obtain ⟨rfl, -, -⟩ := someDigits_split digits
  have last := absorb_suffix exponentLimit 0 ds
  generalize absorb exponentLimit 0 ds = absorbed at *
  split at failed
  · refine (placed_scaledNumber _ _ _ failed).trans (byteSize_le_of_suffix ?_)
    exact List.suffix_append ds rest
  case h_2 d left =>
    split at failed
    · cases failed
      have behind : byteSize left ≤ byteSize ds :=
        byteSize_le_of_suffix ((List.suffix_cons d left).trans last)
      simp only [Failure.here, byteSize_append]
      omega
    · cases failed

lemma placed_readFraction (negative : Bool) (significand surplus : Nat) :
    (readFraction negative significand surplus).Placed := by
  refine (placed_someDigits _).bind fun digits => (placed_takeIf _).bind fun mark => ?_
  split
  · exact placed_readExponent _ _ _
  · exact placed_scaledNumber _ _ _

lemma placed_readUnsigned (negative : Bool) : (readUnsigned negative).Placed := by
  refine (placed_wholeDigits _).bind fun digits => (placed_takeIf _).bind fun point => ?_
  split
  · exact placed_readFraction _ _ _
  · refine (placed_takeIf _).bind fun mark => ?_
    split
    · exact placed_readExponent _ _ _
    · split
      · exact placed_pure _
      · exact placed_scaledNumber _ _ _

lemma placed_readNumber : readNumber.Placed := (placed_takeIf _).bind placed_readUnsigned

/-! ## Literals -/

/-- Where digits are owed, no more bytes are passed than are left. -/
lemma placed_hexDigits (owed value : Nat) : (hexDigits owed value).Placed := by
  induction owed generalizing value with
  | zero => exact placed_pure _
  | succ owed ih =>
      refine placed_peek.bind fun c => ?_
      split
      · exact placed_advance.bind fun _ => ih _
      · intro cs f failed
        cases failed
        rw [missingDigits]
        split
        · exact Nat.zero_le _
        · exact Nat.sub_le _ _

lemma placed_codeUnit : codeUnit.Placed := placed_hexDigits 4 0

lemma placed_pairMark (mark : Char) : (pairMark mark).Placed := by
  refine placed_peek.bind fun c => ?_
  split
  · exact placed_failHere _
  · split
    · exact placed_advance
    · exact placed_failNext _

lemma placed_trailingPart (leading : Nat) : (trailingPart leading).Placed := by
  refine (placed_pairMark _).bind fun _ => (placed_pairMark _).bind fun _ =>
    placed_codeUnit.bind fun unit => ?_
  split
  · exact placed_pure _
  · exact placed_failHere _

lemma placed_numberedChar : numberedChar.Placed := by
  refine placed_codeUnit.bind fun unit => ?_
  split
  · exact placed_failHere _
  · split
    · exact placed_trailingPart _
    · exact placed_pure _

lemma placed_escapedChar : escapedChar.Placed := by
  refine placed_peek.bind fun c => ?_
  split
  · exact placed_failHere _
  · exact placed_advance.bind fun _ => placed_numberedChar
  · split
    · exact placed_advance.bind_pure _
    · exact placed_failNext _

lemma placed_readLiteral : readLiteral.Placed := by
  refine placed_loop (fun read => placed_peek.bind fun c => ?_) _
  split
  · exact placed_failHere _
  · exact placed_advance.bind_pure _
  · exact placed_advance.bind fun _ => placed_escapedChar.bind_pure _
  · refine placed_advance.bind fun _ => ?_
    split
    · exact placed_failHere _
    · exact placed_pure _

lemma placed_skipEscape : skipEscape.Placed := by
  refine placed_peek.bind fun c => ?_
  split
  · exact placed_failHere _
  · exact placed_advance.bind fun _ => placed_codeUnit.bind_pure _
  · split
    · exact placed_advance
    · exact placed_failNext _

lemma placed_skipLiteral : skipLiteral.Placed := by
  refine placed_loop (fun _ => placed_peek.bind fun c => ?_) _
  split
  · exact placed_failHere _
  · exact placed_advance.bind_pure _
  · exact placed_advance.bind fun _ => placed_skipEscape.bind_pure _
  · split
    · exact placed_failHere _
    · exact placed_advance.bind_pure _

/-! ## Values -/

lemma placed_readWord (word : List Char) : (readWord word).Placed := by
  induction word with
  | nil => exact placed_pure _
  | cons letter word ih =>
      refine placed_peek.bind fun c => ?_
      split
      · exact placed_failHere _
      · split
        · exact placed_advance.bind fun _ => ih
        · exact placed_failNext _

lemma placed_describeValue : describeValue.Placed := by
  refine placed_peek.bind fun c => ?_
  split
  · exact placed_failHere _
  · exact (placed_readWord _).bind_pure _
  · exact (placed_readWord _).bind_pure _
  · exact (placed_readWord _).bind_pure _
  · exact placed_advance.bind fun _ => placed_readLiteral.bind_pure _
  · exact placed_pure _
  · exact placed_pure _
  · split
    · exact placed_readNumber.bind_pure _
    · exact placed_failNext _

lemma placed_refuse (expected : String) : (refuse expected : Reader α).Placed :=
  placed_describeValue.bind fun _ => placed_failHere _

lemma placed_readBinary64 : readBinary64.Placed := by
  refine placed_peekToken.bind fun c => ?_
  split
  · exact placed_failHere _
  · split
    · exact placed_readNumber.bind_pure _
    · exact placed_refuse _

/-! ## Lists -/

lemma placed_itemBehindComma : itemBehindComma.Placed := by
  refine placed_peekToken.bind fun c => ?_
  split
  · exact placed_failHere _
  · exact placed_failNext _
  · exact placed_pure _

lemma placed_nextItem (first : Bool) : (nextItem first).Placed := by
  refine placed_peekToken.bind fun c => ?_
  split
  · exact placed_failHere _
  · exact placed_pure _
  · split
    · exact placed_pure _
    · split
      · exact placed_advance.bind fun _ => placed_itemBehindComma
      · exact placed_failNext _

lemma placed_readItem (before : Nat) (expected : String) {item : Reader α} (h : item.Placed) :
    (readItem before expected item).Placed := by
  refine (placed_nextItem _).bind fun more => ?_
  split
  · exact h
  · exact placed_advance.bind fun _ => placed_failHere _

lemma placed_closeList : closeList.Placed := by
  refine placed_peekToken.bind fun c => ?_
  split
  · exact placed_failHere _
  · exact placed_advance
  · refine placed_advance.bind fun _ => placed_peekToken.bind fun c => ?_
    split
    · exact placed_failNext _
    · exact placed_failNext _
  · exact placed_failNext _

/-! ## Objects -/

lemma placed_readKey : readKey.Placed := by
  refine placed_peek.bind fun c => ?_
  split
  · exact placed_advance.bind fun _ => placed_readLiteral
  · exact placed_failNext _

lemma placed_keyBehindComma : keyBehindComma.Placed := by
  refine placed_peekToken.bind fun c => ?_
  split
  · exact placed_failHere _
  · exact placed_failNext _
  · exact placed_readKey

lemma placed_nextKey (first : Bool) : (nextKey first).Placed := by
  refine placed_peekToken.bind fun c => ?_
  split
  · exact placed_failHere _
  · exact placed_advance.bind_pure _
  · split
    · exact placed_readKey.bind_pure _
    · split
      · exact placed_advance.bind fun _ => placed_keyBehindComma.bind_pure _
      · exact placed_failNext _

lemma placed_colon : colon.Placed := by
  refine placed_peekToken.bind fun c => ?_
  split
  · exact placed_failHere _
  · split
    · exact placed_advance
    · exact placed_failNext _

lemma placed_refuseObject (cause : Cause) : (refuseObject cause : Reader α).Placed :=
  placed_blanks.bind fun _ => (placed_takeIf _).bind fun _ => placed_failHere _

lemma placed_readMembers {member : σ → String → Reader σ} (h : ∀ s key, (member s key).Placed)
    (start : σ) : (readMembers member start).Placed := by
  refine placed_loop (fun s => (placed_nextKey _).bind fun key? => ?_) _
  split
  · exact placed_pure _
  · exact (h _ _).bind_pure _

lemma placed_readField (name : String) (held : Option α) {value : Reader α} (h : value.Placed) :
    (readField name held value).Placed := by
  unfold readField
  split
  · exact placed_refuseObject _
  · exact placed_colon.bind fun _ => h.bind_pure _

lemma placed_requireField (name : String) (held : Option α) :
    (requireField name held).Placed := by
  cases held with
  | none => exact placed_failHere _
  | some a => exact placed_pure _

/-! ## Ignored values -/

lemma placed_skipExponent : skipExponent.Placed := by
  refine (placed_takeIf _).bind fun mark => ?_
  split
  · exact placed_exponentSign.bind fun _ => (placed_someDigits _).bind_pure _
  · exact placed_pure _

lemma placed_skipNumber : skipNumber.Placed := by
  refine (placed_takeIf _).bind fun _ => (placed_wholeDigits _).bind fun _ =>
    (placed_takeIf _).bind fun point => ?_
  split
  · exact (placed_someDigits _).bind fun _ => placed_skipExponent
  · exact placed_skipExponent

lemma placed_skipPlain (c : Char) : (skipPlain c).Placed := by
  unfold skipPlain
  split
  · exact placed_advance.bind fun _ => placed_skipLiteral
  · exact placed_readWord _
  · exact placed_readWord _
  · exact placed_readWord _
  · split
    · exact placed_skipNumber
    · exact placed_failNext _

lemma placed_skipKey : skipKey.Placed := by
  refine placed_peekToken.bind fun c => ?_
  split
  · exact placed_failHere _
  · exact placed_advance.bind fun _ => placed_skipLiteral.bind fun _ => placed_colon
  · exact placed_failNext _

lemma placed_enterItem (bracket : Bracket) (outer : List Bracket) :
    (enterItem bracket outer).Placed := by
  unfold enterItem
  split
  · exact placed_skipKey.bind_pure _
  · exact placed_pure _

lemma placed_enter (bracket : Bracket) (outer : List Bracket) : (enter bracket outer).Placed := by
  refine placed_peekToken.bind fun c => ?_
  split
  · exact placed_failHere _
  · split
    · exact placed_advance.bind_pure _
    · exact placed_enterItem _ _

lemma placed_skipValue (opened : List Bracket) : (skipValue opened).Placed := by
  refine placed_peekToken.bind fun c => ?_
  split
  · exact placed_failHere _
  · exact placed_advance.bind fun _ => placed_enter _ _
  · exact placed_advance.bind fun _ => placed_enter _ _
  · exact (placed_skipPlain _).bind_pure _

lemma placed_skipRest (bracket : Bracket) (outer : List Bracket) :
    (skipRest bracket outer).Placed := by
  refine placed_peekToken.bind fun c => ?_
  split
  · exact placed_failHere _
  · split
    · exact placed_advance.bind_pure _
    · split
      · exact placed_advance.bind fun _ => placed_enterItem _ _
      · exact placed_failNext _

lemma placed_readIgnored : readIgnored.Placed := by
  refine placed_loop (fun ahead => ?_) _
  cases ahead with
  | value opened => exact placed_skipValue opened
  | rest bracket outer => exact placed_skipRest bracket outer

end InView.Json
