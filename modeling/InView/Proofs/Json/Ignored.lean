import InView.Json.Ignored
import InView.Proofs.Json.Container

/-!
# The grammar of ignored values

`ValueText` is any well-formed value: a word, a numeral, a literal, or a container of such values,
to any depth.  A numeral need not denote a number, and a literal need not spell a text.

`readIgnored` does not follow the nesting by recursion, but keeps the brackets that are still open
on a stack.  Behind a value it must find what closes all of them (`Closes`), and this carries the
proof that it accepts exactly the well-formed values (`readIgnored_accepts`): at every step, what
has been passed over and what is still read make up a value and the text that closes the stack.
-/

namespace InView.Json

open Reader

/-! ## Values -/

/-- The character that opens a container. -/
def Bracket.opening : Bracket → Char
  | .list => '['
  | .object => '{'

/-- A value that is no container. -/
inductive PlainText : List Char → Prop
  | null : PlainText "null".toList
  | true : PlainText "true".toList
  | false : PlainText "false".toList
  | literal {t : List Char} (literal : SkippedLiteral t) : PlainText t
  | numeral (n : NumeralForm) : PlainText n.text

/-- What belongs to an item of a container in front of its value: the key and the colon in an
object, and nothing in a list. -/
def Introduces : Bracket → List Char → Prop
  | .list, t => t = []
  | .object, t => ∃ key b b', SkippedLiteral key ∧ Blanks b ∧ Blanks b' ∧
      t = key ++ (b ++ ':' :: b')

/-- An item of a container taken apart: what introduces its value, and the value. -/
structure Item where
  front : List Char
  value : List Char

/-- The characters of an item. -/
def Item.text (item : Item) : List Char := item.front ++ item.value

/-- The well-formed values. -/
inductive ValueText : List Char → Prop
  | plain {t : List Char} (isPlain : PlainText t) : ValueText t
  | container {bracket : Bracket} {items : List Item} {t : List Char}
      (introduced : ∀ item ∈ items, Introduces bracket item.front)
      (values : ∀ item ∈ items, ValueText item.value)
      (isItems : ItemsText bracket.closing true (items.map Item.text) t) :
      ValueText (bracket.opening :: t)

/-! ## Plain values -/

lemma readWord_accepts (word : List Char) :
    (readWord word).Accepts (fun _ t => t = word) AnyRest := by
  induction word with
  | nil =>
      refine ⟨fun run => ?_, ?_⟩
      · cases run
        exact ⟨[], rfl, rfl⟩
      · rintro _ t rest rfl -
        rfl
  | cons letter word ih =>
      refine ⟨fun {cs u rest} run => ?_, ?_⟩
      · rw [readWord, run_peek_bind] at run
        cases cs with
        | nil => cases run
        | cons c cs =>
            simp only [List.head?_cons] at run
            split at run
            case isTrue same =>
              obtain ⟨t, rfl, rfl⟩ := ih.sound run
              exact ⟨letter :: t, by rw [same]; rfl, rfl⟩
            case isFalse => cases run
      · rintro _ t rest rfl -
        rw [readWord, run_peek_bind]
        simp only [List.cons_append, List.head?_cons, if_true, run_advance_bind]
        exact ih.complete rfl trivial

lemma run_skipExponent {exponent : Option ExponentForm} {rest : List Char}
    (hrest : ExponentEnds exponent rest) :
    skipExponent.run (NumeralForm.exponentText exponent ++ rest) = .ok ((), rest) := by
  rw [skipExponent]
  cases exponent with
  | none =>
      rw [NumeralForm.exponentText, List.nil_append, run_bind_ok hrest.noMarkAhead]
      rfl
  | some e =>
      have sign : exponentSign.run (e.sign ++ (e.digits ++ rest)) =
          .ok (decide (e.sign = ['-']), e.digits ++ rest) :=
        exponentSign_accepts.complete ⟨e.isSign, by simp⟩ (e.isDigits.noSignAhead rest)
      rw [NumeralForm.exponentText, run_bind_ok (e.run_mark rest), if_pos rfl, run_bind_ok sign,
        run_bind_ok (run_someDigits .invalidNumber e.isDigits hrest.digit), run_pure]

lemma skipExponent_split {cs rest : List Char} (ends : NoDigitAhead cs)
    (run : skipExponent.run cs = .ok ((), rest)) :
    ∃ exponent, cs = NumeralForm.exponentText exponent ++ rest ∧ ExponentEnds exponent rest := by
  rw [skipExponent] at run
  obtain ⟨mark, between, markRun, behind⟩ := run_bind_eq_ok.mp run
  clear run
  cases mark with
  | true =>
      obtain ⟨c, isMark, rfl⟩ := takeIf_true markRun
      obtain ⟨down, between, sign, digitsBehind⟩ := run_bind_eq_ok.mp behind
      obtain ⟨digits, left, digitsRun, last⟩ := run_bind_eq_ok.mp digitsBehind
      cases last
      obtain ⟨signText, rfl, isSign, -⟩ := exponentSign_accepts.sound sign
      obtain ⟨rfl, isDigits, ends'⟩ := someDigits_split digitsRun
      exact ⟨some ⟨c, signText, digits, isMark, isSign, isDigits⟩,
        by simp [NumeralForm.exponentText, ExponentForm.text], ends', by simp⟩
  | false =>
      cases behind
      obtain ⟨rfl, noMark⟩ := takeIf_false markRun
      exact ⟨none, rfl, ends, fun _ => noMark⟩

/-- What was passed over as a number is a numeral, and what follows does not belong to it. -/
lemma skipNumber_split {cs rest : List Char} (run : skipNumber.run cs = .ok ((), rest)) :
    ∃ n : NumeralForm, cs = n.text ++ rest ∧ n.Ends rest := by
  rw [skipNumber] at run
  obtain ⟨negative, afterSign, sign, behindSign⟩ := run_bind_eq_ok.mp run
  obtain ⟨whole, afterWhole, wholeRun, behindWhole⟩ := run_bind_eq_ok.mp behindSign
  obtain ⟨point, afterPoint, pointRun, behindPoint⟩ := run_bind_eq_ok.mp behindWhole
  obtain ⟨rfl, isWhole, ends⟩ := wholeDigits_split wholeRun
  rw [sign_split sign]
  cases point with
  | true =>
      obtain ⟨c, isPoint, rfl⟩ := takeIf_true pointRun
      obtain rfl : c = '.' := by simpa using isPoint
      obtain ⟨digits, afterDigits, digitsRun, last⟩ := run_bind_eq_ok.mp behindPoint
      obtain ⟨rfl, isDigits, ends'⟩ := someDigits_split digitsRun
      obtain ⟨exponent, rfl, behind⟩ := skipExponent_split ends' last
      refine ⟨⟨negative, whole, some digits, exponent, isWhole, by simpa using isDigits⟩, ?_,
        behind, by simp⟩
      simp only [NumeralForm.text, NumeralForm.fractionText, List.append_assoc, List.cons_append]
  | false =>
      obtain ⟨rfl, noPoint⟩ := takeIf_false pointRun
      obtain ⟨exponent, rfl, behind⟩ := skipExponent_split ends behindPoint
      refine ⟨⟨negative, whole, none, exponent, isWhole, by simp⟩, ?_, behind, ?_⟩
      · simp only [NumeralForm.text, NumeralForm.fractionText, List.append_assoc, List.nil_append]
      · rintro - rfl c mem
        simpa using noPoint c mem

lemma run_skipNumber (n : NumeralForm) {rest : List Char} (ends : n.Ends rest) :
    skipNumber.run (n.text ++ rest) = .ok ((), rest) := by
  have whole : (wholeDigits .invalidNumber).run (n.whole ++
      (NumeralForm.fractionText n.fraction ++ (NumeralForm.exponentText n.exponent ++ rest))) =
        .ok (n.whole, NumeralForm.fractionText n.fraction ++
          (NumeralForm.exponentText n.exponent ++ rest)) :=
    run_wholeDigits _ n.isWhole ends.noDigitBehindWhole
  rw [skipNumber, run_bind_ok (run_sign n rest), run_bind_ok whole]
  cases fraction : n.fraction with
  | some digits =>
      have point : (takeIf (· = '.')).run
          ('.' :: (digits ++ (NumeralForm.exponentText n.exponent ++ rest))) =
            .ok (true, digits ++ (NumeralForm.exponentText n.exponent ++ rest)) :=
        run_takeIf (by decide) _
      have run_digits : (someDigits .invalidNumber).run
          (digits ++ (NumeralForm.exponentText n.exponent ++ rest)) =
            .ok (digits, NumeralForm.exponentText n.exponent ++ rest) :=
        run_someDigits _ (n.isFraction digits fraction) ends.noDigitAhead
      simp only [NumeralForm.fractionText, List.cons_append, run_bind_ok point, if_true,
        run_bind_ok run_digits]
      exact run_skipExponent ends.toExponentEnds
  | none =>
      simp only [NumeralForm.fractionText, List.nil_append,
        run_bind_ok (run_takeIf_of_not (ends.noPoint fraction)), Bool.false_eq_true, if_false]
      exact run_skipExponent ends.toExponentEnds

lemma skipNumber_accepts :
    skipNumber.Accepts (fun _ t => ∃ n : NumeralForm, t = n.text) NumeralEnds where
  sound run := by
    obtain ⟨n, split, -⟩ := skipNumber_split run
    exact ⟨n.text, split, n, rfl⟩
  complete := by
    rintro _ t rest ⟨n, rfl⟩ hrest
    exact run_skipNumber n (hrest.ends n)

/-- A numeral begins like one. -/
lemma NumeralForm.begins (n : NumeralForm) : ∃ c cs, n.text = c :: cs ∧ beginsNumber c := by
  rw [text]
  cases n.negative with
  | true => exact ⟨'-', _, rfl, by decide⟩
  | false =>
      obtain ⟨d, ds, whole⟩ := List.exists_cons_of_ne_nil n.isWhole.1.1
      have digit : d.isDigit := n.isWhole.1.2 d (by simp [whole])
      exact ⟨d, _, by rw [whole]; rfl, by simp [beginsNumber, digit]⟩

lemma beginsNumber_ne {c d : Char} (h : beginsNumber c) (hd : beginsNumber d = false) : c ≠ d := by
  rintro rfl
  simp [h] at hd

lemma not_isBlank_of_beginsNumber {c : Char} (h : beginsNumber c) : isBlank c = false := by
  simp only [isBlank, Bool.or_eq_false_iff, decide_eq_false_iff_not]
  exact ⟨⟨⟨beginsNumber_ne h (by decide), beginsNumber_ne h (by decide)⟩,
    beginsNumber_ne h (by decide)⟩, beginsNumber_ne h (by decide)⟩

lemma NumeralForm.beginsValue (n : NumeralForm) : BeginsValue n.text := by
  obtain ⟨c, cs, text, begins⟩ := n.begins
  rw [text]
  exact beginsValue_cons (not_isBlank_of_beginsNumber begins)
    (beginsNumber_ne begins (by decide)) cs

/-- What was passed over in front of a character that opens no container is a plain value. -/
lemma skipPlain_split {c : Char} {cs rest : List Char}
    (run : (skipPlain c).run (c :: cs) = .ok ((), rest)) :
    ∃ t, c :: cs = t ++ rest ∧ PlainText t := by
  unfold skipPlain at run
  split at run
  case h_1 =>
    obtain ⟨t, rfl, literal⟩ := skipLiteral_accepts.sound run
    exact ⟨'"' :: t, rfl, .literal literal⟩
  case h_2 =>
    obtain ⟨t, split, rfl⟩ := (readWord_accepts _).sound run
    exact ⟨_, split, .null⟩
  case h_3 =>
    obtain ⟨t, split, rfl⟩ := (readWord_accepts _).sound run
    exact ⟨_, split, .true⟩
  case h_4 =>
    obtain ⟨t, split, rfl⟩ := (readWord_accepts _).sound run
    exact ⟨_, split, .false⟩
  case h_5 =>
    split at run
    case isTrue =>
      obtain ⟨t, split, n, rfl⟩ := skipNumber_accepts.sound run
      exact ⟨_, split, .numeral n⟩
    case isFalse => cases run

/-- A plain value begins with a character that opens no container, and is passed over. -/
lemma run_skipPlain {t : List Char} (h : PlainText t) {rest : List Char}
    (hrest : NumeralEnds rest) :
    ∃ c cs, t = c :: cs ∧ isBlank c = false ∧ c ≠ ']' ∧ c ≠ '[' ∧ c ≠ '{' ∧
      (skipPlain c).run (t ++ rest) = .ok ((), rest) := by
  cases h with
  | null =>
      exact ⟨'n', _, rfl, by decide, by decide, by decide, by decide,
        (readWord_accepts _).complete rfl trivial⟩
  | true =>
      exact ⟨'t', _, rfl, by decide, by decide, by decide, by decide,
        (readWord_accepts _).complete rfl trivial⟩
  | false =>
      exact ⟨'f', _, rfl, by decide, by decide, by decide, by decide,
        (readWord_accepts _).complete rfl trivial⟩
  | literal literal =>
      obtain ⟨chars, all, rfl⟩ := literal
      exact ⟨'"', _, rfl, by decide, by decide, by decide, by decide,
        skipLiteral_accepts.complete ⟨chars, all, rfl⟩ trivial⟩
  | numeral n =>
      obtain ⟨c, cs, split, begins⟩ := n.begins
      refine ⟨c, cs, split, not_isBlank_of_beginsNumber begins, beginsNumber_ne begins (by decide),
        beginsNumber_ne begins (by decide), beginsNumber_ne begins (by decide), ?_⟩
      have quote : c ≠ '"' := beginsNumber_ne begins (by decide)
      have letter_n : c ≠ 'n' := beginsNumber_ne begins (by decide)
      have letter_t : c ≠ 't' := beginsNumber_ne begins (by decide)
      have letter_f : c ≠ 'f' := beginsNumber_ne begins (by decide)
      rw [skipPlain, if_pos begins]
      · exact skipNumber_accepts.complete ⟨n, rfl⟩ hrest
      all_goals assumption

/-! ## Containers -/

lemma bracket_closing (bracket : Bracket) :
    bracket.closing = ']' ∨ bracket.closing = '}' := by
  cases bracket with
  | list => exact .inl rfl
  | object => exact .inr rfl

lemma not_isBlank_closing (bracket : Bracket) : isBlank bracket.closing = false := by
  cases bracket <;> rfl

/-- What stands behind the opening bracket of a container of well-formed values, or behind one of
its items. -/
def ContainerText (bracket : Bracket) (first : Bool) (t : List Char) : Prop :=
  ∃ items : List Item, (∀ item ∈ items, Introduces bracket item.front) ∧
    (∀ item ∈ items, ValueText item.value) ∧
    ItemsText bracket.closing first (items.map Item.text) t

lemma ContainerText.close (bracket : Bracket) (first : Bool) {b : List Char} (blanks : Blanks b) :
    ContainerText bracket first (b ++ [bracket.closing]) :=
  ⟨[], by simp, by simp, .close blanks⟩

lemma ContainerText.next {bracket : Bracket} {first : Bool} {lead front v t : List Char}
    (isLead : LeadText first lead) (introduces : Introduces bracket front) (value : ValueText v)
    (behind : ContainerText bracket false t) :
    ContainerText bracket first (lead ++ (front ++ v ++ t)) := by
  obtain ⟨items, introduced, values, isItems⟩ := behind
  exact ⟨⟨front, v⟩ :: items, List.forall_mem_cons.mpr ⟨introduces, introduced⟩,
    List.forall_mem_cons.mpr ⟨value, values⟩, .next isLead isItems⟩

/-- What closes all containers of a stack, behind a value inside of them. -/
inductive Closes : List Bracket → List Char → Prop
  | nil : Closes [] []
  | cons {bracket : Bracket} {outer : List Bracket} {t u : List Char}
      (rest : ContainerText bracket false t) (closes : Closes outer u) :
      Closes (bracket :: outer) (t ++ u)

/-- Blanks behind what stands in front of a value belong to that. -/
lemma introduce {bracket : Bracket} {first : Bool} {lead front b : List Char}
    (isLead : LeadText first lead) (introduces : Introduces bracket front) (blanks : Blanks b) :
    ∃ lead' front', LeadText first lead' ∧ Introduces bracket front' ∧
      lead ++ (front ++ b) = lead' ++ front' := by
  cases bracket with
  | list =>
      obtain rfl : front = [] := introduces
      exact ⟨lead ++ b, [], isLead.append blanks, rfl, by simp⟩
  | object =>
      obtain ⟨key, b₁, b₂, literal, blanks₁, blanks₂, rfl⟩ := introduces
      exact ⟨lead, _, isLead, ⟨key, b₁, b₂ ++ b, literal, blanks₁, blanks₂.append blanks, rfl⟩,
        by simp⟩

/-! ## Steps -/

lemma skipKey_accepts :
    skipKey.Accepts (fun _ => Spaced fun t => ∃ key b, SkippedLiteral key ∧ Blanks b ∧
      t = key ++ (b ++ [':'])) AnyRest where
  sound := by
    intro cs _ rest run
    rw [skipKey, run_peekToken_bind, run_peek_bind] at run
    obtain ⟨b, blanks, split⟩ := exists_blanks cs
    split at run
    case h_1 => cases run
    case h_2 quote =>
      obtain ⟨left, ahead⟩ := List.head?_eq_some_iff.mp quote
      rw [ahead, run_advance_bind] at run
      obtain ⟨_, between, keyRun, colonRun⟩ := run_bind_eq_ok.mp run
      obtain ⟨quoted, rfl, literal⟩ := skipLiteral_accepts.sound keyRun
      obtain ⟨_, rfl, b', blanks', rfl⟩ := colon_accepts.sound colonRun
      refine ⟨b ++ ('"' :: quoted ++ (b' ++ [':'])), ?_,
        spaced_of blanks ⟨_, b', literal, blanks', rfl⟩⟩
      rw [split, ahead]
      simp
    case h_3 => cases run
  complete := by
    rintro _ t rest ⟨b, _, rfl, blanks, key, b', literal, blanks', rfl⟩ -
    obtain ⟨chars, all, rfl⟩ := literal
    have keyRun : skipLiteral.run (chars.flatten ++ ['"'] ++ (b' ++ [':'] ++ rest)) =
        .ok ((), b' ++ [':'] ++ rest) :=
      skipLiteral_accepts.complete ⟨chars, all, rfl⟩ trivial
    have colonRun : colon.run (b' ++ [':'] ++ rest) = .ok ((), rest) :=
      colon_accepts.complete ⟨b', blanks', rfl⟩ trivial
    rw [skipKey, run_peekToken_bind, run_peek_bind, List.append_assoc, List.cons_append,
      List.cons_append, dropWhile_token blanks (by decide)]
    simp only [List.head?_cons, run_advance_bind, List.append_assoc] at *
    rw [run_bind_ok keyRun, colonRun]

/-- An item was entered, if its value comes next and what introduces it was passed over. -/
lemma enterItem_split {bracket : Bracket} {outer : List Bracket} {cs rest : List Char}
    {turn : Turn Ahead Unit} (run : (enterItem bracket outer).run cs = .ok (turn, rest)) :
    turn = .more (.value (bracket :: outer)) ∧
      ∃ b front, Blanks b ∧ Introduces bracket front ∧ cs = b ++ (front ++ rest) := by
  cases bracket with
  | list =>
      cases run
      exact ⟨rfl, [], [], blanks_nil, rfl, rfl⟩
  | object =>
      rw [enterItem] at run
      obtain ⟨_, between, keyRun, last⟩ := run_bind_eq_ok.mp run
      cases last
      obtain ⟨_, rfl, b, _, rfl, blanks, key, b', literal, blanks', rfl⟩ :=
        skipKey_accepts.sound keyRun
      exact ⟨rfl, b, _, blanks, ⟨key, b', [], literal, blanks', blanks_nil, rfl⟩, by simp⟩

lemma run_enterItem {bracket : Bracket} (outer : List Bracket) {b front : List Char}
    (blanks : Blanks b) (introduces : Introduces bracket front) (cs : List Char) :
    ∃ b', Blanks b' ∧ (enterItem bracket outer).run (b ++ (front ++ cs)) =
      .ok (.more (.value (bracket :: outer)), b' ++ cs) := by
  cases bracket with
  | list =>
      obtain rfl : front = [] := introduces
      exact ⟨b, blanks, rfl⟩
  | object =>
      obtain ⟨key, b₁, b₂, literal, blanks₁, blanks₂, rfl⟩ := introduces
      have keyRun : skipKey.run (b ++ (key ++ (b₁ ++ [':'])) ++ (b₂ ++ cs)) =
          .ok ((), b₂ ++ cs) :=
        skipKey_accepts.complete (spaced_of blanks ⟨key, b₁, literal, blanks₁, rfl⟩) trivial
      refine ⟨b₂, blanks₂, ?_⟩
      simp only [List.append_assoc, List.cons_append, List.nil_append] at keyRun ⊢
      exact run_bind_ok keyRun _

/-- Goes to the next item of a container, or over its closing bracket. -/
def stepItem (bracket : Bracket) (outer : List Bracket) (first : Bool) :
    Reader (Turn Ahead Unit) :=
  if first then enter bracket outer else skipRest bracket outer

/-- The next item was entered, or the container was left. -/
lemma stepItem_split {bracket : Bracket} {outer : List Bracket} {first : Bool}
    {cs rest : List Char} {turn : Turn Ahead Unit}
    (run : (stepItem bracket outer first).run cs = .ok (turn, rest)) :
    (turn = behindValue outer ∧ ∃ b, Blanks b ∧ cs = b ++ bracket.closing :: rest) ∨
      (turn = .more (.value (bracket :: outer)) ∧
        ∃ lead front, LeadText first lead ∧ Introduces bracket front ∧
          cs = lead ++ (front ++ rest)) := by
  obtain ⟨b, blanks, split⟩ := exists_blanks cs
  cases first with
  | true =>
      rw [stepItem, if_pos rfl, enter, run_peekToken_bind, run_peek_bind] at run
      split at run
      case h_1 => cases run
      case h_2 c first =>
        obtain ⟨left, ahead⟩ := List.head?_eq_some_iff.mp first
        rw [ahead] at run split
        split at run
        case isTrue close =>
          cases run
          exact .inl ⟨rfl, b, blanks, by rw [split, close, List.tail_cons]⟩
        case isFalse =>
          obtain ⟨entered, b', front, blanks', introduces, split'⟩ := enterItem_split run
          exact .inr ⟨entered, b ++ b', front, leadText_true.mpr (blanks.append blanks'),
            introduces, by rw [split, split', List.append_assoc]⟩
  | false =>
      rw [stepItem, if_neg Bool.false_ne_true, skipRest, run_peekToken_bind, run_peek_bind] at run
      split at run
      case h_1 => cases run
      case h_2 c first =>
        obtain ⟨left, ahead⟩ := List.head?_eq_some_iff.mp first
        rw [ahead] at run split
        split at run
        case isTrue close =>
          cases run
          exact .inl ⟨rfl, b, blanks, by rw [split, close, List.tail_cons]⟩
        case isFalse =>
          split at run
          case isTrue comma =>
            rw [run_advance_bind] at run
            obtain ⟨entered, b', front, blanks', introduces, split'⟩ := enterItem_split run
            refine .inr ⟨entered, b ++ ',' :: b', front,
              leadText_false.mpr ⟨b, b', blanks, blanks', rfl⟩, introduces, ?_⟩
            rw [split, comma, split', List.append_assoc, List.cons_append]
          case isFalse => cases run

lemma run_stepItem_close (bracket : Bracket) (outer : List Bracket) (first : Bool)
    {b : List Char} (blanks : Blanks b) (rest : List Char) :
    (stepItem bracket outer first).run (b ++ bracket.closing :: rest) =
      .ok (behindValue outer, rest) := by
  rw [stepItem]
  cases first with
  | true =>
      rw [if_pos rfl, enter, run_peekToken_bind, run_peek_bind,
        dropWhile_token blanks (not_isBlank_closing bracket)]
      simp only [List.head?_cons, if_true, run_advance_bind, run_pure]
  | false =>
      rw [if_neg Bool.false_ne_true, skipRest, run_peekToken_bind, run_peek_bind,
        dropWhile_token blanks (not_isBlank_closing bracket)]
      simp only [List.head?_cons, if_true, run_advance_bind, run_pure]

/-- An item does not begin with the closing bracket of its container. -/
lemma Introduces.begins {bracket : Bracket} {front v : List Char}
    (h : Introduces bracket front) (begins : BeginsValue v) (rest : List Char) :
    ∃ c cs, front ++ (v ++ rest) = c :: cs ∧ isBlank c = false ∧ c ≠ bracket.closing := by
  cases bracket with
  | list =>
      obtain rfl : front = [] := h
      obtain ⟨c, cs, rfl, noBlank, noClose⟩ := begins
      exact ⟨c, _, rfl, noBlank, noClose⟩
  | object =>
      obtain ⟨key, b, b', ⟨chars, -, rfl⟩, -, -, rfl⟩ := h
      exact ⟨'"', _, rfl, by decide, by decide⟩

lemma run_stepItem {bracket : Bracket} (outer : List Bracket) {first : Bool}
    {lead front v : List Char} (isLead : LeadText first lead)
    (introduces : Introduces bracket front) (begins : BeginsValue v) (rest : List Char) :
    ∃ b, Blanks b ∧ (stepItem bracket outer first).run (lead ++ (front ++ (v ++ rest))) =
      .ok (.more (.value (bracket :: outer)), b ++ (v ++ rest)) := by
  rw [stepItem]
  cases first with
  | true =>
      obtain ⟨c, cs, split, noBlank, noClose⟩ := introduces.begins begins rest
      obtain ⟨b, blanks, entered⟩ := run_enterItem outer blanks_nil introduces (v ++ rest)
      refine ⟨b, blanks, ?_⟩
      rw [if_pos rfl, enter, run_peekToken_bind, run_peek_bind, split,
        dropWhile_token (leadText_true.mp isLead) noBlank]
      simp only [List.head?_cons, if_neg noClose]
      rw [← split]
      exact entered
  | false =>
      obtain ⟨b₁, b₂, blanks₁, blanks₂, rfl⟩ := leadText_false.mp isLead
      obtain ⟨b, blanks, entered⟩ := run_enterItem outer blanks₂ introduces (v ++ rest)
      refine ⟨b, blanks, ?_⟩
      have noClose : ',' ≠ bracket.closing := by cases bracket <;> decide
      rw [if_neg Bool.false_ne_true, skipRest, run_peekToken_bind, run_peek_bind,
        List.append_assoc, List.cons_append, dropWhile_token blanks₁ (by decide)]
      simp only [List.head?_cons, if_neg noClose, if_true, run_advance_bind]
      exact entered

/-- A value was passed over, or the bracket that opens one. -/
lemma skipValue_split {opened : List Bracket} {cs rest : List Char} {turn : Turn Ahead Unit}
    (run : (skipValue opened).run cs = .ok (turn, rest)) :
    ∃ b, Blanks b ∧ ((turn = behindValue opened ∧ ∃ t, PlainText t ∧ cs = b ++ (t ++ rest)) ∨
      ∃ bracket inner, cs = b ++ bracket.opening :: inner ∧
        (stepItem bracket opened true).run inner = .ok (turn, rest)) := by
  obtain ⟨b, blanks, split⟩ := exists_blanks cs
  refine ⟨b, blanks, ?_⟩
  rw [skipValue, run_peekToken_bind, run_peek_bind] at run
  cases ahead : cs.dropWhile isBlank with
  | nil =>
      rw [ahead] at run
      cases run
  | cons c left =>
      rw [ahead] at run split
      simp only [List.head?_cons] at run
      split at run
      case h_1 none => cases none
      case h_2 same =>
        cases same
        exact .inr ⟨.list, left, split, run⟩
      case h_3 same =>
        cases same
        exact .inr ⟨.object, left, split, run⟩
      case h_4 same =>
        cases same
        obtain ⟨_, between, plainRun, last⟩ := run_bind_eq_ok.mp run
        cases last
        obtain ⟨t, split', plain⟩ := skipPlain_split plainRun
        exact .inl ⟨rfl, t, plain, by rw [split, split']⟩

/-! ## Values in a row -/

/-- What is done behind a turn of the loop. -/
def goOn : Turn Ahead Unit → Reader Unit
  | .more ahead => loop skipStep skipStep_strict ahead
  | .done u => pure u

lemma loop_eq_goOn (ahead : Ahead) :
    loop skipStep skipStep_strict ahead = skipStep ahead >>= goOn := by
  rw [loop_eq]
  congr
  funext turn
  cases turn <;> rfl

/-- What a run of the loop passes over. -/
def Passed : Ahead → List Char → Prop
  | .value opened, t => ∃ b v u, Blanks b ∧ ValueText v ∧ Closes opened u ∧ t = b ++ (v ++ u)
  | .rest bracket outer, t => Closes (bracket :: outer) t

/-- What a run of the loop passes over behind a turn. -/
def PassedBehind : Turn Ahead Unit → List Char → Prop
  | .more ahead, t => Passed ahead t
  | .done (), t => t = []

lemma passedBehind_behindValue {opened : List Bracket} {t : List Char}
    (h : PassedBehind (behindValue opened) t) : Closes opened t := by
  cases opened with
  | nil =>
      obtain rfl : t = [] := h
      exact .nil
  | cons bracket outer => exact h

/-- What was passed over from an item on, or from behind one. -/
lemma passed_stepItem {bracket : Bracket} {outer : List Bracket} {first : Bool}
    {cs between t : List Char} {turn : Turn Ahead Unit}
    (run : (stepItem bracket outer first).run cs = .ok (turn, between))
    (behind : PassedBehind turn t) (rest : List Char) (split : between = t ++ rest) :
    ∃ inner u, ContainerText bracket first inner ∧ Closes outer u ∧
      cs = inner ++ (u ++ rest) := by
  rcases stepItem_split run with ⟨rfl, b, blanks, rfl⟩ | ⟨rfl, lead, front, isLead, introduces, rfl⟩
  · exact ⟨_, t, .close bracket first blanks, passedBehind_behindValue behind, by simp [split]⟩
  · obtain ⟨b, v, u, blanks, value, closes, rfl⟩ := behind
    obtain ⟨lead', front', isLead', introduces', same⟩ := introduce isLead introduces blanks
    cases closes with
    | @cons _ _ t u container closes =>
        refine ⟨_, u, .next isLead' introduces' value container, closes, ?_⟩
        rw [split]
        calc lead ++ (front ++ (b ++ (v ++ (t ++ u)) ++ rest))
            = lead ++ (front ++ b) ++ (v ++ (t ++ (u ++ rest))) := by simp
          _ = _ := by simp [same]

/-- What one step passes over goes together with what is passed over behind it. -/
lemma passed_skipStep {ahead : Ahead} {cs between t : List Char} {turn : Turn Ahead Unit}
    (run : (skipStep ahead).run cs = .ok (turn, between)) (behind : PassedBehind turn t)
    (rest : List Char) (split : between = t ++ rest) : ∃ u, cs = u ++ rest ∧ Passed ahead u := by
  cases ahead with
  | rest bracket outer =>
      have itemRun : (stepItem bracket outer false).run cs = .ok (turn, between) := run
      obtain ⟨inner, u, container, closes, rfl⟩ := passed_stepItem itemRun behind rest split
      exact ⟨inner ++ u, by simp, .cons container closes⟩
  | value opened =>
      obtain ⟨b, blanks, h⟩ := skipValue_split run
      rcases h with ⟨rfl, v, plain, rfl⟩ | ⟨bracket, inner, rfl, itemRun⟩
      · exact ⟨b ++ (v ++ t), by simp [split], b, v, t, blanks, .plain plain,
          passedBehind_behindValue behind, rfl⟩
      · obtain ⟨body, u, container, closes, rfl⟩ := passed_stepItem itemRun behind rest split
        obtain ⟨items, introduced, values, isItems⟩ := container
        exact ⟨b ++ (bracket.opening :: body ++ u), by simp, b, _, u, blanks,
          .container introduced values isItems, closes, rfl⟩

/-- A plain value is passed over in one step. -/
lemma run_loop_plain {b v rest : List Char} (blanks : Blanks b) (plain : PlainText v)
    (opened : List Bracket) (hrest : NumeralEnds rest) :
    (loop skipStep skipStep_strict (.value opened)).run (b ++ (v ++ rest)) =
      (goOn (behindValue opened)).run rest := by
  obtain ⟨c, cs, rfl, noBlank, -, noList, noObject, plainRun⟩ := run_skipPlain plain hrest
  have step : (skipStep (.value opened)).run (b ++ (c :: cs ++ rest)) =
      .ok (behindValue opened, rest) := by
    rw [skipStep, skipValue, run_peekToken_bind, run_peek_bind, List.cons_append,
      dropWhile_token blanks noBlank]
    simp only [List.head?_cons]
    exact run_bind_ok plainRun _
  rw [loop_eq_goOn, run_bind_ok step]

/-- The bracket that opens a container is passed over together with what leads to its first item. -/
lemma run_loop_opening {b : List Char} (blanks : Blanks b) (bracket : Bracket)
    (opened : List Bracket) (cs : List Char) :
    (loop skipStep skipStep_strict (.value opened)).run (b ++ bracket.opening :: cs) =
      (stepItem bracket opened true >>= goOn).run cs := by
  rw [loop_eq_goOn, skipStep, skipValue, Reader.bind_assoc, run_peekToken_bind, run_peek_bind]
  cases bracket with
  | list =>
      rw [dropWhile_token blanks (by decide)]
      rfl
  | object =>
      rw [dropWhile_token blanks (by decide)]
      rfl

lemma ValueText.begins {v : List Char} (h : ValueText v) : BeginsValue v := by
  cases h with
  | plain isPlain =>
      obtain ⟨c, cs, rfl, noBlank, noClose, -⟩ := run_skipPlain isPlain numeralEnds_nil
      exact ⟨c, cs, rfl, noBlank, noClose⟩
  | @container bracket items t _ _ _ =>
      cases bracket <;> exact beginsValue_cons (by decide) (by decide) t

/-- The items of a container are passed over up to its closing bracket, if each of their values
is. -/
lemma run_items {bracket : Bracket} (outer : List Bracket) {items : List Item} {rest : List Char}
    (introduced : ∀ item ∈ items, Introduces bracket item.front)
    (values : ∀ item ∈ items, ValueText item.value ∧
      ∀ {opened b rest}, Blanks b → NumeralEnds rest →
        (loop skipStep skipStep_strict (.value opened)).run (b ++ (item.value ++ rest)) =
          (goOn (behindValue opened)).run rest)
    {first : Bool} {t : List Char}
    (isItems : ItemsText bracket.closing first (items.map Item.text) t) :
    (stepItem bracket outer first >>= goOn).run (t ++ rest) =
      (goOn (behindValue outer)).run rest := by
  induction items generalizing first t with
  | nil =>
      cases isItems with
      | close blanks =>
          rw [List.append_assoc, List.singleton_append,
            run_bind_ok (run_stepItem_close bracket outer first blanks rest)]
  | cons item items ih =>
      cases isItems with
      | @next _ lead _ t _ isLead isItems =>
          obtain ⟨introduces, introduced⟩ := List.forall_mem_cons.mp introduced
          obtain ⟨⟨value, passes⟩, values⟩ := List.forall_mem_cons.mp values
          obtain ⟨b, blanks, step⟩ :=
            run_stepItem outer isLead introduces value.begins (t ++ rest)
          have split : lead ++ (item.text ++ t) ++ rest =
              lead ++ (item.front ++ (item.value ++ (t ++ rest))) := by
            simp [Item.text]
          rw [split, run_bind_ok step]
          calc (goOn (.more (.value (bracket :: outer)))).run (b ++ (item.value ++ (t ++ rest)))
              = (goOn (behindValue (bracket :: outer))).run (t ++ rest) :=
                passes blanks (isItems.numeralEnds (bracket_closing bracket) rest)
            _ = (stepItem bracket outer false >>= goOn).run (t ++ rest) := by
                rw [behindValue, goOn, loop_eq_goOn]
                rfl
            _ = (goOn (behindValue outer)).run rest := ih introduced values isItems

/-- A well-formed value is passed over, inside of any containers. -/
lemma ValueText.run_loop {v : List Char} (h : ValueText v) {opened : List Bracket}
    {b rest : List Char} (blanks : Blanks b) (hrest : NumeralEnds rest) :
    (loop skipStep skipStep_strict (.value opened)).run (b ++ (v ++ rest)) =
      (goOn (behindValue opened)).run rest := by
  induction h generalizing opened b rest with
  | plain isPlain => exact run_loop_plain blanks isPlain opened hrest
  | container introduced values isItems ih =>
      rw [List.cons_append, run_loop_opening blanks]
      exact run_items opened introduced
        (fun item mem => ⟨values item mem, fun blanks hrest => ih item mem blanks hrest⟩) isItems

/-! ## The grammar -/

/-- **`readIgnored` accepts exactly the well-formed values.** -/
theorem readIgnored_accepts :
    readIgnored.Accepts (fun _ => Spaced ValueText) NumeralEnds where
  sound := by
    intro cs _ rest run
    obtain ⟨t, rfl, b, v, u, blanks, value, closes, rfl⟩ : ∃ t, cs = t ++ rest ∧
        Passed (.value []) t := by
      refine loop_induction (Q := fun ahead cs _ rest => ∃ t, cs = t ++ rest ∧ Passed ahead t)
        ?_ ?_ run
      · intro ahead cs u rest step
        exact passed_skipStep (t := []) step rfl rest rfl
      · rintro ahead cs ahead' between u rest step ⟨t, split, passed⟩
        exact passed_skipStep step passed rest split
    cases closes
    exact ⟨b ++ v, by simp, spaced_of blanks value⟩
  complete := by
    rintro _ t rest ⟨b, v, rfl, blanks, value⟩ hrest
    rw [readIgnored, List.append_assoc, value.run_loop blanks hrest]
    rfl

end InView.Json
