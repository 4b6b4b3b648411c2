import InView.Json.Literal
import InView.Proofs.Json.Accepts
import Mathlib.Data.List.Forall2

/-!
# The grammar of string literals

A character of a literal is spelled as it is, by a short escape, by the four digits of its code
unit, or by those of the two surrogates that it consists of (`CharText`).  A literal is a text
between quotes with a spelling of each of its characters (`LiteralText`).

`readLiteral` accepts exactly the spellings of a text, and returns the text.  `skipLiteral` accepts
more: the digits behind a `u` may be any, so that it passes over surrogates that stand alone
(`SkippedLiteral`).
-/

namespace InView.Json

open Reader

/-! ## Characters -/

/-- Hexadecimal digits, each with its value. -/
def HexDigits (digits : List Nat) (t : List Char) : Prop :=
  List.Forall₂ (fun c digit => hexValue? c = some digit) t digits

/-- The four hexadecimal digits of a code unit. -/
def UnitText (unit : Nat) (t : List Char) : Prop :=
  ∃ digits, HexDigits digits t ∧ t.length = 4 ∧
    unit = digits.foldl (fun n digit => 16 * n + digit) 0

/-- What stands behind the backslash of an escape. -/
inductive EscapeText : Char → List Char → Prop
  /-- A letter that stands for a character. -/
  | short {letter c : Char} (meaning : shortEscape? letter = some c) : EscapeText c [letter]
  /-- The code unit of a character. -/
  | unit {unit : Nat} {digits : List Char} (value : UnitText unit digits)
      (notLeading : isLeading unit = false) (notTrailing : isTrailing unit = false) :
      EscapeText (.ofNat unit) ('u' :: digits)
  /-- The two surrogates of a character. -/
  | pair {leading trailing : Nat} {digits digits' : List Char} (first : UnitText leading digits)
      (isLeading : isLeading leading) (second : UnitText trailing digits')
      (isTrailing : isTrailing trailing) :
      EscapeText (pairedChar leading trailing) ('u' :: (digits ++ '\\' :: 'u' :: digits'))

/-- A character that may stand as it is. -/
def IsPlain (c : Char) : Prop := 0x20 ≤ c.toNat ∧ c ≠ '"' ∧ c ≠ '\\'

/-- The spellings of a character. -/
inductive CharText : Char → List Char → Prop
  | plain {c : Char} (isPlain : IsPlain c) : CharText c [c]
  | escape {c : Char} {t : List Char} (escape : EscapeText c t) : CharText c ('\\' :: t)

/-- The spellings of a text, with the closing quote. -/
def QuotedText (text : List Char) (t : List Char) : Prop :=
  ∃ spellings, List.Forall₂ CharText text spellings ∧ t = spellings.flatten ++ ['"']

/-- The literals of a text. -/
def LiteralText (text : String) (t : List Char) : Prop :=
  ∃ quoted, QuotedText text.toList quoted ∧ t = '"' :: quoted

/-- A character in a literal that is passed over: digits need not be those of a character. -/
inductive SkippedChar : List Char → Prop
  | plain {c : Char} (isPlain : IsPlain c) : SkippedChar [c]
  | short {letter : Char} (known : (shortEscape? letter).isSome) : SkippedChar ['\\', letter]
  | unit {unit : Nat} {digits : List Char} (value : UnitText unit digits) :
      SkippedChar ('\\' :: 'u' :: digits)

/-- A literal that is passed over. -/
def SkippedLiteral (t : List Char) : Prop :=
  ∃ chars : List (List Char), (∀ c ∈ chars, SkippedChar c) ∧ t = '"' :: (chars.flatten ++ ['"'])

/-! ## Reading digits -/

lemma hexDigits_accepts (owed value : Nat) :
    (hexDigits owed value).Accepts
      (fun n t => ∃ digits, HexDigits digits t ∧ t.length = owed ∧
        n = digits.foldl (fun n digit => 16 * n + digit) value) AnyRest := by
  induction owed generalizing value with
  | zero =>
      constructor
      · intro cs n rest run
        cases run
        exact ⟨[], rfl, [], .nil, rfl, rfl⟩
      · rintro n t rest ⟨digits, isDigits, length, rfl⟩ -
        obtain rfl := List.eq_nil_of_length_eq_zero length
        cases isDigits
        rfl
  | succ owed ih =>
      constructor
      · intro cs n rest run
        rw [hexDigits, run_peek_bind] at run
        split at run
        case h_1 digit first =>
          cases cs with
          | nil => cases first
          | cons c cs =>
              obtain ⟨t, rfl, digits, isDigits, length, rfl⟩ := (ih _).sound run
              exact ⟨c :: t, rfl, digit :: digits, .cons first isDigits, by simp [length], rfl⟩
        case h_2 => cases run
      · rintro n t rest ⟨digits, isDigits, length, rfl⟩ -
        cases isDigits with
        | nil => cases length
        | @cons c digit t digits first isDigits =>
            rw [hexDigits, run_peek_bind]
            simp only [List.cons_append, List.head?_cons, Option.bind_some, first,
              run_advance_bind, List.foldl_cons]
            exact (ih _).complete ⟨digits, isDigits, Nat.succ.inj length, rfl⟩ trivial

lemma codeUnit_accepts : codeUnit.Accepts UnitText AnyRest := hexDigits_accepts 4 0

/-! ## Reading escapes -/

lemma run_pairMark_eq_ok {mark : Char} {cs rest : List Char} :
    (pairMark mark).run cs = .ok ((), rest) ↔ cs = mark :: rest := by
  rw [pairMark, run_peek_bind]
  cases cs with
  | nil => simp
  | cons c cs =>
      by_cases same : c = mark
      · simp [same]
      · simp [same]

lemma trailingPart_accepts (leading : Nat) :
    (trailingPart leading).Accepts
      (fun c t => ∃ trailing digits, UnitText trailing digits ∧ isTrailing trailing ∧
        pairedChar leading trailing = c ∧ t = '\\' :: 'u' :: digits) AnyRest where
  sound := by
    intro cs c rest run
    rw [trailingPart] at run
    obtain ⟨_, behind, backslash, run⟩ := run_bind_eq_ok.mp run
    obtain ⟨_, between, mark, run⟩ := run_bind_eq_ok.mp run
    obtain ⟨trailing, left, unit, last⟩ := run_bind_eq_ok.mp run
    clear run
    split at last
    case isTrue isTrailing =>
      obtain ⟨rfl, rfl⟩ := run_pure_eq_ok.mp last
      obtain ⟨digits, rfl, value⟩ := codeUnit_accepts.sound unit
      obtain rfl := run_pairMark_eq_ok.mp mark
      obtain rfl := run_pairMark_eq_ok.mp backslash
      exact ⟨_, rfl, trailing, digits, value, isTrailing, rfl, rfl⟩
    case isFalse => cases last
  complete := by
    rintro c t rest ⟨trailing, digits, value, isTrailing, rfl, rfl⟩ -
    have backslash : (pairMark '\\').run ('\\' :: 'u' :: digits ++ rest) =
        .ok ((), 'u' :: digits ++ rest) := run_pairMark_eq_ok.mpr rfl
    have mark : (pairMark 'u').run ('u' :: digits ++ rest) = .ok ((), digits ++ rest) :=
      run_pairMark_eq_ok.mpr rfl
    have unit : codeUnit.run (digits ++ rest) = .ok (trailing, rest) :=
      codeUnit_accepts.complete value trivial
    rw [trailingPart, run_bind_ok backslash, run_bind_ok mark, run_bind_ok unit]
    simp only [isTrailing, if_true, run_pure]

lemma numberedChar_accepts :
    numberedChar.Accepts (fun c t => EscapeText c ('u' :: t)) AnyRest where
  sound := by
    intro cs c rest run
    rw [numberedChar] at run
    obtain ⟨unit, between, unitRun, behind⟩ := run_bind_eq_ok.mp run
    obtain ⟨digits, rfl, value⟩ := codeUnit_accepts.sound unitRun
    split at behind
    case isTrue => cases behind
    case isFalse notTrailing =>
      split at behind
      case isTrue isLeading =>
        obtain ⟨t, rfl, trailing, digits', value', isTrailing, rfl, rfl⟩ :=
          (trailingPart_accepts unit).sound behind
        exact ⟨digits ++ '\\' :: 'u' :: digits', by simp,
          .pair value isLeading value' isTrailing⟩
      case isFalse notLeading =>
        obtain ⟨rfl, rfl⟩ := run_pure_eq_ok.mp behind
        exact ⟨digits, rfl, .unit value (by simpa using notLeading) (by simpa using notTrailing)⟩
  complete := by
    intro c t rest escape _
    rw [numberedChar]
    cases escape with
    | short meaning => cases meaning
    | unit value notLeading notTrailing =>
        rw [run_bind_ok (codeUnit_accepts.complete value trivial)]
        simp only [notTrailing, notLeading, Bool.false_eq_true, if_false, run_pure]
    | @pair leading trailing digits digits' value isLeading value' isTrailing =>
        have notTrailing : Json.isTrailing leading = false := by
          simp only [Json.isLeading, Json.isTrailing, Bool.and_eq_true, decide_eq_true_eq,
            Bool.and_eq_false_iff, decide_eq_false_iff_not] at *
          omega
        rw [List.append_assoc, run_bind_ok (codeUnit_accepts.complete value trivial)]
        simp only [notTrailing, isLeading, Bool.false_eq_true, if_false, if_true]
        exact (trailingPart_accepts leading).complete
          ⟨trailing, digits', value', isTrailing, rfl, rfl⟩ trivial

lemma escapedChar_accepts : escapedChar.Accepts EscapeText AnyRest where
  sound := by
    intro cs c rest run
    rw [escapedChar, run_peek_bind] at run
    cases cs with
    | nil => cases run
    | cons letter cs =>
        simp only [List.head?_cons] at run
        split at run
        case h_1 none => cases none
        case h_2 mark =>
          cases mark
          obtain ⟨t, rfl, escape⟩ := numberedChar_accepts.sound run
          exact ⟨'u' :: t, rfl, escape⟩
        case h_3 same =>
          cases same
          split at run
          case h_1 meaning =>
            cases run
            exact ⟨[letter], rfl, .short meaning⟩
          case h_2 => cases run
  complete := by
    intro c t rest escape _
    rw [escapedChar]
    by_cases mark : t.head? = some 'u'
    · obtain ⟨t, rfl⟩ := List.head?_eq_some_iff.mp mark
      exact numberedChar_accepts.complete escape trivial
    · cases escape with
      | @short letter c meaning =>
          -- the match on the letter is decided by this hypothesis
          have other : letter ≠ 'u' := by simpa using mark
          simp only [List.cons_append, List.nil_append, List.head?_cons, run_peek_bind, meaning]
          rfl
      | unit => exact absurd rfl mark
      | pair => exact absurd rfl mark

/-! ## Reading literals -/

lemma literalStep_done {read cs rest : List Char} {text : String}
    (run : (literalStep read).run cs = .ok (.done text, rest)) :
    cs = '"' :: rest ∧ text = String.ofList read.reverse := by
  rw [literalStep, run_peek_bind] at run
  cases cs with
  | nil => cases run
  | cons c cs =>
      simp only [List.head?_cons] at run
      split at run
      case h_1 none => cases none
      case h_2 quote =>
        cases quote
        cases run
        exact ⟨rfl, rfl⟩
      case h_3 =>
        rw [run_advance_bind] at run
        obtain ⟨c, between, -, run⟩ := run_bind_eq_ok.mp run
        cases run
      case h_4 =>
        rw [run_advance_bind] at run
        split at run <;> cases run

lemma literalStep_more {read read' cs rest : List Char}
    (run : (literalStep read).run cs = .ok (.more read', rest)) :
    ∃ c t, cs = t ++ rest ∧ CharText c t ∧ read' = c :: read := by
  rw [literalStep, run_peek_bind] at run
  cases cs with
  | nil => cases run
  | cons c cs =>
      simp only [List.head?_cons] at run
      split at run
      case h_1 none => cases none
      case h_2 => cases run
      case h_3 backslash =>
        cases backslash
        rw [run_advance_bind] at run
        obtain ⟨c, between, escapeRun, run⟩ := run_bind_eq_ok.mp run
        cases run
        obtain ⟨t, rfl, escape⟩ := escapedChar_accepts.sound escapeRun
        exact ⟨c, '\\' :: t, rfl, .escape escape, rfl⟩
      case h_4 notQuote notBackslash same =>
        cases same
        rw [run_advance_bind] at run
        split at run
        case isTrue => cases run
        case isFalse notControl =>
          cases run
          refine ⟨c, [c], rfl, .plain ⟨Nat.le_of_not_lt notControl, ?_, ?_⟩, rfl⟩
          · rintro rfl
            exact notQuote rfl
          · rintro rfl
            exact notBackslash rfl

lemma run_literalStep_char {c : Char} {t : List Char} (h : CharText c t)
    (read rest : List Char) :
    (literalStep read).run (t ++ rest) = .ok (.more (c :: read), rest) := by
  rw [literalStep, run_peek_bind]
  cases h with
  | plain isPlain =>
      obtain ⟨notControl, notQuote, notBackslash⟩ := isPlain
      simp only [List.cons_append, List.nil_append, List.head?_cons, run_advance_bind,
        Nat.not_lt.mpr notControl, if_false]
      rfl
  | escape escape =>
      simp only [List.cons_append, List.head?_cons, run_advance_bind]
      rw [run_bind_ok (escapedChar_accepts.complete escape trivial), run_pure]

/-- **`readLiteral` accepts exactly the spellings of a text behind an opening quote.** -/
theorem readLiteral_accepts :
    readLiteral.Accepts (fun text t => QuotedText text.toList t) AnyRest where
  sound := by
    intro cs text rest run
    -- the characters already read stand in front of those that are read from here
    refine loop_induction (Q := fun read cs text rest => ∃ t chars, cs = t ++ rest ∧
      QuotedText chars t ∧ text = String.ofList (read.reverse ++ chars)) ?_ ?_ run |>.elim ?_
    · intro read cs text rest last
      obtain ⟨rfl, rfl⟩ := literalStep_done last
      exact ⟨['"'], [], rfl, ⟨[], .nil, rfl⟩, by simp⟩
    · rintro read cs read' between text rest first ⟨t, chars, rfl, ⟨spellings, all, rfl⟩, rfl⟩
      obtain ⟨c, spelling, rfl, spells, rfl⟩ := literalStep_more first
      exact ⟨(spelling :: spellings).flatten ++ ['"'], c :: chars, by simp,
        ⟨_, .cons spells all, rfl⟩, by simp⟩
    · rintro t ⟨chars, rfl, quoted, rfl⟩
      exact ⟨t, rfl, by simpa using quoted⟩
  complete := by
    rintro text t rest ⟨spellings, all, rfl⟩ -
    rw [readLiteral]
    suffices ∀ chars read, List.Forall₂ CharText chars spellings →
        (loop literalStep literalStep_strict read).run (spellings.flatten ++ ['"'] ++ rest) =
          .ok (String.ofList (read.reverse ++ chars), rest) by
      simpa using this _ [] all
    clear all
    induction spellings with
    | nil =>
        intro chars read all
        cases all
        rw [List.append_nil]
        exact run_loop_done rfl
    | cons spelling spellings ih =>
        intro chars read all
        cases all with
        | @cons c _ chars _ spells all =>
            rw [List.flatten_cons, List.append_assoc, List.append_assoc,
              run_loop_more (run_literalStep_char spells read _), ← List.append_assoc,
              ih chars (c :: read) all]
            simp

/-! ## Passing over literals -/

lemma skipEscape_accepts :
    skipEscape.Accepts (fun _ t => SkippedChar ('\\' :: t)) AnyRest where
  sound := by
    intro cs _ rest run
    rw [skipEscape, run_peek_bind] at run
    cases cs with
    | nil => cases run
    | cons letter cs =>
        simp only [List.head?_cons] at run
        split at run
        case h_1 none => cases none
        case h_2 mark =>
          cases mark
          rw [run_advance_bind] at run
          obtain ⟨unit, between, unitRun, run⟩ := run_bind_eq_ok.mp run
          cases run
          obtain ⟨digits, rfl, value⟩ := codeUnit_accepts.sound unitRun
          exact ⟨'u' :: digits, rfl, .unit value⟩
        case h_3 same =>
          cases same
          split at run
          case isTrue known =>
            cases run
            exact ⟨[letter], rfl, .short known⟩
          case isFalse => cases run
  complete := by
    intro _ t rest skipped _
    rw [skipEscape, run_peek_bind]
    cases skipped with
    | plain isPlain => exact absurd rfl isPlain.2.2
    | @short letter known =>
        simp only [List.cons_append, List.nil_append, List.head?_cons]
        split
        case h_1 none => cases none
        case h_2 same =>
          cases same
          cases known
        case h_3 same =>
          cases same
          rw [if_pos known]
          rfl
    | unit value =>
        simp only [List.cons_append, List.head?_cons, run_advance_bind]
        rw [run_bind_ok (codeUnit_accepts.complete value trivial), run_pure]

lemma skipCharacter_done {u v : Unit} {cs rest : List Char}
    (run : (skipCharacter u).run cs = .ok (.done v, rest)) : cs = '"' :: rest := by
  rw [skipCharacter, run_peek_bind] at run
  cases cs with
  | nil => cases run
  | cons c cs =>
      simp only [List.head?_cons] at run
      split at run
      case h_1 none => cases none
      case h_2 quote =>
        cases quote
        cases run
        rfl
      case h_3 =>
        rw [run_advance_bind] at run
        obtain ⟨_, between, -, run⟩ := run_bind_eq_ok.mp run
        cases run
      case h_4 => split at run <;> cases run

lemma skipCharacter_more {u v : Unit} {cs rest : List Char}
    (run : (skipCharacter u).run cs = .ok (.more v, rest)) :
    ∃ t, cs = t ++ rest ∧ SkippedChar t := by
  rw [skipCharacter, run_peek_bind] at run
  cases cs with
  | nil => cases run
  | cons c cs =>
      simp only [List.head?_cons] at run
      split at run
      case h_1 none => cases none
      case h_2 => cases run
      case h_3 backslash =>
        cases backslash
        rw [run_advance_bind] at run
        obtain ⟨c, between, escapeRun, run⟩ := run_bind_eq_ok.mp run
        cases run
        obtain ⟨t, rfl, escape⟩ := skipEscape_accepts.sound escapeRun
        exact ⟨'\\' :: t, rfl, escape⟩
      case h_4 notQuote notBackslash same =>
        cases same
        split at run
        case isTrue => cases run
        case isFalse notControl =>
          cases run
          refine ⟨[c], rfl, .plain ⟨Nat.le_of_not_lt notControl, ?_, ?_⟩⟩
          · rintro rfl
            exact notQuote rfl
          · rintro rfl
            exact notBackslash rfl

lemma run_skipCharacter {t : List Char} (h : SkippedChar t) (u : Unit) (rest : List Char) :
    (skipCharacter u).run (t ++ rest) = .ok (.more (), rest) := by
  rw [skipCharacter, run_peek_bind]
  have escape {t : List Char} (h : SkippedChar ('\\' :: t)) :
      (skipEscape >>= fun _ => pure (Turn.more ()) : Reader (Turn Unit Unit)).run (t ++ rest) =
        .ok (.more (), rest) := by
    rw [run_bind_ok (skipEscape_accepts.complete (a := ()) h trivial), run_pure]
  cases h with
  | plain isPlain =>
      obtain ⟨notControl, notQuote, notBackslash⟩ := isPlain
      simp only [List.cons_append, List.nil_append, List.head?_cons, run_advance_bind,
        Nat.not_lt.mpr notControl, if_false]
      rfl
  | short known =>
      simp only [List.cons_append, List.head?_cons, run_advance_bind]
      exact escape (.short known)
  | unit value =>
      simp only [List.cons_append, List.head?_cons, run_advance_bind]
      exact escape (.unit value)

/-- **`skipLiteral` accepts exactly the literals that are passed over, behind an opening quote.** -/
theorem skipLiteral_accepts :
    skipLiteral.Accepts (fun _ t => SkippedLiteral ('"' :: t)) AnyRest where
  sound := by
    intro cs _ rest run
    refine loop_induction (Q := fun _ cs _ rest => ∃ t, cs = t ++ rest ∧
      SkippedLiteral ('"' :: t)) ?_ ?_ run
    · intro _ cs _ rest last
      obtain rfl := skipCharacter_done last
      exact ⟨['"'], rfl, [], by simp, rfl⟩
    · rintro _ cs _ between _ rest first ⟨t, rfl, chars, all, split⟩
      obtain ⟨c, rfl, skipped⟩ := skipCharacter_more first
      obtain rfl := (List.cons.inj split).2
      refine ⟨(c :: chars).flatten ++ ['"'], by simp, c :: chars, ?_, rfl⟩
      exact List.forall_mem_cons.mpr ⟨skipped, all⟩
  complete := by
    rintro _ t rest ⟨chars, all, split⟩ -
    obtain rfl := (List.cons.inj split).2
    rw [skipLiteral]
    clear split
    induction chars with
    | nil => exact run_loop_done rfl
    | cons c chars ih =>
        obtain ⟨skipped, all⟩ := List.forall_mem_cons.mp all
        rw [List.flatten_cons, List.append_assoc, List.append_assoc,
          run_loop_more (run_skipCharacter skipped () _), ← List.append_assoc]
        exact ih all

end InView.Json
