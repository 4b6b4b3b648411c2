import InView.Json.Number
import InView.Proofs.Json.Accepts

/-!
# The grammar of numerals

A numeral has a sign or none, digits without a superfluous zero in front, digits behind a point
or none, and an exponent or none.  `NumeralForm` is such a numeral taken apart, and `value?` the
number it denotes, or nothing if it is out of range.

`readNumber` accepts exactly the numerals that denote a number (`readNumber_accepts`), and where
a numeral is out of range it says so (`readNumber_outOfRange`), so being out of range is the only
reason to refuse a numeral.
-/

namespace InView.Json

open Reader

/-! ## Parts of a numeral -/

/-- One decimal digit or more. -/
def IsDigits (ds : List Char) : Prop := ds ≠ [] ∧ ∀ d ∈ ds, d.isDigit

/-- Digits that do not begin with a zero, unless it is the only one. -/
def IsWhole (ds : List Char) : Prop := IsDigits ds ∧ (ds = ['0'] ∨ ds.head? ≠ some '0')

/-- The sign of an exponent. -/
def IsExponentSign (sign : List Char) : Prop := sign = [] ∨ sign = ['+'] ∨ sign = ['-']

instance (ds : List Char) : Decidable (IsDigits ds) :=
  decidable_of_iff (ds ≠ [] ∧ ds.all Char.isDigit) (and_congr_right fun _ => List.all_eq_true)

instance (ds : List Char) : Decidable (IsWhole ds) :=
  inferInstanceAs (Decidable (IsDigits ds ∧ (ds = ['0'] ∨ ds.head? ≠ some '0')))

instance (sign : List Char) : Decidable (IsExponentSign sign) :=
  inferInstanceAs (Decidable (sign = [] ∨ sign = ['+'] ∨ sign = ['-']))

/-- An exponent with its mark. -/
structure ExponentForm where
  mark : Char
  sign : List Char
  digits : List Char
  isMark : isExponentMark mark
  isSign : IsExponentSign sign
  isDigits : IsDigits digits

/-- A numeral taken apart. -/
structure NumeralForm where
  negative : Bool
  whole : List Char
  fraction : Option (List Char)
  exponent : Option ExponentForm
  isWhole : IsWhole whole
  isFraction : ∀ digits ∈ fraction, IsDigits digits

namespace ExponentForm

/-- The characters of an exponent. -/
def text (e : ExponentForm) : List Char := e.mark :: (e.sign ++ e.digits)

/-- A significand times a power of ten, to which the exponent is added.  Digits that pass the
bound of exponents make the number zero or too large. -/
def value? (e : ExponentForm) (negative : Bool) (significand : Nat) (exponent : Int) :
    Option Number :=
  match absorb exponentLimit 0 e.digits with
  | (n, []) =>
    (scale? significand
      (clampExponent (if e.sign = ['-'] then exponent - n else exponent + n))).map
        fun x => .real (withSign negative x)
  | (_, _ :: _) =>
    if significand ≠ 0 ∧ e.sign ≠ ['-'] then none else some (.real (.zero negative))

end ExponentForm

namespace NumeralForm

/-- The characters of the point and the digits behind it, if there are any. -/
def fractionText : Option (List Char) → List Char
  | some digits => '.' :: digits
  | none => []

/-- The characters of an exponent, if there is one. -/
def exponentText : Option ExponentForm → List Char
  | some e => e.text
  | none => []

/-- The characters of a numeral. -/
def text (n : NumeralForm) : List Char :=
  (if n.negative then ['-'] else []) ++
    (n.whole ++ (fractionText n.fraction ++ exponentText n.exponent))

/-- A significand times a power of ten and the power that an exponent stands for. -/
def scaled? (negative : Bool) (significand : Nat) (power : Int) :
    Option ExponentForm → Option Number
  | some e => e.value? negative significand power
  | none => (scale? significand power).map fun x => .real (withSign negative x)

/-- A significand that takes up digits behind the point, each of which lowers the power of ten if
it fits, and that `surplus` digits before the point did not fit into. -/
def scaledFraction? (negative : Bool) (significand surplus : Nat) (digits : List Char)
    (exponent : Option ExponentForm) : Option Number :=
  let (significand, left) := absorb significandLimit significand digits
  scaled? negative significand (surplus - (digits.length - left.length : Nat)) exponent

/-- The number that a numeral denotes, unless it is out of range.  The significand holds as many
of the leading digits as fit, and each digit before the point that does not fit raises the power
of ten. -/
def value? (n : NumeralForm) : Option Number :=
  let (significand, surplus) := absorb significandLimit 0 n.whole
  match n.fraction, n.exponent with
  | some digits, exponent =>
    scaledFraction? n.negative significand surplus.length digits exponent
  | none, some e => scaled? n.negative significand surplus.length (some e)
  | none, none =>
    if surplus.isEmpty then some (wholeNumber n.negative significand)
    else scaled? n.negative significand surplus.length none

end NumeralForm

/-- The texts of a number: the numerals that denote it. -/
def NumberText (x : Number) (t : List Char) : Prop :=
  ∃ n : NumeralForm, t = n.text ∧ n.value? = some x

/-! ## Characters -/

/-- The characters that numerals consist of. -/
def isNumeralChar (c : Char) : Bool :=
  c.isDigit || isExponentMark c || c = '.' || c = '+' || c = '-'

lemma isNumeralChar_of_isDigit {ds : List Char} (h : ∀ d ∈ ds, d.isDigit) :
    ∀ c ∈ ds, isNumeralChar c := fun c mem => by simp [isNumeralChar, h c mem]

lemma ExponentForm.isNumeralChar_of_mem (e : ExponentForm) : ∀ c ∈ e.text, isNumeralChar c := by
  have sign : ∀ c ∈ e.sign, isNumeralChar c := by
    rcases e.isSign with h | h | h <;> simp [h, isNumeralChar]
  rw [text, List.forall_mem_cons, List.forall_mem_append]
  exact ⟨by simp [isNumeralChar, e.isMark], sign, isNumeralChar_of_isDigit e.isDigits.2⟩

lemma NumeralForm.isNumeralChar_of_mem (n : NumeralForm) : ∀ c ∈ n.text, isNumeralChar c := by
  have sign : ∀ c ∈ if n.negative then ['-'] else [], isNumeralChar c := by
    cases n.negative <;> simp [isNumeralChar]
  have fraction : ∀ c ∈ fractionText n.fraction, isNumeralChar c := by
    cases digits : n.fraction with
    | none => simp [fractionText]
    | some ds =>
        exact List.forall_mem_cons.mpr
          ⟨by decide, isNumeralChar_of_isDigit (n.isFraction ds digits).2⟩
  have exponent : ∀ c ∈ exponentText n.exponent, isNumeralChar c := by
    cases n.exponent with
    | none => simp [exponentText]
    | some e => exact e.isNumeralChar_of_mem
  simp only [text, List.forall_mem_append]
  exact ⟨sign, isNumeralChar_of_isDigit n.isWhole.1.2, fraction, exponent⟩

/-! ## What may follow -/

/-- The rest does not begin with a digit. -/
def NoDigitAhead (rest : List Char) : Prop := ∀ c ∈ rest.head?, c.isDigit = false

/-- The rest does not begin with anything that would belong to a numeral. -/
def NumeralEnds (rest : List Char) : Prop :=
  ∀ c ∈ rest.head?, c.isDigit = false ∧ c ≠ '.' ∧ isExponentMark c = false

lemma NumeralEnds.noDigitAhead {rest : List Char} (h : NumeralEnds rest) : NoDigitAhead rest :=
  fun c mem => (h c mem).1

lemma numeralEnds_nil : NumeralEnds [] := by simp [NumeralEnds]

lemma numeralEnds_cons {c : Char}
    (h : c.isDigit = false ∧ c ≠ '.' ∧ isExponentMark c = false) (cs : List Char) :
    NumeralEnds (c :: cs) := by
  intro d mem
  obtain rfl : c = d := by simpa using mem
  exact h

lemma noDigitAhead_cons {c : Char} (h : c.isDigit = false) (cs : List Char) :
    NoDigitAhead (c :: cs) := by
  intro d mem
  obtain rfl : c = d := by simpa using mem
  exact h

lemma dropWhile_digits {ds rest : List Char} (h : ∀ d ∈ ds, d.isDigit)
    (hrest : NoDigitAhead rest) :
    (ds ++ rest).takeWhile Char.isDigit = ds ∧ (ds ++ rest).dropWhile Char.isDigit = rest := by
  rw [List.takeWhile_append_of_pos h, List.dropWhile_append_of_pos h]
  cases rest with
  | nil => simp
  | cons c cs =>
      have : c.isDigit = false := hrest c rfl
      simp [this]

lemma noDigitAhead_dropWhile (cs : List Char) : NoDigitAhead (cs.dropWhile Char.isDigit) := by
  intro c mem
  have := List.head?_dropWhile_not Char.isDigit cs
  rw [Option.mem_def.mp mem] at this
  simpa using this

/-! ## Reading digits -/

/-- Digits that were read, and that no other follows. -/
lemma someDigits_split {atEnd : Cause} {cs ds rest : List Char}
    (run : (someDigits atEnd).run cs = .ok (ds, rest)) :
    cs = ds ++ rest ∧ IsDigits ds ∧ NoDigitAhead rest := by
  rw [someDigits, run_peek_bind] at run
  cases cs with
  | nil => cases run
  | cons c cs =>
      simp only [List.head?_cons] at run
      split at run
      case isTrue digit =>
        simp only [run_takeWhile, Except.ok.injEq, Prod.mk.injEq] at run
        obtain ⟨rfl, rfl⟩ := run
        refine ⟨(List.takeWhile_append_dropWhile).symm, ⟨?_, ?_⟩, noDigitAhead_dropWhile _⟩
        · simp [List.takeWhile_cons_of_pos digit]
        · exact fun d mem => List.mem_takeWhile_imp mem
      case isFalse => cases run

lemma run_someDigits (atEnd : Cause) {ds rest : List Char} (h : IsDigits ds)
    (hrest : NoDigitAhead rest) : (someDigits atEnd).run (ds ++ rest) = .ok (ds, rest) := by
  obtain ⟨d, ds, rfl⟩ := List.exists_cons_of_ne_nil h.1
  have first : d.isDigit := h.2 d List.mem_cons_self
  obtain ⟨taken, dropped⟩ := dropWhile_digits h.2 hrest
  rw [someDigits, run_peek_bind]
  simp only [List.cons_append, List.head?_cons, first, if_true] at *
  rw [run_takeWhile, taken, dropped]

/-- Digits before a point that were read, and that no other follows. -/
lemma wholeDigits_split {atEnd : Cause} {cs ds rest : List Char}
    (run : (wholeDigits atEnd).run cs = .ok (ds, rest)) :
    cs = ds ++ rest ∧ IsWhole ds ∧ NoDigitAhead rest := by
  rw [wholeDigits] at run
  obtain ⟨zero, between, zeroRun, behind⟩ := run_bind_eq_ok.mp run
  clear run
  cases zero with
  | true =>
      obtain ⟨c, isZero, rfl⟩ := takeIf_true zeroRun
      obtain rfl : c = '0' := by simpa using isZero
      simp only [if_true, run_peek_bind] at behind
      split at behind
      case isTrue => cases behind
      case isFalse ends =>
        cases behind
        refine ⟨rfl, ⟨⟨by simp, by simp⟩, Or.inl rfl⟩, fun d mem => ?_⟩
        rw [Option.mem_def.mp mem] at ends
        simpa using ends
  | false =>
      obtain ⟨rfl, notZero⟩ := takeIf_false zeroRun
      obtain ⟨rfl, digits, ends⟩ := someDigits_split behind
      refine ⟨rfl, ⟨digits, Or.inr fun first => ?_⟩, ends⟩
      obtain ⟨d, ds, rfl⟩ := List.exists_cons_of_ne_nil digits.1
      obtain rfl : d = '0' := by simpa using first
      exact absurd (notZero '0' rfl) (by decide)

lemma run_wholeDigits (atEnd : Cause) {ds rest : List Char} (h : IsWhole ds)
    (hrest : NoDigitAhead rest) : (wholeDigits atEnd).run (ds ++ rest) = .ok (ds, rest) := by
  obtain ⟨digits, leading⟩ := h
  rw [wholeDigits]
  rcases leading with rfl | leading
  · have ends : rest.head?.any Char.isDigit = false := by
      cases rest with
      | nil => rfl
      | cons c cs => exact hrest c rfl
    rw [List.singleton_append, run_bind_ok (run_takeIf (by decide) rest)]
    simp [ends]
  · have notZero : ∀ c ∈ (ds ++ rest).head?, decide (c = '0') = false := by
      obtain ⟨d, ds, rfl⟩ := List.exists_cons_of_ne_nil digits.1
      simpa using leading
    rw [run_bind_ok (run_takeIf_of_not notZero)]
    exact run_someDigits atEnd digits hrest

/-- The rest does not begin with a sign. -/
def NoSignAhead (rest : List Char) : Prop := ∀ c ∈ rest.head?, c ≠ '-' ∧ c ≠ '+'

lemma IsDigits.noSignAhead {ds : List Char} (h : IsDigits ds) (rest : List Char) :
    NoSignAhead (ds ++ rest) := by
  obtain ⟨d, ds, rfl⟩ := List.exists_cons_of_ne_nil h.1
  intro c mem
  obtain rfl : d = c := by simpa using mem
  have digit := h.2 d List.mem_cons_self
  constructor <;> rintro rfl <;> revert digit <;> decide

lemma exponentSign_accepts :
    exponentSign.Accepts
      (fun down t => IsExponentSign t ∧ (down = true ↔ t = ['-'])) NoSignAhead where
  sound := by
    intro cs down rest run
    rw [exponentSign] at run
    obtain ⟨minus, between, minusRun, behind⟩ := run_bind_eq_ok.mp run
    clear run
    cases minus with
    | true =>
        obtain ⟨c, isMinus, rfl⟩ := takeIf_true minusRun
        obtain rfl : c = '-' := by simpa using isMinus
        cases behind
        exact ⟨['-'], rfl, Or.inr (Or.inr rfl), by simp⟩
    | false =>
        obtain ⟨rfl, -⟩ := takeIf_false minusRun
        obtain ⟨plus, between, plusRun, last⟩ := run_bind_eq_ok.mp behind
        cases last
        cases plus with
        | true =>
            obtain ⟨c, isPlus, rfl⟩ := takeIf_true plusRun
            obtain rfl : c = '+' := by simpa using isPlus
            exact ⟨['+'], rfl, Or.inr (Or.inl rfl), by simp⟩
        | false =>
            obtain ⟨rfl, -⟩ := takeIf_false plusRun
            exact ⟨[], rfl, Or.inl rfl, by simp⟩
  complete := by
    rintro down t rest ⟨isSign, isDown⟩ hrest
    rw [exponentSign]
    rcases isSign with rfl | rfl | rfl
    · obtain rfl : down = false := by simpa using isDown
      have noMinus : ∀ c ∈ rest.head?, decide (c = '-') = false :=
        fun c mem => by simpa using (hrest c mem).1
      have noPlus : ∀ c ∈ rest.head?, decide (c = '+') = false :=
        fun c mem => by simpa using (hrest c mem).2
      rw [List.nil_append, run_bind_ok (run_takeIf_of_not noMinus)]
      simp only [Bool.false_eq_true, if_false, run_bind_ok (run_takeIf_of_not noPlus), run_pure]
    · obtain rfl : down = false := by simpa using isDown
      rfl
    · obtain rfl : down = true := by simpa using isDown
      rfl

/-! ## Reading numbers -/

/-- An outcome of reading a numeral: its value with the rest, or that it is out of range. -/
def Settles (outcome : Except Failure (Number × List Char)) (value? : Option Number)
    (rest : List Char) : Prop :=
  match value? with
  | some x => outcome = .ok (x, rest)
  | none => ∃ left, outcome = .error ⟨.numberOutOfRange, left⟩

variable (negative : Bool) (significand : Nat) (power : Int)

lemma settles_scaledNumber (rest : List Char) :
    Settles ((scaledNumber negative significand power).run rest)
      ((scale? significand power).map fun x => .real (withSign negative x)) rest := by
  rw [scaledNumber]
  cases scale? significand power with
  | some x => rfl
  | none => exact ⟨byteSize rest, rfl⟩

lemma settles_readExponent (e : ExponentForm) {rest : List Char} (hrest : NoDigitAhead rest) :
    Settles ((readExponent negative significand power).run (e.sign ++ (e.digits ++ rest)))
      (e.value? negative significand power) rest := by
  have sign : exponentSign.run (e.sign ++ (e.digits ++ rest)) =
      .ok (decide (e.sign = ['-']), e.digits ++ rest) :=
    exponentSign_accepts.complete ⟨e.isSign, by simp⟩ (e.isDigits.noSignAhead rest)
  have digits : (someDigits .unfinishedValue).run (e.digits ++ rest) = .ok (e.digits, rest) :=
    run_someDigits _ e.isDigits hrest
  rw [readExponent, run_bind_ok sign, run_bind_ok digits, ExponentForm.value?]
  obtain ⟨n, left⟩ := absorb exponentLimit 0 e.digits
  cases left with
  | nil =>
      simp only [decide_eq_true_eq]
      exact settles_scaledNumber negative significand _ rest
  | cons d left =>
      simp only [Bool.not_eq_true', decide_eq_false_iff_not]
      split
      · exact ⟨_, rfl⟩
      · rfl

/-- Reads an exponent, if there is one, and scales the significand. -/
def readPower : Reader Number := do
  if ← takeIf isExponentMark then readExponent negative significand power
  else scaledNumber negative significand power

/-- What may follow the place of an exponent: no digit, and no mark if there is no exponent. -/
structure ExponentEnds (exponent : Option ExponentForm) (rest : List Char) : Prop where
  digit : NoDigitAhead rest
  mark : exponent = none → ∀ c ∈ rest.head?, isExponentMark c = false

lemma not_isDigit_of_isExponentMark {c : Char} (h : isExponentMark c) : c.isDigit = false := by
  simp only [isExponentMark, Bool.or_eq_true, decide_eq_true_eq] at h
  rcases h with rfl | rfl <;> decide

lemma ExponentEnds.noDigitAhead {exponent : Option ExponentForm} {rest : List Char}
    (h : ExponentEnds exponent rest) :
    NoDigitAhead (NumeralForm.exponentText exponent ++ rest) := by
  cases exponent with
  | none => exact h.digit
  | some e => exact noDigitAhead_cons (not_isDigit_of_isExponentMark e.isMark) _

lemma ExponentEnds.noMarkAhead {rest : List Char} (h : ExponentEnds none rest) :
    (takeIf isExponentMark).run rest = .ok (false, rest) :=
  run_takeIf_of_not (h.mark rfl)

lemma ExponentForm.run_mark (e : ExponentForm) (rest : List Char) :
    (takeIf isExponentMark).run (e.text ++ rest) = .ok (true, e.sign ++ (e.digits ++ rest)) := by
  rw [text, List.cons_append, List.append_assoc]
  exact run_takeIf e.isMark _

lemma settles_readPower (exponent : Option ExponentForm) {rest : List Char}
    (hrest : ExponentEnds exponent rest) :
    Settles ((readPower negative significand power).run
        (NumeralForm.exponentText exponent ++ rest))
      (NumeralForm.scaled? negative significand power exponent) rest := by
  rw [readPower]
  cases exponent with
  | some e =>
      rw [NumeralForm.exponentText, run_bind_ok (e.run_mark rest), if_pos rfl]
      exact settles_readExponent negative significand power e hrest.digit
  | none =>
      rw [NumeralForm.exponentText, List.nil_append, run_bind_ok hrest.noMarkAhead,
        if_neg Bool.false_ne_true]
      exact settles_scaledNumber negative significand power rest

lemma settles_readFraction (surplus : Nat) {digits : List Char} (isDigits : IsDigits digits)
    (exponent : Option ExponentForm) {rest : List Char} (hrest : ExponentEnds exponent rest) :
    Settles ((readFraction negative significand surplus).run
        (digits ++ (NumeralForm.exponentText exponent ++ rest)))
      (NumeralForm.scaledFraction? negative significand surplus digits exponent) rest := by
  have run_digits : (someDigits .unfinishedValue).run
      (digits ++ (NumeralForm.exponentText exponent ++ rest)) =
        .ok (digits, NumeralForm.exponentText exponent ++ rest) :=
    run_someDigits _ isDigits hrest.noDigitAhead
  rw [readFraction, run_bind_ok run_digits, NumeralForm.scaledFraction?]
  exact settles_readPower negative _ _ exponent hrest

/-- What may follow a numeral: no digit, no mark of an exponent if it has none, and no point if it
has neither an exponent nor a point. -/
structure NumeralForm.Ends (n : NumeralForm) (rest : List Char) : Prop
    extends ExponentEnds n.exponent rest where
  point : n.fraction = none → n.exponent = none → ∀ c ∈ rest.head?, c ≠ '.'

lemma NumeralEnds.ends {rest : List Char} (h : NumeralEnds rest) (n : NumeralForm) :
    n.Ends rest where
  digit := h.noDigitAhead
  mark _ c mem := (h c mem).2.2
  point _ _ c mem := (h c mem).2.1

lemma NumeralForm.Ends.noPoint {n : NumeralForm} {rest : List Char} (h : n.Ends rest)
    (fraction : n.fraction = none) :
    ∀ c ∈ (exponentText n.exponent ++ rest).head?, decide (c = '.') = false := by
  intro c mem
  cases exponent : n.exponent with
  | none =>
      rw [exponent] at mem
      simpa using h.point fraction exponent c mem
  | some e =>
      rw [exponent] at mem
      obtain rfl : e.mark = c := by simpa [exponentText, ExponentForm.text] using mem
      have := e.isMark
      simp only [decide_eq_false_iff_not]
      rintro point
      rw [point] at this
      exact absurd this (by decide)

lemma NumeralForm.Ends.noDigitBehindWhole {n : NumeralForm} {rest : List Char}
    (h : n.Ends rest) :
    NoDigitAhead (fractionText n.fraction ++ (exponentText n.exponent ++ rest)) := by
  cases n.fraction with
  | none => exact h.noDigitAhead
  | some digits => exact noDigitAhead_cons (by decide) _

lemma settles_readUnsigned (n : NumeralForm) {rest : List Char} (hrest : n.Ends rest) :
    Settles ((readUnsigned n.negative).run (n.whole ++
        (NumeralForm.fractionText n.fraction ++ (NumeralForm.exponentText n.exponent ++ rest))))
      n.value? rest := by
  have whole := run_wholeDigits .unfinishedValue n.isWhole hrest.noDigitBehindWhole
  rw [readUnsigned, run_bind_ok whole, NumeralForm.value?]
  obtain ⟨significand, surplus⟩ := absorb significandLimit 0 n.whole
  cases fraction : n.fraction with
  | some digits =>
      have point : (takeIf (· = '.')).run
          ('.' :: (digits ++ (NumeralForm.exponentText n.exponent ++ rest))) =
            .ok (true, digits ++ (NumeralForm.exponentText n.exponent ++ rest)) :=
        run_takeIf (by decide) _
      simp only [NumeralForm.fractionText, List.cons_append, run_bind_ok point, if_true]
      exact settles_readFraction _ _ _ (n.isFraction digits fraction) n.exponent
        hrest.toExponentEnds
  | none =>
      simp only [NumeralForm.fractionText, List.nil_append,
        run_bind_ok (run_takeIf_of_not (hrest.noPoint fraction)), Bool.false_eq_true, if_false]
      have power := settles_readPower n.negative significand surplus.length n.exponent
        hrest.toExponentEnds
      cases exponent : n.exponent with
      | some e =>
          rw [exponent, readPower, NumeralForm.exponentText, run_bind_ok (e.run_mark rest)] at power
          rw [NumeralForm.exponentText, run_bind_ok (e.run_mark rest)]
          exact power
      | none =>
          have noMark : (takeIf isExponentMark).run rest = .ok (false, rest) :=
            run_takeIf_of_not (hrest.mark exponent)
          rw [exponent, readPower, NumeralForm.exponentText, List.nil_append,
            run_bind_ok noMark] at power
          rw [NumeralForm.exponentText, List.nil_append, run_bind_ok noMark]
          simp only [Bool.false_eq_true, if_false] at power ⊢
          split
          · rfl
          · exact power

lemma run_sign (n : NumeralForm) (rest : List Char) :
    (takeIf (· = '-')).run (n.text ++ rest) =
      .ok (n.negative, n.whole ++ (NumeralForm.fractionText n.fraction ++
        (NumeralForm.exponentText n.exponent ++ rest))) := by
  rw [NumeralForm.text]
  cases n.negative with
  | true =>
      simp only [if_true, List.cons_append, List.append_assoc]
      exact run_takeIf (by decide) _
  | false =>
      simp only [Bool.false_eq_true, if_false, List.nil_append, List.append_assoc]
      exact run_takeIf_of_not fun c mem => by simpa using (n.isWhole.1.noSignAhead _ c mem).1

/-- What reading a numeral comes to: its value, or that it is out of range. -/
lemma settles_readNumber (n : NumeralForm) {rest : List Char} (hrest : n.Ends rest) :
    Settles (readNumber.run (n.text ++ rest)) n.value? rest := by
  rw [readNumber, run_bind_ok (run_sign n rest)]
  exact settles_readUnsigned n hrest

/-! ## Taking a numeral apart

What was read as a number is a numeral, and what follows is no part of it.  Its value is then
known from `settles_readNumber`.
-/

variable {negative significand power}

/-- An exponent behind its mark. -/
lemma readExponent_split {cs rest : List Char} {x : Number} {mark : Char}
    (isMark : isExponentMark mark)
    (run : (readExponent negative significand power).run cs = .ok (x, rest)) :
    ∃ (e : ExponentForm) (rest' : List Char), mark :: cs = e.text ++ rest' ∧
      NoDigitAhead rest' := by
  rw [readExponent] at run
  obtain ⟨down, between, sign, run⟩ := run_bind_eq_ok.mp run
  obtain ⟨digits, rest', digitsRun, -⟩ := run_bind_eq_ok.mp run
  obtain ⟨signText, rfl, isSign, -⟩ := exponentSign_accepts.sound sign
  obtain ⟨rfl, isDigits, ends⟩ := someDigits_split digitsRun
  exact ⟨⟨mark, signText, digits, isMark, isSign, isDigits⟩, rest',
    by simp [ExponentForm.text], ends⟩

/-- The place of an exponent. -/
lemma readPower_split {cs rest : List Char} {x : Number} (ends : NoDigitAhead cs)
    (run : (readPower negative significand power).run cs = .ok (x, rest)) :
    ∃ exponent rest', cs = NumeralForm.exponentText exponent ++ rest' ∧
      ExponentEnds exponent rest' := by
  rw [readPower] at run
  obtain ⟨mark, between, markRun, behind⟩ := run_bind_eq_ok.mp run
  cases mark with
  | true =>
      obtain ⟨c, isMark, rfl⟩ := takeIf_true markRun
      obtain ⟨e, rest', split, ends'⟩ := readExponent_split isMark behind
      exact ⟨some e, rest', split, ends', by simp⟩
  | false => exact ⟨none, cs, rfl, ends, fun _ => (takeIf_false markRun).2⟩

/-- The digits behind a point, and the place of an exponent. -/
lemma readFraction_split {surplus : Nat} {cs rest : List Char} {x : Number}
    (run : (readFraction negative significand surplus).run cs = .ok (x, rest)) :
    ∃ digits exponent rest', cs = digits ++ (NumeralForm.exponentText exponent ++ rest') ∧
      IsDigits digits ∧ ExponentEnds exponent rest' := by
  rw [readFraction] at run
  obtain ⟨digits, between, digitsRun, behind⟩ := run_bind_eq_ok.mp run
  obtain ⟨rfl, isDigits, ends⟩ := someDigits_split digitsRun
  obtain ⟨exponent, rest', rfl, ends'⟩ := readPower_split ends behind
  exact ⟨digits, exponent, rest', rfl, isDigits, ends'⟩

/-- A numeral without its sign. -/
lemma readUnsigned_split {cs rest : List Char} {x : Number}
    (run : (readUnsigned negative).run cs = .ok (x, rest)) :
    ∃ (n : NumeralForm) (rest' : List Char), n.negative = negative ∧ n.Ends rest' ∧
      cs = n.whole ++ (NumeralForm.fractionText n.fraction ++
        (NumeralForm.exponentText n.exponent ++ rest')) := by
  rw [readUnsigned] at run
  obtain ⟨whole, between, wholeRun, behindWhole⟩ := run_bind_eq_ok.mp run
  obtain ⟨rfl, isWhole, ends⟩ := wholeDigits_split wholeRun
  obtain ⟨point, between, pointRun, behind⟩ := run_bind_eq_ok.mp behindWhole
  clear run wholeRun behindWhole
  cases point with
  | true =>
      obtain ⟨c, isPoint, rfl⟩ := takeIf_true pointRun
      obtain rfl : c = '.' := by simpa using isPoint
      obtain ⟨digits, exponent, rest', rfl, isDigits, ends'⟩ := readFraction_split behind
      exact ⟨⟨negative, whole, some digits, exponent, isWhole, by simpa using isDigits⟩, rest',
        rfl, ⟨ends', by simp⟩, rfl⟩
  | false =>
      obtain ⟨rfl, noPoint⟩ := takeIf_false pointRun
      obtain ⟨mark, between, markRun, last⟩ := run_bind_eq_ok.mp behind
      cases mark with
      | true =>
          obtain ⟨c, isMark, rfl⟩ := takeIf_true markRun
          obtain ⟨e, rest', split, ends'⟩ := readExponent_split isMark last
          exact ⟨⟨negative, whole, none, some e, isWhole, by simp⟩, rest', rfl,
            ⟨⟨ends', by simp⟩, by simp⟩, by rw [split]; rfl⟩
      | false =>
          obtain ⟨-, noMark⟩ := takeIf_false markRun
          exact ⟨⟨negative, whole, none, none, isWhole, by simp⟩, _, rfl,
            ⟨⟨ends, fun _ => noMark⟩, fun _ _ c mem => by simpa using noPoint c mem⟩, rfl⟩

/-- The sign of a numeral. -/
lemma sign_split {cs rest : List Char} {negative : Bool}
    (run : (takeIf (· = '-')).run cs = .ok (negative, rest)) :
    cs = (if negative then ['-'] else []) ++ rest := by
  cases negative with
  | true =>
      obtain ⟨c, isMinus, rfl⟩ := takeIf_true run
      obtain rfl : c = '-' := by simpa using isMinus
      rfl
  | false =>
      obtain ⟨rfl, -⟩ := takeIf_false run
      rfl

/-- A numeral. -/
lemma readNumber_split {cs rest : List Char} {x : Number}
    (run : readNumber.run cs = .ok (x, rest)) :
    ∃ (n : NumeralForm) (rest' : List Char), cs = n.text ++ rest' ∧ n.Ends rest' := by
  rw [readNumber] at run
  obtain ⟨negative, between, sign, behind⟩ := run_bind_eq_ok.mp run
  obtain ⟨n, rest', isSign, ends, split⟩ := readUnsigned_split behind
  refine ⟨n, rest', ?_, ends⟩
  rw [sign_split sign, split, ← isSign, NumeralForm.text]
  simp only [List.append_assoc]

/-- What was read as a number is a numeral that denotes it, and what follows does not belong to
it. -/
lemma readNumber_numeral {cs rest : List Char} {x : Number}
    (run : readNumber.run cs = .ok (x, rest)) :
    ∃ n : NumeralForm, cs = n.text ++ rest ∧ n.Ends rest ∧ n.value? = some x := by
  obtain ⟨n, rest', rfl, ends⟩ := readNumber_split run
  have settles := settles_readNumber n ends
  rw [run] at settles
  cases value : n.value? with
  | none => simp [value, Settles] at settles
  | some y =>
      simp only [value, Settles, Except.ok.injEq, Prod.mk.injEq] at settles
      obtain ⟨rfl, rfl⟩ := settles
      exact ⟨n, rfl, ends, value⟩

lemma run_readNumber {n : NumeralForm} {x : Number} (value : n.value? = some x)
    {rest : List Char} (ends : n.Ends rest) :
    readNumber.run (n.text ++ rest) = .ok (x, rest) := by
  have settles := settles_readNumber n ends
  rwa [value] at settles

/-! ## The grammar -/

/-- **`readNumber` accepts exactly the numerals that denote a number.** -/
theorem readNumber_accepts : readNumber.Accepts NumberText NumeralEnds where
  sound run := by
    obtain ⟨n, split, -, value⟩ := readNumber_numeral run
    exact ⟨n.text, split, n, rfl, value⟩
  complete := by
    rintro x t rest ⟨n, rfl, value⟩ hrest
    exact run_readNumber value (hrest.ends n)

/-- A numeral that denotes no number is refused as being out of range. -/
theorem readNumber_outOfRange (n : NumeralForm) (h : n.value? = none) {rest : List Char}
    (hrest : NumeralEnds rest) :
    ∃ left, readNumber.run (n.text ++ rest) = .error ⟨.numberOutOfRange, left⟩ := by
  have settles := settles_readNumber n (hrest.ends n)
  rwa [h] at settles

end InView.Json
