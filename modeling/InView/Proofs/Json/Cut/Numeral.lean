import InView.Json.Ignored
import InView.Proofs.Json.Continuation
import InView.Proofs.Json.Numeral

/-!
# Numerals that are cut

The beginning of a numeral can be a numeral of its own, out of range, or none at all.  All of this
shows at its end: whatever the readers of numbers find wrong with the beginning of a numeral that
they read, they place behind it (`cuttable_readNumber`, `cuttable_skipNumber`).

The exception would be an exponent out of bounds, which is refused within its digits.  But no digit
that follows brings it back within bounds, so it is not the beginning of a numeral that is read.
-/

namespace InView.Json

open Reader

/-- What may be wrong with a numeral. -/
def Cause.isNumeric : Cause → Bool
  | .invalidNumber | .numberOutOfRange => true
  | _ => false

/-- The region of a numeral. -/
def numeralRegion : Region := .excusing (·.isNumeric)

variable (negative : Bool) (significand surplus : Nat) (power : Int)

/-! ## Digits -/

lemma cuttable_takeIf_numeral (kind : Char → Bool) : (takeIf kind).Cuttable numeralRegion :=
  cuttable_takeIf fun _ => trivial

/-- That there is no digit is a failure at the end, for that end or as a fault of the numeral. -/
lemma cuttable_someDigits (atEnd : Cause) (fits : atEnd.isEnd ∨ atEnd.isNumeric) :
    (someDigits atEnd).Cuttable numeralRegion := by
  refine cuttable_peek ?_ fun c => ?_
  · intro f failed u
    cases failed
    exact ⟨rfl, fits⟩
  · dsimp only
    split
    · exact (cuttable_takeWhile fun _ => trivial).forward.from c
    · exact (forward_fail _).from c

lemma cuttable_wholeDigits (atEnd : Cause) (fits : atEnd.isEnd ∨ atEnd.isNumeric) :
    (wholeDigits atEnd).Cuttable numeralRegion := by
  refine (cuttable_takeIf_numeral _).bind fun zero => ?_
  split
  · refine cuttable_peek nofun fun c => ?_
    split
    · exact (forward_fail _).from c
    · exact (forward_pure _).from c
  · exact cuttable_someDigits atEnd fits

lemma cuttable_exponentSign : exponentSign.Cuttable numeralRegion := by
  refine (cuttable_takeIf_numeral _).bind fun minus => ?_
  split
  · exact cuttable_pure _
  · exact (cuttable_takeIf_numeral _).bind_pure _

/-! ## Exponents -/

lemma cuttable_scaledNumber : (scaledNumber negative significand power).Cuttable numeralRegion := by
  unfold scaledNumber
  split
  · exact cuttable_pure _
  · refine ⟨forward_fail _, fun f failed u => ?_⟩
    cases failed
    exact ⟨rfl, .inr rfl⟩

/-- Digits that pass the bound pass it at the same place if others follow. -/
lemma absorb_append {limit n m : Nat} {d : Char} {ds left : List Char}
    (h : absorb limit n ds = (m, d :: left)) (more : List Char) :
    absorb limit n (ds ++ more) = (m, d :: (left ++ more)) := by
  induction ds generalizing n with
  | nil => cases h
  | cons c ds ih =>
      rw [absorb] at h
      rw [List.cons_append, absorb]
      split
      case isTrue fits =>
        rw [if_pos fits] at h
        exact ih h
      case isFalse passes =>
        rw [if_neg passes] at h
        cases h
        rfl

/-- Digits up to the end of a text are the first ones of those that are read if it goes on. -/
lemma someDigits_append {atEnd : Cause} {cs ds ds' u rest : List Char}
    (run : (someDigits atEnd).run cs = .ok (ds, []))
    (longer : (someDigits atEnd).run (cs ++ u) = .ok (ds', rest)) : ∃ more, ds' = ds ++ more := by
  obtain ⟨rfl, isDigits, -⟩ := someDigits_split run
  obtain ⟨split, -, ends⟩ := someDigits_split longer
  rw [List.append_nil] at split
  rcases List.append_eq_append_iff.mp split with ⟨more, rfl, -⟩ | ⟨behind, rfl, rfl⟩
  · exact ⟨more, rfl⟩
  · cases behind with
    | nil => exact ⟨[], by simp⟩
    | cons d behind =>
        have digit := isDigits.2 d (by simp)
        rw [ends d rfl] at digit
        cases digit

lemma cuttable_readExponent :
    (readExponent negative significand power).Cuttable numeralRegion := by
  refine cuttable_exponentSign.bind fun down => ⟨fun cs => ?_, endsShort_of_error rfl rfl⟩
  have digits := (cuttable_someDigits .unfinishedValue (.inl rfl)).forward cs
  refine digits.bind_of (fun {ds rest} _ => ?_) ?_
  · split
    · exact (cuttable_scaledNumber _ _ _).forward rest
    · split
      · exact forward_fail _ rest
      · exact forward_pure _ rest
  · intro ds ds' u rest' f x rest run run' failed read
    obtain ⟨more, rfl⟩ := someDigits_append run run'
    split at failed
    · obtain ⟨t, rfl, -⟩ := digits.whole run
      exact ((cuttable_scaledNumber _ _ _).short failed u).behind trivial
    case h_2 passes =>
      -- the longer exponent passes the bound as well, and is refused as the shorter one is
      rw [absorb_append passes more] at read
      split at failed
      case isTrue refused =>
        simp only [if_pos refused] at read
        cases read
      case isFalse => cases failed

/-! ## Numbers -/

lemma cuttable_readPower : (readPower negative significand power).Cuttable numeralRegion := by
  refine (cuttable_takeIf_numeral _).bind fun mark => ?_
  split
  · exact cuttable_readExponent _ _ _
  · exact cuttable_scaledNumber _ _ _

lemma cuttable_readFraction :
    (readFraction negative significand surplus).Cuttable numeralRegion :=
  (cuttable_someDigits _ (.inl rfl)).bind fun _ => cuttable_readPower _ _ _

lemma cuttable_readUnsigned : (readUnsigned negative).Cuttable numeralRegion := by
  refine (cuttable_wholeDigits _ (.inl rfl)).bind fun digits =>
    (cuttable_takeIf_numeral _).bind fun point => ?_
  split
  · exact cuttable_readFraction _ _ _
  · refine (cuttable_takeIf_numeral _).bind fun mark => ?_
    split
    · exact cuttable_readExponent _ _ _
    · split
      · exact cuttable_pure _
      · exact cuttable_scaledNumber _ _ _

/-- **What is wrong with the beginning of a numeral is wrong at its end.** -/
theorem cuttable_readNumber : readNumber.Cuttable numeralRegion :=
  (cuttable_takeIf_numeral _).bind cuttable_readUnsigned

lemma cuttable_skipExponent : skipExponent.Cuttable numeralRegion := by
  refine (cuttable_takeIf_numeral _).bind fun mark => ?_
  split
  · exact cuttable_exponentSign.bind fun _ => (cuttable_someDigits _ (.inr rfl)).bind_pure _
  · exact cuttable_pure _

/-- The same for a numeral that is passed over. -/
theorem cuttable_skipNumber : skipNumber.Cuttable numeralRegion := by
  refine (cuttable_takeIf_numeral _).bind fun _ => (cuttable_wholeDigits _ (.inr rfl)).bind fun _ =>
    (cuttable_takeIf_numeral _).bind fun point => ?_
  split
  · exact (cuttable_someDigits _ (.inr rfl)).bind fun _ => cuttable_skipExponent
  · exact cuttable_skipExponent

end InView.Json
