import InView.Proofs.Json.Continuation
import InView.Proofs.Json.Literal

/-!
# Literals that are cut

A literal ends with its quote, so whatever is cut off a literal, the text ends within it.  The
readers of literals then say nothing else: not of a character whose escape is incomplete, and not of
a surrogate whose other half is missing, as long as that half can still come
(`cuttable_readLiteral`, `cuttable_skipLiteral`).
-/

namespace InView.Json

open Reader

/-- The region of a literal, in which nothing is excused. -/
def literalRegion : Region := .excusing fun _ => False

/-! ## Escapes -/

/-- Where digits are owed at the end, it is the text that has ended. -/
lemma cuttable_hexDigits (owed value : Nat) : (hexDigits owed value).Cuttable literalRegion := by
  induction owed generalizing value with
  | zero => exact cuttable_pure _
  | succ owed ih =>
      have missing : missingDigits (owed + 1) [] = ⟨.unfinishedText, 0⟩ :=
        if_pos (Nat.succ_pos owed)
      refine cuttable_peek (endsShort_of_error (congrArg Except.error missing) rfl) fun c => ?_
      split
      · exact forwardFrom_advance trivial (ih _).forward
      · exact (forward_fail _).from c

lemma cuttable_codeUnit : codeUnit.Cuttable literalRegion := cuttable_hexDigits 4 0

lemma cuttable_pairMark (mark : Char) : (pairMark mark).Cuttable literalRegion := by
  refine cuttable_peek (endsShort_of_error rfl rfl) fun c => ?_
  dsimp only
  split
  · exact advance_forwardFrom trivial
  · exact (forward_fail _).from c

lemma cuttable_trailingPart (leading : Nat) : (trailingPart leading).Cuttable literalRegion := by
  refine (cuttable_pairMark _).bind fun _ => (cuttable_pairMark _).bind fun _ =>
    cuttable_codeUnit.bind_closed codeUnit_accepts.closed nofun fun unit => ?_
  split
  · exact forward_pure _
  · exact forward_fail _

lemma cuttable_numberedChar : numberedChar.Cuttable literalRegion := by
  refine cuttable_codeUnit.bind_closed codeUnit_accepts.closed nofun fun unit => ?_
  split
  · exact forward_fail _
  · split
    · exact (cuttable_trailingPart _).forward
    · exact forward_pure _

lemma cuttable_escapedChar : escapedChar.Cuttable literalRegion := by
  refine cuttable_peek (endsShort_of_error rfl rfl) fun c => ?_
  split
  case h_1 none => cases none
  · exact forwardFrom_advance trivial cuttable_numberedChar.forward
  · split
    · exact forwardFrom_advance trivial (forward_pure _)
    · exact (forward_fail _).from c

lemma cuttable_skipEscape : skipEscape.Cuttable literalRegion := by
  refine cuttable_peek (endsShort_of_error rfl rfl) fun c => ?_
  split
  case h_1 none => cases none
  · exact forwardFrom_advance trivial (cuttable_codeUnit.bind_pure _).forward
  · split
    · exact advance_forwardFrom trivial
    · exact (forward_fail _).from c

/-! ## Literals -/

/-- **A literal that is cut is unfinished.** -/
theorem cuttable_readLiteral : readLiteral.Cuttable literalRegion := by
  refine cuttable_loop (fun read => cuttable_peek (endsShort_of_error rfl rfl) fun c => ?_) _
  split
  case h_1 none => cases none
  · exact forwardFrom_advance trivial (forward_pure _)
  · exact forwardFrom_advance trivial (cuttable_escapedChar.bind_pure _).forward
  · refine forwardFrom_advance trivial ?_
    split
    · exact forward_fail _
    · exact forward_pure _

/-- The same for a literal that is passed over. -/
theorem cuttable_skipLiteral : skipLiteral.Cuttable literalRegion := by
  refine cuttable_loop (fun _ => cuttable_peek (endsShort_of_error rfl rfl) fun c => ?_) _
  split
  case h_1 none => cases none
  · exact forwardFrom_advance trivial (forward_pure _)
  · exact forwardFrom_advance trivial (cuttable_skipEscape.bind_pure _).forward
  · split
    · exact (forward_fail _).from c
    · exact forwardFrom_advance trivial (forward_pure _)

end InView.Json
