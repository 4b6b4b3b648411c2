import InView.Proofs.Json.Bytes
import InView.Proofs.Layout.Grammar

/-!
# Kinds of documents

A document holds a layout, or one of the values that a layout is made of or judged by.  Each of
these `DocumentKind`s has a reader of its own, and all of these readers are closed: they end with
the bracket or the quote that closes the value, so nothing behind it changes what is read.

`DocumentKind.document_append` says what this means for a document that is continued: blanks may
follow, and anything else is refused where it begins.
-/

namespace InView

open Json Json.Reader

/-! ## Visibilities -/

namespace Visibility

lemma readName_closed : readName.Closed := by
  refine readLiteral_accepts.closed.bind fun name => ?_
  split
  · exact closed_pure _
  · exact (fails_fail _).closed

lemma readNull_closed : readNull.Closed := by
  refine closed_peekToken (fails_fail _) fun c => ?_
  split
  · exact (fails_fail _).closed.closedFrom c
  · exact (readWord_accepts _).closed.closedFrom c
  · exact (fails_refuse _).closed.closedFrom c

lemma closeTag_closed : closeTag.Closed := by
  refine closed_peekToken (fails_fail _) fun c => ?_
  dsimp only
  split
  · exact advance_closedFrom c
  · exact (fails_fail _).closed.closedFrom c

lemma readTagged_closed : readTagged.Closed := by
  refine closed_peekToken (fails_fail _) fun c => ?_
  split
  · exact (fails_fail _).closed.closedFrom c
  · exact (fails_fail _).closed.closedFrom c
  · exact closedFrom_advance c (readName_closed.bind fun _ => colon_accepts.closed.bind fun _ =>
      readNull_closed.bind fun _ => closeTag_closed.bind fun _ => closed_pure _)
  · exact (fails_fail _).closed.closedFrom c

/-- A visibility ends with its quote or its brace. -/
lemma read_closed : Visibility.read.Closed := by
  refine closed_peekToken (fails_fail _) fun c => ?_
  split
  · exact (fails_fail _).closed.closedFrom c
  · exact closedFrom_advance c readName_closed
  · exact closedFrom_advance c readTagged_closed
  · exact (fails_fail _).closed.closedFrom c

end Visibility

/-! ## Kinds -/

/-- What a document can be read as. -/
inductive DocumentKind where
  | layout
  | box
  | viewport
  | visibility

namespace DocumentKind

/-- The values of a kind. -/
def Value : DocumentKind → Type
  | layout => Layout
  | box => Box
  | viewport => Viewport
  | visibility => Visibility

/-- Reads a value of a kind. -/
def read : (kind : DocumentKind) → Reader kind.Value
  | layout => Layout.read
  | box => Box.read
  | viewport => Viewport.read
  | visibility => Visibility.read

/-- What follows a value does not change what is read, whatever its kind. -/
lemma read_closed (kind : DocumentKind) : kind.read.Closed := by
  cases kind with
  | layout => exact (readRecord_accepts _ Layout.readList_accepts Layout.readObject_accepts).closed
  | box => exact (readRecord_accepts _ Box.readList_accepts Box.readObject_accepts).closed
  | viewport =>
      exact (readRecord_accepts _ Viewport.readList_accepts Viewport.readObject_accepts).closed
  | visibility => exact Visibility.read_closed

/-! ## Behind a document -/

/-- What follows a value is refused with its first character that is not blank. -/
lemma document_trailing {α : Type} {r : Reader α} {cs rest behind : List Char} {a : α} {c : Char}
    (run : r.run cs = .ok (a, rest)) (ahead : rest.dropWhile isBlank = c :: behind) :
    document r cs = .error (.next .trailingCharacters (c :: behind)) := by
  have refused : finish.run rest = .error (.next .trailingCharacters (c :: behind)) := by
    rw [finish, run_peekToken_bind, ahead]
    rfl
  rw [document, run_bind_ok run, run_bind, refused]

/-- **Nothing may follow a document.**  If a text is read as a document of any kind, the same text
with another one behind it is read if and only if that consists of blanks, and then as the same
value.  Otherwise its first character that is not blank is refused one byte behind its beginning,
and what comes behind that character does not matter. -/
theorem document_append (kind : DocumentKind) (text : String) (a : kind.Value)
    (read : document kind.read text.toList = .ok a) (more : String) :
    (∀ a', document kind.read (text ++ more).toList = .ok a' ↔ a' = a ∧ Blanks more.toList) ∧
      (¬Blanks more.toList → ∃ blanks c rest f, more.toList = blanks ++ c :: rest ∧
        Blanks blanks ∧ isBlank c = false ∧
        document kind.read (text ++ more).toList = .error f ∧
        f.position (text ++ more).toList =
          .after (bytes (text.toList ++ blanks) ++ (bytes [c]).take 1) ∧
        f.message (text ++ more).toList =
          "trailing characters at line " ++ (f.position (text ++ more).toList).line.repr ++
            " column " ++ (f.position (text ++ more).toList).column.repr) := by
  obtain ⟨left, run, blanksLeft⟩ := document_eq_ok.mp read
  have runMore := kind.read_closed run more.toList
  rw [String.toList_append]
  refine ⟨fun a' => ?_, fun notBlanks => ?_⟩
  · rw [document_eq_ok, runMore]
    constructor
    · rintro ⟨_, ⟨⟩, blanks⟩
      exact ⟨rfl, fun c mem => blanks c (List.mem_append_right left mem)⟩
    · rintro ⟨rfl, blanks⟩
      exact ⟨_, rfl, blanksLeft.append blanks⟩
  · obtain ⟨blanks, isBlanks, split⟩ := exists_blanks more.toList
    cases ahead : more.toList.dropWhile isBlank with
    | nil =>
        rw [ahead, List.append_nil] at split
        exact absurd (split ▸ isBlanks) notBlanks
    | cons c rest =>
        have aheadLeft : (left ++ more.toList).dropWhile isBlank = c :: rest := by
          rw [dropWhile_blanks blanksLeft, ahead]
        rw [ahead] at split
        refine ⟨blanks, c, rest, _, split, isBlanks, not_of_dropWhile ahead,
          document_trailing runMore aheadLeft, ?_, rfl⟩
        rw [split, ← List.append_assoc]
        exact position_next _ _ _ _

/-- A visibility behind which a line feed follows, or a line feed and two characters of which the
first takes two bytes. -/
theorem document_append_visible :
    document DocumentKind.visibility.read "\"visible\"".toList = .ok Visibility.visible ∧
      document DocumentKind.visibility.read "\"visible\"\n".toList = .ok Visibility.visible ∧
      ¬Blanks "\né!".toList ∧
      ∃ f, document DocumentKind.visibility.read "\"visible\"\né!".toList = .error f ∧
        f.message "\"visible\"\né!".toList = "trailing characters at line 2 column 1" := by
  have read : document Visibility.read "\"visible\"".toList = .ok .visible := by decide +kernel
  have notBlanks : ¬Blanks "\né!".toList := by decide
  refine ⟨read, ?_, notBlanks, ?_⟩
  · exact ((document_append .visibility "\"visible\"" _ read "\n").1 _).mpr ⟨rfl, by decide⟩
  · obtain ⟨blanks, c, rest, f, split, isBlanks, notBlank, refused, position, message⟩ :=
      (document_append .visibility "\"visible\"" _ read "\né!").2 notBlanks
    refine ⟨f, refused, message.trans ?_⟩
    change ['\n', 'é', '!'] = _ at split
    obtain ⟨rfl, rfl⟩ : blanks = ['\n'] ∧ c = 'é' := by
      rcases blanks with _ | ⟨b, _ | ⟨d, blanks⟩⟩
      · cases split
        cases notBlank
      · cases split
        exact ⟨rfl, rfl⟩
      · obtain ⟨rfl, behind⟩ := List.cons.inj split
        obtain ⟨rfl, -⟩ := List.cons.inj behind
        exact absurd (isBlanks 'é' (by simp)) (by decide)
    rw [position]
    decide +kernel

end DocumentKind

end InView
