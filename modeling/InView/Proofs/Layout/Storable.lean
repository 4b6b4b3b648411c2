import InView.Proofs.Json.Bytes
import InView.Proofs.Json.Printable
import InView.Proofs.Layout.Null

/-!
# Validation is the test for being storable

A layout that is written without being validated can be loaded if and only if it is valid.

* If all its numbers are finite, it is read, and what is read breaks the same rule as the layout, if
  any: ids do not change, finite numbers stay finite, and a number below zero comes back below zero
  because it does not vanish (`validate_reread`).
* Otherwise reading fails at the first number that is not finite, and the message tells the number
  of bytes up to there, since a text without blanks is a single line (`ofText_compact_null`).
-/

namespace InView

open Json

/-! ## Loading -/

namespace Layout

/-- A document that cannot be read fails as its reader does. -/
lemma document_of_error {α : Type} {r : Reader α} {cs : List Char} {failure : Failure}
    (h : r.run cs = .error failure) : Reader.document r cs = .error failure := by
  rw [Reader.document, Reader.run_bind, h]

lemma ofText_of_failure {text : String} {failure : Failure}
    (h : Reader.document read text.toList = .error failure) :
    ofText text = .error (.serialization (failure.message text.toList)) := by
  rw [ofText, h]
  rfl

/-- **A layout of finite numbers is loaded if it is valid**, and refused as it is by validation. -/
theorem ofText_compact {l : Layout} (finite : ∀ x ∈ l.numbers, x.isFinite) :
    ofText (l.toDocument.render .compact) = l.validate.map fun _ => l.reread := by
  rw [ofText_of_read (document_render Spacing.isBlank_compact finite), validate_reread]

/-- **A layout with a number that is not finite is refused at the first such number.** -/
theorem ofText_compact_null {l : Layout} (null : ¬∀ x ∈ l.numbers, x.isFinite) :
    ∃ before x after, FirstNull (l.toDocument.pieces .compact 0) before x after ∧
      (l.toDocument.render .compact).toList = textOf before ++ "null".toList ++ textOf after ∧
      ofText (l.toDocument.render .compact) =
        .error (.serialization ("invalid type: null, expected f64 at line 1 column " ++
          (byteSize (textOf before ++ "null".toList)).repr)) := by
  obtain ⟨before, x, after, first, fails⟩ := failsAtNull Spacing.isBlank_compact 0 null
  have written : (l.toDocument.render .compact).toList = l.toDocument.write .compact 0 := by
    rw [Document.render, String.toList_ofList]
  have text : l.toDocument.write .compact 0 =
      textOf before ++ "null".toList ++ textOf after := by
    rw [← Document.textOf_pieces, first.split, textOf_append, textOf_cons, Piece.chars,
      numeral_of_not_finite first.null, List.append_assoc]
  have failed : Reader.document read (l.toDocument.render .compact).toList =
      .error (.here nullRefused (textOf after)) := by
    have run := fails []
    rw [List.append_nil, List.append_nil, Document.textOf_pieces] at run
    rw [written]
    exact document_of_error run
  have line : '\n' ∉ textOf before ++ "null".toList := by
    have printable := Document.printable_write 0 l.toDocument
    rw [text, printable_append] at printable
    exact printable.1.lineFeed_not_mem
  have position := position_here line nullRefused (textOf after)
  refine ⟨before, x, after, first, written.trans text, ?_⟩
  rw [ofText_of_failure failed, written, text, Failure.message]
  simp only [position]
  rfl

end Layout

/-- **Validation accepts exactly the layouts that can be stored.**  A layout of finite numbers that
is written without blanks and without being validated is loaded, with its ids, if and only if it is
valid, and otherwise the fault is that of validation.  A number that is not finite is written as
`null`, and the fault then tells where the first of them ends.  A valid layout is also loaded from
the text that it is stored as. -/
theorem Layout.loads_iff_valid (l : Layout) :
    let text := l.toDocument.render .compact
    ((∀ x ∈ l.numbers, x.isFinite) →
      ((∃ l', ofText text = .ok l' ∧ l'.ids = l.ids) ↔ l.validate = .ok ()) ∧
        ∀ fault, l.validate = .error fault → ofText text = .error fault) ∧
    ((∃ x ∈ l.numbers, x.isFinite = false) →
      ∃ before x after, FirstNull (l.toDocument.pieces .compact 0) before x after ∧
        l.numbers = numbersOf before ++ x :: numbersOf after ∧
        text.toList = textOf before ++ "null".toList ++ textOf after ∧
        ofText text =
          .error (.serialization ("invalid type: null, expected f64 at line 1 column " ++
            (byteSize (textOf before ++ "null".toList)).repr))) ∧
    (l.validate = .ok () →
      ∃ text l', l.toText = .ok text ∧ ofText text = .ok l' ∧ l'.ids = l.ids) := by
  intro text
  have ids : l.reread.ids = l.ids := Elements.ids_map _ _
  refine ⟨fun finite => ?_, fun ⟨x, mem, null⟩ => ?_, fun valid => ?_⟩
  · have loaded : ofText text = l.validate.map fun _ => l.reread := ofText_compact finite
    rw [loaded]
    cases l.validate with
    | error fault =>
        refine ⟨iff_of_false (by simp [Except.map]) nofun, fun _ same => ?_⟩
        cases same
        rfl
    | ok => exact ⟨iff_of_true ⟨_, rfl, ids⟩ rfl, nofun⟩
  · have notFinite : ¬∀ x ∈ l.numbers, x.isFinite := by
      intro finite
      rw [finite x mem] at null
      cases null
    obtain ⟨before, x, after, first, isText, refused⟩ := ofText_compact_null notFinite
    refine ⟨before, x, after, first, ?_, isText, refused⟩
    rw [← l.numbersOf_pieces, first.split, numbersOf_append, numbersOf_number]
  · have stored := (validate_eq_ok_iff.mp valid).stores
    exact ⟨_, _, stored.1, stored.2, ids⟩

/-- A window with a desk, one of negative width, and one with an element whose left edge is
infinite.  The first null of the last ends behind 78 bytes, of which the id takes two. -/
theorem Layout.loads_iff_valid_window :
    let desk := (ofViewport ⟨.ofNat 1024, .ofNat 768⟩).withElement "desk"
      ⟨-.ofNat 5, 0, .ofNat 1024, 0⟩
    let negative := ofViewport ⟨-.ofNat 1, 0⟩
    let endless := (ofViewport ⟨.ofNat 4, 0⟩).withElement "é" ⟨0, .infinite false, 0, 0⟩
    (∃ l', ofText (desk.toDocument.render .compact) = .ok l' ∧ l'.ids = ["desk"]) ∧
      ofText (negative.toDocument.render .compact) =
        .error (.validation "viewport width must be finite and >= 0") ∧
      ofText (endless.toDocument.render .compact) =
        .error (.serialization "invalid type: null, expected f64 at line 1 column 78") := by
  intro desk negative endless
  refine ⟨?_, ?_, ?_⟩
  · have valid : desk.validate = .ok () := by
      rw [validate, show desk.violation? = none by decide +kernel]
    exact ((desk.loads_iff_valid.1 (by decide +kernel)).1.mpr valid)
  · refine (negative.loads_iff_valid.1 (by decide +kernel)).2 _ ?_
    rw [validate, show negative.violation? = some .width by decide +kernel]
    rfl
  · have infinite : .infinite false ∈ endless.numbers := List.mem_of_getElem? (i := 3) rfl
    obtain ⟨before, x, after, first, -, -, refused⟩ :=
      endless.loads_iff_valid.2.1 ⟨_, infinite, rfl⟩
    rw [refused, first.before_eq]
    have column : byteSize (textOf ((endless.toDocument.pieces .compact 0).takeWhile
        fun p => !p.isNull) ++ "null".toList) = 78 := by
      decide +kernel
    rw [column]
    rfl

end InView
