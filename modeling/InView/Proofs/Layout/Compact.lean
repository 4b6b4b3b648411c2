import InView.Proofs.Elements
import InView.Proofs.Json.Lexemes
import InView.Proofs.Layout.Storage

/-!
# The two ways of writing a layout

A layout is stored indented, and can also be written without any blanks.  Both texts are those of
one document, so they have the same literals in the same order, and the same characters outside them
but for the blanks.  The literals are the keys of the layout (`Layout.texts`), with the ids in
increasing order.  Control characters are escaped in them, so a line that ends within a literal is
none that was broken for the indentation.

`Layout.withoutBlanks_toText` puts this together with what is loaded from the two texts.
-/

namespace InView

open Json

/-! ## Keys -/

/-- The keys that a layout is written with, in order. -/
def Layout.texts (l : Layout) : List String :=
  ["viewport", "width", "height", "elements"] ++
    l.ids.flatMap fun id => [id, "top", "left", "right", "bottom"]

section

variable (spacing : Spacing) (depth : Nat)

lemma Box.textsOf_pieces (b : Box) :
    textsOf (b.toDocument.pieces spacing depth) = ["top", "left", "right", "bottom"] := by
  simp [toDocument, Document.pieces, Document.membersPieces, Document.memberPieces]

lemma Viewport.textsOf_pieces (v : Viewport) :
    textsOf (v.toDocument.pieces spacing depth) = ["width", "height"] := by
  simp [toDocument, Document.pieces, Document.membersPieces, Document.memberPieces]

lemma Elements.textsOf_membersPieces (first : Bool) (entries : List (String × Box)) :
    textsOf (Document.membersPieces spacing depth first
      (entries.map fun entry => (entry.1, entry.2.toDocument))) =
        entries.flatMap fun entry => [entry.1, "top", "left", "right", "bottom"] := by
  induction entries generalizing first with
  | nil => simp [Document.membersPieces]
  | cons entry entries ih =>
      simp [Document.membersPieces, Document.memberPieces, Box.textsOf_pieces, ih]

/-- A layout has the same keys in every way of writing. -/
lemma Layout.textsOf_pieces (l : Layout) :
    textsOf (l.toDocument.pieces spacing depth) = l.texts := by
  have elements (depth : Nat) : textsOf (l.elements.toDocument.pieces spacing depth) =
      l.ids.flatMap fun id => [id, "top", "left", "right", "bottom"] := by
    simp [Elements.toDocument, Document.pieces, Elements.textsOf_membersPieces, ids, Elements.ids,
      List.flatMap_map]
  simp [toDocument, Document.pieces, Document.membersPieces, Document.memberPieces,
    Viewport.textsOf_pieces, elements, texts]

end

/-! ## Texts -/

namespace Layout

/-- A text that a layout is written as, with any blanks outside literals. -/
structure WrittenAs (l : Layout) (text : String) : Prop where
  /-- Without these blanks it is what is written without blanks. -/
  compact : String.ofList (withoutBlanks text.toList) = l.toDocument.render .compact
  /-- Its literals are those of the keys, in order. -/
  literals : literalsIn text.toList = l.texts.map escapedText
  /-- No control character stands within a literal. -/
  printable : ∀ raw ∈ literalsIn text.toList, Printable raw
  /-- Outside literals there is nothing but blanks and visible characters of ASCII. -/
  visible : ∀ c, .char c ∈ lexemes text.toList → isBlank c ∨ IsVisible c

variable {spacing : Spacing} (blank : spacing.IsBlank)

include blank

lemma writtenAs_render (l : Layout) : l.WrittenAs (l.toDocument.render spacing) := by
  have written : (l.toDocument.render spacing).toList = l.toDocument.write spacing 0 :=
    String.toList_ofList
  have literals : literalsIn (l.toDocument.render spacing).toList = l.texts.map escapedText := by
    rw [written, Document.literalsIn_write blank, textsOf_pieces]
  refine ⟨?_, literals, ?_, ?_⟩
  · rw [written, Document.withoutBlanks_write blank 0 _ 0, Document.render]
  · rw [literals]
    exact List.forall_mem_map.mpr fun text _ => printable_escapedText text
  · rw [written]
    exact fun _ => Document.visible_write blank 0 _

/-- A valid layout comes back from its text, whatever the blanks are. -/
lemma Valid.loads {l : Layout} (valid : l.Valid) :
    ofText (l.toDocument.render spacing) = .ok l.reread :=
  ofText_eq_ok_iff.mpr ⟨document_render blank valid.finite, valid.reread⟩

end Layout

/-- **The two ways of writing differ in blanks outside literals only.**  A valid layout is stored as
a text which, when the blanks outside its literals are deleted, is what is written without blanks.
The literals of both texts are the keys of the layout, with the ids in strictly increasing order of
their bytes, and have no control characters.  The same layout is loaded from both. -/
theorem Layout.withoutBlanks_toText (l : Layout) (valid : l.validate = .ok ()) :
    let compact := l.toDocument.render .compact
    ∃ text, l.toText = .ok text ∧ l.WrittenAs text ∧ l.WrittenAs compact ∧
      (l.ids.Pairwise fun a b => bytes a.toList < bytes b.toList) ∧
      ofText text = .ok l.reread ∧ ofText compact = ofText text := by
  intro compact
  have isValid := validate_eq_ok_iff.mp valid
  obtain ⟨written, loaded⟩ := isValid.stores
  refine ⟨_, written, writtenAs_render Spacing.isBlank_indented l,
    writtenAs_render Spacing.isBlank_compact l, Elements.ids_increasing _, loaded, ?_⟩
  rw [loaded, isValid.loads Spacing.isBlank_compact]

/-- A window without elements, and one whose ids have a quote, a backslash, a line feed and the look
of a document. -/
theorem Layout.withoutBlanks_toText_quoted :
    let window := ofViewport ⟨.ofNat 4, .ofNat 3⟩
    let quoted := (window.withElement "\"\\ \n" ⟨0, 0, 0, 0⟩).withElement "\x7b \"top\" : 1 \x7d"
      ⟨0, 0, 0, 0⟩
    (∃ text, window.toText = .ok text ∧ String.ofList (withoutBlanks text.toList) =
      "\x7b\"viewport\":\x7b\"width\":4.0,\"height\":3.0\x7d,\"elements\":\x7b\x7d\x7d") ∧
    ∃ text, quoted.toText = .ok text ∧
      (literalsIn text.toList).map String.ofList = ["viewport", "width", "height", "elements",
        "\\\"\\\\ \\n", "top", "left", "right", "bottom",
        "\x7b \\\"top\\\" : 1 \x7d", "top", "left", "right", "bottom"] ∧
      ofText (quoted.toDocument.render .compact) = ofText text := by
  intro window quoted
  constructor
  · have valid : window.validate = .ok () := by
      rw [validate, show window.violation? = none by decide +kernel]
    obtain ⟨text, written, like, -⟩ := window.withoutBlanks_toText valid
    refine ⟨text, written, like.compact.trans ?_⟩
    decide +kernel
  · have valid : quoted.validate = .ok () := by
      rw [validate, show quoted.violation? = none by decide +kernel]
    obtain ⟨text, written, like, -, -, -, same⟩ := quoted.withoutBlanks_toText valid
    refine ⟨text, written, ?_, same⟩
    rw [like.literals]
    decide +kernel

end InView
