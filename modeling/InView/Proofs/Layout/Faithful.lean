import InView.Proofs.Json.Spelled
import InView.Proofs.Layout.Storage

/-!
# Stored texts are faithful

The text that stores a layout spells it exactly: rounded once, each numeral gives the number at its
place, and each key is a literal of its id.  Reading it may round more than once and so give a
neighbour of a number, but nothing of the layout is lost in the text.  In particular no two layouts
are stored as the same text, not even if they differ in the sign of a zero only.

A layout is known from its document (`Layout.toDocument_injective`), and its document from any text
that spells it (`Document.spelledBy_unique`).
-/

namespace InView

open Json

/-! ## Documents of layouts -/

lemma Box.toDocument_injective {b b' : Box} (h : b.toDocument = b'.toDocument) : b = b' := by
  obtain ⟨top, left, right, bottom⟩ := b
  simp only [toDocument, Document.object.injEq, List.cons.injEq, Prod.mk.injEq,
    Document.number.injEq, true_and, and_true] at h
  obtain ⟨rfl, rfl, rfl, rfl⟩ := h
  rfl

lemma Viewport.toDocument_injective {v v' : Viewport} (h : v.toDocument = v'.toDocument) :
    v = v' := by
  obtain ⟨width, height⟩ := v
  simp only [toDocument, Document.object.injEq, List.cons.injEq, Prod.mk.injEq,
    Document.number.injEq, true_and, and_true] at h
  obtain ⟨rfl, rfl⟩ := h
  rfl

lemma Elements.toDocument_injective {e e' : Elements} (h : e.toDocument = e'.toDocument) :
    e = e' := by
  obtain ⟨entries, sorted⟩ := e
  obtain ⟨entries', sorted'⟩ := e'
  simp only [toDocument, Document.object.injEq] at h
  have injective :
      Function.Injective fun entry : String × Box => (entry.1, entry.2.toDocument) := by
    intro entry entry' same
    obtain ⟨ids, boxes⟩ := Prod.mk.inj same
    exact Prod.ext ids (Box.toDocument_injective boxes)
  obtain rfl := injective.list_map h
  rfl

lemma Layout.toDocument_injective {l l' : Layout} (h : l.toDocument = l'.toDocument) : l = l' := by
  obtain ⟨viewport, elements⟩ := l
  simp only [toDocument, Document.object.injEq, List.cons.injEq, Prod.mk.injEq, true_and,
    and_true] at h
  obtain ⟨viewports, elements⟩ := h
  rw [Viewport.toDocument_injective viewports, Elements.toDocument_injective elements]

lemma Box.isFinite_toDocument {b : Box} (h : b.isFinite) : b.toDocument.IsFinite := by
  simp only [isFinite, edges, List.all_cons, List.all_nil, Bool.and_true, Bool.and_eq_true] at h
  simp only [toDocument, Document.IsFinite, Document.MembersFinite, and_true]
  exact h

/-- A layout of finite numbers is a document of finite numbers. -/
lemma Layout.isFinite_toDocument {l : Layout} (finite : ∀ x ∈ l.numbers, x.isFinite) :
    l.toDocument.IsFinite := by
  obtain ⟨width, height, boxes⟩ := Layout.finite_numbers_iff.mp finite
  have elements : l.elements.toDocument.IsFinite := by
    rw [Elements.toDocument, Document.IsFinite, Document.membersFinite_iff]
    intro member mem
    obtain ⟨entry, held, rfl⟩ := List.mem_map.mp mem
    exact Box.isFinite_toDocument (boxes entry held)
  exact ⟨⟨width, height, trivial⟩, elements, trivial⟩

/-! ## Stored texts -/

namespace Layout

/-- A layout that is stored is spelled by its text. -/
lemma spelledBy_of_toText {l : Layout} {text : String} (h : l.toText = .ok text) :
    l.toDocument.SpelledBy text.toList := by
  cases checked : l.validate with
  | error fault =>
      rw [toText, checked] at h
      cases h
  | ok =>
      have valid := validate_eq_ok_iff.mp checked
      rw [valid.stores.1] at h
      cases h
      rw [Document.render, String.toList_ofList]
      exact Document.spelledBy_write Spacing.isBlank_indented 0 _ (isFinite_toDocument valid.finite)

/-- **What is stored is faithful.**  A valid layout is stored as a text that spells it: its
numerals, taken as decimals and rounded to nearest with ties to even, give its numbers with their
signs, and its keys are literals of the ids.  The text spells no other document, and no other layout
is stored as the same text. -/
theorem toText_faithful (l : Layout) (valid : l.validate = .ok ()) :
    ∃ text, l.toText = .ok text ∧ l.toDocument.SpelledBy text.toList ∧
      (∀ d : Document, d.SpelledBy text.toList → d = l.toDocument) ∧
      ∀ other : Layout, other.toText = .ok text → other = l := by
  have stored := (validate_eq_ok_iff.mp valid).stores.1
  have spelled := spelledBy_of_toText stored
  have only : ∀ d : Document, d.SpelledBy (l.toDocument.render .indented).toList →
      d = l.toDocument := fun d there =>
    (Document.spelledBy_unique d _ there spelled numeralEnds_nil numeralEnds_nil rfl).1
  refine ⟨_, stored, spelled, only, fun other same => ?_⟩
  exact toDocument_injective (only _ (spelledBy_of_toText same))

/-- Numbers from both ends of the format under an id that has to be escaped.  The layout that
differs from this one in the sign of a zero is stored as another text. -/
theorem toText_faithful_signs :
    let window (zero : Binary64) := (ofViewport ⟨zero, .ofNat (10 ^ 16)⟩).withElement "\"\n"
      ⟨.ofDecimal true ⟨5, -324⟩, 0, .ofDecimal false ⟨17976931348623157, 292⟩,
        .ofNat 7205759403792799⟩
    (window (-0)).validate = .ok () ∧ (window 0).toText ≠ (window (-0)).toText := by
  intro window
  have valid : (window (-0)).validate = .ok () := by
    rw [validate, show (window (-0)).violation? = none by decide +kernel]
  obtain ⟨text, stored, -, -, only⟩ := toText_faithful (window (-0)) valid
  refine ⟨valid, fun same => ?_⟩
  have width := congrArg (·.viewport.width) (only (window 0) (same.trans stored))
  revert width
  decide +kernel

end Layout

end InView
