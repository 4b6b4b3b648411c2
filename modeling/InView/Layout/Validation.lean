import InView.Fault
import InView.Layout.Basic

/-!
# Valid layouts

A layout can be stored if its dimensions are finite and not negative, no id is empty, and every edge
is finite.  `violation?` finds the first rule that is broken, in this order: the width, the
height, and then the elements in the order of their ids.
-/

namespace InView

/-- A rule that a layout breaks. -/
inductive Violation where
  | width
  | height
  | emptyId
  | nonFiniteEdge (id : String)
  deriving DecidableEq

namespace Violation

/-- What a layout must have, or what it has wrongly. -/
def message : Violation → String
  | width => "viewport width must be finite and >= 0"
  | height => "viewport height must be finite and >= 0"
  | emptyId => "element id must be non-empty"
  | nonFiniteEdge id => "element " ++ Text.quoted id ++ " has a non-finite edge"

end Violation

/-- Whether a number can be a dimension of a window. -/
def Binary64.isDimension (x : Binary64) : Bool := x.isFinite && !decide (x < 0)

/-- Whether all four edges are finite. -/
def Box.isFinite (b : Box) : Bool := b.edges.all Binary64.isFinite

namespace Layout

/-- The rule that an element breaks. -/
def elementViolation? (entry : String × Box) : Option Violation :=
  if entry.1 = "" then some .emptyId
  else if entry.2.isFinite then none
  else some (.nonFiniteEdge entry.1)

/-- The first rule that a layout breaks. -/
def violation? (l : Layout) : Option Violation :=
  if !l.viewport.width.isDimension then some .width
  else if !l.viewport.height.isDimension then some .height
  else l.elements.entries.findSome? elementViolation?

/-- Nothing for a layout that can be stored, and the first violation as a fault for any other. -/
def validate (l : Layout) : Except Fault Unit :=
  match l.violation? with
  | none => .ok ()
  | some violation => .error (.validation violation.message)

end Layout

end InView
