import InView.Geometry

/-!
# Visibility of a box

The one question of this library: does a box lie inside the viewport?  `classify` compares the
right and the bottom edge with the far sides of the viewport first and the top and the left edge
with the origin second, so a box that leaves on both sides overflows at the end.  Edges on the
border are inside.

Comparisons with `nan` fail, so a `nan` edge or dimension never puts a box outside.
-/

namespace InView

/-- How a box lies in a viewport. -/
inductive Visibility where
  /-- No edge is found outside. -/
  | visible
  /-- The right or the bottom edge is past the far side. -/
  | overflowsEnd
  /-- The top or the left edge is before the origin. -/
  | overflowsStart
  deriving DecidableEq

namespace Visibility

/-- Whether nothing was found outside. -/
def isVisible (v : Visibility) : Bool := v = .visible

end Visibility

/-- How a box lies in a viewport; the far sides are looked at first. -/
def classify (box : Box) (view : Viewport) : Visibility :=
  if view.width < box.right ∨ view.height < box.bottom then .overflowsEnd
  else if box.top < 0 ∨ box.left < 0 then .overflowsStart
  else .visible

/-- Whether a box is found to lie inside a viewport. -/
def Box.isVisibleIn (box : Box) (view : Viewport) : Bool := (classify box view).isVisible

end InView
