import InView.Binary64.Basic

/-!
# Boxes and viewports

An element is known by the offsets of its four edges from the top left corner of the viewport, in
pixels, and the viewport by its two dimensions.  Nothing orders opposite edges: a box whose
right edge lies left of its left edge is kept as it was given, and so are `nan` and infinite
edges.

A box is also a rectangle given by two corners, and a viewport is also a size; both conversions
only rename numbers.
-/

namespace InView

/-- The edge offsets of an element. -/
structure Box where
  top : Binary64
  left : Binary64
  right : Binary64
  bottom : Binary64
  deriving DecidableEq, Inhabited

/-- The dimensions of the visible area. -/
structure Viewport where
  width : Binary64
  height : Binary64
  deriving DecidableEq, Inhabited

/-- A rectangle spanned by the corners `(x0, y0)` and `(x1, y1)`. -/
structure Rect where
  x0 : Binary64
  y0 : Binary64
  x1 : Binary64
  y1 : Binary64
  deriving DecidableEq

/-- A width and a height. -/
structure Size where
  width : Binary64
  height : Binary64
  deriving DecidableEq

namespace Box

/-- Boxes are equal if their edges are numerically equal, so a box with a `nan` edge equals
none. -/
instance : BEq Box :=
  ⟨fun a b => a.top == b.top && a.left == b.left && a.right == b.right && a.bottom == b.bottom⟩

/-- The box of a given extent with its top left corner at `(left, top)`. -/
def ofOriginSize (left top width height : Binary64) : Box :=
  ⟨top, left, left + width, top + height⟩

/-- The distance from the left edge to the right one. -/
def width (b : Box) : Binary64 := b.right - b.left

/-- The distance from the top edge to the bottom one. -/
def height (b : Box) : Binary64 := b.bottom - b.top

/-- The box moved by `dx` to the right and by `dy` down. -/
def translate (b : Box) (dx dy : Binary64) : Box :=
  ⟨b.top + dy, b.left + dx, b.right + dx, b.bottom + dy⟩

/-- The box with the corners of a rectangle. -/
def ofRect (r : Rect) : Box := ⟨r.y0, r.x0, r.x1, r.y1⟩

/-- The rectangle with the corners of a box. -/
def toRect (b : Box) : Rect := ⟨b.left, b.top, b.right, b.bottom⟩

/-- The four edges, in the order of the fields. -/
def edges (b : Box) : List Binary64 := [b.top, b.left, b.right, b.bottom]

end Box

namespace Viewport

/-- Viewports are equal if their dimensions are numerically equal. -/
instance : BEq Viewport := ⟨fun a b => a.width == b.width && a.height == b.height⟩

/-- The closed rectangle that the viewport shows, as a box. -/
def bounds (v : Viewport) : Box := ⟨0, 0, v.width, v.height⟩

/-- The viewport of a size. -/
def ofSize (s : Size) : Viewport := ⟨s.width, s.height⟩

/-- The size of a viewport. -/
def toSize (v : Viewport) : Size := ⟨v.width, v.height⟩

end Viewport

end InView
