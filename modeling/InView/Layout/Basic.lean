import InView.Elements

/-!
# Layouts

A layout is a viewport with elements: what a window shows at one moment.  Elements come and go,
the window is resized, and the page is scrolled, which moves every element the opposite way.
-/

namespace InView

/-- A viewport and the elements laid out around it. -/
structure Layout where
  viewport : Viewport
  elements : Elements
  deriving Inhabited

namespace Layout

/-- Numerically equal viewports and elements. -/
instance : BEq Layout := ⟨fun a b => a.viewport == b.viewport && a.elements == b.elements⟩

/-- A viewport without elements. -/
def ofViewport (view : Viewport) : Layout := ⟨view, .empty⟩

/-- The box of an element. -/
def get? (l : Layout) (id : String) : Option Box := l.elements.get? id

/-- The ids of the elements, in increasing order. -/
def ids (l : Layout) : List String := l.elements.ids

/-- The layout with a box under an id. -/
def withElement (l : Layout) (id : String) (box : Box) : Layout :=
  { l with elements := l.elements.insert id box }

/-- The layout with elements added in order, a later one replacing an earlier one of its id. -/
def withElements (l : Layout) (entries : List (String × Box)) : Layout :=
  entries.foldl (fun l entry => l.withElement entry.1 entry.2) l

/-- Puts a box under an id, and returns the box that it replaces. -/
def insert (l : Layout) (id : String) (box : Box) : Option Box × Layout :=
  (l.get? id, l.withElement id box)

/-- Removes an element, and returns its box. -/
def remove (l : Layout) (id : String) : Option Box × Layout :=
  (l.get? id, { l with elements := l.elements.erase id })

/-- The layout in a window of another size. -/
def resize (l : Layout) (view : Viewport) : Layout := { l with viewport := view }

/-- The layout after scrolling by `(dx, dy)`: the elements move the opposite way. -/
def scrollBy (l : Layout) (dx dy : Binary64) : Layout :=
  { l with elements := l.elements.map fun box => box.translate (-dx) (-dy) }

end Layout

end InView
