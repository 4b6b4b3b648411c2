import InView.Decimal.Numeral
import InView.Layout.Basic
import InView.Text.Quoted
import InView.Visibility

/-!
# Inspection texts

How values are shown to someone who inspects them, in messages and in logged events: a number by
its shortest numeral, a box or a viewport by its name and its fields in order.
-/

namespace InView

/-- Inspected numbers are plain from `0.0001` to below `10 ^ 16`; an exponent that is not
negative has no sign, and a tie between two shortest numerals goes up. -/
def NumeralStyle.inspection : NumeralStyle where
  tie := .upper
  leastPlain := -4
  greatestPlain := 15
  exponentPlus := []
  nan := "NaN"
  infinity := "inf"
  negativeInfinity := "-inf"

namespace Binary64

/-- A number as it is inspected. -/
def inspect (x : Binary64) : String := String.ofList (NumeralStyle.inspection.numeral x)

end Binary64

/-- A named record of inspected fields on one line. -/
def inspectRecord (name : String) (fields : List (String × String)) : String :=
  let shown := fields.map fun (field, value) => field ++ ": " ++ value
  name ++ " \x7b " ++ ", ".intercalate shown ++ " \x7d"

/-- A box as it is inspected. -/
def Box.inspect (b : Box) : String :=
  inspectRecord "BoundingBox"
    [("top", b.top.inspect), ("left", b.left.inspect), ("right", b.right.inspect),
      ("bottom", b.bottom.inspect)]

/-- A viewport as it is inspected. -/
def Viewport.inspect (v : Viewport) : String :=
  inspectRecord "Viewport" [("width", v.width.inspect), ("height", v.height.inspect)]

/-- A visibility as it is inspected. -/
def Visibility.inspect : Visibility → String
  | .visible => "Visible"
  | .overflowsEnd => "OverflowsEnd"
  | .overflowsStart => "OverflowsStart"

/-- A layout as it is inspected: the viewport, and the elements in order. -/
def Layout.inspect (l : Layout) : String :=
  let element := fun (entry : String × Box) => Text.quoted entry.1 ++ ": " ++ entry.2.inspect
  let elements := "\x7b" ++ ", ".intercalate (l.elements.entries.map element) ++ "\x7d"
  inspectRecord "LayoutSnapshot" [("viewport", l.viewport.inspect), ("elements", elements)]

end InView
