import InView.Layout.Document

/-!
# Storing layouts

A layout is stored as an indented document.  Only valid layouts are written, and only valid ones are
accepted when they are read, so what has been stored can be loaded again.
-/

namespace InView.Layout

/-- The layout that a text stores, if it is a valid one. -/
def ofText (text : String) : Except Fault Layout := do
  match Json.Reader.document Layout.read text.toList with
  | .error failure => throw (.serialization (failure.message text.toList))
  | .ok layout =>
    layout.validate
    return layout

/-- The text that stores a layout, if it is a valid one. -/
def toText (l : Layout) : Except Fault String := do
  l.validate
  return l.toDocument.render .indented

/-- Whether a layout that is stored and loaded again comes back equal. -/
def survivesStorage (l : Layout) : Except Fault Bool := do
  let loaded ← ofText (← l.toText)
  return loaded == l

end InView.Layout
