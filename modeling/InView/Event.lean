import InView.Inspect

/-!
# Logged events

A check logs an event for each element that it does not find visible.  An event keeps what was read
for the element and how the two lie to each other; its fields are what the log shows.
-/

namespace InView

/-- An element found outside the viewport, with what was read. -/
structure Event where
  box : Box
  viewport : Viewport
  visibility : Visibility
  deriving DecidableEq

/-- The fields of an event in the log, by name; the last three hold inspected values. -/
def Event.fields (e : Event) : List (String × String) :=
  [("level", "DEBUG"), ("span", "classify_element"), ("message", "element outside viewport"),
    ("bbox", e.box.inspect), ("viewport", e.viewport.inspect),
    ("visibility", e.visibility.inspect)]

end InView
