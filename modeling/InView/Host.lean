import InView.Fault
import InView.Geometry
import InView.Layout.Basic

/-!
# Hosts

A host is whatever knows where elements are: a browser, a window system, a stored layout.  It is
asked for the box of an element and for the viewport, answers with a value or a fault, and may
be in another state afterwards, so two equal questions need not have equal answers.
-/

namespace InView

/-- A source of boxes for elements of a type `ε`, with states of a type `σ`. -/
structure Host (σ ε : Type) where
  box : ε → σ → Except Fault Box × σ
  viewport : σ → Except Fault Viewport × σ

/-- A layout answers from what it holds, and stays as it is. -/
def Layout.host : Host Layout String where
  box id l :=
    match l.get? id with
    | some box => (.ok box, l)
    | none => (.error (.unknownElement id), l)
  viewport l := (.ok l.viewport, l)

/-! ## Scripted hosts -/

/-- The replies that are still to come to one question; the last one repeats for ever. -/
structure Replies (α : Type) where
  next : Except Fault α
  later : List (Except Fault α)

/-- The next reply, and the replies after it. -/
def Replies.take {α : Type} (r : Replies α) : Except Fault α × Replies α :=
  match r.later with
  | [] => (r.next, r)
  | next :: later => (r.next, ⟨next, later⟩)

/-- What a host will reply: for each of its elements, and for the viewport. -/
structure Script where
  boxes : List (String × Replies Box)
  viewports : Replies Viewport

namespace Script

/-- The entries with other replies under an id. -/
def setReplies (id : String) (replies : Replies Box) :
    List (String × Replies Box) → List (String × Replies Box)
  | [] => []
  | (other, held) :: rest =>
    if other = id then (other, replies) :: rest else (other, held) :: setReplies id replies rest

/-- A host that replies by its script, and that has no other elements. -/
def host : Host Script String where
  box id s :=
    match s.boxes.lookup id with
    | some replies =>
      let (reply, others) := replies.take
      (reply, { s with boxes := setReplies id others s.boxes })
    | none => (.error (.unknownElement id), s)
  viewport s :=
    let (reply, others) := s.viewports.take
    (reply, { s with viewports := others })

end Script

end InView
