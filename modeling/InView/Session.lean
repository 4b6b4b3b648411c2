import InView.Check
import InView.Layout.Storage

/-!
# Sessions

A session works on one layout, with a second one saved beside it.  Each request is answered from the
current layout, and only some requests change it.  Whatever is asked about visibility goes
through a check with the layout as its host, so it is logged in the same way.
-/

namespace InView

/-- The layout that is worked on, and the one that was saved last. -/
structure Session where
  layout : Layout
  saved : Layout

/-- What a session is asked to do. -/
inductive Request where
  | insert (id : String) (box : Box)
  | remove (id : String)
  | get (id : String)
  | resize (view : Viewport)
  | scrollBy (dx dy : Binary64)
  | load (text : String)
  | ids
  | validate
  | toText
  | roundTrip
  | boundingBox (id : String)
  | viewport
  | classify (id : String)
  | isVisible (id : String)
  | visible (ids : List String)
  | visibleAll
  | inspect
  | save
  | equalsSaved
  | restore

/-- What a request is answered with. -/
inductive Reply where
  | done
  | box (box : Option Box)
  | viewport (view : Viewport)
  | visibility (visibility : Visibility)
  | flag (flag : Bool)
  | text (text : String)
  | ids (ids : List String)

/-- The reply to a request, the events logged on the way, and the session afterwards. -/
structure Answer where
  reply : Except Fault Reply
  events : List Event
  session : Session

namespace Session

/-- A session on a layout that is saved at once. -/
def ofLayout (layout : Layout) : Session := ⟨layout, layout⟩

/-- An answer that changes nothing. -/
def tell (s : Session) (reply : Except Fault Reply) : Answer := ⟨reply, [], s⟩

/-- An answer that changes the layout. -/
def change (s : Session) (reply : Reply) (layout : Layout) : Answer :=
  ⟨.ok reply, [], { s with layout }⟩

/-- An answer by a check of the layout. -/
def check {α : Type} (s : Session) (c : Check Layout String α) (reply : α → Reply) : Answer :=
  let run := c.run s.layout
  ⟨run.result.map reply, run.events, { s with layout := run.state }⟩

/-- Answers a request. -/
def answer (s : Session) : Request → Answer
  | .insert id box =>
    let (old, layout) := s.layout.insert id box
    s.change (.box old) layout
  | .remove id =>
    let (old, layout) := s.layout.remove id
    s.change (.box old) layout
  | .get id => s.tell (.ok (.box (s.layout.get? id)))
  | .resize view => s.change .done (s.layout.resize view)
  | .scrollBy dx dy => s.change .done (s.layout.scrollBy dx dy)
  | .load text =>
    match Layout.ofText text with
    | .ok layout => s.change .done layout
    | .error fault => s.tell (.error fault)
  | .ids => s.tell (.ok (.ids s.layout.ids))
  | .validate => s.tell (s.layout.validate.map fun _ => .done)
  | .toText => s.tell (s.layout.toText.map .text)
  | .roundTrip => s.tell (s.layout.survivesStorage.map .flag)
  | .boundingBox id => s.check (.readBox Layout.host id) (.box ∘ some)
  | .viewport => s.check (.readViewport Layout.host) .viewport
  | .classify id => s.check (.classify Layout.host id) .visibility
  | .isVisible id => s.check (.isVisible Layout.host id) .flag
  | .visible ids => s.check (.visible Layout.host ids) .ids
  | .visibleAll => s.check (.visible Layout.host s.layout.ids) .ids
  | .inspect => s.tell (.ok (.text s.layout.inspect))
  | .save => ⟨.ok .done, [], { s with saved := s.layout }⟩
  | .equalsSaved => s.tell (.ok (.flag (s.layout == s.saved)))
  | .restore => s.change .done s.saved

/-- Answers requests one after another. -/
def answers (s : Session) : List Request → List Answer
  | [] => []
  | request :: rest =>
    let first := s.answer request
    first :: first.session.answers rest

end Session

end InView
