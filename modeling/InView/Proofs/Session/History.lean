import InView.Proofs.Elements
import InView.Proofs.Session.Run
import Mathlib.Data.List.DropRight

/-!
# What a layout keeps of its history

A layout in a session is known from what was asked of it, without going through its states.  The
viewport is that of the last request that brought one.  What is under an id was settled by the
last request that put a box there, removed it or replaced the whole layout, and has since been
moved by every scroll and by nothing else.

`viewportAfter` and `boxAfter` read this off a history from its end.  One request adds to them what
it does to the layout (`viewport_next`, `get?_next`), and so they follow every run.
-/

namespace InView

/-! ## Reading a history from its end -/

namespace Request

/-- The viewport that a request brings, if it brings one. -/
def viewport? : Request → Option Viewport
  | .resize view => some view
  | .load text => (Layout.ofText text).toOption.map (·.viewport)
  | _ => none

/-- What a request leaves under an id whatever was there before, if it settles that. -/
def settles? (id : String) : Request → Option (Option Box)
  | .insert other box => if id = other then some (some box) else none
  | .remove other => if id = other then some none else none
  | .load text => (Layout.ofText text).toOption.map (·.get? id)
  | _ => none

/-- The offsets by which a request scrolls, if it does. -/
def scroll? : Request → Option (Binary64 × Binary64)
  | .scrollBy dx dy => some (dx, dy)
  | _ => none

/-- The scrolls among some requests, in order. -/
def scrolls (requests : List Request) : List (Binary64 × Binary64) := requests.filterMap scroll?

/-- Whether a request changes the layout that is worked on. -/
def changes : Request → Bool
  | .insert .. | .remove _ | .resize _ | .scrollBy .. | .restore => true
  | .load text => (Layout.ofText text).isOk
  | _ => false

end Request

/-- A box behind some scrolls, in order. -/
def Box.scrolled (box : Box) (scrolls : List (Binary64 × Binary64)) : Box :=
  scrolls.foldl (fun box offset => box.translate (-offset.1) (-offset.2)) box

@[simp] lemma Box.scrolled_nil (box : Box) : box.scrolled [] = box := rfl

lemma Box.scrolled_append (box : Box) (scrolls scrolls' : List (Binary64 × Binary64)) :
    box.scrolled (scrolls ++ scrolls') = (box.scrolled scrolls).scrolled scrolls' :=
  List.foldl_append

/-- A request that does not scroll moves no box. -/
lemma map_scrolled_of_not_scroll {request : Request} (h : request.scroll? = none)
    (held : Option Box) :
    held.map (fun box => box.scrolled (Request.scrolls [request])) = held := by
  rw [Request.scrolls, List.filterMap_cons_none h]
  exact Option.map_id'

namespace Layout

/-- The viewport behind a history: the last that was brought, or that of the start. -/
def viewportAfter (start : Layout) (history : List Request) : Viewport :=
  (history.reverse.findSome? Request.viewport?).getD start.viewport

/-- What was last settled to be under an id, or what was there at the start. -/
def lastSettled (start : Layout) (history : List Request) (id : String) : Option Box :=
  (history.reverse.findSome? (Request.settles? id)).getD (start.get? id)

/-- The scrolls behind the last request that settled what is under an id. -/
def scrollsSince (history : List Request) (id : String) : List (Binary64 × Binary64) :=
  Request.scrolls (history.rtakeWhile fun request => (request.settles? id).isNone)

/-- The box under an id behind a history: the one that was last settled, moved by the scrolls since
then. -/
def boxAfter (start : Layout) (history : List Request) (id : String) : Option Box :=
  (start.lastSettled history id).map fun box => box.scrolled (scrollsSince history id)

variable (start : Layout) (history : List Request) (request : Request) (id : String)

lemma viewportAfter_concat :
    start.viewportAfter (history ++ [request]) =
      request.viewport?.getD (start.viewportAfter history) := by
  rw [viewportAfter, List.reverse_concat, List.findSome?_cons]
  cases request.viewport? <;> rfl

lemma boxAfter_concat :
    start.boxAfter (history ++ [request]) id =
      (request.settles? id).getD
        ((start.boxAfter history id).map fun box => box.scrolled (Request.scrolls [request])) := by
  simp only [boxAfter, lastSettled, scrollsSince, List.reverse_concat, List.findSome?_cons,
    List.rtakeWhile_concat]
  cases request.settles? id with
  | some held => simp [Request.scrolls]
  | none =>
      have both (requests : List Request) : Request.scrolls (requests ++ [request]) =
          Request.scrolls requests ++ Request.scrolls [request] := List.filterMap_append
      simp [both, Box.scrolled_append, Function.comp_def]

end Layout

/-! ## One request -/

namespace Session

variable {request : Request} (s : Session)

lemma viewport_next (h : request ≠ .restore) :
    (s.next request).layout.viewport = request.viewport?.getD s.layout.viewport := by
  cases request with
  | load text =>
      simp only [next, Request.viewport?]
      cases Layout.ofText text <;> rfl
  | restore => exact absurd rfl h
  | _ => rfl

/-- **What a request does to the box under an id**: it settles it, or moves it by what it
scrolls. -/
lemma get?_next (h : request ≠ .restore) (id : String) :
    (s.next request).layout.get? id =
      (request.settles? id).getD
        ((s.layout.get? id).map fun box => box.scrolled (Request.scrolls [request])) := by
  cases request with
  | insert other box =>
      simp only [next, Request.settles?, Layout.withElement, Layout.get?, Elements.get?_insert]
      by_cases same : id = other
      · simp [same]
      · simp only [same, if_false, Option.getD_none]
        exact (map_scrolled_of_not_scroll rfl _).symm
  | remove other =>
      simp only [next, Request.settles?, Layout.remove, Layout.get?, Elements.get?_erase]
      by_cases same : id = other
      · simp [same]
      · simp only [same, if_false, Option.getD_none]
        exact (map_scrolled_of_not_scroll rfl _).symm
  | scrollBy dx dy =>
      simp only [next, Request.settles?, Layout.scrollBy, Layout.get?, Elements.get?_map]
      rfl
  | load text =>
      simp only [next, Request.settles?]
      cases Layout.ofText text with
      | error fault => exact (map_scrolled_of_not_scroll rfl _).symm
      | ok layout => rfl
  | restore => exact absurd rfl h
  | _ => exact (map_scrolled_of_not_scroll rfl _).symm

lemma layout_next_of_not_changes (h : request.changes = false) :
    (s.next request).layout = s.layout := by
  cases request with
  | load text =>
      simp only [next]
      simp only [Request.changes] at h
      split
      case h_1 loaded => simp [loaded, Except.isOk, Except.toBool] at h
      case h_2 => rfl
  | insert | remove | resize | scrollBy | restore => cases h
  | _ => rfl

/-! ## Runs -/

lemma after_concat (requests : List Request) (request : Request) :
    s.after (requests ++ [request]) = (s.after requests).next request := by
  rw [after, List.foldl_append, List.foldl_cons, List.foldl_nil, session_answer]
  rfl

/-- Each request of a run is answered from the session behind those before it. -/
lemma getElem?_answers (earlier : List Request) (request : Request) (later : List Request) :
    (s.answers (earlier ++ request :: later))[earlier.length]? =
      some ((s.after earlier).answer request) := by
  induction earlier generalizing s with
  | nil => rfl
  | cons first rest ih =>
      rw [after_cons, ← ih (s.next first), ← session_answer]
      rfl

end Session

/-- A layout holds what a history tells of it: the viewport, the boxes, and as its ids those of the
boxes, each once and in the order of their bytes. -/
structure Layout.Follows (now start : Layout) (history : List Request) : Prop where
  viewport : now.viewport = start.viewportAfter history
  boxes : ∀ id, now.get? id = start.boxAfter history id
  ids : ∀ id, id ∈ now.ids ↔ (start.boxAfter history id).isSome
  increasing : now.ids.Pairwise fun a b => Json.bytes a.toList < Json.bytes b.toList

namespace Session

/-- The layout of a session follows what was asked of it. -/
lemma follows_after (start : Layout) {history : List Request} (h : .restore ∉ history) :
    ((ofLayout start).after history).layout.Follows start history := by
  have known : ((ofLayout start).after history).layout.viewport = start.viewportAfter history ∧
      ∀ id, ((ofLayout start).after history).layout.get? id = start.boxAfter history id := by
    induction history using List.reverseRecOn with
    | nil =>
        refine ⟨rfl, fun id => ?_⟩
        exact Option.map_id'.symm
    | append_singleton history request ih =>
        simp only [List.mem_append, List.mem_singleton, not_or] at h
        obtain ⟨viewport, boxes⟩ := ih h.1
        rw [after_concat]
        constructor
        · rw [viewport_next _ (Ne.symm h.2), viewport, Layout.viewportAfter_concat]
        · intro id
          rw [get?_next _ (Ne.symm h.2), boxes, Layout.boxAfter_concat]
  refine ⟨known.1, known.2, fun id => ?_, Elements.ids_increasing _⟩
  rw [← known.2]
  exact Elements.mem_ids_iff _ id

/-- **A layout is an ordered map under any history.**  At every point of a run the layout has the
viewport that was brought last, under each id the box that was settled last and moved by the
scrolls since, and lists the ids of its boxes in the order of their bytes.  Putting a box,
removing one and asking for one are answered with what was there just before, and a request that
does not change the layout leaves it as it was. -/
theorem answers_follow_history (start : Layout) (earlier : List Request) (request : Request)
    (later : List Request) (noRestore : .restore ∉ earlier ++ [request]) :
    ∃ answer, ((ofLayout start).answers (earlier ++ request :: later))[earlier.length]? =
        some answer ∧
      answer.session.layout.Follows start (earlier ++ [request]) ∧
      (∀ id, (∃ box, request = .insert id box) ∨ request = .remove id ∨ request = .get id →
        answer.reply = .ok (.box (start.boxAfter earlier id))) ∧
      (request.changes = false →
        answer.session.layout = ((ofLayout start).after earlier).layout) := by
  have before := follows_after start fun mem => noRestore (List.mem_append_left _ mem)
  refine ⟨_, getElem?_answers _ earlier request later, ?_, ?_, ?_⟩
  · rw [session_answer, ← after_concat]
    exact follows_after start noRestore
  · intro id asked
    rw [← before.boxes]
    rcases asked with ⟨box, rfl⟩ | rfl | rfl <;> rfl
  · intro unchanged
    rw [session_answer]
    exact layout_next_of_not_changes _ unchanged

/-- A box that is put behind a first scroll and moved by the next two, beside one that is removed; a
text that stores no layout changes nothing. -/
theorem answers_follow_history_scrolled :
    let number := Binary64.ofNat
    let start := (Layout.ofViewport ⟨number 9, number 9⟩).withElement "old" ⟨0, 0, 0, 0⟩
    let earlier := [Request.scrollBy 0 (number 7), .insert "new" ⟨number 8, 0, number 5, number 9⟩,
      .scrollBy (number 1) (number 2), .load "?", .remove "old"]
    Request.restore ∉ earlier ++ [.scrollBy (number 3) 0] ∧
      ∃ answer, ((ofLayout start).answers (earlier ++ [.scrollBy (number 3) 0]))[5]? = some answer ∧
        answer.session.layout.viewport = ⟨number 9, number 9⟩ ∧
        answer.session.layout.get? "new" = some ⟨number 6, -number 4, number 1, number 7⟩ ∧
        answer.session.layout.get? "old" = none := by
  intro number start earlier
  have noRestore : Request.restore ∉ earlier ++ [.scrollBy (number 3) 0] := by simp [earlier]
  obtain ⟨answer, given, follows, -, -⟩ :=
    answers_follow_history start earlier (.scrollBy (number 3) 0) [] noRestore
  refine ⟨noRestore, answer, given, ?_, ?_, ?_⟩
  · exact follows.viewport.trans (by decide +kernel)
  · exact (follows.boxes "new").trans (by decide +kernel)
  · exact (follows.boxes "old").trans (by decide +kernel)

end Session

end InView
