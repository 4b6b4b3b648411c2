import InView.Proofs.Layout.Validation
import InView.Proofs.Session.Run
import InView.Proofs.Visibility

/-!
# Boxes stay in order

A layout whose boxes have their edges in order keeps them in order whatever is done to it, as
long as what comes in is in order and scrolling is by finite amounts.  Scrolling is the only
request that computes: it rounds, and it can overflow, but it moves opposite edges by the same
finite number, which keeps their order and makes no `nan` of them.

In order, the four comparisons of `classify` are as good as eight, so at every point of such a
session an element is found visible exactly if it lies inside the viewport.
-/

namespace InView

/-- Moving a box by finite amounts keeps its edges in order. -/
lemma Box.Ordered.translate {box : Box} (h : box.Ordered) {dx dy : Binary64}
    (hdx : dx.isFinite) (hdy : dy.isFinite) : (box.translate dx dy).Ordered where
  horizontal := Binary64.add_le_add_of_isFinite h.horizontal hdx
  vertical := Binary64.add_le_add_of_isFinite h.vertical hdy

namespace Layout

/-- The viewport is not `nan`, and every element has its edges in order. -/
structure InOrder (l : Layout) : Prop where
  viewport : l.viewport.IsNumber
  boxes : ∀ id box, l.get? id = some box → box.Ordered

variable {l : Layout}

lemma InOrder.withElement (h : l.InOrder) {id : String} {box : Box} (hbox : box.Ordered) :
    (l.withElement id box).InOrder where
  viewport := h.viewport
  boxes other held := by
    intro get
    simp only [Layout.withElement, get?, Elements.get?_insert] at get
    split at get
    · obtain rfl := Option.some.inj get
      exact hbox
    · exact h.boxes other held get

lemma InOrder.remove (h : l.InOrder) (id : String) : (l.remove id).2.InOrder where
  viewport := h.viewport
  boxes other held := by
    intro get
    simp only [Layout.remove, get?, Elements.get?_erase] at get
    split at get
    · cases get
    · exact h.boxes other held get

lemma InOrder.resize (h : l.InOrder) {view : Viewport} (hview : view.IsNumber) :
    (l.resize view).InOrder where
  viewport := hview
  boxes := h.boxes

/-- **Scrolling by finite amounts keeps boxes in order**, even where edges overflow. -/
lemma InOrder.scrollBy (h : l.InOrder) {dx dy : Binary64} (hdx : dx.isFinite)
    (hdy : dy.isFinite) : (l.scrollBy dx dy).InOrder where
  viewport := h.viewport
  boxes id moved := by
    intro get
    simp only [Layout.scrollBy, get?, Elements.get?_map, Option.map_eq_some_iff] at get
    obtain ⟨box, held, rfl⟩ := get
    refine (h.boxes id box held).translate ?_ ?_
    · rw [Binary64.isFinite_neg]
      exact hdx
    · rw [Binary64.isFinite_neg]
      exact hdy

/-- The viewport of a layout that was loaded is no `nan`. -/
lemma viewport_isNumber_of_ofText {text : String} (h : ofText text = .ok l) :
    l.viewport.IsNumber where
  width := isNumber_of_isDimension (ofText_eq_ok_iff.mp h).2.width
  height := isNumber_of_isDimension (ofText_eq_ok_iff.mp h).2.height

end Layout

/-- A request that brings in nothing out of order: boxes have their edges in order, dimensions
are not `nan`, and scrolling is by finite amounts. -/
def Request.InOrder : Request → Prop
  | .insert _ box => box.Ordered
  | .resize view => view.IsNumber
  | .scrollBy dx dy => dx.isFinite ∧ dy.isFinite
  | .load text => ∀ layout, Layout.ofText text = .ok layout →
      ∀ id box, layout.get? id = some box → box.Ordered
  | _ => True

namespace Session

/-- The layout that is worked on and the one that was saved are in order. -/
structure InOrder (s : Session) : Prop where
  layout : s.layout.InOrder
  saved : s.saved.InOrder

/-- One request keeps a session in order. -/
lemma InOrder.next {s : Session} (h : s.InOrder) {request : Request} (hr : request.InOrder) :
    (s.next request).InOrder := by
  cases request with
  | insert id box => exact ⟨h.layout.withElement hr, h.saved⟩
  | remove id => exact ⟨h.layout.remove id, h.saved⟩
  | resize view => exact ⟨h.layout.resize hr, h.saved⟩
  | scrollBy dx dy => exact ⟨h.layout.scrollBy hr.1 hr.2, h.saved⟩
  | load text =>
      simp only [Session.next]
      split
      case h_1 loaded eq =>
        exact ⟨⟨Layout.viewport_isNumber_of_ofText eq, hr loaded eq⟩, h.saved⟩
      case h_2 => exact h
  | save => exact ⟨h.layout, h.layout⟩
  | restore => exact ⟨h.saved, h.saved⟩
  | _ => exact h

/-- And so does every run. -/
lemma InOrder.after {s : Session} (h : s.InOrder) {requests : List Request}
    (hr : ∀ request ∈ requests, request.InOrder) : (s.after requests).InOrder :=
  after_induction h fun _ request mem hs => hs.next (hr request mem)

/-- **Visible means inside, at every point of a session.**  After any run of requests that bring
in nothing out of order, no stored edge is `nan`, every stored box has its edges in order, and
an element is classified as visible exactly if its box lies between the origin and the far sides
of the viewport of that moment. -/
theorem visible_iff_between_after (layout : Layout) (start : layout.InOrder)
    (requests : List Request) (inOrder : ∀ request ∈ requests, request.InOrder)
    (id : String) (box : Box)
    (present : ((ofLayout layout).after requests).layout.get? id = some box) :
    let now := ((ofLayout layout).after requests).layout
    (∀ edge ∈ box.edges, edge ≠ .nan) ∧ box.left ≤ box.right ∧ box.top ≤ box.bottom ∧
      (((Check.classify Layout.host id).run now).result = .ok .visible ↔
        (0 ≤ box.left ∧ box.left ≤ box.right ∧ box.right ≤ now.viewport.width) ∧
          (0 ≤ box.top ∧ box.top ≤ box.bottom ∧ box.bottom ≤ now.viewport.height)) := by
  intro now
  have kept : (ofLayout layout |>.after requests).InOrder :=
    InOrder.after ⟨start, start⟩ inOrder
  have ordered : box.Ordered := kept.layout.boxes id box present
  refine ⟨?_, ordered.horizontal, ordered.vertical, ?_⟩
  · intro edge mem
    simp only [Box.edges, List.mem_cons, List.not_mem_nil, or_false] at mem
    have number := ordered.isNumber
    rcases mem with rfl | rfl | rfl | rfl
    · exact number.top
    · exact number.left
    · exact number.right
    · exact number.bottom
  · rw [Check.result_classify_layout, present]
    simp only [Except.ok.injEq]
    exact ordered.classify_eq_visible_iff kept.layout.viewport

/-- A box that scrolling moves until its right edge overflows, in a viewport without end. -/
theorem visible_iff_between_after_overflow :
    let far := Binary64.ofNat (10 ^ 308)
    let now := ((ofLayout (.ofViewport ⟨0, 0⟩)).after [.insert "wide" ⟨0, 0, far, .ofNat 1⟩,
      .scrollBy (-far) 0, .resize ⟨.infinite false, .ofNat 1⟩]).layout
    now.get? "wide" = some ⟨0, far, .infinite false, .ofNat 1⟩ ∧
      ((Check.classify Layout.host "wide").run now).result = .ok .visible := by
  intro far now
  have present : now.get? "wide" = some ⟨0, far, .infinite false, .ofNat 1⟩ := by
    decide +kernel
  have start : (Layout.ofViewport ⟨0, 0⟩).InOrder :=
    ⟨⟨by decide, by decide⟩, fun id box get => by cases get⟩
  have inOrder : ∀ request ∈ [Request.insert "wide" ⟨0, 0, far, .ofNat 1⟩, .scrollBy (-far) 0,
      .resize ⟨.infinite false, .ofNat 1⟩], request.InOrder := by
    simp only [List.forall_mem_cons, List.not_mem_nil, false_implies, implies_true, and_true]
    exact ⟨⟨by decide +kernel, by decide +kernel⟩, ⟨by decide +kernel, rfl⟩, nofun,
      Binary64.isNumber_rounded _ _ _⟩
  have between := visible_iff_between_after _ start _ inOrder "wide" _ present
  exact ⟨present, between.2.2.2.mpr (by decide +kernel)⟩

end Session

end InView
