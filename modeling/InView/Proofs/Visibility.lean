import InView.Proofs.Binary64.Order
import InView.Visibility

/-!
# What it means to be visible

`classify` compares one edge with each side of the viewport: the right and the bottom edge with
the far sides, the top and the left edge with the origin.  That all four edges lie within the
viewport takes eight comparisons (`Box.Within`), and the other four do not follow: a box whose
left edge lies right of its right edge can be found visible with its left edge outside.

For boxes whose edges are in order the four comparisons are enough, and a box that lies within
the viewport is found visible whatever its shape.
-/

namespace InView

namespace Box

/-- No edge is `nan`. -/
structure IsNumber (box : Box) : Prop where
  top : box.top.IsNumber
  left : box.left.IsNumber
  right : box.right.IsNumber
  bottom : box.bottom.IsNumber

/-- Opposite edges are in order; in particular no edge is `nan`. -/
structure Ordered (box : Box) : Prop where
  horizontal : box.left ≤ box.right
  vertical : box.top ≤ box.bottom

/-- Every edge lies in the closed rectangle that the viewport shows. -/
structure Within (box : Box) (view : Viewport) : Prop where
  left : 0 ≤ box.left ∧ box.left ≤ view.width
  right : 0 ≤ box.right ∧ box.right ≤ view.width
  top : 0 ≤ box.top ∧ box.top ≤ view.height
  bottom : 0 ≤ box.bottom ∧ box.bottom ≤ view.height

lemma Ordered.isNumber {box : Box} (h : box.Ordered) : box.IsNumber where
  top := .left_of_le h.vertical
  left := .left_of_le h.horizontal
  right := .right_of_le h.horizontal
  bottom := .right_of_le h.vertical

end Box

/-- No dimension is `nan`. -/
structure Viewport.IsNumber (view : Viewport) : Prop where
  width : view.width.IsNumber
  height : view.height.IsNumber

variable {box : Box} {view : Viewport}

/-- A box is found visible exactly if four comparisons fail. -/
lemma classify_eq_visible_iff_not_lt : classify box view = .visible ↔
    ¬ view.width < box.right ∧ ¬ view.height < box.bottom ∧ ¬ box.top < 0 ∧ ¬ box.left < 0 := by
  rw [classify]
  split_ifs with atEnd atStart
  · simp only [false_iff]
    tauto
  · simp only [false_iff]
    tauto
  · simp only [true_iff]
    tauto

/-- Without `nan`, a failing comparison is the opposite one. -/
lemma classify_eq_visible_iff_le (hbox : box.IsNumber) (hview : view.IsNumber) :
    classify box view = .visible ↔
      0 ≤ box.left ∧ box.right ≤ view.width ∧ 0 ≤ box.top ∧ box.bottom ≤ view.height := by
  rw [classify_eq_visible_iff_not_lt, Binary64.not_lt hbox.right hview.width,
    Binary64.not_lt hbox.bottom hview.height, Binary64.not_lt Binary64.isNumber_zero hbox.top,
    Binary64.not_lt Binary64.isNumber_zero hbox.left]
  tauto

/-- The visible box that lies within the viewport is one that passes the other four comparisons
as well. -/
lemma within_iff (hbox : box.IsNumber) (hview : view.IsNumber) :
    box.Within view ↔ classify box view = .visible ∧
      box.left ≤ view.width ∧ 0 ≤ box.right ∧ box.top ≤ view.height ∧ 0 ≤ box.bottom := by
  rw [classify_eq_visible_iff_le hbox hview]
  constructor
  · rintro ⟨⟨l, l'⟩, ⟨r, r'⟩, ⟨t, t'⟩, b, b'⟩
    exact ⟨⟨l, r', t, b'⟩, l', r, t', b⟩
  · rintro ⟨⟨l, r', t, b'⟩, l', r, t', b⟩
    exact ⟨⟨l, l'⟩, ⟨r, r'⟩, ⟨t, t'⟩, b, b'⟩

/-- A box with its edges in order is visible exactly if they are in order with the sides of the
viewport as well. -/
lemma Box.Ordered.classify_eq_visible_iff (hbox : box.Ordered) (hview : view.IsNumber) :
    classify box view = .visible ↔
      (0 ≤ box.left ∧ box.left ≤ box.right ∧ box.right ≤ view.width) ∧
        (0 ≤ box.top ∧ box.top ≤ box.bottom ∧ box.bottom ≤ view.height) := by
  rw [classify_eq_visible_iff_le hbox.isNumber hview]
  have horizontal := hbox.horizontal
  have vertical := hbox.vertical
  tauto

/-- **Visible means four comparisons, and inside for boxes in order.**  Away from `nan` a box is
visible exactly if its far edges do not pass the far sides and its near edges not the origin.
Every box that lies within the viewport is therefore visible, and a visible box lies within it
exactly if its near edges do not pass the far sides and its far edges not the origin either,
which holds of every box whose edges are in order. -/
theorem visible_iff_inside (box : Box) (view : Viewport) (hbox : box.IsNumber)
    (hview : view.IsNumber) :
    (classify box view = .visible ↔
      0 ≤ box.left ∧ box.right ≤ view.width ∧ 0 ≤ box.top ∧ box.bottom ≤ view.height) ∧
    (box.Within view ↔ classify box view = .visible ∧
      box.left ≤ view.width ∧ 0 ≤ box.right ∧ box.top ≤ view.height ∧ 0 ≤ box.bottom) ∧
    (box.Ordered → (classify box view = .visible ↔ box.Within view)) := by
  refine ⟨classify_eq_visible_iff_le hbox hview, within_iff hbox hview, fun ordered => ?_⟩
  rw [within_iff hbox hview, classify_eq_visible_iff_le hbox hview]
  constructor
  · rintro ⟨left, right, top, bottom⟩
    exact ⟨⟨left, right, top, bottom⟩, Binary64.le_trans ordered.horizontal right,
      Binary64.le_trans left ordered.horizontal, Binary64.le_trans ordered.vertical bottom,
      Binary64.le_trans top ordered.vertical⟩
  · exact fun h => h.1

/-- A box of infinite width that the viewport, which is as wide, contains. -/
theorem visible_iff_inside_infinite :
    classify ⟨0, 0, .infinite false, 0⟩ ⟨.infinite false, 0⟩ = .visible ↔
      Box.Within ⟨0, 0, .infinite false, 0⟩ ⟨.infinite false, 0⟩ :=
  (visible_iff_inside ⟨0, 0, .infinite false, 0⟩ ⟨.infinite false, 0⟩
    ⟨by decide, by decide, by decide, by decide⟩ ⟨by decide, by decide⟩).2.2
    ⟨by decide +kernel, by decide +kernel⟩

/-- A box from `500` back to `10` is visible in a viewport of width `100`, where its left edge
does not lie. -/
theorem visible_with_left_edge_outside :
    let box : Box := ⟨.ofNat 10, .ofNat 500, .ofNat 10, .ofNat 50⟩
    let view : Viewport := ⟨.ofNat 100, .ofNat 100⟩
    box.IsNumber ∧ view.IsNumber ∧ classify box view = .visible ∧ ¬ box.Within view := by
  have number (n : Nat) : (Binary64.ofNat n).IsNumber := Binary64.isNumber_rounded _ _ _
  refine ⟨⟨number _, number _, number _, number _⟩, ⟨number _, number _⟩, by decide +kernel, ?_⟩
  exact fun within => absurd within.left.2 (by decide +kernel)

end InView
