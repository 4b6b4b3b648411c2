import InView.Proofs.Binary64.Pixels
import InView.Proofs.Layout.Equality
import InView.Proofs.Session.History
import Mathlib.Algebra.BigOperators.Group.List.Basic
import Mathlib.Algebra.Group.Prod
import Mathlib.Data.List.Infix

/-!
# Scrolling by whole pixels

Scrolling moves edges by rounded sums.  Where the edges and the offsets are whole numbers of pixels,
and the edges *computed exactly* never leave the reach of `2 ^ 53` on the way, nothing is rounded.
Each edge is then the original one less all that was scrolled (`IsShift.scrolled`), so the order of
the scrolls makes no difference, scrolling back restores the layout, and an element is visible
exactly if its original box lies in the part of the page that was scrolled to.

It is not enough that the rounded edges stay within reach: one pixel past `2 ^ 53` is rounded back
to `2 ^ 53`, and the pixel is lost for good.  So the order does make a difference where one order is
within reach and another is not.  Only the two ends are like this: rounded edges that stay short of
both of them have not been rounded at all (`canScroll_of_stored`).
-/

namespace InView

open Binary64

/-- How far some scrolls lead to the right and down, in exact pixels. -/
def travel (scrolls : List (Binary64 × Binary64)) : ℤ × ℤ :=
  (scrolls.map fun offset => (offset.1.pixels, offset.2.pixels)).sum

/-- The opposite scrolls, the last one first. -/
def opposite (scrolls : List (Binary64 × Binary64)) : List (Binary64 × Binary64) :=
  (scrolls.map fun offset => (-offset.1, -offset.2)).reverse

section Travel

variable {scrolls scrolls' : List (Binary64 × Binary64)}

@[simp] lemma travel_nil : travel [] = 0 := rfl

lemma travel_append (scrolls scrolls' : List (Binary64 × Binary64)) :
    travel (scrolls ++ scrolls') = travel scrolls + travel scrolls' := by
  rw [travel, List.map_append, List.sum_append]
  rfl

lemma travel_concat (scrolls : List (Binary64 × Binary64)) (offset : Binary64 × Binary64) :
    travel (scrolls ++ [offset]) = travel scrolls + (offset.1.pixels, offset.2.pixels) := by
  rw [travel_append]
  simp [travel]

lemma travel_perm (h : scrolls.Perm scrolls') : travel scrolls = travel scrolls' :=
  (h.map _).sum_eq

lemma opposite_cons (offset : Binary64 × Binary64) (scrolls : List (Binary64 × Binary64)) :
    opposite (offset :: scrolls) = opposite scrolls ++ [(-offset.1, -offset.2)] := by
  rw [opposite, List.map_cons, List.reverse_cons, opposite]

lemma travel_opposite (offsets : ∀ offset ∈ scrolls, offset.1.IsPixels ∧ offset.2.IsPixels) :
    travel (opposite scrolls) = -travel scrolls := by
  induction scrolls with
  | nil => rfl
  | cons offset rest ih =>
      obtain ⟨⟨first, second⟩, offsets⟩ := List.forall_mem_cons.mp offsets
      have split : travel (offset :: rest) =
          (offset.1.pixels, offset.2.pixels) + travel rest := by
        rw [travel, List.map_cons, List.sum_cons, travel]
      rw [opposite_cons, travel_concat, ih offsets, split, first.neg.2, second.neg.2, neg_add_rev]
      rfl

/-- On the way back the last scrolls are undone first. -/
lemma exists_of_prefix_opposite {first : List (Binary64 × Binary64)}
    (h : first <+: opposite scrolls) :
    ∃ kept undone, scrolls = kept ++ undone ∧ first = opposite undone := by
  obtain ⟨rest, all⟩ := h
  have turned : scrolls.map (fun offset => (-offset.1, -offset.2)) =
      rest.reverse ++ first.reverse := by
    rw [← List.reverse_append, all, opposite, List.reverse_reverse]
  obtain ⟨kept, undone, split, -, back⟩ := List.map_eq_append_iff.mp turned
  exact ⟨kept, undone, split, by rw [opposite, back, List.reverse_reverse]⟩

end Travel

/-! ## Boxes -/

namespace Box

/-- Every edge is a whole number of pixels. -/
structure IsPixels (b : Box) : Prop where
  top : b.top.IsPixels
  left : b.left.IsPixels
  right : b.right.IsPixels
  bottom : b.bottom.IsPixels

/-- Every edge is within reach behind scrolls by `d`, computed exactly. -/
structure WithinReach (b : Box) (d : ℤ × ℤ) : Prop where
  top : Binary64.WithinReach (b.top.pixels - d.2)
  left : Binary64.WithinReach (b.left.pixels - d.1)
  right : Binary64.WithinReach (b.right.pixels - d.1)
  bottom : Binary64.WithinReach (b.bottom.pixels - d.2)

/-- Every edge, as it is stored, is short of both ends of the reach. -/
structure InsideReach (b : Box) : Prop where
  top : Binary64.InsideReach b.top.pixels
  left : Binary64.InsideReach b.left.pixels
  right : Binary64.InsideReach b.right.pixels
  bottom : Binary64.InsideReach b.bottom.pixels

/-- Every edge of `moved` is a whole number of pixels: that of `b` less what was scrolled, `d`. -/
structure IsShift (moved b : Box) (d : ℤ × ℤ) : Prop where
  isPixels : moved.IsPixels
  top : moved.top.pixels = b.top.pixels - d.2
  left : moved.left.pixels = b.left.pixels - d.1
  right : moved.right.pixels = b.right.pixels - d.1
  bottom : moved.bottom.pixels = b.bottom.pixels - d.2

instance (b : Box) : Decidable b.IsPixels :=
  decidable_of_iff (b.top.IsPixels ∧ b.left.IsPixels ∧ b.right.IsPixels ∧ b.bottom.IsPixels)
    ⟨fun h => ⟨h.1, h.2.1, h.2.2.1, h.2.2.2⟩, fun h => ⟨h.top, h.left, h.right, h.bottom⟩⟩

instance (b : Box) (d : ℤ × ℤ) : Decidable (b.WithinReach d) :=
  decidable_of_iff (Binary64.WithinReach (b.top.pixels - d.2) ∧
      Binary64.WithinReach (b.left.pixels - d.1) ∧ Binary64.WithinReach (b.right.pixels - d.1) ∧
      Binary64.WithinReach (b.bottom.pixels - d.2))
    ⟨fun h => ⟨h.1, h.2.1, h.2.2.1, h.2.2.2⟩, fun h => ⟨h.top, h.left, h.right, h.bottom⟩⟩

variable {b moved moved' : Box} {d : ℤ × ℤ}

lemma IsPixels.isShift (h : b.IsPixels) : b.IsShift b 0 :=
  ⟨h, (sub_zero _).symm, (sub_zero _).symm, (sub_zero _).symm, (sub_zero _).symm⟩

/-- A shift by nothing leaves every edge within reach. -/
lemma IsPixels.withinReach (h : b.IsPixels) : b.WithinReach 0 where
  top := (sub_zero b.top.pixels).symm ▸ h.top.within
  left := (sub_zero b.left.pixels).symm ▸ h.left.within
  right := (sub_zero b.right.pixels).symm ▸ h.right.within
  bottom := (sub_zero b.bottom.pixels).symm ▸ h.bottom.within

/-- **One scroll within reach is exact.** -/
lemma IsShift.translate (h : moved.IsShift b d) {dx dy : Binary64} (hdx : dx.IsPixels)
    (hdy : dy.IsPixels) (reach : b.WithinReach (d + (dx.pixels, dy.pixels))) :
    (moved.translate (-dx) (-dy)).IsShift b (d + (dx.pixels, dy.pixels)) := by
  have edge {x y offset : Binary64} {n : ℤ} (hy : y.IsPixels) (same : y.pixels = x.pixels - n)
      (ho : offset.IsPixels) (within : Binary64.WithinReach (x.pixels - (n + offset.pixels))) :
      (y + -offset).IsPixels ∧ (y + -offset).pixels = x.pixels - (n + offset.pixels) := by
    obtain ⟨neg, turned⟩ := ho.neg
    have sum : y.pixels + (-offset).pixels = x.pixels - (n + offset.pixels) := by
      rw [same, turned]
      ring
    exact sum ▸ hy.add neg (sum ▸ within)
  have top := edge h.isPixels.top h.top hdy reach.top
  have left := edge h.isPixels.left h.left hdx reach.left
  have right := edge h.isPixels.right h.right hdx reach.right
  have bottom := edge h.isPixels.bottom h.bottom hdy reach.bottom
  exact ⟨⟨top.1, left.1, right.1, bottom.1⟩, top.2, left.2, right.2, bottom.2⟩

/-- A scroll is within reach if the edges that it leads to are stored inside it. -/
lemma IsShift.withinReach_of_stored (h : moved.IsShift b d) {dx dy : Binary64} (hdx : dx.IsPixels)
    (hdy : dy.IsPixels) (inside : (moved.translate (-dx) (-dy)).InsideReach) :
    b.WithinReach (d + (dx.pixels, dy.pixels)) := by
  have edge {x y offset : Binary64} {n : ℤ} (hy : y.IsPixels) (same : y.pixels = x.pixels - n)
      (ho : offset.IsPixels) (inside : Binary64.InsideReach (y + -offset).pixels) :
      Binary64.WithinReach (x.pixels - (n + offset.pixels)) := by
    obtain ⟨neg, turned⟩ := ho.neg
    have within := hy.within_of_add neg inside
    rwa [same, turned, ← sub_eq_add_neg, sub_sub] at within
  exact ⟨edge h.isPixels.top h.top hdy inside.top, edge h.isPixels.left h.left hdx inside.left,
    edge h.isPixels.right h.right hdx inside.right,
    edge h.isPixels.bottom h.bottom hdy inside.bottom⟩

/-- **So are any number of scrolls**, by induction from the last of them. -/
theorem IsPixels.scrolled (h : b.IsPixels) {scrolls : List (Binary64 × Binary64)}
    (offsets : ∀ offset ∈ scrolls, offset.1.IsPixels ∧ offset.2.IsPixels)
    (reach : ∀ first, first <+: scrolls → b.WithinReach (travel first)) :
    (b.scrolled scrolls).IsShift b (travel scrolls) := by
  induction scrolls using List.reverseRecOn with
  | nil => exact h.isShift
  | append_singleton scrolls offset ih =>
      have before := ih (fun offset mem => offsets offset (List.mem_append_left _ mem))
        fun first earlier => reach first (earlier.trans (List.prefix_append _ _))
      obtain ⟨hdx, hdy⟩ := offsets offset List.mem_concat_self
      have last := reach _ List.prefix_rfl
      rw [travel_concat] at last ⊢
      rw [scrolled_append]
      exact before.translate hdx hdy last

/-- Shifts by the same are equal. -/
lemma IsShift.beq (h : moved.IsShift b d) (h' : moved'.IsShift b d) : moved == moved' :=
  beq_iff.mpr ⟨h.isPixels.top.beq_of_eq h'.isPixels.top (h.top.trans h'.top.symm),
    h.isPixels.left.beq_of_eq h'.isPixels.left (h.left.trans h'.left.symm),
    h.isPixels.right.beq_of_eq h'.isPixels.right (h.right.trans h'.right.symm),
    h.isPixels.bottom.beq_of_eq h'.isPixels.bottom (h.bottom.trans h'.bottom.symm)⟩

/-- A shift keeps the extent, which itself need not be within reach. -/
lemma IsShift.extent_beq (h : moved.IsShift b d) (hb : b.IsPixels) :
    moved.width == b.width ∧ moved.height == b.height := by
  constructor
  · refine h.isPixels.right.sub_beq_sub h.isPixels.left hb.right hb.left ?_
    rw [h.right, h.left]
    ring
  · refine h.isPixels.bottom.sub_beq_sub h.isPixels.top hb.bottom hb.top ?_
    rw [h.bottom, h.top]
    ring

/-- A shifted box is visible if the original one lies in the part of the page that is shown. -/
lemma IsShift.classify_iff (h : moved.IsShift b d) {view : Viewport}
    (width : view.width.IsPixels) (height : view.height.IsPixels) :
    classify moved view = .visible ↔
      d.1 ≤ b.left.pixels ∧ b.right.pixels ≤ d.1 + view.width.pixels ∧
        d.2 ≤ b.top.pixels ∧ b.bottom.pixels ≤ d.2 + view.height.pixels := by
  have number : moved.IsNumber := ⟨h.isPixels.top.isNumber, h.isPixels.left.isNumber,
    h.isPixels.right.isNumber, h.isPixels.bottom.isNumber⟩
  obtain ⟨zero, zero_pixels⟩ := isPixels_zero
  rw [classify_eq_visible_iff_le number ⟨width.isNumber, height.isNumber⟩,
    zero.le_iff h.isPixels.left, zero.le_iff h.isPixels.top, h.isPixels.right.le_iff width,
    h.isPixels.bottom.le_iff height, zero_pixels, h.left, h.right, h.top, h.bottom]
  omega

end Box

/-! ## Layouts -/

namespace Layout

/-- The layout behind some scrolls, in order. -/
def scrolled (l : Layout) (scrolls : List (Binary64 × Binary64)) : Layout :=
  scrolls.foldl (fun l offset => l.scrollBy offset.1 offset.2) l

/-- The dimensions and all edges are whole numbers of pixels. -/
structure IsPixels (l : Layout) : Prop where
  width : l.viewport.width.IsPixels
  height : l.viewport.height.IsPixels
  boxes : ∀ entry ∈ l.elements.entries, entry.2.IsPixels

/-- Scrolls by whole pixels after each of which every edge is within reach, computed exactly. -/
structure CanScroll (l : Layout) (scrolls : List (Binary64 × Binary64)) : Prop where
  offsets : ∀ offset ∈ scrolls, offset.1.IsPixels ∧ offset.2.IsPixels
  reach : ∀ first, first <+: scrolls →
    ∀ entry ∈ l.elements.entries, entry.2.WithinReach (travel first)

instance (l : Layout) : Decidable l.IsPixels :=
  decidable_of_iff (l.viewport.width.IsPixels ∧ l.viewport.height.IsPixels ∧
      ∀ entry ∈ l.elements.entries, entry.2.IsPixels)
    ⟨fun h => ⟨h.1, h.2.1, h.2.2⟩, fun h => ⟨h.width, h.height, h.boxes⟩⟩

instance (l : Layout) (scrolls : List (Binary64 × Binary64)) : Decidable (l.CanScroll scrolls) :=
  decidable_of_iff ((∀ offset ∈ scrolls, offset.1.IsPixels ∧ offset.2.IsPixels) ∧
      ∀ first ∈ scrolls.inits, ∀ entry ∈ l.elements.entries, entry.2.WithinReach (travel first))
    ⟨fun h => ⟨h.1, fun first earlier => h.2 first ((List.mem_inits _ _).mpr earlier)⟩,
      fun h => ⟨h.offsets, fun first mem => h.reach first ((List.mem_inits _ _).mp mem)⟩⟩

variable {l : Layout} {scrolls : List (Binary64 × Binary64)}

lemma scrolled_append (l : Layout) (scrolls scrolls' : List (Binary64 × Binary64)) :
    l.scrolled (scrolls ++ scrolls') = (l.scrolled scrolls).scrolled scrolls' :=
  List.foldl_append

/-- Scrolling moves every box, and nothing else. -/
lemma scrolled_eq (l : Layout) (scrolls : List (Binary64 × Binary64)) :
    l.scrolled scrolls = { l with elements := l.elements.map (·.scrolled scrolls) } := by
  induction scrolls using List.reverseRecOn with
  | nil =>
      rw [show (fun box : Box => box.scrolled []) = id from rfl, Elements.map_id]
      rfl
  | append_singleton scrolls offset ih =>
      rw [scrolled_append, ih]
      simp only [scrolled, List.foldl_cons, List.foldl_nil, scrollBy, Elements.map_map,
        Box.scrolled_append]
      rfl

lemma CanScroll.isShift (h : l.CanScroll scrolls) (pixels : l.IsPixels)
    {entry : String × Box} (mem : entry ∈ l.elements.entries) :
    (entry.2.scrolled scrolls).IsShift entry.2 (travel scrolls) :=
  (pixels.boxes entry mem).scrolled h.offsets fun first earlier => h.reach first earlier entry mem

lemma canScroll_nil (pixels : l.IsPixels) : l.CanScroll [] where
  offsets _ mem := absurd mem List.not_mem_nil
  reach first none := by
    rw [List.prefix_nil.mp none]
    exact fun entry mem => (pixels.boxes entry mem).withinReach

/-- **Stored edges inside the reach have not been rounded**, by induction from the last scroll: up
to there the edges are exact, and one exact scroll from there leads to what is stored. -/
theorem canScroll_of_stored (pixels : l.IsPixels)
    (offsets : ∀ offset ∈ scrolls, offset.1.IsPixels ∧ offset.2.IsPixels)
    (inside : ∀ first, first <+: scrolls → first ≠ [] →
      ∀ entry ∈ (l.scrolled first).elements.entries, entry.2.InsideReach) :
    l.CanScroll scrolls := by
  induction scrolls using List.reverseRecOn with
  | nil => exact canScroll_nil pixels
  | append_singleton scrolls offset ih =>
      have before : l.CanScroll scrolls :=
        ih (fun offset mem => offsets offset (List.mem_append_left _ mem))
          fun first earlier => inside first (earlier.trans (List.prefix_append _ _))
      obtain ⟨hdx, hdy⟩ := offsets offset List.mem_concat_self
      refine ⟨offsets, fun first earlier entry mem => ?_⟩
      rcases List.prefix_concat_iff.mp earlier with rfl | earlier
      · have stored : (entry.1, entry.2.scrolled (scrolls ++ [offset])) ∈
            (l.scrolled (scrolls ++ [offset])).elements.entries := by
          rw [scrolled_eq]
          exact List.mem_map.mpr ⟨entry, mem, rfl⟩
        have last := inside _ earlier (by simp) _ stored
        rw [Box.scrolled_append] at last
        rw [travel_concat]
        exact (before.isShift pixels mem).withinReach_of_stored hdx hdy last
      · exact before.reach first earlier entry mem

/-- Only how far it led matters about scrolls within reach. -/
lemma CanScroll.beq {scrolls' : List (Binary64 × Binary64)} (h : l.CanScroll scrolls)
    (h' : l.CanScroll scrolls') (pixels : l.IsPixels) (same : travel scrolls = travel scrolls') :
    l.scrolled scrolls == l.scrolled scrolls' := by
  rw [scrolled_eq, scrolled_eq]
  refine beq_iff.mpr ⟨Viewport.beq_iff.mpr ⟨Binary64.beq_self_iff.mpr pixels.width.isNumber,
    Binary64.beq_self_iff.mpr pixels.height.isNumber⟩, ?_⟩
  refine Elements.map_beq_map_of_mem fun entry mem => ?_
  exact (h.isShift pixels mem).beq (same ▸ h'.isShift pixels mem)

/-- The opposite scrolls lead back through the same places. -/
lemma CanScroll.opposite (h : l.CanScroll scrolls) :
    l.CanScroll (scrolls ++ InView.opposite scrolls) where
  offsets offset mem := by
    rcases List.mem_append.mp mem with mem | mem
    · exact h.offsets offset mem
    · obtain ⟨forward, there, rfl⟩ := List.mem_map.mp (List.mem_reverse.mp mem)
      exact ⟨(h.offsets forward there).1.neg.1, (h.offsets forward there).2.neg.1⟩
  reach first earlier := by
    rcases List.prefix_or_prefix_of_prefix earlier (List.prefix_append _ _) with
      earlier | ⟨back, rfl⟩
    · exact h.reach first earlier
    · obtain ⟨kept, undone, rfl, rfl⟩ :=
        exists_of_prefix_opposite ((List.prefix_append_right_inj _).mp earlier)
      have offsets : ∀ offset ∈ undone, offset.1.IsPixels ∧ offset.2.IsPixels :=
        fun offset mem => h.offsets offset (List.mem_append_right _ mem)
      have place : travel (kept ++ undone ++ InView.opposite undone) = travel kept := by
        rw [travel_append, travel_append, travel_opposite offsets, add_neg_cancel_right]
      rw [place]
      exact h.reach kept (List.prefix_append _ _)

/-- **Scrolling by whole pixels is exact.**  Behind scrolls that keep every edge within reach, each
element is where its original box is, less all that was scrolled, and has the extent it had; it is
visible exactly if the original box lies in the part of the page that is shown.  The order of such
scrolls makes no difference, and scrolling back by as much restores the layout, the opposite scrolls
in particular. -/
theorem scrolled_exactly (l : Layout) (scrolls : List (Binary64 × Binary64)) (pixels : l.IsPixels)
    (reach : l.CanScroll scrolls) :
    (l.scrolled scrolls).viewport = l.viewport ∧
      (∀ id, l.get? id = none → (l.scrolled scrolls).get? id = none) ∧
      (∀ id box, l.get? id = some box → ∃ moved, (l.scrolled scrolls).get? id = some moved ∧
        moved.IsShift box (travel scrolls) ∧
        moved.width == box.width ∧ moved.height == box.height ∧
        (((Check.classify host id).run (l.scrolled scrolls)).result = .ok .visible ↔
          (travel scrolls).1 ≤ box.left.pixels ∧
          box.right.pixels ≤ (travel scrolls).1 + l.viewport.width.pixels ∧
          (travel scrolls).2 ≤ box.top.pixels ∧
          box.bottom.pixels ≤ (travel scrolls).2 + l.viewport.height.pixels)) ∧
      (∀ order, order.Perm scrolls → l.CanScroll order →
        l.scrolled order == l.scrolled scrolls) ∧
      (∀ back, travel back = -travel scrolls → l.CanScroll (scrolls ++ back) →
        (l.scrolled scrolls).scrolled back == l) ∧
      (l.scrolled scrolls).scrolled (opposite scrolls) == l := by
  have restores : ∀ back, travel back = -travel scrolls → l.CanScroll (scrolls ++ back) →
      (l.scrolled scrolls).scrolled back == l := by
    intro back turned there
    rw [← scrolled_append]
    refine there.beq (canScroll_nil pixels) pixels ?_
    rw [travel_append, turned, add_neg_cancel, travel_nil]
  refine ⟨by rw [scrolled_eq], ?_, ?_, ?_, restores, ?_⟩
  · intro id none
    rw [scrolled_eq]
    exact (Elements.get?_map _ _ id).trans (congrArg _ none)
  · intro id box held
    have mem := Elements.mem_of_get? held
    have shift := reach.isShift pixels mem
    have moved : (l.scrolled scrolls).get? id = some (box.scrolled scrolls) := by
      rw [scrolled_eq]
      exact (Elements.get?_map _ _ id).trans (congrArg _ held)
    obtain ⟨width, height⟩ := shift.extent_beq (pixels.boxes _ mem)
    refine ⟨_, moved, shift, width, height, ?_⟩
    rw [Check.result_classify_layout, moved, scrolled_eq,
      ← shift.classify_iff pixels.width pixels.height]
    exact ⟨Except.ok.inj, congrArg _⟩
  · exact fun order perm there => there.beq reach pixels (travel_perm perm)
  · exact restores _ (travel_opposite reach.offsets) reach.opposite

/-- An element that is scrolled into view beside one whose left edge is as far out as it may be, and
back. -/
theorem scrolled_exactly_into_view :
    let number := Binary64.ofNat
    let l := ((ofViewport ⟨number 100, number 50⟩).withElement "far" ⟨0, -number (2 ^ 53), 0, 0⟩)
      |>.withElement "footer" ⟨number 60, 0, number 100, number 90⟩
    let scrolls := [(-number 3, number 70), (number 3, -number 15)]
    l.IsPixels ∧ l.CanScroll scrolls ∧ travel scrolls = (0, 55) ∧
      ((Check.classify host "footer").run (l.scrolled scrolls)).result = .ok .visible ∧
      (l.scrolled scrolls).scrolled (opposite scrolls) == l := by
  intro number l scrolls
  have pixels : l.IsPixels := by decide +kernel
  have reach : l.CanScroll scrolls := by decide +kernel
  have led : travel scrolls = (0, 55) := by decide +kernel
  obtain ⟨-, -, boxes, -, -, back⟩ := scrolled_exactly l scrolls pixels reach
  obtain ⟨-, -, -, -, -, visible⟩ :=
    boxes "footer" ⟨number 60, 0, number 100, number 90⟩ (by decide +kernel)
  exact ⟨pixels, reach, led, visible.mpr (by decide +kernel), back⟩

/-- One pixel past the reach and back again: the edge is rounded to `2 ^ 53` on the way, so what is
stored never leaves the reach, and it ends a pixel short of where it was.  In the other order
nothing is rounded. -/
theorem scrolled_past_reach :
    let pixel := Binary64.ofNat 1
    let box : Box := ⟨0, 0, Binary64.ofNat (2 ^ 53), 0⟩
    let l := (ofViewport ⟨0, 0⟩).withElement "a" box
    let scrolls := [(-pixel, 0), (pixel, 0)]
    l.IsPixels ∧ (∀ offset ∈ scrolls, offset.1.IsPixels ∧ offset.2.IsPixels) ∧
      (∀ first, first <+: scrolls → (l.scrolled first).IsPixels) ∧ travel scrolls = 0 ∧
      (∃ moved, (l.scrolled scrolls).get? "a" = some moved ∧
        moved.right.pixels = box.right.pixels - (travel scrolls).1 - 1) ∧
      ¬ l.scrolled scrolls == l ∧
      l.CanScroll scrolls.reverse ∧ l.scrolled scrolls.reverse == l := by
  intro pixel box l scrolls
  refine ⟨by decide +kernel, by decide +kernel, ?_, by decide +kernel, ?_, by decide +kernel,
    by decide +kernel, by decide +kernel⟩
  · intro first earlier
    have stays : ∀ first ∈ scrolls.inits, (l.scrolled first).IsPixels := by decide +kernel
    exact stays first (List.mem_inits first scrolls |>.mpr earlier)
  · exact ⟨box.scrolled scrolls, by decide +kernel, by decide +kernel⟩

end Layout

end InView
