import InView.Proofs.Visibility

/-!
# More room

A box that is visible stays visible if its edges move inwards and if the far sides of the viewport
move outwards.  Any of the numbers may be replaced by `nan` as well: only a comparison that succeeds
puts a box outside, and one with `nan` does not succeed.  All of this rests on one fact about the
order, `Binary64.lt_of_lt_apart`, which serves each of the four comparisons of `classify`.

The origin does not move, so a larger viewport can only mend an overflow at the end.  A box that
does not overflow there is judged in the larger viewport as it was before (`classify_of_growsTo`).
-/

namespace InView

/-- Numbers that are moved apart, or replaced by `nan`, compare only if they did so before. -/
lemma Binary64.lt_of_lt_apart {x x' y y' : Binary64} (hx : x' = .nan ∨ x ≤ x')
    (hy : y' = .nan ∨ y' ≤ y) (lt : x' < y') : x < y := by
  rw [lt_iff] at lt ⊢
  obtain ⟨number, number', level⟩ := lt
  have below : x ≤ x' := hx.resolve_left number
  have above : y' ≤ y := hy.resolve_left number'
  rw [le_iff] at below above
  exact ⟨below.1, above.2.1, by omega⟩

/-- Each edge is moved inwards, or replaced by `nan`. -/
structure Box.ShrinksTo (box box' : Box) : Prop where
  right : box'.right = .nan ∨ box'.right ≤ box.right
  bottom : box'.bottom = .nan ∨ box'.bottom ≤ box.bottom
  top : box'.top = .nan ∨ box.top ≤ box'.top
  left : box'.left = .nan ∨ box.left ≤ box'.left

/-- Each dimension becomes greater or stays, or is replaced by `nan`. -/
structure Viewport.GrowsTo (view view' : Viewport) : Prop where
  width : view'.width = .nan ∨ view.width ≤ view'.width
  height : view'.height = .nan ∨ view.height ≤ view'.height

lemma Binary64.eq_nan_or_le_self (x : Binary64) : x = .nan ∨ x ≤ x := by
  by_cases nan : x = .nan
  · exact .inl nan
  · exact .inr (le_iff.mpr ⟨nan, nan, Int.le_refl _⟩)

/-- A box shrinks to itself, also if it has `nan` edges. -/
lemma Box.ShrinksTo.refl (box : Box) : box.ShrinksTo box where
  right := box.right.eq_nan_or_le_self
  bottom := box.bottom.eq_nan_or_le_self
  top := box.top.eq_nan_or_le_self
  left := box.left.eq_nan_or_le_self

variable {box box' : Box} {view view' : Viewport}

/-- A box overflows at the end exactly if one of its far edges passes a far side. -/
lemma classify_eq_overflowsEnd_iff : classify box view = .overflowsEnd ↔
    view.width < box.right ∨ view.height < box.bottom := by
  rw [classify]
  split_ifs with atEnd atStart <;> simp [atEnd]

/-- A smaller box in a larger viewport overflows at the end only if the box itself did so. -/
lemma overflowsEnd_of_overflowsEnd (smaller : box.ShrinksTo box') (larger : view.GrowsTo view')
    (atEnd : classify box' view' = .overflowsEnd) : classify box view = .overflowsEnd := by
  rw [classify_eq_overflowsEnd_iff] at atEnd ⊢
  rcases atEnd with right | bottom
  · exact .inl (Binary64.lt_of_lt_apart larger.width smaller.right right)
  · exact .inr (Binary64.lt_of_lt_apart larger.height smaller.bottom bottom)

/-- A visible box stays visible if it shrinks and the viewport grows. -/
lemma visible_of_shrinksTo (smaller : box.ShrinksTo box') (larger : view.GrowsTo view')
    (visible : classify box view = .visible) : classify box' view' = .visible := by
  have zero : (0 : Binary64) = .nan ∨ (0 : Binary64) ≤ 0 := Binary64.eq_nan_or_le_self 0
  rw [classify_eq_visible_iff_not_lt] at visible ⊢
  obtain ⟨right, bottom, top, left⟩ := visible
  refine ⟨?_, ?_, ?_, ?_⟩
  · exact fun lt => right (Binary64.lt_of_lt_apart larger.width smaller.right lt)
  · exact fun lt => bottom (Binary64.lt_of_lt_apart larger.height smaller.bottom lt)
  · exact fun lt => top (Binary64.lt_of_lt_apart smaller.top zero lt)
  · exact fun lt => left (Binary64.lt_of_lt_apart smaller.left zero lt)

/-- Where no far edge passes a far side, the near edges decide alone. -/
lemma classify_of_ne_overflowsEnd (inside : classify box view ≠ .overflowsEnd) :
    classify box view = if box.top < 0 ∨ box.left < 0 then .overflowsStart else .visible := by
  rw [Ne, classify_eq_overflowsEnd_iff] at inside
  rw [classify, if_neg inside]

/-- A box that does not overflow at the end is classified in a larger viewport as before. -/
lemma classify_of_growsTo (larger : view.GrowsTo view')
    (inside : classify box view ≠ .overflowsEnd) : classify box view' = classify box view := by
  have inside' : classify box view' ≠ .overflowsEnd := by
    intro atEnd
    exact inside (overflowsEnd_of_overflowsEnd (.refl box) larger atEnd)
  rw [classify_of_ne_overflowsEnd inside, classify_of_ne_overflowsEnd inside']

/-- **Visibility is monotone, `nan` included.**  A visible box stays visible if each of its edges is
moved inwards or replaced by `nan`, and each dimension of the viewport is made greater or replaced
by `nan`.  If it is only the viewport that changes in this way, only a box that overflows at the end
can be classified anew. -/
theorem classify_monotone :
    (∀ (box box' : Box) (view view' : Viewport), box.ShrinksTo box' → view.GrowsTo view' →
      classify box view = .visible → classify box' view' = .visible) ∧
    ∀ (box : Box) (view view' : Viewport), view.GrowsTo view' →
      classify box view ≠ .overflowsEnd → classify box view' = classify box view := by
  constructor
  · intro box box' view view' smaller larger visible
    exact visible_of_shrinksTo smaller larger visible
  · intro box view view' larger inside
    exact classify_of_growsTo larger inside

/-- A box of infinite width loses its left edge to `nan` and its top edge to the other zero, while
the viewport loses its width to `nan` and becomes infinitely high.  A box before the origin stays
there in the larger viewport. -/
theorem classify_monotone_nan :
    let number := Binary64.ofNat
    let view : Viewport := ⟨.infinite false, number 10⟩
    let view' : Viewport := ⟨.nan, .infinite false⟩
    view.GrowsTo view' ∧
      classify ⟨0, 0, .infinite false, number 10⟩ view = .visible ∧
      classify ⟨-0, .nan, .infinite false, number 5⟩ view' = .visible ∧
      classify ⟨-number 1, 0, number 5, .nan⟩ view = .overflowsStart ∧
      classify ⟨-number 1, 0, number 5, .nan⟩ view' = .overflowsStart := by
  intro number view view'
  have larger : view.GrowsTo view' := ⟨.inl rfl, .inr (by decide +kernel)⟩
  have smaller : Box.ShrinksTo ⟨0, 0, .infinite false, number 10⟩
      ⟨-0, .nan, .infinite false, number 5⟩ :=
    ⟨.inr (by decide +kernel), .inr (by decide +kernel), .inr (by decide +kernel), .inl rfl⟩
  have visible : classify ⟨0, 0, .infinite false, number 10⟩ view = .visible := by decide +kernel
  have atStart : classify ⟨-number 1, 0, number 5, .nan⟩ view = .overflowsStart := by
    decide +kernel
  refine ⟨larger, visible, classify_monotone.1 _ _ _ _ smaller larger visible, atStart, ?_⟩
  rw [classify_monotone.2 _ _ _ larger (by rw [atStart]; decide), atStart]

end InView
