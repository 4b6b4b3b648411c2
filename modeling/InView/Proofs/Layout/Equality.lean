import InView.Proofs.Check
import InView.Proofs.Layout.Finite
import InView.Proofs.Visibility

/-!
# Equal layouts

Layouts are equal if they have the same ids over numerically equal boxes and numerically equal
viewports.  That is symmetric and transitive, and a layout is equal to itself exactly if it holds no
`nan` (`Layout.beq_self_iff`).

Equality identifies the zeros, and nothing that is asked of a layout tells them apart: equal
layouts break the same rule (`violation?_congr`) and give every check the same result
(`result_visible_congr`).  Each of the changes leads from equal layouts to equal ones, as long as it
brings in no `nan` and scrolls by finite amounts.
-/

namespace InView

open Binary64

/-! ## Boxes and viewports -/

namespace Box

lemma beq_iff {a b : Box} : a == b ↔
    a.top == b.top ∧ a.left == b.left ∧ a.right == b.right ∧ a.bottom == b.bottom := by
  change (_ && _ && _ && _) = true ↔ _
  simp only [Bool.and_eq_true, and_assoc]

instance : PartialEquivBEq Box where
  symm h := by
    obtain ⟨top, left, right, bottom⟩ := beq_iff.mp h
    exact beq_iff.mpr ⟨BEq.symm top, BEq.symm left, BEq.symm right, BEq.symm bottom⟩
  trans h h' := by
    obtain ⟨top, left, right, bottom⟩ := beq_iff.mp h
    obtain ⟨top', left', right', bottom'⟩ := beq_iff.mp h'
    exact beq_iff.mpr ⟨BEq.trans top top', BEq.trans left left', BEq.trans right right',
      BEq.trans bottom bottom'⟩

lemma beq_self_iff {b : Box} : b == b ↔ ∀ x ∈ b.edges, x.IsNumber := by
  simp only [beq_iff, Binary64.beq_self_iff, edges, List.forall_mem_cons, List.not_mem_nil,
    false_implies, implies_true, and_true]

lemma IsNumber.beq_self {b : Box} (h : b.IsNumber) : b == b :=
  beq_iff.mpr ⟨Binary64.beq_self_iff.mpr h.top, Binary64.beq_self_iff.mpr h.left,
    Binary64.beq_self_iff.mpr h.right, Binary64.beq_self_iff.mpr h.bottom⟩

variable {a b : Box}

lemma isFinite_congr (h : a == b) : a.isFinite = b.isFinite := by
  obtain ⟨top, left, right, bottom⟩ := beq_iff.mp h
  simp only [isFinite, edges, List.all_cons, Binary64.isFinite_congr top,
    Binary64.isFinite_congr left, Binary64.isFinite_congr right, Binary64.isFinite_congr bottom]

/-- Equal boxes that are moved by the same finite amounts are equal. -/
lemma translate_beq_translate (h : a == b) {dx dy : Binary64} (hdx : dx.isFinite)
    (hdy : dy.isFinite) : a.translate dx dy == b.translate dx dy := by
  obtain ⟨top, left, right, bottom⟩ := beq_iff.mp h
  exact beq_iff.mpr ⟨add_beq_add_of_isFinite top hdy, add_beq_add_of_isFinite left hdx,
    add_beq_add_of_isFinite right hdx, add_beq_add_of_isFinite bottom hdy⟩

end Box

namespace Viewport

lemma beq_iff {v w : Viewport} : v == w ↔ v.width == w.width ∧ v.height == w.height := by
  change (_ && _) = true ↔ _
  simp only [Bool.and_eq_true]

instance : PartialEquivBEq Viewport where
  symm h := beq_iff.mpr ⟨BEq.symm (beq_iff.mp h).1, BEq.symm (beq_iff.mp h).2⟩
  trans h h' := beq_iff.mpr
    ⟨BEq.trans (beq_iff.mp h).1 (beq_iff.mp h').1, BEq.trans (beq_iff.mp h).2 (beq_iff.mp h').2⟩

end Viewport

/-- **Equal boxes are classified alike in equal viewports.** -/
theorem classify_congr {a b : Box} {v w : Viewport} (h : a == b) (h' : v == w) :
    classify a v = classify b w := by
  obtain ⟨top, left, right, bottom⟩ := Box.beq_iff.mp h
  obtain ⟨width, height⟩ := Viewport.beq_iff.mp h'
  have zero : (0 : Binary64) == 0 := Binary64.beq_self_iff.mpr isNumber_zero
  simp only [classify, lt_congr width right, lt_congr height bottom, lt_congr top zero,
    lt_congr left zero]

/-! ## Elements -/

namespace Elements

/-- The same id over equal boxes. -/
def EqualEntry (a b : String × Box) : Prop := a.1 = b.1 ∧ a.2 == b.2

lemma beq_iff {e f : Elements} : e == f ↔ List.Forall₂ EqualEntry e.entries f.entries := by
  change (e.entries == f.entries) = true ↔ _
  generalize e.entries = entries
  generalize f.entries = entries'
  induction entries generalizing entries' with
  | nil => cases entries' <;> simp
  | cons a entries ih =>
      cases entries' with
      | nil => simp
      | cons b entries' =>
          have first : (a == b) = true ↔ EqualEntry a b := by
            change (a.1 == b.1 && a.2 == b.2) = true ↔ _
            rw [Bool.and_eq_true, beq_iff_eq, EqualEntry]
          rw [List.cons_beq_cons, Bool.and_eq_true, first, ih, List.forall₂_cons]

lemma EqualEntry.trans {a b c : String × Box} (h : EqualEntry a b) (h' : EqualEntry b c) :
    EqualEntry a c :=
  ⟨h.1.trans h'.1, BEq.trans h.2 h'.2⟩

lemma equalEntries_trans {entries entries' entries'' : List (String × Box)}
    (h : List.Forall₂ EqualEntry entries entries')
    (h' : List.Forall₂ EqualEntry entries' entries'') :
    List.Forall₂ EqualEntry entries entries'' := by
  induction h generalizing entries'' with
  | nil => exact h'
  | cons first behind ih =>
      cases h' with
      | cons first' behind' => exact .cons (first.trans first') (ih behind')

instance : PartialEquivBEq Elements where
  symm h := beq_iff.mpr ((beq_iff.mp h).imp fun _ _ same => ⟨same.1.symm, BEq.symm same.2⟩).flip
  trans h h' := beq_iff.mpr (equalEntries_trans (beq_iff.mp h) (beq_iff.mp h'))

variable {e f : Elements}

/-- Equal elements have the same ids, with equal boxes under them. -/
lemma get?_congr (h : e == f) (id : String) :
    Option.Rel (fun a b => a == b) (e.get? id) (f.get? id) := by
  rw [beq_iff] at h
  simp only [get?]
  generalize e.entries = entries at h
  generalize f.entries = entries' at h
  induction h with
  | nil => exact .none
  | cons first _ ih =>
      rw [lookup_entry, lookup_entry, first.1]
      split
      case isTrue => exact .some first.2
      case isFalse => exact ih

lemma insert_beq_insert (h : e == f) (id : String) {box box' : Box} (same : box == box') :
    e.insert id box == f.insert id box' := by
  rw [beq_iff] at *
  simp only [insert]
  generalize e.entries = entries at h
  generalize f.entries = entries' at h
  have new : EqualEntry (id, box) (id, box') := ⟨rfl, same⟩
  induction h with
  | nil => exact .cons new .nil
  | @cons a b _ _ first behind ih =>
      obtain ⟨key, box⟩ := a
      obtain ⟨key', box'⟩ := b
      obtain rfl : key = key' := first.1
      rw [insertEntry, insertEntry]
      split_ifs
      · exact .cons new (.cons first behind)
      · exact .cons new behind
      · exact .cons first ih

lemma erase_beq_erase (h : e == f) (id : String) : e.erase id == f.erase id := by
  refine beq_iff.mpr (List.rel_filter (fun a b same => ?_) (beq_iff.mp h))
  simp only [decide_eq_true_eq, same.1]

/-- What leads from equal boxes to equal ones does so for all elements. -/
lemma map_beq_map (h : e == f) {change : Box → Box}
    (keeps : ∀ a b : Box, a == b → change a == change b) : e.map change == f.map change := by
  refine beq_iff.mpr (List.rel_map (fun a b same => ?_) (beq_iff.mp h))
  exact ⟨same.1, keeps _ _ same.2⟩

/-- Changes that lead from the same boxes to equal ones. -/
lemma map_beq_map_of_mem {change change' : Box → Box}
    (same : ∀ entry ∈ e.entries, change entry.2 == change' entry.2) :
    e.map change == e.map change' := by
  refine beq_iff.mpr ?_
  rw [map, map, List.forall₂_map_left_iff, List.forall₂_map_right_iff, List.forall₂_same]
  exact fun entry mem => ⟨rfl, same entry mem⟩

lemma beq_self_iff : e == e ↔ ∀ entry ∈ e.entries, entry.2 == entry.2 := by
  rw [beq_iff, List.forall₂_same]
  exact forall₂_congr fun _ _ => ⟨fun same => same.2, fun number => ⟨rfl, number⟩⟩

end Elements

/-! ## Layouts -/

namespace Layout

lemma beq_iff {s t : Layout} : s == t ↔ s.viewport == t.viewport ∧ s.elements == t.elements := by
  change (_ && _) = true ↔ _
  simp only [Bool.and_eq_true]

instance : PartialEquivBEq Layout where
  symm h := beq_iff.mpr ⟨BEq.symm (beq_iff.mp h).1, BEq.symm (beq_iff.mp h).2⟩
  trans h h' := beq_iff.mpr
    ⟨BEq.trans (beq_iff.mp h).1 (beq_iff.mp h').1, BEq.trans (beq_iff.mp h).2 (beq_iff.mp h').2⟩

/-- **Exactly the layouts without `nan` are equal to themselves.** -/
theorem beq_self_iff {s : Layout} : s == s ↔ ∀ x ∈ s.numbers, x.IsNumber := by
  simp only [beq_iff, Viewport.beq_iff, Binary64.beq_self_iff, Elements.beq_self_iff,
    Box.beq_self_iff, numbers, List.forall_mem_cons, List.mem_flatMap, and_assoc]
  refine and_congr_right fun _ => and_congr_right fun _ => ?_
  constructor
  · rintro all x ⟨entry, mem, edge⟩
    exact all entry mem x edge
  · exact fun all entry mem x edge => all x ⟨entry, mem, edge⟩

variable {s t : Layout}

lemma get?_congr (h : s == t) (id : String) :
    Option.Rel (fun a b => a == b) (s.get? id) (t.get? id) :=
  Elements.get?_congr (beq_iff.mp h).2 id

/-! ### Validation -/

lemma isDimension_congr {x y : Binary64} (h : x == y) : x.isDimension = y.isDimension := by
  have zero : (0 : Binary64) == 0 := Binary64.beq_self_iff.mpr isNumber_zero
  simp only [isDimension, isFinite_congr h, lt_congr h zero]

/-- **Equal layouts break the same rule first.** -/
theorem violation?_congr (h : s == t) : s.violation? = t.violation? := by
  obtain ⟨viewport, elements⟩ := beq_iff.mp h
  obtain ⟨width, height⟩ := Viewport.beq_iff.mp viewport
  have entries : s.elements.entries.findSome? elementViolation? =
      t.elements.entries.findSome? elementViolation? := by
    rw [Elements.beq_iff] at elements
    generalize s.elements.entries = entries at elements
    generalize t.elements.entries = entries' at elements
    induction elements with
    | nil => rfl
    | @cons a b _ _ first _ ih =>
        have same : elementViolation? a = elementViolation? b := by
          simp only [elementViolation?, first.1, Box.isFinite_congr first.2]
        rw [List.findSome?_cons, List.findSome?_cons, same, ih]
  simp only [violation?, isDimension_congr width, isDimension_congr height, entries]

lemma validate_congr (h : s == t) : s.validate = t.validate := by
  rw [validate, validate, violation?_congr h]

/-! ### Checks -/

lemma result_classify_congr (h : s == t) (id : String) :
    ((Check.classify host id).run s).result = ((Check.classify host id).run t).result := by
  have held := get?_congr h id
  rw [Check.result_classify_layout, Check.result_classify_layout]
  generalize s.get? id = left at held
  generalize t.get? id = right at held
  cases held with
  | none => rfl
  | some same => exact congrArg Except.ok (classify_congr same (beq_iff.mp h).1)

lemma result_isVisible_congr (h : s == t) (id : String) :
    ((Check.isVisible host id).run s).result = ((Check.isVisible host id).run t).result := by
  rw [Check.result_isVisible, Check.result_isVisible, result_classify_congr h]

/-- **Equal layouts give every check the same result.** -/
theorem result_visible_congr (h : s == t) (ids : List String) :
    ((Check.visible host ids).run s).result = ((Check.visible host ids).run t).result := by
  induction ids with
  | nil => rfl
  | cons id rest ih =>
      rw [Check.result_visible_layout_cons, Check.result_visible_layout_cons,
        result_isVisible_congr h, ih]

/-! ### Changes -/

lemma withElement_beq_withElement (h : s == t) (id : String) {box : Box} (number : box.IsNumber) :
    s.withElement id box == t.withElement id box :=
  beq_iff.mpr ⟨(beq_iff.mp h).1, Elements.insert_beq_insert (beq_iff.mp h).2 id number.beq_self⟩

lemma remove_beq_remove (h : s == t) (id : String) : (s.remove id).2 == (t.remove id).2 :=
  beq_iff.mpr ⟨(beq_iff.mp h).1, Elements.erase_beq_erase (beq_iff.mp h).2 id⟩

lemma resize_beq_resize (h : s == t) {view : Viewport} (number : view.IsNumber) :
    s.resize view == t.resize view :=
  beq_iff.mpr ⟨Viewport.beq_iff.mpr ⟨Binary64.beq_self_iff.mpr number.width,
    Binary64.beq_self_iff.mpr number.height⟩, (beq_iff.mp h).2⟩

lemma scrollBy_beq_scrollBy (h : s == t) {dx dy : Binary64} (hdx : dx.isFinite)
    (hdy : dy.isFinite) : s.scrollBy dx dy == t.scrollBy dx dy := by
  refine beq_iff.mpr ⟨(beq_iff.mp h).1, Elements.map_beq_map (beq_iff.mp h).2 fun a b same => ?_⟩
  refine Box.translate_beq_translate same ?_ ?_
  · rw [isFinite_neg]
    exact hdx
  · rw [isFinite_neg]
    exact hdy

end Layout

end InView
