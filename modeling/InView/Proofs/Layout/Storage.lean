import InView.Proofs.Json.Vanish
import InView.Proofs.Json.Writer
import InView.Proofs.Layout.Grammar
import InView.Proofs.Layout.Validation

/-!
# What comes back from storage

A layout is written by the grammar that layouts are read by, so what has been written can always
be read.  What comes back are the same ids, over numbers each of which is what its own numeral is
read as (`Layout.reread`).

Reading a numeral rounds more than once, and so a number of sixteen or seventeen digits can come
back as its neighbour.  `survivesStorage_eq_all` says that this is the only thing that can happen
to a layout: it comes back equal exactly if each of its numbers does.
-/

namespace InView

open Json

/-! ## Layouts read back -/

/-- A box with what its edges are read as. -/
def Box.reread (b : Box) : Box :=
  ⟨b.top.reread, b.left.reread, b.right.reread, b.bottom.reread⟩

/-- A viewport with what its dimensions are read as. -/
def Viewport.reread (v : Viewport) : Viewport := ⟨v.width.reread, v.height.reread⟩

/-- A layout with what its numbers are read as. -/
def Layout.reread (l : Layout) : Layout := ⟨l.viewport.reread, l.elements.map Box.reread⟩

/-- The numbers of a layout. -/
def Layout.numbers (l : Layout) : List Binary64 :=
  l.viewport.width :: l.viewport.height :: l.elements.entries.flatMap fun entry => entry.2.edges

lemma Layout.finite_numbers_iff {l : Layout} :
    (∀ x ∈ l.numbers, x.isFinite) ↔ l.viewport.width.isFinite ∧ l.viewport.height.isFinite ∧
      ∀ entry ∈ l.elements.entries, entry.2.isFinite := by
  simp only [numbers, List.forall_mem_cons, List.mem_flatMap, Box.isFinite, List.all_eq_true]
  refine and_congr_right fun _ => and_congr_right fun _ => ?_
  exact ⟨fun all entry mem x edge => all x ⟨entry, mem, edge⟩,
    fun all x ⟨entry, mem, edge⟩ => all entry mem x edge⟩

/-! ## Equality of what comes back -/

lemma Box.reread_beq (b : Box) : (b.reread == b) = b.edges.all fun x => x.reread == x := by
  change (_ && _ && _ && _) = _
  simp [Box.reread, Box.edges, Bool.and_assoc]

lemma Elements.map_beq (e : Elements) (f : Box → Box) :
    (e.map f == e) = e.entries.all fun entry => f entry.2 == entry.2 := by
  obtain ⟨entries, sorted⟩ := e
  change ((entries.map fun entry => (entry.1, f entry.2)) == entries) = entries.all _
  clear sorted
  induction entries with
  | nil => rfl
  | cons entry entries ih =>
      rw [List.map_cons, List.all_cons, List.cons_beq_cons, ih]
      congr 1
      change (entry.1 == entry.1 && _) = _
      rw [beq_self_eq_true, Bool.true_and]

/-- A layout comes back equal exactly if each of its numbers does. -/
lemma Layout.reread_beq (l : Layout) : (l.reread == l) = l.numbers.all fun x => x.reread == x := by
  change ((_ && _) && (l.elements.map Box.reread == l.elements)) = _
  rw [Elements.map_beq, numbers]
  simp [reread, Viewport.reread, Box.reread_beq, List.all_flatMap, Bool.and_assoc]

/-! ## Entries in order -/

namespace Elements

/-- An id above all others comes last. -/
lemma insertEntry_last {id : String} {box : Box} {entries : List (String × Box)}
    (above : ∀ entry ∈ entries, entry.1 < id) :
    insertEntry id box entries = entries ++ [(id, box)] := by
  induction entries with
  | nil => rfl
  | cons first rest ih =>
      have lt := above first List.mem_cons_self
      have ne : id ≠ first.1 := fun same => String.lt_irrefl _ (same ▸ lt)
      rw [insertEntry, if_neg (String.lt_asymm lt), if_neg ne,
        ih fun entry mem => above entry (List.mem_cons_of_mem first mem), List.cons_append]

/-- Entries in order are put one behind the other. -/
lemma entries_foldl_insert {e : Elements} {rest : List (String × Box)}
    (sorted : (e.entries ++ rest).Pairwise fun a b => a.1 < b.1) :
    (rest.foldl (fun e entry => e.insert entry.1 entry.2) e).entries = e.entries ++ rest := by
  induction rest generalizing e with
  | nil => simp
  | cons entry rest ih =>
      have last : (e.insert entry.1 entry.2).entries = e.entries ++ [entry] :=
        insertEntry_last fun other mem =>
          (List.pairwise_append.mp sorted).2.2 other mem entry List.mem_cons_self
      have split : e.entries ++ entry :: rest = (e.insert entry.1 entry.2).entries ++ rest := by
        rw [last, List.append_assoc, List.singleton_append]
      rw [List.foldl_cons, ih (split ▸ sorted), split]

/-- Elements are made of their entries. -/
lemma ofEntries_entries (e : Elements) : ofEntries e.entries = e := by
  have same : (ofEntries e.entries).entries = e.entries := entries_foldl_insert e.sorted
  cases e
  cases made : ofEntries _
  rw [made] at same
  congr

end Elements

/-! ## What is written -/

lemma realText_numeral {x : Binary64} (finite : x.isFinite) :
    RealText x.reread (numeralStyle.numeral x) :=
  ⟨_, Binary64.numberText_numeral finite, rfl⟩

section

variable {spacing : Spacing} (blank : spacing.IsBlank) (depth : Nat)

include blank

/-- A box with finite edges is written as a text of the box that comes back. -/
lemma boxText_write {b : Box} (finite : b.isFinite) :
    BoxText b.reread (b.toDocument.write spacing depth) := by
  obtain ⟨top, left, right, bottom⟩ := b
  simp only [Box.isFinite, Box.edges, List.all_cons, List.all_nil, Bool.and_true,
    Bool.and_eq_true] at finite
  obtain ⟨hTop, hLeft, hRight, hBottom⟩ := finite
  refine .inr ⟨_, Document.objectText_write blank depth _, ?_, ?_, ?_, ?_, ?_⟩
  · exact .cons (realText_numeral hTop) .nil
  · exact .cons (realText_numeral hLeft) .nil
  · exact .cons (realText_numeral hRight) .nil
  · exact .cons (realText_numeral hBottom) .nil
  · simp [Others, Document.written]

/-- A viewport of finite dimensions is written as a text of the viewport that comes back. -/
lemma viewportText_write {v : Viewport} (width : v.width.isFinite) (height : v.height.isFinite) :
    ViewportText v.reread (v.toDocument.write spacing depth) := by
  refine .inr ⟨_, Document.objectText_write blank depth _, ?_, ?_, ?_⟩
  · exact .cons (realText_numeral width) .nil
  · exact .cons (realText_numeral height) .nil
  · simp [Others, Document.written]

/-- Elements with finite edges are written as a text of the elements that come back. -/
lemma elementsText_write {e : Elements} (finite : ∀ entry ∈ e.entries, entry.2.isFinite) :
    ElementsText (e.map Box.reread) (e.toDocument.write spacing depth) := by
  refine ⟨_, (e.map Box.reread).entries, Document.objectText_write blank depth _, ?_,
    (Elements.ofEntries_entries _).symm⟩
  simp only [Elements.map, List.map_map, List.forall₂_map_left_iff, List.forall₂_map_right_iff,
    List.forall₂_same]
  exact fun entry mem => ⟨rfl, boxText_write blank (depth + 1) (finite entry mem)⟩

/-- **A layout of finite numbers is written as a text of the layout that comes back**, whatever the
blanks are. -/
theorem layoutText_write {l : Layout} (finite : ∀ x ∈ l.numbers, x.isFinite) :
    LayoutText l.reread (l.toDocument.write spacing depth) := by
  obtain ⟨width, height, edges⟩ := Layout.finite_numbers_iff.mp finite
  refine .inr ⟨_, Document.objectText_write blank depth _, ?_,
    ⟨some (l.elements.map Box.reread), ?_, rfl⟩, ?_⟩
  · exact .cons (viewportText_write blank _ width height) .nil
  · exact .cons (elementsText_write blank _ edges) .nil
  · simp [Others, Document.written]

/-- A layout of finite numbers that is written is read as the layout that comes back. -/
lemma document_render {l : Layout} (finite : ∀ x ∈ l.numbers, x.isFinite) :
    Reader.document Layout.read (l.toDocument.render spacing).toList = .ok l.reread :=
  (document_reads Layout.read_reads).mpr ⟨[], _, [], by simp [Document.render], blanks_nil,
    layoutText_write blank 0 finite, blanks_nil⟩

end

/-! ## Storage -/

namespace Binary64

lemma isDimension_finite_iff {negative : Bool} {units : Nat} {fits : Fits units} :
    (finite negative units fits).isDimension ↔ (negative → units = 0) := by
  have below : finite negative units fits < 0 ↔ signed negative units < 0 := by
    rw [lt_iff, level_zero]
    exact ⟨fun h => h.2.2, fun h => ⟨nofun, isNumber_zero, h⟩⟩
  simp only [isDimension, isFinite, below, Bool.true_and]
  cases negative <;> simp [signed]

/-- A number comes back as a dimension only if it is one, since none vanishes below zero. -/
lemma isDimension_reread (x : Binary64) : x.reread.isDimension = x.isDimension := by
  cases x with
  | nan => rfl
  | infinite => rfl
  | finite negative units fits =>
      obtain ⟨units', fits', same, -⟩ := reread_finite negative fits
      rw [same, Bool.eq_iff_iff, isDimension_finite_iff, isDimension_finite_iff,
        reread_units_eq_zero_iff same]

end Binary64

lemma Box.isFinite_reread (b : Box) : b.reread.isFinite = b.isFinite := by
  simp [isFinite, edges, reread, Binary64.isFinite_reread]

namespace Layout

/-- What comes back breaks the same rule first. -/
lemma violation?_reread (l : Layout) : l.reread.violation? = l.violation? := by
  have elements : l.reread.elements.entries.findSome? elementViolation? =
      l.elements.entries.findSome? elementViolation? := by
    change (l.elements.entries.map _).findSome? _ = _
    rw [List.findSome?_map]
    congr
    funext entry
    simp only [Function.comp_apply, elementViolation?, Box.isFinite_reread]
  simp only [violation?, elements]
  simp only [reread, Viewport.reread, Binary64.isDimension_reread]

/-- What comes back is validated as it was. -/
lemma validate_reread (l : Layout) : l.reread.validate = l.validate := by
  rw [validate, validate, violation?_reread]

lemma Valid.finite {l : Layout} (valid : l.Valid) : ∀ x ∈ l.numbers, x.isFinite := by
  have width := valid.width
  have height := valid.height
  rw [Binary64.isDimension, Bool.and_eq_true] at width height
  exact finite_numbers_iff.mpr ⟨width.1, height.1, valid.edges⟩

/-- What comes back is valid again. -/
lemma Valid.reread {l : Layout} (valid : l.Valid) : l.reread.Valid := by
  rw [← validate_eq_ok_iff, validate_reread, validate_eq_ok_iff]
  exact valid

/-- A valid layout is written as a text from which it comes back. -/
lemma Valid.stores {l : Layout} (valid : l.Valid) :
    l.toText = .ok (l.toDocument.render .indented) ∧
      ofText (l.toDocument.render .indented) = .ok l.reread := by
  constructor
  · rw [toText, validate_eq_ok_iff.mpr valid]
    rfl
  · exact ofText_eq_ok_iff.mpr
      ⟨document_render Spacing.isBlank_indented valid.finite, valid.reread⟩

lemma Valid.survivesStorage_eq {l : Layout} (valid : l.Valid) :
    l.survivesStorage = .ok (l.numbers.all fun x => x.reread == x) := by
  obtain ⟨written, read⟩ := valid.stores
  simp only [survivesStorage, written, bind, Except.bind, read, reread_beq]
  rfl

end Layout

/-- **A valid layout can always be loaded again, and comes back equal exactly if each of its
numbers does.**  Its text is read without fault, as a layout with the same ids over what the
numerals of its numbers are read as.  Numbers that are read in one step come back, so a layout of
such numbers survives. -/
theorem Layout.survivesStorage_eq_all (l : Layout) (valid : l.validate = .ok ()) :
    (∃ text, l.toText = .ok text ∧ ofText text = .ok l.reread) ∧
      l.reread.ids = l.ids ∧
      l.survivesStorage = .ok (l.numbers.all fun x => x.reread == x) ∧
      ((∀ x ∈ l.numbers, x.ReadsInOneStep) → l.survivesStorage = .ok true) := by
  have isValid := validate_eq_ok_iff.mp valid
  refine ⟨⟨_, isValid.stores⟩, Elements.ids_map _ _, isValid.survivesStorage_eq, fun all => ?_⟩
  rw [isValid.survivesStorage_eq]
  congr 1
  rw [List.all_eq_true]
  intro x mem
  rw [(all x mem).reread_eq, Binary64.beq_iff]
  have number := Binary64.isNumber_of_isFinite (isValid.finite x mem)
  exact ⟨number, number, rfl⟩

/-- A window with an element that sticks out of it. -/
theorem Layout.survivesStorage_window :
    let l : Layout := (ofViewport ⟨.ofNat 1024, .ofNat 768⟩).withElement "desk"
      ⟨-.ofNat 5, 0, .ofNat 1024, 0⟩
    l.validate = .ok () ∧ l.survivesStorage = .ok true := by
  intro l
  have valid : l.validate = .ok () := by
    rw [validate, show l.violation? = none by decide +kernel]
  exact ⟨valid, (l.survivesStorage_eq_all valid).2.2.2 (by decide +kernel)⟩

/-- A window whose width is written as `7205759403792799.0` and read as the number below. -/
theorem Layout.survivesStorage_longWidth :
    let l := ofViewport ⟨.ofNat 7205759403792799, 0⟩
    l.validate = .ok () ∧ l.survivesStorage = .ok false ∧
      l.reread.viewport = ⟨.ofNat 7205759403792798, 0⟩ := by
  intro l
  have valid : l.validate = .ok () := by
    rw [validate, show l.violation? = none by decide +kernel]
  have width : (Binary64.ofNat 7205759403792799).reread = .ofNat 7205759403792798 := by
    decide +kernel
  have height : (0 : Binary64).reread = 0 := Binary64.reread_zero false
  refine ⟨valid, ?_, ?_⟩
  · rw [(validate_eq_ok_iff.mp valid).survivesStorage_eq]
    change Except.ok (((Binary64.ofNat 7205759403792799).reread == _) && ((_ == _) && true)) = _
    rw [width]
    congr 1
    decide +kernel
  · change Viewport.mk (Binary64.ofNat 7205759403792799).reread (0 : Binary64).reread = _
    rw [width, height]

end InView
