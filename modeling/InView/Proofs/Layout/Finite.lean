import InView.Proofs.Layout.Storage

/-!
# What is read is finite

A document cannot spell an infinite number.  A numeral has any number of digits and any exponent,
and scaling either stays within the format or gives nothing, so whatever a numeral denotes is
finite (`RealText.isFinite`), and the grammar carries this from numerals to boxes, viewports and
layouts (`finite_of_document`).

Of the rules of validation that leaves three which a layout that was read can break, and
`ofText_of_document` tells in which order they are tried.  A layout that was loaded breaks none, so
it can be stored again.
-/

namespace InView

open Json Binary64

/-! ## Numerals -/

namespace Json

/-- The digits that are absorbed stay below the bound. -/
lemma absorb_lt {bound n : Nat} (h : n < bound) (ds : List Char) :
    (absorb bound n ds).1 < bound := by
  induction ds generalizing n with
  | nil => exact h
  | cons d ds ih =>
      rw [absorb]
      split
      case isTrue fits => exact ih fits
      case isFalse => exact h

lemma isFinite_ofNat {n : Nat} (h : n < significandLimit) : (ofNat n).isFinite := by
  obtain ⟨_, whole⟩ := isMagnitude_ofNat h
  rw [whole]
  rfl

lemma isFinite_withSign (negative : Bool) (x : Binary64) :
    (withSign negative x).isFinite = x.isFinite := by
  cases negative with
  | true => exact isFinite_neg x
  | false => rfl

/-- **Scaling gives a finite number or none**: upwards it is checked, and downwards there is nothing
to check. -/
theorem isFinite_of_scale? {significand : Nat} {exponent : Int} {x : Binary64}
    (bound : significand < significandLimit) (made : scale? significand exponent = some x) :
    x.isFinite := by
  rcases Int.lt_or_le exponent 0 with down | up
  · obtain ⟨y, made', units, fits, rfl⟩ := scale?_of_neg bound down
    rw [made] at made'
    cases made'
    rfl
  · rw [scale?, if_pos up] at made
    dsimp only at made
    split at made
    case isTrue =>
      split at made
      case isTrue finite =>
        cases made
        exact finite
      case isFalse => cases made
    case isFalse =>
      split at made
      case isTrue =>
        cases made
        rfl
      case isFalse => cases made

variable {negative : Bool} {significand : Nat} (bound : significand < significandLimit)

include bound

lemma isFinite_wholeNumber : (wholeNumber negative significand).toBinary64.isFinite := by
  rw [wholeNumber]
  split
  · exact isFinite_ofNat bound
  · have opposite : (-ofNat significand).isFinite := by
      rw [isFinite_neg]
      exact isFinite_ofNat bound
    split <;> exact opposite

lemma isFinite_of_scaled {power : Int} {x : Number}
    (made : (scale? significand power).map (fun x => .real (withSign negative x)) = some x) :
    x.toBinary64.isFinite := by
  obtain ⟨y, scaled, rfl⟩ := Option.map_eq_some_iff.mp made
  change (withSign negative y).isFinite
  rw [isFinite_withSign]
  exact isFinite_of_scale? bound scaled

/-- An exponent leads to a finite number, or out of range. -/
lemma ExponentForm.isFinite_of_value? {e : ExponentForm} {power : Int} {x : Number}
    (made : e.value? negative significand power = some x) : x.toBinary64.isFinite := by
  rw [ExponentForm.value?] at made
  split at made
  · exact isFinite_of_scaled bound made
  · split at made
    · cases made
    · cases made
      rfl

lemma NumeralForm.isFinite_of_scaled? {power : Int} {exponent : Option ExponentForm} {x : Number}
    (made : NumeralForm.scaled? negative significand power exponent = some x) :
    x.toBinary64.isFinite := by
  cases exponent with
  | none => exact isFinite_of_scaled bound made
  | some e => exact e.isFinite_of_value? bound made

omit bound

/-- **Whatever a numeral denotes is finite**, however many digits it has and whatever its
exponent. -/
theorem NumeralForm.isFinite_of_value? {n : NumeralForm} {x : Number} (made : n.value? = some x) :
    x.toBinary64.isFinite := by
  have whole := absorb_lt (show 0 < significandLimit by decide) n.whole
  rw [NumeralForm.value?] at made
  generalize absorb significandLimit 0 n.whole = absorbed at *
  obtain ⟨significand, surplus⟩ := absorbed
  cases fraction : n.fraction with
  | some digits =>
      simp only [fraction, NumeralForm.scaledFraction?] at made
      exact isFinite_of_scaled? (absorb_lt whole digits) made
  | none =>
      cases exponent : n.exponent with
      | some e =>
          simp only [fraction, exponent] at made
          exact isFinite_of_scaled? whole made
      | none =>
          simp only [fraction, exponent] at made
          split at made
          case isTrue =>
            cases made
            exact isFinite_wholeNumber whole
          case isFalse => exact isFinite_of_scaled? whole made

lemma RealText.isFinite {x : Binary64} {t : List Char} (h : RealText x t) : x.isFinite := by
  obtain ⟨_, ⟨n, -, made⟩, rfl⟩ := h
  exact NumeralForm.isFinite_of_value? made

end Json

/-! ## Records -/

/-- A field that is held has a text. -/
lemma BoxText.isFinite {b : Box} {t : List Char} (h : BoxText b t) : b.isFinite := by
  rw [Box.isFinite, List.all_eq_true]
  rcases h with ⟨items, -, all⟩ | ⟨members, -, of⟩
  · exact ((List.forall₂_and_left _ _).mp (all.imp fun _ _ text => ⟨text.isFinite, text⟩)).1
  · obtain ⟨_, top⟩ := of.top.exists
    obtain ⟨_, left⟩ := of.left.exists
    obtain ⟨_, right⟩ := of.right.exists
    obtain ⟨_, bottom⟩ := of.bottom.exists
    simp [Box.edges, top.isFinite, left.isFinite, right.isFinite, bottom.isFinite]

lemma ViewportText.isFinite {v : Viewport} {t : List Char} (h : ViewportText v t) :
    v.width.isFinite ∧ v.height.isFinite := by
  rcases h with ⟨items, -, all⟩ | ⟨members, -, of⟩
  · obtain ⟨_, _, width, behind, -⟩ := List.forall₂_cons_left_iff.mp all
    obtain ⟨_, _, height, -, -⟩ := List.forall₂_cons_left_iff.mp behind
    exact ⟨width.isFinite, height.isFinite⟩
  · obtain ⟨_, width⟩ := of.width.exists
    obtain ⟨_, height⟩ := of.height.exists
    exact ⟨width.isFinite, height.isFinite⟩

/-- Elements hold no box but those that were put there. -/
lemma Elements.mem_ofEntries {entries : List (String × Box)} {entry : String × Box}
    (h : entry ∈ (ofEntries entries).entries) : entry ∈ entries := by
  suffices ∀ e : Elements,
      entry ∈ (entries.foldl (fun e entry => e.insert entry.1 entry.2) e).entries →
        entry ∈ e.entries ∨ entry ∈ entries from
    (this _ h).resolve_left (List.not_mem_nil)
  clear h
  induction entries with
  | nil => exact fun e mem => .inl mem
  | cons first rest ih =>
      intro e mem
      rcases ih (e.insert first.1 first.2) mem with mem | mem
      · rcases mem_insertEntry mem with rfl | mem
        · exact .inr List.mem_cons_self
        · exact .inl mem
      · exact .inr (List.mem_cons_of_mem first mem)

lemma ElementsText.isFinite {e : Elements} {t : List Char} (h : ElementsText e t) :
    ∀ entry ∈ e.entries, entry.2.isFinite := by
  obtain ⟨members, entries, -, all, rfl⟩ := h
  have finite : ∀ entry ∈ entries, entry.2.isFinite :=
    ((List.forall₂_and_left _ _).mp (all.imp fun _ _ text => ⟨text.2.isFinite, text⟩)).1
  exact fun entry mem => finite entry (Elements.mem_ofEntries mem)

lemma LayoutText.isFinite {l : Layout} {t : List Char} (h : LayoutText l t) :
    ∀ x ∈ l.numbers, x.isFinite := by
  obtain ⟨⟨_, viewport⟩, elements⟩ : (∃ t, ViewportText l.viewport t) ∧
      (l.elements = .empty ∨ ∃ t, ElementsText l.elements t) := by
    rcases h with ⟨_, -, v, rest, -, viewport, behind⟩ | ⟨members, -, viewport, elements, -⟩
    · refine ⟨⟨v, viewport⟩, behind.imp (fun none => none.2) fun all => ?_⟩
      obtain ⟨t, _, text, -, -⟩ := List.forall₂_cons_left_iff.mp all
      exact ⟨t, text⟩
    · obtain ⟨elements?, held, same⟩ := elements
      refine ⟨viewport.exists, ?_⟩
      cases elements? with
      | none => exact .inl same
      | some e => exact .inr (same ▸ held.exists)
  obtain ⟨width, height⟩ := viewport.isFinite
  refine Layout.finite_numbers_iff.mpr ⟨width, height, ?_⟩
  rcases elements with none | ⟨_, text⟩
  · rw [none]
    exact fun entry mem => absurd mem List.not_mem_nil
  · exact text.isFinite

/-! ## Documents -/

namespace Layout

variable {text : String} {l : Layout}

/-- **All numbers of a layout that was read are finite.** -/
theorem finite_of_document (h : Reader.document read text.toList = .ok l) :
    ∀ x ∈ l.numbers, x.isFinite := by
  obtain ⟨_, _, _, -, -, layout, -⟩ := (document_reads Layout.read_reads).mp h
  exact layout.isFinite

lemma isDimension_of_finite {x : Binary64} (h : x.isFinite) : x.isDimension = !decide (x < 0) := by
  rw [Binary64.isDimension, h, Bool.true_and]

/-- A layout of finite numbers breaks only rules on the sign of a dimension and on ids. -/
lemma violation?_of_finite (finite : ∀ x ∈ l.numbers, x.isFinite) :
    l.violation? =
      if l.viewport.width < 0 then some .width
      else if l.viewport.height < 0 then some .height
      else if "" ∈ l.ids then some .emptyId
      else none := by
  obtain ⟨width, height, edges⟩ := finite_numbers_iff.mp finite
  have elements : l.elements.entries.findSome? elementViolation? =
      if "" ∈ l.ids then some .emptyId else none := by
    change _ = if "" ∈ l.elements.entries.map (·.1) then _ else _
    generalize l.elements.entries = entries at edges
    induction entries with
    | nil => rfl
    | cons entry entries ih =>
        have behind := ih fun entry mem => edges entry (List.mem_cons_of_mem _ mem)
        have first := edges entry List.mem_cons_self
        by_cases empty : entry.1 = ""
        · simp [elementViolation?, empty]
        · simp only [List.findSome?_cons, elementViolation?, empty, first, if_true, if_false,
            behind, List.map_cons, List.mem_cons, Ne.symm empty, false_or]
  rw [violation?, isDimension_of_finite width, isDimension_of_finite height, elements]
  simp only [Bool.not_not, decide_eq_true_eq]

/-- A layout that was read is loaded, unless a dimension is below zero or an id is empty. -/
lemma ofText_of_document (h : Reader.document read text.toList = .ok l) :
    ofText text =
      if l.viewport.width < 0 then .error (.validation Violation.width.message)
      else if l.viewport.height < 0 then .error (.validation Violation.height.message)
      else if "" ∈ l.ids then .error (.validation Violation.emptyId.message)
      else .ok l := by
  rw [ofText_of_read h, validate, violation?_of_finite (finite_of_document h)]
  split_ifs <;> rfl

/-- What is said of an edge that is not finite is said of nothing else. -/
lemma nonFiniteEdge_message_ne {violation : Violation} (id : String)
    (h : violation = .width ∨ violation = .height ∨ violation = .emptyId) :
    (Violation.nonFiniteEdge id).message ≠ violation.message := by
  intro same
  have ninth := congrArg (fun s => s.toList[8]?) same
  simp only [Violation.message, Text.quoted, String.toList_append, String.toList_ofList] at ninth
  rcases h with rfl | rfl | rfl <;> revert ninth <;> simp

end Layout

/-- **Nothing that is not finite can be loaded.**  All numbers of a layout that was read are finite,
so validation refuses it only for a dimension below zero or for an empty id, and never for an edge;
and a layout that was loaded is valid and can be stored. -/
theorem Layout.ofText_finite (text : String) :
    (∀ l, Reader.document read text.toList = .ok l → ∀ x ∈ l.numbers, x.isFinite) ∧
      (∀ reason, ofText text = .error (.validation reason) →
        ∃ l, Reader.document read text.toList = .ok l ∧
          ((l.viewport.width < 0 ∧ reason = Violation.width.message) ∨
            (l.viewport.height < 0 ∧ reason = Violation.height.message) ∨
            ("" ∈ l.ids ∧ reason = Violation.emptyId.message))) ∧
      (∀ id, ofText text ≠ .error (.validation (Violation.nonFiniteEdge id).message)) ∧
      (∀ l, ofText text = .ok l → l.validate = .ok () ∧ ∃ stored, l.toText = .ok stored) := by
  have refused : ∀ reason, ofText text = .error (.validation reason) →
      ∃ l, Reader.document read text.toList = .ok l ∧
        ((l.viewport.width < 0 ∧ reason = Violation.width.message) ∨
          (l.viewport.height < 0 ∧ reason = Violation.height.message) ∨
          ("" ∈ l.ids ∧ reason = Violation.emptyId.message)) := by
    intro reason fails
    cases parsed : Reader.document read text.toList with
    | error failure =>
        rw [ofText, parsed] at fails
        cases fails
    | ok l =>
        refine ⟨l, rfl, ?_⟩
        rw [ofText_of_document parsed] at fails
        split_ifs at fails with width height empty
        · cases fails
          exact .inl ⟨width, rfl⟩
        · cases fails
          exact .inr (.inl ⟨height, rfl⟩)
        · cases fails
          exact .inr (.inr ⟨empty, rfl⟩)
  refine ⟨fun l => finite_of_document, refused, ?_, ?_⟩
  · intro id fails
    obtain ⟨l, -, ⟨-, same⟩ | ⟨-, same⟩ | ⟨-, same⟩⟩ := refused _ fails
    · exact nonFiniteEdge_message_ne id (.inl rfl) same
    · exact nonFiniteEdge_message_ne id (.inr (.inl rfl)) same
    · exact nonFiniteEdge_message_ne id (.inr (.inr rfl)) same
  · intro l loaded
    have valid := (ofText_eq_ok_iff.mp loaded).2
    exact ⟨validate_eq_ok_iff.mpr valid, _, valid.stores.1⟩

/-- A text with numbers from both ends of the format is loaded, and its layout can be stored; one
with a width below zero is refused for that. -/
theorem Layout.ofText_finite_extremes :
    let extremes := "[[4,1e-400],\x7b\"a\":[0,-1e308,5e-324,0]\x7d]"
    let negative := "[[-1e-300,4]]"
    (∃ l, ofText extremes = .ok l ∧ ∃ stored, l.toText = .ok stored) ∧
      ∃ l reason, ofText negative = .error (.validation reason) ∧
        Reader.document read negative.toList = .ok l ∧
        ((l.viewport.width < 0 ∧ reason = Violation.width.message) ∨
          (l.viewport.height < 0 ∧ reason = Violation.height.message) ∨
          ("" ∈ l.ids ∧ reason = Violation.emptyId.message)) := by
  intro extremes negative
  constructor
  · have loads : (ofText extremes).toOption.isSome := by decide +kernel
    cases loaded : ofText extremes with
    | error fault =>
        rw [loaded] at loads
        cases loads
    | ok l => exact ⟨l, rfl, ((ofText_finite extremes).2.2.2 l loaded).2⟩
  · have refuses : (match ofText negative with
        | .error (.validation _) => true
        | _ => false) = true := by decide +kernel
    split at refuses
    case h_1 reason refused =>
      obtain ⟨l, parsed, why⟩ := (ofText_finite negative).2.1 reason refused
      exact ⟨l, reason, refused, parsed, why⟩
    case h_2 => cases refuses

end InView
