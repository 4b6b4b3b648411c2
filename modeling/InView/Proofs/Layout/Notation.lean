import InView.Proofs.Json.Brief
import InView.Proofs.Json.Members
import InView.Proofs.Layout.Built
import InView.Proofs.Layout.Equality
import InView.Proofs.Layout.Storable

/-!
# Numbers in any notation

The same number may be written as `10`, `10.0`, `1e1` or `100e-1`.  `LayoutNumerals` is a layout
with numerals in place of its numbers, and has the texts of a layout with exactly these numerals.

Brief numerals are read as what they denote if their exponents can be read, so where documents
differ only in the notation of such numerals, they are read as equal layouts.  Whether these are
loaded is left to validation, which does not tell them apart.
-/

namespace InView

open Json Json.Reader

/-! ## Numerals in place of numbers -/

/-- The text of a numeral. -/
def NumeralText (n : NumeralForm) (t : List Char) : Prop := t = n.text

/-- A box with numerals in place of its edges. -/
structure BoxNumerals where
  top : NumeralForm
  left : NumeralForm
  right : NumeralForm
  bottom : NumeralForm

/-- A viewport with numerals in place of its dimensions. -/
structure ViewportNumerals where
  width : NumeralForm
  height : NumeralForm

/-- What a layout is built of, with numerals in place of numbers. -/
structure LayoutNumerals where
  viewport : ViewportNumerals
  entries : List (String × BoxNumerals)

/-- The members of a box with given numerals. -/
structure BoxNumerals.OfMembers (b : BoxNumerals) (members : List Member) : Prop where
  top : Held NumeralText "top" (some b.top) members
  left : Held NumeralText "left" (some b.left) members
  right : Held NumeralText "right" (some b.right) members
  bottom : Held NumeralText "bottom" (some b.bottom) members
  others : Others ["top", "left", "right", "bottom"] members

/-- The texts of a box with given numerals. -/
def BoxNumerals.Text : BoxNumerals → List Char → Prop :=
  RecordText (fun b => List.Forall₂ NumeralText [b.top, b.left, b.right, b.bottom]) OfMembers

/-- The members of a viewport with given numerals. -/
structure ViewportNumerals.OfMembers (v : ViewportNumerals) (members : List Member) : Prop where
  width : Held NumeralText "width" (some v.width) members
  height : Held NumeralText "height" (some v.height) members
  others : Others ["width", "height"] members

/-- The texts of a viewport with given numerals. -/
def ViewportNumerals.Text : ViewportNumerals → List Char → Prop :=
  RecordText (fun v => List.Forall₂ NumeralText [v.width, v.height]) OfMembers

namespace LayoutNumerals

/-- The texts of elements with given numerals. -/
def EntriesText (entries : List (String × BoxNumerals)) (t : List Char) : Prop :=
  ∃ members, ObjectText members t ∧
    List.Forall₂ (fun entry m => entry.1 = m.key ∧ entry.2.Text m.value) entries members

/-- The members of a layout with given numerals, where elements may be missing if there are none. -/
structure OfMembers (p : LayoutNumerals) (members : List Member) : Prop where
  viewport : Held ViewportNumerals.Text "viewport" (some p.viewport) members
  elements : Held EntriesText "elements" (some p.entries) members ∨
    p.entries = [] ∧ valuesOf "elements" members = []
  others : Others ["viewport", "elements"] members

/-- The items of a layout with given numerals, where elements may be missing if there are none. -/
def OfItems (p : LayoutNumerals) (items : List (List Char)) : Prop :=
  ∃ v rest, items = v :: rest ∧ p.viewport.Text v ∧
    (List.Forall₂ EntriesText [p.entries] rest ∨ p.entries = [] ∧ rest = [])

/-- The documents of a layout with given numerals: a text of it, with nothing but blanks around. -/
def DocumentOf (p : LayoutNumerals) (text : String) : Prop :=
  ∃ before value after, text.toList = before ++ (value ++ after) ∧ Blanks before ∧
    RecordText OfItems OfMembers p value ∧ Blanks after

end LayoutNumerals

/-! ## What numerals are read as -/

/-- A numeral is read as a number. -/
def Json.NumeralForm.Reads (n : NumeralForm) (x : Binary64) : Prop :=
  ∃ v, n.value? = some v ∧ v.toBinary64 = x

lemma NumeralText.realText {n : NumeralForm} {x : Binary64} {t : List Char} (h : NumeralText n t)
    (reads : n.Reads x) : RealText x t := by
  obtain ⟨v, value, rfl⟩ := reads
  exact ⟨v, ⟨n, h, value⟩, rfl⟩

/-- The numerals of a box are read as its edges. -/
structure BoxNumerals.Reads (b : BoxNumerals) (x : Box) : Prop where
  top : b.top.Reads x.top
  left : b.left.Reads x.left
  right : b.right.Reads x.right
  bottom : b.bottom.Reads x.bottom

/-- The numerals of a viewport are read as its dimensions. -/
structure ViewportNumerals.Reads (v : ViewportNumerals) (x : Viewport) : Prop where
  width : v.width.Reads x.width
  height : v.height.Reads x.height

lemma BoxNumerals.Text.boxText {b : BoxNumerals} {x : Box} {t : List Char} (h : b.Text t)
    (reads : b.Reads x) : BoxText x t := by
  refine RecordText.imp h (fun items all => ?_) fun members of => ?_
  · rcases all with _ | ⟨top, _ | ⟨left, _ | ⟨right, _ | ⟨bottom, _ | _⟩⟩⟩⟩
    exact .cons (top.realText reads.top) (.cons (left.realText reads.left)
      (.cons (right.realText reads.right) (.cons (bottom.realText reads.bottom) .nil)))
  · exact ⟨of.top.imp fun t text => text.realText reads.top,
      of.left.imp fun t text => text.realText reads.left,
      of.right.imp fun t text => text.realText reads.right,
      of.bottom.imp fun t text => text.realText reads.bottom, of.others⟩

lemma ViewportNumerals.Text.viewportText {v : ViewportNumerals} {x : Viewport} {t : List Char}
    (h : v.Text t) (reads : v.Reads x) : ViewportText x t := by
  refine RecordText.imp h (fun items all => ?_) fun members of => ?_
  · rcases all with _ | ⟨width, _ | ⟨height, _ | _⟩⟩
    exact .cons (width.realText reads.width) (.cons (height.realText reads.height) .nil)
  · exact ⟨of.width.imp fun t text => text.realText reads.width,
      of.height.imp fun t text => text.realText reads.height, of.others⟩

/-- The numerals under an id are read as the box under it. -/
def ReadsEntry (entry : String × BoxNumerals) (box : String × Box) : Prop :=
  entry.1 = box.1 ∧ entry.2.Reads box.2

namespace LayoutNumerals

/-- The numerals of a layout are read as its parts. -/
structure Reads (p : LayoutNumerals) (parts : Layout.Parts) : Prop where
  viewport : p.viewport.Reads parts.viewport
  entries : List.Forall₂ ReadsEntry p.entries parts.entries

lemma EntriesText.ofReads {entries : List (String × BoxNumerals)} {boxes : List (String × Box)}
    {t : List Char} (h : EntriesText entries t) (reads : List.Forall₂ ReadsEntry entries boxes) :
    Layout.Parts.EntriesText boxes t := by
  obtain ⟨members, object, all⟩ := h
  refine ⟨members, object, ?_⟩
  clear object
  induction reads generalizing members with
  | nil =>
      cases all
      exact .nil
  | cons first _ ih =>
      cases all with
      | cons text all =>
          exact .cons ⟨first.1.symm.trans text.1, text.2.boxText first.2⟩ (ih _ all)

/-- A document with given numerals spells the parts that these are read as. -/
lemma DocumentOf.spelledBy {p : LayoutNumerals} {parts : Layout.Parts} {text : String}
    (h : p.DocumentOf text) (reads : p.Reads parts) : parts.SpelledBy text := by
  obtain ⟨before, value, after, split, blanks, record, blanks'⟩ := h
  have none (empty : p.entries = []) : parts.entries = [] := by
    have all := reads.entries
    rw [empty] at all
    exact List.forall₂_nil_left_iff.mp all
  refine ⟨before, value, after, split, blanks, RecordText.imp record ?_ ?_, blanks'⟩
  · rintro items ⟨v, rest, rfl, viewport, entries⟩
    refine ⟨v, rest, rfl, viewport.viewportText reads.viewport, entries.imp ?_ ?_⟩
    · rintro (_ | ⟨text, _ | _⟩)
      exact .cons (text.ofReads reads.entries) .nil
    · exact fun ⟨empty, absent⟩ => ⟨none empty, absent⟩
  · intro members of
    refine ⟨of.viewport.imp fun t text => text.viewportText reads.viewport,
      of.elements.imp ?_ ?_, of.others⟩
    · exact fun held => held.imp fun t text => text.ofReads reads.entries
    · exact fun ⟨empty, absent⟩ => ⟨none empty, absent⟩

end LayoutNumerals

/-! ## Numerals of equal numbers -/

/-- The same numeral, if it is not out of range, or readable numerals of the same number. -/
inductive Json.NumeralForm.Alike : NumeralForm → NumeralForm → Prop
  | same {n : NumeralForm} (inRange : n.value?.isSome) : n.Alike n
  | spelled {n n' : NumeralForm} (readable : n.IsReadable) (readable' : n'.IsReadable)
      (equal : n.rational = n'.rational) : n.Alike n'

/-- Boxes whose numerals are alike. -/
structure BoxNumerals.Alike (b b' : BoxNumerals) : Prop where
  top : b.top.Alike b'.top
  left : b.left.Alike b'.left
  right : b.right.Alike b'.right
  bottom : b.bottom.Alike b'.bottom

/-- Viewports whose numerals are alike. -/
structure ViewportNumerals.Alike (v v' : ViewportNumerals) : Prop where
  width : v.width.Alike v'.width
  height : v.height.Alike v'.height

/-- Layouts of the same ids whose numerals are alike. -/
structure LayoutNumerals.Alike (p p' : LayoutNumerals) : Prop where
  viewport : p.viewport.Alike p'.viewport
  entries : List.Forall₂ (fun entry entry' => entry.1 = entry'.1 ∧ entry.2.Alike entry'.2)
    p.entries p'.entries

/-- A brief numeral is read as the number that it denotes, if its exponent can be read. -/
lemma Json.NumeralForm.IsBrief.exists_reads {n : NumeralForm} (h : n.IsBrief)
    (inRange : n.ExponentInRange) : ∃ x, n.Reads x ∧ n.Denotes x := by
  obtain ⟨v, value, denotes⟩ := h.value?_of_exponentInRange inRange
  exact ⟨_, ⟨v, value, rfl⟩, denotes⟩

/-- Numerals that are alike are read as equal numbers. -/
lemma Json.NumeralForm.Alike.exists_reads {n n' : NumeralForm} (h : n.Alike n') :
    ∃ x x', n.Reads x ∧ n'.Reads x' ∧ x == x' := by
  cases h with
  | same inRange =>
      obtain ⟨v, value⟩ := Option.isSome_iff_exists.mp inRange
      have finite : v.toBinary64.isFinite := RealText.isFinite ⟨v, ⟨n, rfl, value⟩, rfl⟩
      exact ⟨_, _, ⟨v, value, rfl⟩, ⟨v, value, rfl⟩,
        Binary64.beq_self_iff.mpr (Binary64.isNumber_of_isFinite finite)⟩
  | spelled readable readable' equal =>
      obtain ⟨x, reads, denotes⟩ := readable.exists_reads readable.inRange
      obtain ⟨x', reads', denotes'⟩ := readable'.exists_reads readable'.inRange
      exact ⟨x, x', reads, reads', denotes.beq_of_rational_eq denotes' equal⟩

lemma BoxNumerals.Alike.exists_reads {b b' : BoxNumerals} (h : b.Alike b') :
    ∃ x x', b.Reads x ∧ b'.Reads x' ∧ x == x' := by
  obtain ⟨top, top', readsTop, readsTop', sameTop⟩ := h.top.exists_reads
  obtain ⟨left, left', readsLeft, readsLeft', sameLeft⟩ := h.left.exists_reads
  obtain ⟨right, right', readsRight, readsRight', sameRight⟩ := h.right.exists_reads
  obtain ⟨bottom, bottom', readsBottom, readsBottom', sameBottom⟩ := h.bottom.exists_reads
  exact ⟨⟨top, left, right, bottom⟩, ⟨top', left', right', bottom'⟩,
    ⟨readsTop, readsLeft, readsRight, readsBottom⟩,
    ⟨readsTop', readsLeft', readsRight', readsBottom'⟩,
    Box.beq_iff.mpr ⟨sameTop, sameLeft, sameRight, sameBottom⟩⟩

lemma ViewportNumerals.Alike.exists_reads {v v' : ViewportNumerals} (h : v.Alike v') :
    ∃ x x', v.Reads x ∧ v'.Reads x' ∧ x == x' := by
  obtain ⟨width, width', readsWidth, readsWidth', sameWidth⟩ := h.width.exists_reads
  obtain ⟨height, height', readsHeight, readsHeight', sameHeight⟩ := h.height.exists_reads
  exact ⟨⟨width, height⟩, ⟨width', height'⟩, ⟨readsWidth, readsHeight⟩,
    ⟨readsWidth', readsHeight'⟩, Viewport.beq_iff.mpr ⟨sameWidth, sameHeight⟩⟩

/-- Equal boxes put under the same ids make up equal elements. -/
lemma Elements.ofEntries_beq {entries entries' : List (String × Box)}
    (h : List.Forall₂ EqualEntry entries entries') :
    Elements.ofEntries entries == .ofEntries entries' := by
  have inserted {e e' : Elements} (same : e == e') :
      entries.foldl (fun e entry => e.insert entry.1 entry.2) e ==
        entries'.foldl (fun e entry => e.insert entry.1 entry.2) e' := by
    induction h generalizing e e' with
    | nil => exact same
    | cons first _ ih =>
        rw [List.foldl_cons, List.foldl_cons, ← first.1]
        exact ih (Elements.insert_beq_insert same _ first.2)
  exact inserted (Elements.beq_iff.mpr .nil)

lemma LayoutNumerals.Alike.exists_reads {p p' : LayoutNumerals} (h : p.Alike p') :
    ∃ parts parts', p.Reads parts ∧ p'.Reads parts' ∧ parts.build == parts'.build := by
  obtain ⟨v, v', viewport, viewport', sameViewport⟩ := h.viewport.exists_reads
  have exists_entries {entries entries' : List (String × BoxNumerals)}
      (all : List.Forall₂ (fun entry entry' => entry.1 = entry'.1 ∧ entry.2.Alike entry'.2)
        entries entries') : ∃ boxes boxes', List.Forall₂ ReadsEntry entries boxes ∧
          List.Forall₂ ReadsEntry entries' boxes' ∧
          List.Forall₂ Elements.EqualEntry boxes boxes' := by
    induction all with
    | nil => exact ⟨[], [], .nil, .nil, .nil⟩
    | @cons entry entry' _ _ first _ ih =>
        obtain ⟨x, x', reads, reads', same⟩ := first.2.exists_reads
        obtain ⟨boxes, boxes', all, all', equal⟩ := ih
        exact ⟨(entry.1, x) :: boxes, (entry'.1, x') :: boxes', .cons ⟨rfl, reads⟩ all,
          .cons ⟨rfl, reads'⟩ all', .cons ⟨first.1, same⟩ equal⟩
  obtain ⟨boxes, boxes', all, all', equal⟩ := exists_entries h.entries
  refine ⟨⟨v, boxes⟩, ⟨v', boxes'⟩, ⟨viewport, all⟩, ⟨viewport', all'⟩, ?_⟩
  rw [Layout.Parts.build_eq, Layout.Parts.build_eq]
  exact Layout.beq_iff.mpr ⟨sameViewport, Elements.ofEntries_beq equal⟩

/-! ## Documents -/

/-- The text of a numeral is the text of no number but the one that the numeral is read as. -/
lemma Json.NumeralForm.reads_of_realText {n : NumeralForm} {x : Binary64}
    (h : RealText x n.text) : n.Reads x := by
  obtain ⟨v, ⟨n', text, value⟩, rfl⟩ := h
  obtain ⟨rfl, -⟩ := NumeralForm.unique numeralEnds_nil numeralEnds_nil
    (congrArg (· ++ []) text)
  exact ⟨v, value, rfl⟩

/-- A brief numeral is the text of no number but the one that it denotes. -/
lemma Json.NumeralForm.IsBrief.denotes_of_realText {n : NumeralForm} {x : Binary64}
    (h : n.IsBrief) (real : RealText x n.text) : n.Denotes x := by
  obtain ⟨v, value, rfl⟩ := NumeralForm.reads_of_realText real
  by_cases inRange : n.ExponentInRange
  · obtain ⟨v', value', denotes⟩ := h.value?_of_exponentInRange inRange
    obtain rfl : v = v' := Option.some.inj (value.symm.trans value')
    exact denotes
  · simp [(h.value?_of_not_exponentInRange inRange).1] at value

/-- Behind blanks, a numeral that denotes a number is read as it. -/
lemma Json.NumeralForm.Reads.run_readBinary64 {n : NumeralForm} {x : Binary64} (h : n.Reads x)
    {before rest : List Char} (blanks : Blanks before) (ends : NumeralEnds rest) :
    readBinary64.run (before ++ (n.text ++ rest)) = .ok (x, rest) := by
  obtain ⟨v, value, rfl⟩ := h
  rw [← List.append_assoc]
  exact readBinary64_reads.accepts.complete (spaced_of blanks ⟨v, ⟨n, rfl, value⟩, rfl⟩) ends

/-- A numeral that is out of range is refused for this. -/
lemma Json.NumeralForm.run_readBinary64_outOfRange {n : NumeralForm} (h : n.value? = none)
    {before rest : List Char} (blanks : Blanks before) (ends : NumeralEnds rest) :
    ∃ left, readBinary64.run (before ++ (n.text ++ rest)) = .error ⟨.numberOutOfRange, left⟩ := by
  obtain ⟨left, refused⟩ := readNumber_outOfRange n h ends
  obtain ⟨c, cs, text, begins⟩ := n.begins
  refine ⟨left, ?_⟩
  rw [text, List.cons_append] at refused ⊢
  rw [readBinary64, run_peekToken_bind, dropWhile_token blanks (not_isBlank_of_beginsNumber begins),
    run_peek_bind]
  simp only [List.head?_cons, begins, if_true, run_bind, refused]

/-- An item that is refused at the beginning of a list. -/
lemma Json.run_readItem_error {α : Type} {item : Reader α} {t rest : List Char} {failure : Failure}
    (expected : String) (begins : BeginsValue t) (h : item.run (t ++ rest) = .error failure) :
    (readItem 0 expected item).run (t ++ rest) = .error failure := by
  have ahead : (nextItem true).run (t ++ rest) = .ok (true, t ++ rest) :=
    run_nextItem (leadText_true.mpr blanks_nil) begins rest
  simp only [readItem, decide_true, run_bind, ahead, if_true, h]

/-- A layout is refused for its width, if this is what comes first. -/
lemma Layout.document_of_width_error {t rest : List Char} {failure : Failure}
    (begins : BeginsValue t) (h : readBinary64.run (t ++ rest) = .error failure) :
    document Layout.read ('[' :: '[' :: (t ++ rest)) = .error failure := by
  have viewport : Viewport.read.run ('[' :: (t ++ rest)) = .error failure := by
    change Viewport.readList.run (t ++ rest) = _
    rw [Viewport.readList, run_bind, run_readItem_error _ begins h]
  have first : (readItem 0 (recordLength "LayoutSnapshot" 2) Viewport.read).run
      (['['] ++ (t ++ rest)) = .error failure :=
    run_readItem_error _ (beginsValue_cons (by decide) (by decide) []) viewport
  refine document_of_error ?_
  change Layout.readList.run (['['] ++ (t ++ rest)) = _
  rw [Layout.readList, run_bind, first]

/-- Of a text that is not loaded nothing but the fault matters. -/
lemma Layout.ofText_eq_error {text : String} {fault : Fault}
    (h : ((ofText text).map fun _ => ()) = .error fault) : ofText text = .error fault := by
  cases outcome : ofText text with
  | error other =>
      rw [outcome] at h
      cases h
      rfl
  | ok l =>
      rw [outcome] at h
      cases h

/-- **Brief numerals are read exactly, in whatever notation.**  What is read for a brief numeral is
the number nearest to the rational that it spells, ties going to the even significand, with the sign
of the numeral also if it is zero.  Wherever it stands it is read as this number if its exponent can
be read, and is out of range otherwise.  The latter takes some two billion digits behind the point,
and of numerals with more of them than a count of 32 bits holds nothing is said.

So documents that differ only in how the numbers are written, by readable numerals, are read as
equal layouts, and loading them gives these layouts or fails alike. -/
theorem Layout.document_numerals :
    (∀ n : NumeralForm, n.IsBrief → n.places.length ≤ 2 ^ 31 →
      ∃ x, n.Denotes x ∧ (∀ y, RealText y n.text → y = x) ∧
        ∀ before rest, Blanks before → NumeralEnds rest →
          (n.ExponentInRange →
            readBinary64.run (before ++ (n.text ++ rest)) = .ok (x, rest)) ∧
          (¬ n.ExponentInRange → 2 ^ 31 ≤ n.places.length + 22 ∧ ∃ left,
            readBinary64.run (before ++ (n.text ++ rest)) = .error ⟨.numberOutOfRange, left⟩)) ∧
    ∀ (p p' : LayoutNumerals) (text text' : String), p.DocumentOf text → p'.DocumentOf text' →
      p.Alike p' → ∃ l l', document Layout.read text.toList = .ok l ∧
        document Layout.read text'.toList = .ok l' ∧ l == l' ∧
        ofText text = l.validate.map (fun _ => l) ∧
        ofText text' = l.validate.map (fun _ => l') := by
  constructor
  · intro n brief _
    refine ⟨_, brief.denotes, ?_, ?_⟩
    · intro y real
      exact (brief.denotes_of_realText real).unique brief.denotes
    · intro before rest blanks ends
      constructor
      · intro inRange
        obtain ⟨x, reads, denotes⟩ := brief.exists_reads inRange
        rw [brief.denotes.unique denotes]
        exact reads.run_readBinary64 blanks ends
      · intro outOfRange
        obtain ⟨none, places⟩ := brief.value?_of_not_exponentInRange outOfRange
        exact ⟨places, NumeralForm.run_readBinary64_outOfRange none blanks ends⟩
  · intro p p' text text' isText isText' alike
    obtain ⟨parts, parts', reads, reads', same⟩ := alike.exists_reads
    have read := (isText.spelledBy reads).document
    have read' := (isText'.spelledBy reads').document
    refine ⟨_, _, read, read', same, ofText_of_read read, ?_⟩
    rw [validate_congr same]
    exact ofText_of_read read'

/-- A viewport whose width is written as `10` or as `100e-1`, and whose height is zero with or
without a sign. -/
theorem Layout.document_numerals_ten :
    let text := "[[10,-0]]"
    let text' := "[[100e-1,0]]"
    readBinary64.run "100e-1,".toList = .ok (.ofNat 10, [',']) ∧
      ∃ l l', document Layout.read text.toList = .ok l ∧
        document Layout.read text'.toList = .ok l' ∧ l == l' := by
  intro text text'
  let ten : NumeralForm := ⟨false, ['1', '0'], none, none, by decide, nofun⟩
  let hundred : NumeralForm := ⟨false, ['1', '0', '0'], none,
    some ⟨'e', ['-'], ['1'], rfl, by decide, by decide⟩, by decide, nofun⟩
  let zero (negative : Bool) : NumeralForm := ⟨negative, ['0'], none, none, by decide, nofun⟩
  have readableTen : ten.IsReadable := ⟨⟨by decide, by decide⟩, by decide, .inr nofun⟩
  have readable : hundred.IsReadable := by
    refine ⟨⟨by decide, by decide⟩, by decide, .inr ?_⟩
    rintro e ⟨⟩
    decide
  have readableZero (negative : Bool) : (zero negative).IsReadable :=
    ⟨⟨by decide +revert, by decide +revert⟩, by decide +revert, .inl rfl⟩
  have width : ten.Alike hundred := by
    refine .spelled readableTen readable ?_
    have decimal : ten.decimal = ⟨10, 0⟩ ∧ hundred.decimal = ⟨100, -1⟩ := by decide
    rw [NumeralForm.rational, NumeralForm.rational, decimal.1, decimal.2]
    norm_num [ten, hundred]
  have height : (zero true).Alike (zero false) := by
    refine .spelled (readableZero true) (readableZero false) ?_
    have decimal (negative : Bool) : (zero negative).decimal = ⟨0, 0⟩ := rfl
    rw [NumeralForm.rational, NumeralForm.rational, decimal, decimal]
    norm_num
  have written (v : ViewportNumerals) {t : String}
      (split : t.toList =
        '[' :: ('[' :: ([','].intercalate [v.width.text, v.height.text] ++ [']']) ++ [']'])) :
      LayoutNumerals.DocumentOf ⟨v, []⟩ t := by
    have viewport : v.Text ('[' :: ([','].intercalate [v.width.text, v.height.text] ++ [']'])) :=
      .inl ⟨_, listText_intercalate _, .cons rfl (.cons rfl .nil)⟩
    exact ⟨[], _, [], by simp [split], blanks_nil,
      .inl ⟨[_], listText_intercalate [_], _, [], rfl, viewport, .inr ⟨rfl, rfl⟩⟩, blanks_nil⟩
  have isText : LayoutNumerals.DocumentOf ⟨⟨ten, zero true⟩, []⟩ text :=
    written _ (by decide +kernel)
  have isText' : LayoutNumerals.DocumentOf ⟨⟨hundred, zero false⟩, []⟩ text' :=
    written _ (by decide +kernel)
  obtain ⟨read, documents⟩ := document_numerals
  constructor
  · obtain ⟨x, denotes, -, reads⟩ := read hundred readable.toIsBrief readable.places
    have nearest : x = .ofNat 10 := denotes.unique
      (NumeralForm.denotes_iff.mpr (by decide +kernel))
    have run := (reads [] [','] blanks_nil (numeralEnds_cons (by decide) _)).1 readable.inRange
    rw [← nearest, ← run]
    congr 1
  · obtain ⟨l, l', reads, reads', same, -⟩ :=
      documents _ _ text text' isText isText' ⟨⟨width, height⟩, .nil⟩
    exact ⟨l, l', reads, reads', same⟩

/-- One as a brief numeral that is refused: there are `2 ^ 31` digits behind its point, and an
exponent that just cannot be read.  And a width below zero is refused in any notation, for being
below zero. -/
theorem Layout.document_numerals_outOfRange :
    let n := shiftedOne (2 ^ 31 - 1)
    let text := String.ofList ('[' :: '[' :: (n.text ++ [',', '0', ']', ']']))
    (n.IsBrief ∧ n.Denotes (.ofNat 1) ∧ n.places.length = 2 ^ 31 ∧
      (∃ left, document Layout.read text.toList = .error ⟨.numberOutOfRange, left⟩) ∧
      ∃ reason, ofText text = .error (.serialization reason)) ∧
    ofText "[[-10,0]]" = .error (.validation Violation.width.message) ∧
    ofText "[[-1e1,0]]" = .error (.validation Violation.width.message) := by
  intro n text
  have outOfRange : n.value? = none := value?_shiftedOne (by decide)
  have places : n.places.length = 2 ^ 31 := by
    rw [length_places_shiftedOne]
    norm_num
  have ends : NumeralEnds [',', '0', ']', ']'] := numeralEnds_cons (by decide) _
  obtain ⟨left, refused⟩ := n.run_readBinary64_outOfRange outOfRange blanks_nil ends
  rw [List.nil_append] at refused
  have failed : document Layout.read text.toList = .error ⟨.numberOutOfRange, left⟩ := by
    rw [String.toList_ofList]
    exact document_of_width_error n.beginsValue refused
  refine ⟨⟨isBrief_shiftedOne _, denotes_shiftedOne _, places, ⟨left, failed⟩,
    _, ofText_of_failure failed⟩, ?_, ?_⟩
  · exact ofText_eq_error (by decide +kernel)
  · exact ofText_eq_error (by decide +kernel)

end InView
