import InView.Proofs.Json.Escape
import InView.Proofs.Json.Members
import InView.Proofs.Layout.Built

/-!
# Ids under any spelling

An id is a text, and as a key it may be spelled in many ways.  `SpelledEntry` is a member of
elements as it stands in a document: some spelling of its id, and some text of its box.  The
spellings are those of `LiteralSpelling`, which says how a text may be written and nothing of how it
is read.

`document_entries` says that a document of such members is read as a layout with exactly their ids,
so that members with one id under different spellings are one element.  What is written for a layout
is a document of this kind.
-/

namespace InView

open Json Json.Reader

/-! ## Entries as they are spelled -/

/-- A member of elements as it is written: a spelling of its id, and a text of its box. -/
structure SpelledEntry where
  id : String
  key : List Char
  isKey : LiteralSpelling id key
  box : Box
  value : List Char
  isBox : BoxText box value

namespace SpelledEntry

/-- What is written of an entry, with blanks around the colon. -/
def Text (e : SpelledEntry) (t : List Char) : Prop :=
  ∃ b b', Blanks b ∧ Blanks b' ∧ t = e.key ++ (b ++ ':' :: (b' ++ e.value))

/-- The objects that consist of entries, in their order. -/
def ObjectOf (entries : List SpelledEntry) (t : List Char) : Prop :=
  ∃ items behind, List.Forall₂ Text entries items ∧ ItemsText '}' true items behind ∧
    t = '{' :: behind

/-- The records of a viewport and entries: a list of both, or an object that has both among its
members. -/
def RecordOf (viewport : Viewport) (entries : List SpelledEntry) (t : List Char) : Prop :=
  (∃ v e, ListText [v, e] t ∧ ViewportText viewport v ∧ ObjectOf entries e) ∨
    ∃ members, ObjectText members t ∧ Held ViewportText "viewport" (some viewport) members ∧
      Held ObjectOf "elements" (some entries) members ∧ Others ["viewport", "elements"] members

/-- The documents of a viewport and entries. -/
def DocumentOf (viewport : Viewport) (entries : List SpelledEntry) (text : String) : Prop :=
  ∃ before record after, text.toList = before ++ (record ++ after) ∧ Blanks before ∧
    RecordOf viewport entries record ∧ Blanks after

/-- An entry without the way that it is spelled. -/
def entry (e : SpelledEntry) : String × Box := (e.id, e.box)

/-- The parts that entries are read as. -/
def parts (viewport : Viewport) (entries : List SpelledEntry) : Layout.Parts :=
  ⟨viewport, entries.map entry⟩

lemma ObjectOf.entriesText {entries : List SpelledEntry} {t : List Char}
    (h : ObjectOf entries t) : Layout.Parts.EntriesText (entries.map entry) t := by
  obtain ⟨items, behind, all, isItems, rfl⟩ := h
  let member := fun e : SpelledEntry => (⟨e.id, e.value⟩ : Member)
  refine ⟨entries.map member, ⟨items, behind, ?_, isItems, rfl⟩, ?_⟩
  · rw [List.forall₂_map_left_iff]
    refine all.imp fun e t => ?_
    rintro ⟨b, b', blanks, blanks', rfl⟩
    exact ⟨e.key, b, b', literalText_iff_spelling.mpr e.isKey, blanks, blanks', rfl⟩
  · rw [List.forall₂_map_left_iff, List.forall₂_map_right_iff, List.forall₂_same]
    exact fun e _ => ⟨rfl, e.isBox⟩

lemma DocumentOf.spelledBy {viewport : Viewport} {entries : List SpelledEntry} {text : String}
    (h : DocumentOf viewport entries text) : (parts viewport entries).SpelledBy text := by
  obtain ⟨before, record, after, split, blanks, isRecord, blanks'⟩ := h
  refine ⟨before, record, after, split, blanks, ?_, blanks'⟩
  rcases isRecord with ⟨v, e, list, isViewport, object⟩ | ⟨members, object, viewports, elements,
    others⟩
  · exact .inl ⟨_, list, v, [e], rfl, isViewport, .inl (.cons object.entriesText .nil)⟩
  · exact .inr ⟨members, object, viewports,
      .inl (elements.imp fun _ isElements => isElements.entriesText), others⟩

/-! ## What is read -/

/-- An entry is found under its id unless a later one replaces it. -/
lemma get?_build_parts {viewport : Viewport} {front behind : List SpelledEntry} {e : SpelledEntry}
    (last : ∀ later ∈ behind, later.id ≠ e.id) :
    (parts viewport (front ++ e :: behind)).build.get? e.id = some e.box := by
  have none : (behind.map entry).filter (·.1 = e.id) = [] := by
    rw [List.filter_eq_nil_iff]
    intro other mem
    obtain ⟨later, isLater, rfl⟩ := List.mem_map.mp mem
    rw [decide_eq_true_eq]
    exact last later isLater
  rw [Layout.Parts.get?_build, Layout.Parts.under, parts]
  simp [none, entry]

/-- The ids that are read are those of the entries. -/
lemma mem_ids_build_parts {viewport : Viewport} {entries : List SpelledEntry} {id : String} :
    id ∈ (parts viewport entries).build.ids ↔ ∃ e ∈ entries, e.id = id := by
  rw [Layout.ids, Elements.mem_ids_iff, ← Layout.get?, Layout.Parts.get?_build,
    Layout.Parts.under, parts, List.getLast?_isSome, ne_eq, List.map_eq_nil_iff,
    List.filter_eq_nil_iff]
  simp [entry]

/-! ## What is written -/

section

variable {spacing : Spacing} (blank : spacing.IsBlank)

include blank

/-- What is written for boxes are entries with their ids as literals. -/
lemma exists_entries (depth : Nat) {boxes : List (String × Box)}
    (finite : ∀ entry ∈ boxes, entry.2.isFinite) :
    ∃ entries : List SpelledEntry, entries.map (·.id) = boxes.map (·.1) ∧
      (∀ e ∈ entries, e.key = literal e.id) ∧
      List.Forall₂ Text entries (boxes.map fun entry =>
        Document.memberText spacing depth (entry.1, entry.2.toDocument)) := by
  induction boxes with
  | nil => exact ⟨[], rfl, by simp, .nil⟩
  | cons entry boxes ih =>
      obtain ⟨first, rest⟩ := List.forall_mem_cons.mp finite
      obtain ⟨entries, ids, keys, all⟩ := ih rest
      let e : SpelledEntry :=
        { id := entry.1, key := literal entry.1
          isKey := literalText_iff_spelling.mp (literalText_literal _)
          box := entry.2.reread, value := entry.2.toDocument.write spacing depth
          isBox := boxText_write blank depth first }
      exact ⟨e :: entries, by simp [ids, e], by simpa [e] using keys,
        .cons ⟨[], spacing.gap, blanks_nil, blank.gap, rfl⟩ all⟩

/-- What is written for a layout is a document of entries with its ids as literals. -/
lemma exists_documentOf {l : Layout} (finite : ∀ x ∈ l.numbers, x.isFinite) :
    ∃ entries, DocumentOf l.reread.viewport entries (l.toDocument.render spacing) ∧
      entries.map (·.id) = l.ids ∧ ∀ e ∈ entries, e.key = literal e.id := by
  obtain ⟨width, height, edges⟩ := Layout.finite_numbers_iff.mp finite
  obtain ⟨entries, ids, keys, all⟩ := exists_entries blank 2 edges
  obtain ⟨behind, text, isItems⟩ := Document.itemsText_write blank 1
    (l.elements.entries.map fun entry => (entry.1, entry.2.toDocument))
  rw [List.map_map] at isItems
  refine ⟨entries, ⟨[], l.toDocument.write spacing 0, [], by simp [Document.render], blanks_nil,
    .inr ⟨_, Document.objectText_write blank 0 _, ?_, ?_, ?_⟩, blanks_nil⟩, ids, keys⟩
  · exact .cons (viewportText_write blank 1 width height) .nil
  · exact .cons ⟨_, behind, all, isItems, text⟩ .nil
  · simp [Others, Document.written]

end

end SpelledEntry

/-- **Ids survive every spelling.**  A document of entries whose ids are spelled in any way is read
as a layout with exactly these ids, and with the box of an entry under its id unless a later entry
has the same id.  Loading it gives that layout or the fault of validating it.  A layout is stored as
a document of this kind: one entry for each element, with a spelling of its id. -/
theorem Layout.document_entries :
    (∀ (viewport : Viewport) (entries : List SpelledEntry) (text : String),
      SpelledEntry.DocumentOf viewport entries text →
        ∃ l, document Layout.read text.toList = .ok l ∧
          ofText text = l.validate.map (fun _ => l) ∧ l.viewport = viewport ∧
          (∀ id, id ∈ l.ids ↔ ∃ e ∈ entries, e.id = id) ∧
          ∀ front e behind, entries = front ++ e :: behind →
            (∀ later ∈ behind, later.id ≠ e.id) → l.get? e.id = some e.box) ∧
    ∀ (l : Layout) (text : String), l.toText = .ok text →
      ∃ entries, SpelledEntry.DocumentOf l.reread.viewport entries text ∧
        entries.map (·.id) = l.ids ∧ ∀ e ∈ entries, e.key = literal e.id := by
  constructor
  · intro viewport entries text written
    have read := written.spelledBy.document
    refine ⟨_, read, ofText_of_read read, by rw [Parts.build_eq, SpelledEntry.parts],
      fun id => SpelledEntry.mem_ids_build_parts, ?_⟩
    rintro front e behind rfl last
    exact SpelledEntry.get?_build_parts last
  · intro l text stored
    cases checked : l.validate with
    | error fault =>
        rw [toText, checked] at stored
        cases stored
    | ok =>
        have valid := validate_eq_ok_iff.mp checked
        rw [valid.stores.1] at stored
        cases stored
        exact SpelledEntry.exists_documentOf Spacing.isBlank_indented valid.finite

/-- A list of a viewport and three entries: one whose id is spelled as it is, one with an id above
`U+FFFF` by the digits of its halves, and one whose id is that of the first by the digits of its
number. -/
theorem Layout.document_entries_digits :
    let text := "[[4,3],\x7b\"a\":[0,0,1,1],\"\\uD83d\\udE00\":[0,0,0,0]," ++
      "\"\\u0061\":[1,0,2,2]\x7d]"
    ∃ l, document Layout.read text.toList = .ok l ∧ l.viewport = ⟨.ofNat 4, .ofNat 3⟩ ∧
      (∀ id, id ∈ l.ids ↔ id = "a" ∨ id = "😀") ∧
      l.get? "a" = some ⟨.ofNat 1, .ofNat 0, .ofNat 2, .ofNat 2⟩ ∧
      l.get? "😀" = some ⟨.ofNat 0, .ofNat 0, .ofNat 0, .ofNat 0⟩ := by
  intro text
  have number : ∀ n < 10, RealText (.ofNat n) [n.digitChar] := by
    intro n lt
    have run : ∀ n < 10, readNumber.run [n.digitChar] = .ok (.natural n, []) := by decide +kernel
    obtain ⟨t, split, isNumber⟩ := readNumber_accepts.sound (run n lt)
    rw [List.append_nil] at split
    exact ⟨_, split ▸ isNumber, rfl⟩
  have box (a b c d : Nat) (ha : a < 10) (hb : b < 10) (hc : c < 10) (hd : d < 10) :
      BoxText ⟨.ofNat a, .ofNat b, .ofNat c, .ofNat d⟩
        ('[' :: ([','].intercalate [[a.digitChar], [b.digitChar], [c.digitChar], [d.digitChar]] ++
          [']'])) :=
    .inl ⟨_, listText_intercalate _, .cons (number a ha) (.cons (number b hb) (.cons (number c hc)
      (.cons (number d hd) .nil)))⟩
  have key {id : String} {t : List Char} (run : readKey.run t = .ok (id, [])) :
      LiteralSpelling id t := by
    obtain ⟨_, split, isLiteral⟩ := readKey_accepts.sound run
    rw [List.append_nil] at split
    exact literalText_iff_spelling.mp (split ▸ isLiteral)
  let plain : SpelledEntry := ⟨"a", "\"a\"".toList, key (by decide +kernel), _, _,
    box 0 0 1 1 (by decide) (by decide) (by decide) (by decide)⟩
  let halves : SpelledEntry := ⟨"😀", "\"\\uD83d\\udE00\"".toList, key (by decide +kernel), _, _,
    box 0 0 0 0 (by decide) (by decide) (by decide) (by decide)⟩
  let digits : SpelledEntry := ⟨"a", "\"\\u0061\"".toList, key (by decide +kernel), _, _,
    box 1 0 2 2 (by decide) (by decide) (by decide) (by decide)⟩
  have written : SpelledEntry.DocumentOf ⟨.ofNat 4, .ofNat 3⟩ [plain, halves, digits] text := by
    refine ⟨[], _, [], ?_, blanks_nil, .inl ⟨_, _, listText_intercalate _,
      .inl ⟨_, listText_intercalate _,
        .cons (number 4 (by decide)) (.cons (number 3 (by decide)) .nil)⟩, _, _,
      .cons ⟨[], [], blanks_nil, blanks_nil, rfl⟩ (.cons ⟨[], [], blanks_nil, blanks_nil, rfl⟩
        (.cons ⟨[], [], blanks_nil, blanks_nil, rfl⟩ .nil)), itemsText_intercalate '}' _, rfl⟩,
      blanks_nil⟩
    dsimp only [plain, halves, digits]
    decide +kernel
  obtain ⟨l, read, -, viewport, ids, found⟩ := document_entries.1 _ _ text written
  refine ⟨l, read, viewport, fun id => ?_, ?_, ?_⟩
  · rw [ids]
    simp only [List.mem_cons, List.not_mem_nil, or_false, exists_eq_or_imp, exists_eq_left, plain,
      halves, digits]
    grind
  · exact found [plain, halves] digits [] rfl (by simp)
  · exact found [plain] halves [digits] rfl (by simp [halves, digits])

end InView
