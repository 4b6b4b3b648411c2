import InView.Geometry

/-!
# Elements by id

The elements of a layout: boxes under ids, kept as a list of entries in strictly increasing order
of the ids.  Strings are ordered by their characters, which is also the order of their UTF-8
bytes.  The order is part of the type, so an id occurs at most once, and listing the elements
needs no sorting.

`get?` is the view of the collection; each operation comes with the equation that says what it
does to this view.
-/

namespace InView

/-- Boxes under ids, in increasing order of the ids. -/
structure Elements where
  entries : List (String × Box)
  sorted : entries.Pairwise fun a b => a.1 < b.1

namespace Elements

/-! ## Sorted entries -/

/-- The entries with a box under an id, in the place that the order gives it. -/
def insertEntry (id : String) (box : Box) : List (String × Box) → List (String × Box)
  | [] => [(id, box)]
  | (other, held) :: rest =>
    if id < other then (id, box) :: (other, held) :: rest
    else if id = other then (id, box) :: rest
    else (other, held) :: insertEntry id box rest

theorem mem_insertEntry {id : String} {box : Box} {entry : String × Box}
    {entries : List (String × Box)} (h : entry ∈ insertEntry id box entries) :
    entry = (id, box) ∨ entry ∈ entries := by
  induction entries with
  | nil => simpa [insertEntry] using h
  | cons first rest ih =>
    unfold insertEntry at h
    split at h
    · simpa using h
    · split at h
      · rcases List.mem_cons.mp h with h | h
        · exact .inl h
        · exact .inr (List.mem_cons_of_mem _ h)
      · rcases List.mem_cons.mp h with h | h
        · exact .inr (h ▸ List.mem_cons_self)
        · exact (ih h).imp_right (List.mem_cons_of_mem _)

theorem insertEntry_sorted (id : String) (box : Box) {entries : List (String × Box)}
    (h : entries.Pairwise fun a b => a.1 < b.1) :
    (insertEntry id box entries).Pairwise fun a b => a.1 < b.1 := by
  induction entries with
  | nil => simp [insertEntry]
  | cons first rest ih =>
    obtain ⟨above, tail⟩ := List.pairwise_cons.mp h
    unfold insertEntry
    split
    case isTrue before =>
      refine List.pairwise_cons.mpr ⟨?_, h⟩
      intro entry mem
      rcases List.mem_cons.mp mem with rfl | mem
      · exact before
      · exact String.lt_trans before (above entry mem)
    case isFalse notBefore =>
      split
      case isTrue same =>
        exact List.pairwise_cons.mpr ⟨same ▸ above, tail⟩
      case isFalse differs =>
        refine List.pairwise_cons.mpr ⟨?_, ih tail⟩
        intro entry mem
        rcases mem_insertEntry mem with rfl | mem
        · rcases Std.lt_trichotomy id first.1 with lt | eq | gt
          · exact absurd lt notBefore
          · exact absurd eq differs
          · exact gt
        · exact above entry mem

/-! ## Operations -/

/-- No elements. -/
def empty : Elements := ⟨[], .nil⟩

instance : Inhabited Elements := ⟨empty⟩

/-- The box under an id. -/
def get? (e : Elements) (id : String) : Option Box := e.entries.lookup id

/-- The ids, in increasing order. -/
def ids (e : Elements) : List String := e.entries.map (·.1)

/-- A box under an id, in place of the one that was there. -/
def insert (e : Elements) (id : String) (box : Box) : Elements :=
  ⟨insertEntry id box e.entries, insertEntry_sorted id box e.sorted⟩

/-- Nothing under an id any more. -/
def erase (e : Elements) (id : String) : Elements :=
  ⟨e.entries.filter (·.1 ≠ id), e.sorted.filter _⟩

/-- Every box changed in the same way. -/
def map (f : Box → Box) (e : Elements) : Elements :=
  ⟨e.entries.map fun entry => (entry.1, f entry.2), List.pairwise_map.mpr e.sorted⟩

/-- The same ids over numerically equal boxes. -/
instance : BEq Elements := ⟨fun a b => a.entries == b.entries⟩

/-! ## Laws -/

/-- Looking up in a list of entries asks the first entry first. -/
theorem lookup_entry (id : String) (entry : String × Box) (rest : List (String × Box)) :
    List.lookup id (entry :: rest) = if id = entry.1 then some entry.2 else rest.lookup id := by
  obtain ⟨key, box⟩ := entry
  rw [List.lookup_cons]
  by_cases h : id = key
  · simp [h]
  · simp [h, beq_eq_false_iff_ne.mpr h]

theorem get?_insert (e : Elements) (id other : String) (box : Box) :
    (e.insert id box).get? other = if other = id then some box else e.get? other := by
  obtain ⟨entries, sorted⟩ := e
  simp only [insert, get?]
  clear sorted
  induction entries with
  | nil => simp [insertEntry, lookup_entry]
  | cons first rest ih =>
    unfold insertEntry
    split
    · simp [lookup_entry]
    · split
      case isTrue same => by_cases h : other = id <;> simp_all [lookup_entry]
      case isFalse differs => by_cases h : other = first.1 <;> simp_all [lookup_entry, Ne.symm]

theorem get?_erase (e : Elements) (id other : String) :
    (e.erase id).get? other = if other = id then none else e.get? other := by
  obtain ⟨entries, sorted⟩ := e
  simp only [erase, get?]
  clear sorted
  induction entries with
  | nil => simp
  | cons first rest ih =>
    by_cases same : first.1 = id
    · rw [List.filter_cons_of_neg (by simp [same]), ih, lookup_entry, same]
      split <;> rfl
    · rw [List.filter_cons_of_pos (by simp [same]), lookup_entry, lookup_entry, ih]
      grind

theorem get?_map (f : Box → Box) (e : Elements) (id : String) :
    (e.map f).get? id = (e.get? id).map f := by
  obtain ⟨entries, sorted⟩ := e
  simp only [map, get?]
  clear sorted
  induction entries with
  | nil => rfl
  | cons first rest ih => by_cases h : id = first.1 <;> simp_all [lookup_entry]

theorem ids_map (f : Box → Box) (e : Elements) : (e.map f).ids = e.ids := by
  simp [ids, map, Function.comp_def]

end Elements

end InView
