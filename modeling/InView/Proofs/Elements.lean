import InView.Elements
import InView.Proofs.Json.Bytes

/-!
# Ids in order

The ids of a collection are listed in the order of their characters, and UTF-8 keeps that order.
They are therefore listed in strictly increasing order of their bytes, and each of them once.

Changes of all boxes compose, and leave the ids alone.  A collection is determined by what is found
under each id (`ext_get?`), and of boxes put in one after the other it is the last one of an id that
is found there.
-/

namespace InView.Elements

open Json (bytes bytes_lt_of_lt)

/-- The ids are listed in strictly increasing order of their bytes. -/
lemma ids_increasing (e : Elements) :
    e.ids.Pairwise fun a b => bytes a.toList < bytes b.toList :=
  List.pairwise_map.mpr (e.sorted.imp fun lt => bytes_lt_of_lt lt)

/-- Exactly the ids are listed under which there is a box. -/
lemma mem_ids_iff (e : Elements) (id : String) : id ∈ e.ids ↔ (e.get? id).isSome := by
  rw [get?, List.lookup_isSome_iff, ids, List.mem_map]
  refine exists_congr fun entry => and_congr_right fun _ => ?_
  rw [beq_iff_eq, eq_comm]

lemma map_id (e : Elements) : e.map id = e := by
  obtain ⟨entries, sorted⟩ := e
  simp only [map, id_eq, List.map_id']

lemma map_map (f g : Box → Box) (e : Elements) : (e.map f).map g = e.map (g ∘ f) := by
  simp only [map, List.map_map, Function.comp_def]

/-- A box that is found under an id is that of an entry. -/
lemma mem_of_get? {e : Elements} {id : String} {box : Box} (h : e.get? id = some box) :
    (id, box) ∈ e.entries := by
  obtain ⟨before, behind, split, -⟩ := List.lookup_eq_some_iff.mp h
  exact split ▸ List.mem_append_right _ List.mem_cons_self

/-- The box of an entry is found under its id. -/
lemma get?_of_mem {e : Elements} {entry : String × Box} (h : entry ∈ e.entries) :
    e.get? entry.1 = some entry.2 := by
  obtain ⟨before, behind, split⟩ := List.append_of_mem h
  have sorted := e.sorted
  rw [split, List.pairwise_append] at sorted
  refine List.lookup_eq_some_iff.mpr ⟨before, behind, split, fun other mem => ?_⟩
  have lt : other.1 < entry.1 := sorted.2.2 other mem entry List.mem_cons_self
  simpa using fun same : entry.1 = other.1 => String.lt_irrefl _ (same ▸ lt)

/-- **Elements with the same box under every id are equal**, since the ids leave no choice of
order. -/
theorem ext_get? {e e' : Elements} (h : ∀ id, e.get? id = e'.get? id) : e = e' := by
  have listed (e : Elements) (entry : String × Box) :
      entry ∈ e.entries ↔ e.get? entry.1 = some entry.2 := ⟨get?_of_mem, mem_of_get?⟩
  have nodup (e : Elements) : e.entries.Nodup := by
    refine e.sorted.imp ?_
    rintro entry _ lt rfl
    exact String.lt_irrefl _ lt
  have perm : e.entries.Perm e'.entries := by
    refine (List.perm_ext_iff_of_nodup (nodup e) (nodup e')).mpr fun entry => ?_
    rw [listed, listed, h]
  have same : e.entries = e'.entries :=
    perm.eq_of_pairwise (fun _ _ _ _ lt gt => absurd gt (String.lt_asymm lt)) e.sorted e'.sorted
  cases e
  cases e'
  congr

/-- Of boxes put in one after the other, the last one of an id is found under it. -/
lemma get?_foldl_insert (entries : List (String × Box)) (e : Elements) (id : String) :
    (entries.foldl (fun e entry => e.insert entry.1 entry.2) e).get? id =
      (((entries.filter (·.1 = id)).map (·.2)).getLast?).or (e.get? id) := by
  induction entries generalizing e with
  | nil => simp
  | cons entry entries ih =>
      rw [List.foldl_cons, ih, get?_insert]
      by_cases same : entry.1 = id
      · rw [if_pos same.symm, List.filter_cons_of_pos (by simpa using same), List.map_cons,
          List.getLast?_cons]
        cases ((entries.filter (·.1 = id)).map (·.2)).getLast? <;> rfl
      · rw [if_neg (Ne.symm same), List.filter_cons_of_neg (by simpa using same)]

end InView.Elements
