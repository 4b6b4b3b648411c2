import InView.Layout.Document
import InView.Proofs.Json.Continuation
import InView.Proofs.Json.Ignored

/-!
# The grammar of records

A record is a list of its fields in order, or an object with its fields as members, in any order
and among others.  `Held` says of an object which value its members hold under a key, if there is a
member of that key, and `Others` that the members under all other keys are well formed.

The members are read one by one, and each may set a field that has not been set before.
`Completes` describes what is still to come for one field, and with it the fields of a record are
dealt with one at a time.
-/

namespace InView.Json

open Reader

variable {α β σ : Type} {V : α → List Char → Prop}

/-! ## Numbers -/

/-- The texts of a binary64 number: the numerals that are read as it. -/
def RealText (x : Binary64) (t : List Char) : Prop := ∃ n, NumberText n t ∧ n.toBinary64 = x

/-- A refusal is no success. -/
lemma fails_refuse (expected : String) : (refuse expected : Reader α).Fails :=
  .bind_right _ fun _ => fails_fail _

lemma NumberText.begins {n : Number} {t : List Char} (h : NumberText n t) :
    ∃ c cs, t = c :: cs ∧ beginsNumber c := by
  obtain ⟨form, rfl, -⟩ := h
  exact form.begins

lemma readBinary64_reads : readBinary64.ReadsValue RealText where
  accepts := by
    refine Accepts.spaced ⟨?_, ?_⟩ ?_
    · intro cs x rest run
      rw [run_peek_bind] at run
      split at run
      case h_1 => cases run
      case h_2 =>
        split at run
        case isTrue => exact (readNumber_accepts.bindPure Number.toBinary64).sound run
        case isFalse => exact (fails_refuse _ run).elim
    · intro x t rest real hrest
      have begins := real
      obtain ⟨n, number, -⟩ := begins
      obtain ⟨c, cs, rfl, begins⟩ := number.begins
      rw [run_peek_bind]
      simp only [List.cons_append, List.head?_cons, begins, if_true]
      exact (readNumber_accepts.bindPure Number.toBinary64).complete real hrest
    · rintro x t ⟨_, ⟨n, rfl, -⟩, -⟩
      exact n.beginsValue
  begins := by
    rintro x t ⟨_, ⟨n, rfl, -⟩, -⟩
    exact n.beginsValue

/-! ## Fields among members -/

/-- The texts of the values under a key. -/
def valuesOf (key : String) (members : List Member) : List (List Char) :=
  (members.filter (·.key = key)).map (·.value)

/-- What members hold under a key: a value in exactly one of them, or nothing in any. -/
def Held (V : α → List Char → Prop) (key : String) (held : Option α) (members : List Member) :
    Prop :=
  List.Forall₂ V held.toList (valuesOf key members)

lemma Held.exists {key : String} {a : α} {members : List Member}
    (h : Held V key (some a) members) : ∃ t, V a t := by
  obtain ⟨t, -, text, -⟩ := List.forall₂_cons_left_iff.mp h
  exact ⟨t, text⟩

/-- What is held as one kind of value is held as another. -/
lemma Held.imp {W : β → List Char → Prop} {key : String} {a : α} {b : β} {members : List Member}
    (h : Held V key (some a) members) (imp : ∀ t, V a t → W b t) :
    Held W key (some b) members := by
  obtain ⟨t, _, value, ⟨⟩, values⟩ := List.forall₂_cons_left_iff.mp h
  rw [Held, values]
  exact .cons (imp t value) .nil

/-- The members under other keys are well formed. -/
def Others (keys : List String) (members : List Member) : Prop :=
  ∀ m ∈ members, m.key ∉ keys → ValueText m.value

@[simp] lemma valuesOf_nil (key : String) : valuesOf key [] = [] := rfl

lemma valuesOf_cons (key : String) (m : Member) (members : List Member) :
    valuesOf key (m :: members) =
      if m.key = key then m.value :: valuesOf key members else valuesOf key members := by
  by_cases same : m.key = key <;> simp [valuesOf, same]

@[simp] lemma others_nil (keys : List String) : Others keys [] := by simp [Others]

lemma others_cons (keys : List String) (m : Member) (members : List Member) :
    Others keys (m :: members) ↔ (m.key ∉ keys → ValueText m.value) ∧ Others keys members := by
  simp [Others]

/-- What is still to come for a field: it holds what it held before, and the texts of its key are
those of what it comes to hold. -/
def Completes (V : α → List Char → Prop) (before after : Option α) (texts : List (List Char)) :
    Prop :=
  ∃ new, after.toList = before.toList ++ new ∧ List.Forall₂ V new texts

/-- A field that was empty holds what the members hold. -/
lemma completes_none {after : Option α} {key : String} {members : List Member} :
    Completes V none after (valuesOf key members) ↔ Held V key after members := by
  simp [Completes, Held]

@[simp] lemma completes_nil {before after : Option α} :
    Completes V before after [] ↔ before = after := by
  constructor
  · rintro ⟨new, split, all⟩
    cases all
    cases before <;> cases after <;> simp_all
  · rintro rfl
    exact ⟨[], by simp, .nil⟩

/-- What a member does to a field: under its key it sets the field, which must have been empty, and
under any other key it leaves the field alone. -/
def Sets (V : α → List Char → Prop) (key : String) (before after : Option α) (m : Member) : Prop :=
  if m.key = key then before = none ∧ ∃ a, V a m.value ∧ after = some a else after = before

lemma completes_cons {before after : Option α} {key : String} {m : Member}
    {members : List Member} :
    Completes V before after (valuesOf key (m :: members)) ↔
      ∃ between, Sets V key before between m ∧
        Completes V between after (valuesOf key members) := by
  rw [valuesOf_cons]
  by_cases same : m.key = key
  · simp only [same, if_true, Sets]
    constructor
    · rintro ⟨new, split, all⟩
      cases all with
      | @cons a _ new _ value all =>
          cases before with
          | none => exact ⟨some a, ⟨rfl, a, value, rfl⟩, new, by simpa using split, all⟩
          | some b => cases after <;> simp at split
    · rintro ⟨_, ⟨rfl, a, value, rfl⟩, new, split, all⟩
      exact ⟨a :: new, by simpa using split, .cons value all⟩
  · simp [same, Sets]

/-! ## Reading fields -/

/-- A reader of a value behind a key, for a relation that says the same of the value. -/
lemma behindKey_congr {r : Reader α} {Of Of' : List Char → α → Prop} {stop : List Char → Prop}
    (h : r.Accepts (BehindKey Of) stop) (same : ∀ v a, Of v a ↔ Of' v a) :
    r.Accepts (BehindKey Of') stop := by
  obtain rfl : Of = Of' := funext fun v => funext fun a => propext (same v a)
  exact h

lemma run_colon {b : List Char} (blanks : Blanks b) (rest : List Char) :
    colon.run (b ++ ':' :: rest) = .ok ((), rest) := by
  have run : colon.run (b ++ [':'] ++ rest) = .ok ((), rest) :=
    colon_accepts.complete ⟨b, blanks, rfl⟩ trivial
  rwa [List.append_assoc, List.singleton_append] at run

/-- A value behind a colon, and what becomes of it. -/
lemma behindColon_accepts {value : Reader α} {V : α → List Char → Prop} {stop : List Char → Prop}
    (h : value.Accepts (fun a => Spaced (V a)) stop) (f : α → β) :
    (colon >>= fun _ => value >>= fun a => pure (f a)).Accepts
      (BehindKey fun v b => ∃ a, V a v ∧ f a = b) stop where
  sound := by
    intro cs b rest run
    obtain ⟨_, between, colonRun, behind⟩ := run_bind_eq_ok.mp run
    obtain ⟨_, rfl, b₁, blanks₁, rfl⟩ := colon_accepts.sound colonRun
    obtain ⟨_, rfl, a, ⟨b₂, v, rfl, blanks₂, value⟩, rfl⟩ := (h.bindPure f).sound behind
    exact ⟨_, by simp, b₁, b₂, v, blanks₁, blanks₂, ⟨a, value, rfl⟩, rfl⟩
  complete := by
    rintro _ _ rest ⟨b₁, b₂, v, blanks₁, blanks₂, ⟨a, value, rfl⟩, rfl⟩ hrest
    rw [List.append_assoc, List.cons_append, run_bind_ok (run_colon blanks₁ _)]
    exact (h.bindPure f).complete ⟨a, spaced_of blanks₂ value, rfl⟩ hrest

/-- A member that sets a field of a record, which must have been empty. -/
lemma setField_accepts (name : String) (held : Option α) {value : Reader α}
    (h : value.ReadsValue V) (set : Option α → σ) :
    (readField name held value >>= fun new => pure (set new)).Accepts
      (BehindKey fun v s' => held = none ∧ ∃ a, V a v ∧ set (some a) = s') NumeralEnds := by
  cases held with
  | some =>
      constructor
      · intro cs s' rest run
        obtain ⟨_, _, refused, -⟩ := run_bind_eq_ok.mp run
        simp only [readField, Option.isSome_some, if_true] at refused
        obtain ⟨_, _, -, refused⟩ := run_bind_eq_ok.mp refused
        obtain ⟨_, _, -, failed⟩ := run_bind_eq_ok.mp refused
        cases failed
      · rintro s' t rest ⟨_, _, _, -, -, ⟨empty, -⟩, -⟩
        cases empty
  | none =>
      have same : (readField name none value >>= fun new => pure (set new)) =
          (colon >>= fun _ => value >>= fun a => pure (set (some a))) := by
        simp [readField]
      rw [same]
      exact behindKey_congr (behindColon_accepts h.accepts _) fun v s' => by simp

/-- A member that is no field of a record. -/
lemma readOther_accepts (s : σ) :
    (readOther s).Accepts (BehindKey fun v s' => ValueText v ∧ s = s') NumeralEnds :=
  behindKey_congr (behindColon_accepts readIgnored_accepts fun _ => s) fun v s' => by simp

lemma run_requireField_eq_ok {name : String} {held : Option α} {cs rest : List Char} {a : α} :
    (requireField name held).run cs = .ok (a, rest) ↔ held = some a ∧ cs = rest := by
  cases held <;> simp [requireField]

/-! ## Both forms -/

/-- A record in one of its two forms, each with a condition on its parts. -/
def RecordText (OfList : α → List (List Char) → Prop) (OfMembers : α → List Member → Prop) (a : α)
    (t : List Char) : Prop :=
  (∃ items, ListText items t ∧ OfList a items) ∨
    ∃ members, ObjectText members t ∧ OfMembers a members

lemma RecordText.begins {OfList : α → List (List Char) → Prop}
    {OfMembers : α → List Member → Prop} {a : α} {t : List Char}
    (h : RecordText OfList OfMembers a t) : BeginsValue t := by
  rcases h with ⟨_, list, -⟩ | ⟨_, object, -⟩
  · exact list.begins
  · exact object.begins

/-- A record of one kind is a record of another if its parts are. -/
lemma RecordText.imp {OfList : α → List (List Char) → Prop} {OfMembers : α → List Member → Prop}
    {OfList' : β → List (List Char) → Prop} {OfMembers' : β → List Member → Prop} {a : α} {b : β}
    {t : List Char} (h : RecordText OfList OfMembers a t)
    (list : ∀ items, OfList a items → OfList' b items)
    (object : ∀ members, OfMembers a members → OfMembers' b members) :
    RecordText OfList' OfMembers' b t := by
  rcases h with ⟨items, isList, of⟩ | ⟨members, isObject, of⟩
  · exact .inl ⟨items, isList, list items of⟩
  · exact .inr ⟨members, isObject, object members of⟩

/-- A reader accepts an object behind its opening brace, if its members satisfy a condition. -/
def AcceptsObject (r : Reader α) (OfMembers : α → List Member → Prop) : Prop :=
  r.Accepts (fun a t => ∃ members items, List.Forall₂ MemberText members items ∧
    ItemsText '}' true items t ∧ OfMembers a members) AnyRest

/-- A record ends with its closing bracket, whatever follows. -/
lemma readRecord_accepts (kind : String) {ofList ofObject : Reader α}
    {OfList : α → List (List Char) → Prop} {OfMembers : α → List Member → Prop}
    (hl : ofList.AcceptsItems true OfList) (ho : AcceptsObject ofObject OfMembers) :
    (readRecord kind ofList ofObject).Accepts (fun a => Spaced (RecordText OfList OfMembers a))
      AnyRest := by
  refine Accepts.spaced ⟨?_, ?_⟩ fun h => h.begins
  · intro cs a rest run
    rw [run_peek_bind] at run
    split at run
    case h_1 => cases run
    case h_2 bracket =>
      obtain ⟨behind, rfl⟩ := List.head?_eq_some_iff.mp bracket
      obtain ⟨t, rfl, items, isItems, of⟩ := hl.sound run
      exact ⟨'[' :: t, rfl, .inl ⟨items, ⟨t, isItems, rfl⟩, of⟩⟩
    case h_3 brace =>
      obtain ⟨behind, rfl⟩ := List.head?_eq_some_iff.mp brace
      obtain ⟨t, rfl, members, items, all, isItems, of⟩ := ho.sound run
      exact ⟨'{' :: t, rfl, .inr ⟨members, ⟨items, t, all, isItems, rfl⟩, of⟩⟩
    case h_4 => exact (fails_refuse _ run).elim
  · intro a t rest h _
    rcases h with ⟨items, ⟨t, isItems, rfl⟩, of⟩ | ⟨members, ⟨items, t, all, isItems, rfl⟩, of⟩
    · exact hl.complete ⟨items, isItems, of⟩ trivial
    · exact ho.complete ⟨members, items, all, isItems, of⟩ trivial

lemma readRecord_reads (kind : String) {ofList ofObject : Reader α}
    {OfList : α → List (List Char) → Prop} {OfMembers : α → List Member → Prop}
    (hl : ofList.AcceptsItems true OfList) (ho : AcceptsObject ofObject OfMembers) :
    (readRecord kind ofList ofObject).ReadsValue (RecordText OfList OfMembers) where
  accepts := (readRecord_accepts kind hl ho).stops fun _ => trivial
  begins h := h.begins

end InView.Json
