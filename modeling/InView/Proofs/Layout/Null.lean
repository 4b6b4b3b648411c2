import InView.Proofs.Json.Pieces
import InView.Proofs.Json.Printable
import InView.Proofs.Layout.Storage

/-!
# Reading stops at the first null

A number that is not finite is written as `null`, and no reader of numbers takes that.  Reading a
written document therefore fails at the first number of this kind, right behind the word, if the
reader asks for numbers where the document has them.  `FailsAtNull` says so of a reader and of
pieces of a document.  It is carried from the value of a member to the member, and from the first
member that fails to the object (`Breaks.failsAtNull`).
-/

namespace InView.Json

open Reader

/-! ## Pieces without null -/

/-- All numbers among pieces are finite. -/
def AllFinite (ps : List Piece) : Prop := ∀ x ∈ numbersOf ps, x.isFinite

/-! ## Failing at the first null -/

/-- The refusal of `null` where a number is expected. -/
def nullRefused : Cause := .wrongKind "null" "f64"

variable {α β σ : Type}

/-- The first number among the pieces that is not finite, and what stands before and behind it. -/
structure FirstNull (ps before : List Piece) (x : Binary64) (after : List Piece) : Prop where
  split : ps = before ++ .number x :: after
  finite : AllFinite before
  null : x.isFinite = false

/-- Whether a piece is a number that is written as `null`. -/
def Piece.isNull : Piece → Bool
  | number x => !x.isFinite
  | _ => false

/-- What stands before the first null is found by looking for it. -/
lemma FirstNull.before_eq {ps before : List Piece} {x : Binary64} {after : List Piece}
    (h : FirstNull ps before x after) : before = ps.takeWhile fun p => !p.isNull := by
  have whole : ∀ p ∈ before, !p.isNull := by
    intro p mem
    cases p with
    | number y =>
        have listed : y ∈ numbersOf before := List.mem_filterMap.mpr ⟨_, mem, rfl⟩
        simpa [Piece.isNull] using h.finite y listed
    | _ => rfl
  rw [h.split, List.takeWhile_append_of_pos whole,
    List.takeWhile_cons_of_neg (by simp [Piece.isNull, h.null]), List.append_nil]

/-- Reading pieces fails at the first number that is not finite, right behind the `null` that it is
written as, whatever follows. -/
def FailsAtNull (r : Reader α) (ps : List Piece) : Prop :=
  ∃ before x after, FirstNull ps before x after ∧
    ∀ rest, r.run (textOf ps ++ rest) = .error (.here nullRefused (textOf after ++ rest))

namespace FailsAtNull

variable {r : Reader α} {ps : List Piece}

/-- A sequence fails where its first part fails. -/
lemma bind (h : FailsAtNull r ps) (f : α → Reader β) : FailsAtNull (r >>= f) ps := by
  obtain ⟨before, x, after, first, fails⟩ := h
  exact ⟨before, x, after, first, fun rest => by rw [run_bind, fails]⟩

/-- Further pieces do not matter. -/
lemma append (h : FailsAtNull r ps) (more : List Piece) : FailsAtNull r (ps ++ more) := by
  obtain ⟨before, x, after, ⟨split, finite, null⟩, fails⟩ := h
  refine ⟨before, x, after ++ more, ⟨by simp [split], finite, null⟩, fun rest => ?_⟩
  rw [textOf_append, List.append_assoc, fails, textOf_append, List.append_assoc]

/-- What is read without failure in front does not matter either. -/
lemma behind {r' : Reader α} (front : List Piece) (finite : AllFinite front)
    (run : ∀ rest, r'.run (textOf front ++ (textOf ps ++ rest)) = r.run (textOf ps ++ rest))
    (h : FailsAtNull r ps) :
    FailsAtNull r' (front ++ ps) := by
  obtain ⟨before, x, after, ⟨split, finite', null⟩, fails⟩ := h
  refine ⟨front ++ before, x, after, ⟨by simp [split], ?_, null⟩, fun rest => ?_⟩
  · rw [AllFinite, numbersOf_append]
    exact List.forall_mem_append.mpr ⟨finite, finite'⟩
  · rw [textOf_append, List.append_assoc, run, fails]

end FailsAtNull

/-! ## Numbers -/

lemma run_readBinary64_null (rest : List Char) :
    readBinary64.run ("null".toList ++ rest) = .error (.here nullRefused rest) := rfl

lemma failsAtNull_number {x : Binary64} (h : x.isFinite = false) :
    FailsAtNull readBinary64 [.number x] := by
  refine ⟨[], x, [], ⟨rfl, by simp [AllFinite], h⟩, fun rest => ?_⟩
  rw [textOf_cons, Piece.chars, numeral_of_not_finite h]
  exact run_readBinary64_null rest

/-! ## Behind a colon -/

/-- A reader that does not mind blanks in front. -/
def SkipsBlanks (r : Reader α) : Prop :=
  ∀ {b : List Char}, Blanks b → ∀ cs, r.run (b ++ cs) = r.run cs

lemma skipsBlanks_peekToken (f : Option Char → Reader α) : SkipsBlanks (peekToken >>= f) := by
  intro b blanks cs
  rw [run_peekToken_bind, run_peekToken_bind, dropWhile_blanks blanks]

variable {spacing : Spacing} (blank : spacing.IsBlank)

include blank in
/-- The value behind a colon fails, and with it all that is made of it. -/
lemma failsAtNull_behindColon {value : Reader α} {ps : List Piece} (skips : SkipsBlanks value)
    (h : FailsAtNull value ps) (f : α → Reader β) :
    FailsAtNull (colon >>= fun _ => value >>= f) (.mark ':' :: .blanks spacing.gap :: ps) := by
  have front (cs : List Char) : textOf [.mark ':', .blanks spacing.gap] ++ cs =
      [] ++ ':' :: (spacing.gap ++ cs) := by
    simp [Piece.chars]
  refine FailsAtNull.behind [.mark ':', .blanks spacing.gap] (by simp [AllFinite])
    (fun rest => ?_) (h.bind f)
  rw [front, run_bind_ok (run_colon blanks_nil _), run_bind, run_bind, skips blank.gap]

include blank in
/-- So does the value of a field that was not read before. -/
lemma failsAtNull_field {value : Reader α} {ps : List Piece} (name : String)
    (skips : SkipsBlanks value) (h : FailsAtNull value ps) (f : Option α → Reader σ) :
    FailsAtNull (readField name none value >>= f) (.mark ':' :: .blanks spacing.gap :: ps) :=
  (failsAtNull_behindColon blank skips h fun a => pure (some a)).bind f

include blank in
/-- A field that holds a number fails if the number is written as `null`. -/
lemma failsAtNull_edge (name : String) (f : Option Binary64 → Reader σ) {x : Binary64}
    (h : x.isFinite = false) :
    FailsAtNull (readField name none readBinary64 >>= f)
      [.mark ':', .blanks spacing.gap, .number x] :=
  failsAtNull_field blank name (skipsBlanks_peekToken _) (failsAtNull_number h) f

/-! ## Members -/

/-- The pieces behind the key of a member. -/
def valuePieces (spacing : Spacing) (depth : Nat) (value : Document) : List Piece :=
  .mark ':' :: .blanks spacing.gap :: value.pieces spacing depth

/-- Members with a value that cannot be read for a null in it: the members before it are taken, from
one state to the next, and have no null. -/
inductive Breaks (member : σ → String → Reader σ) (Takes : σ → Member → σ → Prop)
    (spacing : Spacing) (depth : Nat) : σ → List (String × Document) → Prop
  | here {s : σ} {key : String} {value : Document} {members : List (String × Document)}
      (fails : FailsAtNull (member s key) (valuePieces spacing depth value)) :
      Breaks member Takes spacing depth s ((key, value) :: members)
  | there {s s' : σ} {m : String × Document} {members : List (String × Document)}
      (finite : AllFinite (m.2.pieces spacing depth))
      (takes : Takes s (Document.written spacing depth m) s')
      (behind : Breaks member Takes spacing depth s' members) :
      Breaks member Takes spacing depth s (m :: members)

variable {member : σ → String → Reader σ} {Takes : σ → Member → σ → Prop} {depth : Nat}

include blank in
lemma leadText_leadPieces (first : Bool) (depth : Nat) :
    LeadText first (textOf (leadPieces first) ++ spacing.lineBreak depth) := by
  cases first with
  | true => exact leadText_true.mpr (blank.lineBreak depth)
  | false => exact leadText_false.mpr ⟨[], _, blanks_nil, blank.lineBreak depth, rfl⟩

include blank in
/-- A member fails as what follows its key does. -/
lemma failsAtNull_memberStep (first : Bool) {s : σ} {key : String} {value : Document}
    (h : FailsAtNull (member s key) (valuePieces spacing depth value)) :
    FailsAtNull (memberStep member ⟨first, s⟩)
      (leadPieces first ++ Document.memberPieces spacing depth (key, value)) := by
  have split : leadPieces first ++ Document.memberPieces spacing depth (key, value) =
      (leadPieces first ++ [.blanks (spacing.lineBreak depth), .text key]) ++
        valuePieces spacing depth value := by
    simp [Document.memberPieces, valuePieces]
  have front (cs : List Char) :
      textOf (leadPieces first ++ [.blanks (spacing.lineBreak depth), .text key]) ++ cs =
        (textOf (leadPieces first) ++ spacing.lineBreak depth) ++ (literal key ++ cs) := by
    simp [Piece.chars]
  rw [split]
  refine FailsAtNull.behind _ (by simp [AllFinite]) (fun rest => ?_)
    (h.bind fun made => pure (.more ⟨false, made⟩))
  rw [front, memberStep,
    run_bind_ok (run_nextKey (leadText_leadPieces blank first depth) (literalText_literal key) _)]

include blank in
/-- A member without null is read, and another one follows. -/
lemma run_memberStep_pieces (h : TakesMembers member Takes) (first : Bool) {s s' : σ}
    {m : String × Document} (takes : Takes s (Document.written spacing depth m) s')
    {rest : List Char} (hrest : NumeralEnds rest) :
    (memberStep member ⟨first, s⟩).run
      (textOf (leadPieces first ++ Document.memberPieces spacing depth m) ++ rest) =
        .ok (.more ⟨false, s'⟩, rest) := by
  have front : textOf (leadPieces first ++ Document.memberPieces spacing depth m) ++ rest =
      (textOf (leadPieces first) ++ spacing.lineBreak depth) ++
        (Document.memberText spacing depth m ++ rest) := by
    rw [textOf_append, Document.textOf_memberPieces, Document.writeMember_eq]
    simp only [List.append_assoc]
  rw [front]
  exact run_memberStep h (leadText_leadPieces blank first depth)
    (Document.memberText_written blank depth m) takes hrest

/-- There is a comma in front of the members that are left when one fails. -/
lemma Breaks.numeralEnds {s : σ} {members : List (String × Document)}
    (breaks : Breaks member Takes spacing depth s members) (rest : List Char) :
    NumeralEnds (textOf (Document.membersPieces spacing depth false members) ++ rest) := by
  cases breaks <;> exact numeralEnds_cons (by decide) _

include blank in
/-- **Members fail where the first of them fails that has a null.** -/
theorem Breaks.failsAtNull (h : TakesMembers member Takes) {s : σ}
    {members : List (String × Document)} (breaks : Breaks member Takes spacing depth s members)
    (first : Bool) :
    FailsAtNull (loop (memberStep member) (memberStep_strict member) ⟨first, s⟩)
      (Document.membersPieces spacing depth first members) := by
  induction breaks generalizing first with
  | here fails =>
      rw [loop_eq, Document.membersPieces]
      exact ((failsAtNull_memberStep blank first fails).bind _).append _
  | @there s s' m members finite takes behind ih =>
      rw [Document.membersPieces]
      refine FailsAtNull.behind _ ?_ (fun rest => ?_) (ih false)
      · obtain ⟨key, value⟩ := m
        simpa [AllFinite, Document.memberPieces] using finite
      · -- the value may be a number, and only the comma of the next member ends it
        exact run_loop_more
          (run_memberStep_pieces blank h first takes (behind.numeralEnds rest))

/-- A number ends the reading of members, or it is taken and leaves that to the members behind. -/
lemma Breaks.number {s : σ} (s' : σ) {key : String} {x : Binary64}
    {members : List (String × Document)}
    (fails : x.isFinite = false →
      FailsAtNull (member s key) (valuePieces spacing depth (.number x)))
    (takes : x.isFinite → Takes s (Document.written spacing depth (key, .number x)) s')
    (behind : x.isFinite → Breaks member Takes spacing depth s' members) :
    Breaks member Takes spacing depth s ((key, .number x) :: members) := by
  cases finite : x.isFinite with
  | true =>
      refine .there ?_ (takes finite) (behind finite)
      simpa [AllFinite, Document.pieces] using finite
  | false => exact .here (fails finite)

/-! ## Objects -/

include blank in
/-- A record fails as its members do. -/
lemma Breaks.failsAtNull_record (h : TakesMembers member Takes) {start : σ}
    {members : List (String × Document)}
    (breaks : Breaks member Takes spacing (depth + 1) start members) (kind : String)
    (ofList : Reader α) (k : σ → Reader α) :
    FailsAtNull (readRecord kind ofList (readMembers member start >>= k))
      ((Document.object members).pieces spacing depth) := by
  rw [Document.pieces]
  exact FailsAtNull.behind [.mark '{'] (by simp [AllFinite]) (fun _ => rfl)
    (((breaks.failsAtNull blank h true).bind k).append _)

end InView.Json

namespace InView

open Json Json.Reader

variable {spacing : Spacing} (blank : spacing.IsBlank) (depth : Nat)

/-! ## Boxes -/

namespace Box

lemma numbersOf_pieces (b : Box) : numbersOf (b.toDocument.pieces spacing depth) = b.edges := by
  simp [toDocument, Document.pieces, Document.membersPieces, Document.memberPieces, edges]

include blank in
/-- A box fails at its first edge that is not finite. -/
lemma failsAtNull {b : Box} (null : b.isFinite = false) :
    FailsAtNull read (b.toDocument.pieces spacing depth) := by
  refine Breaks.failsAtNull_record blank takesMembers ?_ _ _ _
  -- each draft holds the edges that were read before the next one
  refine .number ⟨some b.top.reread, none, none, none⟩
    (failsAtNull_edge blank "top" _) ?_ fun top => ?_
  · simp +contextual [takes_iff, Sets, Document.written, Document.write, realText_numeral]
  refine .number ⟨some b.top.reread, some b.left.reread, none, none⟩
    (failsAtNull_edge blank "left" _) ?_ fun left => ?_
  · simp +contextual [takes_iff, Sets, Document.written, Document.write, realText_numeral]
  refine .number ⟨some b.top.reread, some b.left.reread, some b.right.reread, none⟩
    (failsAtNull_edge blank "right" _) ?_ fun right => ?_
  · simp +contextual [takes_iff, Sets, Document.written, Document.write, realText_numeral]
  refine .here (failsAtNull_edge blank "bottom" _ ?_)
  simpa [isFinite, edges, top, left, right] using null

end Box

/-! ## Viewports -/

namespace Viewport

lemma numbersOf_pieces (v : Viewport) :
    numbersOf (v.toDocument.pieces spacing depth) = [v.width, v.height] := by
  simp [toDocument, Document.pieces, Document.membersPieces, Document.memberPieces]

include blank in
/-- A viewport fails at its first dimension that is not finite. -/
lemma failsAtNull {v : Viewport} (null : v.width.isFinite → v.height.isFinite = false) :
    FailsAtNull read (v.toDocument.pieces spacing depth) := by
  refine Breaks.failsAtNull_record blank takesMembers ?_ _ _ _
  refine .number ⟨some v.width.reread, none⟩ (failsAtNull_edge blank "width" _) ?_ fun width => ?_
  · simp +contextual [takes_iff, Sets, Document.written, Document.write, realText_numeral]
  exact .here (failsAtNull_edge blank "height" _ (null width))

end Viewport

/-! ## Elements -/

namespace Elements

lemma numbersOf_membersPieces (first : Bool) (entries : List (String × Box)) :
    numbersOf (Document.membersPieces spacing depth first
      (entries.map fun entry => (entry.1, entry.2.toDocument))) =
        entries.flatMap fun entry => entry.2.edges := by
  induction entries generalizing first with
  | nil => simp [Document.membersPieces]
  | cons entry entries ih =>
      simp [Document.membersPieces, Document.memberPieces, Box.numbersOf_pieces, ih]

include blank in
/-- The first box that is not finite ends the reading of elements. -/
lemma breaks {entries : List (String × Box)} (null : ∃ entry ∈ entries, entry.2.isFinite = false)
    (e : Elements) :
    Breaks readMember Takes spacing depth e
      (entries.map fun entry => (entry.1, entry.2.toDocument)) := by
  induction entries generalizing e with
  | nil => simp at null
  | cons entry entries ih =>
      rw [List.map_cons]
      cases finite : entry.2.isFinite with
      | true =>
          refine .there ?_ ⟨_, boxText_write blank depth finite, rfl⟩ (ih ?_ _)
          · rw [AllFinite, Box.numbersOf_pieces]
            exact List.all_eq_true.mp finite
          · simpa [finite] using null
      | false =>
          exact .here (failsAtNull_behindColon blank (skipsBlanks_peekToken _)
            (Box.failsAtNull blank depth finite) _)

include blank in
/-- Elements fail in the first of their boxes that is not finite. -/
lemma failsAtNull {e : Elements} (null : ∃ entry ∈ e.entries, entry.2.isFinite = false) :
    FailsAtNull read (e.toDocument.pieces spacing depth) := by
  rw [toDocument, Document.pieces]
  refine FailsAtNull.behind [.mark '{'] (by simp [AllFinite]) (fun _ => rfl)
    (FailsAtNull.append (Breaks.failsAtNull blank takesMembers ?_ true) _)
  exact breaks blank _ null .empty

end Elements

/-! ## Layouts -/

namespace Layout

/-- The numbers of a layout are written in order. -/
lemma numbersOf_pieces (l : Layout) :
    numbersOf (l.toDocument.pieces spacing depth) = l.numbers := by
  have elements (depth : Nat) : numbersOf (l.elements.toDocument.pieces spacing depth) =
      l.elements.entries.flatMap fun entry => entry.2.edges := by
    simp [Elements.toDocument, Document.pieces, Elements.numbersOf_membersPieces]
  simp [toDocument, Document.pieces, Document.membersPieces, Document.memberPieces,
    Viewport.numbersOf_pieces, elements, numbers]

include blank in
/-- **A written layout fails at its first number that is not finite**, whatever the blanks are. -/
theorem failsAtNull {l : Layout} (null : ¬∀ x ∈ l.numbers, x.isFinite) :
    FailsAtNull read (l.toDocument.pieces spacing depth) := by
  rw [finite_numbers_iff] at null
  refine Breaks.failsAtNull_record blank takesMembers ?_ _ _ _
  by_cases viewport : l.viewport.width.isFinite ∧ l.viewport.height.isFinite
  · obtain ⟨width, height⟩ := viewport
    have takes : Takes ⟨none, none⟩
        (Document.written spacing (depth + 1) ("viewport", l.viewport.toDocument))
        ⟨some l.viewport.reread, none⟩ := by
      simp [takes_iff, Sets, Document.written, viewportText_write blank _ width height]
    refine .there ?_ takes (.here (failsAtNull_field blank "elements" (skipsBlanks_peekToken _)
      (Elements.failsAtNull blank _ ?_) _))
    · simp [AllFinite, Viewport.numbersOf_pieces, width, height]
    · simpa [width, height] using null
  · refine .here (failsAtNull_field blank "viewport" (skipsBlanks_peekToken _)
      (Viewport.failsAtNull blank _ ?_) _)
    simpa using viewport

end Layout

end InView
