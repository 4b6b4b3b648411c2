import InView.Proofs.Json.Cut.Container
import InView.Proofs.Layout.Kind

/-!
# Truncated documents

A document that is only partly there is not read as another one, and it is not mistaken for one
with a fault: `DocumentKind.document_truncated` says that reading a proper beginning of its text
fails at the end, and that the text has ended is the cause, unless it ends within a numeral that is
faulty for the lack of its rest.
-/

namespace InView

open Json Json.Reader

/-! ## Records -/

lemma cuttable_readBinary64 : readBinary64.Cuttable documentRegion := by
  refine cuttable_token rfl rfl fun c => ?_
  dsimp only
  split
  · exact (readNumber_readsNumeral.forwardFrom cuttable_readNumber c).bind_pure _
  · exact (fails_refuse _).forward.from c

lemma cuttable_readRecord {α : Type} (kind : String) {ofList ofObject : Reader α}
    (hl : ofList.Forward documentRegion) (ho : ofObject.Forward documentRegion) :
    (readRecord kind ofList ofObject).Cuttable documentRegion := by
  refine cuttable_token rfl rfl fun c => ?_
  split
  case h_1 none => cases none
  case h_2 bracket =>
    cases bracket
    exact forwardFrom_advance (whole_char (by decide)) hl
  case h_3 brace =>
    cases brace
    exact forwardFrom_advance (whole_char (by decide)) ho
  case h_4 => exact (fails_refuse _).forward.from c

lemma forward_readOther {σ : Type} (s : σ) : (readOther s).Forward documentRegion :=
  (cuttable_colon.bind fun _ => cuttable_readIgnored.bind_pure _).forward

/-! ## Boxes and viewports -/

lemma Box.forward_readMember (d : Box.Draft) (key : String) :
    (Box.readMember d key).Forward documentRegion := by
  unfold Box.readMember
  split
  · exact (forward_readField _ _ cuttable_readBinary64).bind_pure _
  · exact (forward_readField _ _ cuttable_readBinary64).bind_pure _
  · exact (forward_readField _ _ cuttable_readBinary64).bind_pure _
  · exact (forward_readField _ _ cuttable_readBinary64).bind_pure _
  · exact forward_readOther _

/-- A member that is missing is missed behind the closing brace. -/
lemma Box.forward_readObject : Box.readObject.Forward documentRegion :=
  (cuttable_readMembers Box.forward_readMember _).forward.bind_closed
    (readMembers_accepts Box.takesMembers _).closed fun d =>
  (forward_requireField "top" d.top).bind_closed (requireField_closed _ _) fun _ =>
  (forward_requireField "left" d.left).bind_closed (requireField_closed _ _) fun _ =>
  (forward_requireField "right" d.right).bind_closed (requireField_closed _ _) fun _ =>
  (forward_requireField "bottom" d.bottom).bind_pure _

lemma Box.cuttable_readList : Box.readList.Cuttable documentRegion :=
  (cuttable_readItem _ _ cuttable_readBinary64).bind fun _ =>
  (cuttable_readItem _ _ cuttable_readBinary64).bind fun _ =>
  (cuttable_readItem _ _ cuttable_readBinary64).bind fun _ =>
  (cuttable_readItem _ _ cuttable_readBinary64).bind fun _ => cuttable_closeList.bind_pure _

/-- A box may be cut. -/
lemma Box.cuttable_read : Box.read.Cuttable documentRegion :=
  cuttable_readRecord _ Box.cuttable_readList.forward Box.forward_readObject

lemma Viewport.forward_readMember (d : Viewport.Draft) (key : String) :
    (Viewport.readMember d key).Forward documentRegion := by
  unfold Viewport.readMember
  split
  · exact (forward_readField _ _ cuttable_readBinary64).bind_pure _
  · exact (forward_readField _ _ cuttable_readBinary64).bind_pure _
  · exact forward_readOther _

lemma Viewport.forward_readObject : Viewport.readObject.Forward documentRegion :=
  (cuttable_readMembers Viewport.forward_readMember _).forward.bind_closed
    (readMembers_accepts Viewport.takesMembers _).closed fun d =>
  (forward_requireField "width" d.width).bind_closed (requireField_closed _ _) fun _ =>
  (forward_requireField "height" d.height).bind_pure _

lemma Viewport.cuttable_readList : Viewport.readList.Cuttable documentRegion :=
  (cuttable_readItem _ _ cuttable_readBinary64).bind fun _ =>
  (cuttable_readItem _ _ cuttable_readBinary64).bind fun _ => cuttable_closeList.bind_pure _

/-- A viewport may be cut. -/
lemma Viewport.cuttable_read : Viewport.read.Cuttable documentRegion :=
  cuttable_readRecord _ Viewport.cuttable_readList.forward Viewport.forward_readObject

/-! ## Layouts -/

lemma Elements.cuttable_readMember (e : Elements) (id : String) :
    (Elements.readMember e id).Cuttable documentRegion :=
  cuttable_colon.bind fun _ => Box.cuttable_read.bind_pure _

lemma Elements.cuttable_read : Elements.read.Cuttable documentRegion := by
  refine cuttable_token rfl rfl fun c => ?_
  split
  case h_1 none => cases none
  case h_2 brace =>
    cases brace
    exact forwardFrom_advance (whole_char (by decide))
      (cuttable_readMembers (fun e id => (Elements.cuttable_readMember e id).forward) _).forward
  case h_3 => exact (fails_refuse _).forward.from c

namespace Layout

lemma forward_readMember (d : Layout.Draft) (key : String) :
    (Layout.readMember d key).Forward documentRegion := by
  unfold Layout.readMember
  split
  · exact (forward_readField _ _ Viewport.cuttable_read).bind_pure _
  · exact (forward_readField _ _ Elements.cuttable_read).bind_pure _
  · exact forward_readOther _

lemma forward_readObject : Layout.readObject.Forward documentRegion :=
  (cuttable_readMembers Layout.forward_readMember _).forward.bind_closed
    (readMembers_accepts Layout.takesMembers _).closed fun d =>
  (forward_requireField "viewport" d.viewport).bind_pure _

lemma cuttable_readList : Layout.readList.Cuttable documentRegion := by
  refine (cuttable_readItem _ _ Viewport.cuttable_read).bind fun viewport =>
    (cuttable_nextItem _).bind fun more => ?_
  split
  · exact Elements.cuttable_read.bind fun _ => cuttable_closeList.bind_pure _
  · exact cuttable_closeList.bind_pure _

/-- A layout may be cut. -/
lemma cuttable_read : Layout.read.Cuttable documentRegion :=
  cuttable_readRecord _ Layout.cuttable_readList.forward Layout.forward_readObject

end Layout

/-! ## Visibilities -/

namespace Visibility

/-- A name that is unknown is refused behind its closing quote. -/
lemma forwardFrom_readName :
    (advance >>= fun _ => readName).ForwardFrom documentRegion '"' := by
  have closed := closedFrom_advance '"' (f := fun _ => readLiteral) readLiteral_accepts.closed
  unfold readName
  rw [← Reader.bind_assoc]
  refine forwardFrom_readLiteral.bind_closed closed fun name => ?_
  split
  · exact forward_pure _
  · exact forward_fail _

lemma cuttable_readNull : readNull.Cuttable documentRegion := by
  refine cuttable_token rfl rfl fun c => ?_
  split
  case h_1 none => cases none
  case h_2 => exact (cuttable_readWord (by decide)).forward.from _
  case h_3 => exact (fails_refuse _).forward.from c

lemma cuttable_closeTag : closeTag.Cuttable documentRegion := by
  refine cuttable_token rfl rfl fun c => ?_
  dsimp only
  split
  case isTrue isBrace => exact advance_forwardFrom (whole_char (by simp [isBrace]))
  case isFalse => exact (forward_fail _).from c

lemma cuttable_readTagged : readTagged.Cuttable documentRegion := by
  refine cuttable_token rfl rfl fun c => ?_
  split
  case h_1 none => cases none
  case h_2 => exact (forward_fail _).from _
  case h_3 quote =>
    cases quote
    rw [← Reader.bind_assoc]
    exact forwardFrom_readName.bind fun _ => cuttable_colon.bind fun _ =>
      cuttable_readNull.bind fun _ => cuttable_closeTag.bind_pure _
  case h_4 => exact (forward_fail _).from c

/-- A visibility may be cut. -/
lemma cuttable_read : Visibility.read.Cuttable documentRegion := by
  refine cuttable_token rfl rfl fun c => ?_
  split
  case h_1 none => cases none
  case h_2 quote =>
    cases quote
    exact forwardFrom_readName
  case h_3 brace =>
    cases brace
    exact forwardFrom_advance (whole_char (by decide)) cuttable_readTagged.forward
  case h_4 => exact (forward_fail _).from c

end Visibility

/-! ## Documents -/

/-- Nothing is left behind the value of a document that does not end with a blank. -/
lemma run_of_document {α : Type} {r : Reader α} {cs : List Char} {a : α}
    (read : document r cs = .ok a) (last : ∀ c ∈ cs.getLast?, isBlank c = false) :
    r.run cs = .ok (a, []) := by
  obtain ⟨rest, run, blanks⟩ := document_eq_ok.mp read
  obtain ⟨t, rfl⟩ := r.suffix run
  cases behind : rest.getLast? with
  | none =>
      obtain rfl := List.getLast?_eq_none_iff.mp behind
      exact run
  | some c =>
      have blank : isBlank c := blanks c (List.mem_of_getLast? behind)
      rw [last c (by simp [List.getLast?_append, behind])] at blank
      cases blank

/-- Reading a proper beginning of such a document fails, and the beginning is cut. -/
lemma document_cut {α : Type} {r : Reader α} {R : Region} (forward : r.Forward R)
    (closed : r.Closed) {p u : List Char} {a : α} (run : r.run (p ++ u) = .ok (a, []))
    (proper : u ≠ []) : ∃ f, document r p = .error f ∧ f.Cut R p u := by
  cases outcome : r.run p with
  | ok read =>
      obtain ⟨a', rest⟩ := read
      rw [closed outcome u, Except.ok.injEq, Prod.mk.injEq] at run
      exact absurd (List.append_eq_nil_iff.mp run.2).2 proper
  | error f =>
      refine ⟨f, ?_, (forward p).cut outcome run⟩
      rw [document, run_bind, outcome]

lemma message_of_isEnd {cause : Cause} (h : cause.isEnd) :
    ∃ what, cause.message = "EOF while parsing " ++ what := by
  cases cause with
  | unfinishedValue => exact ⟨"a value", rfl⟩
  | unfinishedText => exact ⟨"a string", rfl⟩
  | unfinishedList => exact ⟨"a list", rfl⟩
  | unfinishedObject => exact ⟨"an object", rfl⟩
  | _ => cases h

lemma eq_of_isNumeric {cause : Cause} (h : cause.isNumeric) :
    cause = .invalidNumber ∨ cause = .numberOutOfRange := by
  cases cause with
  | invalidNumber => exact .inl rfl
  | numberOutOfRange => exact .inr rfl
  | _ => cases h

namespace DocumentKind

/-- What is left of a document of any kind fails because it ends. -/
lemma cuttable_read (kind : DocumentKind) : kind.read.Cuttable documentRegion := by
  cases kind with
  | layout => exact Layout.cuttable_read
  | box => exact Box.cuttable_read
  | viewport => exact Viewport.cuttable_read
  | visibility => exact Visibility.cuttable_read

/-- **A truncated document is reported as truncated.**  Of a text that is read as a document of any
kind and does not end with a blank, no proper beginning is read.  The failure is placed at the end
of what is there, and its message says that the text has ended, unless the text is cut within a
numeral: then it may also say that the number is invalid or out of range. -/
theorem document_truncated (kind : DocumentKind) (text more : String) (a : kind.Value)
    (read : document kind.read (text ++ more).toList = .ok a)
    (last : ∀ c ∈ (text ++ more).toList.getLast?, isBlank c = false) (proper : more ≠ "") :
    ∃ f, document kind.read text.toList = .error f ∧
      f.position text.toList = .after (bytes text.toList) ∧
      ((∃ what, f.message text.toList = "EOF while parsing " ++ what) ∨
        CutsNumeral text.toList more.toList ∧
          (f.cause = .invalidNumber ∨ f.cause = .numberOutOfRange)) := by
  rw [String.toList_append] at read last
  have run := run_of_document read last
  obtain ⟨f, failed, cut⟩ := document_cut kind.cuttable_read.forward kind.read_closed run
    (by simpa using proper)
  refine ⟨f, failed, ?_, cut.cause.imp (fun isEnd => ?_) fun ⟨isNumeric, cuts⟩ =>
    ⟨cuts, eq_of_isNumeric isNumeric⟩⟩
  · have place : f.position (text.toList ++ []) = _ := position_of_left cut.atEnd
    rwa [List.append_nil] at place
  · obtain ⟨what, message⟩ := message_of_isEnd isEnd
    refine ⟨what ++ " at line " ++ (f.position text.toList).line.repr ++ " column " ++
      (f.position text.toList).column.repr, ?_⟩
    rw [Failure.message, message]
    simp only [String.append_assoc]

/-- A layout with an ignored number, cut behind the sign of that number. -/
theorem document_truncated_sign :
    let text := "\x7b\"n\":-"
    let more := "1,\"viewport\":[1,2]\x7d"
    ∃ l, document Layout.read (text ++ more).toList = .ok l ∧
      ∃ f, document Layout.read text.toList = .error f ∧
        f.message text.toList = "invalid number at line 1 column 6" ∧
        CutsNumeral text.toList more.toList := by
  intro text more
  have reads : (document Layout.read (text ++ more).toList).toOption.isSome := by decide +kernel
  have fault : (document Layout.read text.toList).map (fun _ => ()) =
      .error ⟨.invalidNumber, 0⟩ := by
    decide +kernel
  have last : ∀ c ∈ (text ++ more).toList.getLast?, isBlank c = false := by
    have brace : (text ++ more).toList.getLast? = some '}' := by decide +kernel
    intro c mem
    rw [brace] at mem
    cases mem
    rfl
  cases read : document Layout.read (text ++ more).toList with
  | error =>
      rw [read] at reads
      cases reads
  | ok l =>
      obtain ⟨f, failed, -, explained⟩ :=
        document_truncated .layout text more l read last (by decide)
      change document Layout.read text.toList = .error f at failed
      obtain rfl : f = ⟨.invalidNumber, 0⟩ := by simpa [failed, Except.map] using fault
      have message : Failure.message ⟨.invalidNumber, 0⟩ text.toList =
          "invalid number at line 1 column 6" := by
        decide +kernel
      refine ⟨l, rfl, _, failed, message, ?_⟩
      rcases explained with ⟨what, ended⟩ | ⟨cuts, -⟩
      · rw [message] at ended
        have first := congrArg (·.toList.head?) ended
        simp [String.toList_append] at first
      · exact cuts

end DocumentKind

end InView
