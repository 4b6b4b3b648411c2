import InView.Layout.Storage
import InView.Proofs.Json.Placed
import InView.Proofs.Layout.Kind
import InView.Proofs.Layout.Validation

/-!
# Positions of failures

Every reader of documents is placed, so a document that is refused is refused somewhere within its
text.  `DocumentKind.failure_endsAt` says what the message then ends in: the number of a line and a
column, both counted up to the place of the failure.
-/

namespace InView

open Json Json.Reader

/-! ## Records -/

lemma placed_readRecord {α : Type} (kind : String) {ofList ofObject : Reader α}
    (hl : ofList.Placed) (ho : ofObject.Placed) : (readRecord kind ofList ofObject).Placed := by
  refine placed_peekToken.bind fun c => ?_
  split
  · exact placed_failHere _
  · exact placed_advance.bind fun _ => hl
  · exact placed_advance.bind fun _ => ho
  · exact placed_refuse _

lemma placed_readOther {σ : Type} (s : σ) : (readOther s).Placed :=
  placed_colon.bind fun _ => placed_readIgnored.bind_pure _

lemma Box.placed_readMember (d : Box.Draft) (key : String) : (Box.readMember d key).Placed := by
  unfold Box.readMember
  split
  · exact (placed_readField _ _ placed_readBinary64).bind_pure _
  · exact (placed_readField _ _ placed_readBinary64).bind_pure _
  · exact (placed_readField _ _ placed_readBinary64).bind_pure _
  · exact (placed_readField _ _ placed_readBinary64).bind_pure _
  · exact placed_readOther _

lemma Box.placed_read : Box.read.Placed := by
  refine placed_readRecord _ ?_ ?_
  · exact (placed_readItem _ _ placed_readBinary64).bind fun _ =>
      (placed_readItem _ _ placed_readBinary64).bind fun _ =>
      (placed_readItem _ _ placed_readBinary64).bind fun _ =>
      (placed_readItem _ _ placed_readBinary64).bind fun _ => placed_closeList.bind_pure _
  · exact (placed_readMembers Box.placed_readMember _).bind fun _ =>
      (placed_requireField _ _).bind fun _ => (placed_requireField _ _).bind fun _ =>
      (placed_requireField _ _).bind fun _ => (placed_requireField _ _).bind_pure _

lemma Viewport.placed_readMember (d : Viewport.Draft) (key : String) :
    (Viewport.readMember d key).Placed := by
  unfold Viewport.readMember
  split
  · exact (placed_readField _ _ placed_readBinary64).bind_pure _
  · exact (placed_readField _ _ placed_readBinary64).bind_pure _
  · exact placed_readOther _

lemma Viewport.placed_read : Viewport.read.Placed := by
  refine placed_readRecord _ ?_ ?_
  · exact (placed_readItem _ _ placed_readBinary64).bind fun _ =>
      (placed_readItem _ _ placed_readBinary64).bind fun _ => placed_closeList.bind_pure _
  · exact (placed_readMembers Viewport.placed_readMember _).bind fun _ =>
      (placed_requireField _ _).bind fun _ => (placed_requireField _ _).bind_pure _

/-! ## Layouts -/

lemma Elements.placed_read : Elements.read.Placed := by
  refine placed_peekToken.bind fun c => ?_
  split
  · exact placed_failHere _
  · exact placed_advance.bind fun _ => placed_readMembers (fun _ _ =>
      placed_colon.bind fun _ => Box.placed_read.bind_pure _) _
  · exact placed_refuse _

lemma Layout.placed_readMember (d : Layout.Draft) (key : String) :
    (Layout.readMember d key).Placed := by
  unfold Layout.readMember
  split
  · exact (placed_readField _ _ Viewport.placed_read).bind_pure _
  · exact (placed_readField _ _ Elements.placed_read).bind_pure _
  · exact placed_readOther _

lemma Layout.placed_readList : Layout.readList.Placed := by
  refine (placed_readItem _ _ Viewport.placed_read).bind fun viewport =>
    (placed_nextItem _).bind fun more => ?_
  split
  · exact Elements.placed_read.bind fun _ => placed_closeList.bind_pure _
  · exact placed_closeList.bind_pure _

lemma Layout.placed_read : Layout.read.Placed :=
  placed_readRecord _ Layout.placed_readList
    ((placed_readMembers Layout.placed_readMember _).bind fun _ =>
      (placed_requireField _ _).bind_pure _)

/-! ## Visibilities -/

namespace Visibility

lemma placed_readName : readName.Placed := by
  refine placed_readLiteral.bind fun name => ?_
  split
  · exact placed_pure _
  · exact placed_failHere _

lemma placed_readNull : readNull.Placed := by
  refine placed_peekToken.bind fun c => ?_
  split
  · exact placed_failHere _
  · exact placed_readWord _
  · exact placed_refuse _

lemma placed_closeTag : closeTag.Placed := by
  refine placed_peekToken.bind fun c => ?_
  split
  · exact placed_failHere _
  · split
    · exact placed_advance
    · exact placed_failHere _

lemma placed_readTagged : readTagged.Placed := by
  refine placed_peekToken.bind fun c => ?_
  split
  · exact placed_failHere _
  · exact placed_failNext _
  · exact placed_advance.bind fun _ => placed_readName.bind fun _ => placed_colon.bind fun _ =>
      placed_readNull.bind fun _ => placed_closeTag.bind_pure _
  · exact placed_failNext _

lemma placed_read : Visibility.read.Placed := by
  refine placed_peekToken.bind fun c => ?_
  split
  · exact placed_failHere _
  · exact placed_advance.bind fun _ => placed_readName
  · exact placed_advance.bind fun _ => placed_readTagged
  · exact placed_failNext _

end Visibility

/-! ## Documents -/

/-- A message that ends in the position behind the first `k` bytes of a text: in the number of line
feeds among them and one more, and in the number of bytes behind the last of these. -/
def EndsAt (message text : String) (k : Nat) : Prop :=
  ∃ (cause : Cause) (line column : Nat),
    message = cause.message ++ " at line " ++ line.repr ++ " column " ++ column.repr ∧
      line = 1 + ((bytes text.toList).take k).count lineFeed ∧
      Column ((bytes text.toList).take k) column

lemma endsAt_message (f : Failure) (text : String) :
    EndsAt (f.message text.toList) text (byteSize text.toList - f.left) :=
  ⟨f.cause, _, _, rfl, rfl, column_after _⟩

lemma placed_document {α : Type} {r : Reader α} (h : r.Placed) {cs : List Char} {f : Failure}
    (refused : document r cs = .error f) : f.left ≤ byteSize cs := by
  have placed : (r >>= fun a => finish >>= fun _ => pure a).Placed :=
    h.bind fun _ => placed_finish.bind_pure _
  rw [document] at refused
  split at refused
  case h_1 failed =>
    cases refused
    exact placed failed
  case h_2 => cases refused

namespace DocumentKind

lemma placed_read (kind : DocumentKind) : kind.read.Placed := by
  cases kind with
  | layout => exact Layout.placed_read
  | box => exact Box.placed_read
  | viewport => exact Viewport.placed_read
  | visibility => exact Visibility.placed_read

/-- **A failure has a position in the text.**  Wherever a text is refused as a document of any kind,
it is made up of the bytes in front of that place and those that are left, and the message ends in
the position behind the former.  The reason for which a text cannot be loaded is such a message. -/
theorem failure_endsAt (text : String) :
    (∀ (kind : DocumentKind) (f : Failure), document kind.read text.toList = .error f →
      ∃ k, k + f.left = (bytes text.toList).length ∧ EndsAt (f.message text.toList) text k) ∧
    ∀ reason, Layout.ofText text = .error (.serialization reason) →
      ∃ f k, document Layout.read text.toList = .error f ∧ f.message text.toList = reason ∧
        k + f.left = (bytes text.toList).length ∧ EndsAt reason text k := by
  have placed (kind : DocumentKind) (f : Failure)
      (refused : document kind.read text.toList = .error f) :
      ∃ k, k + f.left = (bytes text.toList).length ∧ EndsAt (f.message text.toList) text k := by
    have within := placed_document kind.placed_read refused
    refine ⟨byteSize text.toList - f.left, ?_, endsAt_message f text⟩
    rw [length_bytes]
    exact Nat.sub_add_cancel within
  refine ⟨placed, fun reason failed => ?_⟩
  obtain ⟨f, refused, rfl⟩ := Layout.ofText_eq_serialization_iff.mp failed
  obtain ⟨k, split, ends⟩ := placed .layout f refused
  exact ⟨f, k, refused, rfl, split, ends⟩

/-- A literal behind a line feed, which takes four bytes for its three characters, in place of a
number or a record. -/
theorem failure_endsAt_literal :
    let text := "[\n\"é\", 1]"
    document Box.read text.toList = .error ⟨.wrongKind "string \"é\"" "f64", 4⟩ ∧
      EndsAt "invalid type: string \"é\", expected f64 at line 2 column 4" text 6 ∧
      Layout.ofText text = .error (.serialization
        "invalid type: string \"é\", expected struct Viewport at line 2 column 4") ∧
      ∃ k ≤ 10, EndsAt "invalid type: string \"é\", expected struct Viewport at line 2 column 4"
        text k := by
  intro text
  have refused : document Box.read text.toList = .error ⟨.wrongKind "string \"é\"" "f64", 4⟩ := by
    decide +kernel
  have message : Failure.message ⟨.wrongKind "string \"é\"" "f64", 4⟩ text.toList =
      "invalid type: string \"é\", expected f64 at line 2 column 4" := by
    decide +kernel
  have fault : Layout.ofText text = .error (.serialization
      "invalid type: string \"é\", expected struct Viewport at line 2 column 4") := by
    have failed : (document Layout.read text.toList).map (fun _ => ()) =
        .error ⟨.wrongKind "string \"é\"" "struct Viewport", 4⟩ := by
      decide +kernel
    cases outcome : document Layout.read text.toList with
    | ok => simp [outcome, Except.map] at failed
    | error f =>
        obtain rfl : f = _ := by simpa [outcome, Except.map] using failed
        exact Layout.ofText_eq_serialization_iff.mpr ⟨_, outcome, by decide +kernel⟩
  have size : (bytes text.toList).length = 6 + 4 := by decide +kernel
  obtain ⟨placed, explained⟩ := failure_endsAt text
  obtain ⟨k, split, ends⟩ := placed .box _ refused
  obtain rfl : k = 6 := Nat.add_right_cancel (split.trans size)
  obtain ⟨f, k', -, -, split', ends'⟩ := explained _ fault
  exact ⟨refused, message ▸ ends, fault, k', Nat.le.intro (split'.trans size), ends'⟩

end DocumentKind

end InView
