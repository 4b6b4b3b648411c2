import InView.Check
import Mathlib.Tactic.Lemma

/-!
# Checking a layout

A layout answers every question from what it holds and stays as it is.  A check of a layout
therefore leaves it unchanged (`Check.Keeps`, which sequences inherit from their parts), and its
result can be read off the layout: the visibility of the stored box in the stored viewport, or
the fault of an element that is not there.
-/

namespace InView

namespace Check

variable {σ ε α β : Type}

/-- A check that leaves every state of the host as it was. -/
def Keeps (c : Check σ ε α) : Prop := ∀ s, (c.run s).state = s

lemma keeps_pure (a : α) : (pure a : Check σ ε α).Keeps := fun _ => rfl

lemma Keeps.bind {c : Check σ ε α} {f : α → Check σ ε β} (hc : c.Keeps)
    (hf : ∀ a, (f a).Keeps) : (c >>= f).Keeps := by
  intro s
  cases h : (c.run s).result with
  | error fault =>
      rw [run_bind_of_error h]
      exact hc s
  | ok a =>
      rw [run_bind_of_ok h]
      exact (hf a _).trans (hc s)

lemma keeps_log (event : Event) : (log event : Check σ ε Unit).Keeps := fun _ => rfl

lemma keeps_readBox_layout (id : String) : (readBox Layout.host id).Keeps := by
  intro l
  simp only [run, readBox, Layout.host]
  cases l.get? id <;> rfl

lemma keeps_readViewport_layout : (readViewport (ε := String) Layout.host).Keeps := fun _ => rfl

/-- Classifying an element of a layout leaves the layout unchanged. -/
lemma keeps_classify_layout (id : String) : (classify Layout.host id).Keeps := by
  refine (keeps_readBox_layout id).bind fun box => keeps_readViewport_layout.bind fun view => ?_
  dsimp only
  split
  · exact (keeps_log _).bind fun _ => keeps_pure _
  · exact keeps_pure _

lemma keeps_isVisible_layout (id : String) : (isVisible Layout.host id).Keeps :=
  (keeps_classify_layout id).bind fun _ => keeps_pure _

/-- So does checking any number of elements, one after the other. -/
lemma keeps_visible_layout (ids : List String) : (visible Layout.host ids).Keeps := by
  induction ids with
  | nil => exact keeps_pure _
  | cons id rest ih =>
      exact (keeps_isVisible_layout id).bind fun _ => ih.bind fun _ => keeps_pure _

/-- The result of classifying an element of a layout. -/
lemma result_classify_layout (l : Layout) (id : String) :
    ((classify Layout.host id).run l).result =
      match l.get? id with
      | some box => .ok (InView.classify box l.viewport)
      | none => .error (.unknownElement id) := by
  cases h : l.get? id with
  | none =>
      have first : ((readBox Layout.host id).run l).result = .error (.unknownElement id) := by
        simp only [run, readBox, Layout.host, h]
      rw [classify, run_bind_of_error first]
  | some box =>
      have first : ((readBox Layout.host id).run l).result = .ok box := by
        simp only [run, readBox, Layout.host, h]
      have second : ((readViewport (ε := String) Layout.host).run l).result = .ok l.viewport := rfl
      rw [classify, run_bind_of_ok first, keeps_readBox_layout id l, run_bind_of_ok second]
      dsimp only
      -- the event is logged on the side, and the result is the same in both branches
      split <;> rfl

/-- An element is visible if it is classified so. -/
lemma result_isVisible (host : Host σ ε) (element : ε) (s : σ) :
    ((isVisible host element).run s).result =
      ((classify host element).run s).result.map Visibility.isVisible := by
  cases first : ((classify host element).run s).result with
  | error fault =>
      rw [isVisible, run_bind_of_error first]
      rfl
  | ok visibility =>
      rw [isVisible, run_bind_of_ok first]
      rfl

/-- Elements of a layout are checked one by one, all of them in the same layout. -/
lemma result_visible_layout_cons (l : Layout) (id : String) (rest : List String) :
    ((visible Layout.host (id :: rest)).run l).result = (do
      let found ← ((isVisible Layout.host id).run l).result
      let others ← ((visible Layout.host rest).run l).result
      return if found then id :: others else others) := by
  rw [visible]
  cases first : ((isVisible Layout.host id).run l).result with
  | error fault =>
      rw [run_bind_of_error first]
      rfl
  | ok found =>
      rw [run_bind_of_ok first, keeps_isVisible_layout id l]
      cases behind : ((visible Layout.host rest).run l).result with
      | error fault =>
          rw [run_bind_of_error behind]
          rfl
      | ok others =>
          rw [run_bind_of_ok behind]
          rfl

end Check

end InView
