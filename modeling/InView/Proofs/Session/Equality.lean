import InView.Proofs.Layout.Equality
import InView.Proofs.Session.Run

/-!
# Runs from equal layouts

Two sessions that start from equal layouts and are asked the same stay equal, whatever is asked, as
long as no request brings in a `nan` or scrolls by an infinite amount.  Both are needed.  A `nan` is
not equal to itself, and an edge at infinity that is moved by infinity becomes one.

The step lemma is `Same.next`.  Only the requests that bring in numbers of their own put a condition
on the run: what is loaded is finite, and what is restored was equal when it was saved.
-/

namespace InView

open Binary64

/-- A request brings in no `nan`, and no infinite scroll. -/
def Request.BringsNumbers : Request → Prop
  | .insert _ box => box.IsNumber
  | .resize view => view.IsNumber
  | .scrollBy dx dy => dx.isFinite ∧ dy.isFinite
  | _ => True

namespace Session

/-- Sessions with equal layouts, and with equal layouts saved. -/
structure Same (s t : Session) : Prop where
  layout : s.layout == t.layout
  saved : s.saved == t.saved

/-- **Equal sessions are equal after the same request.** -/
lemma Same.next {s t : Session} (h : s.Same t) {request : Request}
    (number : request.BringsNumbers) : (s.next request).Same (t.next request) := by
  cases request with
  | insert id box => exact ⟨Layout.withElement_beq_withElement h.layout id number, h.saved⟩
  | remove id => exact ⟨Layout.remove_beq_remove h.layout id, h.saved⟩
  | resize view => exact ⟨Layout.resize_beq_resize h.layout number, h.saved⟩
  | scrollBy dx dy => exact ⟨Layout.scrollBy_beq_scrollBy h.layout number.1 number.2, h.saved⟩
  | load text =>
      simp only [Session.next]
      cases loaded : Layout.ofText text with
      | error fault => exact h
      | ok l =>
          -- a layout that was loaded holds no `nan`, so it is equal to itself
          have finite := Layout.finite_of_document (Layout.ofText_eq_ok_iff.mp loaded).1
          have self : l == l :=
            Layout.beq_self_iff.mpr fun x mem => isNumber_of_isFinite (finite x mem)
          exact ⟨self, h.saved⟩
  | save => exact ⟨h.layout, h.layout⟩
  | restore => exact ⟨h.saved, h.saved⟩
  | _ => exact h

/-- And so they are after the same run. -/
lemma Same.after {s t : Session} (h : s.Same t) {requests : List Request}
    (numbers : ∀ request ∈ requests, request.BringsNumbers) :
    (s.after requests).Same (t.after requests) := by
  induction requests generalizing s t with
  | nil => exact h
  | cons request rest ih =>
      rw [after_cons, after_cons]
      obtain ⟨number, numbers⟩ := List.forall_mem_cons.mp numbers
      exact ih (h.next number) numbers

end Session

/-- Layouts that validation and checks do not tell apart. -/
structure Layout.Alike (s t : Layout) : Prop where
  validate : s.validate = t.validate
  classify : ∀ id, ((Check.classify host id).run s).result =
    ((Check.classify host id).run t).result
  isVisible : ∀ id, ((Check.isVisible host id).run s).result =
    ((Check.isVisible host id).run t).result
  visible : ∀ ids, ((Check.visible host ids).run s).result =
    ((Check.visible host ids).run t).result

lemma Layout.alike_of_beq {s t : Layout} (h : s == t) : s.Alike t where
  validate := validate_congr h
  classify := result_classify_congr h
  isVisible := result_isVisible_congr h
  visible := result_visible_congr h

/-- **Equality can be relied on.**  It is symmetric and transitive, and exactly the layouts without
`nan` are equal to themselves.  Equal layouts pass validation alike and give every check the same
result, and after the same requests they are equal again, and so alike again. -/
theorem Session.equal_layouts_stay_equal :
    (∀ s t : Layout, (s == t) = (t == s)) ∧
      (∀ s t u : Layout, s == t → t == u → s == u) ∧
      (∀ s : Layout, s == s ↔ ∀ x ∈ s.numbers, x.IsNumber) ∧
      ∀ s t : Layout, s == t → s.Alike t ∧
        ∀ requests : List Request, (∀ request ∈ requests, request.BringsNumbers) →
          ((ofLayout s).after requests).layout == ((ofLayout t).after requests).layout ∧
            ((ofLayout s).after requests).layout.Alike ((ofLayout t).after requests).layout := by
  refine ⟨fun _ _ => BEq.comm, fun _ _ _ => BEq.trans, fun _ => Layout.beq_self_iff, ?_⟩
  intro s t same
  refine ⟨Layout.alike_of_beq same, fun requests numbers => ?_⟩
  have start : (ofLayout s).Same (ofLayout t) := ⟨same, same⟩
  have behind := (start.after numbers).layout
  exact ⟨behind, Layout.alike_of_beq behind⟩

/-- Two layouts that hold zeros of different signs beside infinite edges, through a run that scrolls
over them and back. -/
theorem Session.equal_layouts_stay_equal_zeros :
    let number := Binary64.ofNat
    let infinite : Binary64 := .infinite false
    let view : Viewport := ⟨infinite, number 9⟩
    let s := (Layout.ofViewport view).withElement "a" ⟨0, -0, infinite, -infinite⟩
    let t := (Layout.ofViewport view).withElement "a" ⟨-0, 0, infinite, -infinite⟩
    let requests := [Request.scrollBy (number 3) (-0), .insert "b" ⟨-0, 0, 0, infinite⟩,
      .scrollBy (-number 3) 0, .resize ⟨-0, number 4⟩, .remove "c"]
    s ≠ t ∧ s == t ∧ (∀ request ∈ requests, request.BringsNumbers) ∧
      ((Check.isVisible Layout.host "a").run s).result =
        ((Check.isVisible Layout.host "a").run t).result ∧
      ((ofLayout s).after requests).layout == ((ofLayout t).after requests).layout := by
  intro number infinite view s t requests
  have same : s == t := by decide +kernel
  have numbers : ∀ request ∈ requests, request.BringsNumbers := by
    simp only [requests, List.forall_mem_cons, List.not_mem_nil, false_implies, implies_true,
      and_true, Request.BringsNumbers]
    refine ⟨by decide +kernel, ⟨?_, ?_, ?_, ?_⟩, by decide +kernel, ⟨?_, ?_⟩⟩ <;> decide +kernel
  obtain ⟨alike, runs⟩ := equal_layouts_stay_equal.2.2.2 s t same
  refine ⟨?_, same, numbers, alike.isVisible "a", (runs requests numbers).1⟩
  intro eq
  have top := congrArg (fun l : Layout => (l.get? "a").map (·.top)) eq
  revert top
  decide +kernel

end InView
