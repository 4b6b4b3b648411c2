import InView.Proofs.Check
import InView.Session

/-!
# Runs of a session

A run is a list of requests, answered one after the other.  What a request does to the session
is said here once: `Session.next` is the session after a request without its answer, and
`session_answer` says that answering leads there.  Whatever every request preserves is
preserved by every run (`after_induction`), so an invariant needs one case for each of the
requests that change something.
-/

namespace InView.Session

/-- The session after a request. -/
def next (s : Session) : Request → Session
  | .insert id box => { s with layout := s.layout.withElement id box }
  | .remove id => { s with layout := (s.layout.remove id).2 }
  | .resize view => { s with layout := s.layout.resize view }
  | .scrollBy dx dy => { s with layout := s.layout.scrollBy dx dy }
  | .load text =>
    match Layout.ofText text with
    | .ok layout => { s with layout }
    | .error _ => s
  | .save => { s with saved := s.layout }
  | .restore => { s with layout := s.saved }
  | _ => s

/-- A check that keeps the layout keeps the session. -/
lemma session_check {α : Type} (s : Session) {c : Check Layout String α} (h : c.Keeps)
    (reply : α → Reply) : (s.check c reply).session = s := by
  simp only [check, h s.layout]

/-- **What answering a request does to the session.** -/
theorem session_answer (s : Session) (request : Request) :
    (s.answer request).session = s.next request := by
  cases request with
  | load text =>
      simp only [answer, next]
      split <;> simp_all [change, tell]
  | boundingBox id => exact s.session_check (Check.keeps_readBox_layout id) _
  | viewport => exact s.session_check Check.keeps_readViewport_layout _
  | classify id => exact s.session_check (Check.keeps_classify_layout id) _
  | isVisible id => exact s.session_check (Check.keeps_isVisible_layout id) _
  | visible ids => exact s.session_check (Check.keeps_visible_layout ids) _
  | visibleAll => exact s.session_check (Check.keeps_visible_layout _) _
  | _ => rfl

/-- The session after a run of requests. -/
def after (s : Session) (requests : List Request) : Session :=
  requests.foldl (fun s request => (s.answer request).session) s

@[simp] lemma after_nil (s : Session) : s.after [] = s := rfl

@[simp] lemma after_cons (s : Session) (request : Request) (requests : List Request) :
    s.after (request :: requests) = (s.next request).after requests := by
  rw [after, List.foldl_cons, session_answer]
  rfl

/-- What every request of a run preserves holds after the run. -/
lemma after_induction {P : Session → Prop} {s : Session} {requests : List Request} (start : P s)
    (step : ∀ s, ∀ request ∈ requests, P s → P (s.next request)) : P (s.after requests) := by
  induction requests generalizing s with
  | nil => exact start
  | cons request rest ih =>
      rw [after_cons]
      refine ih (step s request List.mem_cons_self start) fun s request mem => ?_
      exact step s request (List.mem_cons_of_mem _ mem)

end InView.Session
