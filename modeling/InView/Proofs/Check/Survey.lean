import InView.Proofs.Check

/-!
# What a check reads

`Host.survey` asks a host directly, without any check: for each of some elements in order it reads
the box and then, if there is one, the viewport, and it ends with the first read that fails.
What it keeps are the replies (`Reading`), the read that failed, and the state that the host is
left in.

Checking the elements makes the same reads.  `run_visible` says so of the whole run: its
result, its reads and its events are all made of one survey, and the host is left in the same
state.
-/

namespace InView

variable {σ ε α : Type}

/-! ## Surveys -/

/-- The replies by which an element is checked. -/
structure Reading (ε : Type) where
  element : ε
  box : Box
  viewport : Viewport

namespace Reading

/-- How the box that was read lies in the viewport that was read. -/
def visibility (r : Reading ε) : Visibility := classify r.box r.viewport

/-- The reads that were made, in order. -/
def queries (r : Reading ε) : List (Query ε) := [.box r.element, .viewport]

/-- The event that tells of the element. -/
def event (r : Reading ε) : Event := ⟨r.box, r.viewport, r.visibility⟩

/-- The events that are logged: the element is told of, unless it is visible. -/
def events (r : Reading ε) : List Event := if r.visibility = .visible then [] else [r.event]

end Reading

/-- A read that failed: that of a box, or that of the viewport behind the box of an element. -/
inductive FailedRead (ε : Type) where
  | box (element : ε) (fault : Fault)
  | viewport (element : ε) (fault : Fault)

namespace FailedRead

/-- The element that the read was made for. -/
def element : FailedRead ε → ε
  | box element _ => element
  | viewport element _ => element

/-- Why the read failed. -/
def fault : FailedRead ε → Fault
  | box _ fault => fault
  | viewport _ fault => fault

/-- The reads for the element, up to the one that failed. -/
def queries : FailedRead ε → List (Query ε)
  | box element _ => [.box element]
  | viewport element _ => [.box element, .viewport]

end FailedRead

/-- The replies of a host for some elements, up to the first read that failed. -/
structure Survey (σ ε : Type) where
  readings : List (Reading ε)
  failure? : Option (FailedRead ε)
  state : σ

/-- Reads the box of each element, and the viewport behind each box. -/
def Host.survey (host : Host σ ε) : List ε → σ → Survey σ ε
  | [], s => ⟨[], none, s⟩
  | element :: rest, s =>
    match host.box element s with
    | (.error fault, s₁) => ⟨[], some (.box element fault), s₁⟩
    | (.ok box, s₁) =>
      match host.viewport s₁ with
      | (.error fault, s₂) => ⟨[], some (.viewport element fault), s₂⟩
      | (.ok view, s₂) =>
        let behind := host.survey rest s₂
        { behind with readings := ⟨element, box, view⟩ :: behind.readings }

/-- The run that a survey accounts for: what is found, in the order of the readings, or the fault of
the failed read; all reads; and an event for each reading that is not visible. -/
def Survey.toRun (v : Survey σ ε) : Run σ ε (List ε) where
  result :=
    match v.failure? with
    | none => .ok ((v.readings.filter fun r => r.visibility = .visible).map (·.element))
    | some failed => .error failed.fault
  state := v.state
  queries := v.readings.flatMap Reading.queries ++ v.failure?.toList.flatMap FailedRead.queries
  events := v.readings.flatMap Reading.events

namespace Host

variable {host : Host σ ε} {element : ε} {s s₁ s₂ : σ} {box : Box} {view : Viewport}
  {fault : Fault}

/-- The two reads for an element: that of its box fails, that of the viewport does, or none. -/
lemma reads_cases (host : Host σ ε) (element : ε) (s : σ) :
    (∃ fault s₁, host.box element s = (.error fault, s₁)) ∨
      (∃ box s₁ fault s₂, host.box element s = (.ok box, s₁) ∧
        host.viewport s₁ = (.error fault, s₂)) ∨
      ∃ box s₁ view s₂, host.box element s = (.ok box, s₁) ∧ host.viewport s₁ = (.ok view, s₂) := by
  rcases boxRead : host.box element s with ⟨boxReply, s₁⟩
  cases boxReply with
  | error fault => exact .inl ⟨fault, s₁, rfl⟩
  | ok box =>
      rcases viewRead : host.viewport s₁ with ⟨viewReply, s₂⟩
      cases viewReply with
      | error fault => exact .inr (.inl ⟨box, s₁, fault, s₂, rfl, viewRead⟩)
      | ok view => exact .inr (.inr ⟨box, s₁, view, s₂, rfl, viewRead⟩)

lemma survey_of_box_error (h : host.box element s = (.error fault, s₁)) (rest : List ε) :
    host.survey (element :: rest) s = ⟨[], some (.box element fault), s₁⟩ := by
  rw [survey, h]

lemma survey_of_viewport_error (h : host.box element s = (.ok box, s₁))
    (h' : host.viewport s₁ = (.error fault, s₂)) (rest : List ε) :
    host.survey (element :: rest) s = ⟨[], some (.viewport element fault), s₂⟩ := by
  simp only [survey, h, h']

lemma survey_of_ok (h : host.box element s = (.ok box, s₁)) (h' : host.viewport s₁ = (.ok view, s₂))
    (rest : List ε) :
    host.survey (element :: rest) s =
      ⟨⟨element, box, view⟩ :: (host.survey rest s₂).readings, (host.survey rest s₂).failure?,
        (host.survey rest s₂).state⟩ := by
  simp only [survey, h, h']

/-- The readings are those of the elements in order, up to the element of the failed read. -/
lemma elements_survey (host : Host σ ε) (elements : List ε) (s : σ) :
    match (host.survey elements s).failure? with
    | none => elements = (host.survey elements s).readings.map (·.element)
    | some failed => ∃ rest, elements =
        (host.survey elements s).readings.map (·.element) ++ failed.element :: rest := by
  induction elements generalizing s with
  | nil => rfl
  | cons element rest ih =>
      rcases host.reads_cases element s with
        ⟨fault, s₁, failed⟩ | ⟨box, s₁, fault, s₂, read, failed⟩ | ⟨box, s₁, view, s₂, read, read'⟩
      · rw [survey_of_box_error failed]
        exact ⟨rest, rfl⟩
      · rw [survey_of_viewport_error read failed]
        exact ⟨rest, rfl⟩
      · have behind := ih s₂
        rw [survey_of_ok read read']
        cases failure : (host.survey rest s₂).failure? with
        | none =>
            rw [failure] at behind
            exact congrArg (element :: ·) behind
        | some failed =>
            rw [failure] at behind
            obtain ⟨rest', split⟩ := behind
            exact ⟨rest', congrArg (element :: ·) split⟩

end Host

/-! ## Runs of a check -/

namespace Check

variable {host : Host σ ε} {element : ε} {s s₁ s₂ : σ} {box : Box} {view : Viewport}
  {fault : Fault} {queries queries' : List (Query ε)} {events events' : List Event}

section

variable {β : Type} {c : Check σ ε α} {f : α → Check σ ε β}

lemma run_bind_error (first : c.run s = ⟨.error fault, s₁, queries, events⟩) :
    (c >>= f).run s = ⟨.error fault, s₁, queries, events⟩ := by
  rw [run_bind_of_error (congrArg Run.result first), first]

lemma run_bind_ok {a : α} {result : Except Fault β}
    (first : c.run s = ⟨.ok a, s₁, queries, events⟩)
    (second : (f a).run s₁ = ⟨result, s₂, queries', events'⟩) :
    (c >>= f).run s = ⟨result, s₂, queries ++ queries', events ++ events'⟩ := by
  rw [run_bind_of_ok (congrArg Run.result first), first, second]

end

lemma run_readBox {reply : Except Fault Box} (h : host.box element s = (reply, s₁)) :
    (readBox host element).run s = ⟨reply, s₁, [.box element], []⟩ := by
  simp only [run, readBox, h]

lemma run_readViewport {reply : Except Fault Viewport} (h : host.viewport s = (reply, s₁)) :
    (readViewport (ε := ε) host).run s = ⟨reply, s₁, [.viewport], []⟩ := by
  simp only [run, readViewport, h]

/-- What is done with a reading: the element is logged, unless it is visible. -/
lemma run_report (r : Reading ε) (s : σ) :
    (do
      if !r.visibility.isVisible then log r.event
      return r.visibility : Check σ ε Visibility).run s =
        ⟨.ok r.visibility, s, [], r.events⟩ := by
  by_cases visible : r.visibility = .visible
  · simp only [visible, Visibility.isVisible, decide_true, Bool.not_true, Bool.false_eq_true,
      if_false, Reading.events, if_true]
    rfl
  · simp only [visible, Visibility.isVisible, decide_false, Bool.not_false, Reading.events,
      if_false, if_true]
    rfl

/-! ### A single element -/

lemma run_isVisible_of_box_error (h : host.box element s = (.error fault, s₁)) :
    (isVisible host element).run s = ⟨.error fault, s₁, [.box element], []⟩ :=
  run_bind_error (run_bind_error (run_readBox h))

lemma run_isVisible_of_viewport_error (h : host.box element s = (.ok box, s₁))
    (h' : host.viewport s₁ = (.error fault, s₂)) :
    (isVisible host element).run s = ⟨.error fault, s₂, [.box element, .viewport], []⟩ :=
  run_bind_error (run_bind_ok (run_readBox h) (run_bind_error (run_readViewport h')))

lemma run_isVisible_of_ok (h : host.box element s = (.ok box, s₁))
    (h' : host.viewport s₁ = (.ok view, s₂)) :
    (isVisible host element).run s =
      ⟨.ok (InView.classify box view).isVisible, s₂, [.box element, .viewport],
        Reading.events ⟨element, box, view⟩⟩ := by
  have classified : (classify host element).run s =
      ⟨.ok (InView.classify box view), s₂, [.box element, .viewport],
        Reading.events ⟨element, box, view⟩⟩ :=
    run_bind_ok (run_readBox h)
      (run_bind_ok (run_readViewport h') (run_report ⟨element, box, view⟩ s₂))
  have told := run_bind_ok (f := fun v => pure v.isVisible) classified (run_pure _ s₂)
  rwa [List.append_nil, List.append_nil] at told

/-! ### Any number of elements -/

lemma run_visible_of_error (rest : List ε)
    (first : (isVisible host element).run s = ⟨.error fault, s₁, queries, events⟩) :
    (visible host (element :: rest)).run s = ⟨.error fault, s₁, queries, events⟩ :=
  run_bind_error first

/-- Behind an element that was checked, the others are checked from the state that was left. -/
lemma run_visible_of_ok {found : Bool} (rest : List ε)
    (first : (isVisible host element).run s = ⟨.ok found, s₁, queries, events⟩) :
    (visible host (element :: rest)).run s =
      let behind := (visible host rest).run s₁
      ⟨behind.result.map fun others => if found then element :: others else others, behind.state,
        queries ++ behind.queries, events ++ behind.events⟩ := by
  rcases behind : (visible host rest).run s₁ with ⟨result, s₂, queries', events'⟩
  cases result with
  | error fault => exact run_bind_ok first (run_bind_error behind)
  | ok others =>
      have told :=
        run_bind_ok (f := fun others => pure (if found then element :: others else others))
        behind (run_pure _ s₂)
      rw [List.append_nil, List.append_nil] at told
      exact run_bind_ok first told

/-- **A check of many elements is accounted for by one survey of them.** -/
theorem run_visible (host : Host σ ε) (elements : List ε) (s : σ) :
    (visible host elements).run s = (host.survey elements s).toRun := by
  induction elements generalizing s with
  | nil => rfl
  | cons element rest ih =>
      rcases host.reads_cases element s with
        ⟨fault, s₁, failed⟩ | ⟨box, s₁, fault, s₂, read, failed⟩ | ⟨box, s₁, view, s₂, read, read'⟩
      · rw [Host.survey_of_box_error failed]
        exact run_visible_of_error rest (run_isVisible_of_box_error failed)
      · rw [Host.survey_of_viewport_error read failed]
        exact run_visible_of_error rest (run_isVisible_of_viewport_error read failed)
      · rw [Host.survey_of_ok read read', run_visible_of_ok rest (run_isVisible_of_ok read read'),
          ih s₂]
        cases failure : (host.survey rest s₂).failure? with
        | none =>
            by_cases visible : InView.classify box view = .visible
            · simp [Survey.toRun, failure, Except.map, visible, Visibility.isVisible,
                Reading.visibility, Reading.queries]
            · simp [Survey.toRun, failure, Except.map, visible, Visibility.isVisible,
                Reading.visibility, Reading.queries]
        | some failed => simp [Survey.toRun, failure, Except.map, Reading.queries]

end Check

end InView
