import InView.Fault
import Mathlib.Data.List.Induction
import Mathlib.Tactic.Lemma

/-!
# Errors of hosts

A host makes its errors with a library that is not part of this one.  Of such a library only what it
is documented to do is used here (`ErrorLibrary.Documented`): an error has a message, an error that
was put into a context has the context as its message and itself as the source, and the full text of
an error is its message with those of its sources.

A `HostError` is what can be seen of such an error: its message, and the messages of its sources
(`ErrorLibrary.Shows`).  Putting an error into contexts one after the other and putting what is seen
of it into the same contexts agree (`shows_ofMessages`), and so nothing is lost by the way.  What is
seen in the end is the last context, and behind it the others back to the root (`ofMessages_eq`).
In `HostError.library` the host errors themselves are such a library.
-/

namespace InView

variable {κ : Type}

/-! ## Libraries of errors -/

/-- The operations of a library of errors. -/
structure ErrorLibrary (κ : Type) where
  /-- A new error with a message. -/
  ofMessage : String → κ
  /-- An error that is put into a context. -/
  context : κ → String → κ
  /-- The text of an error, without its sources. -/
  message : κ → String
  /-- The text of an error with all its sources. -/
  fullMessage : κ → String
  /-- The error that an error came from. -/
  source? : κ → Option κ
  /-- The error at the end of the sources. -/
  rootCause : κ → κ

namespace ErrorLibrary

/-- What a library of errors is documented to do. -/
structure Documented (lib : ErrorLibrary κ) : Prop where
  message_ofMessage : ∀ text, lib.message (lib.ofMessage text) = text
  source?_ofMessage : ∀ text, lib.source? (lib.ofMessage text) = none
  message_context : ∀ error text, lib.message (lib.context error text) = text
  source?_context : ∀ error text, lib.source? (lib.context error text) = some error
  fullMessage_of_none : ∀ error, lib.source? error = none →
    lib.fullMessage error = lib.message error
  fullMessage_of_some : ∀ error source, lib.source? error = some source →
    lib.fullMessage error = lib.message error ++ ": " ++ lib.fullMessage source
  rootCause_of_none : ∀ error, lib.source? error = none → lib.rootCause error = error
  rootCause_of_some : ∀ error source, lib.source? error = some source →
    lib.rootCause error = lib.rootCause source

/-- An error with a root message that is put into contexts one after the other. -/
def ofMessages (lib : ErrorLibrary κ) (root : String) (contexts : List String) : κ :=
  contexts.foldl lib.context (lib.ofMessage root)

/-- The messages that are found by going from an error to its source, and on until there is none. -/
inductive Sources (lib : ErrorLibrary κ) : κ → List String → Prop
  | root {error : κ} (none : lib.source? error = none) : lib.Sources error []
  | behind {error source : κ} {texts : List String} (some : lib.source? error = some source)
      (rest : lib.Sources source texts) : lib.Sources error (lib.message source :: texts)

/-- A host error shows an error: it has its message, and those of its sources as causes. -/
structure Shows (lib : ErrorLibrary κ) (error : κ) (shown : HostError) : Prop where
  message : shown.message = lib.message error
  causes : lib.Sources error shown.causes

variable {lib : ErrorLibrary κ} {error : κ} {texts texts' : List String}

lemma Sources.unique (h : lib.Sources error texts) (h' : lib.Sources error texts') :
    texts = texts' := by
  induction h generalizing texts' with
  | root none =>
      cases h' with
      | root => rfl
      | behind some => simp [none] at some
  | behind some _ ih =>
      cases h' with
      | root none => simp [none] at some
      | behind some' rest' =>
          obtain rfl := Option.some.inj (some.symm.trans some')
          rw [ih rest']

/-- There is only one way to show an error. -/
lemma Shows.unique {shown shown' : HostError} (h : lib.Shows error shown)
    (h' : lib.Shows error shown') : shown = shown' := by
  obtain ⟨message, causes⟩ := shown
  obtain ⟨message', causes'⟩ := shown'
  rw [HostError.mk.injEq]
  exact ⟨h.message.trans h'.message.symm, h.causes.unique h'.causes⟩

namespace Documented

variable (documented : lib.Documented)
include documented

lemma shows_ofMessage (text : String) : lib.Shows (lib.ofMessage text) (.ofMessage text) where
  message := (documented.message_ofMessage text).symm
  causes := .root (documented.source?_ofMessage text)

/-- What is seen of an error in a context is what is seen of the error, in the same context. -/
lemma shows_context {shown : HostError} (h : lib.Shows error shown) (text : String) :
    lib.Shows (lib.context error text) (shown.context text) where
  message := (documented.message_context error text).symm
  causes := by
    rw [HostError.context, h.message]
    exact .behind (documented.source?_context error text) h.causes

/-- **Contexts pass through**: an error made of messages is shown by the host error of these. -/
lemma shows_ofMessages (root : String) (contexts : List String) :
    lib.Shows (lib.ofMessages root contexts) (.ofMessages root contexts) := by
  rw [ofMessages, HostError.ofMessages]
  have start := documented.shows_ofMessage root
  generalize lib.ofMessage root = error at start ⊢
  generalize HostError.ofMessage root = shown at start ⊢
  induction contexts generalizing error shown with
  | nil => exact start
  | cons text contexts ih => exact ih _ _ (documented.shows_context start text)

/-- The full text of an error is its message with those of its sources. -/
lemma fullMessage_eq (h : lib.Sources error texts) :
    lib.fullMessage error = ": ".intercalate (lib.message error :: texts) := by
  induction h with
  | root none => rw [documented.fullMessage_of_none _ none, String.intercalate_singleton]
  | behind some _ ih =>
      rw [documented.fullMessage_of_some _ _ some, ih, String.intercalate_cons_cons]

/-- The root cause of an error is the last of its sources, or the error itself. -/
lemma message_rootCause (h : lib.Sources error texts) :
    lib.message (lib.rootCause error) = texts.getLastD (lib.message error) := by
  induction h with
  | root none => rw [documented.rootCause_of_none _ none, List.getLastD_nil]
  | behind some _ ih => rw [documented.rootCause_of_some _ _ some, ih, List.getLastD_cons]

end Documented

end ErrorLibrary

/-! ## Host errors -/

namespace HostError

/-- The messages of an error in contexts, from the last context back to the root. -/
lemma message_cons_causes (root : String) (contexts : List String) :
    (ofMessages root contexts).message :: (ofMessages root contexts).causes =
      (root :: contexts).reverse := by
  induction contexts using List.reverseRecOn with
  | nil => rfl
  | append_singleton contexts text ih =>
      have last :
          ofMessages root (contexts ++ [text]) = (ofMessages root contexts).context text := by
        simp [ofMessages]
      rw [last, context, ih]
      simp

/-- What is said first is the last context, and the others follow it back to the root. -/
lemma ofMessages_eq (root : String) (contexts : List String) :
    ofMessages root contexts =
      ⟨(root :: contexts).getLast (List.cons_ne_nil _ _), (root :: contexts).dropLast.reverse⟩ := by
  have both := message_cons_causes root contexts
  rw [← List.dropLast_concat_getLast (List.cons_ne_nil root contexts), List.reverse_append,
    List.reverse_singleton, List.singleton_append, List.cons_eq_cons] at both
  rw [HostError.mk.injEq]
  exact both

/-- Contexts do not change the root cause. -/
lemma rootCause_ofMessages (root : String) (contexts : List String) :
    (ofMessages root contexts).rootCause = root := by
  have behind := congrArg List.getLast? (message_cons_causes root contexts)
  rw [List.getLast?_cons, ← List.getLastD_eq_getLast?, List.getLast?_reverse,
    List.head?_cons] at behind
  exact Option.some.inj behind

/-- The host errors are a library of errors themselves. -/
def library : ErrorLibrary HostError where
  ofMessage := ofMessage
  context := context
  message error := error.message
  fullMessage error := ": ".intercalate (error.message :: error.causes)
  source? error :=
    match error.causes with
    | [] => none
    | text :: rest => some ⟨text, rest⟩
  rootCause error := ofMessage error.rootCause

lemma documented_library : library.Documented where
  message_ofMessage text := rfl
  source?_ofMessage text := rfl
  message_context error text := rfl
  source?_context error text := rfl
  fullMessage_of_none error none := by
    obtain ⟨message, _ | ⟨text, rest⟩⟩ := error
    · simp [library]
    · simp [library] at none
  fullMessage_of_some error source some := by
    obtain ⟨message, _ | ⟨text, rest⟩⟩ := error
    · simp [library] at some
    · obtain rfl := Option.some.inj some
      simp [library, String.intercalate_cons_cons]
  rootCause_of_none error none := by
    obtain ⟨message, _ | ⟨text, rest⟩⟩ := error
    · simp [library, rootCause, ofMessage]
    · simp [library] at none
  rootCause_of_some error source some := by
    obtain ⟨message, _ | ⟨text, rest⟩⟩ := error
    · simp [library] at some
    · obtain rfl := Option.some.inj some
      simp only [library, rootCause, List.getLastD_cons]

end HostError

/-! ## Faults -/

/-- A text and further ones behind separators. -/
lemma intercalate_cons (separator text : String) (texts : List String) :
    separator.intercalate (text :: texts) = text ++ String.join (texts.map (separator ++ ·)) := by
  induction texts generalizing text with
  | nil => simp
  | cons next texts ih =>
      rw [String.intercalate_cons_cons, ih, List.map_cons, String.join_cons]
      simp only [String.append_assoc]

/-- The full text of a fault is its message, and each source behind it. -/
lemma Fault.fullMessage_eq_append (fault : Fault) :
    fault.fullMessage = fault.message ++ String.join (fault.sources.map (": " ++ ·)) :=
  intercalate_cons ": " fault.message fault.sources

end InView
