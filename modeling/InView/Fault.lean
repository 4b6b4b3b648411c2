import InView.Text.Quoted

/-!
# Faults

What a question about a layout can fail with.  The question itself never fails; only what supplies
its answer does: an id that is not there, a layout that breaks a rule, a document that cannot
be read, or an error of the host that the layout comes from.

A host error is a chain of messages: the first one says what failed, and each further one is the
cause of the one before it.  A fault passes such a chain on unchanged.
-/

namespace InView

/-- An error of a host: a message, and the messages of its causes from the nearest to the root. -/
structure HostError where
  message : String
  causes : List String
  deriving DecidableEq

namespace HostError

/-- An error without a cause. -/
def ofMessage (message : String) : HostError := ⟨message, []⟩

/-- An error with a message put in front of it, which it becomes the cause of. -/
def context (e : HostError) (message : String) : HostError := ⟨message, e.message :: e.causes⟩

/-- An error with a root message, and contexts put in front of it one after the other. -/
def ofMessages (root : String) (contexts : List String) : HostError :=
  contexts.foldl context (ofMessage root)

/-- The message of the innermost cause. -/
def rootCause (e : HostError) : String := e.causes.getLastD e.message

end HostError

/-- Why a question about a layout has no answer. -/
inductive Fault where
  | unknownElement (id : String)
  | validation (reason : String)
  | serialization (reason : String)
  | host (error : HostError)
  deriving DecidableEq

namespace Fault

/-- The message of a fault; that of a host error is its own first message. -/
def message : Fault → String
  | unknownElement id => "unknown element: " ++ id
  | validation reason => "validation error: " ++ reason
  | serialization reason => "serialization error: " ++ reason
  | host error => error.message

/-- The messages behind the first one, from the nearest cause to the root. -/
def sources : Fault → List String
  | host error => error.causes
  | _ => []

/-- The message with all its sources. -/
def fullMessage (fault : Fault) : String := ": ".intercalate (fault.message :: fault.sources)

/-- A fault of this library as it is inspected; how a host error is inspected is the host's own
affair. -/
def inspect? : Fault → Option String
  | unknownElement id => some ("UnknownElement(" ++ Text.quoted id ++ ")")
  | validation reason => some ("Validation(" ++ Text.quoted reason ++ ")")
  | serialization reason => some ("Serde(" ++ Text.quoted reason ++ ")")
  | host _ => none

end Fault

end InView
