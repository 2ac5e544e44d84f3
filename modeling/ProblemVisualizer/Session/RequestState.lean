import ProblemVisualizer.Generation.Artifact
import ProblemVisualizer.Generation.Request
import ProblemVisualizer.Generation.ServiceError

/-! The state of the client's one request. -/
namespace ProblemVisualizer.Session

open Generation (Request Result ServiceError)

/-- Requests are numbered from one in the order they are issued. -/
abbrev RequestId := Nat

def RequestId.label (id : RequestId) : String := "#" ++ toString id

/-- What a service call ends with. -/
abbrev Outcome := Except ServiceError Result

inductive RequestState where
  | idle
  | pending (id : RequestId)
  | succeeded (result : Result)
  | failed (message : String)
deriving DecidableEq, Repr

namespace RequestState

def name : RequestState → String
  | idle => "idle"
  | pending _ => "pending"
  | succeeded _ => "succeeded"
  | failed _ => "failed"

def isPending : RequestState → Bool
  | pending _ => true
  | _ => false

def result? : RequestState → Option Result
  | succeeded result => some result
  | _ => none

def error? : RequestState → Option String
  | failed message => some message
  | _ => none

/-- The state a finished call leaves. -/
def ofOutcome : Outcome → RequestState
  | .ok result => succeeded result
  | .error e => failed e.message

@[simp] theorem isPending_pending (id : RequestId) : (pending id).isPending = true := rfl

@[simp] theorem isPending_ofOutcome (outcome : Outcome) : (ofOutcome outcome).isPending = false := by
  cases outcome <;> rfl

@[simp] theorem ofOutcome_ne_pending (outcome : Outcome) (id : RequestId) :
    ofOutcome outcome ≠ pending id := by
  cases outcome <;> simp [ofOutcome]

end RequestState

end ProblemVisualizer.Session
