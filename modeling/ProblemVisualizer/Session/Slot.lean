import ProblemVisualizer.Session.RequestState

/-! One request at a time.

The slot holds the state of the request in hand. A request is admitted only
when none is pending; it gets the next number, and only an outcome that comes
under that number ends it. Whoever watches the slot is told of every change of
state, and of nothing else. -/
namespace ProblemVisualizer.Session

open Generation (Request Result ServiceError)

/-- A change of state: the state before and the state after. -/
structure Transition where
  previous : RequestState
  current : RequestState
deriving DecidableEq, Repr

/-- What can be told of transitions. -/
class Observer (ω : Type) where
  observe : Transition → ω → ω

/-- A log keeps the transitions, the first one first. -/
instance : Observer (List Transition) where
  observe t log := log ++ [t]

instance {α β : Type} [Observer α] [Observer β] : Observer (α × β) where
  observe t pair := (Observer.observe t pair.1, Observer.observe t pair.2)

/-- A request that has been admitted. -/
structure Ticket where
  id : RequestId
  request : Request
deriving DecidableEq, Repr

/-- Refusal of a request, because another one is in flight. -/
structure Busy where
  inFlight : RequestId
deriving DecidableEq, Repr

def Busy.message (b : Busy) : String :=
  "request " ++ RequestId.label b.inFlight ++ " is still in flight"

structure Slot where
  state : RequestState := .idle
  /-- How many requests have been admitted. -/
  issued : Nat := 0
deriving DecidableEq, Repr

namespace Slot

variable {ω : Type} [Observer ω]

def isPending (s : Slot) : Bool := s.state.isPending

/-- Changes the state and tells the observer. -/
def moveTo (s : Slot) (next : RequestState) (watch : ω) : Slot × ω :=
  ({s with state := next}, Observer.observe ⟨s.state, next⟩ watch)

/-- Admits a request. Whatever the last one left is gone from here on. -/
def begin (s : Slot) (request : Request) (watch : ω) : Except Busy (Ticket × Slot × ω) :=
  match s.state with
  | .pending id => .error ⟨id⟩
  | _ =>
    let id := s.issued + 1
    .ok (⟨id, request⟩, {s with issued := id}.moveTo (.pending id) watch)

/-- Ends the request in flight, if it is the one numbered `id`; anything else is dropped. Says
whether the outcome was taken. -/
def complete (s : Slot) (id : RequestId) (outcome : Outcome) (watch : ω) : Bool × Slot × ω :=
  match s.state with
  | .pending inFlight =>
    if inFlight = id then (true, s.moveTo (.ofOutcome outcome) watch) else (false, s, watch)
  | _ => (false, s, watch)

/-- Admits a request, has it answered and takes the answer, all at once. -/
def submit (s : Slot) (request : Request) (service : Request → Outcome) (watch : ω) :
    Except Busy (RequestId × Slot × ω) :=
  match s.begin request watch with
  | .error busy => .error busy
  | .ok (ticket, s, watch) =>
    let (_, s, watch) := s.complete ticket.id (service ticket.request) watch
    .ok (ticket.id, s, watch)

end Slot

end ProblemVisualizer.Session
