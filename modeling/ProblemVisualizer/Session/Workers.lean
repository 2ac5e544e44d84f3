import ProblemVisualizer.Session.Slot

/-! Calls that run beside the client.

Each admitted request is handed to a worker. Whether a worker starts is up to the
system (`Starts`); where it does not, that is the outcome of the request, and the
service hears nothing of it. A worker that has started calls the service once, at
a moment of its own. When the service answers, the outcome arrives under the
request's number and waits to be collected, in the order of arrival. -/
namespace ProblemVisualizer.Session

open Generation (Request)

/-- An outcome that has arrived. -/
structure Completion where
  id : RequestId
  outcome : Outcome
deriving Repr

/-- What the system answers when the worker for a request is to be started: that it starts, or
why it does not. -/
abbrev Starts := RequestId → Except String Unit

/-- A system that starts every worker. -/
def Starts.always : Starts := fun _ => .ok ()

structure Workers where
  starts : Starts := .always
  /-- Tickets of workers that have started and not called the service yet. -/
  ready : List Ticket := []
  /-- Tickets whose call has not ended. -/
  running : List Ticket := []
  /-- Outcomes that nobody has collected yet, the oldest first. -/
  arrived : List Completion := []
  /-- Every request the service has received, the oldest first. -/
  received : List Request := []

namespace Workers

/-- Hands a ticket to a worker. -/
def assign (w : Workers) (ticket : Ticket) : Workers :=
  match w.starts ticket.id with
  | .ok () => {w with ready := w.ready ++ [ticket]}
  | .error reason =>
    let outcome : Outcome := .error (.transport ("could not start request: " ++ reason))
    {w with arrived := w.arrived ++ [⟨ticket.id, outcome⟩]}

/-- The worker for request `id` calls the service, if it has not called yet. -/
def call (w : Workers) (id : RequestId) : Workers :=
  match w.ready.find? (·.id = id) with
  | some ticket =>
    {w with
      ready := w.ready.eraseP (·.id = id)
      running := w.running ++ [ticket]
      received := w.received ++ [ticket.request]}
  | none => w

/-- The service answers the call for request `id`. -/
def answer (w : Workers) (id : RequestId) (outcome : Outcome) : Workers :=
  if w.running.any (·.id = id) then
    {w with
      running := w.running.eraseP (·.id = id)
      arrived := w.arrived ++ [⟨id, outcome⟩]}
  else w

/-- The worker for request `id` gets done: what is left to it is a call and its answer, or the
answer. -/
def finish (w : Workers) (id : RequestId) (outcome : Outcome) : Workers :=
  (w.call id).answer id outcome

/-- Collects the oldest outcome. -/
def next? (w : Workers) : Option (Completion × Workers) :=
  match w.arrived with
  | [] => none
  | completion :: rest => some (completion, {w with arrived := rest})

theorem assign_of_ok {w : Workers} {ticket : Ticket} (starts : w.starts ticket.id = .ok ()) :
    w.assign ticket = {w with ready := w.ready ++ [ticket]} := by
  simp only [assign, starts]

theorem assign_of_error {w : Workers} {ticket : Ticket} {reason : String}
    (fails : w.starts ticket.id = .error reason) :
    w.assign ticket = {w with arrived := w.arrived ++
      [⟨ticket.id, .error (.transport ("could not start request: " ++ reason))⟩]} := by
  simp only [assign, fails]

theorem starts_assign (w : Workers) (ticket : Ticket) : (w.assign ticket).starts = w.starts := by
  unfold assign
  split <;> rfl

theorem starts_call (w : Workers) (id : RequestId) : (w.call id).starts = w.starts := by
  unfold call
  split <;> rfl

theorem starts_answer (w : Workers) (id : RequestId) (outcome : Outcome) :
    (w.answer id outcome).starts = w.starts := by
  unfold answer
  split <;> rfl

end Workers

end ProblemVisualizer.Session
