import ProblemVisualizer.Proofs.App.Steps
import ProblemVisualizer.Proofs.Session.Workers

/-! What is out.

A request is out from the moment it is handed to a worker until its outcome is
collected. While the state is pending, exactly the pending request is out, and in
any other state none is (`OneInFlight`): so it is at the start of the client, and so
every event leaves it. There is then little that collecting can do (`Collecting`),
and the two ways of collecting do the same. -/
namespace ProblemVisualizer

open Export (Sink)
open Form (FormName)
open Session (Completion RequestId RequestState Starts Workers)

/-! ### The pending request -/

namespace Session

/-- The number that is pending. -/
def RequestState.pending? : RequestState → Option RequestId
  | pending id => some id
  | _ => none

theorem RequestState.pending?_eq_some_iff {state : RequestState} {id : RequestId} :
    state.pending? = some id ↔ state = .pending id := by
  cases state <;> simp [pending?]

theorem RequestState.pending?_eq_none_iff {state : RequestState} :
    state.pending? = none ↔ state.isPending = false := by
  cases state <;> simp [pending?, isPending]

end Session

namespace App

variable {σ : Type}

@[simp] theorem slot_move (a : App σ) (f : Text.EditBuffer → Text.EditBuffer) :
    (a.move f).slot = a.slot := by
  obtain ⟨_, _, moved⟩ := move_eq a f
  rw [moved]

@[simp] theorem workers_move (a : App σ) (f : Text.EditBuffer → Text.EditBuffer) :
    (a.move f).workers = a.workers := by
  obtain ⟨_, _, moved⟩ := move_eq a f
  rw [moved]

@[simp] theorem slot_edit (a : App σ) (f : Text.EditBuffer → Text.EditBuffer) :
    (a.edit f).slot = a.slot := slot_move _ f

@[simp] theorem workers_edit (a : App σ) (f : Text.EditBuffer → Text.EditBuffer) :
    (a.edit f).workers = a.workers := workers_move _ f

/-- The pending request is out, and nothing else is. -/
def OneInFlight (a : App σ) : Prop := a.workers.outstanding = a.request.pending?.toList

namespace OneInFlight

variable {a b : App σ}

theorem outstanding_eq_nil (h : OneInFlight a) (free : a.isPending = false) :
    a.workers.outstanding = [] := by
  have : a.request.pending? = none := RequestState.pending?_eq_none_iff.mpr free
  rw [h, this]
  rfl

theorem congr (h : OneInFlight a) (slot : b.slot = a.slot) (workers : b.workers = a.workers) :
    OneInFlight b := by
  unfold OneInFlight request at *
  rw [slot, workers, h]

theorem outstanding_eq (h : OneInFlight a) {id : RequestId} (pending : a.request = .pending id) :
    a.workers.outstanding = [id] := by
  rw [h, pending]
  rfl

/-- Where outcomes have arrived, it is the one outcome of the pending request, and no worker has
anything in hand. -/
theorem arrived_cases (h : OneInFlight a) : a.workers.arrived = [] ∨
    ∃ c, a.workers.arrived = [c] ∧ a.workers.inHand = [] ∧ a.request = .pending c.id := by
  cases hpending : a.request.pending? with
  | none =>
    have free := RequestState.pending?_eq_none_iff.mp hpending
    exact .inl (Workers.idle_of_outstanding (h.outstanding_eq_nil free)).arrived
  | some id =>
    have pending := RequestState.pending?_eq_some_iff.mp hpending
    cases Workers.whereabouts (h.outstanding_eq pending) with
    | ready _ _ arrived => exact .inl arrived
    | running _ _ arrived => exact .inl arrived
    | arrived ready running arrived =>
      exact .inr ⟨_, arrived, by simp [Workers.inHand, ready, running], pending⟩

theorem received_eq_sent (h : OneInFlight a) (free : a.isPending = false) :
    a.workers.received = a.workers.sent := by
  simp [Workers.sent, (Workers.idle_of_outstanding (h.outstanding_eq_nil free)).ready]

theorem length_ready_le (h : OneInFlight a) : a.workers.ready.length ≤ 1 := by
  have out := congrArg List.length h
  simp only [Workers.outstanding, Workers.inHand, List.length_append, List.length_map] at out
  have : a.request.pending?.toList.length ≤ 1 := by cases a.request.pending? <;> simp
  omega

end OneInFlight

/-! ### Collecting -/

/-- The outcomes that an event collects, the oldest first. -/
def collected (a : App σ) (e : Event) : List Completion :=
  match a.act e with
  | .collectAll => a.workers.arrived
  | .collectNext => a.workers.arrived.take 1
  | _ => []

/-- What collecting can do: nothing, or apply the outcome of the pending request. The outcomes are
those that are collected. -/
inductive Collecting (a : App σ) : List Completion → Nat × App σ → Prop where
  | nothing (arrived : a.workers.arrived = []) : Collecting a [] (0, a)
  | applied {c : Completion} (arrived : a.workers.arrived = [c]) (pending : a.request = .pending c.id) :
    Collecting a [c] (1, {a with
      workers := {a.workers with arrived := []}
      slot := {a.slot with state := .ofOutcome c.outcome}
      description := (Session.seedFrom (.ofOutcome c.outcome) a.description).2})

theorem take_of_pending {a : App σ} {c : Completion} (pending : a.request = .pending c.id) :
    a.take c = (true, {a with
      slot := {a.slot with state := .ofOutcome c.outcome}
      description := (Session.seedFrom (.ofOutcome c.outcome) a.description).2}) := by
  generalize taken : a.take c = r
  have := taken ▸ taking a c
  cases this with
  | applied => rfl
  | dropped other => exact absurd pending other

theorem OneInFlight.collectAll {a : App σ} (h : OneInFlight a) :
    Collecting a a.workers.arrived a.collectAll := by
  obtain arrived | ⟨c, arrived, -, pending⟩ := h.arrived_cases
  · have : a.collectAll = (0, a) := by
      simp only [App.collectAll, arrived, takeAll]
      rw [← arrived]
    rw [this, arrived]
    exact .nothing arrived
  · have := take_of_pending (a := {a with workers := {a.workers with arrived := []}}) pending
    simp only [App.collectAll, arrived, takeAll, this]
    exact .applied arrived pending

theorem OneInFlight.collectNext {a : App σ} (h : OneInFlight a) :
    Collecting a (a.workers.arrived.take 1) (a.collectNext.1.toNat, a.collectNext.2) := by
  obtain arrived | ⟨c, arrived, -, pending⟩ := h.arrived_cases
  · simp only [App.collectNext, Workers.next?, arrived]
    exact .nothing arrived
  · have := take_of_pending (a := {a with workers := {a.workers with arrived := []}}) pending
    simp only [App.collectNext, Workers.next?, arrived, this]
    exact .applied arrived pending

theorem Collecting.oneInFlight {a : App σ} {cs : List Completion} {r : Nat × App σ}
    (c : Collecting a cs r) (h : OneInFlight a) : OneInFlight r.2 := by
  cases c with
  | nothing => exact h
  | @applied c arrived pending =>
    obtain none | ⟨d, hd, in_hand, -⟩ := h.arrived_cases
    · simp [arrived] at none
    · have nothing_in_hand : {a.workers with arrived := []}.inHand = [] := in_hand
      cases c.outcome <;> simp [OneInFlight, Workers.outstanding, nothing_in_hand, request,
        RequestState.ofOutcome, RequestState.pending?]

/-! ### Every step

What is out never leaves the pending request's side. -/

theorem OneInFlight.submit {a : App σ} (h : OneInFlight a) (form : FormName) :
    OneInFlight (a.submit form).2 := by
  have := attempt a form
  generalize a.submit form = r at this
  cases this with
  | pending => exact h
  | unseeded => exact h
  | invalid => exact h
  | issued free => exact Workers.outstanding_assign (h.outstanding_eq_nil free) _

/-- What only moves about what is out leaves the pending request out, and nothing else. -/
theorem OneInFlight.perm {a : App σ} (h : OneInFlight a) {workers : Workers}
    (perm : workers.outstanding.Perm a.workers.outstanding) :
    OneInFlight {a with workers} := by
  show workers.outstanding = a.request.pending?.toList
  rw [show a.workers.outstanding = _ from h] at perm
  cases hp : a.request.pending? with
  | none =>
    rw [hp] at perm
    exact perm.eq_nil
  | some id =>
    rw [hp] at perm
    exact perm.eq_singleton

theorem OneInFlight.step [Sink σ] {a : App σ} (h : OneInFlight a) (e : Event) :
    OneInFlight (a.step e) := by
  have := happens a e
  generalize a.step e = b at this
  generalize a.act e = act at this
  cases this with
  | submit form => exact h.submit form
  | edit => exact h.congr (slot_edit _ _) (workers_edit _ _)
  | move => exact h.congr (slot_move _ _) (workers_move _ _)
  | call id => exact h.perm (a.workers.perm_outstanding_call id)
  | finish id outcome =>
    have called := a.workers.perm_outstanding_call id
    exact h.perm (((a.workers.call id).perm_outstanding_answer id outcome).trans called)
  | collectAll => exact h.collectAll.oneInFlight h
  | collectNext => exact h.collectNext.oneInFlight h
  | aside same => exact h.congr same.slot same.workers

theorem OneInFlight.run [Sink σ] {a : App σ} (h : OneInFlight a) (history : List Event) :
    OneInFlight (a.run history) := by
  induction history generalizing a with
  | nil => exact h
  | cons e rest ih => exact ih (h.step e)

/-- What each event preserves while the pending request is out, a whole history preserves. -/
theorem OneInFlight.invariant [Sink σ] {P : App σ → Prop} {a : App σ} (h : OneInFlight a)
    (step : ∀ {b : App σ}, OneInFlight b → P b → ∀ e, P (b.step e)) (first : P a)
    (history : List Event) : P (a.run history) := by
  induction history generalizing a with
  | nil => exact first
  | cons e rest ih => exact ih (h.step e) (step h first e)

theorem oneInFlight_new (sink : σ) (starts : Starts) : OneInFlight (App.new sink starts) := rfl

end App

end ProblemVisualizer
