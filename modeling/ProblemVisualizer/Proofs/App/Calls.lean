import ProblemVisualizer.Proofs.App.Outstanding

/-! Calls of the service.

All that an event does about calls is to issue one request or none (`Works`): it is
handed to a worker under the next number, and what has been sent before stays as it
is. So each number whose worker starts has one call of the service, and no other
number has (`Accounted`). -/
namespace ProblemVisualizer.App

open Export (Sink)
open Form (FormName)
open Generation (Request)
open Session (Completion Outcome RequestId Ticket Workers)

variable {σ : Type}

/-! ### One event -/

/-- The form that an event submits, if the submission is accepted. -/
def submitted? (a : App σ) (e : Event) : Option FormName :=
  match a.act e with
  | .submit form => if (a.submit form).1 then some form else none
  | _ => none

/-- What an event does about calls. An accepted submission hands the request of its form to a
worker, under the next number. Nothing else changes what is sent, though it may be received by then,
and nothing else gives a worker a ticket. -/
inductive Works (a b : App σ) : Option FormName → Prop where
  | others (issued : b.slot.issued = a.slot.issued) (starts : b.workers.starts = a.workers.starts)
    (sent : b.workers.sent = a.workers.sent)
    (received : a.workers.received <+: b.workers.received)
    (inHand : b.workers.inHand ⊆ a.workers.inHand) : Works a b none
  | assigned {form : FormName} {request : Request} (free : a.isPending = false)
    (seeded : form = .description → a.description.seeded = true)
    (checked : a.checked form = .ok request) (issued : b.slot.issued = a.slot.issued + 1)
    (workers : b.workers = a.workers.assign ⟨a.slot.issued + 1, request⟩) : Works a b (some form)

theorem Works.congr {a b : App σ} (issued : b.slot.issued = a.slot.issued)
    (workers : b.workers = a.workers) : Works a b none :=
  .others issued (by rw [workers]) (by rw [workers]) (workers ▸ List.prefix_refl _)
    (workers ▸ List.Subset.refl _)

theorem works_submit (a : App σ) (form : FormName) :
    Works a (a.submit form).2 (if (a.submit form).1 then some form else none) := by
  have := attempt a form
  generalize a.submit form = r at this
  cases this with
  | pending | unseeded | invalid => exact .congr rfl rfl
  | issued free seeded checked => exact .assigned free seeded checked rfl rfl

theorem OneInFlight.works_call {a : App σ} (h : OneInFlight a) (id : RequestId) :
    Works a {a with workers := a.workers.call id} none :=
  .others rfl (a.workers.starts_call id) (Workers.sent_call h.length_ready_le id)
    (a.workers.received_call_prefix id) (a.workers.perm_inHand_call id).subset

theorem OneInFlight.works_finish {a : App σ} (h : OneInFlight a) (id : RequestId)
    (outcome : Outcome) : Works a {a with workers := a.workers.finish id outcome} none := by
  cases h.works_call id with
  | others issued starts sent received inHand =>
    exact .others issued ((Workers.starts_answer ..).trans starts) ((Workers.sent_answer ..).trans sent)
      (received.trans (Workers.received_answer .. ▸ List.prefix_refl _))
      (List.Subset.trans (Workers.inHand_answer_subset ..) inHand)

theorem Collecting.works {a : App σ} {cs : List Completion} {r : Nat × App σ}
    (c : Collecting a cs r) : Works a r.2 none := by
  cases c with
  | nothing => exact .congr rfl rfl
  | applied => exact .others rfl rfl rfl (List.prefix_refl _) (List.Subset.refl _)

theorem OneInFlight.works [Sink σ] {a : App σ} (h : OneInFlight a) (e : Event) :
    Works a (a.step e) (a.submitted? e) := by
  have what := happens a e
  unfold submitted?
  generalize a.step e = b at what
  generalize a.act e = act at what
  cases what with
  | submit form => exact works_submit a form
  | edit => exact .congr (by rw [slot_edit]) (workers_edit _ _)
  | move => exact .congr (by rw [slot_move]) (workers_move _ _)
  | call id => exact h.works_call id
  | finish id outcome => exact h.works_finish id outcome
  | collectAll => exact h.collectAll.works
  | collectNext => exact h.collectNext.works
  | aside same => exact .congr (by rw [same.slot]) same.workers

theorem Works.starts {a b : App σ} {form : Option FormName} (w : Works a b form) :
    b.workers.starts = a.workers.starts := by
  cases w with
  | others _ starts => exact starts
  | assigned _ _ _ _ workers => rw [workers, Workers.starts_assign]

/-! ### The account of the service -/

/-- Of the numbers that have been given out, each whose worker starts has its call, and no other
has. -/
def Accounted (a : App σ) : Prop :=
  a.workers.sent.length =
    (List.range' 1 a.slot.issued).countP fun id => (a.workers.starts id).isOk

theorem Works.accounted {a b : App σ} {form : Option FormName} (w : Works a b form)
    (before : a.Accounted) : b.Accounted := by
  unfold Accounted at *
  rw [w.starts]
  cases w with
  | others issued _ sent => rw [issued, sent, before]
  | assigned _ _ _ issued workers =>
    rw [workers, issued, Workers.sent_assign, List.length_append, before, List.range'_1_concat,
      List.countP_append, List.countP_singleton, Nat.add_comm 1, apply_ite List.length]
    rfl

theorem OneInFlight.starts_run [Sink σ] {a : App σ} (h : OneInFlight a) (history : List Event) :
    (a.run history).workers.starts = a.workers.starts :=
  h.invariant (P := fun b => b.workers.starts = a.workers.starts)
    (fun h same e => (h.works e).starts.trans same) rfl history

/-- A request whose worker does not start fails, and the service hears nothing of it. -/
theorem request_of_not_started [Sink σ] {a : App σ} (h : OneInFlight a) {form : FormName}
    (accepted : (a.submit form).1 = true) {reason : String}
    (fails : a.workers.starts (a.slot.issued + 1) = .error reason) :
    let b := (a.submit form).2
    (b.step .collectNext).request = .failed ("could not start request: " ++ reason) ∧
      b.workers.sent = a.workers.sent := by
  have := attempt a form
  generalize a.submit form = r at this accepted
  cases this with
  | pending | unseeded | invalid => cases accepted
  | @issued free seeded request checked =>
    have none_out := (Workers.idle_of_outstanding (h.outstanding_eq_nil free)).arrived
    have fails : a.workers.starts (Ticket.mk (a.slot.issued + 1) request).id = .error reason := fails
    have refused := Workers.assign_of_error fails
    rw [none_out, List.nil_append] at refused
    constructor
    · simp only [step, collectNext, refused, Workers.next?]
      rw [take_of_pending rfl]
      rfl
    · simp only [refused]
      rfl

end ProblemVisualizer.App
