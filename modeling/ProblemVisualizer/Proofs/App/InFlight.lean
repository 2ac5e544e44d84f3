import ProblemVisualizer.Export.Recorder
import ProblemVisualizer.Proofs.App.Calls

/-! One request in flight.

`one_in_flight` says that, whatever happens and in whatever order, the client's own
account of what is out is right. So no outcome is ever dropped or applied twice, one
round of collecting applies at most one, a submission that passes its check is never
turned away, and the service is called once for every submission that was accepted
and whose worker the system started.

The books balance (`Balance`): each event accounts for what it takes, applies and
issues, and so does a history for the sums (`tally`). -/
namespace ProblemVisualizer.App

open Export (Sink)
open Form (FormName)
open Session (Completion Outcome RequestId RequestState Starts Workers)

variable {σ : Type}

/-! ### The books -/

/-- How many submissions an event gets accepted. -/
def accepted (a : App σ) (e : Event) : Nat :=
  match a.act e with
  | .submit form => (a.submit form).1.toNat
  | _ => 0

/-- How many of the outcomes that have arrived an event takes. -/
def taken (a : App σ) (e : Event) : Nat := (a.collected e).length

/-- How many outcomes an event applies. -/
def applied (a : App σ) (e : Event) : Nat :=
  match a.act e with
  | .collectAll => a.collectAll.1
  | .collectNext => a.collectNext.1.toNat
  | _ => 0

/-- What an event took, applied and got accepted accounts for what became of the request. -/
structure Balance (a b : App σ) (accepted taken applied : Nat) : Prop where
  taken : taken = applied
  pending : accepted + a.isPending.toNat = applied + b.isPending.toNat
  issued : b.slot.issued = a.slot.issued + accepted

theorem Balance.congr {a b : App σ} (slot : b.slot = a.slot) : Balance a b 0 0 0 :=
  ⟨rfl, by rw [isPending, isPending, slot], by rw [slot]; rfl⟩

theorem Balance.trans {a b c : App σ} {accepted taken applied accepted' taken' applied' : Nat}
    (first : Balance a b accepted taken applied) (next : Balance b c accepted' taken' applied') :
    Balance a c (accepted + accepted') (taken + taken') (applied + applied') where
  taken := by rw [first.taken, next.taken]
  pending := by
    have := first.pending
    have := next.pending
    omega
  issued := by rw [next.issued, first.issued, Nat.add_assoc]

theorem balance_submit (a : App σ) (form : FormName) :
    Balance a (a.submit form).2 (a.submit form).1.toNat 0 0 := by
  have := attempt a form
  generalize a.submit form = r at this
  cases this with
  | pending => exact .congr rfl
  | unseeded => exact .congr rfl
  | invalid => exact .congr rfl
  | issued free =>
    refine ⟨rfl, ?_, rfl⟩
    rw [free]
    rfl

theorem Collecting.balance {a : App σ} {cs : List Completion} {r : Nat × App σ}
    (c : Collecting a cs r) : Balance a r.2 0 cs.length r.1 := by
  cases c with
  | nothing => exact ⟨rfl, rfl, rfl⟩
  | @applied c arrived pending =>
    have before : a.isPending = true := by
      show a.request.isPending = true
      rw [pending]
      rfl
    have after : (RequestState.ofOutcome c.outcome).isPending = false :=
      RequestState.isPending_ofOutcome _
    refine ⟨rfl, ?_, rfl⟩
    show 0 + a.isPending.toNat = 1 + (RequestState.ofOutcome c.outcome).isPending.toNat
    rw [before, after]
    rfl

theorem OneInFlight.balance [Sink σ] {a : App σ} (h : OneInFlight a) (e : Event) :
    Balance a (a.step e) (a.accepted e) (a.taken e) (a.applied e) := by
  have := happens a e
  unfold accepted taken collected applied
  generalize a.step e = b at this
  generalize a.act e = act at this
  cases this with
  | submit form => exact balance_submit a form
  | edit => exact .congr (slot_edit _ _)
  | move => exact .congr (slot_move _ _)
  | call | finish => exact .congr rfl
  | collectAll => exact h.collectAll.balance
  | collectNext => exact h.collectNext.balance
  | aside same => exact .congr same.slot

/-! ### Whole histories -/

/-- Adds up what each event of a history counts for. -/
def tally [Sink σ] (count : App σ → Event → Nat) (a : App σ) : List Event → Nat
  | [] => 0
  | e :: rest => count a e + tally count (a.step e) rest

theorem OneInFlight.balance_run [Sink σ] {a : App σ} (h : OneInFlight a) (history : List Event) :
    Balance a (a.run history) (a.tally accepted history) (a.tally taken history)
      (a.tally applied history) := by
  induction history generalizing a with
  | nil => exact .congr rfl
  | cons e rest ih => exact (h.balance e).trans (ih (h.step e))

/-! ### Numbers -/

/-- The pending request has the last number given out. -/
def Numbered (a : App σ) : Prop := ∀ id, a.request = .pending id → id = a.slot.issued

theorem Numbered.congr {a b : App σ} (h : a.Numbered) (slot : b.slot = a.slot) : b.Numbered := by
  unfold Numbered request
  rw [slot]
  exact h

theorem Numbered.submit {a : App σ} (h : a.Numbered) (form : FormName) :
    (a.submit form).2.Numbered := by
  have := attempt a form
  generalize a.submit form = r at this
  cases this with
  | pending => exact h
  | unseeded => exact h.congr rfl
  | invalid => exact h.congr rfl
  | issued =>
    intro id pending
    exact (RequestState.pending.inj pending).symm

theorem Collecting.numbered {a : App σ} {cs : List Completion} {r : Nat × App σ}
    (c : Collecting a cs r) (h : a.Numbered) : r.2.Numbered := by
  cases c with
  | nothing => exact h
  | applied =>
    intro id pending
    exact absurd pending (RequestState.ofOutcome_ne_pending _ _)

/-- A round of workers at work and outcomes being collected: what one collection of everything is,
when calls begin and end in the middle of it. -/
def Round (round : List Event) : Prop :=
  ∀ e ∈ round, (∃ id, e = .call id) ∨ (∃ id outcome, e = .finish id outcome) ∨
    e = .collectAll ∨ e = .collectNext

theorem tally_accepted_of_round [Sink σ] (a : App σ) {round : List Event} (h : Round round) :
    a.tally accepted round = 0 := by
  induction round generalizing a with
  | nil => rfl
  | cons e rest ih =>
    have : a.accepted e = 0 := by
      obtain ⟨id, rfl⟩ | ⟨id, outcome, rfl⟩ | rfl | rfl := h e (List.mem_cons_self ..) <;> rfl
    rw [tally, this, ih _ fun e he => h e (List.mem_cons_of_mem _ he)]

theorem reason_of_refused {a : App σ} {form : FormName} (refused : (a.submit form).1 = false) :
    (a.isPending = true ∧ (a.submit form).2 = a) ∨
      (form = .description ∧ a.description.seeded = false) ∨
      ∃ error, a.checked form = .error error := by
  have := attempt a form
  generalize a.submit form = r at this refused
  cases this with
  | pending busy => exact .inl ⟨busy, rfl⟩
  | unseeded _ description closed => exact .inr (.inl ⟨description, closed⟩)
  | invalid _ _ checked => exact .inr (.inr ⟨_, checked⟩)
  | issued => cases refused

/-- Once its worker is done, the next collection takes the pending request out of that state. -/
theorem OneInFlight.not_isPending [Sink σ] {a : App σ} (h : OneInFlight a) {id : RequestId}
    (pending : a.request = .pending id) (outcome : Outcome) :
    ((a.step (.finish id outcome)).step .collectNext).isPending = false := by
  have there : (a.step (.finish id outcome)).workers.arrived ≠ [] :=
    Workers.arrived_finish_ne_nil (h.outstanding_eq pending) outcome
  obtain ⟨taken, balanced, -⟩ := (h.step (.finish id outcome)).collectNext.balance
  dsimp only at taken balanced
  rw [List.length_take] at taken
  have := List.length_pos_iff.mpr there
  have := Bool.toNat_le (a.step (.finish id outcome)).isPending
  refine Bool.toNat_eq_zero.mp ?_
  show (a.step (.finish id outcome)).collectNext.2.isPending.toNat = 0
  omega

/-- The calls that a history leads to. Each number whose worker the system starts has one call of the
service, and no other number has. -/
structure CallsOnce [Sink σ] (start : App σ) (history : List Event) : Prop where
  /-- The calls that have been made, and the one that a worker is about to make. -/
  count : (start.run history).workers.sent.length =
    (List.range' 1 (start.run history).slot.issued).countP fun id => (start.workers.starts id).isOk
  /-- On a system that starts every worker these are as many as the accepted submissions. -/
  every : (∀ id, start.workers.starts id = .ok ()) →
    (start.run history).workers.sent.length = start.tally accepted history
  /-- All of them have been made when no request is pending. -/
  free : (start.run history).isPending = false →
    (start.run history).workers.received = (start.run history).workers.sent
  /-- While one is, they have been made once its worker has called. -/
  pending : ∀ id, (start.run history).request = .pending id →
    ((start.run history).step (.call id)).workers.received = (start.run history).workers.sent
  /-- A request whose worker does not start fails, and the service hears nothing of it. -/
  refused : ∀ form reason, ((start.run history).submit form).1 = true →
    start.workers.starts ((start.run history).slot.issued + 1) = .error reason →
    let b := ((start.run history).submit form).2
    (b.step .collectNext).request = .failed ("could not start request: " ++ reason) ∧
      b.workers.sent = (start.run history).workers.sent

theorem callsOnce_new [Sink σ] (sink : σ) (starts : Starts) (history : List Event) :
    CallsOnce (App.new sink starts) history := by
  have fresh := oneInFlight_new sink starts
  have h := fresh.run history
  have same := fresh.starts_run history
  have issued := (fresh.balance_run history).issued.trans (Nat.zero_add _)
  have count := fresh.invariant (P := Accounted)
    (fun h before e => (h.works e).accounted before) rfl history
  unfold Accounted at count
  rw [same] at count
  exact {
    count
    every := fun starting => by
      rw [count, ← issued, List.countP_eq_length.mpr fun id _ => by rw [starting]; rfl,
        List.length_range']
    free := h.received_eq_sent
    pending := fun id pending => Workers.received_call (h.outstanding_eq pending)
    refused := fun form reason accepted fails => request_of_not_started h accepted (same ▸ fails) }

/-- **One request in flight.** On any system and after any history: if a request is pending, then it
is the one that is out, and if none is pending, none is out. Every outcome that is taken is applied,
by either way of collecting, and a round applies at most one even if calls begin and end in the
middle of it; once its worker is done, the next collection takes the pending request out of the
pending state. A submission is refused only because a request is pending, and then leaves everything
as it is, because nothing has been seeded or because the form fails its check, never by the slot.
Each submission that was accepted was given a number and, if its worker starts, one call of the
service, and its outcome has been applied once, unless it is the pending one. -/
theorem one_in_flight [Sink σ] (sink : σ) (starts : Starts) (history : List Event) :
    let start := App.new sink starts
    let a := start.run history
    (∀ id, a.request = .pending id ↔ a.workers.outstanding = [id]) ∧
    (a.isPending = false ↔ a.workers.outstanding = []) ∧
    (a.collectAll.1 = a.workers.arrived.length ∧ a.collectAll.1 ≤ 1) ∧
    a.collectNext.1 = !a.workers.arrived.isEmpty ∧
    (∀ round, Round round → a.tally applied round ≤ 1) ∧
    (∀ id outcome, a.request = .pending id →
      ((a.step (.finish id outcome)).step .collectNext).isPending = false) ∧
    (∀ form, (a.submit form).1 = false → (a.isPending = true ∧ (a.submit form).2 = a) ∨
      (form = .description ∧ a.description.seeded = false) ∨ ∃ error, a.checked form = .error error) ∧
    start.tally taken history = start.tally applied history ∧
    start.tally accepted history = start.tally applied history + a.isPending.toNat ∧
    a.slot.issued = start.tally accepted history ∧
    CallsOnce start history := by
  intro start a
  have fresh := oneInFlight_new sink starts
  have h : OneInFlight a := fresh.run history
  have books := fresh.balance_run history
  refine ⟨fun id => ?_, ?_, ?_, ?_, fun round hround => ?_, fun id outcome pending => ?_,
    fun form refused => ?_, books.taken, ?_, ?_, callsOnce_new sink starts history⟩
  · rw [h, ← RequestState.pending?_eq_some_iff]
    cases a.request.pending? <;> simp
  · rw [h, Option.toList_eq_nil_iff, RequestState.pending?_eq_none_iff]
    rfl
  · have taken := h.collectAll.balance.taken
    have := h.collectAll.balance.pending
    have := Bool.toNat_le a.isPending
    exact ⟨taken.symm, by omega⟩
  · have := h.collectNext.balance.taken
    cases hc : a.collectNext.1 <;> cases ha : a.workers.arrived <;> simp_all
  · have := (h.balance_run round).pending
    rw [tally_accepted_of_round a hround] at this
    have := Bool.toNat_le a.isPending
    omega
  · exact h.not_isPending pending outcome
  · exact reason_of_refused refused
  · exact books.pending
  · exact books.issued.trans (Nat.zero_add _)

section Twice

open Export (Recorder)

/-- A system that does not start the first worker. -/
def startsLate : Starts := fun id => if id = 1 then .error "no thread to spare" else .ok ()

/-- A problem is submitted, fails, and is submitted once more with a letter added; another letter is
typed before the worker calls. -/
def twice : List Event :=
  [.edit (.insert 'p'), .submit .problem, .finish 1 (.error (.transport "no answer")), .collectNext,
   .edit (.insert 'q'), .submit .problem, .edit (.insert 'r'), .call 2]

/-- Two submissions are accepted, and each has its call, or the second one alone. -/
theorem one_in_flight_twice :
    let start := App.new ({} : Recorder)
    let late := App.new ({} : Recorder) startsLate
    (∀ id, Starts.always id = .ok ()) ∧
    (start.run twice).workers.sent.length = 2 ∧ start.tally accepted twice = 2 ∧
    (late.run twice).workers.sent.length = 1 ∧ late.tally accepted twice = 2 := by
  intro start late
  obtain ⟨-, -, -, -, -, -, -, -, -, -, calls⟩ := one_in_flight ({} : Recorder) .always twice
  obtain ⟨-, -, -, -, -, -, -, -, -, issued, fewer⟩ :=
    one_in_flight ({} : Recorder) startsLate twice
  have first : start.tally accepted twice = 2 := by decide
  have again : late.tally accepted twice = 2 := by decide
  refine ⟨fun _ => rfl, (calls.every fun _ => rfl).trans first, first, ?_, again⟩
  rw [fewer.count, issued, again]
  decide

end Twice

end ProblemVisualizer.App
