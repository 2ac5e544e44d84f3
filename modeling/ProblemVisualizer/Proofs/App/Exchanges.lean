import ProblemVisualizer.Export.Recorder
import ProblemVisualizer.Proofs.App.Outstanding

/-! Requests in the background and on the spot.

There are two ways to carry a request out. `Slot.submit` does it on the spot: it
admits the request, calls the service and takes the answer. The client does it in
the background: it admits the request, a worker calls the service, and the outcome
is collected later, in one of two ways. `both_ways` says that these come to the
same. Over any list of exchanges, with the same edits before each submission and
the same service to answer it, both give out the same numbers, go through the same
states, leave the same visual language with its cursor, and put the same requests
to the service.

Each way is first worked out by itself, for one exchange. Between exchanges the two
are level (`Level`), and an exchange leaves them so. -/
namespace ProblemVisualizer

open Form (DescriptionForm Field FormName ProblemForm ValidationError)
open Generation (Request)
open Session (Completion Observer Outcome RequestId RequestState Slot Ticket Transition Workers)
open Text (EditBuffer)

/-! ### Exchanges -/

/-- A change to a field, of its text or its cursor. -/
structure FieldEdit where
  field : Field
  change : EditBuffer → EditBuffer

/-- Edits of the forms, a submission, and the service that answers it. -/
structure Exchange where
  edits : List FieldEdit
  form : FormName
  service : Request → Outcome
  /-- How the client collects the outcome: whether it waits for it, or takes all that arrived. -/
  waits : Bool

/-- The two forms by themselves. -/
structure Forms where
  problem : ProblemForm := {}
  description : DescriptionForm := {}

namespace Forms

def edit (f : Forms) (e : FieldEdit) : Forms :=
  match e.field with
  | .problem => {f with problem := {f.problem with problem := e.change f.problem.problem}}
  | .formula => {f with problem := {f.problem with formula := e.change f.problem.formula}}
  | .description =>
    {f with description := {f.description with buffer := e.change f.description.buffer}}

def validate (f : Forms) : FormName → Except ValidationError Request
  | .problem => f.problem.validate
  | .description => f.description.validate

/-- The visual language that a state brings, if it brings any, shows in its form. -/
def follow (f : Forms) (state : RequestState) : Forms :=
  {f with description := (Session.seedFrom state f.description).2}

end Forms

/-! ### On the spot -/

/-- What the service is called with when a request is submitted on the spot: the request on the
ticket, if there is a ticket. -/
def Session.Slot.called (s : Slot) (request : Request) : List Request :=
  match s.begin request ([] : List Transition) with
  | .ok (ticket, _) => [ticket.request]
  | .error _ => []

/-- Forms and a slot without a client, and what has come of them so far. -/
structure Direct where
  forms : Forms := {}
  slot : Slot := {}
  /-- The numbers given out. -/
  ids : List RequestId := []
  log : List Transition := []
  /-- The requests that the service has received. -/
  received : List Request := []

namespace Direct

def edit (d : Direct) (edits : List FieldEdit) : Direct :=
  {d with forms := edits.foldl Forms.edit d.forms}

/-- Checks the form and submits its request, watched by the log and by the description form.
Nothing comes of it if the check fails or the slot is taken. -/
def carry (d : Direct) (x : Exchange) : Option Direct :=
  match d.forms.validate x.form with
  | .error _ => none
  | .ok request =>
    match d.slot.submit request x.service (d.log, d.forms.description) with
    | .error _ => none
    | .ok (id, slot, log, description) => some {
        forms := {d.forms with description}
        slot, log
        ids := d.ids ++ [id]
        received := d.received ++ d.slot.called request }

def run (d : Direct) : List Exchange → Option Direct
  | [] => some d
  | x :: rest => ((d.edit x.edits).carry x).bind fun d => run d rest

end Direct

/-! ### In the background -/

/-- Every worker gets done, with what the service answers to its request. -/
def Session.Workers.serve (w : Workers) (service : Request → Outcome) : Workers :=
  w.inHand.foldl (fun w t => w.finish t.id (service t.request)) w

/-- The change that a look before and a look after can tell of. -/
def Session.changes (before after : RequestState) : List Transition :=
  if before = after then [] else [⟨before, after⟩]

variable {σ : Type}

namespace App

def forms (a : App σ) : Forms := ⟨a.problem, a.description⟩

/-- Gives a field the focus and edits it. -/
def editField (a : App σ) (e : FieldEdit) : App σ := {a with focus := e.field}.edit e.change

/-- Collects outcomes, in one of the two ways. -/
def collect (a : App σ) (waits : Bool) : App σ :=
  if waits then a.collectNext.2 else a.collectAll.2

end App

/-- A client, and what has been seen of it so far from the outside. -/
structure Seen (σ : Type) where
  app : App σ
  /-- The numbers under which accepted submissions were pending. -/
  ids : List RequestId := []
  log : List Transition := []

namespace Seen

def new (sink : σ) : Seen σ := ⟨App.new sink, [], []⟩

/-- A call to the client, with a look at its state before and after. -/
def call (w : Seen σ) (after : App σ) : Seen σ :=
  {w with app := after, log := w.log ++ Session.changes w.app.request after.request}

def edit (w : Seen σ) (edits : List FieldEdit) : Seen σ :=
  edits.foldl (fun w e => w.call (w.app.editField e)) w

def submit (w : Seen σ) (form : FormName) : Seen σ :=
  let (accepted, after) := w.app.submit form
  let seen := w.call after
  if accepted then {seen with ids := w.ids ++ after.request.pending?.toList} else seen

def serve (w : Seen σ) (service : Request → Outcome) : Seen σ :=
  {w with app := {w.app with workers := w.app.workers.serve service}}

/-- Submits the form, has the worker call the service, and collects the outcome. -/
def carry (w : Seen σ) (x : Exchange) : Seen σ :=
  let w := (w.submit x.form).serve x.service
  w.call (w.app.collect x.waits)

def run (w : Seen σ) : List Exchange → Seen σ
  | [] => w
  | x :: rest => run ((w.edit x.edits).carry x) rest

/-- The client accepts every submission. -/
def Accepted (w : Seen σ) : List Exchange → Prop
  | [] => True
  | x :: rest =>
    ((w.edit x.edits).app.submit x.form).1 = true ∧ Accepted ((w.edit x.edits).carry x) rest

end Seen

/-! ### One request on the spot -/

namespace Session

theorem Slot.submit_of_pending {ω : Type} [Observer ω] {s : Slot} {id : RequestId}
    (pending : s.state = .pending id) (request : Request) (service : Request → Outcome) (watch : ω) :
    s.submit request service watch = .error ⟨id⟩ := by
  simp only [submit, begin_of_pending pending]

/-- A free slot gives a ticket, and takes the answer to the request on it. -/
theorem Slot.submit_of_free {ω : Type} [Observer ω] {s : Slot} (free : s.isPending = false)
    (request : Request) (service : Request → Outcome) (watch : ω) :
    s.submit request service watch =
      .ok (s.issued + 1, ⟨.ofOutcome (service request), s.issued + 1⟩,
        Observer.observe ⟨.pending (s.issued + 1), .ofOutcome (service request)⟩
          (Observer.observe ⟨s.state, .pending (s.issued + 1)⟩ watch)) := by
  simp only [submit, begin_of_free free]
  rw [complete_of_pending rfl]

theorem Slot.called_of_free {s : Slot} (free : s.isPending = false) (request : Request) :
    s.called request = [request] := by
  simp only [called, begin_of_free free]

theorem observe_pair {α β : Type} [Observer α] [Observer β] (t : Transition) (a : α) (b : β) :
    Observer.observe t (a, b) = (Observer.observe t a, Observer.observe t b) := rfl

theorem observe_log (t : Transition) (log : List Transition) :
    Observer.observe t log = log ++ [t] := rfl

end Session

/-- A request that is carried out on the spot. -/
theorem Direct.carry_of_free {d : Direct} (free : d.slot.isPending = false) {x : Exchange}
    {request : Request} (valid : d.forms.validate x.form = .ok request) :
    let id := d.slot.issued + 1
    let state := RequestState.ofOutcome (x.service request)
    d.carry x = some {
      forms := d.forms.follow state
      slot := ⟨state, id⟩
      ids := d.ids ++ [id]
      log := d.log ++ [⟨d.slot.state, .pending id⟩] ++ [⟨.pending id, state⟩]
      received := d.received ++ [request] } := by
  simp only [carry, valid, Slot.submit_of_free free, Slot.called_of_free free,
    Session.observe_pair, Session.observe_log, App.observe_pending, App.observe_ofOutcome]
  rfl

/-! ### One request in the background -/

namespace Session

/-- The one worker there is gets done, and its outcome waits. -/
theorem Workers.serve_assign {w : Workers} (none_out : w.outstanding = []) {ticket : Ticket}
    (starts : w.starts ticket.id = .ok ()) (service : Request → Outcome) :
    (w.assign ticket).serve service = {w with
      arrived := [⟨ticket.id, service ticket.request⟩]
      received := w.received ++ [ticket.request]} := by
  obtain ⟨ready, running, arrived⟩ := idle_of_outstanding none_out
  simp [assign_of_ok starts, serve, inHand, finish, call, answer, ready, running, arrived]

theorem changes_self (state : RequestState) : changes state state = [] := if_pos rfl

theorem changes_of_ne {before after : RequestState} (h : before ≠ after) :
    changes before after = [⟨before, after⟩] := if_neg h

end Session

/-- Both ways of collecting take the one outcome that there is. -/
theorem App.collect_eq {a : App σ} {c : Completion} (arrived : a.workers.arrived = [c])
    (pending : a.request = .pending c.id) (waits : Bool) :
    a.collect waits = {a with
      slot := {a.slot with state := .ofOutcome c.outcome}
      description := (Session.seedFrom (.ofOutcome c.outcome) a.description).2
      workers := {a.workers with arrived := []}} := by
  have taken := take_of_pending (a := {a with workers := {a.workers with arrived := []}}) pending
  cases waits with
  | false => simp [collect, collectAll, arrived, takeAll, taken]
  | true => simp [collect, collectNext, Workers.next?, arrived, taken]

namespace Seen

/-- A request has been issued: it is out under the next number, and the forms are as they were. -/
structure Issued (w : Seen σ) (request : Request) (after : Seen σ) : Prop where
  forms : after.app.forms = w.app.forms
  slot : after.app.slot = ⟨.pending (w.app.slot.issued + 1), w.app.slot.issued + 1⟩
  workers : after.app.workers = w.app.workers.assign ⟨w.app.slot.issued + 1, request⟩
  ids : after.ids = w.ids ++ [w.app.slot.issued + 1]
  log : after.log = w.log ++ [⟨w.app.request, .pending (w.app.slot.issued + 1)⟩]

/-- A submission is accepted only while nothing is pending, and then issues the form's request. -/
theorem issued_of_accepted {w : Seen σ} {form : FormName}
    (accepted : (w.app.submit form).1 = true) :
    ∃ request, w.app.forms.validate form = .ok request ∧ Issued w request (w.submit form) := by
  have what := App.attempt w.app form
  unfold Seen.submit
  generalize w.app.submit form = r at what accepted
  cases what with
  | pending => cases accepted
  | unseeded => cases accepted
  | invalid => cases accepted
  | @issued free _ request checked =>
    -- Nothing was pending, so the look after the call sees another state than the one before.
    have moved : w.app.request ≠ .pending (w.app.slot.issued + 1) := by
      intro pending
      have : w.app.request.isPending = false := free
      simp [pending] at this
    have valid : w.app.forms.validate form = .ok request := by
      rw [← checked]
      cases form <;> rfl
    exact ⟨request, valid, rfl, rfl, rfl, rfl, congrArg (w.log ++ ·) (Session.changes_of_ne moved)⟩

/-- A request has been carried out: its outcome is the state, and nothing is out. -/
structure Carried (w : Seen σ) (request : Request) (outcome : Outcome) (after : Seen σ) : Prop where
  forms : after.app.forms = w.app.forms.follow (.ofOutcome outcome)
  slot : after.app.slot = ⟨.ofOutcome outcome, w.app.slot.issued + 1⟩
  workers : after.app.workers =
    {w.app.workers with received := w.app.workers.received ++ [request]}
  ids : after.ids = w.ids ++ [w.app.slot.issued + 1]
  log : after.log = w.log ++ [⟨w.app.request, .pending (w.app.slot.issued + 1)⟩] ++
    [⟨.pending (w.app.slot.issued + 1), .ofOutcome outcome⟩]

theorem Issued.collect {w u : Seen σ} {request : Request} (h : Issued w request u)
    (none_out : w.app.workers.outstanding = []) (starts : w.app.workers.starts = .always)
    (service : Request → Outcome) (waits : Bool) :
    Carried w request (service request)
      ((u.serve service).call ((u.serve service).app.collect waits)) := by
  have served : (u.serve service).app.workers = {w.app.workers with
      arrived := [⟨w.app.slot.issued + 1, service request⟩]
      received := w.app.workers.received ++ [request]} := by
    show u.app.workers.serve service = _
    rw [h.workers, Workers.serve_assign none_out (by rw [starts]; rfl)]
  have pending : (u.serve service).app.request = .pending (w.app.slot.issued + 1) :=
    congrArg Slot.state h.slot
  have arrived : (u.serve service).app.workers.arrived =
      [⟨w.app.slot.issued + 1, service request⟩] := by rw [served]
  rw [App.collect_eq arrived pending]
  exact {
    forms := congrArg (Forms.follow · (.ofOutcome (service request))) h.forms
    slot := congrArg (fun slot : Slot => {slot with state := .ofOutcome (service request)}) h.slot
    workers := by
      show {(u.serve service).app.workers with arrived := []} = _
      rw [served, ← (Workers.idle_of_outstanding none_out).arrived]
    ids := h.ids
    log := by
      show u.log ++ Session.changes (u.serve service).app.request (.ofOutcome (service request)) = _
      rw [h.log, pending, Session.changes_of_ne (RequestState.ofOutcome_ne_pending _ _).symm] }

/-- A request that is carried out in the background. -/
theorem carried_of_accepted {w : Seen σ} (none_out : w.app.workers.outstanding = [])
    (starts : w.app.workers.starts = .always) {x : Exchange}
    (accepted : (w.app.submit x.form).1 = true) :
    ∃ request, w.app.forms.validate x.form = .ok request ∧
      Carried w request (x.service request) (w.carry x) := by
  obtain ⟨request, valid, issued⟩ := issued_of_accepted accepted
  exact ⟨request, valid, issued.collect none_out starts x.service x.waits⟩

end Seen

/-! ### Exchange by exchange -/

/-- The two ways are level: they have the same forms, the same slot and the same history, nothing is
out, and workers start. -/
structure Level (w : Seen σ) (d : Direct) : Prop where
  forms : w.app.forms = d.forms
  slot : w.app.slot = d.slot
  free : d.slot.isPending = false
  none_out : w.app.workers.outstanding = []
  starts : w.app.workers.starts = .always
  ids : w.ids = d.ids
  log : w.log = d.log
  received : w.app.workers.received = d.received

namespace Level

variable {w : Seen σ} {d : Direct}

theorem editField (h : Level w d) (e : FieldEdit) :
    Level (w.call (w.app.editField e)) {d with forms := d.forms.edit e} where
  forms := by
    rw [← h.forms]
    obtain ⟨field, change⟩ := e
    cases field <;> rfl
  slot := (App.slot_edit _ _).trans h.slot
  free := h.free
  none_out := (congrArg Workers.outstanding (App.workers_edit _ _)).trans h.none_out
  starts := (congrArg Workers.starts (App.workers_edit _ _)).trans h.starts
  ids := h.ids
  log := by
    have same : (w.app.editField e).request = w.app.request := congrArg Slot.state (App.slot_edit _ _)
    rw [Seen.call, same, Session.changes_self, List.append_nil, h.log]
  received := (congrArg Workers.received (App.workers_edit _ _)).trans h.received

theorem edit (h : Level w d) (edits : List FieldEdit) : Level (w.edit edits) (d.edit edits) := by
  induction edits generalizing w d with
  | nil => exact h
  | cons e rest ih => exact ih (h.editField e)

/-- What is accepted in the background goes through on the spot, with the same result. -/
theorem carry (h : Level w d) {x : Exchange} (accepted : (w.app.submit x.form).1 = true) :
    ∃ after, d.carry x = some after ∧ Level (w.carry x) after := by
  obtain ⟨request, valid, carried⟩ := Seen.carried_of_accepted h.none_out h.starts accepted
  rw [h.forms] at valid
  refine ⟨_, Direct.carry_of_free h.free valid, ?_⟩
  have state : w.app.request = d.slot.state := congrArg Slot.state h.slot
  exact {
    forms := by rw [carried.forms, h.forms]
    slot := by rw [carried.slot, h.slot]
    free := RequestState.isPending_ofOutcome _
    none_out := by
      rw [carried.workers]
      exact h.none_out
    starts := by
      rw [carried.workers]
      exact h.starts
    ids := by rw [carried.ids, h.ids, h.slot]
    log := by rw [carried.log, h.log, h.slot, state]
    received := by rw [carried.workers, h.received] }

theorem run (h : Level w d) {exchanges : List Exchange} (accepted : w.Accepted exchanges) :
    ∃ after, d.run exchanges = some after ∧ Level (w.run exchanges) after := by
  induction exchanges generalizing w d with
  | nil => exact ⟨d, rfl, h⟩
  | cons x rest ih =>
    obtain ⟨first, others⟩ := accepted
    obtain ⟨next, through, level⟩ := (h.edit x.edits).carry first
    obtain ⟨after, rest_through, last⟩ := ih level others
    exact ⟨after, by rw [Direct.run, through, Option.bind_some, rest_through], last⟩

end Level

namespace App

theorem level_new (sink : σ) : Level (Seen.new sink) {} :=
  ⟨rfl, rfl, rfl, rfl, rfl, rfl, rfl, rfl⟩

/-- **Both ways come to the same.** From the start of the client, on a system that starts every
worker, take any exchanges whose submissions it accepts, of either form, with any edits before them
and any answers, and collect each outcome in either way. On the spot they all go through as well, and the numbers, the transitions,
the state in the end, the description form with its text, cursor and seeding, and the requests
received are the same; no request is left pending.

Whoever watches, a submission on the spot is refused because another request is pending, or it does
not come back with its own request pending: the answer to the one request that the service is called
with comes under the number of the ticket, and is taken. -/
theorem both_ways (sink : σ) (exchanges : List Exchange)
    (accepted : (Seen.new sink).Accepted exchanges) :
    let seen := (Seen.new sink).run exchanges
    (∃ direct, ({} : Direct).run exchanges = some direct ∧
      seen.ids = direct.ids ∧
      seen.log = direct.log ∧
      seen.app.request = direct.slot.state ∧
      seen.app.description = direct.forms.description ∧
      seen.app.workers.received = direct.received ∧
      direct.slot.isPending = false) ∧
    ∀ (ω : Type) [Observer ω] (s : Slot) (request : Request) (service : Request → Outcome)
      (watch : ω),
      (∃ id, s.state = .pending id ∧ s.submit request service watch = .error ⟨id⟩) ∨
      ∃ ticket begun between after told, s.begin request watch = .ok (ticket, begun, between) ∧
        begun.complete ticket.id (service ticket.request) between = (true, after, told) ∧
        s.submit request service watch = .ok (ticket.id, after, told) ∧
        s.called request = [ticket.request] ∧
        after.isPending = false := by
  intro seen
  constructor
  · obtain ⟨direct, through, level⟩ := (level_new sink).run accepted
    exact ⟨direct, through, level.ids, level.log, congrArg Slot.state level.slot,
      congrArg Forms.description level.forms, level.received, level.free⟩
  · intro ω _ s request service watch
    rcases s.pending_or_free with ⟨id, pending⟩ | free
    · exact .inl ⟨id, pending, Slot.submit_of_pending pending request service watch⟩
    · exact .inr ⟨_, _, _, _, _, Slot.begin_of_free free request watch,
        Slot.complete_of_pending rfl (service request) _,
        Slot.submit_of_free free request service watch, Slot.called_of_free free request,
        RequestState.isPending_ofOutcome _⟩

section Three

open Export (Recorder)

/-- A problem that is answered, an edit of the answer that fails, and the same once more, which
brings the text that is there already. -/
def threeExchanges : List Exchange :=
  [⟨[⟨.problem, (·.apply (.insert 'p'))⟩], .problem, fun _ => .ok ⟨"V", .svg "F", .svg "I"⟩, true⟩,
   ⟨[⟨.description, (·.apply (.insert 'W'))⟩, ⟨.description, (·.apply .left)⟩], .description,
     fun _ => .error (.transport "no answer"), false⟩,
   ⟨[], .description, fun _ => .ok ⟨"VW", .svg "F", .svg "I"⟩, false⟩]

theorem accepted_threeExchanges :
    (Seen.new ({} : Recorder)).Accepted threeExchanges :=
  ⟨by decide +kernel, by decide +kernel, by decide +kernel, trivial⟩

/-- Three numbers, and the cursor stays where it was put. -/
theorem both_ways_threeExchanges :
    (Seen.new ({} : Recorder)).Accepted threeExchanges ∧
    ∃ direct, ({} : Direct).run threeExchanges = some direct ∧
      direct.ids = [1, 2, 3] ∧ direct.forms.description = ⟨⟨"VW", 1⟩, true⟩ ∧
      direct.received = [.initial "p" none, .resubmit "VW", .resubmit "VW"] := by
  refine ⟨accepted_threeExchanges, ?_⟩
  obtain ⟨direct, through, ids, -, -, description, received, -⟩ :=
    (both_ways ({} : Recorder) threeExchanges accepted_threeExchanges).1
  refine ⟨direct, through, ?_, ?_, ?_⟩
  · rw [← ids]
    decide +kernel
  · rw [← description]
    decide +kernel
  · rw [← received]
    decide +kernel

end Three

end App

end ProblemVisualizer
