import ProblemVisualizer.Proofs.App.InFlight
import ProblemVisualizer.Proofs.App.Mirror
import ProblemVisualizer.Proofs.Generation.Interpretation
import ProblemVisualizer.Proofs.Json.Objects

/-! What the service receives.

A request is a picture of its form, taken when the form is submitted. `requests`
says that the service receives just these pictures: one for each submission that
was accepted and whose worker started, in order, with the texts as they stood and
the formula only if it told something. What is typed afterwards, before the worker
calls, while the request is pending or later, changes nothing of it, and visual
language goes back only after a success has brought some. -/
namespace ProblemVisualizer.App

open Export (Sink)
open Form (FormName ProblemForm DescriptionForm)
open Generation (Request Telling)
open Generation.Reply (telling_iff)
open Json (HasKey)
open Session (Completion RequestId Starts Ticket Workers)

variable {σ : Type}

/-! ### The picture of a form -/

/-- The request says what the form says: its texts as they stand, white space at the ends
included, and of the formula only one that tells something. -/
inductive Snapshot (a : App σ) : FormName → Request → Prop where
  | problem {formula : Option String} (telling : Telling a.problem.problem.value)
    (given : ∀ text, formula = some text ↔ text = a.problem.formula.value ∧ Telling text) :
    Snapshot a .problem (.initial a.problem.problem.value formula)
  | description (telling : Telling a.description.buffer.value) :
    Snapshot a .description (.resubmit a.description.buffer.value)

theorem telling_of_not_isBlank {b : Text.EditBuffer} (h : ¬ b.isBlank = true) : Telling b.value :=
  (telling_iff b.value).mpr (Bool.not_eq_true _ ▸ h)

/-- A form that passes its check is pictured in the request. -/
theorem snapshot_of_checked {a : App σ} {form : FormName} {request : Request}
    (h : a.checked form = .ok request) : a.Snapshot form request := by
  cases form with
  | problem =>
    simp only [checked, ProblemForm.validate] at h
    split at h
    · cases h
    · rename_i telling
      cases h
      refine .problem (telling_of_not_isBlank telling) fun text => ?_
      by_cases blank : a.problem.formula.isBlank = true
      · have untold : ¬ Telling a.problem.formula.value := by
          rw [telling_iff]
          exact Bool.not_eq_false _ ▸ blank
        rw [if_pos blank]
        exact ⟨nofun, fun h => absurd (h.1 ▸ h.2) untold⟩
      · rw [if_neg blank, Option.some.injEq]
        exact ⟨fun h => ⟨h.symm, h ▸ telling_of_not_isBlank blank⟩, fun h => h.1.symm⟩
  | description =>
    simp only [checked, DescriptionForm.validate] at h
    split at h
    · cases h
    · cases h
      exact .description (telling_of_not_isBlank ‹_›)

theorem hasKey_body (request : Request) (name : String) :
    HasKey request.body name ↔ name ∈ request.members.map Prod.fst := by
  rw [Request.body, (Json.objectText_writeObject request.members).hasKey_iff, Json.texts,
    List.map_map]
  rfl

/-- The formula is a key of what is sent exactly when the problem form has one that tells
something. -/
theorem Snapshot.hasKey_formula {a : App σ} {form : FormName} {request : Request}
    (s : a.Snapshot form request) :
    HasKey request.body "formula" ↔ form = .problem ∧ Telling a.problem.formula.value := by
  rw [hasKey_body]
  cases s with
  | @problem formula _ given =>
    cases formula with
    | none =>
      have untold : ¬ Telling a.problem.formula.value := fun telling =>
        Option.some_ne_none _ ((given _).mpr ⟨rfl, telling⟩).symm
      simp [Request.members, untold]
    | some text =>
      obtain ⟨rfl, telling⟩ := (given text).mp rfl
      simp [Request.members, telling]
  | description => simp [Request.members]

/-! ### Submissions -/

/-- An accepted submission: what had happened before it, and the form. -/
structure Submission where
  before : List Event
  form : FormName

/-- The accepted submissions among the events that follow on others. -/
def submissionsAfter [Sink σ] (start : App σ) (before : List Event) : List Event → List Submission
  | [] => []
  | e :: rest => ((start.run before).submitted? e).toList.map (⟨before, ·⟩)
      ++ submissionsAfter start (before ++ [e]) rest

/-- The accepted submissions of a history, the first one first. -/
def submissions [Sink σ] (start : App σ) (history : List Event) : List Submission :=
  start.submissionsAfter [] history

/-- The system starts the worker for a submission, under the number that the submission gets. -/
def isStarted [Sink σ] (start : App σ) (s : Submission) : Bool :=
  (start.workers.starts ((start.run s.before).slot.issued + 1)).isOk

/-- A success had been applied at some point of the history. -/
def Succeeded [Sink σ] (start : App σ) (history : List Event) : Prop :=
  ∃ earlier e between result, history = earlier ++ e :: between ∧
    (start.run earlier).success? e = some result

/-- What is sent for a submission. -/
structure Sends [Sink σ] (start : App σ) (s : Submission) (request : Request) : Prop where
  snapshot : (start.run s.before).Snapshot s.form request
  formula : HasKey request.body "formula" ↔
    s.form = .problem ∧ Telling (start.run s.before).problem.formula.value
  opened : s.form = .description → start.Succeeded s.before

/-! ### One event -/

/-- What workers have in hand will answer the last request sent. -/
def HoldsLast (w : Workers) : Prop := ∀ t ∈ w.inHand, w.sent.getLast? = some t.request

theorem holdsLast_assign {w : Workers} (none_out : w.outstanding = []) (ticket : Ticket) :
    HoldsLast (w.assign ticket) := by
  obtain ⟨ready, running, -⟩ := Workers.idle_of_outstanding none_out
  intro t ht
  cases starts : w.starts ticket.id with
  | ok =>
    rw [Workers.assign_of_ok starts] at ht ⊢
    obtain rfl : t = ticket := by simpa [Workers.inHand, ready, running] using ht
    simp [Workers.sent]
  | error reason =>
    rw [Workers.assign_of_error starts] at ht
    simp [Workers.inHand, ready, running] at ht

theorem Works.holdsLast {a b : App σ} {form : Option FormName} (w : Works a b form)
    (h : OneInFlight a) (last : HoldsLast a.workers) : HoldsLast b.workers := by
  cases w with
  | others _ _ sent _ inHand =>
    intro t ht
    rw [sent]
    exact last t (inHand ht)
  | assigned free _ _ _ workers =>
    rw [workers]
    exact holdsLast_assign (h.outstanding_eq_nil free) _

/-- Nothing that was received is taken back, and nothing that is to be received is changed. -/
theorem Works.grows {a b : App σ} {form : Option FormName} (w : Works a b form) :
    a.workers.sent <+: b.workers.sent ∧ a.workers.received <+: b.workers.received := by
  cases w with
  | others _ _ sent received => exact ⟨sent ▸ List.prefix_refl _, received⟩
  | assigned _ _ _ _ workers =>
    rw [workers, Workers.sent_assign, Workers.received_assign]
    exact ⟨List.prefix_append .., List.prefix_refl _⟩

/-- Only a success opens the description form. -/
theorem OneInFlight.seeded_step [Sink σ] {a : App σ} (h : OneInFlight a) (e : Event) :
    (∃ result, a.success? e = some result) ∨
      (a.step e).description.seeded = a.description.seeded := by
  have what := happens a e
  unfold success? collected
  generalize a.step e = b at what
  generalize a.act e = act at what
  have collected {cs : List Completion} {r : Nat × App σ} (c : Collecting a cs r) :
      (∃ result, a.brought? cs = some result) ∨ r.2.description.seeded = a.description.seeded :=
    c.description.imp (fun ⟨result, success, _⟩ => ⟨result, success⟩) fun kept => by rw [kept.2]
  cases what with
  | submit form => exact .inr (by rw [description_submit])
  | edit => exact .inr (seeded_move _ _)
  | move => exact .inr (seeded_move _ _)
  | call | finish => exact .inr rfl
  | collectAll => exact collected h.collectAll
  | collectNext => exact collected h.collectNext
  | aside same => exact .inr (by rw [same.description])

/-! ### Whole histories -/

theorem OneInFlight.succeeded_of_seeded [Sink σ] {a : App σ} (h : OneInFlight a)
    (closed : a.description.seeded = false) {history : List Event}
    (seeded : (a.run history).description.seeded = true) : a.Succeeded history := by
  induction history generalizing a with
  | nil => exact absurd seeded (Bool.eq_false_iff.mp closed)
  | cons e rest ih =>
    rcases h.seeded_step e with ⟨result, success⟩ | kept
    · exact ⟨[], e, rest, result, rfl, success⟩
    · obtain ⟨earlier, e', between, result, rfl, success⟩ :=
        ih (h.step e) (kept.trans closed) seeded
      exact ⟨e :: earlier, e', between, result, rfl, success⟩

theorem OneInFlight.sent_grows [Sink σ] {a : App σ} (h : OneInFlight a) (later : List Event) :
    a.workers.sent <+: (a.run later).workers.sent ∧
      a.workers.received <+: (a.run later).workers.received :=
  h.invariant (P := fun b => a.workers.sent <+: b.workers.sent ∧
      a.workers.received <+: b.workers.received)
    (fun h grown e => ⟨grown.1.trans (h.works e).grows.1, grown.2.trans (h.works e).grows.2⟩)
    ⟨List.prefix_refl _, List.prefix_refl _⟩ later

/-- An event sends what its submission pictures, if it makes one and the worker starts. -/
theorem OneInFlight.sends_step [Sink σ] {start : App σ} (h : OneInFlight start)
    (closed : start.description.seeded = false) (before : List Event) (e : Event) :
    ∃ sent, List.Forall₂ start.Sends
        ((((start.run before).submitted? e).toList.map (⟨before, ·⟩)).filter start.isStarted) sent ∧
      ((start.run before).step e).workers.sent = (start.run before).workers.sent ++ sent := by
  have works := (h.run before).works e
  generalize (start.run before).step e = b at works
  generalize (start.run before).submitted? e = form at works
  cases works with
  | others _ _ sent => exact ⟨[], .nil, by rw [sent, List.append_nil]⟩
  | @assigned form request _ seeded checked _ workers =>
    rw [workers, Workers.sent_assign, h.starts_run before]
    refine ⟨_, ?_, rfl⟩
    show List.Forall₂ start.Sends ([⟨before, form⟩].filter start.isStarted)
      (if start.isStarted ⟨before, form⟩ then [request] else [])
    by_cases started : start.isStarted ⟨before, form⟩ = true
    · rw [List.filter_cons_of_pos started, if_pos started]
      have snapshot := snapshot_of_checked checked
      exact .cons ⟨snapshot, snapshot.hasKey_formula,
        fun description => h.succeeded_of_seeded closed (seeded description)⟩ .nil
    · rw [List.filter_cons_of_neg started, if_neg started]
      exact .nil

/-- The events that follow on others send what their submissions picture. -/
theorem OneInFlight.sends_after [Sink σ] {start : App σ} (h : OneInFlight start)
    (closed : start.description.seeded = false) (before after : List Event) :
    ∃ sent, List.Forall₂ start.Sends
        ((start.submissionsAfter before after).filter start.isStarted) sent ∧
      (start.run (before ++ after)).workers.sent = (start.run before).workers.sent ++ sent := by
  induction after generalizing before with
  | nil => exact ⟨[], .nil, by simp⟩
  | cons e rest ih =>
    obtain ⟨first, sends, one⟩ := h.sends_step closed before e
    obtain ⟨more, others, sent⟩ := ih (before ++ [e])
    refine ⟨first ++ more, ?_, ?_⟩
    · rw [submissionsAfter, List.filter_append]
      exact List.rel_append sends others
    · rw [List.append_assoc, List.singleton_append] at sent
      rw [sent, run_append]
      show ((start.run before).step e).workers.sent ++ more = _
      rw [one, List.append_assoc]

/-- **The service receives pictures of the forms.** On any system and in any history the requests
received, and after them the one that a worker is about to bring, are in order those of the accepted
submissions whose worker starts; on a system that starts every worker, those of all accepted
submissions. Each is as its form stood at that moment: the problem and the description go out as
they stand and tell something, and so does the formula if it tells something, while otherwise neither
the request nor its body has one. Visual language is submitted only after a success. All of them
have been received when no request is pending, or once the worker of the pending one has called.
Whatever a worker has in hand is the last of these requests, and whatever happens later leaves all of
them as they are, received or not. -/
theorem requests [Sink σ] (sink : σ) (starts : Starts) (history : List Event) :
    let start := App.new sink starts
    let a := start.run history
    List.Forall₂ start.Sends ((start.submissions history).filter start.isStarted) a.workers.sent ∧
    ((∀ id, starts id = .ok ()) →
      List.Forall₂ start.Sends (start.submissions history) a.workers.sent) ∧
    (a.isPending = false → a.workers.received = a.workers.sent) ∧
    (∀ id, a.request = .pending id → (a.step (.call id)).workers.received = a.workers.sent) ∧
    (∀ t ∈ a.workers.inHand, a.workers.sent.getLast? = some t.request) ∧
    ∀ later, a.workers.sent <+: (a.run later).workers.sent ∧
      a.workers.received <+: (a.run later).workers.received := by
  intro start a
  have fresh : OneInFlight start := oneInFlight_new sink starts
  have h : OneInFlight a := fresh.run history
  obtain ⟨sent, sends, all⟩ := fresh.sends_after rfl [] history
  have sends : List.Forall₂ start.Sends ((start.submissions history).filter start.isStarted)
      a.workers.sent := by rwa [show a.workers.sent = sent from all]
  refine ⟨sends, fun starting => ?_, fun free => h.received_eq_sent free,
    fun id pending => Workers.received_call (h.outstanding_eq pending), ?_, h.sent_grows⟩
  · have every : (start.submissions history).filter start.isStarted = start.submissions history := by
      refine List.filter_eq_self.mpr fun s _ => ?_
      show (starts _).isOk = true
      rw [starting]
      rfl
    rwa [every] at sends
  · exact fresh.invariant (P := fun b => HoldsLast b.workers)
      (fun h last e => (h.works e).holdsLast h last) (fun t ht => absurd ht List.not_mem_nil) history

section Twice

open Export (Recorder)

/-- Where both workers start, the service receives both texts, and of the second one nothing that is
typed before the worker calls. Where the first one does not start, it receives the second text
alone. -/
theorem requests_twice :
    let start := App.new ({} : Recorder)
    let late := App.new ({} : Recorder) startsLate
    let both := [.initial "p" none, .initial "pq" none]
    let second := [.initial "pq" none]
    (∀ id, Starts.always id = .ok ()) ∧
    (start.run twice).workers.received = both ∧
    List.Forall₂ start.Sends (start.submissions twice) both ∧
    (late.run twice).workers.received = second ∧
    List.Forall₂ late.Sends ((late.submissions twice).filter late.isStarted) second := by
  intro start late both second
  have every := (requests ({} : Recorder) .always twice).2.1 fun _ => rfl
  have started := (requests ({} : Recorder) startsLate twice).1
  rw [show (start.run twice).workers.sent = both by decide] at every
  rw [show (late.run twice).workers.sent = second by decide] at started
  exact ⟨fun _ => rfl, by decide, every, by decide, started⟩

end Twice

end ProblemVisualizer.App
