import ProblemVisualizer.App.History
import ProblemVisualizer.Proofs.Session.Lifecycle

/-! What one event can do.

However many keys there are, an event comes down to one of few acts: a form is
submitted, the focused field is edited or moved in, a call begins or ends, outcomes
are collected, or something happens beside the forms and the request. `happens` says
so for every event in every state. For a submission and for the taking of an
outcome, `Attempt` and `Taking` list everything that can come of them. -/
namespace ProblemVisualizer

open Export (Sink)
open Form (DescriptionForm Field FormName ValidationError)
open Generation (Request)
open Text (EditBuffer)
open Session (Completion Observer Outcome RequestId RequestState Slot)

/-- What an event comes down to. -/
inductive Act where
  | submit (form : FormName)
  /-- Changes the text of the focused field. -/
  | edit (edit : Text.Edit)
  /-- Moves in the focused field. -/
  | move (edit : Text.Edit)
  | call (id : RequestId)
  | finish (id : RequestId) (outcome : Outcome)
  | collectAll
  | collectNext
  /-- Touches neither the forms nor the request. -/
  | aside

/-- What a key comes down to when it is pressed without Control beside the forms. -/
def Key.act (focus : Field) : Key → Act
  | .enter => .submit focus.form
  | .backspace => .edit .backspace
  | .delete => .edit .delete
  | .char c => .edit (.insert c)
  | .left => .move .left
  | .right => .move .right
  | .home => .move .home
  | .toEnd => .move .toEnd
  | _ => .aside

theorem Key.act_eq_submit_iff (focus : Field) (key : Key) (form : FormName) :
    key.act focus = .submit form ↔ key = .enter ∧ focus.form = form := by
  unfold Key.act
  cases key <;> simp

theorem Key.exists_act_eq_edit_iff (focus : Field) (key : Key) :
    (∃ edit, key.act focus = .edit edit) ↔
      key = .backspace ∨ key = .delete ∨ ∃ c, key = .char c := by
  unfold Key.act
  cases key <;> simp

namespace App

variable {σ : Type}

def act (a : App σ) : Event → Act
  | .key key control _ =>
    match a.mode with
    | .help => .aside
    | .normal =>
      if control then if key = .char 'r' then .submit .description else .aside
      else key.act a.focus
  | .edit edit => .edit edit
  | .submit form => .submit form
  | .submitFocused => .submit a.focus.form
  | .call id => .call id
  | .finish id outcome => .finish id outcome
  | .collectAll => .collectAll
  | .collectNext => .collectNext

/-- The forms, their errors and the request are the same. -/
structure SameWork (a b : App σ) : Prop where
  problem : b.problem = a.problem
  description : b.description = a.description
  errors : b.errors = a.errors
  slot : b.slot = a.slot
  workers : b.workers = a.workers

/-- What an act leaves. -/
inductive Happens (a : App σ) : Act → App σ → Prop where
  | submit (form : FormName) : Happens a (.submit form) (a.submit form).2
  | edit (edit : Text.Edit) : Happens a (.edit edit) (a.edit (·.apply edit))
  | move (edit : Text.Edit) (keeps : ∀ b : EditBuffer, (b.apply edit).value = b.value) :
    Happens a (.move edit) (a.move (·.apply edit))
  | call (id : RequestId) : Happens a (.call id) {a with workers := a.workers.call id}
  | finish (id : RequestId) (outcome : Outcome) :
    Happens a (.finish id outcome) {a with workers := a.workers.finish id outcome}
  | collectAll : Happens a .collectAll a.collectAll.2
  | collectNext : Happens a .collectNext a.collectNext.2
  | aside {b : App σ} (same : SameWork a b) : Happens a .aside b

theorem happens_command [Sink σ] (clipboard : Clipboard) (a : App σ) (key : Key) :
    Happens a (if key = .char 'r' then .submit .description else .aside)
      (a.command clipboard key) := by
  by_cases hr : key = .char 'r'
  · subst hr
    exact .submit .description
  · rw [if_neg hr]
    refine .aside ?_
    unfold command
    split
    case h_3 => exact absurd rfl hr
    all_goals exact ⟨rfl, rfl, rfl, rfl, rfl⟩

theorem happens_typeKey (a : App σ) (key : Key) : Happens a (key.act a.focus) (a.typeKey key) := by
  cases key with
  | enter => exact .submit a.focus.form
  | backspace => exact .edit .backspace
  | delete => exact .edit .delete
  | char c => exact .edit (.insert c)
  | left => exact .move .left fun _ => rfl
  | right => exact .move .right EditBuffer.value_right
  | home => exact .move .home fun _ => rfl
  | toEnd => exact .move .toEnd fun _ => rfl
  | function n =>
    unfold typeKey
    split <;> first | exact .aside ⟨rfl, rfl, rfl, rfl, rfl⟩ | contradiction
  | _ => exact .aside ⟨rfl, rfl, rfl, rfl, rfl⟩

theorem sameWork_helpKey (a : App σ) (key : Key) : SameWork a (a.helpKey key) := by
  unfold helpKey
  split <;> exact ⟨rfl, rfl, rfl, rfl, rfl⟩

/-- A key that edits, moves or does anything else to a field is one pressed beside the help and
without Control. -/
theorem act_key {a : App σ} {key : Key} {control : Bool} {clipboard : Clipboard} {act : Act}
    (h : a.act (.key key control clipboard) = act) (not_submit : ∀ form, act ≠ .submit form)
    (not_aside : act ≠ .aside) : a.mode = .normal ∧ control = false ∧ key.act a.focus = act := by
  unfold App.act at h
  cases mode : a.mode with
  | help =>
    rw [mode] at h
    exact absurd h.symm not_aside
  | normal =>
    rw [mode] at h
    cases control with
    | false => exact ⟨rfl, rfl, h⟩
    | true =>
      simp only [if_true] at h
      split at h
      · exact absurd h.symm (not_submit _)
      · exact absurd h.symm not_aside

/-- **Every event comes down to an act**, and does nothing else to the forms and the request. -/
theorem happens [Sink σ] (a : App σ) (e : Event) : Happens a (a.act e) (a.step e) := by
  cases e with
  | key key control clipboard =>
    simp only [act, step, handle]
    cases a.mode with
    | help => exact .aside (sameWork_helpKey a key)
    | normal =>
      cases control
      · exact happens_typeKey a key
      · exact happens_command clipboard a key
  | edit edit => exact .edit edit
  | submit form => exact .submit form
  | submitFocused => exact .submit a.focus.form
  | call id => exact .call id
  | finish id outcome => exact .finish id outcome
  | collectAll => exact .collectAll
  | collectNext => exact .collectNext

/-! ### Keys that submit and keys that edit -/

/-- The event submits a form: with Enter the one that has the focus, with Ctrl+R the description, or
otherwise than by a key. -/
def Submits (a : App σ) (form : FormName) : Event → Prop
  | .key key control _ => a.mode = .normal ∧
      (control = false ∧ key = .enter ∧ a.focus.form = form ∨
        control = true ∧ key = .char 'r' ∧ form = .description)
  | .submit other => other = form
  | .submitFocused => a.focus.form = form
  | _ => False

/-- The event is an insertion or a deletion in a field, by a key or otherwise. -/
def Edits (a : App σ) (field : Field) : Event → Prop
  | .key key control _ => a.mode = .normal ∧ control = false ∧ a.focus = field ∧
      (key = .backspace ∨ key = .delete ∨ ∃ c, key = .char c)
  | .edit _ => a.focus = field
  | _ => False

theorem submits_iff (a : App σ) (form : FormName) (e : Event) :
    a.Submits form e ↔ a.act e = .submit form := by
  cases e with
  | key key control clipboard =>
    simp only [Submits, act]
    cases a.mode with
    | help => simp
    | normal =>
      cases control with
      | true =>
        by_cases hr : key = .char 'r'
        · simp [hr, eq_comm]
        · simp [hr]
      | false => simp [Key.act_eq_submit_iff]
  | submit other => simp [Submits, act]
  | submitFocused => simp [Submits, act]
  | _ => simp [Submits, act]

theorem edits_iff (a : App σ) (field : Field) (e : Event) :
    a.Edits field e ↔ a.focus = field ∧ ∃ edit, a.act e = .edit edit := by
  cases e with
  | key key control clipboard =>
    simp only [Edits, act]
    cases a.mode with
    | help => simp
    | normal =>
      cases control with
      | true => by_cases hr : key = .char 'r' <;> simp [hr]
      | false => simp [Key.exists_act_eq_edit_iff]
  | edit edit => simp [Edits, act]
  | _ => simp [Edits, act]

/-! ### Submissions -/

theorem observe_pending (previous : RequestState) (id : RequestId) (form : DescriptionForm) :
    Observer.observe ⟨previous, .pending id⟩ form = form := by
  simp [Observer.observe, Session.seedFrom, RequestState.result?]

/-- What can come of submitting a form: it is passed over while a request is pending, the
description form is passed over while nothing has been seeded, the form fails its check, or its
request is issued. -/
inductive Attempt (a : App σ) (form : FormName) : Bool × App σ → Prop where
  | pending (busy : a.isPending = true) : Attempt a form (false, a)
  | unseeded (free : a.isPending = false) (description : form = .description)
    (closed : a.description.seeded = false) :
    Attempt a form (false, {a with status := some "No visual language to resubmit yet"})
  | invalid (free : a.isPending = false)
    (seeded : form = .description → a.description.seeded = true)
    {error : ValidationError} (checked : a.checked form = .error error) :
    Attempt a form (false, {a with errors := a.errors.insert error})
  | issued (free : a.isPending = false)
    (seeded : form = .description → a.description.seeded = true)
    {request : Request} (checked : a.checked form = .ok request) :
    Attempt a form (true, {a with
      errors := a.errors.erase form.required
      slot := ⟨.pending (a.slot.issued + 1), a.slot.issued + 1⟩
      status := none
      workers := a.workers.assign ⟨a.slot.issued + 1, request⟩})

theorem issue_of_free {a : App σ} (free : a.isPending = false) (request : Request) :
    a.issue request = (true, {a with
      slot := ⟨.pending (a.slot.issued + 1), a.slot.issued + 1⟩
      status := none
      workers := a.workers.assign ⟨a.slot.issued + 1, request⟩}) := by
  simp only [issue, Slot.begin_of_free free, observe_pending]

theorem attempt (a : App σ) (form : FormName) : Attempt a form (a.submit form) := by
  unfold submit
  split
  · exact .pending ‹_›
  · rename_i free
    simp only [Bool.not_eq_true] at free
    split
    · rename_i h
      exact .unseeded free h.1 (by simpa using h.2)
    · rename_i h
      have seeded : form = .description → a.description.seeded = true := by simpa using h
      split
      · exact .invalid free seeded ‹_›
      · rw [issue_of_free (a := {a with errors := a.errors.erase form.required}) free]
        exact .issued free seeded ‹_›

/-- A submission leaves the forms, the focus and all that is beside the request as they are. -/
theorem submit_eq (a : App σ) (form : FormName) : ∃ errors status slot workers,
    (a.submit form).2 = {a with errors, status, slot, workers} := by
  have := attempt a form
  generalize a.submit form = r at this
  cases this <;> exact ⟨_, _, _, _, rfl⟩

/-! ### What keys leave alone -/

/-- A movement changes nothing but the texts of the forms. -/
theorem move_eq (a : App σ) (f : EditBuffer → EditBuffer) : ∃ problem description,
    a.move f = {a with problem, description} := by
  unfold move
  split <;> exact ⟨_, _, rfl⟩

/-- A command leaves the texts of the forms, the focus and the help as they are. -/
theorem command_eq [Sink σ] (clipboard : Clipboard) (a : App σ) (key : Key) :
    ∃ errors status shouldQuit slot workers sink, a.command clipboard key
      = {a with errors, status, shouldQuit, slot, workers, sink} := by
  unfold command
  split
  case h_3 =>
    obtain ⟨_, _, _, _, left⟩ := submit_eq a .description
    exact ⟨_, _, _, _, _, _, left⟩
  all_goals exact ⟨_, _, _, _, _, _, rfl⟩

/-! ### Taking outcomes -/

theorem observe_ofOutcome (id : RequestId) (outcome : Outcome) (form : DescriptionForm) :
    Observer.observe ⟨.pending id, .ofOutcome outcome⟩ form =
      (Session.seedFrom (.ofOutcome outcome) form).2 :=
  if_neg (RequestState.ofOutcome_ne_pending outcome id).symm

/-- What can come of an outcome: it ends the pending request and may seed the description form,
or it is dropped. -/
inductive Taking (a : App σ) (c : Completion) : Bool × App σ → Prop where
  | applied (pending : a.request = .pending c.id) : Taking a c (true, {a with
      slot := {a.slot with state := .ofOutcome c.outcome}
      description := (Session.seedFrom (.ofOutcome c.outcome) a.description).2})
  | dropped (other : a.request ≠ .pending c.id) : Taking a c (false, a)

theorem taking (a : App σ) (c : Completion) : Taking a c (a.take c) := by
  by_cases pending : a.request = .pending c.id
  · simp only [take, Slot.complete_of_pending pending, observe_ofOutcome]
    exact .applied pending
  · simp only [take, Slot.complete_of_ne pending]
    exact .dropped pending

end App

end ProblemVisualizer
