import ProblemVisualizer.Proofs.App.ErrorHistory

/-! What a submission comes to.

A form is submitted by name, or because it has the focus. `submission` says of both,
and for a client in any state, when a request is issued and what is left either way.
A request that is issued takes the place of all that the last one left behind. A
submission that is refused leaves the last result or error where it is, and says in
at most one place why it was refused. -/
namespace ProblemVisualizer.App

open Form (FormName)
open Generation (Telling)
open Session (Slot)

variable {σ : Type}

/-- How a form is submitted. -/
inductive Submitting where
  | named (form : FormName)
  /-- The form that has the focus. -/
  | focused

def Submitting.form (a : App σ) : Submitting → FormName
  | named form => form
  | focused => a.focus.form

/-- Submits a form, and says whether a request was issued. -/
def submitBy (a : App σ) : Submitting → Bool × App σ
  | .named form => a.submit form
  | .focused => a.submitFocused

/-- Nothing stands in the way of a request for the form. -/
structure Ready (a : App σ) (form : FormName) : Prop where
  free : a.isPending = false
  telling : Telling (a.buffer form.required).value
  seeded : form = .description → a.description.seeded = true

/-- What issuing a request for the form leaves. -/
structure Issuing (a : App σ) (form : FormName) (b : App σ) : Prop where
  pending : b.request = .pending (a.slot.issued + 1)
  /-- However the slot came to be as it was, it had given out lower numbers only, and has now given
  out this one. -/
  fresh : ∀ answers log, Slot.Reached answers log a.slot →
    (∀ ticket ∈ answers.filterMap Slot.Answer.ticket?, ticket.id < a.slot.issued + 1) ∧
    ∃ ticket told, ticket.id = a.slot.issued + 1 ∧
      Slot.Reached (answers ++ [.admitted ticket]) (log ++ told) b.slot
  result : b.request.result? = none
  error : b.request.error? = none
  status : b.status = none
  errors : ∀ field, b.errors.get? field = if field = form.required then none else a.errors.get? field
  sent : ∃ request, a.Snapshot form request ∧
    b.workers = a.workers.assign ⟨a.slot.issued + 1, request⟩
  /-- The forms with their cursors are the same, and so is all that is not told of above. -/
  rest : b = {a with
    slot := b.slot, workers := b.workers, errors := b.errors, status := b.status}

/-- What refusing to issue one leaves. -/
structure Refusing (a : App σ) (form : FormName) (b : App σ) : Prop where
  /-- The request, the calls that are out, the forms, the focus and the mode are the same. -/
  rest : b = {a with errors := b.errors, status := b.status}
  busy : a.isPending = true → b = a
  closed : a.isPending = false → form = .description → a.description.seeded = false →
    b = {a with status := some "No visual language to resubmit yet"}
  blank : a.isPending = false → (form = .description → a.description.seeded = true) →
    ∃ error, error.field = form.required ∧ b = {a with errors := a.errors.insert error}

/-- The numbers that a slot has given out are not above its count. -/
theorem lt_of_reached {answers : List Slot.Answer} {log : List Session.Transition} {s : Slot}
    (reached : Slot.Reached answers log s) {ticket : Session.Ticket}
    (given : ticket ∈ answers.filterMap Slot.Answer.ticket?) : ticket.id < s.issued + 1 := by
  have number : ticket.id ∈ List.range' 1 s.issued := by
    rw [← reached.ids_eq]
    exact List.mem_map_of_mem given
  exact Nat.lt_of_lt_of_eq (List.mem_range'_1.mp number).2 (Nat.add_comm ..)

theorem issued_or_refused (a : App σ) (form : FormName) :
    (a.submit form).1 = true ∧ a.Ready form ∧ a.Issuing form (a.submit form).2 ∨
      (a.submit form).1 = false ∧ ¬ a.Ready form ∧ a.Refusing form (a.submit form).2 := by
  have := attempt a form
  generalize a.submit form = r at this ⊢
  cases this with
  | pending busy =>
    have taken : a.isPending ≠ false := Bool.ne_false_iff.mpr busy
    exact .inr ⟨rfl, fun ready => taken ready.free, rfl, fun _ => rfl, fun free => absurd free taken,
      fun free => absurd free taken⟩
  | unseeded free description closed =>
    have unopened : a.description.seeded ≠ true := Bool.eq_false_iff.mp closed
    exact .inr ⟨rfl, fun ready => unopened (ready.seeded description), rfl,
      fun busy => absurd free (Bool.ne_false_iff.mpr busy), fun _ _ _ => rfl,
      fun _ seeded => absurd (seeded description) unopened⟩
  | @invalid free seeded error checked =>
    obtain ⟨at_fault, untold⟩ := (checked_eq_error_iff a form error).mp checked
    exact .inr ⟨rfl, fun ready => untold ready.telling, rfl,
      fun busy => absurd free (Bool.ne_false_iff.mpr busy),
      fun _ description closed => absurd (seeded description) (Bool.eq_false_iff.mp closed),
      fun _ _ => ⟨error, at_fault, rfl⟩⟩
  | @issued free seeded request checked =>
    refine .inl ⟨rfl, ⟨free, telling_of_checked checked, seeded⟩, rfl, fun answers log reached => ?_,
      rfl, rfl, rfl, fun field => ?_, ⟨request, snapshot_of_checked checked, rfl⟩, rfl⟩
    · exact ⟨fun ticket given => lt_of_reached reached given, _, _, rfl,
        reached.step (.accept free request)⟩
    · split
      · rename_i own
        subst own
        exact FieldErrors.get?_set_self ..
      · exact FieldErrors.get?_set_of_ne _ ‹_› _

/-- **A submission issues a request or is refused.** Whatever state the client is in and however a
form is submitted, a request is issued exactly if none is pending, the field that the form cannot do
without tells something and, for the description, a result has opened the form. Then the request is
pending under a number above all those given out before, nothing of the last result or error is left,
the status line and the form's message are gone, and the texts stand as they stood. If no request is
issued, all that can change is the message of the form, if its text is blank, or the status line, if
the form is closed; and while a request is pending nothing changes. -/
theorem submission (a : App σ) (how : Submitting) :
    ((a.submitBy how).1 = true ↔ a.Ready (how.form a)) ∧
    ((a.submitBy how).1 = true → a.Issuing (how.form a) (a.submitBy how).2) ∧
    ((a.submitBy how).1 = false → a.Refusing (how.form a) (a.submitBy how).2) := by
  have same : a.submitBy how = a.submit (how.form a) := by
    cases how <;> rfl
  rw [same]
  rcases issued_or_refused a (how.form a) with ⟨yes, ready, issued⟩ | ⟨no, unready, refused⟩
  · exact ⟨iff_of_true yes ready, fun _ => issued, fun no => absurd no (by rw [yes]; decide)⟩
  · exact ⟨iff_of_false (by rw [no]; decide) unready, fun yes => absurd yes (by rw [no]; decide),
      fun _ => refused⟩

end ProblemVisualizer.App
