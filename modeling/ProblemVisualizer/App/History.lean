import ProblemVisualizer.App.Keys

/-! What happens to the client, event by event.

Keys come from the person at the terminal. Beside them, calls begin and end at
moments of their own, and the client collects outcomes when it gets round to it, all
that have arrived or the next one. A history is any list of such events. -/
namespace ProblemVisualizer

open Export (Sink)
open Form (FormName)
open Session (Outcome RequestId)

inductive Event where
  /-- A key press, and what the clipboard would answer at that moment. -/
  | key (key : Key) (control : Bool) (clipboard : Clipboard)
  | edit (edit : Text.Edit)
  | submit (form : FormName)
  | submitFocused
  /-- The worker for a request calls the service. -/
  | call (id : RequestId)
  /-- The worker for a request gets done. -/
  | finish (id : RequestId) (outcome : Outcome)
  | collectAll
  | collectNext

namespace App

variable {σ : Type} [Sink σ]

def step (a : App σ) : Event → App σ
  | .key key control clipboard => a.handle clipboard key control
  | .edit edit => a.edit (·.apply edit)
  | .submit form => (a.submit form).2
  | .submitFocused => a.submitFocused.2
  | .call id => {a with workers := a.workers.call id}
  | .finish id outcome => {a with workers := a.workers.finish id outcome}
  | .collectAll => a.collectAll.2
  | .collectNext => a.collectNext.2

def run (a : App σ) : List Event → App σ
  | [] => a
  | e :: rest => run (a.step e) rest

theorem run_append (a : App σ) (before after : List Event) :
    a.run (before ++ after) = (a.run before).run after := by
  induction before generalizing a with
  | nil => rfl
  | cons e rest ih => exact ih _

/-- Every event of a history is of a kind, at the moment it happens. -/
def Throughout (kind : App σ → Event → Prop) (a : App σ) : List Event → Prop
  | [] => True
  | e :: rest => kind a e ∧ Throughout kind (a.step e) rest

theorem throughout_append {kind : App σ → Event → Prop} {a : App σ} {before after : List Event} :
    a.Throughout kind (before ++ after) ↔
      a.Throughout kind before ∧ (a.run before).Throughout kind after := by
  induction before generalizing a with
  | nil => exact ⟨fun h => ⟨trivial, h⟩, And.right⟩
  | cons e rest ih =>
    simp only [List.cons_append, Throughout, run, ih]
    exact and_assoc.symm

end App

end ProblemVisualizer
