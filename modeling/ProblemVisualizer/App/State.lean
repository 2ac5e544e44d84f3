import ProblemVisualizer.Export.Sink
import ProblemVisualizer.Form.Validation
import ProblemVisualizer.Session.Seeding
import ProblemVisualizer.Session.Workers

/-! The state of the client.

Both forms, the request in hand, the workers that carry calls out, and the sink
that drawings are saved to. A submission checks its form, takes the slot and
goes to a worker; its outcome is collected later and, if it is a success, shows
in the description form. -/
namespace ProblemVisualizer

open Text (EditBuffer)
open Form (Field FormName ProblemForm DescriptionForm ValidationError)
open Generation (Artifact Request Result)
open Session (Slot Starts Workers Completion Outcome RequestState)
open Export (Sink ExportError)

inductive Mode where
  | normal
  | help
deriving DecidableEq, Repr

/-- The message beside each field, if there is one. -/
structure FieldErrors where
  problem : Option ValidationError := none
  formula : Option ValidationError := none
  description : Option ValidationError := none
deriving DecidableEq, Repr

namespace FieldErrors

def get? (e : FieldErrors) : Field → Option ValidationError
  | .problem => e.problem
  | .formula => e.formula
  | .description => e.description

def set (e : FieldErrors) (field : Field) (error : Option ValidationError) : FieldErrors :=
  match field with
  | .problem => {e with problem := error}
  | .formula => {e with formula := error}
  | .description => {e with description := error}

def insert (e : FieldErrors) (error : ValidationError) : FieldErrors :=
  e.set error.field (some error)

def erase (e : FieldErrors) (field : Field) : FieldErrors := e.set field none

@[simp] theorem get?_set_self (e : FieldErrors) (field : Field) (error : Option ValidationError) :
    (e.set field error).get? field = error := by
  cases field <;> rfl

theorem get?_set_of_ne (e : FieldErrors) {field other : Field} (h : other ≠ field)
    (error : Option ValidationError) : (e.set field error).get? other = e.get? other := by
  cases field <;> cases other <;> first | rfl | contradiction

end FieldErrors

structure App (σ : Type) where
  problem : ProblemForm := {}
  description : DescriptionForm := {}
  /-- The field that keys edit. -/
  focus : Field := .problem
  mode : Mode := .normal
  /-- How far the help is scrolled down, in lines. -/
  helpScroll : Nat := 0
  errors : FieldErrors := {}
  status : Option String := none
  shouldQuit : Bool := false
  slot : Slot := {}
  workers : Workers := {}
  sink : σ

namespace App

variable {σ : Type}

/-- The client at its start, on a system that starts workers in its own way. -/
def new (sink : σ) (starts : Starts := .always) : App σ := {sink, workers := {starts}}

def request (a : App σ) : RequestState := a.slot.state

def isPending (a : App σ) : Bool := a.slot.isPending

/-! ### Submitting -/

/-- The request that a form stands for, if it passes its check. -/
def checked (a : App σ) : FormName → Except ValidationError Request
  | .problem => a.problem.validate
  | .description => a.description.validate

/-- Puts a request into the slot and hands it to a worker. Says whether the slot was free. -/
def issue (a : App σ) (request : Request) : Bool × App σ :=
  match a.slot.begin request a.description with
  | .ok (ticket, slot, description) =>
    (true, {a with
      slot, description
      status := none
      workers := a.workers.assign ticket})
  | .error busy => (false, {a with status := some busy.message})

/-- Submits a form, and says whether a request was issued. While a request is pending nothing
happens. The description form must have been seeded by a result, and a form that fails its check
shows the error instead. -/
def submit (a : App σ) (form : FormName) : Bool × App σ :=
  if a.isPending then (false, a)
  else if form = .description ∧ !a.description.seeded then
    (false, {a with status := some "No visual language to resubmit yet"})
  else
    match a.checked form with
    | .error e => (false, {a with errors := a.errors.insert e})
    | .ok request => {a with errors := a.errors.erase form.required}.issue request

/-- Submits the form that has the focus. -/
def submitFocused (a : App σ) : Bool × App σ := a.submit a.focus.form

/-! ### Collecting outcomes -/

/-- Takes an outcome that has arrived, if it answers the request in hand; says whether it does. -/
def take (a : App σ) (c : Completion) : Bool × App σ :=
  let (applied, slot, description) := a.slot.complete c.id c.outcome a.description
  (applied, {a with slot, description})

/-- Takes outcomes in turn and counts those that were applied. -/
def takeAll (a : App σ) : List Completion → Nat × App σ
  | [] => (0, a)
  | c :: rest =>
    let (applied, a) := a.take c
    let (more, a) := a.takeAll rest
    (more + applied.toNat, a)

/-- Takes every outcome that has arrived. -/
def collectAll (a : App σ) : Nat × App σ :=
  {a with workers := {a.workers with arrived := []}}.takeAll a.workers.arrived

/-- Takes the next outcome, if one arrives before the wait is over. -/
def collectNext (a : App σ) : Bool × App σ :=
  match a.workers.next? with
  | none => (false, a)
  | some (c, workers) => {a with workers}.take c

/-! ### Saving and copying -/

/-- The markup of a drawing that can be saved: both drawings must be there. -/
def savable? (a : App σ) (artifact : Artifact) : Option String :=
  match a.request.result? with
  | some result => if result.isComplete then (result.rendering artifact).markup? else none
  | none => none

/-- Saves a drawing under its file name and reports the outcome in the status line. -/
def save [Sink σ] (a : App σ) (artifact : Artifact) : Except ExportError String × App σ :=
  let (saved, sink) := match a.savable? artifact with
    | some markup => Export.save markup artifact.filename a.sink
    | none => (.error (.unavailable artifact), a.sink)
  let status := match saved with
    | .ok path => "Saved " ++ path
    | .error e => "Export failed: " ++ e.message
  (saved, {a with sink, status := some status})

/-- Reports how copying to the clipboard went. -/
def reportCopy (a : App σ) (outcome : Except String Unit) : App σ :=
  let status := match outcome with
    | .ok () => "Copied visual language to clipboard"
    | .error e => "Copy failed: " ++ e
  {a with status := some status}

/-! ### Focus and editing -/

/-- The fields that can have the focus now, in the order Tab visits them. -/
def tabOrder (a : App σ) : List Field :=
  [.problem, .formula] ++ if a.description.seeded then [.description] else []

/-- The field `steps` places further on in the focus order, which goes round. A focus outside the
order counts as the first place. -/
def focusAt (a : App σ) (steps : Nat) : Field :=
  let order := a.tabOrder
  let place := (order.findIdx? (· = a.focus)).getD 0
  order.getD ((place + steps) % order.length) .problem

def focusNext (a : App σ) : App σ := {a with focus := a.focusAt 1}

def focusPrevious (a : App σ) : App σ := {a with focus := a.focusAt (a.tabOrder.length - 1)}

def buffer (a : App σ) : Field → EditBuffer
  | .problem => a.problem.problem
  | .formula => a.problem.formula
  | .description => a.description.buffer

def focusedBuffer (a : App σ) : EditBuffer := a.buffer a.focus

/-- Moves in the focused field; its error stays. -/
def move (a : App σ) (change : EditBuffer → EditBuffer) : App σ :=
  match a.focus with
  | .problem => {a with problem := {a.problem with problem := change a.problem.problem}}
  | .formula => {a with problem := {a.problem with formula := change a.problem.formula}}
  | .description =>
    {a with description := {a.description with buffer := change a.description.buffer}}

/-- Edits the focused field and takes its error away. -/
def edit (a : App σ) (change : EditBuffer → EditBuffer) : App σ :=
  {a with errors := a.errors.erase a.focus}.move change

/-! ### Help -/

def showHelp (a : App σ) : App σ := {a with mode := .help, helpScroll := 0}

def hideHelp (a : App σ) : App σ := {a with mode := .normal}

end App

end ProblemVisualizer
