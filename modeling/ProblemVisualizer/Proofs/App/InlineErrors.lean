import Mathlib.Data.List.Induction
import ProblemVisualizer.Export.Recorder
import ProblemVisualizer.Proofs.App.Requests

/-! Messages beside the fields.

A message appears when a form fails its check, and editing the field takes it away.
So it should stand only beside a text that the check still rejects (`Warranted`).
For the problem and the formula it does, whatever happens. At the description it
need not: a success writes its text there without a look at the message, and a
message that no longer holds stays beside it. `inline_errors` says that this is
the only way: all messages are warranted throughout a history exactly when no
success ever overrides one. -/
namespace ProblemVisualizer.App

open Export (Sink)
open Form (Field FormName ProblemForm DescriptionForm ValidationError)
open Generation (Result Telling)
open Session (Completion Starts)
open Text (EditBuffer)

variable {σ : Type}

/-- The message is what the check of the field's form still says of it. -/
def Warranted (a : App σ) (field : Field) (error : ValidationError) : Prop :=
  a.checked field.form = .error error ∧ error.field = field

/-- If there is a message beside the field, it is warranted. -/
def Honest (a : App σ) (field : Field) : Prop :=
  ∀ error, a.errors.get? field = some error → a.Warranted field error

/-- A success brings a text while there is a message beside the description. -/
def Overrides [Sink σ] (a : App σ) (e : Event) : Prop :=
  (∃ error, a.errors.get? .description = some error) ∧
    ∃ result, a.success? e = some result ∧ Telling result.description

/-! ### What a check rejects -/

theorem not_telling_iff (b : EditBuffer) : ¬ Telling b.value ↔ b.isBlank = true := by
  rw [Generation.Reply.telling_iff, Bool.not_eq_false, EditBuffer.isBlank]

/-- A form fails its check exactly when its required field tells nothing. -/
theorem checked_eq_error_iff (a : App σ) (form : FormName) (error : ValidationError) :
    a.checked form = .error error ↔
      error.field = form.required ∧ ¬ Telling (a.buffer form.required).value := by
  rw [not_telling_iff]
  cases form with
  | problem =>
    show a.problem.validate = _ ↔ _ ∧ a.problem.problem.isBlank = true
    unfold ProblemForm.validate
    cases a.problem.problem.isBlank <;> cases error <;> simp [ValidationError.field, FormName.required]
  | description =>
    show a.description.validate = _ ↔ _ ∧ a.description.buffer.isBlank = true
    unfold DescriptionForm.validate
    cases a.description.buffer.isBlank <;> cases error <;>
      simp [ValidationError.field, FormName.required]

theorem warranted_iff (a : App σ) (field : Field) (error : ValidationError) :
    a.Warranted field error ↔ error.field = field ∧ ¬ Telling (a.buffer field).value := by
  unfold Warranted
  rw [checked_eq_error_iff]
  cases field <;> cases error <;> simp [ValidationError.field, FormName.required, Field.form]

/-! ### What each act does to a message and its field -/

theorem Honest.congr {a b : App σ} {field : Field} (h : a.Honest field)
    (errors : b.errors.get? field = a.errors.get? field)
    (value : (b.buffer field).value = (a.buffer field).value) : b.Honest field := by
  intro error message
  rw [errors] at message
  rw [warranted_iff, value, ← warranted_iff]
  exact h error message

theorem honest_of_none {a : App σ} {field : Field} (none : a.errors.get? field = none) :
    a.Honest field := by
  intro error message
  rw [none] at message
  cases message

theorem errors_move (a : App σ) (f : EditBuffer → EditBuffer) : (a.move f).errors = a.errors := by
  obtain ⟨_, _, moved⟩ := move_eq a f
  rw [moved]

theorem buffer_move (a : App σ) (f : EditBuffer → EditBuffer) (field : Field) :
    (a.move f).buffer field = if field = a.focus then f (a.buffer field) else a.buffer field := by
  unfold move
  cases hf : a.focus <;> cases field <;> rfl

theorem Honest.edit {a : App σ} {field : Field} (h : a.Honest field) (f : EditBuffer → EditBuffer) :
    (a.edit f).Honest field := by
  have errors : (a.edit f).errors = a.errors.erase a.focus := errors_move _ f
  by_cases focus : field = a.focus
  · refine honest_of_none ?_
    rw [errors, focus]
    exact FieldErrors.get?_set_self ..
  · refine h.congr ?_ ?_
    · rw [errors]
      exact FieldErrors.get?_set_of_ne _ focus _
    · exact congrArg EditBuffer.value ((buffer_move _ f field).trans (if_neg focus))

theorem Honest.move {a : App σ} {field : Field} (h : a.Honest field) {f : EditBuffer → EditBuffer}
    (keeps : ∀ b : EditBuffer, (f b).value = b.value) : (a.move f).Honest field := by
  refine h.congr (by rw [errors_move]) ?_
  rw [buffer_move]
  split
  · exact keeps _
  · rfl

theorem Honest.submit {a : App σ} {field : Field} (h : a.Honest field) (form : FormName) :
    (a.submit form).2.Honest field := by
  have := attempt a form
  generalize a.submit form = r at this
  cases this with
  | pending => exact h
  | unseeded => exact h.congr rfl rfl
  | @invalid _ _ error checked =>
    have rejected := (checked_eq_error_iff a form error).mp checked
    by_cases at_fault : field = error.field
    · intro other message
      obtain rfl : other = error := by
        rw [at_fault] at message
        exact Option.some.inj (message.symm.trans (FieldErrors.get?_set_self ..))
      exact (warranted_iff _ _ _).mpr ⟨at_fault.symm, by rw [at_fault, rejected.1]; exact rejected.2⟩
    · exact h.congr (FieldErrors.get?_set_of_ne _ at_fault _) rfl
  | issued =>
    by_cases required : field = form.required
    · exact honest_of_none (required ▸ FieldErrors.get?_set_self ..)
    · exact h.congr (FieldErrors.get?_set_of_ne _ required _) rfl

/-- Collecting leaves all messages, and writes in the description at most. -/
theorem Collecting.errors {a : App σ} {cs : List Completion} {r : Nat × App σ}
    (c : Collecting a cs r) :
    r.2.errors = a.errors ∧ ∀ field ≠ .description, r.2.buffer field = a.buffer field := by
  cases c with
  | nothing => exact ⟨rfl, fun _ _ => rfl⟩
  | applied =>
    refine ⟨rfl, fun field elsewhere => ?_⟩
    cases field <;> first | rfl | contradiction

/-- Collecting makes a message unwarranted in one case only. -/
theorem Collecting.honest {a : App σ} {cs : List Completion} {r : Nat × App σ}
    (c : Collecting a cs r) {field : Field} (h : a.Honest field) : r.2.Honest field ↔
      ¬ (field = .description ∧ (∃ error, a.errors.get? .description = some error) ∧
        ∃ result, a.brought? cs = some result ∧ Telling result.description) := by
  obtain ⟨errors, elsewhere⟩ := c.errors
  constructor
  · rintro honest ⟨rfl, ⟨error, message⟩, result, success, telling⟩
    rcases c.description with ⟨_, some, shown⟩ | ⟨none, -⟩
    · obtain rfl := Option.some.inj (success.symm.trans some)
      have warranted := honest error (errors ▸ message)
      rw [warranted_iff] at warranted
      refine warranted.2 ?_
      show Telling r.2.description.buffer.value
      rw [shown, value_written]
      exact telling
    · rw [none] at success
      cases success
  · intro fair
    by_cases at_description : field = .description
    · subst at_description
      rcases c.description with ⟨result, success, shown⟩ | ⟨-, kept⟩
      · intro error message
        rw [errors] at message
        have warranted := (warranted_iff a .description error).mp (h error message)
        refine (warranted_iff _ _ _).mpr ⟨warranted.1, fun telling => ?_⟩
        refine fair ⟨rfl, ⟨error, message⟩, result, success, ?_⟩
        rwa [buffer, shown, value_written] at telling
      · exact h.congr (by rw [errors]) (by rw [buffer, buffer, kept])
    · exact h.congr (by rw [errors]) (by rw [elsewhere field at_description])

/-! ### Every event -/

/-- An event makes a message unwarranted only by a success that overrides it. -/
theorem OneInFlight.honest_step [Sink σ] {a : App σ} (h : OneInFlight a) {field : Field}
    (honest : a.Honest field) (e : Event) :
    (a.step e).Honest field ↔ ¬ (field = .description ∧ a.Overrides e) := by
  have what := happens a e
  unfold Overrides success? collected
  generalize a.step e = b at what
  generalize a.act e = act at what
  have kept {b : App σ} (same : b.Honest field) :
      b.Honest field ↔ ¬ (field = .description ∧
        (∃ error, a.errors.get? .description = some error) ∧
        ∃ result : Result, none = some result ∧ Telling result.description) :=
    iff_of_true same (by rintro ⟨-, -, _, ⟨⟩, -⟩)
  cases what with
  | submit form => exact kept (honest.submit form)
  | edit => exact kept (honest.edit _)
  | move _ keeps => exact kept (honest.move keeps)
  | call | finish => exact kept (honest.congr rfl rfl)
  | collectAll => exact h.collectAll.honest honest
  | collectNext => exact h.collectNext.honest honest
  | aside same =>
    refine kept (honest.congr (by rw [same.errors]) ?_)
    cases field <;> simp only [buffer, same.problem, same.description]

/-! ### Whole histories -/

/-- **A message contradicts its field only where a success overrode it.** Whatever happens, the
message beside the problem or the formula is what the check still says. Beside the description it
is so at every moment of a history exactly when at no moment of it a success brings a text while
there is a message. -/
theorem inline_errors [Sink σ] (sink : σ) (starts : Starts) (history : List Event) :
    let start := App.new sink starts
    (∀ field ≠ .description, (start.run history).Honest field) ∧
    ((∀ before, before <+: history → (start.run before).Honest .description) ↔
      ∀ before e, before ++ [e] <+: history → ¬ (start.run before).Overrides e) := by
  intro start
  have reached (h : List Event) : OneInFlight (start.run h) := (oneInFlight_new sink starts).run h
  have fresh (field : Field) : start.Honest field := honest_of_none (by cases field <;> rfl)
  have step (before : List Event) (e : Event) {field : Field}
      (honest : (start.run before).Honest field) :
      (start.run (before ++ [e])).Honest field ↔
        ¬ (field = .description ∧ (start.run before).Overrides e) := by
    rw [run_append]
    exact (reached before).honest_step honest e
  refine ⟨fun field elsewhere => ?_, fun honest before e initial overrides => ?_,
    fun fair before => ?_⟩
  · induction history using List.reverseRecOn with
    | nil => exact fresh field
    | append_singleton before e ih => exact (step before e ih).mpr fun h => elsewhere h.1
  · have now := honest before ((List.prefix_append before [e]).trans initial)
    exact (step before e now).mp (honest _ initial) ⟨rfl, overrides⟩
  · induction before using List.reverseRecOn with
    | nil => exact fun _ => fresh .description
    | append_singleton before e ih =>
      intro initial
      have now := ih ((List.prefix_append before [e]).trans initial)
      exact (step before e now).mpr fun h => fair before e initial h.2

section Overriding

open Export (Recorder)

def key (key : Key) : Event := .key key false .unreachable

/-- Visual language comes back, is deleted and submitted, and comes back once more. -/
def overriding : List Event :=
  [key (.char 'p'), key .enter, .finish 1 (.ok ⟨"V", .svg "F", .svg "I"⟩), .collectAll,
   key .tab, key .tab, key .backspace, key .enter,
   key .tab, key .enter, .finish 2 (.ok ⟨"W", .svg "F", .svg "I"⟩), .collectAll]

/-- The description is not empty, and the message beside it says that it is. -/
theorem message_beside_text :
    let a := (App.new ({} : Recorder)).run overriding
    a.errors.description = some .descriptionRequired ∧ a.description.buffer.value = "W" ∧
      ¬ a.Honest .description := by
  intro a
  have message : a.errors.description = some .descriptionRequired := by decide
  have value : a.description.buffer.value = "W" := by decide
  refine ⟨message, value, fun honest => ?_⟩
  have warranted := honest _ message
  rw [warranted_iff] at warranted
  refine warranted.2 ⟨'W', ?_, by decide⟩
  show 'W' ∈ a.description.buffer.value.toList
  rw [value]
  decide

end Overriding

end ProblemVisualizer.App
