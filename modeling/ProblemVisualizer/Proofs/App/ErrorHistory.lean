import ProblemVisualizer.Proofs.App.InlineErrors

/-! Where the messages come from.

Two kinds of events have to do with the message of a form: attempts to submit it,
made while no request is pending and, for the description, after a result has
opened it; and edits of the field that the form cannot do without. Of these, an
attempt that is blocked sets the message and all others take it away. So there is
a message exactly when the last of these events was a blocked attempt:
`error_history`. Whatever else happens leaves it as it is. -/
namespace ProblemVisualizer.App

open Export (Sink)
open Form (Field FormName ValidationError)
open Generation (Telling)
open Session (Starts)

variable {σ : Type}

/-! ### The events that matter -/

/-- The form is submitted at a moment when it is looked at. -/
def Attempts (a : App σ) (form : FormName) (e : Event) : Prop :=
  a.Submits form e ∧ a.isPending = false ∧ (form = .description → a.description.seeded = true)

/-- The attempt is blocked, because the field that the form cannot do without tells nothing. -/
def Blocks (a : App σ) (form : FormName) (e : Event) : Prop :=
  a.Attempts form e ∧ ¬ Telling (a.buffer form.required).value

def Concerns (a : App σ) (form : FormName) (e : Event) : Prop :=
  a.Attempts form e ∨ a.Edits form.required e

/-- Of the events of a history that concern the form, the last one is a blocked attempt. -/
def LastBlocks [Sink σ] (start : App σ) (form : FormName) (history : List Event) : Prop :=
  ∃ before e after, history = before ++ e :: after ∧ (start.run before).Blocks form e ∧
    (start.run (before ++ [e])).Throughout (fun a e => ¬ a.Concerns form e) after

/-- Every message stands beside the field it is about. -/
def Placed (a : App σ) : Prop :=
  ∀ field error, a.errors.get? field = some error → error.field = field

theorem Placed.congr {a b : App σ} (h : a.Placed) (errors : b.errors = a.errors) : b.Placed := by
  unfold Placed
  rw [errors]
  exact h

theorem Placed.set {a b : App σ} (h : a.Placed) {field : Field} {error : Option ValidationError}
    (errors : b.errors = a.errors.set field error) (own : ∀ e ∈ error, e.field = field) :
    b.Placed := by
  intro other message hm
  rw [errors] at hm
  by_cases same : other = field
  · subst same
    rw [FieldErrors.get?_set_self] at hm
    exact own message hm
  · rw [FieldErrors.get?_set_of_ne _ same] at hm
    exact h other message hm

/-! ### One event -/

/-- What an event does to the message of a form. -/
inductive Marks (a b : App σ) (form : FormName) (e : Event) : Prop where
  | set (blocks : a.Blocks form e) (message : ∃ error, b.errors.get? form.required = some error)
  | cleared (concerns : a.Concerns form e) (passes : ¬ a.Blocks form e)
    (none : b.errors.get? form.required = none)
  | kept (passed : ¬ a.Concerns form e)
    (same : b.errors.get? form.required = a.errors.get? form.required)

/-- An event is about the message of one form or of none. -/
theorem concerns_of_act {a : App σ} {form : FormName} {e : Event} (h : a.Concerns form e) :
    a.act e = .submit form ∧ a.Attempts form e ∨
      a.focus = form.required ∧ ∃ edit, a.act e = .edit edit :=
  h.imp (fun attempts => ⟨(submits_iff a form e).mp attempts.1, attempts⟩)
    (edits_iff a form.required e).mp

/-- A form that passes its check tells something where it must. -/
theorem telling_of_checked {a : App σ} {form : FormName} {request : Generation.Request}
    (h : a.checked form = .ok request) : Telling (a.buffer form.required).value := by
  cases snapshot_of_checked h with
  | problem telling => exact telling
  | description telling => exact telling

theorem required_ne {form other : FormName} (h : form ≠ other) : form.required ≠ other.required := by
  cases form <;> cases other <;> first | contradiction | exact nofun

theorem marks_submit {a : App σ} {e : Event} {other : FormName} (act : a.act e = .submit other)
    (form : FormName) : Marks a (a.submit other).2 form e := by
  have submits : a.Submits other e := (submits_iff a other e).mpr act
  -- A submission concerns the form that is submitted, if it is looked at at all.
  have concerns (h : a.Concerns form e) : form = other ∧ a.Attempts form e := by
    rcases concerns_of_act h with ⟨same, attempts⟩ | ⟨_, edit, edits⟩
    · exact ⟨Act.submit.inj (same.symm.trans act), attempts⟩
    · cases act.symm.trans edits
  have := attempt a other
  generalize a.submit other = r at this
  cases this with
  | pending busy =>
    refine .kept (fun h => ?_) rfl
    exact Bool.eq_false_iff.mp (concerns h).2.2.1 busy
  | unseeded free description closed =>
    refine .kept (fun h => ?_) rfl
    obtain ⟨rfl, attempts⟩ := concerns h
    exact Bool.eq_false_iff.mp closed (attempts.2.2 description)
  | @invalid free seeded error checked =>
    obtain ⟨at_fault, untold⟩ := (checked_eq_error_iff a other error).mp checked
    by_cases same : form = other
    · subst same
      refine .set ⟨⟨submits, free, seeded⟩, untold⟩ ⟨error, ?_⟩
      rw [← at_fault]
      exact FieldErrors.get?_set_self ..
    · refine .kept (fun h => same (concerns h).1) ?_
      refine FieldErrors.get?_set_of_ne _ ?_ _
      rw [at_fault]
      exact required_ne same
  | @issued free seeded request checked =>
    by_cases same : form = other
    · subst same
      refine .cleared (.inl ⟨submits, free, seeded⟩) (fun blocks => ?_)
        (FieldErrors.get?_set_self ..)
      exact blocks.2 (telling_of_checked checked)
    · refine .kept (fun h => same (concerns h).1) ?_
      exact FieldErrors.get?_set_of_ne _ (required_ne same) _

theorem marks_edit {a : App σ} {e : Event} {edit : Text.Edit} (act : a.act e = .edit edit)
    (form : FormName) : Marks a (a.edit (·.apply edit)) form e := by
  have errors : (a.edit (·.apply edit)).errors = a.errors.erase a.focus := errors_move _ _
  have not_attempt (h : a.Attempts form e) : False := by
    cases act.symm.trans ((submits_iff a form e).mp h.1)
  by_cases focus : form.required = a.focus
  · refine .cleared (.inr ?_) (fun blocks => not_attempt blocks.1) ?_
    · exact (edits_iff a form.required e).mpr ⟨focus.symm, edit, act⟩
    · rw [errors, focus]
      exact FieldErrors.get?_set_self ..
  · refine .kept (fun h => ?_) ?_
    · rcases concerns_of_act h with ⟨-, attempts⟩ | ⟨same, -⟩
      · exact not_attempt attempts
      · exact focus same.symm
    · rw [errors]
      exact FieldErrors.get?_set_of_ne _ focus _

/-- An event that neither submits nor edits concerns no form. -/
theorem marks_others {a b : App σ} {e : Event} (form : FormName)
    (no_submit : a.act e ≠ .submit form) (no_edit : ∀ edit, a.act e ≠ .edit edit)
    (errors : b.errors = a.errors) : Marks a b form e := by
  refine .kept (fun h => ?_) (by rw [errors])
  rcases concerns_of_act h with ⟨submit, -⟩ | ⟨-, edit, edits⟩
  · exact no_submit submit
  · exact no_edit edit edits

/-- Whatever happens sets the message of a form, takes it away, or does not concern it. -/
theorem OneInFlight.marks [Sink σ] {a : App σ} (h : OneInFlight a) (form : FormName) (e : Event) :
    Marks a (a.step e) form e := by
  have what := happens a e
  generalize a.step e = b at what
  generalize hact : a.act e = act at what
  cases what with
  | submit other => exact marks_submit hact form
  | edit => exact marks_edit hact form
  | move => exact marks_others form (by simp [hact]) (by simp [hact]) (errors_move a _)
  | call | finish => exact marks_others form (by simp [hact]) (by simp [hact]) rfl
  | collectAll => exact marks_others form (by simp [hact]) (by simp [hact]) h.collectAll.errors.1
  | collectNext => exact marks_others form (by simp [hact]) (by simp [hact]) h.collectNext.errors.1
  | aside same => exact marks_others form (by simp [hact]) (by simp [hact]) same.errors

theorem Placed.submit {a : App σ} (h : a.Placed) (form : FormName) : (a.submit form).2.Placed := by
  have := attempt a form
  generalize a.submit form = r at this
  cases this with
  | pending => exact h
  | unseeded => exact h.congr rfl
  | invalid =>
    refine h.set rfl fun error hm => ?_
    cases hm
    rfl
  | issued => exact h.set rfl nofun

theorem OneInFlight.placed_step [Sink σ] {a : App σ} (h : OneInFlight a) (placed : a.Placed)
    (e : Event) : (a.step e).Placed := by
  have what := happens a e
  generalize a.step e = b at what
  generalize a.act e = act at what
  cases what with
  | submit form => exact placed.submit form
  | edit => exact placed.set (errors_move _ _) nofun
  | move => exact placed.congr (errors_move _ _)
  | call | finish => exact placed.congr rfl
  | collectAll => exact placed.congr h.collectAll.errors.1
  | collectNext => exact placed.congr h.collectNext.errors.1
  | aside same => exact placed.congr same.errors

/-- No check looks at the formula. -/
theorem Placed.formula {a : App σ} (h : a.Placed) : a.errors.get? .formula = none := by
  cases message : a.errors.get? .formula with
  | none => rfl
  | some error =>
    have := h .formula error message
    cases error <;> cases this

/-- A success opens the description form, and nothing closes it. -/
theorem OneInFlight.seeded_mono [Sink σ] {a : App σ} (h : OneInFlight a) (e : Event)
    (opened : a.description.seeded = true ∨ ∃ result, a.success? e = some result) :
    (a.step e).description.seeded = true := by
  by_cases success : ∃ result, a.success? e = some result
  · obtain ⟨result, success⟩ := success
    rw [h.description_success success]
    rfl
  · rcases h.seeded_step e with again | kept
    · exact absurd again success
    · rw [kept]
      exact opened.resolve_right success

/-! ### Whole histories -/

theorem OneInFlight.seeded_run [Sink σ] {a : App σ} (h : OneInFlight a)
    (opened : a.description.seeded = true) (later : List Event) :
    (a.run later).description.seeded = true :=
  h.invariant (fun h opened e => h.seeded_mono e (.inl opened)) opened later

/-- The description form is open exactly when some success has been applied. -/
theorem OneInFlight.seeded_iff [Sink σ] {a : App σ} (h : OneInFlight a)
    (closed : a.description.seeded = false) (history : List Event) :
    (a.run history).description.seeded = true ↔ a.Succeeded history := by
  constructor
  · exact h.succeeded_of_seeded closed
  · rintro ⟨earlier, e, between, result, rfl, success⟩
    rw [run_append]
    have opened := (h.run earlier).seeded_mono e (.inr ⟨result, success⟩)
    exact ((h.run earlier).step e).seeded_run opened between

/-- One more event either concerns the form, and then is the last to do so, or changes nothing
about which one is. -/
theorem lastBlocks_concat [Sink σ] (start : App σ) (form : FormName) (history : List Event)
    (e : Event) : start.LastBlocks form (history ++ [e]) ↔
      (start.run history).Blocks form e ∨
        ¬ (start.run history).Concerns form e ∧ start.LastBlocks form history := by
  constructor
  · rintro ⟨before, last, after, split, blocks, passed⟩
    obtain rfl | ⟨after, e', rfl⟩ := after.eq_nil_or_concat'
    · obtain ⟨rfl, same⟩ := List.append_inj' split rfl
      cases same
      exact .inl blocks
    · rw [← List.cons_append, ← List.append_assoc] at split
      obtain ⟨rfl, same⟩ := List.append_inj' split rfl
      cases same
      obtain ⟨passed, at_end⟩ := throughout_append.mp passed
      rw [← run_append, List.append_assoc, List.singleton_append] at at_end
      exact .inr ⟨at_end.1, before, last, after, rfl, blocks, passed⟩
  · rintro (blocks | ⟨passed, before, last, after, rfl, blocks, others⟩)
    · exact ⟨history, e, [], rfl, blocks, trivial⟩
    · refine ⟨before, last, after ++ [e], by simp, blocks, ?_⟩
      refine throughout_append.mpr ⟨others, ?_, trivial⟩
      rwa [← run_append, List.append_assoc, List.singleton_append]

theorem OneInFlight.message_iff [Sink σ] {start : App σ} (h : OneInFlight start)
    {form : FormName} (fresh : start.errors.get? form.required = none) (history : List Event) :
    (∃ error, (start.run history).errors.get? form.required = some error) ↔
      start.LastBlocks form history := by
  induction history using List.reverseRecOn with
  | nil =>
    refine iff_of_false (fun ⟨error, message⟩ => ?_) (fun ⟨before, e, after, split, _⟩ => ?_)
    · cases fresh.symm.trans message
    · simp at split
  | append_singleton history e ih =>
    have step : start.run (history ++ [e]) = (start.run history).step e := run_append ..
    rw [lastBlocks_concat, step]
    cases (h.run history).marks form e with
    | set blocks message => exact iff_of_true message (.inl blocks)
    | cleared concerns passes none =>
      rw [none]
      refine iff_of_false (fun ⟨_, h⟩ => nomatch h) fun h => ?_
      exact h.elim passes fun h => h.1 concerns
    | kept passed same =>
      rw [same, ih]
      constructor
      · exact fun last => .inr ⟨passed, last⟩
      · rintro (blocks | last)
        · exact absurd (.inl blocks.1) passed
        · exact last.2

/-- **The messages tell the history of their fields.** After any history every message stands
beside the field it is about, and there is none beside the formula. There is one beside the problem
exactly when, of all the attempts to submit the first form and all the edits of the problem, the
last one was an attempt blocked by a problem that tells nothing; and so for the description, where
attempts count from the first success on, which opens it. Nothing else that happens sets a message
or takes one away. -/
theorem error_history [Sink σ] (sink : σ) (starts : Starts) (history : List Event) :
    let start := App.new sink starts
    let a := start.run history
    (∀ field error, a.errors.get? field = some error → error.field = field) ∧
    a.errors.get? .formula = none ∧
    (∀ form, (∃ error, a.errors.get? form.required = some error) ↔
      start.LastBlocks form history) ∧
    (∀ form e, ¬ a.Concerns form e →
      (a.step e).errors.get? form.required = a.errors.get? form.required) ∧
    (a.description.seeded = true ↔ start.Succeeded history) := by
  intro start a
  have h : OneInFlight start := oneInFlight_new sink starts
  have fresh (field : Field) : start.errors.get? field = none := by cases field <;> rfl
  have placed : a.Placed := by
    refine h.invariant OneInFlight.placed_step (fun field error message => ?_) history
    cases (fresh field).symm.trans message
  refine ⟨placed, placed.formula, fun form => h.message_iff (fresh _) history,
    fun form e passed => ?_, h.seeded_iff rfl history⟩
  cases (h.run history).marks form e with
  | set blocks => exact absurd (.inl blocks.1) passed
  | cleared concerns => exact absurd concerns passed
  | kept _ same => exact same

end ProblemVisualizer.App
