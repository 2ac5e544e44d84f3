import ProblemVisualizer.Proofs.App.Outstanding

/-! The description form as a mirror.

The form for visual language has two writers, the person who types in it and the
results that arrive. `mirror` says that there is no third: from the moment a
success is applied the form shows its description, until the next success or the
next edit of that very field. Failures, submissions, saving, copying, the help
and work in the other fields leave it alone, the cursor included; and a success
that brings the text which is there already leaves the cursor where it is. -/
namespace ProblemVisualizer.App

open Export (Sink)
open Form (DescriptionForm FormName)
open Generation (Result)
open Session (Completion Starts)
open Text (EditBuffer)

variable {σ : Type}

/-! ### The two writers -/

/-- The result that outcomes bring when they are collected. Of these, the first one under the number
of the pending request is applied, and brings a result if it is a success. -/
def brought? (a : App σ) (cs : List Completion) : Option Result :=
  (cs.find? fun c => a.request = .pending c.id).bind fun c => c.outcome.toOption

/-- The result of the success that an event applies, if it applies one. -/
def success? (a : App σ) (e : Event) : Option Result := a.brought? (a.collected e)

/-- A key that moves the cursor of the description. -/
def MovesInDescription (a : App σ) : Event → Prop
  | .key key control _ => a.mode = .normal ∧ control = false ∧ a.focus = .description ∧
      (key = .left ∨ key = .right ∨ key = .home ∨ key = .toEnd)
  | _ => False

theorem movesInDescription_of_act {a : App σ} {e : Event} {edit : Text.Edit}
    (h : a.act e = .move edit) (focus : a.focus = .description) : a.MovesInDescription e := by
  cases e with
  | key key control =>
    obtain ⟨mode, hc, hk⟩ := act_key h (by simp) (by simp)
    refine ⟨mode, hc, focus, ?_⟩
    cases key with
    | left => exact .inl rfl
    | right => exact .inr (.inl rfl)
    | home => exact .inr (.inr (.inl rfl))
    | toEnd => exact .inr (.inr (.inr rfl))
    | _ => cases hk
  | _ => cases h

/-! ### What each act does to the form -/

theorem description_submit (a : App σ) (form : FormName) :
    (a.submit form).2.description = a.description := by
  obtain ⟨_, _, _, _, left⟩ := submit_eq a form
  rw [left]

theorem description_move_of_ne {a : App σ} (elsewhere : a.focus ≠ .description)
    (f : EditBuffer → EditBuffer) : (a.move f).description = a.description := by
  unfold move
  split
  · rfl
  · rfl
  · contradiction

theorem description_edit_of_ne {a : App σ} (elsewhere : a.focus ≠ .description)
    (f : EditBuffer → EditBuffer) : (a.edit f).description = a.description :=
  description_move_of_ne (a := {a with errors := a.errors.erase a.focus}) elsewhere f

theorem value_move (a : App σ) {f : EditBuffer → EditBuffer}
    (keeps : ∀ b : EditBuffer, (f b).value = b.value) :
    (a.move f).description.buffer.value = a.description.buffer.value := by
  unfold move
  split
  · rfl
  · rfl
  · exact keeps _

theorem seeded_move (a : App σ) (f : EditBuffer → EditBuffer) :
    (a.move f).description.seeded = a.description.seeded := by
  unfold move
  split <;> rfl

/-- A success writes its description, unless that is there already. -/
def written (form : DescriptionForm) (text : String) : DescriptionForm :=
  ⟨if form.buffer.value = text then form.buffer else .ofText text, true⟩

theorem seedFrom_succeeded (result : Result) (form : DescriptionForm) :
    (Session.seedFrom (.succeeded result) form).2 = written form result.description := by
  show (form.seed result.description).2 = _
  unfold DescriptionForm.seed written
  split <;> rfl

theorem brought?_of_pending {a : App σ} {c : Completion} (pending : a.request = .pending c.id) :
    a.brought? [c] = c.outcome.toOption := by
  simp [brought?, pending]

/-- Collecting brings one success, which is written, or leaves the form alone. -/
theorem Collecting.description {a : App σ} {cs : List Completion} {r : Nat × App σ}
    (c : Collecting a cs r) :
    (∃ result, a.brought? cs = some result ∧
      r.2.description = written a.description result.description) ∨
    a.brought? cs = none ∧ r.2.description = a.description := by
  cases c with
  | nothing => exact .inr ⟨rfl, rfl⟩
  | @applied c arrived pending =>
    rw [brought?_of_pending pending]
    cases c.outcome with
    | error e => exact .inr ⟨rfl, rfl⟩
    | ok result => exact .inl ⟨result, rfl, seedFrom_succeeded result a.description⟩

/-! ### One event -/

/-- What an event does to the description: a success is written, an edit or a movement is the
person's, and nothing else changes it. -/
theorem OneInFlight.description_step [Sink σ] {a : App σ} (h : OneInFlight a) (e : Event) :
    (∃ result, a.success? e = some result ∧
      (a.step e).description = written a.description result.description) ∨
    a.success? e = none ∧ (a.Edits .description e ∨
      a.MovesInDescription e ∧
        (a.step e).description.buffer.value = a.description.buffer.value ∨
      (a.step e).description = a.description) := by
  have what := happens a e
  unfold success? collected
  generalize a.step e = b at what
  generalize hact : a.act e = act at what
  cases what with
  | submit form => exact .inr ⟨rfl, .inr (.inr (description_submit a form))⟩
  | edit edit =>
    refine .inr ⟨rfl, ?_⟩
    by_cases focus : a.focus = .description
    · exact .inl ((edits_iff a _ e).mpr ⟨focus, edit, hact⟩)
    · exact .inr (.inr (description_edit_of_ne focus _))
  | move edit keeps =>
    refine .inr ⟨rfl, ?_⟩
    by_cases focus : a.focus = .description
    · exact .inr (.inl ⟨movesInDescription_of_act hact focus, value_move a keeps⟩)
    · exact .inr (.inr (description_move_of_ne focus _))
  | call | finish => exact .inr ⟨rfl, .inr (.inr rfl)⟩
  | collectAll => exact h.collectAll.description.imp_right fun kept => ⟨kept.1, .inr (.inr kept.2)⟩
  | collectNext => exact h.collectNext.description.imp_right fun kept => ⟨kept.1, .inr (.inr kept.2)⟩
  | aside same => exact .inr ⟨rfl, .inr (.inr same.description)⟩

theorem OneInFlight.description_success [Sink σ] {a : App σ} (h : OneInFlight a) {e : Event}
    {result : Result} (success : a.success? e = some result) :
    (a.step e).description = written a.description result.description := by
  rcases h.description_step e with ⟨_, some, shown⟩ | ⟨none, -⟩
  · rw [success] at some
    cases some
    exact shown
  · rw [success] at none
    cases none

theorem value_written (form : DescriptionForm) (text : String) :
    (written form text).buffer.value = text := by
  unfold written
  dsimp only
  split
  · assumption
  · rfl

/-! ### From the last success on -/

/-- No event of a history brings a success or edits the description. -/
def Undisturbed [Sink σ] (a : App σ) : List Event → Prop
  | [] => True
  | e :: rest => a.success? e = none ∧ ¬ a.Edits .description e ∧ Undisturbed (a.step e) rest

theorem OneInFlight.value_of_undisturbed [Sink σ] {a : App σ} (h : OneInFlight a)
    {history : List Event} (quiet : a.Undisturbed history) :
    (a.run history).description.buffer.value = a.description.buffer.value := by
  induction history generalizing a with
  | nil => rfl
  | cons e rest ih =>
    obtain ⟨none, no_edit, others⟩ := quiet
    have first : (a.step e).description.buffer.value = a.description.buffer.value := by
      rcases h.description_step e with ⟨result, some, -⟩ | ⟨-, edit | ⟨-, kept⟩ | kept⟩
      · rw [none] at some
        cases some
      · exact absurd edit no_edit
      · exact kept
      · rw [kept]
    exact (ih (h.step e) others).trans first

/-- **The description form mirrors the last success.** In any history, once a success has been
applied, the form shows its description until another success or an edit of that field. A success
keeps the cursor if its description is what the form shows already, and otherwise puts it at the
end. Whatever else happens, failures, submissions, saving, copying, the help and the other fields
included, changes neither text nor cursor, save that keys can move the cursor in that field. -/
theorem mirror [Sink σ] (sink : σ) (starts : Starts) (history : List Event) :
    let start := App.new sink starts
    let a := start.run history
    (∀ before e after result, history = before ++ e :: after →
      (start.run before).success? e = some result →
      (start.run (before ++ [e])).Undisturbed after →
      a.description.buffer.value = result.description) ∧
    (∀ e result, a.success? e = some result →
      (a.step e).description.buffer.value = result.description ∧
      (a.description.buffer.value = result.description →
        (a.step e).description.buffer = a.description.buffer) ∧
      (a.description.buffer.value ≠ result.description →
        (a.step e).description.buffer.cursor = result.description.length)) ∧
    (∀ e, a.success? e = none → ¬ a.Edits .description e → ¬ a.MovesInDescription e →
      (a.step e).description = a.description) := by
  intro start a
  have reached (h : List Event) : OneInFlight (start.run h) := (oneInFlight_new sink starts).run h
  refine ⟨fun before e after result split success quiet => ?_, fun e result success => ?_,
    fun e none no_edit no_move => ?_⟩
  · have shown := (reached before).description_success success
    have kept := (reached (before ++ [e])).value_of_undisturbed quiet
    rw [← run_append, List.append_assoc, List.singleton_append, ← split] at kept
    rw [kept, run_append]
    show ((start.run before).step e).description.buffer.value = _
    rw [shown, value_written]
  · rw [(reached history).description_success success]
    exact ⟨value_written _ _, fun same => if_pos same,
      fun other => congrArg EditBuffer.cursor (if_neg other)⟩
  · rcases (reached history).description_step e with ⟨_, some, -⟩ | ⟨-, edit | ⟨move, -⟩ | kept⟩
    · rw [none] at some
      cases some
    · exact absurd edit no_edit
    · exact absurd move no_move
    · exact kept

end ProblemVisualizer.App
