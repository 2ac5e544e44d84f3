import ProblemVisualizer.App.State
import ProblemVisualizer.Export.Recorder

/-! Saving a drawing, call by call.

A sink may do what it likes with a call, so the calls it gets are told by a
watch: `Watched` hands every call on to the sink and writes it down. `saving` says
what the watch reads when a drawing is saved, for every client and every sink. As
long as one of the two drawings is missing, the sink is left alone. Otherwise the
drawing's own markup is staged; if that succeeds, its reference is delivered once
and given back once, however the delivery went. Apart from the sink only the
status line changes, and it tells the outcome. -/
namespace ProblemVisualizer

open Generation (Artifact Rendering Result)
open Export (Blob Call ExportError Reference Sink)

variable {σ : Type}

namespace Export

/-- A sink and the calls it has had, the first one first. -/
structure Watched (σ : Type) where
  sink : σ
  calls : List Call := []

/-- Every call is handed on and written down. -/
instance [Sink σ] : Sink (Watched σ) where
  stage blob w :=
    let (answer, sink) := Sink.stage blob w.sink
    (answer, ⟨sink, w.calls ++ [.stage blob]⟩)
  deliver reference filename w :=
    let (answer, sink) := Sink.deliver reference filename w.sink
    (answer, ⟨sink, w.calls ++ [.deliver reference filename]⟩)
  revoke reference w := ⟨Sink.revoke reference w.sink, w.calls ++ [.revoke reference]⟩

/-- What saving a blob can come to: the calls that the sink gets, the answer, and what is left of
the sink. -/
inductive Saves [Sink σ] (sink : σ) (blob : Blob) (filename : String) :
    List Call → Except ExportError String → σ → Prop where
  | unstaged {e : ExportError} {left : σ} (staged : Sink.stage blob sink = (.error e, left)) :
    Saves sink blob filename [.stage blob] (.error e) left
  | delivered {reference : Reference} {between left : σ} {answer : Except ExportError String}
    (staged : Sink.stage blob sink = (.ok reference, between))
    (delivered : Sink.deliver reference filename between = (answer, left)) :
    Saves sink blob filename
      [.stage blob, .deliver reference filename, .revoke reference] answer
      (Sink.revoke reference left)

theorem Saves.calls_ne_nil [Sink σ] {sink left : σ} {blob : Blob} {filename : String}
    {calls : List Call} {answer : Except ExportError String}
    (h : Saves sink blob filename calls answer left) : calls ≠ [] := by
  cases h <;> exact List.cons_ne_nil _ _

/-- A watch reads one of these lists of calls, and disturbs nothing. -/
theorem save_watched [Sink σ] (markup filename : String) (sink : σ) (calls : List Call) :
    ∃ told, Saves sink (.svg markup) filename told (save markup filename sink).1
        (save markup filename sink).2 ∧
      save markup filename (⟨sink, calls⟩ : Watched σ) =
        ((save markup filename sink).1, ⟨(save markup filename sink).2, calls ++ told⟩) := by
  simp only [save]
  cases staged : Sink.stage (.svg markup) sink with
  | mk answer between =>
    have watched : Sink.stage (.svg markup) (⟨sink, calls⟩ : Watched σ) =
        (answer, ⟨between, calls ++ [.stage (.svg markup)]⟩) := by
      simp only [Sink.stage]
      rw [staged]
    rw [watched]
    cases answer with
    | error e => exact ⟨_, .unstaged staged, rfl⟩
    | ok reference =>
      refine ⟨_, .delivered staged rfl, ?_⟩
      simp [Sink.deliver, Sink.revoke]

end Export

namespace App

/-- The client with its sink under watch. -/
def watched (a : App σ) : App (Export.Watched σ) := {a with sink := ⟨a.sink, []⟩}

/-- The request has succeeded, and both drawings are there. -/
def HasDrawings (a : App σ) : Prop :=
  ∃ description formal intuitive,
    a.request = .succeeded ⟨description, .svg formal, .svg intuitive⟩

/-- What the status line says of an attempt to save. -/
def saveReport : Except ExportError String → String
  | .ok path => "Saved " ++ path
  | .error e => "Export failed: " ++ e.message

theorem savable?_of_drawings {a : App σ} {description formal intuitive : String}
    (drawings : a.request = .succeeded ⟨description, .svg formal, .svg intuitive⟩)
    (artifact : Artifact) : a.savable? artifact =
      some (match artifact with | .formal => formal | .intuitive => intuitive) := by
  unfold savable?
  rw [drawings]
  cases artifact <;> rfl

theorem savable?_of_missing {a : App σ} (missing : ¬ a.HasDrawings) (artifact : Artifact) :
    a.savable? artifact = none := by
  unfold savable?
  cases state : a.request with
  | succeeded result =>
    obtain ⟨description, formal, intuitive⟩ := result
    have incomplete : (Result.mk description formal intuitive).isComplete = false := by
      cases formal with
      | unavailable => rfl
      | svg =>
        cases intuitive with
        | unavailable => rfl
        | svg => exact absurd ⟨_, _, _, state⟩ missing
    simp [Session.RequestState.result?, incomplete]
  | idle | pending | failed => rfl

/-! ### What the sink and the status line get -/

section Save

variable [Sink σ] {a : App σ} {artifact : Artifact} {markup : String}

theorem save_of_savable (savable : a.savable? artifact = some markup) :
    (a.save artifact).1 = (Export.save markup artifact.filename a.sink).1 ∧
      (a.save artifact).2.sink = (Export.save markup artifact.filename a.sink).2 := by
  unfold save
  rw [savable]
  exact ⟨rfl, rfl⟩

theorem save_of_unsavable (unsavable : a.savable? artifact = none) :
    (a.save artifact).1 = .error (.unavailable artifact) ∧ (a.save artifact).2.sink = a.sink := by
  unfold save
  rw [unsavable]
  exact ⟨rfl, rfl⟩

/-- The watch reads how the markup was saved. -/
theorem saves_of_savable (savable : a.savable? artifact = some markup) :
    ∃ calls, Export.Saves a.sink (.svg markup) artifact.filename calls (a.save artifact).1
        (a.save artifact).2.sink ∧
      (a.watched.save artifact).1 = (a.save artifact).1 ∧
      (a.watched.save artifact).2.sink = ⟨(a.save artifact).2.sink, calls⟩ := by
  obtain ⟨answer, left⟩ := save_of_savable savable
  obtain ⟨answer', left'⟩ := save_of_savable (a := a.watched) savable
  obtain ⟨calls, saves, watched⟩ := Export.save_watched markup artifact.filename a.sink []
  refine ⟨calls, ?_, ?_, ?_⟩
  · rw [answer, left]
    exact saves
  · rw [answer', answer]
    exact congrArg Prod.fst watched
  · rw [left', left]
    exact congrArg Prod.snd watched

end Save

/-- **Saving, call by call.** Whatever the sink, and whatever the client is at: a watched sink does
and answers the same as one that is not watched, and its watch reads nothing unless the request has
succeeded with both drawings. If it has, the watch reads how the drawing's own markup, as the bytes
of an SVG image, was saved under the file name of that drawing. Otherwise the answer is that the
drawing is unavailable, and the sink is as it was. In any case nothing but the sink and the status
line changes, and the status line reports the answer. -/
theorem saving [Sink σ] (a : App σ) (artifact : Artifact) :
    let saved := a.save artifact
    let watched := a.watched.save artifact
    let calls := watched.2.sink.calls
    (watched.1 = saved.1 ∧ watched.2.sink.sink = saved.2.sink) ∧
    (calls ≠ [] ↔ a.HasDrawings) ∧
    (∀ description formal intuitive,
      a.request = .succeeded ⟨description, .svg formal, .svg intuitive⟩ →
      let markup := match artifact with | .formal => formal | .intuitive => intuitive
      Export.Saves a.sink ⟨"image/svg+xml", Text.encode markup⟩ artifact.filename calls saved.1
        saved.2.sink) ∧
    (¬ a.HasDrawings → saved.1 = .error (.unavailable artifact) ∧ saved.2.sink = a.sink) ∧
    saved.2 = {a with sink := saved.2.sink, status := some (saveReport saved.1)} := by
  intro saved watched calls
  by_cases drawn : a.HasDrawings
  · obtain ⟨description, formal, intuitive, state⟩ := drawn
    obtain ⟨told, saves, answer, left⟩ := saves_of_savable (savable?_of_drawings state artifact)
    have read : calls = told := congrArg Export.Watched.calls left
    refine ⟨⟨answer, congrArg Export.Watched.sink left⟩, ?_, fun _ _ _ same => ?_,
      fun missing => absurd ⟨_, _, _, state⟩ missing, rfl⟩
    · refine iff_of_true ?_ ⟨_, _, _, state⟩
      rw [read]
      exact saves.calls_ne_nil
    · rw [state] at same
      cases same
      rw [read]
      exact saves
  · obtain ⟨answer, left⟩ := save_of_unsavable (savable?_of_missing drawn artifact)
    obtain ⟨answer', left'⟩ := save_of_unsavable (a := a.watched) (savable?_of_missing drawn artifact)
    refine ⟨⟨answer'.trans answer.symm, ?_⟩, ?_,
      fun _ _ _ state => absurd ⟨_, _, _, state⟩ drawn, fun _ => ⟨answer, left⟩, rfl⟩
    · exact (congrArg Export.Watched.sink left').trans left.symm
    · exact iff_of_false (fun some => some (congrArg Export.Watched.calls left')) drawn

end App

end ProblemVisualizer
