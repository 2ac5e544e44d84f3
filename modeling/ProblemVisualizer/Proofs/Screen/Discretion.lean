import ProblemVisualizer.Export.Recorder
import ProblemVisualizer.Screen.View

/-! What the screen keeps to itself.

A pending request looks like any other, and a result that is not complete shows
the reasons for what is missing and nothing of what did come. `discretion` puts
this as a statement about two clients: where they are alike in everything but
their requests, and these are two pending ones or two partial results with the same
reasons, the screens are the same, cell by cell and with the same cursor. So
nobody can tell by looking what the drawing that came is, or which of the two it
is, nor what a pending request has come after.

It does not matter how the screen is divided between the panels, as long as it is
done by the panels and the size alone. -/
namespace ProblemVisualizer.Screen

open Form (Field)
open Generation (Result)
open Session (RequestState)

variable {σ : Type}

/-- Alike in everything that can be seen but the request. -/
structure AlikeBesideRequest (a b : App σ) : Prop where
  problem : b.problem = a.problem
  description : b.description = a.description
  focus : b.focus = a.focus
  mode : b.mode = a.mode
  helpScroll : b.helpScroll = a.helpScroll
  errors : b.errors = a.errors
  status : b.status = a.status

/-- Two states of a request that look the same: both are pending, or both have brought a result
that is not complete, and the same reasons are given for what is missing. -/
inductive Indistinct : RequestState → RequestState → Prop where
  | pending (id other : Session.RequestId) : Indistinct (.pending id) (.pending other)
  | incomplete {r s : Result} (first : r.isComplete = false) (second : s.isComplete = false)
    (reasons : r.missing.map Prod.snd = s.missing.map Prod.snd) :
    Indistinct (.succeeded r) (.succeeded s)

/-! ### What is read of the request -/

namespace Indistinct

variable {s t : RequestState}

theorem error?_eq (h : Indistinct s t) : s.error? = t.error? := by
  cases h <;> rfl

theorem isPending_eq (h : Indistinct s t) : s.isPending = t.isPending := by
  cases h <;> rfl

/-- The reasons are all that a partial result puts on the screen. -/
theorem missingBox_eq {r s : Result} (reasons : r.missing.map Prod.snd = s.missing.map Prod.snd) :
    missingBox r = missingBox s := by
  have lines (r : Result) : (missingBox r).lines =
      (r.missing.map Prod.snd).map fun reason => Line.ofString reason {} := by
    rw [List.map_map]
    rfl
  have same : (missingBox r).lines = (missingBox s).lines := by rw [lines r, lines s, reasons]
  exact congrArg (fun lines => {missingBox r with lines}) same

theorem drawDrawings_eq (h : Indistinct s t) (area : Area) (canvas : Canvas) :
    drawDrawings s area canvas = drawDrawings t area canvas := by
  cases h with
  | pending => rfl
  | incomplete first second reasons =>
    simp only [drawDrawings, first, second, Bool.false_eq_true, if_false, missingBox_eq reasons]

end Indistinct

/-! ### Panel by panel -/

section Panels

variable {a b : App σ}

theorem AlikeBesideRequest.eq (alike : AlikeBesideRequest a b) :
    b = {a with shouldQuit := b.shouldQuit, slot := b.slot, workers := b.workers, sink := b.sink} := by
  obtain ⟨problem, description, focus, mode, helpScroll, errors, status⟩ := alike
  rw [← problem, ← description, ← focus, ← mode, ← helpScroll, ← errors, ← status]

theorem drawPanel_eq (alike : AlikeBesideRequest a b) (hidden : Indistinct a.request b.request)
    (panel : Panel) (area : Area) (canvas : Canvas) :
    drawPanel a panel area canvas = drawPanel b panel area canvas := by
  have pending : a.isPending = b.isPending := hidden.isPending_eq
  cases panel with
  | header | error => rfl
  | field field =>
    rw [alike.eq]
    rfl
  | generate | resubmit =>
    unfold drawPanel button
    rw [pending]
  | drawings => exact hidden.drawDrawings_eq area canvas
  | status =>
    unfold drawPanel statusBar statusText
    rw [pending, alike.mode, alike.status]

theorem panelCursor?_eq (alike : AlikeBesideRequest a b) : panelCursor? a = panelCursor? b := by
  rw [alike.eq]
  rfl

theorem appPanels_eq (alike : AlikeBesideRequest a b) (hidden : Indistinct a.request b.request) :
    appPanels a = appPanels b := by
  unfold appPanels
  rw [hidden.error?_eq, alike.description]

theorem compose_eq (alike : AlikeBesideRequest a b) (hidden : Indistinct a.request b.request)
    (areas : List (Panel × Area)) (width height : Nat) :
    compose a areas width height = compose b areas width height := by
  have drawn : (fun (canvas : Canvas) (p : Panel × Area) => drawPanel a p.1 p.2 canvas)
      = fun canvas p => drawPanel b p.1 p.2 canvas := by
    funext canvas p
    exact drawPanel_eq alike hidden p.1 p.2 canvas
  unfold compose
  rw [drawn, alike.mode, alike.helpScroll, panelCursor?_eq alike]

end Panels

/-- **The screen is discreet.** Two clients are alike in everything but their requests, and these
are both pending, or both have brought results that are not complete, with the same reasons given.
Then the screens are the same at every size, whether the help is open or not: every cell, and the
cursor. This is so in whatever way the screen is divided between the panels, and so for the layout
of `render`. -/
theorem discretion {a b : App σ} (alike : AlikeBesideRequest a b)
    (hidden : Indistinct a.request b.request) (width height : Nat) :
    (∀ divide : List Panel → Nat → Nat → List (Panel × Area),
      compose a (divide (appPanels a) width height) width height
        = compose b (divide (appPanels b) width height) width height) ∧
    render a width height = render b width height := by
  have divided (divide : List Panel → Nat → Nat → List (Panel × Area)) :
      compose a (divide (appPanels a) width height) width height
        = compose b (divide (appPanels b) width height) width height := by
    rw [appPanels_eq alike hidden]
    exact compose_eq alike hidden _ width height
  exact ⟨divided, divided layout⟩

section Halves

open Export (Recorder)

/-- A client that has a result with the formal drawing alone. -/
def formalOnly : App Recorder :=
  { App.new {} with
    description := .ofText "V"
    slot := ⟨.succeeded ⟨"V", .svg "<svg id=1/>", .unavailable "It did not work out."⟩, 1⟩ }

/-- The same client with a result that has the other one, and other visual language. -/
def intuitiveOnly : App Recorder :=
  { formalOnly with
    slot := ⟨.succeeded ⟨"W", .unavailable "It did not work out.", .svg "<g/>"⟩, 4⟩ }

/-- Which of the drawings came is not to be seen. -/
theorem discretion_halves :
    AlikeBesideRequest formalOnly intuitiveOnly ∧
      Indistinct formalOnly.request intuitiveOnly.request ∧
      formalOnly.request ≠ intuitiveOnly.request ∧
      render formalOnly 80 40 = render intuitiveOnly 80 40 := by
  have alike : AlikeBesideRequest formalOnly intuitiveOnly := ⟨rfl, rfl, rfl, rfl, rfl, rfl, rfl⟩
  have hidden : Indistinct formalOnly.request intuitiveOnly.request := .incomplete rfl rfl rfl
  exact ⟨alike, hidden, by decide, (discretion alike hidden 80 40).2⟩

end Halves

end ProblemVisualizer.Screen
