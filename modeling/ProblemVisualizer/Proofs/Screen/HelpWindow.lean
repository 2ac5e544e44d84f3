import ProblemVisualizer.Export.Recorder
import ProblemVisualizer.Proofs.App.Timing
import ProblemVisualizer.Proofs.Screen.CursorPlace
import ProblemVisualizer.Proofs.Screen.Painting

/-! Scrolling the help.

The client counts how far it has been asked to scroll down, and the screen shows the window
that far down, or the last one if there is none. As long as the count does not go past the
last window, the two are the same and each key moves the window. Behind it, the keys that
lead up count down what is too much before anything moves: `help_scrolling` says what shows
and how it moves in every state, and which histories stay clear of that. -/
namespace ProblemVisualizer

open Export (Sink)

variable {σ : Type}

/-- How many lines further down an event asks for. -/
def Event.descent : Event → Nat
  | .key .down _ _ | .key (.char 'j') _ _ => 1
  | .key .pageDown _ _ => helpPage
  | _ => 0

namespace App

/-! ### How far the help is scrolled -/

theorem helpScroll_submit (a : App σ) (form : Form.FormName) :
    (a.submit form).2.helpScroll = a.helpScroll := by
  obtain ⟨_, _, _, _, left⟩ := submit_eq a form
  rw [left]

theorem helpScroll_move (a : App σ) (f : Text.EditBuffer → Text.EditBuffer) :
    (a.move f).helpScroll = a.helpScroll := by
  obtain ⟨_, _, moved⟩ := move_eq a f
  rw [moved]

theorem helpScroll_command [Sink σ] (clipboard : Clipboard) (a : App σ) (key : Key) :
    (a.command clipboard key).helpScroll = a.helpScroll := by
  obtain ⟨_, _, _, _, _, _, left⟩ := command_eq clipboard a key
  rw [left]

/-- Beside the help, a key leaves it where it is or opens it anew. -/
theorem helpScroll_typeKey_le (a : App σ) (key : Key) :
    (a.typeKey key).helpScroll ≤ a.helpScroll := by
  cases key with
  | enter => exact Nat.le_of_eq (helpScroll_submit a a.focus.form)
  | backspace | delete | char | left | right | home | toEnd =>
    exact Nat.le_of_eq (helpScroll_move _ _)
  | function n =>
    unfold typeKey
    split <;> first | exact Nat.zero_le _ | exact Nat.le_refl _ | contradiction
  | _ => exact Nat.le_refl _

theorem helpScroll_local {f : App σ → App σ} (within : Local f) (a : App σ) :
    (f a).helpScroll = a.helpScroll := by
  rw [within.eq_withLink a]
  rfl

theorem helpScroll_helpKey_le (a : App σ) (key : Key) (control : Bool) (clipboard : Clipboard) :
    (a.helpKey key).helpScroll ≤ a.helpScroll + (Event.key key control clipboard).descent := by
  unfold helpKey
  split <;> simp [Event.descent, hideHelp]

/-- **Only what is asked for while the help is open takes it further down.** -/
theorem helpScroll_step_le [Sink σ] (a : App σ) (e : Event) :
    (a.step e).helpScroll ≤ a.helpScroll + if a.mode = .help then e.descent else 0 := by
  have kept {b : App σ} (same : b.helpScroll = a.helpScroll) :
      b.helpScroll ≤ a.helpScroll + if a.mode = .help then e.descent else 0 :=
    Nat.le_trans (Nat.le_of_eq same) (Nat.le_add_right _ _)
  cases e with
  | key key control clipboard =>
    simp only [step, handle]
    cases mode : a.mode with
    | help => exact helpScroll_helpKey_le a key control clipboard
    | normal =>
      cases control with
      | true => exact Nat.le_of_eq (helpScroll_command clipboard a key)
      | false => exact helpScroll_typeKey_le a key
  | edit edit => exact kept (helpScroll_move _ _)
  | submit form => exact kept (helpScroll_submit a form)
  | submitFocused => exact kept (helpScroll_submit a a.focus.form)
  | call id => exact kept (helpScroll_local (local_call id) a)
  | finish id outcome => exact kept (helpScroll_local (local_finish id outcome) a)
  | collectAll => exact kept (helpScroll_local local_collectAll a)
  | collectNext => exact kept (helpScroll_local local_collectNext a)

end App

namespace Screen

variable {width height : Nat}

/-- How many lines of the help there is room for. -/
def Help.room (width height : Nat) : Nat := (popup width height).inner.height

/-- The first line of the last window. -/
def Help.lastTop (width height : Nat) : Nat := lines.length - room width height

/-- The first line of the help that shows. -/
def helpTop (a : App σ) (width height : Nat) : Nat :=
  Help.firstLine a.helpScroll (Help.room width height)

theorem helpTop_eq (a : App σ) (width height : Nat) :
    helpTop a width height = min a.helpScroll (Help.lastTop width height) := rfl

/-- A line stands in a row of an area, as far as there are columns for it. -/
def Reads (canvas : Canvas) (area : Area) (row : Nat) (line : String) : Prop :=
  ∀ before g after, (Line.ofString line {}).cut area.width = before ++ g :: after → g.width ≠ 0 →
    (canvas.get? (area.x + Line.width before) (area.y + row)).map Cell.symbol
      = some (String.ofList g.symbol)

/-- In the popup stand lines of the help that follow on one another, as many as there is room for
or all. -/
structure ShowsHelp (a : App σ) (width height : Nat) : Prop where
  range : helpTop a width height + min (Help.room width height) Help.lines.length
    ≤ Help.lines.length
  reads : ∀ row < min (Help.room width height) Help.lines.length,
    ∃ line, Help.lines[helpTop a width height + row]? = some line ∧
      Reads (render a width height).canvas (Help.popup width height).inner row line

/-- The help is open, and the window begins with this line. -/
structure ShowsFrom (a : App σ) (width height top : Nat) : Prop where
  help : a.mode = .help
  first : helpTop a width height = top

/-- A key that leads down brings up one more line, unless the last one shows. -/
def Descends [Sink σ] (a : App σ) (width height : Nat) : Prop :=
  ∀ key control clipboard, key = .down ∨ key = .char 'j' →
    ShowsFrom (a.handle clipboard key control) width height
      (if helpTop a width height + Help.room width height < Help.lines.length
        then helpTop a width height + 1 else helpTop a width height)

/-- A key that leads up brings back one more line, unless the first one shows. -/
def Ascends [Sink σ] (a : App σ) (width height : Nat) : Prop :=
  ∀ key control clipboard, key = .up ∨ key = .char 'k' →
    ShowsFrom (a.handle clipboard key control) width height (helpTop a width height - 1)

/-- A key that leads up changes nothing that shows. -/
def Stuck [Sink σ] (a : App σ) (width height : Nat) : Prop :=
  ∀ key control clipboard, key = .up ∨ key = .char 'k' →
    render (a.handle clipboard key control) width height = render a width height

/-- While the help is open, no event asks for more lines than there are below the window. -/
def Sparing (width height : Nat) (a : App σ) (e : Event) : Prop :=
  a.mode = .help → e.descent ≤ Help.lines.length - (helpTop a width height + Help.room width height)

/-! ### What is scrolled too far -/

theorem helpScroll_step [Sink σ] {a : App σ} {e : Event}
    (within : a.helpScroll ≤ Help.lastTop width height) (sparing : Sparing width height a e) :
    (a.step e).helpScroll ≤ Help.lastTop width height := by
  have further := App.helpScroll_step_le a e
  unfold Sparing at sparing
  rw [helpTop_eq, Nat.min_eq_left within] at sparing
  unfold Help.lastTop at within ⊢
  split at further
  · rename_i help
    have spare := sparing help
    omega
  · omega

theorem helpScroll_run [Sink σ] {a : App σ} {history : List Event}
    (within : a.helpScroll ≤ Help.lastTop width height)
    (sparing : a.Throughout (Sparing width height) history) :
    (a.run history).helpScroll ≤ Help.lastTop width height := by
  induction history generalizing a with
  | nil => exact within
  | cons e rest ih => exact ih (helpScroll_step within sparing.1) sparing.2

/-! ### What shows -/

theorem size_ground (a : App σ) (areas : List (Panel × Area)) (width height : Nat) :
    (paint a areas (Canvas.blank width height)).width = width ∧
      (paint a areas (Canvas.blank width height)).height = height := by
  obtain ⟨w, h⟩ := sameSize_paint a areas (Canvas.blank width height)
  exact ⟨w, h⟩

theorem canvas_render (a : App σ) (help : a.mode = .help) (width height : Nat) :
    (render a width height).canvas =
      (helpBox a.helpScroll (Help.room width height)).draw (Help.popup width height)
        ((paint a (layout (appPanels a) width height) (Canvas.blank width height)).clear
          (Help.popup width height)) := by
  have shown : (render a width height).canvas = drawHelp a.helpScroll
      (paint a (layout (appPanels a) width height) (Canvas.blank width height)) := if_pos help
  obtain ⟨w, h⟩ := size_ground a (layout (appPanels a) width height) width height
  rw [shown, drawHelp, w, h]
  rfl

/-- The popup lies on the screen. -/
theorem popup_inside (width height : Nat) :
    (Help.popup width height).right ≤ width ∧ (Help.popup width height).bottom ≤ height := by
  have columns := Nat.mod_le (width * 4) coordinateBound
  have rows := Nat.mod_le (height * 4) coordinateBound
  simp only [Help.popup, Area.right, Area.bottom]
  omega

theorem length_window (scroll room : Nat) :
    (Help.window scroll room).length = min room Help.lines.length := by
  unfold Help.window Help.firstLine
  rw [List.length_take, List.length_drop]
  omega

/-- Every place inside the popup has a cell. -/
theorem isSome_get?_ground (a : App σ) {column row : Nat}
    (columns : column < (Help.popup width height).inner.width)
    (rows : row < (Help.popup width height).inner.height) :
    (((paint a (layout (appPanels a) width height) (Canvas.blank width height)).clear
      (Help.popup width height)).get? ((Help.popup width height).inner.x + column)
        ((Help.popup width height).inner.y + row)).isSome = true := by
  obtain ⟨right, bottom⟩ := popup_inside width height
  obtain ⟨_, panels⟩ := repaints_stack a width (height - fixedHeight (appPanels a)) 0 (appPanels a)
    (Canvas.blank width height)
  rw [Canvas.clear, Canvas.get?_map, Option.isSome_map, layout, panels.places]
  simp only [Area.inner, Area.right, Area.bottom] at columns rows right bottom ⊢
  exact isSome_get?_blank (by omega) (by omega)

/-- The rows of the popup are the lines of the window, cut to its width. -/
theorem rows_helpBox (scroll room : Nat) {above below : List String} {line : String}
    (window : Help.window scroll room = above ++ line :: below) (columns : Nat) :
    (helpBox scroll room).rows columns = above.map (fun l => (Line.ofString l {}).cut columns) ++
      (Line.ofString line {}).cut columns :: below.map fun l => (Line.ofString l {}).cut columns := by
  have rows : (helpBox scroll room).rows columns
      = (Help.window scroll room).map fun l => (Line.ofString l {}).cut columns := List.map_map
  rw [rows, window, List.map_append, List.map_cons]

/-- A line of the window stands in its row. -/
theorem reads_render {a : App σ} (help : a.mode = .help) {row : Nat} {line : String}
    (stands : (Help.window a.helpScroll (Help.room width height))[row]? = some line) :
    Reads (render a width height).canvas (Help.popup width height).inner row line := by
  intro before g after whole columns
  have narrow : Line.width before + g.width ≤ (Help.popup width height).inner.width := by
    have cut : Line.width ((Line.ofString line {}).cut _) ≤ (Help.popup width height).inner.width :=
      Line.width_fitting_le _ _ _
    have rest : Line.width (g :: after) = g.width + Line.width after := rfl
    rw [whole, Line.width_append] at cut
    omega
  have column : Line.width before < (Help.popup width height).inner.width := by omega
  obtain ⟨above, below, window, rfl⟩ := exists_of_getElem? stands
  have room : above.length < (Help.popup width height).inner.height := by
    have length := length_window a.helpScroll (Help.room width height)
    rw [window, List.length_append, List.length_cons, Help.room] at length
    omega
  have place := isSome_get?_ground a column room
  rw [canvas_render a help]
  generalize (paint a (layout (appPanels a) width height) (Canvas.blank width height)).clear
    (Help.popup width height) = panels at place ⊢
  obtain ⟨ground, drawn, shown⟩ := get?_paragraph (helpBox a.helpScroll (Help.room width height))
    (Help.popup width height) (rows_helpBox _ _ window _) (Nat.ne_zero_of_lt column)
    (by rwa [List.length_map]) panels ((Help.popup width height).inner.x + Line.width before)
  have unmoved (row : Line) : (helpBox a.helpScroll (Help.room width height)).indent
    (Help.popup width height).inner.width row = 0 := rfl
  have inner : (helpBox a.helpScroll (Help.room width height)).inner (Help.popup width height)
    = (Help.popup width height).inner := rfl
  rw [List.length_map, inner, unmoved, Nat.add_zero, whole] at shown
  rw [← drawn.places] at place
  rw [shown]
  exact Line.symbol_draw columns place

/-- **The popup shows the window**, wherever it is scrolled to. -/
theorem showsHelp {a : App σ} (help : a.mode = .help) (width height : Nat) :
    ShowsHelp a width height where
  range := by
    unfold helpTop Help.firstLine
    omega
  reads row inside := by
    rw [← length_window a.helpScroll] at inside
    refine ⟨(Help.window a.helpScroll (Help.room width height))[row], ?_,
      reads_render help (List.getElem?_eq_getElem inside)⟩
    rw [← List.getElem?_eq_getElem inside]
    have fits : row < Help.room width height := by
      rw [length_window] at inside
      omega
    unfold Help.window
    rw [List.getElem?_take_of_lt fits, List.getElem?_drop]
    rfl

/-! ### What moves -/

theorem helpBox_congr {scroll other room : Nat}
    (same : Help.firstLine scroll room = Help.firstLine other room) :
    helpBox scroll room = helpBox other room := by
  unfold helpBox Help.window
  rw [same]

/-- The screen does not tell how much too far the help is scrolled. -/
theorem render_of_helpTop {a : App σ} {scroll : Nat}
    (same : helpTop {a with helpScroll := scroll} width height = helpTop a width height) :
    render {a with helpScroll := scroll} width height = render a width height := by
  have canvas : (render {a with helpScroll := scroll} width height).canvas
      = (render a width height).canvas := by
    by_cases help : a.mode = .help
    · rw [canvas_render a help, canvas_render {a with helpScroll := scroll} help, helpBox_congr same]
      rfl
    · have shut (n : Nat) : (render {a with helpScroll := n} width height).canvas
          = paint a (layout (appPanels a) width height) (Canvas.blank width height) := if_neg help
      exact (shut scroll).trans (shut a.helpScroll).symm
  show Frame.mk (render {a with helpScroll := scroll} width height).canvas
    (render a width height).cursor = render a width height
  rw [canvas]

variable [Sink σ] {a : App σ} {key : Key} {control : Bool} {clipboard : Clipboard}

theorem handle_of_help (help : a.mode = .help) : a.handle clipboard key control = a.helpKey key := by
  rw [App.handle, help]

theorem handle_down (help : a.mode = .help) (down : key = .down ∨ key = .char 'j') :
    a.handle clipboard key control = {a with helpScroll := a.helpScroll + 1} := by
  rw [handle_of_help help]
  rcases down with rfl | rfl <;> rfl

theorem handle_up (help : a.mode = .help) (up : key = .up ∨ key = .char 'k') :
    a.handle clipboard key control = {a with helpScroll := a.helpScroll - 1} := by
  rw [handle_of_help help]
  rcases up with rfl | rfl <;> rfl

theorem descends (help : a.mode = .help) (width height : Nat) : Descends a width height := by
  intro key control clipboard down
  rw [handle_down help down]
  refine ⟨help, ?_⟩
  have before : helpTop a width height
      = min a.helpScroll (Help.lines.length - Help.room width height) := rfl
  have after : helpTop {a with helpScroll := a.helpScroll + 1} width height
      = min (a.helpScroll + 1) (Help.lines.length - Help.room width height) := rfl
  by_cases more : helpTop a width height + Help.room width height < Help.lines.length
  · rw [if_pos more]
    omega
  · rw [if_neg more]
    omega

theorem ascends (help : a.mode = .help) (within : a.helpScroll ≤ Help.lastTop width height) :
    Ascends a width height := by
  intro key control clipboard up
  rw [handle_up help up]
  refine ⟨help, ?_⟩
  simp only [helpTop_eq]
  omega

theorem stuck (help : a.mode = .help) (beyond : Help.lastTop width height < a.helpScroll) :
    Stuck a width height := by
  intro key control clipboard up
  rw [handle_up help up]
  refine render_of_helpTop ?_
  simp only [helpTop_eq]
  omega

/-- **How the help is scrolled.** Take any screen, any history, and any state with the help open that
it leads to. The popup shows consecutive lines of the help, as many as there is room for or all; a
key that leads down moves them by one line unless the last one shows. A key that leads up moves them
back by one line unless the first one shows, if the help has not been scrolled past its last line;
if it has, such a key changes nothing on the screen. And it has not if it was not at the start of the
history and at no moment with the help open more lines were asked for than there were below. -/
theorem help_scrolling (a : App σ) (history : List Event) (width height : Nat)
    (help : (a.run history).mode = .help) :
    ShowsHelp (a.run history) width height ∧
    Descends (a.run history) width height ∧
    ((a.run history).helpScroll ≤ Help.lastTop width height → Ascends (a.run history) width height) ∧
    (Help.lastTop width height < (a.run history).helpScroll → Stuck (a.run history) width height) ∧
    (a.helpScroll ≤ Help.lastTop width height → a.Throughout (Sparing width height) history →
      Ascends (a.run history) width height) :=
  ⟨showsHelp help width height, descends help width height, ascends help, stuck help,
    fun within sparing => ascends help (helpScroll_run within sparing)⟩

section Popup

/-- A client that has just started. -/
def started : App Export.Recorder := .new {}

/-- Opens the help and goes down a number of times. -/
def goingDown (times : Nat) : List Event :=
  .key (.function 1) false .unreachable :: List.replicate times (.key .down false .unreachable)

/-- The popup has room for all lines but one. One step down shows the last line, and one step up
the first one again. -/
theorem help_scrolling_once :
    ((started.run (goingDown 1)).mode = .help ∧ Help.room 20 43 = 32 ∧
      helpTop (started.run (goingDown 1)) 20 43 = 1) ∧
    Ascends (started.run (goingDown 1)) 20 43 := by
  have sparing : started.Throughout (Sparing 20 43) (goingDown 1) :=
    ⟨nofun, fun _ => by decide, trivial⟩
  have help : (started.run (goingDown 1)).mode = .help := rfl
  exact ⟨⟨help, by decide, by decide⟩,
    (help_scrolling started (goingDown 1) 20 43 help).2.2.2.2 (Nat.zero_le _) sparing⟩

/-- After a second step down, one step up shows the same lines as before, although the first one is
not among them. -/
theorem help_scrolled_past_end :
    (started.run (goingDown 2)).mode = .help ∧ 0 < helpTop (started.run (goingDown 2)) 20 43 ∧
    helpTop ((started.run (goingDown 2)).handle .unreachable .up false) 20 43
      = helpTop (started.run (goingDown 2)) 20 43 :=
  ⟨rfl, by decide, by decide⟩

end Popup

end Screen
end ProblemVisualizer
