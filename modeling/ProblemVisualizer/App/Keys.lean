import ProblemVisualizer.App.State

/-! What keys do.

While the help is open every key is for the help. Otherwise a key with Control
is a command, and all other keys move the focus, submit, or edit the focused
field. -/
namespace ProblemVisualizer

open Export (Sink)

inductive Key where
  | char (c : Char)
  | enter
  | tab
  | backTab
  | up
  | down
  | left
  | right
  | home
  | toEnd
  | pageUp
  | pageDown
  | backspace
  | delete
  | escape
  | function (n : Nat)
  /-- A key that nothing is bound to. -/
  | other
deriving DecidableEq, Repr

/-- How many lines a page key scrolls the help. -/
def helpPage : Nat := 5

/-- What the system clipboard answers to a text. -/
abbrev Clipboard := String → Except String Unit

/-- The clipboard where there is no display to own it. -/
def Clipboard.unreachable : Clipboard := fun _ =>
  .error ("Unknown error while interacting with the clipboard: " ++
    "X11 server connection timed out because it was unreachable")

namespace App

variable {σ : Type}

/-- Copies the visual language, if there is any. -/
def copyDescription (clipboard : Clipboard) (a : App σ) : App σ :=
  a.reportCopy (if a.description.seeded then clipboard a.description.buffer.value
    else .error "no visual language yet")

/-- A key pressed with Control. -/
def command [Sink σ] (clipboard : Clipboard) (a : App σ) : Key → App σ
  | .char 'q' | .char 'c' => {a with shouldQuit := true}
  | .char 'r' => (a.submit .description).2
  | .char 'f' => (a.save .formal).2
  | .char 't' => (a.save .intuitive).2
  | .char 'y' => a.copyDescription clipboard
  | _ => a

/-- A key pressed without Control while the forms are active. -/
def typeKey (a : App σ) : Key → App σ
  | .function 1 => a.showHelp
  | .tab | .down => a.focusNext
  | .backTab | .up => a.focusPrevious
  | .enter => a.submitFocused.2
  | .escape => {a with status := none}
  | .backspace => a.edit .backspace
  | .delete => a.edit .delete
  | .left => a.move .left
  | .right => a.move .right
  | .home => a.move .home
  | .toEnd => a.move .toEnd
  | .char c => a.edit (.insert c)
  | _ => a

/-- A key pressed while the help is open. -/
def helpKey (a : App σ) : Key → App σ
  | .escape | .function 1 | .char '?' | .char 'q' => a.hideHelp
  | .up | .char 'k' => {a with helpScroll := a.helpScroll - 1}
  | .down | .char 'j' => {a with helpScroll := a.helpScroll + 1}
  | .pageUp => {a with helpScroll := a.helpScroll - helpPage}
  | .pageDown => {a with helpScroll := a.helpScroll + helpPage}
  | .home => {a with helpScroll := 0}
  | _ => a

/-- Handles one key press. -/
def handle [Sink σ] (clipboard : Clipboard) (a : App σ) (key : Key) (control : Bool) : App σ :=
  match a.mode with
  | .help => a.helpKey key
  | .normal => if control then a.command clipboard key else a.typeKey key

/-- Handles one key press on a machine without a display. -/
def press [Sink σ] (a : App σ) (key : Key) (control : Bool) : App σ :=
  a.handle .unreachable key control

end App

end ProblemVisualizer
