import ProblemVisualizer.Screen.Canvas

/-! The help.

A popup shows as many lines of the help as it has room for. Scrolling moves the
window down until the last line shows. -/
namespace ProblemVisualizer.Screen.Help

def lines : List String :=
  [ "MATH2VISUAL",
    "",
    "=== WORKFLOW ===",
    "1. Type a math word problem (required) and optionally a formula.",
    "2. Press Enter to generate. The visual language and two SVG",
    "   visualizations (formal and intuitive) are shown when ready.",
    "3. Edit the visual language and press Ctrl+R to regenerate from it.",
    "While a request is running, both submit actions are disabled.",
    "",
    "=== EDITING ===",
    "Tab / ↓         Next field",
    "Shift+Tab / ↑   Previous field",
    "←/→ Home/End    Move cursor",
    "Backspace/Del   Delete characters",
    "",
    "=== ACTIONS ===",
    "Enter           Submit the focused form",
    "Ctrl+R          Resubmit the visual language",
    "Ctrl+F          Save formal-visualization.svg",
    "Ctrl+T          Save intuitive-visualization.svg",
    "Ctrl+Y          Copy the visual language to the clipboard",
    "Esc             Dismiss the status message",
    "F1              Show this help",
    "Ctrl+Q / Ctrl+C Quit",
    "",
    "=== HELP NAVIGATION ===",
    "↑↓ or j/k       Scroll help text up/down one line",
    "Page Up/Down    Scroll help text up/down 5 lines",
    "Home            Jump to top of help text",
    "Esc/F1/?/q      Close this help window",
    "",
    "SVG files are written to the export directory",
    "(MATH2VISUAL_EXPORT_DIR, default: current directory)." ]

/-- The first line shown, when the popup has room for `room` lines and is scrolled by `scroll`. -/
def firstLine (scroll room : Nat) : Nat := min scroll (lines.length - room)

def window (scroll room : Nat) : List String := (lines.drop (firstLine scroll room)).take room

/-- Four fifths of the screen, a tenth from its upper left corner. -/
def popup (width height : Nat) : Area :=
  ⟨width / 10, height / 10, width * 4 % coordinateBound / 5, height * 4 % coordinateBound / 5⟩

end ProblemVisualizer.Screen.Help
