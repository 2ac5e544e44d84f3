import ProblemVisualizer.App.Keys

/-! Keys as they are typed line by line.

A line names a key after a colon, such as `:Enter` or `:Ctrl+R`; any other line
is text, typed character by character. -/
namespace ProblemVisualizer

/-- A key and whether it is pressed with Control. -/
abbrev KeyPress := Key × Bool

def namedKeys : List (String × KeyPress) :=
  [("Enter", .enter, false), ("Tab", .tab, false), ("BackTab", .backTab, false), ("Up", .up, false),
   ("Down", .down, false), ("Left", .left, false), ("Right", .right, false), ("Home", .home, false),
   ("End", .toEnd, false), ("PageUp", .pageUp, false), ("PageDown", .pageDown, false),
   ("Backspace", .backspace, false), ("Delete", .delete, false), ("Esc", .escape, false),
   ("F1", .function 1, false), ("Ctrl+C", .char 'c', true), ("Ctrl+F", .char 'f', true),
   ("Ctrl+Q", .char 'q', true), ("Ctrl+R", .char 'r', true), ("Ctrl+T", .char 't', true),
   ("Ctrl+Y", .char 'y', true)]

/-- The keys that a line stands for; none if it names a key that there is not. -/
def keyPresses (line : String) : List KeyPress :=
  match line.toList with
  | ':' :: name => (namedKeys.lookup (String.ofList name)).toList
  | cs => cs.map fun c => (.char c, false)

end ProblemVisualizer
