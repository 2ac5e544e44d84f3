import ProblemVisualizer.Screen.Glyph

/-! Breaking a line into rows at its spaces.

Words move to the next row whole when they can, and are split when they are
longer than a row. Spaces at a break are dropped as far as they would have
filled the row up; the others lead the next row. When the wrapping trims, spaces
at the start of the line go as well.

The line is read glyph by glyph. A row in the making holds the finished words of
the row, and beside it wait the spaces after them and the word being read. -/
namespace ProblemVisualizer.Screen

structure WordWrap where
  /-- Rows that are complete, the last one first. -/
  rows : List Line := []
  row : Line := []
  spaces : Line := []
  word : Line := []
  /-- The glyph before was part of a word. -/
  inWord : Bool := false

namespace WordWrap

/-- Whether a word at the start of a row has come to fill it. -/
def overflows (limit : Nat) (trim : Bool) (s : WordWrap) (g : Glyph) : Bool :=
  s.row.isEmpty &&
    if trim then s.word.width + g.width > limit || s.spaces.width + g.width > limit
    else s.word.width + s.spaces.width + g.width > limit

/-- Moves the waiting spaces and the word behind them into the row. Spaces that would start a row
are lost if the wrapping trims. -/
def settle (trim : Bool) (s : WordWrap) : WordWrap :=
  {s with
    row := s.row ++ (if s.row.isEmpty && trim then [] else s.spaces) ++ s.word
    spaces := []
    word := [] }

/-- Drops spaces from the front while they fit into the room left on the row. -/
def dropSpaces (room : Nat) : Line → Line
  | [] => []
  | g :: rest => if g.width > room then g :: rest else dropSpaces (room - g.width) rest

/-- Whether the row ends before a glyph. -/
def isFull (limit : Nat) (s : WordWrap) (g : Glyph) : Bool :=
  s.row.width ≥ limit ||
    (g.width > 0 && s.row.width + s.spaces.width + s.word.width ≥ limit)

/-- Ends the row. -/
def breakRow (limit : Nat) (s : WordWrap) : WordWrap :=
  {s with
    rows := s.row :: s.rows
    row := []
    spaces := dropSpaces (limit - s.row.width) s.spaces }

/-- Reads one glyph. One wider than a row is left out. -/
def read (limit : Nat) (trim : Bool) (s : WordWrap) (g : Glyph) : WordWrap :=
  if g.width > limit then s
  else
    let s := if (s.inWord && g.isBreak) || s.overflows limit trim g then s.settle trim else s
    let full := s.isFull limit g
    let s := if full then s.breakRow limit else s
    if g.isBreak then
      -- The space at which the row broke is itself dropped.
      if full && s.spaces.isEmpty then s else {s with spaces := s.spaces ++ [g], inWord := false}
    else {s with word := s.word ++ [g], inWord := true}

/-- The rows once the line has been read. -/
def finish (trim : Bool) (s : WordWrap) : List Line :=
  let rows := if s.row.isEmpty && s.word.isEmpty && !s.spaces.isEmpty then [] :: s.rows else s.rows
  let last := (s.settle trim).row
  let rows := if last.isEmpty then rows else last :: rows
  if rows.isEmpty then [[]] else rows.reverse

end WordWrap

/-- The rows of a line, of at most `limit` columns each. -/
def Line.wrap (limit : Nat) (trim : Bool) (l : Line) : List Line :=
  (l.foldl (WordWrap.read limit trim) {}).finish trim

end ProblemVisualizer.Screen
