import ProblemVisualizer.Text.GraphemeExtend
import ProblemVisualizer.Text.Hex
import ProblemVisualizer.Text.Printable

/-! A text in quotation marks, for messages.

What could be misread is spelled out: quotation mark and backslash behind a
backslash, tab, line ends and the zero character by their letters, and every
character that cannot be seen, or is drawn onto the one before it, by its code
point. -/
namespace ProblemVisualizer.Text

/-- Drawn onto the character before it. The two halfwidth voicing marks of kana continue a cluster
but stand in a column of their own. -/
def isDrawnOntoPrevious (c : Char) : Bool :=
  isGraphemeExtend c && !(c.toNat = 0xFF9E || c.toNat = 0xFF9F)

/-- The form of one character between the quotation marks. -/
def quotedChar (c : Char) : List Char :=
  if c = '\x00' then ['\\', '0']
  else if c = '\t' then ['\\', 't']
  else if c = '\r' then ['\\', 'r']
  else if c = '\n' then ['\\', 'n']
  else if c = '"' then ['\\', '"']
  else if c = '\\' then ['\\', '\\']
  else if isDrawnOntoPrevious c || !isPrintable c then
    '\\' :: 'u' :: '\x7b' :: (hex c.toNat ++ ['\x7d'])
  else [c]

def quoted (s : String) : String :=
  String.ofList ('"' :: (s.toList.flatMap quotedChar ++ ['"']))

end ProblemVisualizer.Text
