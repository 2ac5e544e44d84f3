import ProblemVisualizer.Text.Bytes
import ProblemVisualizer.Text.Hex
import ProblemVisualizer.Text.Width

/-! Percent encoding.

In an address a byte that may not stand for itself is written as a percent sign
and two digits. Which characters are written so depends on the part of the
address; control characters and all beyond ASCII are everywhere. -/
namespace ProblemVisualizer.Http

open Text (hexValue?)

def encodeByte (b : UInt8) : List Char :=
  let digits := (Text.hex b.toNat).map Char.toUpper
  '%' :: (if digits.length = 1 then '0' :: digits else digits)

/-- Encodes a text, the characters in `reserved` among others. -/
def percentEncode (reserved : List Char) (cs : List Char) : List Char :=
  cs.flatMap fun c =>
    if c.toNat ≥ 0x7F || Text.isControl c || reserved.contains c then
      (String.utf8EncodeChar c).flatMap encodeByte
    else [c]

/-- The bytes of a text in which bytes may be encoded. A percent sign without two digits after it
stands for itself. -/
def percentDecode : List Char → Text.Bytes
  | [] => []
  | '%' :: a :: b :: rest =>
    match hexValue? a, hexValue? b with
    | some x, some y => (x * 16 + y).toUInt8 :: percentDecode rest
    | _, _ => String.utf8EncodeChar '%' ++ percentDecode (a :: b :: rest)
  | c :: rest => String.utf8EncodeChar c ++ percentDecode rest

end ProblemVisualizer.Http
