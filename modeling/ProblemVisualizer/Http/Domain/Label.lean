import ProblemVisualizer.Http.Domain.Joining
import ProblemVisualizer.Http.Domain.Mapping
import ProblemVisualizer.Http.Punycode

/-! Labels, the parts of a host name between full stops.

A label beyond ASCII is written in ASCII behind the letters `xn--`, and one that
is given so has to be the very text that such a label is written as. -/
namespace ProblemVisualizer.Http.Domain

structure Label where
  /-- What a reader sees. -/
  shown : List Char
  /-- What is looked up. -/
  ascii : List Char
deriving DecidableEq, Repr

def isAscii (cs : List Char) : Bool := cs.all fun c => c.toNat < 0x80

def encodedMark : List Char := ['x', 'n', '-', '-']

/-- Longer texts than these are neither encoded nor decoded. -/
def longestShown : Nat := 1000

def longestEncoded : Nat := 2000

/-- Whether a text can be a label: it must not begin with a mark or pass itself off as an encoded
one, and joiners must stand where they change something. -/
def isLabel (cs : List Char) : Bool :=
  !cs.head?.any Text.isMark && joinersFit [] cs && !encodedMark.isPrefixOf cs

/-- What an encoded label is decoded to, if it was encoded from the form all its spellings share. -/
def decodeLabel? (isForbidden : Char → Bool) (cs : List Char) : Option (List Char) :=
  if cs = [] ∨ cs.getLast? = some '-' ∨ cs.length > longestEncoded then none
  else (Punycode.decode? cs).filter fun shown =>
    mapText? shown = some shown && !shown.any (fun c => c = '.' || isForbidden c) && isLabel shown

/-- The label of a mapped text. -/
def Label.ofMapped? (isForbidden : Char → Bool) (cs : List Char) : Option Label :=
  if isAscii cs then
    if encodedMark.isPrefixOf cs then
      (decodeLabel? isForbidden (cs.drop encodedMark.length)).map fun shown => ⟨shown, cs⟩
    else some ⟨cs, cs⟩
  else if cs.length ≤ longestShown ∧ isLabel cs then
    some ⟨cs, encodedMark ++ Punycode.encode cs⟩
  else none

end ProblemVisualizer.Http.Domain
