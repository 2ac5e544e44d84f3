import ProblemVisualizer.Http.Domain
import ProblemVisualizer.Http.Percent

/-! Hosts of addresses.

A host is a name, or an address of four or of sixteen bytes. A name whose last
part is a number is meant as an address of four bytes; one of sixteen bytes
stands in brackets. -/
namespace ProblemVisualizer.Http

open Text (numberIn? splitAll)

inductive UrlError where
  | relative
  | emptyHost
  | invalidName
  | invalidCharacter
  | invalidIpv4
  | invalidIpv6
  | invalidPort
deriving DecidableEq, Repr

def UrlError.message : UrlError → String
  | relative => "relative URL without a base"
  | emptyHost => "empty host"
  | invalidName => "invalid international domain name"
  | invalidCharacter => "invalid domain character"
  | invalidIpv4 => "invalid IPv4 address"
  | invalidIpv6 => "invalid IPv6 address"
  | invalidPort => "invalid port number"

inductive Host where
  | name (cs : List Char)
  | ipv4 (value : Nat)
  | ipv6 (pieces : List Nat)
deriving DecidableEq, Repr

namespace Host

/-! ### Four bytes -/

/-- A part of an address of four bytes: octal after a nought, hexadecimal after `0x`. -/
def part? : List Char → Option Nat
  | [] => none
  | ['0'] => some 0
  | '0' :: c :: rest =>
    if c = 'x' ∨ c = 'X' then numberIn? 16 rest else numberIn? 8 (c :: rest)
  | cs => numberIn? 10 cs

/-- The parts of a name; an empty one at its end does not count. -/
def parts (cs : List Char) : List (List Char) :=
  let all := splitAll (· = '.') cs
  if all.length > 1 ∧ all.getLast? = some [] then all.dropLast else all

/-- Whether the last part of a name is a number. -/
def endsInNumber (cs : List Char) : Bool :=
  match (parts cs).getLast? with
  | none => false
  | some last => (last ≠ [] && last.all Char.isDigit) || (part? last).isSome

/-- An address of four bytes. The last part stands for all the bytes left over. -/
def parseIpv4 (cs : List Char) : Except UrlError Nat :=
  let numbers := (parts cs).map part?
  match numbers.reverse with
  | some last :: before =>
    let before := before.reverse
    if before.length > 3 then .error .invalidIpv4
    else match before.mapM id with
      | none => .error .invalidIpv4
      | some bytes =>
        if bytes.any (· > 255) ∨ last ≥ Nat.pow 256 (4 - bytes.length) then .error .invalidIpv4
        else .ok (bytes.foldr (fun b (value : Nat × Nat) => (value.1 + b * value.2, value.2 * 256))
          (last, Nat.pow 256 (4 - bytes.length))).1
  | _ => .error .invalidIpv4

def ipv4Text (value : Nat) : List Char :=
  ['.'].intercalate ([3, 2, 1, 0].map fun i => Nat.toDigits 10 (value / Nat.pow 256 i % 256))

/-! ### Sixteen bytes -/

/-- Four decimal bytes as two pieces. -/
def embedded? (cs : List Char) : Option (List Nat) := do
  match ← (splitAll (· = '.') cs).mapM fun part =>
      if part = [] ∨ (part.length > 1 ∧ part.head? = some '0') then none
      else (numberIn? 10 part).filter (· ≤ 255) with
  | [a, b, c, d] => some [a * 256 + b, c * 256 + d]
  | _ => none

/-- Pieces between colons; the last may be four decimal bytes. -/
def pieces? : List (List Char) → Option (List Nat)
  | [] => some []
  | [last] =>
    if last.contains '.' then embedded? last
    else if last = [] ∨ last.length > 4 then none
    else (numberIn? 16 last).map fun n => [n]
  | part :: rest =>
    if part = [] ∨ part.length > 4 then none
    else do return (← numberIn? 16 part) :: (← pieces? rest)

/-- A text before and after its first double colon. -/
def splitDoubleColon : List Char → Option (List Char × List Char)
  | [] => none
  | ':' :: ':' :: rest => some ([], rest)
  | c :: rest => (splitDoubleColon rest).map fun (before, after) => (c :: before, after)

/-- A double colon stands for one piece of nought or more. -/
def parseIpv6 (cs : List Char) : Except UrlError (List Nat) :=
  let side (cs : List Char) : Option (List Nat) :=
    if cs = [] then some [] else pieces? (splitAll (· = ':') cs)
  let found := match splitDoubleColon cs with
    | none => (side cs).filter (·.length = 8)
    | some (before, after) => do
      if before.contains '.' then none
      let before ← side before
      let after ← side after
      if before.length + after.length > 7 then none
      else some (before ++ List.replicate (8 - before.length - after.length) 0 ++ after)
  match found with
  | some pieces => .ok pieces
  | none => .error .invalidIpv6

/-- How many noughts a list starts with. -/
def zeros (pieces : List Nat) : Nat := (pieces.takeWhile (· = 0)).length

/-- The pieces with their longest run of two noughts or more left out, the first of equals. -/
def ipv6Text (pieces : List Nat) : List Char :=
  let runs := (List.range pieces.length).map fun i => (i, zeros (pieces.drop i))
  let longest := runs.foldl (fun best run => if run.2 > best.2 then run else best) (0, 0)
  let join (pieces : List Nat) := [':'].intercalate (pieces.map Text.hex)
  if longest.2 < 2 then join pieces
  else join (pieces.take longest.1) ++ [':', ':'] ++ join (pieces.drop (longest.1 + longest.2))

/-! ### Any host -/

/-- Characters that set the parts of an address apart, which no host holds. -/
def isDelimiter (c : Char) : Bool :=
  [' ', '#', '/', ':', '<', '>', '?', '@', '[', '\\', ']', '^', '|'].contains c

/-- Characters that no name on the web holds. -/
def isForbidden (c : Char) : Bool := isDelimiter c || c = '%' || Text.isControl c

def bracketed? (cs : List Char) : Option (List Char) :=
  match cs with
  | '[' :: rest => some rest
  | _ => none

def parseBracketed (cs : List Char) : Except UrlError Host :=
  if cs.getLast? = some ']' then (parseIpv6 cs.dropLast).map .ipv6 else .error .invalidIpv6

/-- The host of an address of the web. -/
def parse (cs : List Char) : Except UrlError Host :=
  match bracketed? cs with
  | some rest => parseBracketed rest
  | none =>
    match (Text.decode? (percentDecode cs)).bind fun s => domainToAscii? isForbidden s.toList with
    | none => .error .invalidName
    | some [] => .error .emptyHost
    | some ascii => if endsInNumber ascii then (parseIpv4 ascii).map .ipv4 else .ok (.name ascii)

/-- The host of any other address, which keeps its form. -/
def parseOpaque (cs : List Char) : Except UrlError Host :=
  match bracketed? cs with
  | some rest => parseBracketed rest
  | none =>
    if cs.any fun c => c = '\x00' || isDelimiter c then
      .error .invalidCharacter
    else .ok (.name (percentEncode [] cs))

def text : Host → List Char
  | name cs => cs
  | ipv4 value => ipv4Text value
  | ipv6 pieces => '[' :: (ipv6Text pieces ++ [']'])

end Host

end ProblemVisualizer.Http
