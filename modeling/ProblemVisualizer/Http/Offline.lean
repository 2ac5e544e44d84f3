import ProblemVisualizer.Http.Service

/-! A machine that is connected to nothing, not even to itself.

Every message fails to go out there, and why depends on the host. The machine
knows no way to an address of four bytes and has no address of its own to send
from to one of sixteen. Names other than its own it cannot look up, and does not
try to if they could be nobody's. -/
namespace ProblemVisualizer.Http

/-- Why nothing can be sent to a host. -/
inductive Isolation where
  | noRoute
  | noOwnAddress
  /-- The address is one of a neighbour's, and it is not said on which side. -/
  | noInterface
  | noNameServer
  | invalidName
deriving DecidableEq, Repr

def Isolation.message : Isolation → String
  | noRoute => "tcp connect error: Network is unreachable (os error 101)"
  | noOwnAddress => "tcp connect error: Cannot assign requested address (os error 99)"
  | noInterface => "tcp connect error: Invalid argument (os error 22)"
  | noNameServer =>
    "dns error: failed to lookup address information: Temporary failure in name resolution"
  | invalidName => "dns error: failed to lookup address information: Name or service not known"

/-- The longest name that can be looked up, and the longest part of one between full stops. -/
def longestName : Nat := 253

def longestLabel : Nat := 63

/-- Whether a name is one that a server could know. A full stop at its end does not count. -/
def isRegistrable (cs : List Char) : Bool :=
  let name := if cs.getLast? = some '.' then cs.dropLast else cs
  name = [] || (name.length ≤ longestName && name.head? ≠ some '-' &&
    (Text.splitAll (· = '.') name).all fun label =>
      label ≠ [] && label.length ≤ longestLabel &&
        label.all fun c => c.isAlphanum || c = '-' || c = '_')

/-- Why a host is out of reach. Two bytes of ones after ten of noughts make an address of sixteen
bytes stand for one of four. -/
def Isolation.ofHost : Host → Isolation
  | .name cs =>
    if cs = "localhost".toList then noRoute
    else if isRegistrable cs then noNameServer
    else invalidName
  | .ipv4 _ => noRoute
  | .ipv6 pieces =>
    let first := pieces.headD 0
    if pieces.take 6 = [0, 0, 0, 0, 0, 0xFFFF] then noRoute
    else if first ≥ 0xFF00 then noRoute
    else if first / 64 = 0xFE80 / 64 then noInterface
    else noOwnAddress

def offline : Network := fun m =>
  match m.url.authority with
  | some a => .unreachable (Isolation.ofHost a.host).message
  | none => .unreachable Isolation.noRoute.message

end ProblemVisualizer.Http
