import ProblemVisualizer.Http.Host

/-! Addresses.

An address is read the way browsers read it: white space around it and line ends
in it are taken out, the scheme decides how the rest is understood, names of
hosts and dots in paths are brought to one form, and characters that may not
stand for themselves are encoded. -/
namespace ProblemVisualizer.Http

open Text (numberIn?)

/-- A name and a password in front of a host, encoded. -/
structure Credentials where
  username : List Char := []
  password : Option (List Char) := none
deriving DecidableEq, Repr

structure Authority where
  credentials : Credentials := {}
  host : Host
  /-- The number that servers listen at, if it is not the usual one of the scheme. -/
  portNumber : Option Nat := none
deriving DecidableEq, Repr

inductive UrlPath where
  | segments (names : List (List Char))
  /-- A path that is not divided, in an address without a host. -/
  | undivided (cs : List Char)
deriving DecidableEq, Repr

structure Url where
  scheme : List Char
  authority : Option Authority
  path : UrlPath
  query : Option (List Char)
  fragment : Option (List Char)
deriving DecidableEq, Repr

inductive SchemeKind where
  /-- An address of the web, with the number that servers usually listen at. -/
  | web (usual : Nat)
  | file
  | other
deriving DecidableEq, Repr

def SchemeKind.ofScheme (scheme : List Char) : SchemeKind :=
  match String.ofList scheme with
  | "http" | "ws" => .web 80
  | "https" | "wss" => .web 443
  | "ftp" => .web 21
  | "file" => .file
  | _ => .other

namespace Url

/-! ### Reading -/

/-- The text without control characters and blanks around it, and without tabs and line ends. -/
def tidy (cs : List Char) : List Char :=
  let outer (c : Char) : Bool := c.toNat ≤ 0x20
  ((cs.dropWhile outer).reverse.dropWhile outer).reverse.filter fun c =>
    c ≠ '\t' && c ≠ '\n' && c ≠ '\r'

/-- The scheme and what follows its colon. -/
def splitScheme? (cs : List Char) : Option (List Char × List Char) :=
  match cs with
  | [] => none
  | first :: _ =>
    let inScheme (c : Char) : Bool := c.isAlphanum || c = '+' || c = '-' || c = '.'
    match first.isAlpha, cs.dropWhile inScheme with
    | true, ':' :: rest => some ((cs.takeWhile inScheme).map Char.toLower, rest)
    | _, _ => none

/-- What separates the parts of a path. -/
def isSlash (kind : SchemeKind) (c : Char) : Bool := c = '/' || (c = '\\' && kind ≠ .other)

/-- Whether a character ends the authority. -/
def endsAuthority (kind : SchemeKind) (c : Char) : Bool := isSlash kind c || c = '?' || c = '#'

/-- The text before and after the last `@`. -/
def splitCredentials? (cs : List Char) : Option (List Char × List Char) :=
  match cs.reverse.span (· ≠ '@') with
  | (host, '@' :: credentials) => some (credentials.reverse, host.reverse)
  | _ => none

/-- The host's text and what follows it; a colon in brackets belongs to it. -/
def splitHost (bracketed : Bool) : List Char → List Char × List Char
  | [] => ([], [])
  | c :: rest =>
    if c = ':' ∧ !bracketed then ([], c :: rest)
    else
      let (host, rest) := splitHost (c = '[' || (bracketed && c ≠ ']')) rest
      (c :: host, rest)

/-- The number after the colon, nothing if there are no digits, and what follows it. A backslash
ends it also where it is no slash. -/
def splitPort (cs : List Char) : Except UrlError (Option Nat × List Char) :=
  let digits := cs.takeWhile Char.isDigit
  let rest := cs.dropWhile Char.isDigit
  match numberIn? 10 digits with
  | some n =>
    if n > 65535 ∨ (rest ≠ [] ∧ rest.head? ≠ some '\\') then .error .invalidPort
    else .ok (if digits = [] then none else some n, rest)
  | none => .error .invalidPort

def userinfoReserved : List Char :=
  [' ', '"', '#', '<', '>', '?', '`', '\x7b', '\x7d', '/', ':', ';', '=', '@', '[', '\\', ']', '^',
    '|']

/-- A name up to the first colon and a password after it; an empty password is none. -/
def parseCredentials (cs : List Char) : Credentials :=
  let encode := percentEncode userinfoReserved
  match cs.span (· ≠ ':') with
  | (username, _ :: c :: password) => ⟨encode username, some (encode (c :: password))⟩
  | (username, _) => ⟨encode username, none⟩

/-- Reads an authority. `rest` is what follows it, and what a number does not take is put before
that. -/
def parseAuthority (kind : SchemeKind) (cs rest : List Char) :
    Except UrlError (Authority × List Char) := do
  let (userinfo, hostAndPort) := (splitCredentials? cs).getD ([], cs)
  if userinfo = [] ∧ hostAndPort = [] ∧ cs ≠ [] ∧ rest ≠ [] then .error .emptyHost
  let (hostText, portText) := splitHost false hostAndPort
  if hostText = [] ∧ (kind ≠ .other ∨ portText ≠ []) then .error .emptyHost
  let host ← if kind = .other then Host.parseOpaque hostText else Host.parse hostText
  let (portNumber, unread) ← splitPort (portText.drop 1)
  let credentials := parseCredentials userinfo
  if hostText = [] ∧ credentials ≠ {} then .error .emptyHost
  let usual := match kind with
    | .web usual => some usual
    | _ => none
  return (⟨credentials, host, if portNumber = usual then none else portNumber⟩, unread ++ rest)

/-- How a segment is spelled that stands for the directory itself or the one above. -/
def dots (cs : List Char) : List Char :=
  match cs with
  | '%' :: '2' :: c :: rest =>
    if c = 'e' ∨ c = 'E' then '.' :: dots rest else '%' :: '2' :: c :: rest
  | '.' :: rest => '.' :: dots rest
  | cs => cs

/-- A letter and a colon or a bar, which in a path of files name a drive. -/
def isDrive (cs : List Char) : Bool :=
  match cs with
  | [letter, mark] => letter.isAlpha && (mark = ':' || mark = '|')
  | _ => false

/-- The segments above the last. A drive is at the top. -/
def above (names : List (List Char)) : List (List Char) :=
  if names.getLast?.any isDrive then names else names.dropLast

/-- Takes up one segment after those so far. -/
def takeSegment (before : List (List Char)) (segment : List Char) (isLast : Bool) :
    List (List Char) :=
  let here (names : List (List Char)) := if isLast then names ++ [[]] else names
  if dots segment = ['.'] then here before
  else if dots segment = ['.', '.'] then here (above before)
  else before ++ [segment]

def takeSegments (before : List (List Char)) : List (List Char) → List (List Char)
  | [] => before
  | segment :: rest => takeSegments (takeSegment before segment rest.isEmpty) rest

def pathReserved : List Char := [' ', '"', '#', '<', '>', '?', '`', '\x7b', '\x7d']

def queryReserved (kind : SchemeKind) : List Char :=
  [' ', '"', '#', '<', '>'] ++ if kind = .other then [] else ['\'']

def fragmentReserved : List Char := [' ', '"', '<', '>', '`']

/-- The segments of a path as they are written, encoded. -/
def splitSegments (kind : SchemeKind) (cs : List Char) : List (List Char) :=
  (Text.splitAll (isSlash kind) cs).map (percentEncode pathReserved)

/-- A path, without the slash before its first segment. -/
def parseSegments (kind : SchemeKind) (cs : List Char) : UrlPath :=
  .segments (takeSegments [] (splitSegments kind cs))

/-- The path after an authority. Web addresses always have one. -/
def parsePath (kind : SchemeKind) (cs : List Char) : UrlPath :=
  match cs with
  | [] => if kind = .other then .segments [] else .segments [[]]
  | c :: rest => parseSegments kind (if isSlash kind c then rest else c :: rest)

/-- The path of an address without an authority. -/
def parseBarePath (cs : List Char) : UrlPath :=
  match cs with
  | '/' :: rest => parseSegments .other rest
  | cs => .undivided (percentEncode [] cs)

/-! #### Files -/

/-- The segments of a path of files, and whether the first of them is a drive, which then has a
colon. -/
def takeFileSegments (before : List (List Char)) (onDrive : Bool) :
    List (List Char) → List (List Char) × Bool
  | [] => (before, onDrive)
  | segment :: rest =>
    if before = [] ∧ isDrive segment then
      takeFileSegments [segment.take 1 ++ [':']] true rest
    else takeFileSegments (takeSegment before segment rest.isEmpty) onDrive rest

/-- A path of files, without the slash before its first segment, and whether it begins with a
drive. Empty segments at its beginning do not count. -/
def parseFilePath (cs : List Char) : UrlPath × Bool :=
  let (names, onDrive) := takeFileSegments [] false (splitSegments .file cs)
  let names := names.dropWhile (· = [])
  (.segments (if names = [] then [[]] else names), onDrive)

/-- The text after one slash, if there is one. -/
def withoutSlash (cs : List Char) : List Char :=
  match cs with
  | c :: rest => if isSlash .file c then rest else c :: rest
  | [] => []

/-- The host and the path of files. A drive in the place of the host belongs to the path, and a
path that begins with a drive has no host. -/
def parseFile (cs : List Char) : Except UrlError (Option Authority × UrlPath) := do
  let here : Authority := {host := .name []}
  match cs with
  | a :: b :: rest =>
    if isSlash .file a ∧ isSlash .file b then
      let hostText := rest.takeWhile fun c => !isSlash .file c
      if hostText = [] ∨ isDrive hostText then return (some here, (parseFilePath rest).1)
      let host ← Host.parse hostText
      let rest := rest.dropWhile fun c => !isSlash .file c
      if host = .name "localhost".toList then return (some here, (parseFilePath rest).1)
      let (path, onDrive) := parseFilePath (withoutSlash rest)
      return (some (if onDrive then here else {host}), path)
    else return (some here, (parseFilePath (withoutSlash cs)).1)
  | cs => return (some here, (parseFilePath (withoutSlash cs)).1)

/-- The authority and the path of an address, by the text between the scheme and the query. -/
def parseHierarchy (kind : SchemeKind) (cs : List Char) :
    Except UrlError (Option Authority × UrlPath) := do
  let afterSlashes (cs : List Char) : Except UrlError (Option Authority × UrlPath) := do
    let rest := cs.dropWhile fun c => !endsAuthority kind c
    let (authority, rest) ← parseAuthority kind (cs.takeWhile fun c => !endsAuthority kind c) rest
    return (some authority, parsePath kind rest)
  match kind, cs with
  | .web _, cs => afterSlashes (cs.dropWhile (isSlash kind))
  | .file, cs => parseFile cs
  | .other, '/' :: '/' :: rest => afterSlashes rest
  | .other, cs => return (none, parseBarePath cs)

def parse (s : String) : Except UrlError Url :=
  match splitScheme? (tidy s.toList) with
  | none => .error .relative
  | some (scheme, rest) => do
    let kind := SchemeKind.ofScheme scheme
    let (rest, fragment) := match rest.span (· ≠ '#') with
      | (rest, '#' :: fragment) => (rest, some (percentEncode fragmentReserved fragment))
      | (rest, _) => (rest, none)
    let (rest, query) := match rest.span (· ≠ '?') with
      | (rest, '?' :: query) => (rest, some (percentEncode (queryReserved kind) query))
      | (rest, _) => (rest, none)
    let (authority, path) ← parseHierarchy kind rest
    return {scheme, authority, path, query, fragment}

/-! ### Writing -/

def pathText : UrlPath → List Char
  | .segments names => names.flatMap ('/' :: ·)
  | .undivided cs => cs

def queryText (u : Url) : List Char :=
  match u.query with
  | some query => '?' :: query
  | none => []

/-- What a server is asked for. -/
def target (u : Url) : String := String.ofList (pathText u.path ++ u.queryText)

def credentialsText (c : Credentials) : List Char :=
  if c = {} then []
  else c.username ++ (match c.password with
    | some password => ':' :: password
    | none => []) ++ ['@']

def authorityText (a : Authority) : List Char :=
  '/' :: '/' :: (credentialsText a.credentials ++ a.host.text ++ match a.portNumber with
    | some n => ':' :: Nat.toDigits 10 n
    | none => [])

/-- What stands between scheme and path. Without an authority a path may not begin with two
slashes, so a segment that changes nothing goes before it. -/
def hierarchyText (u : Url) : List Char :=
  match u.authority, u.path with
  | some a, _ => authorityText a
  | none, .segments ([] :: _ :: _) => ['/', '.']
  | none, _ => []

def text (u : Url) : String :=
  String.ofList (u.scheme ++ [':'] ++ u.hierarchyText ++ pathText u.path ++ u.queryText ++
    match u.fragment with
      | some fragment => '#' :: fragment
      | none => [])

/-! ### Sending requests there -/

/-- The text that is encoded, if it is UTF-8. -/
def plain? (cs : List Char) : Option String := Text.decode? (percentDecode cs)

/-- The address without its credentials, which travel apart from it. They stay where they are when
the name is no text, and when there is neither a name nor a password that is one. -/
def withoutCredentials (u : Url) : Url :=
  match u.authority with
  | none => u
  | some a =>
    match plain? a.credentials.username with
    | none => u
    | some username =>
      if username = "" ∧ (a.credentials.password.bind plain?).isNone then u
      else {u with authority := some {a with credentials := {}}}

/-- Whether the address is one that requests can go to. -/
def isHttp (u : Url) : Bool := u.scheme = "http".toList || u.scheme = "https".toList

/-- The longest address that can be sent, in bytes. -/
def maxBytes : Nat := 65534

/-- Whether the address keeps to the older and narrower grammar of the protocol, which quotation
marks, back quotes and braces in a host do not. -/
def isSendable (u : Url) : Bool :=
  Text.byteLength u.text.toList ≤ maxBytes && match u.authority with
    | some ⟨_, .name cs, _⟩ => !cs.any fun c => ['"', '`', '\x7b', '\x7d'].contains c
    | _ => true

end Url

end ProblemVisualizer.Http
