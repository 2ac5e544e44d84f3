/-! Writing a text as a JSON string.

The quotation mark and the backslash are escaped, and so is every character
below U+0020: by its short escape where JSON has one and by four hexadecimal
digits otherwise. All other characters stand for themselves. -/
namespace ProblemVisualizer.Json

def hexDigit (n : Nat) : Char :=
  if n < 10 then Char.ofNat ('0'.toNat + n) else Char.ofNat ('a'.toNat + (n - 10))

/-- The written form of one character inside a string. -/
def escape (c : Char) : List Char :=
  if c = '"' then ['\\', '"']
  else if c = '\\' then ['\\', '\\']
  else if c = '\x08' then ['\\', 'b']
  else if c = '\x0c' then ['\\', 'f']
  else if c = '\n' then ['\\', 'n']
  else if c = '\r' then ['\\', 'r']
  else if c = '\t' then ['\\', 't']
  else if c.toNat < 0x20 then
    ['\\', 'u', '0', '0', hexDigit (c.toNat / 16), hexDigit (c.toNat % 16)]
  else [c]

def quoteChars (cs : List Char) : List Char := '"' :: (cs.flatMap escape ++ ['"'])

/-- A text as a JSON string. -/
def quote (s : String) : String := String.ofList (quoteChars s.toList)

/-- An object of string members, without spaces, in the order given. -/
def writeObject (members : List (String × String)) : String :=
  "\x7b" ++ ",".intercalate (members.map fun (key, value) => quote key ++ ":" ++ quote value)
    ++ "\x7d"

end ProblemVisualizer.Json
