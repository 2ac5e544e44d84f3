import ProblemVisualizer.Json.Quote
import ProblemVisualizer.Json.Record

/-! The texts that are JSON.

A phrase is described by what stands before and what stands behind it: `P cs rest`
says that `cs` is a phrase of kind `P` followed by `rest`. Nothing here looks at
how a text is read. A string that counts is one that spells a text, and any
spelling will do: a character may stand for itself, or as a short escape, or as
the escaped code units that UTF-16 has for it. A string that does not count may
hold any escapes, halves of surrogate pairs among them.

`ObjectText members text` is the whole of it: but for white space around it, the
text is an object with these members in this order. -/
namespace ProblemVisualizer.Json

/-- White space, possibly none. -/
inductive Blank : List Char → List Char → Prop
  | none {rest} : Blank rest rest
  | cons {c cs rest} : c ∈ [' ', '\n', '\t', '\r'] → Blank cs rest → Blank (c :: cs) rest

/-! ### Strings -/

def lowerDigits : List Char :=
  ['0', '1', '2', '3', '4', '5', '6', '7', '8', '9', 'a', 'b', 'c', 'd', 'e', 'f']

def upperDigits : List Char :=
  ['0', '1', '2', '3', '4', '5', '6', '7', '8', '9', 'A', 'B', 'C', 'D', 'E', 'F']

/-- A hexadecimal digit and its value. -/
def IsHex (c : Char) (n : Nat) : Prop := lowerDigits[n]? = some c ∨ upperDigits[n]? = some c

/-- Four hexadecimal digits and their value. -/
inductive Quad : Nat → List Char → List Char → Prop
  | mk {a b c d k l m n rest} : IsHex a k → IsHex b l → IsHex c m → IsHex d n →
      Quad (((k * 16 + l) * 16 + m) * 16 + n) (a :: b :: c :: d :: rest) rest

/-- The letters of the short escapes with the characters they stand for. -/
def escapes : List (Char × Char) :=
  [('"', '"'), ('\\', '\\'), ('/', '/'), ('b', '\x08'), ('f', '\x0c'), ('n', '\n'), ('r', '\r'),
   ('t', '\t')]

/-- A character that may stand for itself. -/
def Plain (c : Char) : Prop := c ≠ '"' ∧ c ≠ '\\' ∧ 0x20 ≤ c.toNat

/-- One character of a text, as a string may spell it. -/
inductive Spelling (c : Char) : List Char → List Char → Prop
  | plain {rest} : Plain c → Spelling c (c :: rest) rest
  | short {e rest} : (e, c) ∈ escapes → Spelling c ('\\' :: e :: rest) rest
  | unit {cs rest} : Quad c.toNat cs rest → Spelling c ('\\' :: 'u' :: cs) rest
  | pair {cs mid rest} : 0x10000 ≤ c.toNat →
      Quad (0xD800 + (c.toNat - 0x10000) / 0x400) cs ('\\' :: 'u' :: mid) →
      Quad (0xDC00 + (c.toNat - 0x10000) % 0x400) mid rest → Spelling c ('\\' :: 'u' :: cs) rest

/-- A string behind its opening quotation mark, and the text it spells. -/
inductive Spells : List Char → List Char → List Char → Prop
  | close {rest} : Spells [] ('"' :: rest) rest
  | cons {c text cs mid rest} : Spelling c cs mid → Spells text mid rest →
      Spells (c :: text) cs rest

/-- A string behind its opening quotation mark, whatever its escapes stand for. -/
inductive Characters : List Char → List Char → Prop
  | close {rest} : Characters ('"' :: rest) rest
  | plain {c cs rest} : Plain c → Characters cs rest → Characters (c :: cs) rest
  | short {e c cs rest} : (e, c) ∈ escapes → Characters cs rest →
      Characters ('\\' :: e :: cs) rest
  | unit {n cs mid rest} : Quad n cs mid → Characters mid rest →
      Characters ('\\' :: 'u' :: cs) rest

/-! ### Numbers -/

/-- Decimal digits, at least one. -/
inductive Digits : List Char → List Char → Prop
  | one {d rest} : d ∈ lowerDigits.take 10 → Digits (d :: rest) rest
  | cons {d cs rest} : d ∈ lowerDigits.take 10 → Digits cs rest → Digits (d :: cs) rest

inductive Sign : List Char → List Char → Prop
  | absent {rest} : Sign rest rest
  | minus {rest} : Sign ('-' :: rest) rest

/-- The digits before the point; a zero in front stands alone. -/
inductive Whole : List Char → List Char → Prop
  | zero {rest} : Whole ('0' :: rest) rest
  | digits {d cs rest} : d ≠ '0' → Digits (d :: cs) rest → Whole (d :: cs) rest

inductive Fraction : List Char → List Char → Prop
  | absent {rest} : Fraction rest rest
  | digits {cs rest} : Digits cs rest → Fraction ('.' :: cs) rest

inductive Exponent : List Char → List Char → Prop
  | absent {rest} : Exponent rest rest
  | digits {e cs rest} : e ∈ ['e', 'E'] → Digits cs rest → Exponent (e :: cs) rest
  | signed {e s cs rest} : e ∈ ['e', 'E'] → s ∈ ['+', '-'] → Digits cs rest →
      Exponent (e :: s :: cs) rest

inductive Number : List Char → List Char → Prop
  | mk {cs a b c rest} : Sign cs a → Whole a b → Fraction b c → Exponent c rest →
      Number cs rest

/-! ### Values -/

/-- What stands in a container before what it holds next: white space, with a comma in it behind
a value. -/
inductive Lead : Bool → List Char → List Char → Prop
  | first {cs rest} : Blank cs rest → Lead true cs rest
  | next {cs mid rest} : Blank cs (',' :: mid) → Blank mid rest → Lead false cs rest

def Frame.opening : Frame → Char
  | list => '['
  | object => '\x7b'

def Frame.closing : Frame → Char
  | list => ']'
  | object => '\x7d'

/-- A value, or the rest of a container: behind its opening (`first`) or behind a value it
holds. -/
inductive Part where
  | value
  | rest (frame : Frame) (first : Bool)

inductive Phrase : Part → List Char → List Char → Prop
  | null {rest} : Phrase .value ('n' :: 'u' :: 'l' :: 'l' :: rest) rest
  | true {rest} : Phrase .value ('t' :: 'r' :: 'u' :: 'e' :: rest) rest
  | false {rest} : Phrase .value ('f' :: 'a' :: 'l' :: 's' :: 'e' :: rest) rest
  | number {cs rest} : Number cs rest → Phrase .value cs rest
  | string {cs rest} : Characters cs rest → Phrase .value ('"' :: cs) rest
  | container {frame cs rest} : Phrase (.rest frame Bool.true) cs rest →
      Phrase .value (frame.opening :: cs) rest
  | close {frame first cs rest} : Blank cs (frame.closing :: rest) →
      Phrase (.rest frame first) cs rest
  | element {first cs a b rest} : Lead first cs a → Phrase .value a b →
      Phrase (.rest .list Bool.false) b rest → Phrase (.rest .list first) cs rest
  | member {first cs a b c d e rest} : Lead first cs ('"' :: a) → Characters a b →
      Blank b (':' :: c) → Blank c d → Phrase .value d e →
      Phrase (.rest .object Bool.false) e rest → Phrase (.rest .object first) cs rest

/-! ### Objects of texts -/

/-- What a member holds: a text, a null, or any value at all. -/
inductive Content where
  | text (s : String)
  | null
  | any
deriving DecidableEq

inductive Holds : Content → List Char → List Char → Prop
  | text {s cs rest} : Spells s.toList cs rest → Holds (.text s) ('"' :: cs) rest
  | null {rest} : Holds .null ('n' :: 'u' :: 'l' :: 'l' :: rest) rest
  | any {cs rest} : Phrase .value cs rest → Holds .any cs rest

/-- The rest of an object, with the keys that come and what they hold. -/
inductive Members : Bool → List (String × Content) → List Char → List Char → Prop
  | close {first cs rest} : Blank cs ('\x7d' :: rest) → Members first [] cs rest
  | member {first name content members cs a b c d e rest} : Lead first cs ('"' :: a) →
      Spells name.toList a b → Blank b (':' :: c) → Blank c d → Holds content d e →
      Members Bool.false members e rest → Members first ((name, content) :: members) cs rest

/-- The text is an object with these members, in this order. -/
inductive ObjectText (members : List (String × Content)) (text : String) : Prop
  | mk {cs rest} : Blank text.toList ('\x7b' :: cs) → Members Bool.true members cs rest →
      Blank rest [] → ObjectText members text

end ProblemVisualizer.Json
