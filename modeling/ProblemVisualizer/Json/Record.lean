import ProblemVisualizer.Json.Skip

/-! Records of texts.

A record has a fixed list of fields, each a text. It is written as an object,
whose members may come in any order, or as a list that names the fields by
position and may be shorter. A known key may occur once only. Depending on the
record, a null stands for a missing text, and members with other keys are
skipped or refused. -/
namespace ProblemVisualizer.Json

open Text (byteLength)

structure Field where
  name : String
  /-- What messages call a value of the field. -/
  expected : String
deriving DecidableEq, Repr

structure Shape where
  /-- What messages call the record. -/
  expected : String
  fields : List Field
  /-- Whether a null stands for a missing text. -/
  nullable : Bool
  /-- Whether members with other keys are refused. -/
  closed : Bool
deriving DecidableEq, Repr

def Shape.field? (shape : Shape) (name : String) : Option Field :=
  shape.fields.find? fun f => f.name = name

/-- The fields read so far with their texts, the last one first. -/
abbrev Values := List (String × Option String)

def Values.text? (values : Values) (name : String) : Option String := (values.lookup name).join

/-- The fault of finding a value of another kind. The text begins with the value. -/
def mistyped (expected : String) (cs : List Char) : Fault :=
  let found (kind : Found) : Except Fault (List Char) → Fault
    | .error f => f
    | .ok rest => .behind (.wrongType kind expected) rest
  let valued : Except Fault (Found × List Char) → Fault
    | .error f => f
    | .ok (kind, rest) => .behind (.wrongType kind expected) rest
  match cs with
  | 'n' :: cs => found .null (word ['u', 'l', 'l'] cs)
  | 't' :: cs => found (.boolean true) (word ['r', 'u', 'e'] cs)
  | 'f' :: cs => found (.boolean false) (word ['a', 'l', 's', 'e'] cs)
  | '-' :: cs => valued (number true cs)
  | '"' :: cs =>
    match string [] cs with
    | .error f => f
    | .ok (s, rest) => .behind (.wrongType (.text s) expected) rest
  | '[' :: _ => .behind (.wrongType .sequence expected) cs
  | '\x7b' :: _ => .behind (.wrongType .map expected) cs
  | [] => .ahead .endInValue []
  | c :: _ => if isDigit c then valued (number false cs) else .ahead .expectedValue cs

/-- Reads the text of a field. -/
def readText (nullable : Bool) (expected : String) (cs : List Char) :
    Except Fault (Option String × List Char) :=
  match skipWhite cs with
  | '"' :: cs =>
    match string [] cs with
    | .error f => .error f
    | .ok (s, rest) => .ok (some s, rest)
  | 'n' :: cs =>
    if nullable then
      match word ['u', 'l', 'l'] cs with
      | .error f => .error f
      | .ok rest => .ok (none, rest)
    else .error (mistyped expected ('n' :: cs))
  | cs => .error (mistyped expected cs)

theorem length_of_readText {nullable : Bool} {expected : String} {cs rest : List Char}
    {value : Option String} (h : readText nullable expected cs = .ok (value, rest)) :
    rest.length < cs.length := by
  have hw := length_skipWhite_le cs
  unfold readText at h
  split at h
  · rename_i heq
    simp only [heq, List.length_cons] at hw
    split at h
    · simp at h
    · rename_i hs
      have := length_of_string hs
      simp only [Except.ok.injEq, Prod.mk.injEq] at h
      rw [← h.2]
      omega
  · rename_i heq
    simp only [heq, List.length_cons] at hw
    split at h
    · split at h
      · simp at h
      · rename_i hs
        have := length_of_word hs
        simp only [Except.ok.injEq, Prod.mk.injEq] at h
        rw [← h.2]
        omega
    · simp at h
  · simp at h

/-! ### Objects -/

/-- The next key of an object, or nothing at its end. Before every member but the first stands a
comma. -/
def nextKey (first : Bool) (cs : List Char) : Except Fault (Option String × List Char) :=
  let key (cs : List Char) : Except Fault (Option String × List Char) :=
    match string [] cs with
    | .error f => .error f
    | .ok (name, rest) => .ok (some name, rest)
  match skipWhite cs with
  | [] => .error (.ahead .endInObject [])
  | '\x7d' :: cs => .ok (none, cs)
  | c :: cs =>
    if first then if c = '"' then key cs else .error (.ahead .keyNotString (c :: cs))
    else if c = ',' then
      match skipWhite cs with
      | [] => .error (.ahead .endInValue [])
      | '"' :: cs => key cs
      | '\x7d' :: cs => .error (.ahead .trailingComma ('\x7d' :: cs))
      | cs => .error (.ahead .keyNotString cs)
    else .error (.ahead .expectedObjectCommaOrEnd (c :: cs))

theorem length_of_nextKey {first : Bool} {cs rest : List Char} {name : Option String}
    (h : nextKey first cs = .ok (name, rest)) : rest.length < cs.length := by
  have hw := length_skipWhite_le cs
  have key : ∀ {cs : List Char} {name : Option String}, (match string [] cs with
      | .error f => Except.error f
      | .ok (name, rest) => Except.ok (some name, rest)) = .ok (name, rest) →
      rest.length < cs.length := by
    intro cs name hk
    split at hk
    · simp at hk
    · rename_i hs
      have := length_of_string hs
      simp only [Except.ok.injEq, Prod.mk.injEq] at hk
      rw [← hk.2]
      omega
  unfold nextKey at h
  split at h
  · simp at h
  · rename_i heq
    simp only [heq, List.length_cons] at hw
    simp only [Except.ok.injEq, Prod.mk.injEq] at h
    rw [← h.2]
    omega
  · rename_i c inner _ heq
    simp only [heq, List.length_cons] at hw
    split at h
    · split at h
      · have := key h
        omega
      · simp at h
    · split at h
      · have hi := length_skipWhite_le inner
        split at h
        · simp at h
        · rename_i heq
          simp only [heq, List.length_cons] at hi
          have := key h
          omega
        · simp at h
        · simp at h
      · simp at h

/-- A fault of a whole member lies where the reader stands after trying to close the object. -/
def settled (cause : Cause) (cs : List Char) : Fault :=
  match skipWhite cs with
  | '\x7d' :: rest => .behind cause rest
  | rest => .behind cause rest

/-- Reads the members of an object behind its opening brace, or behind a member. -/
def readMembers (shape : Shape) (first : Bool) (values : Values) (cs : List Char) :
    Except Fault (Values × List Char) :=
  match _hk : nextKey first cs with
  | .error f => .error f
  | .ok (none, rest) => .ok (values, rest)
  | .ok (some name, rest) =>
    match shape.field? name with
    | some field =>
      if (values.lookup name).isSome then .error (settled (.duplicateField name) rest)
      else match _hc : colon rest with
        | .error f => .error f
        | .ok rest =>
          match _hv : readText shape.nullable field.expected rest with
          | .error f => .error f
          | .ok (value, rest) => readMembers shape false ((name, value) :: values) rest
    | none =>
      if shape.closed then
        .error (settled (.unknownField name (shape.fields.map Field.name)) rest)
      else match _hc : colon rest with
        | .error f => .error f
        | .ok rest =>
          match _hv : skipValue rest with
          | .error f => .error f
          | .ok rest => readMembers shape false values rest
termination_by cs.length
decreasing_by
  · have := length_of_nextKey _hk
    have := length_of_colon _hc
    have := length_of_readText _hv
    omega
  · have := length_of_nextKey _hk
    have := length_of_colon _hc
    have := length_of_skipValue _hv
    omega

/-! ### Lists -/

/-- The end of a list that has a value for every field. -/
def closeList (cs : List Char) : Except Fault (List Char) :=
  match skipWhite cs with
  | [] => .error (.ahead .endInList [])
  | ']' :: cs => .ok cs
  | ',' :: cs =>
    match skipWhite cs with
    | ']' :: cs => .error (.ahead .trailingComma (']' :: cs))
    | cs => .error (.ahead .trailingCharacters cs)
  | cs => .error (.ahead .trailingCharacters cs)

/-- What stands before the next value of a list, or nothing at its end. -/
def nextValue (first : Bool) (cs : List Char) : Except Fault (Bool × List Char) :=
  match skipWhite cs with
  | [] => .error (.ahead .endInList [])
  | ']' :: cs => .ok (false, cs)
  | c :: cs =>
    if first then .ok (true, c :: cs)
    else if c = ',' then
      match skipWhite cs with
      | [] => .error (.ahead .endInValue [])
      | ']' :: cs => .error (.ahead .trailingComma (']' :: cs))
      | cs => .ok (true, cs)
    else .error (.ahead .expectedListCommaOrEnd (c :: cs))

/-- Reads the values of a list in the order of the fields. -/
def readValues (nullable : Bool) (first : Bool) (values : Values) :
    List Field → List Char → Except Fault (Values × List Char)
  | [], cs => (closeList cs).map fun rest => (values, rest)
  | field :: fields, cs =>
    match nextValue first cs with
    | .error f => .error f
    | .ok (false, rest) => .ok (values, rest)
    | .ok (true, rest) =>
      match readText nullable field.expected rest with
      | .error f => .error f
      | .ok (value, rest) => readValues nullable false ((field.name, value) :: values) fields rest

/-- Reads a whole text as a record. -/
def readRecord (shape : Shape) (cs : List Char) : Except Fault Values :=
  let read := match skipWhite cs with
    | '\x7b' :: cs => readMembers shape true [] cs
    | '[' :: cs => readValues shape.nullable true [] shape.fields cs
    | cs => .error (mistyped shape.expected cs)
  match read with
  | .error f => .error f
  | .ok (values, rest) =>
    match skipWhite rest with
    | [] => .ok values
    | rest => .error (.ahead .trailingCharacters rest)

/-- Reads a text as a record; a fault is given by its message. -/
def parseRecord (shape : Shape) (s : String) : Except String Values :=
  match readRecord shape s.toList with
  | .ok values => .ok values
  | .error f => .error (f.message s.toList)

end ProblemVisualizer.Json
