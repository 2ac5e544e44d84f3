import ProblemVisualizer.Json.Number

/-! Skipping a value.

A value that nobody asked for is still checked for its form, however deep it
nests: the containers that are open are kept on a stack, innermost first. -/
namespace ProblemVisualizer.Json

inductive Frame where
  | list
  | object
deriving DecidableEq, Repr

/-- Where the reader stands: before a value, before a member's key, or behind a value. -/
inductive Spot where
  | value
  | key
  | behind
deriving DecidableEq, Repr

/-- Skips a value that is no container. -/
def skipScalar : List Char → Except Fault (List Char)
  | 'n' :: cs => word ['u', 'l', 'l'] cs
  | 't' :: cs => word ['r', 'u', 'e'] cs
  | 'f' :: cs => word ['a', 'l', 's', 'e'] cs
  | '-' :: cs => skipNumber cs
  | '"' :: cs => skipString cs
  | [] => .error (.ahead .endInValue [])
  | c :: cs => if isDigit c then skipNumber (c :: cs) else .error (.ahead .expectedValue (c :: cs))

theorem length_of_skipScalar {cs rest : List Char} (h : skipScalar cs = .ok rest) :
    rest.length < cs.length := by
  unfold skipScalar at h
  split at h
  · have := length_of_word h
    simp only [List.length_cons]
    omega
  · have := length_of_word h
    simp only [List.length_cons]
    omega
  · have := length_of_word h
    simp only [List.length_cons]
    omega
  · have := length_of_skipNumber h
    simp only [List.length_cons]
    omega
  · have := length_of_skipString h
    simp only [List.length_cons]
    omega
  · simp at h
  · split at h
    · exact length_of_skipNumber h
    · simp at h

/-- Behind the opening bracket of a list: its first value or its end. -/
def openList (cs : List Char) : Except Fault (Spot × List Char) :=
  match skipWhite cs with
  | [] => .error (.ahead .endInList [])
  | ']' :: cs => .ok (.behind, cs)
  | cs => .ok (.value, cs)

/-- Behind the opening brace of an object: its first key or its end. -/
def openObject (cs : List Char) : Except Fault (Spot × List Char) :=
  match skipWhite cs with
  | [] => .error (.ahead .endInObject [])
  | '\x7d' :: cs => .ok (.behind, cs)
  | cs => .ok (.key, cs)

/-- Behind a value of a container: a comma, after which the next one comes, or the end. -/
def separator (frame : Frame) (cs : List Char) : Except Fault (Spot × List Char) :=
  match frame, skipWhite cs with
  | .list, [] => .error (.ahead .endInList [])
  | .list, ',' :: cs => .ok (.value, cs)
  | .list, ']' :: cs => .ok (.behind, cs)
  | .list, cs => .error (.ahead .expectedListCommaOrEnd cs)
  | .object, [] => .error (.ahead .endInObject [])
  | .object, ',' :: cs => .ok (.key, cs)
  | .object, '\x7d' :: cs => .ok (.behind, cs)
  | .object, cs => .error (.ahead .expectedObjectCommaOrEnd cs)

/-- The colon behind a key. -/
def colon (cs : List Char) : Except Fault (List Char) :=
  match skipWhite cs with
  | [] => .error (.ahead .endInObject [])
  | ':' :: cs => .ok cs
  | cs => .error (.ahead .expectedColon cs)

/-- A key that nobody reads, with its colon. -/
def skipKey (cs : List Char) : Except Fault (List Char) :=
  match skipWhite cs with
  | [] => .error (.ahead .endInObject [])
  | '"' :: cs =>
    match skipString cs with
    | .error f => .error f
    | .ok cs => colon cs
  | cs => .error (.ahead .keyNotString cs)

theorem length_of_openList {cs rest : List Char} {spot : Spot}
    (h : openList cs = .ok (spot, rest)) : rest.length ≤ cs.length := by
  have hw := length_skipWhite_le cs
  unfold openList at h
  split at h
  · simp at h
  · rename_i heq
    simp only [Except.ok.injEq, Prod.mk.injEq] at h
    simp only [heq, List.length_cons, h.2] at hw
    omega
  · simp only [Except.ok.injEq, Prod.mk.injEq] at h
    rw [← h.2]
    exact hw

theorem length_of_openObject {cs rest : List Char} {spot : Spot}
    (h : openObject cs = .ok (spot, rest)) : rest.length ≤ cs.length := by
  have hw := length_skipWhite_le cs
  unfold openObject at h
  split at h
  · simp at h
  · rename_i heq
    simp only [Except.ok.injEq, Prod.mk.injEq] at h
    simp only [heq, List.length_cons, h.2] at hw
    omega
  · simp only [Except.ok.injEq, Prod.mk.injEq] at h
    rw [← h.2]
    exact hw

theorem length_of_separator {frame : Frame} {cs rest : List Char} {spot : Spot}
    (h : separator frame cs = .ok (spot, rest)) : rest.length < cs.length := by
  have hw := length_skipWhite_le cs
  unfold separator at h
  split at h
  all_goals first
    | (simp at h; done)
    | (rename_i heq
       simp only [Except.ok.injEq, Prod.mk.injEq] at h
       simp only [heq, List.length_cons, h.2] at hw
       omega)

theorem length_of_colon {cs rest : List Char} (h : colon cs = .ok rest) :
    rest.length < cs.length := by
  have hw := length_skipWhite_le cs
  unfold colon at h
  split at h
  · simp at h
  · rename_i heq
    simp only [Except.ok.injEq] at h
    simp only [heq, List.length_cons, h] at hw
    omega
  · simp at h

theorem length_of_skipKey {cs rest : List Char} (h : skipKey cs = .ok rest) :
    rest.length < cs.length := by
  have hw := length_skipWhite_le cs
  unfold skipKey at h
  split at h
  · simp at h
  · rename_i heq
    simp only [heq, List.length_cons] at hw
    split at h
    · simp at h
    · rename_i hs
      have := length_of_skipString hs
      have := length_of_colon h
      omega
  · simp at h

/-- The open containers once `frame` has been opened or gone on with: it stays open unless what
comes next is behind it. -/
def keepOpen (frame : Frame) (outer : List Frame) : Spot → List Frame
  | .behind => outer
  | _ => frame :: outer

/-- Skips from `spot` to the end of the value, `stack` being the containers that are open. -/
def skip (spot : Spot) (stack : List Frame) (cs : List Char) : Except Fault (List Char) :=
  match spot with
  | .value =>
    match _hw : skipWhite cs with
    | [] => .error (.ahead .endInValue [])
    | '[' :: inner =>
      match _ho : openList inner with
      | .error f => .error f
      | .ok (spot, rest) => skip spot (keepOpen .list stack spot) rest
    | '\x7b' :: inner =>
      match _ho : openObject inner with
      | .error f => .error f
      | .ok (spot, rest) => skip spot (keepOpen .object stack spot) rest
    | c :: inner =>
      match _hs : skipScalar (c :: inner) with
      | .error f => .error f
      | .ok rest => skip .behind stack rest
  | .key =>
    match _hk : skipKey cs with
    | .error f => .error f
    | .ok rest => skip .value stack rest
  | .behind =>
    match stack with
    | [] => .ok cs
    | frame :: outer =>
      match _hs : separator frame cs with
      | .error f => .error f
      | .ok (spot, rest) => skip spot (keepOpen frame outer spot) rest
termination_by cs.length
decreasing_by
  · have := length_of_openList _ho
    have := length_skipWhite_le cs
    simp only [_hw, List.length_cons] at this
    omega
  · have := length_of_openObject _ho
    have := length_skipWhite_le cs
    simp only [_hw, List.length_cons] at this
    omega
  · have := length_of_skipScalar _hs
    have := length_skipWhite_le cs
    simp only [_hw, List.length_cons] at *
    omega
  · exact length_of_skipKey _hk
  · exact length_of_separator _hs

theorem length_of_skip {spot : Spot} {stack : List Frame} {cs rest : List Char}
    (h : skip spot stack cs = .ok rest) : rest.length ≤ cs.length := by
  fun_induction skip spot stack cs with
  | case1 => simp at h
  | case2 => simp at h
  | case3 stack cs inner hw spot mid ho ih =>
    have := length_of_openList ho
    have := length_skipWhite_le cs
    simp only [hw, List.length_cons] at this
    have := ih h
    omega
  | case4 => simp at h
  | case5 stack cs inner hw spot mid ho ih =>
    have := length_of_openObject ho
    have := length_skipWhite_le cs
    simp only [hw, List.length_cons] at this
    have := ih h
    omega
  | case6 => simp at h
  | case7 stack cs c inner _ _ hw mid hs ih =>
    have := length_of_skipScalar hs
    have := length_skipWhite_le cs
    simp only [hw, List.length_cons] at *
    have := ih h
    omega
  | case8 => simp at h
  | case9 stack cs mid hk ih =>
    have := length_of_skipKey hk
    have := ih h
    omega
  | case10 =>
    simp only [Except.ok.injEq] at h
    simp [h]
  | case11 => simp at h
  | case12 cs frame outer spot mid hs ih =>
    have := length_of_separator hs
    have := ih h
    omega

/-- Skips one value. -/
def skipValue (cs : List Char) : Except Fault (List Char) := skip .value [] cs

theorem length_of_skipValue {cs rest : List Char} (h : skipValue cs = .ok rest) :
    rest.length ≤ cs.length :=
  length_of_skip h

end ProblemVisualizer.Json
