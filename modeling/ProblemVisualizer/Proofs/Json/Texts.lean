import ProblemVisualizer.Proofs.Json.Objects
import ProblemVisualizer.Proofs.Json.Writing

/-! Records in which every field is a text.

Some records allow neither nulls nor members with other keys. What such a record can be
read from is described by `Tells`: an object of texts under keys of the record, each at
most once, or a list of texts, which go to the fields in their order.
`parseRecord_eq_ok_iff` says that it is read from these texts, with what they say, and
from no others; all of them are JSON (`Tells.jsonText`). -/
namespace ProblemVisualizer.Json

/-! ### Lists of texts, and JSON -/

/-- The rest of a list of texts. -/
inductive Elements : Bool → List String → List Char → List Char → Prop
  | close {first cs rest} : Blank cs (']' :: rest) → Elements first [] cs rest
  | text {first s more cs a b rest} : Lead first cs ('"' :: a) → Spells s.toList a b →
      Elements false more b rest → Elements first (s :: more) cs rest

/-- The text is a list of these texts, in this order. -/
inductive ListText (elements : List String) (text : String) : Prop
  | mk {cs rest} : Blank text.toList ('[' :: cs) → Elements true elements cs rest →
      Blank rest [] → ListText elements text

/-- The text is one value with white space around it. -/
inductive JsonText (text : String) : Prop
  | mk {cs rest} : Blank text.toList cs → Phrase .value cs rest → Blank rest [] → JsonText text

/-- The text says these texts under these of the keys. -/
inductive Tells (keys : List String) (told : List (String × String)) (text : String) : Prop
  | object : ObjectText (texts told) text → (∀ m ∈ told, m.1 ∈ keys) →
      (told.map Prod.fst).Nodup → Tells keys told text
  | list {elements} : ListText elements text → elements.length ≤ keys.length →
      told = keys.zip elements → Tells keys told text

theorem Members.phrase {first : Bool} {members : List (String × Content)} {cs rest : List Char}
    (h : Members first members cs rest) : Phrase (.rest .object first) cs rest := by
  induction h with
  | close hb => exact .close hb
  | member hl hs hb hb' hh _ ih => exact .member hl hs.characters hb hb' hh.phrase ih

theorem Elements.phrase {first : Bool} {elements : List String} {cs rest : List Char}
    (h : Elements first elements cs rest) : Phrase (.rest .list first) cs rest := by
  induction h with
  | close hb => exact .close hb
  | text hl hs _ ih => exact .element hl (.string hs.characters) ih

theorem ObjectText.jsonText {members : List (String × Content)} {text : String}
    (h : ObjectText members text) : JsonText text := by
  obtain ⟨hb, hm, hb'⟩ := h
  have object : Phrase .value (Frame.object.opening :: _) _ := .container hm.phrase
  exact .mk hb object hb'

theorem Tells.jsonText {keys : List String} {told : List (String × String)} {text : String}
    (h : Tells keys told text) : JsonText text := by
  cases h with
  | object object _ _ => exact object.jsonText
  | list list _ _ =>
    obtain ⟨hb, he, hb'⟩ := list
    have list : Phrase .value (Frame.list.opening :: _) _ := .container he.phrase
    exact .mk hb list hb'

theorem keys_zip (keys elements : List String) :
    (keys.zip elements).map Prod.fst = keys.take elements.length := by
  induction keys generalizing elements with
  | nil => rw [List.zip_nil_left, List.take_nil]; rfl
  | cons key keys ih =>
    cases elements with
    | nil => rfl
    | cons s elements => exact congrArg (key :: ·) (ih elements)

/-- A key comes once in what is said. -/
theorem Tells.nodup {keys : List String} {told : List (String × String)} {text : String}
    (h : Tells keys told text) (once : keys.Nodup) : (told.map Prod.fst).Nodup := by
  cases h with
  | object _ _ nodup => exact nodup
  | list _ _ same =>
    rw [same, keys_zip]
    exact once.sublist (List.take_sublist ..)

/-! ### Objects that tell texts -/

/-- No text is both a list and an object. -/
theorem ListText.not_objectText {elements : List String} {members : List (String × Content)}
    {text : String} (h : ListText elements text) : ¬ ObjectText members text := by
  rintro ⟨brace, -, -⟩
  obtain ⟨bracket, -, -⟩ := h
  have same := (skipWhite_to bracket (by decide)).symm.trans (skipWhite_to brace (by decide))
  exact absurd (List.cons.inj same).1 (by decide)

theorem keys_texts (told : List (String × String)) :
    (texts told).map Prod.fst = told.map Prod.fst := by
  rw [texts, List.map_map]
  rfl

/-- However an object is described, it has the keys that it tells. -/
theorem Tells.of_objectText {keys : List String} {told : List (String × String)}
    {members : List (String × Content)} {text : String} (tells : Tells keys told text)
    (h : ObjectText members text) : ObjectText (texts told) text ∧
      (∀ key ∈ members.map Prod.fst, key ∈ keys) ∧ (members.map Prod.fst).Nodup := by
  cases tells with
  | object object known once =>
    have same : members.map Prod.fst = told.map Prod.fst :=
      (h.agree object).keys_eq.trans (keys_texts told)
    rw [same]
    refine ⟨object, ?_, once⟩
    rintro key mem
    obtain ⟨m, hm, rfl⟩ := List.mem_map.mp mem
    exact known m hm
  | list list _ _ => exact absurd h list.not_objectText

/-- The order of the keys is of no account. -/
theorem Tells.perm {keys : List String} {told others : List (String × String)} {text other : String}
    (tells : Tells keys told text) (object : ObjectText (texts told) text) (same : told.Perm others)
    (object' : ObjectText (texts others) other) : Tells keys others other := by
  obtain ⟨-, known, once⟩ := tells.of_objectText object
  rw [keys_texts] at known once
  refine .object object' (fun m hm => ?_) ((same.map Prod.fst).nodup_iff.mp once)
  exact known m.1 (List.mem_map_of_mem (same.mem_iff.mpr hm))

/-! ### What the reader has read -/

section Reading

variable {shape : Shape} {first : Bool} {name : String} {name? : Option String} {values read : Values}
variable {cs rest : List Char}

theorem blank_skipWhite (cs : List Char) : Blank cs (skipWhite cs) := by
  have white : ∀ c, isWhite c = true → c ∈ [' ', '\n', '\t', '\r'] := by simp [isWhite, or_assoc]
  induction cs with
  | nil => exact .none
  | cons c cs ih =>
    by_cases hc : isWhite c = true
    · rw [skipWhite, List.dropWhile_cons_of_pos hc]
      exact .cons (white c hc) ih
    · rw [skipWhite_cons (by simpa using hc)]
      exact .none

theorem blank_of_skipWhite {mid : List Char} (h : skipWhite cs = mid) : Blank cs mid :=
  h ▸ blank_skipWhite cs

theorem blank_of_colon (h : colon cs = .ok rest) : Blank cs (':' :: rest) := by
  unfold colon at h
  split at h
  · cases h
  · rename_i found
    obtain rfl := Except.ok.inj h
    exact blank_of_skipWhite found
  · cases h

/-- Behind a member comes the end of the object or the key of the next member. -/
theorem lead_of_nextKey (h : nextKey first cs = .ok (name?, rest)) :
    (name? = none ∧ Blank cs ('\x7d' :: rest)) ∨
    ∃ name a, name? = some name ∧ Lead first cs ('"' :: a) ∧ Spells name.toList a rest := by
  unfold nextKey at h
  dsimp only at h
  split at h
  · cases h
  · rename_i found
    obtain ⟨rfl, rfl⟩ := Prod.mk.inj (Except.ok.inj h)
    exact .inl ⟨rfl, blank_of_skipWhite found⟩
  rename_i found
  have blank := blank_of_skipWhite found
  split at h
  · rename_i opening
    subst opening
    split at h
    · rename_i quote
      subst quote
      split at h
      · cases h
      · rename_i name behind reads
        obtain ⟨rfl, rfl⟩ := Prod.mk.inj (Except.ok.inj h)
        exact .inr ⟨name, _, rfl, .first blank, spells_toList_of_string reads⟩
    · cases h
  · rename_i behind
    obtain rfl : first = false := Bool.not_eq_true _ ▸ behind
    split at h
    · rename_i comma
      subst comma
      split at h
      · cases h
      · rename_i next
        split at h
        · cases h
        · rename_i name behind reads
          obtain ⟨rfl, rfl⟩ := Prod.mk.inj (Except.ok.inj h)
          exact .inr ⟨name, _, rfl, .next blank (blank_of_skipWhite next),
            spells_toList_of_string reads⟩
      · cases h
      · cases h
    · cases h

theorem blank_of_nextKey (h : nextKey first cs = .ok (none, rest)) : Blank cs ('\x7d' :: rest) := by
  obtain ⟨-, blank⟩ | ⟨_, _, some, -⟩ := lead_of_nextKey h
  · exact blank
  · cases some

theorem lead_of_nextKey_some (h : nextKey first cs = .ok (some name, rest)) :
    ∃ a, Lead first cs ('"' :: a) ∧ Spells name.toList a rest := by
  obtain ⟨none, -⟩ | ⟨_, a, some, lead, spells⟩ := lead_of_nextKey h
  · cases none
  · obtain rfl := Option.some.inj some
    exact ⟨a, lead, spells⟩

theorem spells_of_readText {expected : String} {value : Option String}
    (h : readText false expected cs = .ok (value, rest)) :
    ∃ s a, value = some s ∧ Blank cs ('"' :: a) ∧ Spells s.toList a rest := by
  unfold readText at h
  split at h
  · rename_i found
    split at h
    · cases h
    · rename_i s behind reads
      obtain ⟨rfl, rfl⟩ := Prod.mk.inj (Except.ok.inj h)
      exact ⟨s, _, rfl, blank_of_skipWhite found, spells_toList_of_string reads⟩
  · rw [if_neg Bool.false_ne_true] at h
    cases h
  · cases h

/-- The texts that have been read, with their keys. -/
def given (told : List (String × String)) : Values := told.map fun m => (m.1, some m.2)

theorem keys_given (told : List (String × String)) :
    (given told).map Prod.fst = told.map Prod.fst := by
  rw [given, List.map_map]
  rfl

theorem given_concat (key s : String) (told : List (String × String)) (values : Values) :
    (given ((key, s) :: told)).reverse ++ values
      = (given told).reverse ++ (key, some s) :: values := by
  rw [given, List.map_cons, List.reverse_cons, List.append_assoc]
  rfl

/-- **Members that are read as fields are texts under keys of the record**, and none comes twice. -/
theorem members_of_readMembers (strict : shape.nullable = false) (closed : shape.closed = true)
    (h : readMembers shape first values cs = .ok (read, rest)) (once : (values.map Prod.fst).Nodup) :
    ∃ told, Members first (texts told) cs rest ∧
      (∀ m ∈ told, m.1 ∈ shape.fields.map Field.name) ∧
      read = (given told).reverse ++ values ∧ (read.map Prod.fst).Nodup := by
  fun_induction readMembers shape first values cs with
  | case1 => cases h
  | case2 first values cs behind next =>
    obtain ⟨rfl, rfl⟩ := Prod.mk.inj (Except.ok.inj h)
    exact ⟨[], .close (blank_of_nextKey next), nofun, rfl, once⟩
  | case3 => cases h
  | case4 => cases h
  | case5 => cases h
  | case6 first values cs name behind next field known new after colon value rest' text ih =>
    rw [strict] at text
    have fresh := Values.not_mem_of_lookup (Option.not_isSome_iff_eq_none.mp new)
    obtain ⟨_, lead, key⟩ := lead_of_nextKey_some next
    obtain ⟨s, _, rfl, blank, spells⟩ := spells_of_readText text
    obtain ⟨told, members, keys, rfl, nodup⟩ := ih h (List.nodup_cons.mpr ⟨fresh, once⟩)
    refine ⟨(name, s) :: told, .member lead key (blank_of_colon colon) blank (.text spells) members,
      ?_, (given_concat ..).symm, nodup⟩
    rw [List.forall_mem_cons]
    exact ⟨field?_isSome_iff.mp (Option.isSome_of_eq_some known), keys⟩
  | case7 => cases h
  | case8 => cases h
  | case9 => cases h
  | case10 => contradiction

theorem Blank.trans {mid : List Char} (h : Blank cs mid) (h' : Blank mid rest) : Blank cs rest := by
  induction h with
  | none => exact h'
  | cons hc _ ih => exact .cons hc (ih h')

theorem blank_of_closeList (h : closeList cs = .ok rest) : Blank cs (']' :: rest) := by
  unfold closeList at h
  split at h
  · cases h
  · rename_i found
    obtain rfl := Except.ok.inj h
    exact blank_of_skipWhite found
  · split at h <;> cases h
  · cases h

/-- Behind an element comes the end of the list, or what leads to the next element. -/
theorem lead_of_nextValue {more : Bool} {mid : List Char} (h : nextValue first cs = .ok (more, mid)) :
    (more = false ∧ Blank cs (']' :: mid)) ∨
    (more = true ∧ ∀ a, Blank mid a → Lead first cs a) := by
  unfold nextValue at h
  split at h
  · cases h
  · rename_i found
    obtain ⟨rfl, rfl⟩ := Prod.mk.inj (Except.ok.inj h)
    exact .inl ⟨rfl, blank_of_skipWhite found⟩
  rename_i found
  have blank := blank_of_skipWhite found
  split at h
  · rename_i opening
    subst opening
    obtain ⟨rfl, rfl⟩ := Prod.mk.inj (Except.ok.inj h)
    exact .inr ⟨rfl, fun a further => .first (blank.trans further)⟩
  · rename_i behind
    obtain rfl : first = false := Bool.not_eq_true _ ▸ behind
    split at h
    · rename_i comma
      subst comma
      split at h
      · cases h
      · cases h
      · obtain ⟨rfl, rfl⟩ := Prod.mk.inj (Except.ok.inj h)
        exact .inr ⟨rfl, fun a further => .next blank ((blank_skipWhite _).trans further)⟩
    · cases h

/-- **Values that are read as fields are texts**, and no more than there are fields. -/
theorem elements_of_readValues {fields : List Field}
    (h : readValues false first values fields cs = .ok (read, rest)) :
    ∃ elements, Elements first elements cs rest ∧ elements.length ≤ fields.length ∧
      read = (given ((fields.map Field.name).zip elements)).reverse ++ values := by
  induction fields generalizing first values cs with
  | nil =>
    rw [readValues] at h
    cases ends : closeList cs with
    | error f => rw [ends] at h; cases h
    | ok behind =>
      rw [ends] at h
      obtain ⟨rfl, rfl⟩ := Prod.mk.inj (Except.ok.inj h)
      exact ⟨[], .close (blank_of_closeList ends), Nat.le_refl _, rfl⟩
  | cons field fields ih =>
    rw [readValues] at h
    split at h
    · cases h
    · rename_i next
      obtain ⟨rfl, rfl⟩ := Prod.mk.inj (Except.ok.inj h)
      obtain ⟨-, ends⟩ | ⟨more, -⟩ := lead_of_nextValue next
      · exact ⟨[], .close ends, Nat.zero_le _, by rw [List.zip_nil_right]; rfl⟩
      · cases more
    · rename_i next
      obtain ⟨done, -⟩ | ⟨-, lead⟩ := lead_of_nextValue next
      · cases done
      split at h
      · cases h
      · rename_i text
        obtain ⟨s, a, rfl, blank, spells⟩ := spells_of_readText text
        obtain ⟨elements, rest_elements, few, rfl⟩ := ih h
        exact ⟨s :: elements, .text (lead _ blank) spells rest_elements,
          Nat.succ_le_succ few, (given_concat ..).symm⟩

/-! ### What the reader reads -/

theorem nextValue_of_lead {a : List Char} (h : Lead first cs ('"' :: a)) :
    nextValue first cs = .ok (true, '"' :: a) := by
  cases h with
  | first hb => simp [nextValue, skipWhite_to hb (by decide)]
  | next hb hb' =>
    simp [nextValue, skipWhite_to hb (by decide), skipWhite_to hb' (by decide)]

theorem readValues_of_elements {nullable : Bool} {fields : List Field} {elements : List String}
    (h : Elements first elements cs rest) (few : elements.length ≤ fields.length) :
    readValues nullable first values fields cs
      = .ok ((given ((fields.map Field.name).zip elements)).reverse ++ values, rest) := by
  induction h generalizing fields values with
  | close hb =>
    have ends := skipWhite_to hb (by decide)
    rw [List.zip_nil_right]
    cases fields with
    | nil => simp [readValues, closeList, ends, Except.map, given]
    | cons field fields => simp [readValues, nextValue, ends, given]
  | @text _ s _ _ _ _ _ lead spells _ ih =>
    cases fields with
    | nil => cases few
    | cons field fields =>
      have text : readText nullable field.expected _ = .ok (some s, _) :=
        readText_of_holds field.expected .none (.text spells) nofun nofun
      rw [readValues, nextValue_of_lead lead]
      simp only [text]
      rw [ih (Nat.le_of_succ_le_succ few), List.map_cons, List.zip_cons_cons, given_concat]

theorem values_texts {told : List (String × String)}
    (keys : ∀ m ∈ told, m.1 ∈ shape.fields.map Field.name) : shape.values (texts told) = given told := by
  induction told with
  | nil => rfl
  | cons m told ih =>
    rw [List.forall_mem_cons] at keys
    obtain ⟨field, known⟩ := Option.isSome_iff_exists.mp (field?_isSome_iff.mpr keys.1)
    have first := Shape.values_field known (.text m.2) (texts told)
    rw [ih keys.2] at first
    exact first

theorem admits_texts {told : List (String × String)}
    (keys : ∀ m ∈ told, m.1 ∈ shape.fields.map Field.name) : ∀ m ∈ texts told, shape.Admits m := by
  intro m hm
  obtain ⟨⟨key, s⟩, mem, rfl⟩ := List.mem_map.mp hm
  obtain ⟨field, known⟩ := Option.isSome_iff_exists.mp (field?_isSome_iff.mpr (keys _ mem))
  rw [Shape.Admits, known]
  exact ⟨Content.noConfusion, Content.noConfusion⟩

theorem parseRecord_of_tells {told : List (String × String)} {text : String}
    (h : Tells (shape.fields.map Field.name) told text) :
    parseRecord shape text = .ok (given told).reverse := by
  cases h with
  | object object keys once =>
    rw [← keys_given, ← values_texts keys] at once
    rw [parseRecord_of_objectText object (admits_texts keys) once, values_texts keys]
  | list list few same =>
    obtain ⟨hb, he, hb'⟩ := list
    rw [List.length_map] at few
    have read : readValues shape.nullable true [] shape.fields _ = .ok _ :=
      readValues_of_elements he few
    rw [List.append_nil, ← same] at read
    have front := skipWhite_to hb (by decide)
    have behind := skipWhite_of_blank hb'
    rw [parseRecord, readRecord, front]
    simp only [read, behind]
    rfl

theorem tells_of_parseRecord {text : String} (strict : shape.nullable = false)
    (closed : shape.closed = true) (h : parseRecord shape text = .ok read) :
    ∃ told, Tells (shape.fields.map Field.name) told text ∧ read = (given told).reverse := by
  rw [parseRecord] at h
  split at h
  · rename_i values whole
    obtain rfl := Except.ok.inj h
    unfold readRecord at whole
    dsimp only at whole
    split at whole
    · cases whole
    · rename_i read behind inside
      split at whole
      · rename_i nothing
        obtain rfl := Except.ok.inj whole
        have ends : Blank behind [] := blank_of_skipWhite nothing
        split at inside
        · rename_i opening
          obtain ⟨told, members, keys, rfl, once⟩ :=
            members_of_readMembers strict closed inside List.nodup_nil
          rw [List.append_nil] at once ⊢
          have nodup := nodup_keys_reverse once
          rw [List.reverse_reverse, keys_given] at nodup
          exact ⟨told, .object (.mk (blank_of_skipWhite opening) members ends) keys nodup, rfl⟩
        · rename_i opening
          rw [strict] at inside
          obtain ⟨elements, list, few, rfl⟩ := elements_of_readValues inside
          rw [List.append_nil]
          refine ⟨_, .list (.mk (blank_of_skipWhite opening) list ends) ?_ rfl, rfl⟩
          rwa [List.length_map]
        · cases inside
      · cases whole
  · cases h

/-- **A record of texts is read from what says texts under its keys, and from nothing else.** -/
theorem parseRecord_eq_ok_iff {text : String} (strict : shape.nullable = false)
    (closed : shape.closed = true) : parseRecord shape text = .ok read ↔
      ∃ told, Tells (shape.fields.map Field.name) told text ∧ read = (given told).reverse := by
  constructor
  · exact tells_of_parseRecord strict closed
  · rintro ⟨told, tells, rfl⟩
    exact parseRecord_of_tells tells

/-- A key is looked up among the texts that have been read. -/
theorem text?_given {told : List (String × String)} {key s : String}
    (once : (told.map Prod.fst).Nodup) :
    Values.text? (given told).reverse key = some s ↔ (key, s) ∈ told := by
  have nodup : ((given told).reverse.map Prod.fst).Nodup :=
    nodup_keys_reverse (keys_given told ▸ once)
  constructor
  · intro found
    obtain ⟨value, hit, rfl⟩ : ∃ value, (given told).reverse.lookup key = some value ∧
        value = some s := by simpa [Values.text?, Option.join_eq_some_iff] using found
    obtain ⟨m, hm, same⟩ := List.mem_map.mp (List.mem_reverse.mp (Values.mem_of_lookup hit))
    obtain ⟨rfl, rest⟩ := Prod.mk.inj same
    obtain rfl := Option.some.inj rest
    exact hm
  · intro mem
    exact Values.text?_of_mem nodup (List.mem_reverse.mpr (List.mem_map_of_mem mem))

end Reading

end ProblemVisualizer.Json
