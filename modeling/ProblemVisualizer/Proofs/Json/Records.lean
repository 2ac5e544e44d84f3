import Mathlib.Data.List.Nodup
import ProblemVisualizer.Proofs.Json.Skipping

/-! Reading a record from any object that denotes it.

`parseRecord_of_objectText`: whatever the order of the members, the white space
between them and the spelling of the strings, a record is read as the fields
among the members with the texts they hold, the last one first. What is asked of
the object is that its members are admitted by the record's shape and that no
field comes twice.

`parseRecord_of_denotes` says the same of an assignment of texts to all fields:
from an object that denotes the assignment, each field gets what it is assigned. -/
namespace ProblemVisualizer.Json

/-! ### What a member says -/

namespace Content

def text? : Content → Option String
  | text s => some s
  | _ => none

end Content

/-- A field holds a text or, where the record allows it, a null; any other member may hold
anything, unless the record is closed. -/
def Shape.Admits (shape : Shape) (m : String × Content) : Prop :=
  match shape.field? m.1 with
  | some _ => m.2 ≠ .any ∧ (m.2 = .null → shape.nullable = true)
  | none => shape.closed = false

/-- The fields among the members, with their texts. -/
def Shape.values (shape : Shape) (members : List (String × Content)) : Values :=
  members.filterMap fun m => (shape.field? m.1).map fun _ => (m.1, m.2.text?)

theorem Shape.values_field {shape : Shape} {name : String} {field : Field}
    (h : shape.field? name = some field) (content : Content) (members : List (String × Content)) :
    shape.values ((name, content) :: members) = (name, content.text?) :: shape.values members := by
  simp [Shape.values, h]

theorem Shape.values_other {shape : Shape} {name : String} (h : shape.field? name = none)
    (content : Content) (members : List (String × Content)) :
    shape.values ((name, content) :: members) = shape.values members := by
  simp [Shape.values, h]

theorem Spelling.characters {c : Char} {cs mid rest : List Char} (h : Spelling c cs mid)
    (hr : Characters mid rest) : Characters cs rest := by
  cases h with
  | plain hc => exact .plain hc hr
  | short he => exact .short he hr
  | unit hn => exact .unit hn hr
  | pair _ hn hm => exact .unit hn (.unit hm hr)

theorem Spells.characters {text cs rest : List Char} (h : Spells text cs rest) :
    Characters cs rest := by
  induction h with
  | close => exact .close
  | cons hc _ ih => exact hc.characters ih

/-- Whatever a member holds is a value. -/
theorem Holds.phrase {content : Content} {cs rest : List Char} (h : Holds content cs rest) :
    Phrase .value cs rest := by
  cases h with
  | text hs => exact .string hs.characters
  | null => exact .null
  | any hv => exact hv

/-! ### Members -/

variable {shape : Shape} {first : Bool} {values : Values} {name : String}
variable {content : Content} {members : List (String × Content)}
variable {cs a b c d rest : List Char}

theorem ends_of_members (h : Members false members cs rest) : Ends cs := by
  cases h with
  | close hb => exact hb.ends (ends_cons (by decide) _)
  | member hl _ _ _ _ _ => exact hl.ends

theorem nextKey_of_close (h : Blank cs ('\x7d' :: rest)) : nextKey first cs = .ok (none, rest) := by
  simp [nextKey, skipWhite_to h (by decide)]

theorem nextKey_of_lead (h : Lead first cs ('"' :: a)) (hs : Spells name.toList a b) :
    nextKey first cs = .ok (some name, b) := by
  cases h with
  | first hb => simp [nextKey, skipWhite_to hb (by decide), string_of_text hs]
  | next hb hb' =>
    simp [nextKey, skipWhite_to hb (by decide), skipWhite_to hb' (by decide), string_of_text hs]

theorem readText_of_holds {nullable : Bool} (expected : String) (hb : Blank c d)
    (h : Holds content d rest) (ha : content ≠ .any) (hn : content = .null → nullable = true) :
    readText nullable expected c = .ok (content.text?, rest) := by
  cases h with
  | text hs => simp [readText, skipWhite_to hb (by decide), string_of_text hs, Content.text?]
  | null => simp [readText, skipWhite_to hb (by decide), hn rfl, word, Content.text?]
  | any _ => exact absurd rfl ha

theorem skipValue_of_holds (hb : Blank c d) (h : Holds content d rest) (hr : Ends rest) :
    skipValue c = .ok rest :=
  (skip_value_of_blank hb).trans (skipValue_of_phrase h.phrase hr)

theorem readMembers_end (hk : nextKey first cs = .ok (none, rest)) :
    readMembers shape first values cs = .ok (values, rest) := by
  rw [readMembers.eq_def]
  split <;> simp_all

theorem readMembers_field {field : Field} {value : Option String}
    (hk : nextKey first cs = .ok (some name, a)) (hf : shape.field? name = some field)
    (fresh : name ∉ values.map Prod.fst) (hc : colon a = .ok b)
    (hv : readText shape.nullable field.expected b = .ok (value, d)) :
    readMembers shape first values cs = readMembers shape false ((name, value) :: values) d := by
  have unread : (values.lookup name).isSome = false := by
    rw [Option.isSome_eq_false_iff, Option.isNone_iff_eq_none, List.lookup_eq_none_iff]
    intro p hp
    exact bne_iff_ne.mpr fun heq => fresh (heq ▸ List.mem_map_of_mem hp)
  rw [readMembers.eq_def]
  split
  · simp_all
  · simp_all
  · rename_i heq
    obtain ⟨rfl, rfl⟩ : _ = name ∧ _ = a := by simpa using heq.symm.trans hk
    simp only [hf, unread, Bool.false_eq_true, if_false]
    split
    · simp_all
    · rename_i heq'
      obtain rfl : _ = b := by simpa using heq'.symm.trans hc
      split <;> simp_all

theorem readMembers_other (hk : nextKey first cs = .ok (some name, a))
    (hf : shape.field? name = none) (opened : shape.closed = false) (hc : colon a = .ok b)
    (hv : skipValue b = .ok d) :
    readMembers shape first values cs = readMembers shape false values d := by
  rw [readMembers.eq_def]
  split <;> simp_all
  split <;> simp_all
  split <;> simp_all

/-- **The members of an object are read as the fields among them**, behind those read before. -/
theorem readMembers_of_members (h : Members first members cs rest)
    (ha : ∀ m ∈ members, shape.Admits m)
    (hn : (((shape.values members).reverse ++ values).map Prod.fst).Nodup) :
    readMembers shape first values cs = .ok ((shape.values members).reverse ++ values, rest) := by
  induction h generalizing values with
  | close hb => exact readMembers_end (nextKey_of_close hb)
  | @member _ name content members _ _ _ _ _ _ _ hl hs hb hb' hh hm ih =>
    have admits := ha _ List.mem_cons_self
    have others : ∀ m ∈ members, shape.Admits m := fun m hm => ha m (List.mem_cons_of_mem _ hm)
    have key := nextKey_of_lead hl hs
    have hc := colon_of_blank hb
    cases hf : shape.field? name with
    | some field =>
      simp only [Shape.Admits, hf] at admits
      have text := readText_of_holds field.expected hb' hh admits.1 admits.2
      rw [Shape.values_field hf, List.reverse_cons, List.append_assoc] at hn ⊢
      have fresh : name ∉ values.map Prod.fst := by
        have new := (List.nodup_append.mp (List.map_append ▸ hn)).2.1
        exact (List.nodup_cons.mp new).1
      rw [readMembers_field key hf fresh hc text]
      exact ih others hn
    | none =>
      simp only [Shape.Admits, hf] at admits
      rw [Shape.values_other hf] at hn ⊢
      rw [readMembers_other key hf admits hc (skipValue_of_holds hb' hh (ends_of_members hm))]
      exact ih others hn

/-! ### Records -/

theorem nodup_keys_reverse (h : (values.map Prod.fst).Nodup) :
    (values.reverse.map Prod.fst).Nodup := by
  rw [List.map_reverse]
  exact List.nodup_reverse.mpr h

/-- **An object of admitted members is read as the fields among them.** -/
theorem parseRecord_of_objectText {text : String} (h : ObjectText members text)
    (ha : ∀ m ∈ members, shape.Admits m) (hn : ((shape.values members).map Prod.fst).Nodup) :
    parseRecord shape text = .ok (shape.values members).reverse := by
  obtain ⟨hb, hm, hb'⟩ := h
  have once : (((shape.values members).reverse ++ []).map Prod.fst).Nodup := by
    rw [List.append_nil]
    exact nodup_keys_reverse hn
  have read := readMembers_of_members hm ha once
  have front := skipWhite_to hb (by decide)
  have behind := skipWhite_of_blank hb'
  rw [parseRecord, readRecord, front]
  simp only [read, behind]
  rw [List.append_nil]
  rfl

theorem Values.mem_of_lookup {value : Option String} (h : values.lookup name = some value) :
    (name, value) ∈ values := by
  obtain ⟨l, k, rfl, -⟩ := List.lookup_eq_some_iff.mp h
  simp

theorem Values.text?_of_mem {value : Option String} (hn : (values.map Prod.fst).Nodup)
    (h : (name, value) ∈ values) : values.text? name = value := by
  rw [Values.text?]
  cases hl : values.lookup name with
  | none => exact absurd rfl (bne_iff_ne.mp (List.lookup_eq_none_iff.mp hl _ h))
  | some other =>
    have same := List.inj_on_of_nodup_map hn (Values.mem_of_lookup hl) h rfl
    exact congrArg Prod.snd same

theorem Values.text?_eq_none (h : ∀ value, (name, value) ∈ values → value = none) :
    values.text? name = none := by
  rw [Values.text?]
  cases hl : values.lookup name with
  | none => rfl
  | some value => exact h value (Values.mem_of_lookup hl)

/-! ### Assignments -/

theorem field?_isSome_iff :
    (shape.field? name).isSome = true ↔ name ∈ shape.fields.map Field.name := by
  simp only [Shape.field?, List.find?_isSome, decide_eq_true_eq, List.mem_map]

/-- The object says which texts the entries have: a key of theirs comes once at most, with the
text or, if there is none, as null or not at all. Other members say nothing. -/
structure Denotes (members : List (String × Content)) (entries : Values) : Prop where
  once : ((members.filter fun m => m.1 ∈ entries.map Prod.fst).map Prod.fst).Nodup
  given : ∀ name s, (name, some s) ∈ entries → (name, .text s) ∈ members
  missing : ∀ name content, (name, none) ∈ entries → (name, content) ∈ members → content = .null

namespace Denotes

variable {entries : Values}

/-- What a known member holds is what the entries say. -/
theorem content_of_mem (hd : Denotes members entries) {value : Option String}
    (he : (name, value) ∈ entries) (hm : (name, content) ∈ members) :
    content ≠ .any ∧ content.text? = value := by
  cases value with
  | none =>
    obtain rfl := hd.missing name content he hm
    exact ⟨by simp, rfl⟩
  | some s =>
    have known : name ∈ entries.map Prod.fst := List.mem_map_of_mem he
    have mem : ∀ c, (name, c) ∈ members →
        (name, c) ∈ members.filter fun m => m.1 ∈ entries.map Prod.fst := fun c hc =>
      List.mem_filter.mpr ⟨hc, decide_eq_true known⟩
    have same := List.inj_on_of_nodup_map hd.once (mem _ hm) (mem _ (hd.given name s he)) rfl
    obtain rfl : content = .text s := congrArg Prod.snd same
    exact ⟨by simp, rfl⟩

/-- A record that allows nulls and strangers admits every object that assigns texts to its
fields. -/
theorem admits (hd : Denotes members entries)
    (fields : entries.map Prod.fst = shape.fields.map Field.name)
    (nullable : shape.nullable = true) (opened : shape.closed = false) :
    ∀ m ∈ members, shape.Admits m := by
  intro m hm
  unfold Shape.Admits
  split
  · rename_i field hf
    have known := field?_isSome_iff.mp (Option.isSome_of_eq_some hf)
    rw [← fields] at known
    obtain ⟨e, he, hk⟩ := List.mem_map.mp known
    have entry : (m.1, e.2) ∈ entries := hk ▸ he
    exact ⟨(hd.content_of_mem entry hm).1, fun _ => nullable⟩
  · exact opened

end Denotes

theorem keys_values (shape : Shape) (members : List (String × Content)) :
    (shape.values members).map Prod.fst
      = (members.filter fun m => m.1 ∈ shape.fields.map Field.name).map Prod.fst := by
  induction members with
  | nil => rfl
  | cons m members ih =>
    rw [List.filter_cons]
    cases hf : shape.field? m.1 with
    | some field =>
      have known := field?_isSome_iff.mp (Option.isSome_of_eq_some hf)
      rw [Shape.values_field hf, if_pos (decide_eq_true known)]
      exact congrArg (m.1 :: ·) ih
    | none =>
      have other : m.1 ∉ shape.fields.map Field.name := fun known => by
        simpa [hf] using field?_isSome_iff.mpr known
      rw [Shape.values_other hf, if_neg (by simpa using other)]
      exact ih

theorem mem_values {value : Option String} (h : (name, value) ∈ shape.values members) :
    ∃ content, (name, content) ∈ members ∧ content.text? = value := by
  obtain ⟨m, hm, heq⟩ := List.mem_filterMap.mp h
  cases hf : shape.field? m.1 with
  | none => simp [hf] at heq
  | some field =>
    obtain ⟨rfl, rfl⟩ : m.1 = name ∧ m.2.text? = value := by simpa [hf] using heq
    exact ⟨m.2, hm, rfl⟩

theorem mem_values_of_mem {field : Field} (hf : shape.field? name = some field)
    (h : (name, content) ∈ members) : (name, content.text?) ∈ shape.values members :=
  List.mem_filterMap.mpr ⟨(name, content), h, by simp [hf]⟩

/-- **Each field is read as the text it is assigned**, from any object that denotes the
assignment. -/
theorem parseRecord_of_denotes {entries : Values} {text : String}
    (fields : entries.map Prod.fst = shape.fields.map Field.name)
    (nullable : shape.nullable = true) (opened : shape.closed = false)
    (h : ObjectText members text) (hd : Denotes members entries) :
    ∃ values, parseRecord shape text = .ok values
      ∧ ∀ name value, (name, value) ∈ entries → values.text? name = value := by
  have once : ((shape.values members).map Prod.fst).Nodup := by
    rw [keys_values, ← fields]
    exact hd.once
  have admits := hd.admits fields nullable opened
  refine ⟨_, parseRecord_of_objectText h admits once, ?_⟩
  intro name value he
  cases value with
  | some s =>
    have known : name ∈ shape.fields.map Field.name := fields ▸ List.mem_map_of_mem he
    obtain ⟨field, hf⟩ := Option.isSome_iff_exists.mp (field?_isSome_iff.mpr known)
    have read := mem_values_of_mem hf (hd.given name s he)
    exact Values.text?_of_mem (nodup_keys_reverse once) (List.mem_reverse.mpr read)
  | none =>
    refine Values.text?_eq_none fun value hv => ?_
    obtain ⟨content, hm, rfl⟩ := mem_values (List.mem_reverse.mp hv)
    exact (hd.content_of_mem he hm).2

end ProblemVisualizer.Json
