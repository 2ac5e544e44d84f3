import ProblemVisualizer.Proofs.Json.Records
import ProblemVisualizer.Proofs.Json.Spelled

/-! What a text says as an object.

The same text can be described by more than one list of members, because a value
may be described as what it is or as any value at all. But the descriptions never
contradict each other: they have the same keys in the same order, and where two
of them say what a member holds they say the same (`ObjectText.agree`).

`exists_reads_of_parseRecord` is the converse of `parseRecord_of_objectText`: when a
record is read from an object, the members of the object can be described so that
the record's shape admits them all and no field comes twice. -/
namespace ProblemVisualizer.Json

/-- Two contents that one value can be described as. -/
def Content.Agrees (c d : Content) : Prop := c = .any ∨ d = .any ∨ c = d

/-- Descriptions of one object. -/
def Agree (members others : List (String × Content)) : Prop :=
  List.Forall₂ (fun m n => m.1 = n.1 ∧ m.2.Agrees n.2) members others

theorem Agree.keys_eq {members others : List (String × Content)} (h : Agree members others) :
    members.map Prod.fst = others.map Prod.fst := by
  induction h with
  | nil => rfl
  | cons m _ ih => rw [List.map_cons, List.map_cons, m.1, ih]

theorem Agree.exists_of_mem {members others : List (String × Content)} (h : Agree members others)
    {name : String} {c : Content} (hm : (name, c) ∈ members) :
    ∃ d, (name, d) ∈ others ∧ c.Agrees d := by
  induction h with
  | nil => cases hm
  | @cons m n _ _ head _ ih =>
    rcases List.mem_cons.mp hm with rfl | hm
    · exact ⟨n.2, by rw [show name = n.1 from head.1]; exact List.mem_cons_self, head.2⟩
    · obtain ⟨d, hd, agrees⟩ := ih hm
      exact ⟨d, List.mem_cons_of_mem _ hd, agrees⟩

section Descriptions

variable {shape : Shape} {first : Bool} {members others : List (String × Content)}
variable {cs a b rest rest' : List Char}

theorem Holds.agrees {c d : Content} (hc : Holds c cs rest) (hd : Holds d cs rest') :
    c.Agrees d := by
  cases hc with
  | any _ => exact .inl rfl
  | null =>
    cases hd with
    | any _ => exact .inr (.inl rfl)
    | null => exact .inr (.inr rfl)
  | text hs =>
    cases hd with
    | any _ => exact .inr (.inl rfl)
    | text hs' =>
      have same := (string_of_text hs).symm.trans (string_of_text hs')
      obtain ⟨rfl, -⟩ := Prod.mk.inj (Except.ok.inj same)
      exact .inr (.inr rfl)

/-- A value begins where the white space before it ends. -/
theorem Holds.skipWhite_eq {c : Content} (h : Holds c cs rest) : skipWhite cs = cs := by
  have all : ∀ c ∈ beginnings, isWhite c = false := forall_mem_of_all (by decide)
  obtain ⟨x, t, rfl, hx⟩ := h.phrase.head
  exact skipWhite_cons (all x hx) t

/-- The members of a text are the same however they are described, and end at the same place. -/
theorem Members.agree (h : Members first members cs rest) (h' : Members first others cs rest') :
    Agree members others ∧ rest = rest' := by
  induction h generalizing others with
  | close hb =>
    cases h' with
    | close hb' =>
      have same := (skipWhite_to hb (by decide)).symm.trans (skipWhite_to hb' (by decide))
      exact ⟨.nil, (List.cons.inj same).2⟩
    | member hl hs _ _ _ _ => exact nomatch (nextKey_of_close hb).symm.trans (nextKey_of_lead hl hs)
  | member hl hs hb hb' hh hm ih =>
    have key := nextKey_of_lead hl hs
    cases h' with
    | close hc => exact nomatch key.symm.trans (nextKey_of_close hc)
    | member hl' hs' hc hc' hh' hm' =>
      have same := key.symm.trans (nextKey_of_lead hl' hs')
      simp only [Except.ok.injEq, Prod.mk.injEq, Option.some.injEq] at same
      obtain ⟨rfl, rfl⟩ := same
      obtain rfl := Except.ok.inj ((colon_of_blank hb).symm.trans (colon_of_blank hc))
      have skipped := skipValue_of_holds hb' hh (ends_of_members hm)
      have skipped' := skipValue_of_holds hc' hh' (ends_of_members hm')
      obtain rfl := Except.ok.inj (skipped.symm.trans skipped')
      have value := hh.skipWhite_eq.symm.trans ((skipWhite_of_blank hb').symm.trans
        ((skipWhite_of_blank hc').trans hh'.skipWhite_eq))
      subst value
      obtain ⟨rest_agree, ends⟩ := ih hm'
      exact ⟨.cons ⟨rfl, hh.agrees hh'⟩ rest_agree, ends⟩

/-- **Descriptions of one object agree.** -/
theorem ObjectText.agree {text : String} (h : ObjectText members text)
    (h' : ObjectText others text) : Agree members others := by
  obtain ⟨hb, hm, -⟩ := h
  obtain ⟨hb', hm', -⟩ := h'
  have same := (skipWhite_to hb (by decide)).symm.trans (skipWhite_to hb' (by decide))
  obtain ⟨-, rfl⟩ := List.cons.inj same
  exact (hm.agree hm').1

/-! ### What has been read -/

theorem Phrase.characters (h : Phrase .value a b) (ha : a = '"' :: cs) : Characters cs b := by
  cases h with
  | string hc =>
    obtain ⟨-, rfl⟩ := List.cons.inj ha
    exact hc
  | number hn =>
    obtain ⟨c, t, rfl, hc⟩ := hn.head
    obtain ⟨rfl, -⟩ := List.cons.inj ha
    exact absurd hc (by decide)
  | @container frame => cases frame <;> cases ha
  | _ => cases ha

theorem Phrase.of_n (h : Phrase .value a b) (ha : a = 'n' :: cs) : a = 'n' :: 'u' :: 'l' :: 'l' :: b := by
  cases h with
  | null => rfl
  | number hn =>
    obtain ⟨c, t, rfl, hc⟩ := hn.head
    obtain ⟨rfl, -⟩ := List.cons.inj ha
    exact absurd hc (by decide)
  | @container frame => cases frame <;> cases ha
  | _ => cases ha

/-- A value that is read as a text, or as none, is a string that spells it, or a null. -/
theorem exists_holds_of_readText {nullable : Bool} {expected : String} {value : Option String}
    (hb : Blank cs a) (h : Phrase .value a b)
    (read : readText nullable expected cs = .ok (value, rest)) :
    ∃ content, Holds content a b ∧ content ≠ .any ∧ (content = .null → nullable = true)
      ∧ content.text? = value ∧ rest = b := by
  have start := (skipWhite_of_blank hb).trans (Holds.any h).skipWhite_eq
  unfold readText at read
  rw [start] at read
  split at read
  · split at read
    · cases read
    · rename_i mid _ s behind reads
      simp only [Except.ok.injEq, Prod.mk.injEq] at read
      obtain ⟨rfl, rfl⟩ := read
      have spells := spells_toList_of_string reads
      have skipped := skipString_of_characters (h.characters rfl)
      obtain rfl := Except.ok.inj (skipped.symm.trans (skipString_of_characters spells.characters))
      exact ⟨.text s, .text spells, by simp, by simp, rfl, rfl⟩
  · split at read
    · rename_i nulls
      obtain ⟨-, rfl⟩ := List.cons.inj (h.of_n rfl)
      simp only [word, if_true, Except.ok.injEq, Prod.mk.injEq] at read
      obtain ⟨rfl, rfl⟩ := read
      exact ⟨.null, .null, by simp, fun _ => nulls, rfl, rfl⟩
    · cases read
  · cases read

variable {values read : Values} {name : String}

theorem Values.not_mem_of_lookup (h : values.lookup name = none) : name ∉ values.map Prod.fst := by
  intro known
  obtain ⟨p, hp, rfl⟩ := List.mem_map.mp known
  exact absurd rfl (bne_iff_ne.mp (List.lookup_eq_none_iff.mp h p hp))

theorem readMembers_field_inv {field : Field} (hk : nextKey first cs = .ok (some name, a))
    (hf : shape.field? name = some field) (hc : colon a = .ok b)
    (h : readMembers shape first values cs = .ok (read, rest)) :
    name ∉ values.map Prod.fst ∧ ∃ value d, readText shape.nullable field.expected b = .ok (value, d)
      ∧ readMembers shape false ((name, value) :: values) d = .ok (read, rest) := by
  rw [readMembers.eq_def] at h
  split at h
  · cases h
  · simp_all
  · rename_i heq
    obtain ⟨rfl, rfl⟩ : _ = name ∧ _ = a := by simpa using heq.symm.trans hk
    simp only [hf] at h
    split at h
    · cases h
    · rename_i fresh
      split at h
      · cases h
      · rename_i heq'
        obtain rfl : _ = b := by simpa using heq'.symm.trans hc
        split at h
        · cases h
        · rename_i value d text
          have unread := Option.not_isSome_iff_eq_none.mp fresh
          exact ⟨Values.not_mem_of_lookup unread, value, d, text, h⟩

theorem closed_of_readMembers_other (hk : nextKey first cs = .ok (some name, a))
    (hf : shape.field? name = none)
    (h : readMembers shape first values cs = .ok (read, rest)) : shape.closed = false := by
  rw [readMembers.eq_def] at h
  split at h
  · cases h
  · simp_all
  · rename_i heq
    obtain ⟨rfl, rfl⟩ : _ = name ∧ _ = a := by simpa using heq.symm.trans hk
    simp only [hf] at h
    split at h
    · cases h
    · simp_all

/-- From members that are read, the fields among them can be told: each is a text or a null that
the shape admits, and none comes twice. -/
theorem exists_admitted_of_readMembers (h : Members first members cs b)
    (hr : readMembers shape first values cs = .ok (read, rest))
    (hn : (values.map Prod.fst).Nodup) :
    ∃ admitted, Members first admitted cs b ∧ (∀ m ∈ admitted, shape.Admits m) ∧
      (((shape.values admitted).reverse ++ values).map Prod.fst).Nodup := by
  induction h generalizing values with
  | close hb => exact ⟨[], .close hb, by simp, hn⟩
  | @member _ name content members _ _ _ _ _ _ _ hl hs hb hb' hh hm ih =>
    have key := nextKey_of_lead hl hs
    have hc := colon_of_blank hb
    cases hf : shape.field? name with
    | some field =>
      obtain ⟨fresh, value, d, text, behind⟩ := readMembers_field_inv key hf hc hr
      obtain ⟨told, holds, some, null, texts, rfl⟩ := exists_holds_of_readText hb' hh.phrase text
      obtain ⟨others, members, admits, once⟩ := ih behind (List.nodup_cons.mpr ⟨fresh, hn⟩)
      refine ⟨(name, told) :: others, .member hl hs hb hb' holds members, ?_, ?_⟩
      · rw [List.forall_mem_cons]
        refine ⟨?_, admits⟩
        simp only [Shape.Admits, hf]
        exact ⟨some, null⟩
      · rwa [Shape.values_field hf, List.reverse_cons, List.append_assoc, texts]
    | none =>
      have opened := closed_of_readMembers_other key hf hr
      have skipped := skipValue_of_holds hb' hh (ends_of_members hm)
      rw [readMembers_other key hf opened hc skipped] at hr
      obtain ⟨others, members, admits, once⟩ := ih hr hn
      refine ⟨(name, content) :: others, .member hl hs hb hb' hh members, ?_, ?_⟩
      · rw [List.forall_mem_cons]
        refine ⟨?_, admits⟩
        simp only [Shape.Admits, hf]
        exact opened
      · rwa [Shape.values_other hf]

/-- What a record can be read from: members its shape admits, and no field twice. -/
structure Shape.Reads (shape : Shape) (members : List (String × Content)) : Prop where
  admits : ∀ m ∈ members, shape.Admits m
  once : ((shape.values members).map Prod.fst).Nodup

theorem readMembers_of_parseRecord {text : String} (hb : Blank text.toList ('\x7b' :: cs))
    (hr : parseRecord shape text = .ok read) :
    ∃ result, readMembers shape true [] cs = .ok result := by
  rw [parseRecord, readRecord, skipWhite_to hb (by decide)] at hr
  cases hread : readMembers shape true [] cs with
  | error f => simp [hread] at hr
  | ok result => exact ⟨result, rfl⟩

/-- **A record is read from an object only if its members can be told so** that the shape admits
them all and no field comes twice. -/
theorem exists_reads_of_parseRecord {text : String} (h : ObjectText members text)
    (hr : parseRecord shape text = .ok read) :
    ∃ told, ObjectText told text ∧ shape.Reads told := by
  obtain ⟨hb, hm, hb'⟩ := h
  obtain ⟨⟨_, _⟩, inside⟩ := readMembers_of_parseRecord hb hr
  obtain ⟨told, hm', admits, once⟩ := exists_admitted_of_readMembers hm inside List.nodup_nil
  refine ⟨told, .mk hb hm' hb', admits, ?_⟩
  rw [List.append_nil] at once
  simpa using nodup_keys_reverse once

end Descriptions

/-! ### Keys -/

/-- The text is an object with this key. -/
def HasKey (text name : String) : Prop :=
  ∃ members, ObjectText members text ∧ name ∈ members.map Prod.fst

theorem ObjectText.hasKey_iff {members : List (String × Content)} {text name : String}
    (h : ObjectText members text) : HasKey text name ↔ name ∈ members.map Prod.fst := by
  constructor
  · rintro ⟨others, other, known⟩
    rwa [(h.agree other).keys_eq]
  · intro known
    exact ⟨members, h, known⟩

end ProblemVisualizer.Json
