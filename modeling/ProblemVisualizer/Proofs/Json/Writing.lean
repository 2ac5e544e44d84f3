import ProblemVisualizer.Proofs.Json.Records

/-! What is written is JSON.

A text is written as a string that spells it, so an object of string members is
an object text with just those members, whatever the keys and texts hold. So
every assignment of texts can be written: `denotes_texts`. -/
namespace ProblemVisualizer.Json

theorem isHex_hexDigit {n : Nat} (h : n < 16) : IsHex (hexDigit n) n := by
  have all : ∀ i : Fin 16, lowerDigits[i.val]? = some (hexDigit i) := by decide
  exact .inl (all ⟨n, h⟩)

/-- A character is written as it may be spelled. -/
theorem spelling_escape (c : Char) (rest : List Char) : Spelling c (escape c ++ rest) rest := by
  unfold escape
  split
  · exact .short (by simp_all [escapes])
  split
  · exact .short (by simp_all [escapes])
  split
  · exact .short (by simp_all [escapes])
  split
  · exact .short (by simp_all [escapes])
  split
  · exact .short (by simp_all [escapes])
  split
  · exact .short (by simp_all [escapes])
  split
  · exact .short (by simp_all [escapes])
  split
  · rename_i control
    have zero : IsHex '0' 0 := .inl rfl
    have high : IsHex _ (c.toNat / 16) := isHex_hexDigit (by omega)
    have low : IsHex _ (c.toNat % 16) := isHex_hexDigit (by omega)
    have quad : Quad _ _ rest := Quad.mk zero zero high low
    rw [show ((0 * 16 + 0) * 16 + c.toNat / 16) * 16 + c.toNat % 16 = c.toNat by omega] at quad
    exact .unit quad
  · exact .plain ⟨by assumption, by assumption, by omega⟩

theorem spells_escape (text rest : List Char) :
    Spells text (text.flatMap escape ++ '"' :: rest) rest := by
  induction text with
  | nil => exact .close
  | cons c text ih =>
    rw [List.flatMap_cons, List.append_assoc]
    exact .cons (spelling_escape c _) ih

theorem quoteChars_append (text rest : List Char) :
    quoteChars text ++ rest = '"' :: (text.flatMap escape ++ '"' :: rest) := by
  simp [quoteChars]

/-- A text is written as a string that spells it. -/
theorem holds_quoteChars (s : String) (rest : List Char) :
    Holds (.text s) (quoteChars s.toList ++ rest) rest := by
  rw [quoteChars_append]
  exact .text (spells_escape s.toList rest)

/-! ### Objects -/

theorem members_of_quoted {first : Bool} {name : String} {content : Content}
    {members : List (String × Content)} {cs a b c rest : List Char}
    (hl : Lead first cs (quoteChars name.toList ++ ':' :: a)) (hb : Blank a b)
    (h : Holds content b c) (hm : Members false members c rest) :
    Members first ((name, content) :: members) cs rest := by
  rw [quoteChars_append] at hl
  exact .member hl (spells_escape _ _) .none hb h hm

/-- A member as it is written. -/
def memberChars (m : String × String) : List Char :=
  quoteChars m.1.toList ++ ':' :: quoteChars m.2.toList

theorem toList_intercalate_members (m : String × String) (members : List (String × String)) :
    (",".intercalate ((m :: members).map fun (key, value) => quote key ++ ":" ++ quote value)).toList
      = memberChars m ++ members.flatMap fun m => ',' :: memberChars m := by
  induction members generalizing m with
  | nil => simp [memberChars, quote]
  | cons n members ih =>
    have rest := ih n
    simp only [List.map_cons, String.intercalate_cons_cons, String.toList_append] at rest ⊢
    rw [rest]
    simp [memberChars, quote]

theorem toList_writeObject_cons (m : String × String) (members : List (String × String)) :
    (writeObject (m :: members)).toList = '\x7b' :: (memberChars m
      ++ ((members.flatMap fun m => ',' :: memberChars m) ++ ['\x7d'])) := by
  rw [writeObject, String.toList_append, String.toList_append, toList_intercalate_members]
  simp

/-- The keys and texts as the members of an object. -/
def texts (members : List (String × String)) : List (String × Content) :=
  members.map fun m => (m.1, .text m.2)

theorem members_of_memberChars {first : Bool} {m : String × String}
    {members : List (String × Content)} {cs text rest : List Char}
    (hl : Lead first cs (memberChars m ++ text)) (h : Members false members text rest) :
    Members first ((m.1, .text m.2) :: members) cs rest := by
  rw [memberChars, List.append_assoc, List.cons_append] at hl
  exact members_of_quoted hl .none (holds_quoteChars m.2 text) h

theorem members_behind (members : List (String × String)) (rest : List Char) :
    Members false (texts members)
      ((members.flatMap fun m => ',' :: memberChars m) ++ '\x7d' :: rest) rest := by
  induction members with
  | nil => exact .close .none
  | cons m members ih =>
    rw [List.flatMap_cons, List.append_assoc]
    exact members_of_memberChars (.next .none .none) ih

/-- **What is written is an object of just the members given.** -/
theorem objectText_writeObject (members : List (String × String)) :
    ObjectText (texts members) (writeObject members) := by
  cases members with
  | nil =>
    have closed : Members true [] ['\x7d'] [] := .close .none
    exact .mk .none closed .none
  | cons m members =>
    have behind := members_behind members []
    refine .mk ?_ (members_of_memberChars (.first .none) behind) .none
    rw [toList_writeObject_cons]
    exact .none

/-! ### Assignments -/

/-- The entries that have a text. -/
def Values.given (entries : Values) : List (String × String) :=
  entries.filterMap fun e => e.2.map fun s => (e.1, s)

theorem Values.mem_given {entries : Values} {name s : String} :
    (name, s) ∈ entries.given ↔ (name, some s) ∈ entries := by
  simp only [Values.given, List.mem_filterMap, Option.map_eq_some_iff, Prod.mk.injEq]
  constructor
  · rintro ⟨⟨key, _⟩, he, _, rfl, rfl, rfl⟩
    exact he
  · intro he
    exact ⟨_, he, s, rfl, rfl, rfl⟩

theorem Values.keys_given_sublist (entries : Values) :
    (entries.given.map Prod.fst).Sublist (entries.map Prod.fst) := by
  induction entries with
  | nil => exact .slnil
  | cons e entries ih =>
    obtain ⟨name, value⟩ := e
    cases value with
    | none => exact ih.cons _
    | some s => exact ih.cons_cons _

/-- **An assignment is denoted by the object that is written of its texts.** -/
theorem denotes_texts {entries : Values} (hn : (entries.map Prod.fst).Nodup) :
    Denotes (texts entries.given) entries := by
  have keys : (texts entries.given).map Prod.fst = entries.given.map Prod.fst := by
    rw [texts, List.map_map]
    rfl
  constructor
  · have known := (List.filter_sublist (p := fun m => m.1 ∈ entries.map Prod.fst)
      (l := texts entries.given)).map Prod.fst
    rw [keys] at known
    exact hn.sublist (known.trans entries.keys_given_sublist)
  · intro name s he
    exact List.mem_map_of_mem (Values.mem_given.mpr he)
  · intro name content he hm
    obtain ⟨⟨key, s⟩, hg, heq⟩ := List.mem_map.mp hm
    obtain ⟨rfl, rfl⟩ := Prod.mk.inj heq
    have same := List.inj_on_of_nodup_map hn he (Values.mem_given.mp hg) rfl
    exact nomatch congrArg Prod.snd same

end ProblemVisualizer.Json
