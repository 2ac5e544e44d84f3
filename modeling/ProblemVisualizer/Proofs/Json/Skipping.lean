import ProblemVisualizer.Proofs.Json.Reading

/-! Skipping what is JSON.

`skip_phrase`: from the beginning of a value, or of what remains of a container,
the reader comes to stand behind it, with the containers around it open as they
were, however deep the phrase nests. It is an induction on the phrase: the
reader keeps its own stack, and between two values of a container that stack is
the stack it began with and the container. -/
namespace ProblemVisualizer.Json

/-! ### Where phrases begin and end -/

theorem Blank.ends {cs rest : List Char} (h : Blank cs rest) (hr : Ends rest) : Ends cs := by
  cases h with
  | none => exact hr
  | cons hc _ =>
    have all : ∀ c ∈ [' ', '\n', '\t', '\r'], isDigit c = false ∧ c ∉ ['.', 'e', 'E'] :=
      forall_mem_of_all (by decide)
    exact fun c hx => Option.some.inj hx ▸ all _ hc

theorem ends_cons {c : Char} (h : c ∈ [',', ']', '\x7d']) (cs : List Char) : Ends (c :: cs) := by
  have all : ∀ c ∈ [',', ']', '\x7d'], isDigit c = false ∧ c ∉ ['.', 'e', 'E'] :=
    forall_mem_of_all (by decide)
  exact fun d hd => Option.some.inj hd ▸ all c h

theorem Frame.closing_mem (frame : Frame) : frame.closing ∈ [',', ']', '\x7d'] := by
  cases frame <;> decide

theorem Lead.ends {cs rest : List Char} (h : Lead false cs rest) : Ends cs := by
  cases h with
  | next hb _ => exact hb.ends (ends_cons (by decide) _)

/-- Behind a value that a container holds, the container goes on or ends, and a number does not. -/
theorem ends_of_rest {frame : Frame} {cs rest : List Char}
    (h : Phrase (.rest frame false) cs rest) : Ends cs := by
  cases h with
  | close hb => exact hb.ends (ends_cons frame.closing_mem _)
  | element hl _ _ => exact hl.ends
  | member hl _ _ _ _ _ => exact hl.ends

theorem Digits.head {cs rest : List Char} (h : Digits cs rest) :
    ∃ d ds, cs = d :: ds ∧ d ∈ lowerDigits.take 10 := by
  cases h with
  | one hd => exact ⟨_, _, rfl, hd⟩
  | cons hd _ => exact ⟨_, _, rfl, hd⟩

theorem Whole.head {cs rest : List Char} (h : Whole cs rest) :
    ∃ d ds, cs = d :: ds ∧ d ∈ lowerDigits.take 10 := by
  cases h with
  | zero => exact ⟨_, _, rfl, by decide⟩
  | digits _ hd => exact hd.head

theorem Number.head {cs rest : List Char} (h : Number cs rest) :
    ∃ c t, cs = c :: t ∧ c ∈ '-' :: lowerDigits.take 10 := by
  cases h with
  | mk hs hw _ _ =>
    cases hs with
    | absent =>
      obtain ⟨d, ds, rfl, hd⟩ := hw.head
      exact ⟨d, ds, rfl, List.mem_cons_of_mem _ hd⟩
    | minus => exact ⟨_, _, rfl, List.mem_cons_self⟩

/-- The characters a value may begin with. -/
def beginnings : List Char := ['n', 't', 'f', '"', '[', '\x7b'] ++ '-' :: lowerDigits.take 10

theorem Phrase.head {cs rest : List Char} (h : Phrase .value cs rest) :
    ∃ c t, cs = c :: t ∧ c ∈ beginnings := by
  cases h with
  | null => exact ⟨_, _, rfl, by decide⟩
  | true => exact ⟨_, _, rfl, by decide⟩
  | false => exact ⟨_, _, rfl, by decide⟩
  | string _ => exact ⟨_, _, rfl, by decide⟩
  | @container frame _ _ _ => exact ⟨_, _, rfl, by cases frame <;> decide⟩
  | number hn =>
    obtain ⟨c, t, rfl, hc⟩ := hn.head
    exact ⟨c, t, rfl, List.mem_append_right _ hc⟩

/-! ### Values that are no containers -/

theorem skipScalar_digit {d : Char} (hd : d ∈ lowerDigits.take 10) (ds : List Char) :
    skipScalar (d :: ds) = skipNumber (d :: ds) := by
  have letter : d ∉ ['n', 't', 'f', '-', '"'] := by
    have all : ∀ d ∈ lowerDigits.take 10, d ∉ ['n', 't', 'f', '-', '"'] :=
      forall_mem_of_all (by decide)
    exact all d hd
  rw [skipScalar.eq_def]
  split <;> simp_all [isDigit_of_mem]

theorem skipScalar_of_number {cs rest : List Char} (h : Number cs rest) (hr : Ends rest) :
    skipScalar cs = .ok rest := by
  cases h with
  | mk hs hw hf he =>
    have body := skipNumber_of_whole hw hf he hr
    cases hs with
    | absent =>
      obtain ⟨d, ds, rfl, hd⟩ := hw.head
      rw [skipScalar_digit hd, body]
    | minus => exact body

/-! ### One step of the reader -/

variable {stack : List Frame} {cs inner rest : List Char} {spot : Spot}

theorem skip_of_openList (hw : skipWhite cs = '[' :: inner)
    (ho : openList inner = .ok (spot, rest)) :
    skip .value stack cs = skip spot (keepOpen .list stack spot) rest := by
  rw [skip.eq_def]
  simp only
  split <;> simp_all
  split <;> simp_all

theorem skip_of_openObject (hw : skipWhite cs = '\x7b' :: inner)
    (ho : openObject inner = .ok (spot, rest)) :
    skip .value stack cs = skip spot (keepOpen .object stack spot) rest := by
  rw [skip.eq_def]
  simp only
  split <;> simp_all
  split <;> simp_all

theorem skip_of_scalar {c : Char} (hw : skipWhite cs = c :: inner)
    (hf : c ∉ ['[', '\x7b']) (hs : skipScalar (c :: inner) = .ok rest) :
    skip .value stack cs = skip .behind stack rest := by
  rw [skip.eq_def]
  simp only
  split
  · simp_all
  · grind
  · grind
  · rename_i heq
    obtain ⟨rfl, rfl⟩ := List.cons.inj (heq.symm.trans hw)
    split <;> simp_all

theorem skip_of_key (hk : skipKey cs = .ok rest) :
    skip .key stack cs = skip .value stack rest := by
  rw [skip.eq_def]
  simp only
  split <;> simp_all

theorem skip_of_separator {frame : Frame} (hs : separator frame cs = .ok (spot, rest)) :
    skip .behind (frame :: stack) cs = skip spot (keepOpen frame stack spot) rest := by
  rw [skip.eq_def]
  simp only
  split <;> simp_all

theorem skip_value_of_blank (h : Blank cs rest) :
    skip .value stack cs = skip .value stack rest := by
  rw [skip.eq_def, skip.eq_def .value stack rest]
  simp only
  rw [skipWhite_of_blank h]

theorem skip_key_of_blank (h : Blank cs rest) :
    skip .key stack cs = skip .key stack rest := by
  rw [skip.eq_def, skip.eq_def .key stack rest]
  simp only
  rw [skipKey, skipWhite_of_blank h, ← skipKey]

theorem colon_of_blank (h : Blank cs (':' :: rest)) : colon cs = .ok rest := by
  simp [colon, skipWhite_to h (by decide)]

theorem skipKey_of_characters {a b : List Char} (h : Characters a b)
    (hc : Blank b (':' :: rest)) : skipKey ('"' :: a) = .ok rest := by
  rw [skipKey, skipWhite_cons (by decide)]
  simp only [skipString_of_characters h, colon_of_blank hc]

/-! ### Standing in a container -/

/-- Where the reader stands before the next thing that a container holds. -/
def Frame.next : Frame → Spot
  | list => .value
  | object => .key

/-- The reader at the beginning of a phrase, inside the containers on the stack. -/
def resume (stack : List Frame) (cs : List Char) : Part → Except Fault (List Char)
  | .value => skip .value stack cs
  | .rest frame true => skip .value stack (frame.opening :: cs)
  | .rest frame false => skip .behind (frame :: stack) cs

theorem resume_close {frame : Frame} {first : Bool} (h : Blank cs (frame.closing :: rest)) :
    resume stack cs (.rest frame first) = skip .behind stack rest := by
  have white : isWhite frame.closing = false := by cases frame <;> decide
  have stop := skipWhite_to h white
  cases first with
  | false =>
    have : separator frame cs = .ok (.behind, rest) := by
      cases frame <;> simp_all [separator, Frame.closing]
    exact skip_of_separator this
  | true =>
    cases frame with
    | list =>
      have : openList cs = .ok (.behind, rest) := by simp_all [openList, Frame.closing]
      exact skip_of_openList (skipWhite_cons (by decide) cs) this
    | object =>
      have : openObject cs = .ok (.behind, rest) := by simp_all [openObject, Frame.closing]
      exact skip_of_openObject (skipWhite_cons (by decide) cs) this

theorem resume_lead {frame : Frame} {first : Bool} {c : Char} (h : Lead first cs (c :: rest))
    (hw : isWhite c = false) (hc : c ≠ frame.closing) :
    resume stack cs (.rest frame first) = skip frame.next (frame :: stack) (c :: rest) := by
  cases h with
  | first hb =>
    have stop := skipWhite_to hb hw
    cases frame with
    | list =>
      have : openList cs = .ok (.value, c :: rest) := by simp_all [openList, Frame.closing]
      exact skip_of_openList (skipWhite_cons (by decide) cs) this
    | object =>
      have : openObject cs = .ok (.key, c :: rest) := by simp_all [openObject, Frame.closing]
      exact skip_of_openObject (skipWhite_cons (by decide) cs) this
  | next hb hb' =>
    have stop := skipWhite_to hb (by decide)
    cases frame with
    | list =>
      exact (skip_of_separator (by simp [separator, stop])).trans (skip_value_of_blank hb')
    | object =>
      exact (skip_of_separator (by simp [separator, stop])).trans (skip_key_of_blank hb')

/-! ### Phrases -/

theorem skip_of_head {c : Char} (hw : isWhite c = false) (hf : c ∉ ['[', '\x7b'])
    (hs : skipScalar (c :: inner) = .ok rest) :
    skip .value stack (c :: inner) = skip .behind stack rest :=
  skip_of_scalar (skipWhite_cons hw inner) hf hs

theorem skip_of_number (h : Number cs rest) (hr : Ends rest) :
    skip .value stack cs = skip .behind stack rest := by
  obtain ⟨c, t, rfl, hc⟩ := h.head
  have all : ∀ c ∈ '-' :: lowerDigits.take 10, isWhite c = false ∧ c ∉ ['[', '\x7b'] :=
    forall_mem_of_all (by decide)
  exact skip_of_head (all c hc).1 (all c hc).2 (skipScalar_of_number h hr)

/-- **From the beginning of a phrase the reader comes to stand behind it.** -/
theorem skip_phrase {part : Part} (h : Phrase part cs rest) (hr : part = .value → Ends rest)
    (stack : List Frame) : resume stack cs part = skip .behind stack rest := by
  induction h generalizing stack with
  | null => exact skip_of_head (by decide) (by decide) rfl
  | true => exact skip_of_head (by decide) (by decide) rfl
  | false => exact skip_of_head (by decide) (by decide) rfl
  | number hn => exact skip_of_number hn (hr rfl)
  | string hc => exact skip_of_head (by decide) (by decide) (skipString_of_characters hc)
  | container _ ih => exact ih (by simp) stack
  | close hb => exact resume_close hb
  | element hl hv hp ihv ihp =>
    obtain ⟨c, t, rfl, hc⟩ := hv.head
    have all : ∀ c ∈ beginnings, isWhite c = false ∧ c ≠ ']' :=
      forall_mem_of_all (by decide)
    have stop : c ≠ Frame.list.closing := (all c hc).2
    rw [resume_lead hl (all c hc).1 stop]
    exact (ihv (fun _ => ends_of_rest hp) (.list :: stack)).trans (ihp (by simp) stack)
  | member hl hk hb hb' hv hp ihv ihp =>
    rw [resume_lead hl (by decide) (by decide)]
    show skip .key (.object :: stack) _ = _
    rw [skip_of_key (skipKey_of_characters hk hb), skip_value_of_blank hb']
    exact (ihv (fun _ => ends_of_rest hp) (.object :: stack)).trans (ihp (by simp) stack)

theorem skipValue_of_phrase (h : Phrase .value cs rest) (hr : Ends rest) :
    skipValue cs = .ok rest := by
  have := skip_phrase h (fun _ => hr) []
  rw [skipValue]
  exact this.trans (by rw [skip.eq_def])

end ProblemVisualizer.Json
