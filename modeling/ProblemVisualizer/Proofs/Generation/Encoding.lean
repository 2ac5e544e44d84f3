import ProblemVisualizer.Http.Service
import ProblemVisualizer.Proofs.Json.Objects
import ProblemVisualizer.Proofs.Json.Writing
import ProblemVisualizer.Text.Lines

/-! What the body of a request tells.

A text may hold anything: quotation marks, control characters, or what looks like
the end of a string and the key behind it. `lossless` says that none of it shows.
The body is one line without control characters. As an object of texts it can be
told in one way only, with the keys and the texts of the request. So a reader that
knows the keys gets back just the request that was sent, and no two requests share
a body. -/
namespace ProblemVisualizer

namespace Json

/-! ### One line -/

/-- There is no character below U+0020. -/
def Printable (cs : List Char) : Prop := ∀ c ∈ cs, 0x20 ≤ c.toNat

theorem printable_cons {c : Char} {cs : List Char} :
    Printable (c :: cs) ↔ 0x20 ≤ c.toNat ∧ Printable cs := List.forall_mem_cons

theorem printable_append {a b : List Char} : Printable (a ++ b) ↔ Printable a ∧ Printable b :=
  List.forall_mem_append

theorem printable_nil : Printable [] := fun _ hc => absurd hc List.not_mem_nil

theorem printable_hexDigit {n : Nat} (h : n < 16) : 0x20 ≤ (hexDigit n).toNat := by
  have all : ∀ i : Fin 16, 0x20 ≤ (hexDigit i).toNat := by decide
  exact all ⟨n, h⟩

/-- A control character is written with others. -/
theorem printable_escape (c : Char) : Printable (escape c) := by
  unfold escape
  iterate 7
    split
    · exact forall_mem_of_all (by decide)
  split
  · rename_i control
    simp only [printable_cons]
    exact ⟨by decide, by decide, by decide, by decide, printable_hexDigit (by omega),
      printable_hexDigit (by omega), printable_nil⟩
  · rename_i plain
    exact printable_cons.mpr ⟨by omega, printable_nil⟩

theorem printable_quoteChars (cs : List Char) : Printable (quoteChars cs) := by
  have inside : Printable (cs.flatMap escape) := by
    intro c hc
    obtain ⟨d, -, hd⟩ := List.mem_flatMap.mp hc
    exact printable_escape d c hd
  exact printable_cons.mpr ⟨by decide, printable_append.mpr ⟨inside, forall_mem_of_all (by decide)⟩⟩

theorem printable_memberChars (m : String × String) : Printable (memberChars m) :=
  printable_append.mpr ⟨printable_quoteChars _,
    printable_cons.mpr ⟨by decide, printable_quoteChars _⟩⟩

theorem printable_writeObject (members : List (String × String)) :
    Printable (writeObject members).toList := by
  cases members with
  | nil => exact forall_mem_of_all (by decide)
  | cons m members =>
    rw [toList_writeObject_cons]
    have others : Printable (members.flatMap fun m => ',' :: memberChars m) := by
      intro c hc
      obtain ⟨n, -, hn⟩ := List.mem_flatMap.mp hc
      exact printable_cons.mpr ⟨by decide, printable_memberChars n⟩ c hn
    exact printable_cons.mpr ⟨by decide, printable_append.mpr ⟨printable_memberChars m,
      printable_append.mpr ⟨others, forall_mem_of_all (by decide)⟩⟩⟩

/-- What is written is one line. -/
theorem lines_writeObject (members : List (String × String)) :
    Text.lines (writeObject members).toList = [(writeObject members).toList] := by
  refine Text.lines_of_not_mem (fun feed => ?_) ?_
  · exact absurd (printable_writeObject members _ feed) (by decide)
  · cases members with
    | nil => decide
    | cons m members =>
      rw [toList_writeObject_cons]
      exact List.cons_ne_nil _ _

/-! ### One reading -/

/-- Texts that describe one object are the same. -/
theorem Agree.eq_of_texts {a b : List (String × String)} (h : Agree (texts a) (texts b)) : a = b := by
  unfold Agree texts at h
  rw [List.forall₂_map_left_iff, List.forall₂_map_right_iff] at h
  refine List.forall₂_eq_eq_eq ▸ h.imp fun m n same => ?_
  obtain ⟨key, agrees⟩ := same
  rcases agrees with any | any | text
  · cases any
  · cases any
  · exact Prod.ext key (Content.text.inj text)

/-- **What is written can be told as an object of texts in one way only.** -/
theorem objectText_writeObject_iff (others members : List (String × String)) :
    ObjectText (texts others) (writeObject members) ↔ others = members := by
  constructor
  · intro object
    exact (object.agree (objectText_writeObject members)).eq_of_texts
  · rintro rfl
    exact objectText_writeObject others

/-- A record that has the keys for its fields is read as their texts. -/
theorem parseRecord_writeObject {shape : Shape} {members : List (String × String)}
    (known : ∀ m ∈ members, m.1 ∈ shape.fields.map Field.name)
    (once : (members.map Prod.fst).Nodup) :
    parseRecord shape (writeObject members)
      = .ok (members.map fun m => (m.1, some m.2)).reverse := by
  have field (m : String × String) (hm : m ∈ members) :
      ∃ field, shape.field? m.1 = some field :=
    Option.isSome_iff_exists.mp (field?_isSome_iff.mpr (known m hm))
  have admits : ∀ m ∈ texts members, shape.Admits m := by
    intro m hm
    obtain ⟨n, hn, rfl⟩ := List.mem_map.mp hm
    obtain ⟨_, hf⟩ := field n hn
    simp [Shape.Admits, hf]
  have values : shape.values (texts members) = members.map fun m => (m.1, some m.2) := by
    rw [Shape.values, texts, List.filterMap_map, ← List.filterMap_eq_map]
    refine List.filterMap_congr fun m hm => ?_
    obtain ⟨_, hf⟩ := field m hm
    simp [hf, Content.text?]
  rw [parseRecord_of_objectText (objectText_writeObject members) admits, values]
  rw [values, List.map_map]
  exact once

end Json

/-- What goes to the service is the body of the request. -/
theorem Http.Message.body_ofRequest {endpoint : String} {r : Generation.Request} {message : Message}
    (sends : ofRequest endpoint r = .ok message) : message.body = r.body := by
  unfold ofRequest at sends
  split at sends
  · cases sends
  dsimp only at sends
  split at sends
  · cases sends
  split at sends
  · cases sends
  · cases sends
    rfl

namespace Generation.Request

/-- The keys of a body, as the fields of a record. -/
def shape : Json.Shape where
  expected := "a request"
  fields := ["mwp", "formula", "dsl"].map fun name => ⟨name, "a string"⟩
  nullable := false
  closed := true

/-- The request that the texts under the keys stand for. -/
def ofTexts? : (problem formula description : Option String) → Option Request
  | some problem, formula, none => some (.initial problem formula)
  | none, none, some description => some (.resubmit description)
  | _, _, _ => none

/-- The request that a body stands for. -/
def read? (body : String) : Option Request :=
  match Json.parseRecord shape body with
  | .ok values => ofTexts? (values.text? "mwp") (values.text? "formula") (values.text? "dsl")
  | .error _ => none

theorem nodup_keys (r : Request) : (r.members.map Prod.fst).Nodup := by
  unfold members
  split <;> simp

theorem key_mem (r : Request) : ∀ m ∈ r.members, m.1 ∈ shape.fields.map Json.Field.name := by
  unfold members
  split <;> simp [shape]

/-- **A body stands for its request.** -/
theorem read?_body (r : Request) : read? r.body = some r := by
  rw [read?, body, Json.parseRecord_writeObject r.key_mem r.nodup_keys]
  rcases r with ⟨problem, _ | formula⟩ | description <;> rfl

/-- **A body says its request, and nothing else.** It is one line without control characters below
U+0020. Told as an object of texts it has the problem and, if there is one, the formula, or it has
the description alone, each as it stands, and it can be told in no other way. So the request can be
read back from it, and no other request has the same body. What goes to the service is this body. -/
theorem lossless (r : Request) :
    (∀ c ∈ r.body.toList, 0x20 ≤ c.toNat) ∧
    Text.lines r.body.toList = [r.body.toList] ∧
    (∀ told, Json.ObjectText (Json.texts told) r.body ↔
      (∃ problem, r = .initial problem none ∧ told = [("mwp", problem)]) ∨
      (∃ problem formula, r = .initial problem (some formula) ∧
        told = [("mwp", problem), ("formula", formula)]) ∨
      ∃ description, r = .resubmit description ∧ told = [("dsl", description)]) ∧
    read? r.body = some r ∧
    (∀ other : Request, other.body = r.body → other = r) ∧
    ∀ endpoint message, Http.Message.ofRequest endpoint r = .ok message → message.body = r.body := by
  refine ⟨Json.printable_writeObject r.members, Json.lines_writeObject r.members, fun told => ?_,
    r.read?_body, fun other same => ?_, fun _ _ => Http.Message.body_ofRequest⟩
  · rw [body, Json.objectText_writeObject_iff]
    unfold members
    split <;> simp
  · have read := other.read?_body
    rw [same, r.read?_body] at read
    exact (Option.some.inj read).symm

end Generation.Request

end ProblemVisualizer
