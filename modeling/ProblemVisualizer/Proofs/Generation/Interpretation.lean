import ProblemVisualizer.Generation.Reply
import ProblemVisualizer.Proofs.Json.Records
import ProblemVisualizer.Proofs.Json.Writing

/-! What a reply means, however it is written.

A reply is six texts, each of which may be missing. The service writes it as an
object: in any order, with any white space and any spelling of its strings, a
missing text as a null or not at all, and with as many other members as it
likes. `interpretation` says that none of this matters: the status and the six
texts alone decide what the body means, and how is spelled out in `Means`. -/
namespace ProblemVisualizer.Generation

/-- A text with a character that is not white space. -/
def Telling (s : String) : Prop := ∃ c ∈ s.toList, Text.isSpace c = false

namespace Reply

/-- The texts under the keys a service writes them with. -/
def entries (r : Reply) : Json.Values :=
  [("visual_language", r.visualLanguage), ("svg_formal", r.svgFormal),
   ("svg_intuitive", r.svgIntuitive), ("formal_error", r.formalError),
   ("intuitive_error", r.intuitiveError), ("error", r.error)]

def drawing (r : Reply) : Artifact → Option String
  | .formal => r.svgFormal
  | .intuitive => r.svgIntuitive

/-- The reason given for a drawing's absence. -/
def excuse (r : Reply) : Artifact → Option String
  | .formal => r.formalError
  | .intuitive => r.intuitiveError

/-- The text is an object whose members say the reply. -/
inductive WrittenAs (r : Reply) (text : String) : Prop
  | mk {members} : Json.ObjectText members text → Json.Denotes members r.entries →
      WrittenAs r text

/-- What stands in a result for a drawing: its markup, if that tells something, and else a
reason. -/
structure Renders (r : Reply) (a : Artifact) (rendering : Rendering) : Prop where
  shown : ∀ markup, rendering = .svg markup ↔ r.drawing a = some markup ∧ Telling markup
  excused : ∀ reason, rendering = .unavailable reason ↔
    (∀ markup, r.drawing a = some markup → ¬ Telling markup) ∧
      reason = (r.excuse a).getD a.fallbackReason

/-- What the reply means under a status. -/
structure Means (r : Reply) (status : Nat) (answer : Except ServiceError Result) : Prop where
  described : 200 ≤ status ∧ status < 300 → ∀ d, r.visualLanguage = some d →
    ∃ result, answer = .ok result ∧ result.description = d ∧
      ∀ a, r.Renders a (result.rendering a)
  undescribed : 200 ≤ status ∧ status < 300 → r.visualLanguage = none →
    answer = .error (.decode "missing `visual_language`")
  rejected : ¬ (200 ≤ status ∧ status < 300) → ∀ s, r.error = some s → Telling s →
    answer = .error (.rejected status s)
  unexplained : ¬ (200 ≤ status ∧ status < 300) → (∀ s, r.error = some s → ¬ Telling s) →
    answer = .error (.rejected status "Unknown error")

/-- Every reply can be written, with the strings of a request. -/
theorem writtenAs_writeObject (r : Reply) : r.WrittenAs (Json.writeObject r.entries.given) :=
  .mk (Json.objectText_writeObject _) (Json.denotes_texts (by simp [entries]))

/-! ### Reading -/

/-- The reply is read from any text it is written as. -/
theorem parse_of_writtenAs {r : Reply} {text : String} (h : r.WrittenAs text) :
    parse text = .ok r := by
  obtain ⟨ho, hd⟩ := h
  have fields : r.entries.map Prod.fst = shape.fields.map Json.Field.name := rfl
  obtain ⟨values, read, given⟩ := Json.parseRecord_of_denotes fields rfl rfl ho hd
  have same : ofValues values = r := by
    simp only [entries, List.mem_cons] at given
    simp [ofValues, given]
  rw [parse, read]
  exact congrArg Except.ok same

/-! ### Meaning -/

theorem telling_iff (s : String) : Telling s ↔ Text.isBlank s = false := by
  simp [Telling, Text.isBlank]

theorem telling?_some {s : String} (h : Telling s) : telling? (some s) = some s := by
  simp [telling?, (telling_iff s).mp h]

theorem telling?_none {text : Option String} (h : ∀ s, text = some s → ¬ Telling s) :
    telling? text = none := by
  cases text with
  | none => rfl
  | some s =>
    have blank : Text.isBlank s = true := by simpa [telling_iff] using h s rfl
    simp [telling?, blank]

theorem renders_rendering (r : Reply) (a : Artifact) :
    r.Renders a (a.rendering (r.drawing a) (r.excuse a)) := by
  unfold Artifact.rendering
  by_cases h : ∃ markup, r.drawing a = some markup ∧ Telling markup
  · obtain ⟨markup, hd, ht⟩ := h
    rw [hd, telling?_some ht]
    constructor
    · intro other
      rw [hd, Rendering.svg.injEq, Option.some.injEq]
      exact ⟨fun heq => ⟨heq, heq ▸ ht⟩, And.left⟩
    · intro reason
      exact ⟨nofun, fun hr => absurd ht (hr.1 markup hd)⟩
  · have untold : ∀ markup, r.drawing a = some markup → ¬ Telling markup :=
      fun markup hd ht => h ⟨markup, hd, ht⟩
    rw [telling?_none untold]
    constructor
    · intro markup
      exact ⟨nofun, fun hr => absurd hr.2 (untold markup hr.1)⟩
    · intro reason
      rw [Rendering.unavailable.injEq]
      exact ⟨fun heq => ⟨untold, heq.symm⟩, fun hr => hr.2.symm⟩

theorem isSuccess_iff (status : Nat) : isSuccess status = true ↔ 200 ≤ status ∧ status < 300 := by
  simp [isSuccess]

theorem interpret_of_success {r : Reply} {status : Nat} {text : String}
    (read : parse text = .ok r) (success : 200 ≤ status ∧ status < 300) :
    interpret status text = r.result := by
  rw [interpret, if_pos ((isSuccess_iff status).mpr success), read]

theorem interpret_of_failure {r : Reply} {status : Nat} {text : String}
    (read : parse text = .ok r) (failure : ¬ (200 ≤ status ∧ status < 300)) :
    interpret status text
      = .error (.rejected status ((telling? r.error).getD genericFailure)) := by
  rw [interpret, if_neg (mt (isSuccess_iff status).mp failure), read]
  rfl

/-- **A body means what its status and its texts decide**, however the texts are written. -/
theorem interpretation (r : Reply) (text : String) (h : r.WrittenAs text) (status : Nat) :
    r.Means status (interpret status text) := by
  have read := parse_of_writtenAs h
  constructor
  · intro success d hd
    rw [interpret_of_success read success, result, hd]
    refine ⟨_, rfl, rfl, fun a => ?_⟩
    cases a
    · exact renders_rendering r .formal
    · exact renders_rendering r .intuitive
  · intro success hd
    rw [interpret_of_success read success, result, hd]
  · intro failure s he ht
    rw [interpret_of_failure read failure, he, telling?_some ht]
    rfl
  · intro failure untold
    rw [interpret_of_failure read failure, telling?_none untold]
    rfl

section Scattered

open Json

/-- A drawing that is null, a member that nobody asks for, and a description with escapes in it. -/
def scattered : List Char :=
  '\n' :: '\x7b' :: (quoteChars "svg_formal".toList ++ ':' :: ' ' :: 'n' :: 'u' :: 'l' :: 'l' :: ','
    :: (quoteChars "notes".toList ++ ':' :: '[' :: '[' :: ']' :: ',' :: '-' :: '7' :: ']' :: ','
    :: (quoteChars "visual_language".toList ++ ':'
    :: (quoteChars "add \"9\"\n".toList ++ '\x7d' :: [' ']))))

theorem writtenAs_scattered :
    WrittenAs {visualLanguage := some "add \"9\"\n"} (String.ofList scattered) := by
  have space {rest} : Blank (' ' :: rest) rest := .cons (by decide) .none
  have seven {rest} : Phrase .value ('-' :: '7' :: rest) rest :=
    .number (.mk .minus (.digits (by decide) (.one (by decide))) .absent .absent)
  have closed {first rest} : Phrase (.rest .list first) (']' :: rest) rest := .close .none
  have empty {rest} : Phrase .value ('[' :: ']' :: rest) rest := .container closed
  have nested {rest} : Phrase .value ('[' :: '[' :: ']' :: ',' :: '-' :: '7' :: ']' :: rest) rest :=
    .container (.element (.first .none) empty (.element (.next .none .none) seven closed))
  have described : Members false [("visual_language", .text "add \"9\"\n")] _ [' '] :=
    members_of_quoted (.next .none .none) .none (holds_quoteChars _ _) (.close .none)
  have annotated : Members false (("notes", .any) :: _) _ [' '] :=
    members_of_quoted (.next .none .none) .none (.any nested) described
  have whole : Members true (("svg_formal", .null) :: _) _ [' '] :=
    members_of_quoted (.first .none) space .null annotated
  refine .mk (.mk ?_ whole space) ?_
  · rw [String.toList_ofList]
    exact .cons (by decide) .none
  · constructor
    · decide
    · simp [entries]
    · simp only [entries, List.mem_cons, Prod.mk.injEq]
      grind

/-- The order, the white space and the stranger in between do not matter. -/
theorem interpretation_scattered :
    WrittenAs {visualLanguage := some "add \"9\"\n"} (String.ofList scattered)
      ∧ Means {visualLanguage := some "add \"9\"\n"} 200
        (interpret 200 (String.ofList scattered)) :=
  ⟨writtenAs_scattered, interpretation _ _ writtenAs_scattered 200⟩

end Scattered

end Reply

end ProblemVisualizer.Generation
