import ProblemVisualizer.Proofs.Generation.Interpretation
import ProblemVisualizer.Proofs.Json.Objects

/-! What a rejection tells.

The body of a rejection is read as a whole reply before its message is looked at.
So what the service says under `error` is passed on exactly when the rest of the
reply can be read too: `rejection`. A value of another kind under one of the other
five keys, or one of the keys a second time, is enough to hide it. -/
namespace ProblemVisualizer.Generation.Reply

open Json (Content ObjectText)

/-- The keys that a reply is read from. -/
def keys : List String :=
  ["visual_language", "svg_formal", "svg_intuitive", "formal_error", "intuitive_error", "error"]

/-- A reply can be read from these members: each of its keys comes once at most, and holds a text
or a null. -/
structure Legible (members : List (String × Content)) : Prop where
  once : ((members.filter fun m => m.1 ∈ keys).map Prod.fst).Nodup
  told : ∀ m ∈ members, m.1 ∈ keys → m.2 ≠ .any

theorem known_iff (name : String) : name ∈ keys ↔ (shape.field? name).isSome = true := by
  show name ∈ shape.fields.map Json.Field.name ↔ _
  exact Json.field?_isSome_iff.symm

/-- Legible members are what the reader takes for a reply. -/
theorem legible_iff_reads (members : List (String × Content)) :
    Legible members ↔ shape.Reads members := by
  have fields : shape.fields.map Json.Field.name = keys := rfl
  constructor
  · rintro ⟨once, told⟩
    refine ⟨fun m hm => ?_, ?_⟩
    · unfold Json.Shape.Admits
      split
      · rename_i known
        exact ⟨told m hm ((known_iff m.1).mpr (Option.isSome_of_eq_some known)), fun _ => rfl⟩
      · rfl
    · rw [Json.keys_values, fields]
      exact once
  · rintro ⟨admits, once⟩
    rw [Json.keys_values, fields] at once
    refine ⟨once, fun m hm known => ?_⟩
    have admitted := admits m hm
    obtain ⟨field, hf⟩ := Option.isSome_iff_exists.mp ((known_iff m.1).mp known)
    rw [Json.Shape.Admits, hf] at admitted
    exact admitted.1

variable {members : List (String × Content)} {body s : String} {status : Nat}

theorem parse_of_legible (object : ObjectText members body) (legible : Legible members)
    (error : ("error", .text s) ∈ members) :
    ∃ r, parse body = .ok r ∧ r.error = some s := by
  obtain ⟨admits, once⟩ := (legible_iff_reads members).mp legible
  have known : shape.field? "error" = some ⟨"error", "a string"⟩ := by decide
  have given := List.mem_reverse.mpr (Json.mem_values_of_mem known error)
  refine ⟨ofValues (shape.values members).reverse, ?_,
    Json.Values.text?_of_mem (Json.nodup_keys_reverse once) given⟩
  rw [parse, Json.parseRecord_of_objectText object admits once]
  rfl

theorem legible_of_parse {r : Reply} (object : ObjectText members body) (read : parse body = .ok r) :
    ∃ told, ObjectText told body ∧ Legible told := by
  cases values : Json.parseRecord shape body with
  | error detail => simp [parse, values, Except.map] at read
  | ok given =>
    obtain ⟨told, object, reads⟩ := Json.exists_reads_of_parseRecord object values
    exact ⟨told, object, (legible_iff_reads told).mpr reads⟩

/-- However the object is told, what stands under `error` is the same text. -/
theorem mem_error_of_agree {told : List (String × Content)} (agree : Json.Agree members told)
    (error : ("error", .text s) ∈ members) (legible : Legible told) :
    ("error", .text s) ∈ told := by
  obtain ⟨content, mem, agrees⟩ := agree.exists_of_mem error
  rcases agrees with any | any | rfl
  · cases any
  · have known : "error" ∈ keys := by decide
    exact absurd any (legible.told _ mem known)
  · exact mem

theorem rejected_of_parse {r : Reply} (read : parse body = .ok r) (given : r.error = some s)
    (telling : Telling s) (failure : ¬ (200 ≤ status ∧ status < 300)) :
    interpret status body = .error (.rejected status s) := by
  rw [interpret_of_failure read failure, given, telling?_some telling]
  rfl

theorem generic_of_unread (unread : ∀ r, parse body ≠ .ok r)
    (failure : ¬ (200 ≤ status ∧ status < 300)) :
    interpret status body = .error (.rejected status "Unknown error") := by
  rw [interpret, if_neg (mt (isSuccess_iff status).mp failure)]
  cases read : parse body with
  | ok r => exact absurd read (unread r)
  | error detail => rfl

/-- **A rejection passes on what the service says exactly when the reply can be read.** The body is
any object that has `error` once, with a text that says something. If its members can be told as
those of a reply, then the message is that text; otherwise it is the generic one. -/
theorem rejection (object : ObjectText members body)
    (error : members.filter (fun m => m.1 = "error") = [("error", .text s)]) (telling : Telling s)
    (failure : ¬ (200 ≤ status ∧ status < 300)) :
    ((∃ told, ObjectText told body ∧ Legible told) →
      interpret status body = .error (.rejected status s)) ∧
    ((¬ ∃ told, ObjectText told body ∧ Legible told) →
      interpret status body = .error (.rejected status "Unknown error")) := by
  have mem : ("error", .text s) ∈ members :=
    List.mem_of_mem_filter (error ▸ List.mem_singleton_self _)
  constructor
  · rintro ⟨told, object', legible⟩
    have same := mem_error_of_agree (object.agree object') mem legible
    obtain ⟨r, read, given⟩ := parse_of_legible object' legible same
    exact rejected_of_parse read given telling failure
  · intro illegible
    exact generic_of_unread (fun r read => illegible (legible_of_parse object read)) failure

section Refusal

open Json

/-- A message, and a number under another key. -/
def refusal (key : String) : List Char :=
  '\x7b' :: (quoteChars "error".toList ++ ':' :: (quoteChars "bad formula".toList ++ ','
    :: (quoteChars key.toList ++ ':' :: '5' :: ['\x7d'])))

theorem objectText_refusal (key : String) :
    ObjectText [("error", .text "bad formula"), (key, .any)] (String.ofList (refusal key)) := by
  have five {rest} : Phrase .value ('5' :: rest) rest :=
    .number (.mk .absent (.digits (by decide) (.one (by decide))) .absent .absent)
  have numbered : Members false [(key, .any)] _ [] :=
    members_of_quoted (.next .none .none) .none (.any five) (.close .none)
  have whole : Members true (("error", .text "bad formula") :: _) _ [] :=
    members_of_quoted (.first .none) .none (holds_quoteChars _ _) numbered
  refine .mk ?_ whole .none
  rw [String.toList_ofList]
  exact .none

theorem telling_refusal : Telling "bad formula" := ⟨'b', by decide, by decide⟩

/-- A number that nobody asks for hides nothing. -/
theorem rejection_numbered :
    ObjectText [("error", .text "bad formula"), ("code", .any)] (String.ofList (refusal "code")) ∧
    Legible [("error", .text "bad formula"), ("code", .any)] ∧
    interpret 400 (String.ofList (refusal "code")) = .error (.rejected 400 "bad formula") := by
  have object := objectText_refusal "code"
  have legible : Legible [("error", .text "bad formula"), ("code", .any)] :=
    ⟨by decide, by simp [keys]⟩
  exact ⟨object, legible,
    (rejection object (by decide) telling_refusal (by decide)).1 ⟨_, object, legible⟩⟩

/-- Where a drawing should be, the number cannot be read. -/
theorem parse_refusal (r : Reply) : parse (String.ofList (refusal "svg_formal")) ≠ .ok r := by
  intro read
  cases values : parseRecord shape (String.ofList (refusal "svg_formal")) with
  | error detail => simp [parse, values, Except.map] at read
  | ok given =>
    have opened : Blank (String.ofList (refusal "svg_formal")).toList
        ('\x7b' :: (refusal "svg_formal").tail) := by
      rw [String.toList_ofList]
      exact .none
    have error : nextKey true (refusal "svg_formal").tail = .ok (some "error", _) :=
      nextKey_of_lead (.first .none) (spells_escape _ _)
    have drawing {rest} : nextKey false (',' :: (quoteChars "svg_formal".toList ++ rest))
        = .ok (some "svg_formal", rest) := by
      rw [quoteChars_append]
      exact nextKey_of_lead (.next .none .none) (spells_escape _ _)
    have message {nullable rest} :
        readText nullable "a string" (quoteChars "bad formula".toList ++ rest)
          = .ok (some "bad formula", rest) :=
      readText_of_holds _ .none (holds_quoteChars _ rest) (by simp) (by simp)
    have known : shape.field? "error" = some ⟨"error", "a string"⟩ := by decide
    have known' : shape.field? "svg_formal" = some ⟨"svg_formal", "a string"⟩ := by decide
    obtain ⟨⟨_, _⟩, inside⟩ := readMembers_of_parseRecord opened values
    obtain ⟨-, _, _, text, behind⟩ := readMembers_field_inv error known (colon_of_blank .none) inside
    obtain ⟨rfl, rfl⟩ := Prod.mk.inj (Except.ok.inj (message.symm.trans text))
    obtain ⟨-, _, _, five, -⟩ := readMembers_field_inv drawing known' (colon_of_blank .none) behind
    cases five

/-- The number where a drawing should be hides the message. -/
theorem message_hidden :
    ObjectText [("error", .text "bad formula"), ("svg_formal", .any)]
      (String.ofList (refusal "svg_formal")) ∧
    Telling "bad formula" ∧
    interpret 500 (String.ofList (refusal "svg_formal"))
      = .error (.rejected 500 "Unknown error") :=
  ⟨objectText_refusal _, telling_refusal, generic_of_unread parse_refusal (by decide)⟩

end Refusal

end ProblemVisualizer.Generation.Reply
