import ProblemVisualizer.Proofs.Generation.Interpretation

/-! What the user is told where there is nothing to show.

The message of a rejection and the markup of a drawing are looked at before they are handed
on, and a blank one counts for none. The excuse for a missing drawing is handed on as the
service wrote it. So all that is handed on tells something, blank excuses apart, and those
are told apart in `explanation`: what stands for a missing drawing is blank exactly if the
service's excuse is. -/
namespace ProblemVisualizer.Generation.Reply

variable {r : Reply} {a : Artifact} {status : Nat} {body : String} {result : Result}

/-- The reply has no excuse for a drawing, or one that tells something. -/
def Candid (r : Reply) (a : Artifact) : Prop := ∀ excuse, r.excuse a = some excuse → Telling excuse

/-- All that is handed on tells something, excuses apart. -/
structure Explains (status : Nat) (body : String) : Prop where
  rejected : ∀ n message, interpret status body = .error (.rejected n message) → Telling message
  shown : ∀ result a markup, interpret status body = .ok result → result.rendering a = .svg markup →
    Telling markup
  /-- What stands for a missing drawing is no better than the excuse. -/
  excused : ∀ result, interpret status body = .ok result → ∃ r, parse body = .ok r ∧
    ∀ a reason, result.rendering a = .unavailable reason → (Telling reason ↔ r.Candid a)
  incomplete : ∀ result r, interpret status body = .ok result → parse body = .ok r →
    result.isComplete = false → (∀ a, r.Candid a) →
    result.missing ≠ [] ∧ ∀ m ∈ result.missing, Telling m.2

theorem telling_genericFailure : Telling genericFailure := ⟨'U', by decide, by decide⟩

theorem telling_fallbackReason (a : Artifact) : Telling a.fallbackReason := by
  cases a <;> exact ⟨'C', by decide, by decide⟩

/-- What passes the look tells something. -/
theorem telling_of_telling? {text : Option String} {s : String} (h : telling? text = some s) :
    Telling s := by
  rw [telling?, Option.filter_eq_some_iff, Bool.not_eq_true', ← telling_iff] at h
  exact h.2

theorem telling_of_rejected {n : Nat} {message : String}
    (h : interpret status body = .error (.rejected n message)) : Telling message := by
  unfold interpret at h
  split at h
  · split at h
    · cases h
    · rename_i reply _
      unfold result at h
      split at h <;> cases h
  · obtain ⟨-, rfl⟩ := ServiceError.rejected.inj (Except.error.inj h)
    cases told : (parse body).toOption.bind fun reply => telling? reply.error with
    | none => exact telling_genericFailure
    | some s =>
      obtain ⟨reply, -, own⟩ := Option.bind_eq_some_iff.mp told
      exact telling_of_telling? own

/-- A result comes from a reply, one drawing like the other. -/
theorem renders_of_ok (h : interpret status body = .ok result) :
    ∃ r, parse body = .ok r ∧ ∀ a, r.Renders a (result.rendering a) := by
  unfold interpret at h
  split at h
  · split at h
    · cases h
    · rename_i r read
      unfold Reply.result at h
      split at h
      · cases h
      · obtain rfl := Except.ok.inj h
        refine ⟨r, read, fun a => ?_⟩
        cases a
        · exact renders_rendering r .formal
        · exact renders_rendering r .intuitive
  · cases h

theorem telling_reason_iff {rendering : Rendering} (renders : r.Renders a rendering) {reason : String}
    (missing : rendering = .unavailable reason) : Telling reason ↔ r.Candid a := by
  obtain ⟨-, rfl⟩ := (renders.excused reason).mp missing
  unfold Candid
  cases r.excuse a with
  | none => exact ⟨fun _ => nofun, fun _ => telling_fallbackReason a⟩
  | some excuse =>
    exact ⟨fun telling _ same => Option.some.inj same ▸ telling, fun candid => candid excuse rfl⟩

theorem unavailable_of_mem_missing {m : Artifact × String} (h : m ∈ result.missing) :
    result.rendering m.1 = .unavailable m.2 := by
  obtain ⟨a, -, found⟩ := List.mem_filterMap.mp h
  obtain ⟨reason, given, rfl⟩ := Option.map_eq_some_iff.mp found
  cases rendering : result.rendering a with
  | svg markup => rw [rendering] at given; cases given
  | unavailable own =>
    rw [rendering] at given
    exact congrArg Rendering.unavailable (Option.some.inj given)

/-- **Where there is nothing to show, the user is told something**, unless the service's own excuse
is blank. -/
theorem explanation (status : Nat) (body : String) : Explains status body where
  rejected _ _ h := telling_of_rejected h
  shown result a markup h drawn := by
    obtain ⟨r, -, renders⟩ := renders_of_ok h
    exact (((renders a).shown markup).mp drawn).2
  excused result h := by
    obtain ⟨r, read, renders⟩ := renders_of_ok h
    exact ⟨r, read, fun a reason missing => telling_reason_iff (renders a) missing⟩
  incomplete result r h read incomplete candid := by
    constructor
    · intro nothing
      rw [(Result.isComplete_iff_missing_eq_nil result).mpr nothing] at incomplete
      cases incomplete
    · intro m hm
      obtain ⟨r', read', renders⟩ := renders_of_ok h
      obtain rfl := Except.ok.inj (read.symm.trans read')
      exact (telling_reason_iff (renders m.1) (unavailable_of_mem_missing hm)).mpr (candid m.1)

section Excuse

/-- One drawing is missing, and the excuse for it is empty. -/
def wordless : Reply where
  visualLanguage := some "V"
  svgIntuitive := some "I"
  formalError := some ""

/-- The empty excuse is handed on, although there is a reason to fall back to. -/
theorem excuse_blank :
    interpret 200 "\x7b\"visual_language\":\"V\",\"svg_intuitive\":\"I\",\"formal_error\":\"\"\x7d"
      = .ok { description := "V", formal := .unavailable "", intuitive := .svg "I" } ∧
    ¬ Telling "" := by
  constructor
  · have written : Json.writeObject wordless.entries.given =
        "\x7b\"visual_language\":\"V\",\"svg_intuitive\":\"I\",\"formal_error\":\"\"\x7d" := by decide
    rw [← written]
    exact interpret_of_success (parse_of_writtenAs (writtenAs_writeObject wordless)) (by decide)
  · rintro ⟨c, mem, -⟩
    cases mem

end Excuse

end ProblemVisualizer.Generation.Reply
