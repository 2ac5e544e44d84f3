import ProblemVisualizer.Proofs.Settings.Layers

/-! The endpoint as it is stored.

Requests are sent to the endpoint as it stands in the settings. One from the environment is
trimmed before it is stored; one from the file is trimmed for the check only, and stored as
it was. So there may be white space around an endpoint that has passed, and `stored_endpoint`
says when: the file has it there and the environment is silent. -/
namespace ProblemVisualizer.Settings

open Files (Tree)
open Generation (Telling)
open Text (Bare)

/-- The text begins like an address of the web and has no white space at its ends. -/
structure Ready (s : String) : Prop where
  bare : Bare s
  address : ∃ rest, s = "http://" ++ rest ∨ s = "https://" ++ rest

variable {tree : Tree} {env : Environment} {c : Config} {told : List (String × String)} {s : String}

/-- What has passed the check lacks nothing but trimming. -/
theorem ready_iff (address : IsAddress s) : Ready s ↔ Bare s := by
  refine ⟨Ready.bare, fun bare => ⟨bare, ?_⟩⟩
  obtain ⟨t, rest, trims, begins⟩ := address
  rw [trims.eq_trim, (Text.trim_eq_self_iff s).mpr bare] at begins
  exact ⟨rest, begins⟩

theorem bare_usual : Bare Setting.endpoint.usual where
  front c hc := by
    obtain rfl : 'h' = c := Option.some.inj hc
    decide
  back c hc := by
    obtain rfl : 'e' = c := Option.some.inj hc
    decide

/-- Settings that have been loaded are those of the file and the environment, and have passed the
check. -/
theorem told_of_load (loaded : Config.load tree env = .ok c) :
    ∃ told, FileTells tree env told ∧ c = (Config.ofTold told).override env ∧
      IsAddress c.endpoint := by
  cases read : Config.base tree env with
  | error e =>
    rw [load_of_error read] at loaded
    cases loaded
  | ok before =>
    obtain ⟨told, tells, rfl⟩ := fileTells_of_base read
    obtain ⟨sound, faulty⟩ := load_of_base read
    by_cases address : IsAddress ((Config.ofTold told).override env).endpoint
    · rw [sound address] at loaded
      obtain rfl := Except.ok.inj loaded
      exact ⟨told, tells, rfl, address⟩
    · rw [faulty address] at loaded
      cases loaded

/-- The file has this text for the endpoint. -/
def FileEndpoint (tree : Tree) (env : Environment) (s : String) : Prop :=
  ∃ told, FileTells tree env told ∧ (Setting.endpoint.key, s) ∈ told

/-- The file has one text for the endpoint at most, however it is told. -/
theorem FileEndpoint.endpoint_ofTold (has : FileEndpoint tree env s)
    (tells : FileTells tree env told) : (Config.ofTold told).endpoint = s := by
  obtain ⟨told', tells', mem⟩ := has
  have read : Except.ok (Config.ofTold told) = Except.ok (Config.ofTold told') :=
    (base_of_fileTells tells).symm.trans (base_of_fileTells tells')
  rw [Except.ok.inj read]
  exact get_ofTold_of_mem tells'.nodup mem

/-- **The endpoint that is stored is an address, but for white space around it.** There is none
exactly if the environment tells an endpoint, or if there is none around the one that the file has,
or if the file has none. -/
theorem stored_endpoint (loaded : Config.load tree env = .ok c) :
    IsAddress c.endpoint ∧
    (Ready c.endpoint ↔
      (∃ value, env "MATH2VISUAL_ENDPOINT" = some value ∧ Telling value) ∨
      ∀ s, FileEndpoint tree env s → Bare s) := by
  obtain ⟨told, tells, rfl, address⟩ := told_of_load loaded
  refine ⟨address, ?_⟩
  rw [ready_iff address]
  have layered : Layered env told .endpoint ((Config.ofTold told).override env).endpoint :=
    layered_override tells.nodup .endpoint
  have kept : Silent env .endpoint → ∀ s, FileEndpoint tree env s →
      ((Config.ofTold told).override env).endpoint = s := by
    intro silent s has
    rw [← has.endpoint_ofTold tells]
    exact get_override_of_silent (silent_iff.mp silent)
  generalize ((Config.ofTold told).override env).endpoint = stored at layered kept
  cases layered with
  | environment set telling trims =>
    exact ⟨fun _ => .inl ⟨_, set, telling⟩, fun _ => trims.bare⟩
  | file silent mem =>
    refine ⟨fun bare => .inr fun s has => kept silent s has ▸ bare, ?_⟩
    rintro (⟨value, set, telling⟩ | bare)
    · exact absurd telling (silent value set)
    · exact bare stored ⟨told, tells, mem⟩
  | usual silent _ =>
    exact ⟨fun bare => .inr fun s has => kept silent s has ▸ bare, fun _ => bare_usual⟩

section Padded

/-- A blank stands before the address. -/
def padded : String := "\x7b\"endpoint\":\" http://localhost:5001/\"\x7d"

/-- The usual file, and nothing else. -/
def withFile (content : String) : Tree where
  entries := [([usualFile], .file (Text.encode content))]

/-- The environment tells an endpoint at most. -/
def asking (endpoint : Option String) : Environment := fun name =>
  if name = "MATH2VISUAL_ENDPOINT" then endpoint else none

theorem fileTells_padded (endpoint : Option String) :
    FileTells (withFile padded) (asking endpoint) [("endpoint", " http://localhost:5001/")] := by
  have written : padded = Json.writeObject [("endpoint", " http://localhost:5001/")] := by decide
  refine .file (.usual rfl rfl) rfl ?_
  rw [written]
  exact .object (Json.objectText_writeObject _) (by decide) (by decide)

/-- An endpoint from the environment is trimmed, whatever the file has. -/
theorem stored_endpoint_asked :
    Config.load (withFile padded) (asking (some " https://m2v.example/ "))
      = .ok {endpoint := "https://m2v.example/"} ∧ Ready "https://m2v.example/" := by
  have loaded : Config.load (withFile padded) (asking (some " https://m2v.example/ "))
      = .ok {endpoint := "https://m2v.example/"} :=
    (load_of_base (base_of_fileTells (fileTells_padded _))).1 ((isAddress_iff _).mp (by decide))
  have telling : Telling " https://m2v.example/ " := ⟨'h', by decide, by decide⟩
  exact ⟨loaded, (stored_endpoint loaded).2.mpr (.inl ⟨_, rfl, telling⟩)⟩

/-- An endpoint from the file is stored with the blank before it. -/
theorem endpoint_stored_padded :
    Config.load (withFile padded) (asking none) = .ok {endpoint := " http://localhost:5001/"} ∧
    ¬ Ready " http://localhost:5001/" := by
  constructor
  · exact (load_of_base (base_of_fileTells (fileTells_padded _))).1
      ((isAddress_iff _).mp (by decide))
  · rintro ⟨⟨front, -⟩, -⟩
    exact absurd (front ' ' rfl) (by decide)

end Padded

end ProblemVisualizer.Settings
