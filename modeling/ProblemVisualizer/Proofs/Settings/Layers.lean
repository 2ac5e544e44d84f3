import ProblemVisualizer.Proofs.Files.Trees
import ProblemVisualizer.Proofs.Generation.Interpretation
import ProblemVisualizer.Proofs.Json.Texts
import ProblemVisualizer.Proofs.Text.Trimming
import ProblemVisualizer.Settings.Config

/-! Where settings come from.

There are three layers: the environment, the file, and the defaults. `Layered` says which
of them a single setting comes from, without a look at the other settings; `FileTells`
says what the file has to say, in terms of its bytes. `layered_merge` puts them together:
either the file cannot be read, or it is garbled, or the settings are those of the layers
and all that is asked of them is that the endpoint is an address. -/
namespace ProblemVisualizer.Settings

open Files (Failure Tree)
open Generation (Telling)
open Json (JsonText ListText ObjectText Tells Values)
open Text (Bare Trims)

/-! ### Settings one by one -/

inductive Setting where
  | endpoint
  | exportDir
  | logFile
  | logLevel

namespace Setting

/-- What the file calls a setting. -/
def key : Setting → String
  | endpoint => "endpoint"
  | exportDir => "export_dir"
  | logFile => "log_file"
  | logLevel => "log_level"

/-- What the environment calls a setting. -/
def variableName : Setting → String
  | endpoint => "MATH2VISUAL_ENDPOINT"
  | exportDir => "MATH2VISUAL_EXPORT_DIR"
  | logFile => "MATH2VISUAL_LOG_FILE"
  | logLevel => "MATH2VISUAL_LOG"

def usual : Setting → String
  | endpoint => "http://localhost:5001/api/generate"
  | exportDir => "."
  | logFile => "math2visual.log"
  | logLevel => "info"

/-- What a value in the environment makes of a setting: of an endpoint the white space around it
is left out, the others are taken as they are. -/
def Becomes : Setting → String → String → Prop
  | endpoint, value, s => Trims value s
  | _, value, s => s = value

end Setting

def Config.get (c : Config) : Setting → String
  | .endpoint => c.endpoint
  | .exportDir => c.exportDir
  | .logFile => c.logFile
  | .logLevel => c.logLevel

/-- The environment tells nothing of a setting: its variable is not set, or to white space. -/
def Silent (env : Environment) (k : Setting) : Prop :=
  ∀ value, env k.variableName = some value → ¬ Telling value

/-- A setting has this value, from the first layer that says something of it. -/
inductive Layered (env : Environment) (told : List (String × String)) (k : Setting) : String → Prop
  | environment {value s} : env k.variableName = some value → Telling value → k.Becomes value s →
      Layered env told k s
  | file {s} : Silent env k → (k.key, s) ∈ told → Layered env told k s
  | usual : Silent env k → k.key ∉ told.map Prod.fst → Layered env told k k.usual

/-- The text begins like an address of the web, but for white space before it. -/
def IsAddress (s : String) : Prop :=
  ∃ t rest, Trims s t ∧ (t = "http://" ++ rest ∨ t = "https://" ++ rest)

/-! ### The file -/

/-- The file that settings are read from, or none. -/
inductive Chosen (tree : Tree) (env : Environment) : Option String → Prop
  | named {path} : env "MATH2VISUAL_CONFIG" = some path → Chosen tree env (some path)
  | usual : env "MATH2VISUAL_CONFIG" = none → tree.exists? "math2visual.json" = true →
      Chosen tree env (some "math2visual.json")
  | none : env "MATH2VISUAL_CONFIG" = none → tree.exists? "math2visual.json" = false →
      Chosen tree env none

/-- The keys of the file. -/
def keys : List String := ["endpoint", "export_dir", "log_file", "log_level"]

/-- No settings can be read from the text. -/
inductive Garbled (content : String) : Prop
  | notJson : ¬ JsonText content → Garbled content
  | unknown {members key} : ObjectText members content → key ∈ members.map Prod.fst →
      key ∉ keys → Garbled content
  | repeated {members} : ObjectText members content → ¬ (members.map Prod.fst).Nodup →
      Garbled content
  /-- One of the members of the object holds no text. -/
  | notText {members} : ObjectText members content →
      (∀ told, ¬ ObjectText (Json.texts told) content) → Garbled content
  /-- The text is no object, nor a list of texts for the keys in their order. -/
  | other : (∀ members, ¬ ObjectText members content) →
      (∀ elements, ListText elements content → keys.length < elements.length) → Garbled content

/-- The texts that the file has under the keys; none if there is no file. -/
inductive FileTells (tree : Tree) (env : Environment) : List (String × String) → Prop
  | file {path content told} : Chosen tree env (some path) →
      tree.readBytes path = .ok (Text.encode content) → Tells keys told content →
      FileTells tree env told
  | none : Chosen tree env none → FileTells tree env []

/-- The settings of a file that has these texts under the keys. -/
def Config.ofTold (told : List (String × String)) : Config :=
  .ofValues (Json.given told).reverse

/-- A text is garbled if it tells nothing, not even that it tells nothing. -/
theorem garbled_iff (content : String) : Garbled content ↔ ∀ told, ¬ Tells keys told content := by
  constructor
  · intro garbled told tells
    cases garbled with
    | notJson foreign => exact foreign tells.jsonText
    | unknown object mem stranger => exact stranger ((tells.of_objectText object).2.1 _ mem)
    | repeated object twice => exact twice (tells.of_objectText object).2.2
    | notText object others => exact others told (tells.of_objectText object).1
    | other object long =>
      cases tells with
      | object object' _ _ => exact object _ object'
      | list list few _ => exact Nat.not_lt.mpr few (long _ list)
  · intro untold
    by_cases object : ∃ members, ObjectText members content
    · obtain ⟨members, object⟩ := object
      by_cases known : ∀ key ∈ members.map Prod.fst, key ∈ keys
      · by_cases once : (members.map Prod.fst).Nodup
        · refine .notText object fun told texts => untold told (.object texts ?_ ?_)
          all_goals
            have same := (texts.agree object).keys_eq
            rw [Json.keys_texts] at same
          · exact fun m hm => known m.1 (same ▸ List.mem_map_of_mem hm)
          · exact same ▸ once
        · exact .repeated object once
      · rw [not_forall] at known
        obtain ⟨key, known⟩ := known
        rw [Classical.not_imp] at known
        exact .unknown object known.1 known.2
    · refine .other (fun members h => object ⟨members, h⟩) fun elements list => ?_
      by_cases few : elements.length ≤ keys.length
      · exact absurd (.list list few rfl) (untold _)
      · exact Nat.not_le.mp few

/-! ### Reading the file -/

theorem parse_eq_ok_iff {content : String} {c : Config} :
    Config.parse content = .ok c ↔ ∃ told, Tells keys told content ∧ c = .ofTold told := by
  have record {values : Values} : Json.parseRecord Config.shape content = .ok values ↔
      ∃ told, Tells keys told content ∧ values = (Json.given told).reverse :=
    Json.parseRecord_eq_ok_iff rfl rfl
  rw [Config.parse]
  constructor
  · intro read
    cases values : Json.parseRecord Config.shape content with
    | error fault => rw [values] at read; cases read
    | ok given =>
      rw [values] at read
      obtain rfl := Except.ok.inj read
      obtain ⟨told, tells, rfl⟩ := record.mp values
      exact ⟨told, tells, rfl⟩
  · rintro ⟨told, tells, rfl⟩
    rw [record.mpr ⟨told, tells, rfl⟩]
    rfl

variable {tree tree' : Tree} {env env' : Environment} {path content : String}
variable {told told' : List (String × String)} {c : Config}

theorem chosen_iff {path? : Option String} :
    Chosen tree env path? ↔ Config.file? tree env = path? := by
  unfold Config.file?
  constructor
  · intro chosen
    cases chosen with
    | named set => rw [show env fileVariable = _ from set]
    | usual unset there =>
      rw [show env fileVariable = _ from unset]
      exact if_pos there
    | none unset missing =>
      rw [show env fileVariable = _ from unset]
      exact if_neg (by rw [usualFile, missing]; exact Bool.false_ne_true)
  · rintro rfl
    cases set : env fileVariable with
    | some path => exact .named set
    | none =>
      cases there : tree.exists? usualFile with
      | true => exact .usual set there
      | false => exact .none set there

/-- Only one variable has a say in which file is read. -/
theorem base_congr (same : env' fileVariable = env fileVariable) :
    Config.base tree env' = Config.base tree env := by
  unfold Config.base Config.file?
  rw [same]

theorem base_of_chosen (chosen : Chosen tree env (some path)) :
    Config.base tree env = Config.ofFile tree path := by
  rw [Config.base, chosen_iff.mp chosen]

theorem ofFile_of_unreadable (unread : ∀ content, tree.readBytes path ≠ .ok (Text.encode content)) :
    ∃ failure, Config.ofFile tree path = .error (.unreadable path failure) := by
  unfold Config.ofFile
  cases read : tree.readText path with
  | error failure => exact ⟨failure, rfl⟩
  | ok content => exact absurd (Tree.readText_eq_ok_iff.mp read) (unread content)

theorem ofFile_of_garbled (read : tree.readBytes path = .ok (Text.encode content))
    (garbled : Garbled content) :
    ∃ fault, Config.ofFile tree path = .error (.malformed path fault) := by
  rw [Config.ofFile, Tree.readText_eq_ok_iff.mpr read]
  cases parsed : Config.parse content with
  | error fault => exact ⟨fault, by simp only [parsed]⟩
  | ok c =>
    obtain ⟨told, tells, -⟩ := parse_eq_ok_iff.mp parsed
    exact absurd tells ((garbled_iff content).mp garbled told)

theorem ofFile_of_tells (read : tree.readBytes path = .ok (Text.encode content))
    (tells : Tells keys told content) : Config.ofFile tree path = .ok (.ofTold told) := by
  rw [Config.ofFile, Tree.readText_eq_ok_iff.mpr read]
  simp only [parse_eq_ok_iff.mpr ⟨told, tells, rfl⟩]

/-- What the file tells is what there is before the environment is looked at. -/
theorem base_of_fileTells (tells : FileTells tree env told) :
    Config.base tree env = .ok (.ofTold told) := by
  cases tells with
  | file chosen read tells => rw [base_of_chosen chosen, ofFile_of_tells read tells]
  | none chosen =>
    rw [Config.base, chosen_iff.mp chosen]
    rfl

/-- There is nothing else before the environment is looked at. -/
theorem fileTells_of_base (read : Config.base tree env = .ok c) :
    ∃ told, FileTells tree env told ∧ c = .ofTold told := by
  cases chosen : Config.file? tree env with
  | none =>
    rw [Config.base, chosen] at read
    exact ⟨[], .none (chosen_iff.mpr chosen), (Except.ok.inj read).symm⟩
  | some path =>
    rw [base_of_chosen (chosen_iff.mpr chosen), Config.ofFile] at read
    cases text : tree.readText path with
    | error failure => rw [text] at read; cases read
    | ok content =>
      simp only [text] at read
      cases parsed : Config.parse content with
      | error fault => rw [parsed] at read; cases read
      | ok c' =>
        rw [parsed] at read
        obtain rfl := Except.ok.inj read
        obtain ⟨told, tells, rfl⟩ := parse_eq_ok_iff.mp parsed
        exact ⟨told, .file (chosen_iff.mpr chosen) (Tree.readText_eq_ok_iff.mp text) tells, rfl⟩

theorem FileTells.nodup (tells : FileTells tree env told) : (told.map Prod.fst).Nodup := by
  cases tells with
  | file _ _ tells => exact tells.nodup (by decide)
  | none _ => exact List.nodup_nil

theorem exists_tells (clear : ¬ Garbled content) : ∃ told, Tells keys told content := by
  by_contra untold
  exact clear ((garbled_iff content).mpr fun told tells => untold ⟨told, tells⟩)

/-- If nothing is wrong with the file, then it tells something. -/
theorem exists_fileTells (sound : ∀ path, Chosen tree env (some path) →
      ∃ content, tree.readBytes path = .ok (Text.encode content) ∧ ¬ Garbled content) :
    ∃ told, FileTells tree env told := by
  cases chosen : Config.file? tree env with
  | none => exact ⟨[], .none (chosen_iff.mpr chosen)⟩
  | some path =>
    obtain ⟨content, read, clear⟩ := sound path (chosen_iff.mpr chosen)
    obtain ⟨told, tells⟩ := exists_tells clear
    exact ⟨told, .file (chosen_iff.mpr chosen) read tells⟩

/-! ### The layers -/

theorem get_ofTold (told : List (String × String)) (k : Setting) :
    (Config.ofTold told).get k = (Values.text? (Json.given told).reverse k.key).getD k.usual := by
  cases k <;> rfl

theorem get_ofTold_of_mem (once : (told.map Prod.fst).Nodup) {k : Setting} {s : String}
    (mem : (k.key, s) ∈ told) : (Config.ofTold told).get k = s := by
  rw [get_ofTold, (Json.text?_given once).mpr mem]
  rfl

theorem ofTold_perm (once : (told.map Prod.fst).Nodup) (same : told.Perm told') :
    Config.ofTold told = Config.ofTold told' := by
  have texts : Values.text? (Json.given told).reverse = Values.text? (Json.given told').reverse := by
    funext key
    refine Option.ext fun s => ?_
    rw [Json.text?_given once, Json.text?_given ((same.map Prod.fst).nodup_iff.mp once),
      same.mem_iff]
  unfold Config.ofTold Config.ofValues
  rw [texts]

theorem telling?_eq_some_iff {name value : String} :
    env.telling? name = some value ↔ env name = some value ∧ Telling value := by
  rw [Environment.telling?, Option.filter_eq_some_iff, Generation.Reply.telling_iff, Bool.not_eq_true']

theorem silent_iff {k : Setting} : Silent env k ↔ env.telling? k.variableName = none := by
  rw [Option.eq_none_iff_forall_not_mem]
  constructor
  · intro silent value told
    obtain ⟨set, telling⟩ := telling?_eq_some_iff.mp told
    exact silent value set telling
  · intro untold value set telling
    exact untold value (telling?_eq_some_iff.mpr ⟨set, telling⟩)

theorem get_override_of_telling {k : Setting} {value : String}
    (told : env.telling? k.variableName = some value) :
    k.Becomes value ((c.override env).get k) := by
  cases k with
  | endpoint =>
    show Trims value (((env.telling? Setting.endpoint.variableName).map Text.trim).getD c.endpoint)
    rw [told]
    exact Text.trims_trim value
  | exportDir => exact congrArg (Option.getD · c.exportDir) told
  | logFile => exact congrArg (Option.getD · c.logFile) told
  | logLevel => exact congrArg (Option.getD · c.logLevel) told

theorem get_override_of_silent {k : Setting} (untold : env.telling? k.variableName = none) :
    (c.override env).get k = c.get k := by
  cases k with
  | endpoint =>
    show ((env.telling? Setting.endpoint.variableName).map Text.trim).getD c.endpoint = c.endpoint
    rw [untold]
    rfl
  | exportDir => exact congrArg (Option.getD · c.exportDir) untold
  | logFile => exact congrArg (Option.getD · c.logFile) untold
  | logLevel => exact congrArg (Option.getD · c.logLevel) untold

/-- Each setting comes from its own layer. -/
theorem layered_override (once : (told.map Prod.fst).Nodup) (k : Setting) :
    Layered env told k (((Config.ofTold told).override env).get k) := by
  cases value : env.telling? k.variableName with
  | some value' =>
    obtain ⟨set, telling⟩ := telling?_eq_some_iff.mp value
    exact .environment set telling (get_override_of_telling value)
  | none =>
    have silent := silent_iff.mpr value
    rw [get_override_of_silent value, get_ofTold]
    cases text : Values.text? (Json.given told).reverse k.key with
    | some s => exact .file silent ((Json.text?_given once).mp text)
    | none =>
      refine .usual silent fun mem => ?_
      obtain ⟨m, hm, key⟩ := List.mem_map.mp mem
      have found : Values.text? (Json.given told).reverse m.1 = some m.2 :=
        (Json.text?_given once).mpr hm
      rw [key, text] at found
      cases found

theorem isWebAddress_iff (s : String) : Config.isWebAddress s = true ↔
    ∃ rest, s = "http://" ++ rest ∨ s = "https://" ++ rest := by
  have begins (scheme : String) : scheme.toList.isPrefixOf s.toList = true ↔
      ∃ rest, s = scheme ++ rest := by
    rw [List.isPrefixOf_iff_prefix]
    constructor
    · rintro ⟨rest, whole⟩
      refine ⟨String.ofList rest, String.toList_injective ?_⟩
      rw [String.toList_append, String.toList_ofList, whole]
    · rintro ⟨rest, rfl⟩
      exact ⟨rest.toList, String.toList_append.symm⟩
  rw [Config.isWebAddress, Bool.or_eq_true, begins, begins, exists_or]

theorem isAddress_iff (s : String) : Config.isWebAddress (Text.trim s) = true ↔ IsAddress s := by
  rw [isWebAddress_iff]
  constructor
  · rintro ⟨rest, begins⟩
    exact ⟨Text.trim s, rest, Text.trims_trim s, begins⟩
  · rintro ⟨t, rest, trims, begins⟩
    rw [← trims.eq_trim]
    exact ⟨rest, begins⟩

/-- White space around an address does not matter. -/
theorem isAddress_of_trims {s t : String} (trims : Trims s t) : IsAddress t ↔ IsAddress s := by
  rw [← isAddress_iff, ← isAddress_iff, (Text.trim_eq_self_iff t).mpr trims.bare, trims.eq_trim]

/-! ### Loading -/

theorem load_congr (same : Config.base tree' env = Config.base tree env) :
    Config.load tree' env = Config.load tree env := by
  unfold Config.load
  rw [same]

theorem load_of_error {e : ConfigError} (failed : Config.base tree env = .error e) :
    Config.load tree env = .error e := by
  rw [Config.load, failed]

theorem load_of_base (read : Config.base tree env = .ok c) :
    (IsAddress (c.override env).endpoint → Config.load tree env = .ok (c.override env)) ∧
    (¬ IsAddress (c.override env).endpoint →
      Config.load tree env = .error (.invalidEndpoint (c.override env).endpoint)) := by
  rw [← isAddress_iff, Config.load, read]
  constructor
  · intro address
    have sound : (c.override env).fault? = none := if_pos address
    simp only [sound]
  · intro other
    have fault : (c.override env).fault? = some (.invalidEndpoint (c.override env).endpoint) :=
      if_neg other
    simp only [fault]

/-- What loading gives is the file and the environment, layer by layer. -/
structure Merges (tree : Tree) (env : Environment) : Prop where
  unreadable : ∀ path, Chosen tree env (some path) →
    (∀ content, tree.readBytes path ≠ .ok (Text.encode content)) →
    ∃ failure, ∀ env' : Environment, env' "MATH2VISUAL_CONFIG" = env "MATH2VISUAL_CONFIG" →
      Config.load tree env' = .error (.unreadable path failure)
  malformed : ∀ path content, Chosen tree env (some path) →
    tree.readBytes path = .ok (Text.encode content) → Garbled content →
    ∃ fault, ∀ env' : Environment, env' "MATH2VISUAL_CONFIG" = env "MATH2VISUAL_CONFIG" →
      Config.load tree env' = .error (.malformed path fault)
  /-- Otherwise the file tells something, and each setting comes from its own layer. -/
  otherwise : (∀ path, Chosen tree env (some path) →
      ∃ content, tree.readBytes path = .ok (Text.encode content) ∧ ¬ Garbled content) →
    ∃ told, FileTells tree env told
  layered : ∀ told, FileTells tree env told → ∃ c : Config, (∀ k, Layered env told k (c.get k)) ∧
    (IsAddress c.endpoint → Config.load tree env = .ok c) ∧
    (¬ IsAddress c.endpoint → Config.load tree env = .error (.invalidEndpoint c.endpoint))
  unordered : ∀ path content content' told told' (tree' : Tree), Chosen tree env (some path) →
    Chosen tree' env (some path) → tree.readBytes path = .ok (Text.encode content) →
    tree'.readBytes path = .ok (Text.encode content') → ObjectText (Json.texts told) content →
    ObjectText (Json.texts told') content' → told.Perm told' → ¬ Garbled content →
    Config.load tree' env = Config.load tree env
  overridden : ∀ told value, FileTells tree env told → env "MATH2VISUAL_ENDPOINT" = some value →
    Telling value → ((∃ c, Config.load tree env = .ok c) ↔ IsAddress value)

/-- **Settings are loaded layer by layer.** A file that is chosen and cannot be read as text, or
holds no settings, is an error whatever the environment has set besides. Otherwise the first layer
that says something of a setting decides it, the order of the keys in the file is of no account, and
the endpoint that has come out is all that is checked. -/
theorem layered_merge (tree : Tree) (env : Environment) : Merges tree env where
  unreadable path chosen unread := by
    obtain ⟨failure, failed⟩ := ofFile_of_unreadable unread
    refine ⟨failure, fun env' same => load_of_error ?_⟩
    rw [base_congr same, base_of_chosen chosen, failed]
  malformed path content chosen read garbled := by
    obtain ⟨fault, failed⟩ := ofFile_of_garbled read garbled
    refine ⟨fault, fun env' same => load_of_error ?_⟩
    rw [base_congr same, base_of_chosen chosen, failed]
  otherwise := exists_fileTells
  layered told tells :=
    ⟨_, layered_override tells.nodup, load_of_base (base_of_fileTells tells)⟩
  unordered path content content' told told' tree' chosen chosen' read read' object object' same
      clear := by
    obtain ⟨others, found⟩ := exists_tells clear
    obtain ⟨-, known, once⟩ := found.of_objectText object
    rw [Json.keys_texts] at known once
    have tells : Tells keys told content :=
      .object object (fun m hm => known m.1 (List.mem_map_of_mem hm)) once
    have tells' := tells.perm object same object'
    refine load_congr ?_
    rw [base_of_chosen chosen, base_of_chosen chosen', ofFile_of_tells read tells,
      ofFile_of_tells read' tells', ofTold_perm once same]
  overridden told value tells set telling := by
    have wins : env.telling? Setting.endpoint.variableName = some value :=
      telling?_eq_some_iff.mpr ⟨set, telling⟩
    have trims : Trims value ((Config.ofTold told).override env).endpoint :=
      get_override_of_telling wins
    obtain ⟨sound, faulty⟩ := load_of_base (base_of_fileTells tells)
    rw [← isAddress_of_trims trims]
    constructor
    · rintro ⟨c, loaded⟩
      by_contra other
      rw [faulty other] at loaded
      cases loaded
    · exact fun address => ⟨_, sound address⟩

end ProblemVisualizer.Settings
