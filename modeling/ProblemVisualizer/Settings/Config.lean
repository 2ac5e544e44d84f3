import ProblemVisualizer.Files.Tree
import ProblemVisualizer.Json.Record
import ProblemVisualizer.Text.Blank
import ProblemVisualizer.Text.Quoted

/-! The client's settings.

Settings come in layers, and later ones win: the defaults, a file, and the
variables of the environment. A file that a variable names must be there; the
usual one may be missing. What comes out must have an endpoint that is an
address of the web. -/
namespace ProblemVisualizer.Settings

open Files (Failure Tree)
open Text (trim isBlank)

structure Config where
  /-- The address that requests are sent to. -/
  endpoint : String := "http://localhost:5001/api/generate"
  /-- The directory that drawings are saved to. -/
  exportDir : String := "."
  logFile : String := "math2visual.log"
  logLevel : String := "info"
deriving DecidableEq, Repr

inductive ConfigError where
  | unreadable (path : String) (failure : Failure)
  /-- The file is not a record of settings; `fault` says where it goes wrong. -/
  | malformed (path : String) (fault : String)
  | invalidEndpoint (endpoint : String)
deriving DecidableEq, Repr

def ConfigError.message : ConfigError → String
  | unreadable path failure => "could not read config file " ++ path ++ ": " ++ failure.message
  | malformed path fault => "invalid config file " ++ path ++ ": " ++ fault
  | invalidEndpoint endpoint =>
    "generation endpoint must be an http(s) URL, got " ++ Text.quoted endpoint

/-- The variables of the environment. -/
abbrev Environment := String → Option String

/-- The variable that names the file. -/
def fileVariable : String := "MATH2VISUAL_CONFIG"

/-- The file that is read if it exists and no other is named. -/
def usualFile : String := "math2visual.json"

/-- A variable that is set to more than white space. -/
def Environment.telling? (env : Environment) (name : String) : Option String :=
  (env name).filter fun value => !isBlank value

namespace Config

/-! ### The file -/

def shape : Json.Shape where
  expected := "struct Config"
  fields := [⟨"endpoint", "a string"⟩, ⟨"export_dir", "path string"⟩, ⟨"log_file", "path string"⟩,
    ⟨"log_level", "a string"⟩]
  nullable := false
  closed := true

/-- Settings by the texts of a record; those it leaves out have their defaults. -/
def ofValues (values : Json.Values) : Config :=
  let usual : Config := {}
  { endpoint := (values.text? "endpoint").getD usual.endpoint
    exportDir := (values.text? "export_dir").getD usual.exportDir
    logFile := (values.text? "log_file").getD usual.logFile
    logLevel := (values.text? "log_level").getD usual.logLevel }

def parse (content : String) : Except String Config := (Json.parseRecord shape content).map ofValues

def ofFile (tree : Tree) (path : String) : Except ConfigError Config :=
  match tree.readText path with
  | .error failure => .error (.unreadable path failure)
  | .ok content =>
    match parse content with
    | .error fault => .error (.malformed path fault)
    | .ok config => .ok config

/-- The file that settings are read from, if there is one. -/
def file? (tree : Tree) (env : Environment) : Option String :=
  match env fileVariable with
  | some path => some path
  | none => if tree.exists? usualFile then some usualFile else none

/-- The settings before the environment is looked at. -/
def base (tree : Tree) (env : Environment) : Except ConfigError Config :=
  match file? tree env with
  | some path => ofFile tree path
  | none => .ok {}

/-! ### The environment -/

/-- Settings with those that the environment tells in their place. -/
def override (c : Config) (env : Environment) : Config :=
  { endpoint := ((env.telling? "MATH2VISUAL_ENDPOINT").map trim).getD c.endpoint
    exportDir := (env.telling? "MATH2VISUAL_EXPORT_DIR").getD c.exportDir
    logFile := (env.telling? "MATH2VISUAL_LOG_FILE").getD c.logFile
    logLevel := (env.telling? "MATH2VISUAL_LOG").getD c.logLevel }

/-! ### The check -/

/-- Whether a text starts like an address of the web. -/
def isWebAddress (s : String) : Bool :=
  "http://".toList.isPrefixOf s.toList || "https://".toList.isPrefixOf s.toList

/-- The fault of the settings, if they have one. White space around the endpoint is none. -/
def fault? (c : Config) : Option ConfigError :=
  if isWebAddress (trim c.endpoint) then none else some (.invalidEndpoint c.endpoint)

def load (tree : Tree) (env : Environment) : Except ConfigError Config :=
  match base tree env with
  | .error e => .error e
  | .ok c =>
    let c := c.override env
    match c.fault? with
    | some e => .error e
    | none => .ok c

end Config

end ProblemVisualizer.Settings
