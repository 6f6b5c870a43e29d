import AtlasManifests.ControlPlane.Http
import AtlasManifests.Definition.Curated
import AtlasManifests.Export.Run

/-! # The command line

What the words of a command line ask for, and what is done about it. Settings of the
command line win over those of a configuration file. Nothing is written before the
whole export is there, and no call is made for a configuration with a fault.
-/
namespace AtlasManifests.CommandLine

/-- What can be set on the command line. -/
inductive Setting where
  | config
  | project
  | space
  | output
  | token
  deriving DecidableEq

/-- What the command line may ask for in place of an export. -/
inductive Notice where
  | help
  | version
  deriving DecidableEq

/-- What an option is for. -/
inductive Purpose where
  | setting (setting : Setting)
  | notice (notice : Notice)
  deriving DecidableEq

/-- The options by their long names. -/
def longOptions : List (String × Purpose) :=
  [("config", .setting .config), ("project-id", .setting .project),
    ("namespace", .setting .space), ("output", .setting .output),
    ("access-token", .setting .token), ("help", .notice .help), ("version", .notice .version)]

/-- The options by their letters. -/
def shortOptions : List (Char × Purpose) :=
  [('c', .setting .config), ('p', .setting .project), ('n', .setting .space),
    ('o', .setting .output), ('h', .notice .help), ('V', .notice .version)]

/-- What has been set. -/
structure Settings where
  config : Option String := none
  project : Option String := none
  space : Option String := none
  output : Option String := none
  token : Option String := none
  deriving DecidableEq

namespace Settings

/-- The value of a setting. -/
def get? (s : Settings) : Setting → Option String
  | .config => s.config
  | .project => s.project
  | .space => s.space
  | .output => s.output
  | .token => s.token

/-- Whether a text can be the value of a setting. A path is not empty. -/
def accepts (setting : Setting) (value : String) : Bool :=
  match setting with
  | .config | .output => !value.isEmpty
  | _ => true

/-- Give a setting a value, which it must not have yet. -/
def set? (s : Settings) (setting : Setting) (value : String) : Option Settings :=
  if (s.get? setting).isSome || !accepts setting value then none
  else
    match setting with
    | .config => some { s with config := value }
    | .project => some { s with project := value }
    | .space => some { s with space := value }
    | .output => some { s with output := value }
    | .token => some { s with token := value }

end Settings

/-- A word of a command line. -/
inductive Word where
  /-- Two dashes: no option follows. -/
  | escape
  /-- An option by its long name, with a value after an equals sign. -/
  | long (name : String) (value : Option String)
  /-- An option by its letter, with what is written together with it. -/
  | short (letter : Char) (attached : List Char)
  | plain (text : String)
  deriving DecidableEq

namespace Word

/-- The word that a text is. A dash by itself is a plain word. -/
def ofText (s : String) : Word :=
  match s.toList with
  | ['-', '-'] => .escape
  | '-' :: '-' :: rest =>
    let name := rest.takeWhile (· != '=')
    .long (String.ofList name)
      (match rest.drop name.length with
      | [] => none
      | _ :: value => some (String.ofList value))
  | '-' :: letter :: rest => .short letter rest
  | _ => .plain s

/-- The value that is written together with a letter, of which an equals sign is no part. -/
def attachedValue? : List Char → Option String
  | [] => none
  | '=' :: value => some (String.ofList value)
  | value => some (String.ofList value)

/-- What an option is for, and its value if it is in the same word. -/
def option? : Word → Option (Purpose × Option String)
  | long name value => do
    let purpose ← longOptions.lookup name
    match purpose, value with
    | .notice _, some _ => none
    | _, _ => return (purpose, value)
  | short letter attached => do
    let purpose ← shortOptions.lookup letter
    return (purpose, attachedValue? attached)
  | _ => none

end Word

/-- What a command line asks for. -/
inductive Demand where
  | export (settings : Settings)
  | notice (notice : Notice)
  | misuse
  deriving DecidableEq

/-- What the words of a command line ask for, given what has been set before them. The
first notice or misuse decides. -/
def demand (s : Settings) : List String → Demand
  | [] => .export s
  | word :: rest =>
    if Word.ofText word = .escape then
      if rest.isEmpty then .export s else .misuse
    else
      match (Word.ofText word).option?, rest with
      | some (.notice notice, _), _ => .notice notice
      | some (.setting setting, some value), rest =>
        match s.set? setting value with
        | some s => demand s rest
        | none => .misuse
      | some (.setting setting, none), value :: rest =>
        match Word.ofText value, s.set? setting value with
        | .plain _, some s => demand s rest
        | _, _ => .misuse
      | _, _ => .misuse

/-! ## What is done -/

/-- What a run of the program can see. -/
structure Surroundings where
  /-- The contents of files. -/
  file : String → Option String
  /-- The token that the environment holds. -/
  token : Option String
  send : Transport
  catalogue : Catalogue := .embedded
  /-- The words that make names distinct. -/
  word : Nat → String

/-- Why a run of the program fails. -/
inductive Failure where
  /-- A configuration file cannot be read. -/
  | loading (path : String)
  /-- A file cannot be written. -/
  | writing (path : String)
  | export (error : Error)
  deriving DecidableEq

/-- How a run of the program ends. -/
inductive Outcome where
  | printed (text : String)
  /-- The text goes to a file. -/
  | saved (path text : String)
  | failed (failure : Failure)
  | misused
  deriving DecidableEq

namespace Failure

/-- The wording of a failure. -/
def message : Failure → String
  | loading path => "loading " ++ path
  | writing path => "writing " ++ path
  | .export error => error.message

end Failure

/-- A run of the program: its calls of the control plane, and its end. -/
structure Report where
  calls : List Call
  outcome : Outcome

namespace Report

/-- A run without any calls. -/
def quiet (outcome : Outcome) : Report := ⟨[], outcome⟩

end Report

/-- The name of the program. -/
def programName : String := "atlas-k8s-exporter"

/-- The version of the program. -/
def programVersion : String := "0.1.0"

/-- How the program is used. -/
def usage : String :=
  "Export a MongoDB Atlas project as Atlas Kubernetes Operator manifests\n\n" ++
  "Usage: " ++ programName ++ " [OPTIONS] --access-token <ACCESS_TOKEN>\n\n" ++
  "Options:\n" ++
  "  -c, --config <CONFIG>              Export configuration file (YAML)\n" ++
  "  -p, --project-id <PROJECT_ID>      " ++
    "Atlas project id; overrides the configuration file\n" ++
  "  -n, --namespace <NAMESPACE>        " ++
    "Target namespace; overrides the configuration file\n" ++
  "  -o, --output <OUTPUT>              Write manifests to this file instead of stdout\n" ++
  "      --access-token <ACCESS_TOKEN>  " ++
    "Atlas Admin API access token [env: ATLAS_ACCESS_TOKEN]\n" ++
  "  -h, --help                         Print help\n" ++
  "  -V, --version                      Print version\n"

namespace Notice

/-- The text of a notice. -/
def text : Notice → String
  | help => usage
  | version => programName ++ " " ++ programVersion ++ "\n"

end Notice

namespace Settings

variable (s : Settings) (env : Surroundings)

/-- The configuration of an export: that of the file, with the settings over it. -/
def merged : Except Failure Config := do
  let config ← match s.config with
    | none => .ok {}
    | some path => (Config.ofFile (env.file path)).mapError fun _ => .loading path
  let config := { config with
    projectId := s.project.getD config.projectId
    space := s.space.getD config.space }
  match config.fault? with
  | none => return config
  | some fault => .error (.export (.config fault))

/-- The job of exporting with a configuration. -/
def job (config : Config) (token : String) : Job where
  controlPlane := Endpoint.controlPlane ⟨config.baseUrl, token⟩ env.send
  config := config
  catalogue := env.catalogue
  word := env.word

/-- Export, and end with the stream where it is wanted. -/
def report (token : String) : Report :=
  match s.merged env with
  | .error failure => .quiet (.failed failure)
  | .ok config =>
    let run := (job env config token).exportStream
    ⟨run.events.filterMap Event.call?,
      match run.result, s.output with
      | .error e, _ => .failed (.export e)
      | .ok stream, none => .printed stream
      | .ok stream, some path => .saved path stream⟩

end Settings

/-- A run of the program on the words of a command line. Without a token there is
nothing to be done. -/
def report (env : Surroundings) (words : List String) : Report :=
  match demand {} words with
  | .misuse => .quiet .misused
  | .notice notice => .quiet (.printed notice.text)
  | .export settings =>
    match settings.token <|> env.token with
    | none => .quiet .misused
    | some token => settings.report env token

/-! ## How it ends -/

/-- What is seen of a run once it has ended. -/
structure Ending where
  status : UInt32
  /-- What goes to the standard output. -/
  output : String := ""
  failure : Option Failure := none
  deriving DecidableEq

namespace Outcome

/-- What is seen of an outcome, given whether a file to be saved could be written. -/
def ending (written : Bool) : Outcome → Ending
  | printed text => { status := 0, output := text }
  | saved path _ =>
    if written then { status := 0 } else { status := 1, failure := some (.writing path) }
  | failed failure => { status := 1, failure }
  | misused => { status := 2 }

/-- What is to be written to a file: its path and the text. -/
def file? : Outcome → Option (String × String)
  | saved path text => some (path, text)
  | _ => none

/-- The outcome of printing the definitions of the curated kinds. -/
def definitions : Outcome := .printed Curated.stream

end Outcome

end AtlasManifests.CommandLine
