import TextChain.Settings.Key
import TextChain.Settings.Variables
import TextChain.Toml.Document
import TextChain.Workspace

/-!
# Loading a configuration

A configuration is put together from files and the environment. A file that the user names must exist;
without one the default files are read that there are. Each source is laid over the ones before it,
and the environment over all files.
-/

namespace TextChain.Settings

open Text.Utf8 (Bytes)

inductive LoadError
  /-- There is no file of this name, with or without a suffix. -/
  | missing (path : String)
  /-- The suffix of a file tells no format. -/
  | unknownFormat (path : String)
  /-- A file has bytes that encode no text. -/
  | notText
  | malformed (path : String)
  | unsuitable
deriving DecidableEq, Repr

namespace LoadError

def message : LoadError → String
  | .unsuitable => "Failed to deserialize config"
  | _ => "Failed to read configuration"

/-- Why it could not be done. -/
def reason : LoadError → String
  | .missing path => s!"configuration file \"{path}\" not found"
  | .unknownFormat path => s!"configuration file \"{path}\" is not of a registered file format"
  | .notText => FileError.notText.message
  | .malformed path => s!"{path} cannot be parsed"
  | .unsuitable => "a setting has an unsuitable value"

def logLine (e : LoadError) : String :=
  s!"{e.message}: {e.reason}"

end LoadError

/-! ### Formats -/

inductive Format
  | json
  | toml
deriving DecidableEq, Repr

namespace Format

def all : List Format := [.toml, .json]

def suffix : Format → String
  | .json => "json"
  | .toml => "toml"

/-- The format that goes with the suffix of a path. -/
def ofPath? (path : String) : Option Format :=
  all.find? fun f => Path.extension? path = some f.suffix

/-- A text without a byte order mark at its start. -/
def dropMark (text : String) : String :=
  match text.toList with
  | '\uFEFF' :: rest => String.ofList rest
  | _ => text

/-- Reads a text: its settings by their keys. Only a TOML text may start with a byte order mark. -/
def parse? (text : String) : Format → Option (List (String × Setting))
  | .toml => Toml.parse? (dropMark text)
  | .json =>
    match (Json.parse? text).map Setting.ofJson with
    | some (.table entries) => some entries
    | _ => none

end Format

/-! ### Files -/

/-- The default files, without their suffixes. -/
def defaultPaths : List String := ["catena", "config/catena"]

/-- The files that a path may mean: the file itself, or one with a suffix. -/
def candidates (path : String) : List String :=
  path :: Format.all.filterMap fun f => Path.withSuffix? path ("." ++ f.suffix)

/-- The file that a path means, and its format. -/
def locate (files : FileReader) (path : String) : Except LoadError (String × Format) :=
  match (candidates path).find? files.isFile with
  | none => .error (.missing path)
  | some found =>
    match Format.ofPath? found with
    | none => .error (.unknownFormat found)
    | some format => .ok (found, format)

def readFile (files : FileReader) (path : String) : Except LoadError (String × Format × String) := do
  let (found, format) ← locate files path
  match files.text found with
  | .ok text => .ok (found, format, text)
  | .error _ => .error .notText

def settingsOf (path : String) (format : Format) (text : String) :
    Except LoadError (List (String × Setting)) :=
  match format.parse? text with
  | some settings => .ok settings
  | none => .error (.malformed path)

/-- The settings of a file that must exist. -/
def required (files : FileReader) (path : String) :
    Except LoadError (List (String × Setting)) := do
  let (found, format, text) ← readFile files path
  settingsOf found format text

/-- The settings of a file that may be missing. If it cannot be read it counts as missing. -/
def optional (files : FileReader) (path : String) :
    Except LoadError (List (String × Setting)) :=
  match readFile files path with
  | .ok (found, format, text) => settingsOf found format text
  | .error _ => .ok []

/-- The settings of all files: of the one that the user names, or else of the default ones. -/
def fileSources (files : FileReader) (path : Option String) :
    Except LoadError (List (List (String × Setting))) :=
  match path with
  | some path => do
    let settings ← required files path
    .ok [settings]
  | none => defaultPaths.mapM (optional files)

/-! ### Loading -/

/-- The file of assignments that adds to the environment. -/
def variablesPath : String := ".env"

/-- The environment with the assignments of the file for them. -/
def effectiveVariables (files : FileReader) (env : Variables) : Variables :=
  match files variablesPath with
  | .ok contents => env.assignAll contents
  | .error _ => env

def load (files : FileReader) (path : Option String) (env : Variables) :
    Except LoadError Config := do
  let sources ← fileSources files path
  let all := sources ++ [(effectiveVariables files env).settings]
  match (all.foldl mergeSource (.table [])).entries |> Setting.config? with
  | some config => .ok config
  | none => .error .unsuitable

end TextChain.Settings
