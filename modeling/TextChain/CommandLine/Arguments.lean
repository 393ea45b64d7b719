import TextChain.Settings.Pairs

/-!
# Command line arguments

Arguments are read from left to right, and the first one that makes no sense ends the reading. So a
question for the version is answered only if nothing in front of it is wrong, and whatever comes after
it does not count.
-/

namespace TextChain.CommandLine

/-- What a command line asks to compile. -/
structure Arguments where
  input : String
  /-- The extension that stands in for that of the file. -/
  ext : Option String
  mappings : List (String × String)
  /-- Directives, as pairs. -/
  options : List (String × String)
  /-- Whether renderers between stages are rendered. -/
  autoForce : Bool
  config : Option String
  output : Option String
deriving DecidableEq, Repr

inductive Request
  | version
  | compile (arguments : Arguments)
deriving DecidableEq, Repr

/-! ### Words -/

inductive Valued
  | ext
  | map
  | option
  | config
  | output
deriving DecidableEq, Repr

/-- What an argument is by itself. -/
inductive Word
  | file
  /-- The sign that only files follow. -/
  | filesOnly
  | version
  | autoForce
  | valued (name : Valued) (attached : Option String)
  | unknown
deriving DecidableEq, Repr

def Valued.ofName? : String → Option Valued
  | "ext" => some .ext
  | "map" => some .map
  | "option" => some .option
  | "config" => some .config
  | "output" => some .output
  | _ => none

/-- Reads an argument that starts with two hyphens, after them. A value follows an equals sign. -/
def Word.ofLong (cs : List Char) : Word :=
  let name := String.ofList (cs.takeWhile (· ≠ '='))
  let attached := match cs.dropWhile (· ≠ '=') with
    | [] => none
    | _ :: value => some (String.ofList value)
  match Valued.ofName? name with
  | some found => .valued found attached
  | none =>
    if attached ≠ none then .unknown
    else if name = "auto-force" then .autoForce
    else if name = "version" then .version
    else .unknown

/-- Reads an argument that starts with one hyphen, after it. A value may follow at once or after an
equals sign. -/
def Word.ofShort : List Char → Word
  | 'V' :: _ => .version
  | ['o'] => .valued .output none
  | 'o' :: '=' :: value => .valued .output (some (String.ofList value))
  | 'o' :: value => .valued .output (some (String.ofList value))
  | _ => .unknown

/-- Reads an argument. A single hyphen is a file. -/
def Word.parse (arg : String) : Word :=
  match arg.toList with
  | ['-', '-'] => .filesOnly
  | '-' :: '-' :: cs => .ofLong cs
  | ['-'] => .file
  | '-' :: cs => .ofShort cs
  | _ => .file

/-- Whether an argument can be the value of the option in front of it. -/
def isValue (arg : String) : Bool :=
  arg = "-" || !arg.startsWith "-"

/-! ### Reading -/

structure Given where
  input : Option String
  rest : Arguments

namespace Given

def nothing : Given :=
  ⟨none, ⟨"", none, [], [], false, none, none⟩⟩

/-- Sets a path that may be given once and is not empty. -/
def path? (old : Option String) (new : String) : Option (Option String) :=
  if old = none ∧ new ≠ "" then some (some new) else none

/-- The file, once. -/
def file? (g : Given) (arg : String) : Option Given :=
  (path? g.input arg).map fun input => { g with input }

/-- The wish to render between stages, once. -/
def autoForce? (g : Given) : Option Given :=
  if g.rest.autoForce then none else some { g with rest := { g.rest with autoForce := true } }

/-- An option with its value. Only pairs may be given more than once. -/
def valued? (g : Given) (name : Valued) (value : String) : Option Given :=
  let a := g.rest
  (match name with
    | .ext => if a.ext = none then some { a with ext := some value } else none
    | .map => (Settings.parsePair value).toOption.map fun pair =>
        { a with mappings := a.mappings ++ [pair] }
    | .option => (Settings.parsePair value).toOption.map fun pair =>
        { a with options := a.options ++ [pair] }
    | .config => (path? a.config value).map fun config => { a with config }
    | .output => (path? a.output value).map fun output => { a with output }).map
    fun rest => { g with rest }

/-- What is asked for when nothing follows. -/
def request? (g : Given) : Option Request :=
  g.input.map fun input => .compile { g.rest with input }

def read? (g : Given) : List String → Option Request
  | [] => g.request?
  | arg :: rest =>
    match Word.parse arg with
    | .filesOnly => (rest.foldlM file? g).bind request?
    | .file => (g.file? arg).bind fun g => g.read? rest
    | .version => some .version
    | .autoForce => g.autoForce?.bind fun g => g.read? rest
    | .valued name (some value) => (g.valued? name value).bind fun g => g.read? rest
    | .valued name none =>
      match rest with
      | [] => none
      | value :: rest =>
        if isValue value then (g.valued? name value).bind fun g => g.read? rest else none
    | .unknown => none

end Given

/-- What a command line asks for; none if it makes no sense. -/
def Request.parse? (args : List String) : Option Request :=
  Given.nothing.read? args

end TextChain.CommandLine
