import TextChain.Tool.Shell.Condition
import TextChain.Tool.Shell.Read
import TextChain.Tool.Shell.Redirect

/-!
# Commands of the shell

What the commands that are part of the shell have in common: how they write, read their flags and
numbers, and show values so that a script could read them again.
-/

namespace TextChain.Tool.Shell

/-- A command of the shell: from its arguments to its status. -/
abbrev Builtin := Engine → List Raw → Action Nat

/-- Writes the output of a command of the shell. -/
def emit (text : Raw) : Action Unit :=
  modify fun s =>
    if text = [] || s.writable 1 then s.write 1 text else { s with unwritten := true }

/-- Writes a text to the error output as it is. -/
def note (text : Raw) : Action Unit :=
  modify fun s => s.write 2 text

/-- The number that a word is, which must not be negative. -/
def countOf (word : Raw) : Action Nat := do
  match Condition.number word with
  | .ok n =>
    if 0 ≤ n && n ≤ 0x7FFFFFFF then return n.toNat
    else giveUp (rawOf "Illegal number: " ++ word)
  | .error message => giveUp message

/-- Reads flags: letters, and for each whether it takes a value. The number bounds that of flags. -/
def readFlagsWithin (letters : List (Char × Bool)) : Nat → List Raw →
    Action (List (Char × Option Raw) × List Raw)
  | 0, args => return ([], args)
  | fuel + 1, args => do
    match args with
    | ['-', '-'] :: rest => return ([], rest)
    | ('-' :: c :: cs) :: rest =>
      match letters.lookup c, cs, rest with
      | none, _, _ => giveUp (rawOf "Illegal option -" ++ [c])
      | some false, [], rest =>
        let (more, operands) ← readFlagsWithin letters fuel rest
        return ((c, none) :: more, operands)
      | some false, cs, rest =>
        let (more, operands) ← readFlagsWithin letters fuel (('-' :: cs) :: rest)
        return ((c, none) :: more, operands)
      | some true, [], value :: rest =>
        let (more, operands) ← readFlagsWithin letters fuel rest
        return ((c, some value) :: more, operands)
      | some true, [], [] => giveUp (rawOf "No arg for -" ++ c :: rawOf " option")
      | some true, cs, rest =>
        let (more, operands) ← readFlagsWithin letters fuel rest
        return ((c, some cs) :: more, operands)
    | args => return ([], args)

/-- Reads flags: letters, and for each whether it takes a value. -/
def readFlags (letters : List (Char × Bool)) (args : List Raw) :
    Action (List (Char × Option Raw) × List Raw) :=
  readFlagsWithin letters (args.flatten.length + args.length) args

def flagsOf (letters : String) (args : List Raw) : Action (List Char × List Raw) := do
  let (given, operands) ← readFlags (letters.toList.map (·, false)) args
  return (given.map Prod.fst, operands)

/-- A value between quotes, where quotes in it stand between quotes of the other kind. The first
argument bounds the number of its parts. -/
def quoteParts : Nat → Raw → Raw
  | 0, _ => []
  | fuel + 1, cs =>
    let text := cs.takeWhile (· ≠ '\'')
    let rest := cs.drop text.length
    let quotes := rest.takeWhile (· = '\'')
    let after := rest.drop quotes.length
    let shown := ['\''] ++ text ++ ['\'']
    if rest = [] then shown
    else
      let shown := shown ++ ['"'] ++ quotes ++ ['"']
      if after = [] then shown else shown ++ quoteParts fuel after

def quoteValue (cs : Raw) : Raw :=
  quoteParts (cs.length + 1) cs

/-- Names with values in order, one on a line, behind a word. -/
def showValues (word : Raw) (values : List (Raw × Option Raw)) : Raw :=
  let sorted := values.mergeSort fun a b => decide (a.1 < b.1) || a.1 = b.1
  endEach '\n' <| sorted.map fun (name, value?) =>
    word ++ name ++ match value? with
      | some value => '=' :: quoteValue value
      | none => []

/-- Divides an argument such as `name=value`. -/
def divideAssignment (arg : Raw) : Raw × Option Raw :=
  let name := arg.takeWhile (· ≠ '=')
  (name, if name.length = arg.length then none else some (arg.drop (name.length + 1)))

/-! ### Names of commands -/

/-- The commands of the shell that are no special ones. -/
def regularNames : List String :=
  ["[", "alias", "bg", "cd", "chdir", "command", "echo", "false", "fg", "getopts", "hash", "jobs",
   "kill", "printf", "pwd", "read", "test", "true", "type", "ulimit", "umask", "unalias", "wait"]

/-- The path of the program that a command means, looked for in the directories of a list. -/
def State.programPath (s : State) (name : Raw) : Except FileError Raw :=
  if name.contains '/' then (s.tree.startable name).map fun _ => name
  else
    let directories := ((s.value? (rawOf "PATH")).getD []).splitOn ':'
    let paths := directories.map fun d => if d = [] then name else d ++ ['/'] ++ name
    match paths.find? fun path => (s.tree.startable path).isOk with
    | some path => .ok path
    | none =>
      .error (if paths.any fun path => (s.tree.find path).isOk then .denied else .notFound)

inductive Meaning
  | special
  | function (body : Command)
  | regular
  | program (path : Raw)
  | fault (error : FileError)

/-- What a command means; functions may be left out. -/
def State.meaning (s : State) (withFunctions : Bool) (name : Raw) : Meaning :=
  let function? := if withFunctions then s.functions.lookup name else none
  if specialNames.contains (String.ofList name) then .special
  else
    match function? with
    | some body => .function body
    | none =>
      if regularNames.contains (String.ofList name) then .regular
      else
        match s.programPath name with
        | .ok path => .program path
        | .error error => .fault error

/-- The reason for which a command cannot run, as the shell puts it. -/
def commandFault (error : FileError) : Raw :=
  rawOf (if error = .notFound || error = .notDirectory then "not found" else error.reason)

end TextChain.Tool.Shell
