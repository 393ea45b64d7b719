import TextChain.Stage.Program
import TextChain.Tool.Concatenate
import TextChain.Tool.Head
import TextChain.Tool.Printf
import TextChain.Tool.Shell.Run
import TextChain.Tool.Sort.Run
import TextChain.Tool.StreamEdit.Run
import TextChain.Tool.Substitute

/-!
# Starting programs

Programs are found by their names or paths and started with arguments, an environment and an input.
A shell starts further programs. `Programs.usual` and `Programs.ofWorkspace` say what these programs do
when a stage starts them. Other programs are not found, and files that a program writes are not kept.
-/

namespace TextChain.Tool

/-- The programs that start no others, by their names. -/
def plainTool? (name : String) : Option (Invocation → Outcome) :=
  match name with
  | "cat" => some Concatenate.run
  | "false" => some fun i => i.finishUnread 1 [] []
  | "head" => some Head.run
  | "printf" => some Printf.run
  | "sed" => some StreamEdit.run
  | "sort" => some Sort.run
  | "tr" => some Substitute.run
  | "true" => some fun i => i.finishUnread 0 [] []
  | _ => none

/-- The greatest number of characters of an argument or of a variable with its value. -/
def argumentLimit : Nat := 131071

/-- Whether an argument or a variable is too long. -/
def Invocation.exceeds (i : Invocation) : Bool :=
  i.args.any (argumentLimit < ·.length) ||
    i.environment.any fun (name, value) => argumentLimit < name.length + 1 + value.length

/-- Starts the program at a path. The first argument bounds the depth of programs that start others. -/
def startAt : Nat → Raw → Invocation → Except FileError Outcome
  | 0, _, _ => .error .notFound
  | fuel + 1, path, i => do
    i.tree.startable path
    if i.exceeds then .error .argumentTooLong
    else
      let name := Tree.programName path
      if name = "sh" then .ok (Shell.run (startAt fuel) i)
      else
        match plainTool? name with
        | some tool => .ok (tool i)
        | none => .error .notFound

/-- The greatest depth of programs that start others. -/
def startDepth : Nat := 1000

/-- The directories and variables among which programs run. -/
structure Surroundings where
  tree : Tree
  environment : List (Raw × Raw)

/-- Surroundings without files or variables of their own. -/
def Surroundings.usual : Surroundings :=
  ⟨.initial, [(rawOf "PATH", Shell.usualPath)]⟩

instance : Inhabited Surroundings := ⟨.usual⟩

def Surroundings.ofWorkspace (w : Workspace) (values : List (String × String)) : Surroundings where
  tree := .ofWorkspace w
  environment := usual.environment ++ values.map fun (name, value) => (rawOf name, rawOf value)

inductive StartError
  | file (error : FileError)
  /-- Its name or an argument has a character that none can have. -/
  | zeroByte
deriving DecidableEq, Repr

/-- The text shown for a program that does not start. -/
def StartError.message : StartError → String
  | .file error => error.message
  | .zeroByte => "nul byte found in provided data"

/-- Starts a program with arguments, one more variable and an input. -/
def start (around : Surroundings) (program : String) (args : List String) (name value input : String) :
    Except StartError Outcome :=
  if (program :: args).any fun text => text.toList.contains '\x00' then .error .zeroByte
  else
    let command := rawOf program
    let others := around.environment.filter (·.1 ≠ rawOf name)
    let i : Invocation :=
      ⟨command, args.map rawOf, others ++ [(rawOf name, rawOf value)], rawOf input, around.tree⟩
    (do startAt startDepth (← around.tree.program command) i).mapError .file

/-- The programs that find these surroundings. -/
def Surroundings.programs (around : Surroundings) : Programs where
  start program args assignment input :=
    match start around program args assignment.1 assignment.2 input with
    | .error e => .notStarted e.message
    | .ok outcome =>
      .ended (outcome.ending = .exited 0) outcome.ending.text (bytesOf outcome.output)
        (bytesOf outcome.errors) none

end TextChain.Tool

namespace TextChain.Programs

/-- The programs without files or variables of their own. -/
def usual : Programs := Tool.Surroundings.usual.programs

/-- The programs in a workspace with some variables. -/
def ofWorkspace (w : Workspace) (values : List (String × String)) : Programs :=
  (Tool.Surroundings.ofWorkspace w values).programs

end TextChain.Programs
