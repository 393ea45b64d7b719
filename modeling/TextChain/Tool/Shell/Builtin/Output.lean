import TextChain.Tool.Printf
import TextChain.Tool.Shell.Builtin.Basic

/-!
# Commands that write, test and move

Writing texts, testing conditions, and the directory in which the shell works.
-/

namespace TextChain.Tool.Shell

def nothingCommand (status : Nat) : Builtin := fun _ _ => return status

/-- The text that a list of words is written as, and whether it ends the output at once. -/
def echoText : List Raw → Raw × Bool
  | [] => ([], false)
  | word :: rest =>
    let (text, stopped) := Printf.unescape .shell (word.length + 1) word
    if stopped then (text, true)
    else if rest = [] then (text, false)
    else
      let (more, stopped) := echoText rest
      (text ++ ' ' :: more, stopped)

def echoCommand : Builtin := fun _ args => do
  let silent := args.head? = some (rawOf "-n")
  let (text, stopped) := echoText (if silent then args.tail else args)
  emit (if silent || stopped then text else text ++ ['\n'])
  return 0

def printfCommand : Builtin := fun _ args => do
  match (if args.head? = some ['-', '-'] then args.tail else args) with
  | [] => giveUp (rawOf "usage: printf format [arg ...]")
  | format :: args =>
    let s := Printf.print .shell format args
    s.messages.forM complain
    emit s.output
    return s.stopped.getD (if s.faulty then 1 else 0)

def testCommand (inBrackets : Bool) : Builtin := fun _ args => do
  if inBrackets && args.getLast? ≠ some [']'] then giveUp (rawOf "missing ]")
  else
    match Condition.value (← get).tree (if inBrackets then args.dropLast else args) with
    | .ok value => return if value then 0 else 1
    | .error message => giveUp message

/-- The path of the directory in which a tree is seen from. -/
def directoryPath (t : Tree) : Raw :=
  '/' :: rawOf (Tree.key t.here)

def cdCommand : Builtin := fun _ args => do
  let (_, operands) ← flagsOf "LP" args
  let s ← get
  let back := operands.head? = some ['-']
  let target := match operands with
    | [] => (s.value? (rawOf "HOME")).getD []
    | path :: _ => if back then (s.value? (rawOf "OLDPWD")).getD [] else path
  let before := directoryPath s.tree
  if target = [] then return 0
  else
    match s.tree.resolve target with
    | .error _ => giveUp (rawOf "can't cd to " ++ target)
    | .ok names =>
      if s.tree.item? names ≠ some .directory then giveUp (rawOf "can't cd to " ++ target)
      else
        set { s with tree := { s.tree with here := names } }
        assign (rawOf "OLDPWD") before false
        assign (rawOf "PWD") (directoryPath (← get).tree) false
        if back then emit (directoryPath (← get).tree ++ ['\n'])
        return 0

def pwdCommand : Builtin := fun _ _ => do
  emit (directoryPath (← get).tree ++ ['\n'])
  return 0

/-- Shows the permissions that new files do not get. -/
def umaskCommand : Builtin := fun _ args => do
  let (flags, operands) ← flagsOf "S" args
  match operands with
  | [] =>
    emit (rawOf (if flags = [] then "0022\n" else "u=rwx,g=rx,o=rx\n"))
    return 0
  | mode :: _ =>
    if mode.all (fun c => (digit? 8 c).isSome) || mode.any fun c => "+-=".toList.contains c then
      return 0
    else giveUp (rawOf "Illegal mode: " ++ mode)

/-- Shows a limit, of which there is none. -/
def ulimitCommand : Builtin := fun _ _ => do
  emit (rawOf "unlimited\n")
  return 0

/-- Brings back a command from the background, of which there is none. -/
def jobCommand : Builtin := fun _ _ => giveUp (rawOf "No current job")

end TextChain.Tool.Shell
