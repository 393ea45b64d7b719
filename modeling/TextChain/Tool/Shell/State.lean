import TextChain.Tool.Basic
import TextChain.Tool.Shell.Script

/-!
# The state of a shell

A shell has variables, functions and descriptors. A descriptor leads to a stream, and several can lead
to the same one. What a command does is an action on the state; an action that does not come to its end
says how the flow of control goes on.
-/

namespace TextChain.Tool.Shell

structure Variable where
  value : Option Raw
  exported : Bool
  readOnly : Bool

/-- What is read or written through descriptors. -/
inductive Stream
  | source (rest : Raw)
  /-- Texts that were written, the latest first. -/
  | collector (written : List Raw)
  /-- A file with its names from the root, and where it is read or written. -/
  | file (names : List String) (position : Nat) (opening : Opening)
  /-- Takes anything and has nothing. -/
  | sink
deriving Inhabited

/-- How the flow of control goes on after an action that does not come to its end. -/
inductive Flow
  | exit
  /-- An error ends the shell unless a command catches it. -/
  | error
  | breaking (loops : Nat)
  | continuing (loops : Nat)
  | returning
  | killed (signal : Nat)

structure State where
  name : Raw
  positional : List Raw
  table : List (Raw × Variable)
  functions : List (Raw × Command)
  status : Nat
  /-- The status of the last output that was put into a word. -/
  outputStatus : Nat
  line : Nat
  /-- The command of the shell that runs. -/
  speaker : Option Raw
  options : List Char
  /-- The streams to which descriptors lead, by their numbers. -/
  descriptors : List (Nat × Nat)
  streams : Array Stream
  /-- The texts behind lines of the scripts that were read. -/
  documents : List (Nat × List Piece)
  nextDocument : Nat
  tree : Tree
  /-- The commands that run when a signal arrives; those for 0 run at the end. -/
  traps : List (Nat × Raw)
  /-- The status with which the shell ends once the commands for its end have run. -/
  lastStatus : Option Nat
  /-- The number of loops around the command that runs. -/
  loops : Nat
  /-- The variables of the functions that run as they were before. -/
  frames : List (List (Raw × Option Variable))
  /-- The commands in the background by their numbers with their statuses, the last one first. -/
  background : List (Nat × Nat)
  /-- Whether a command of the shell could not write its output. -/
  unwritten : Bool
  /-- The place of the next letter among the flags that a script reads. -/
  flagPlace : Nat

/-- Something that a shell does. -/
abbrev Action := ExceptT Flow (StateM State)

/-! ### Streams -/

def State.stream? (s : State) (descriptor : Nat) : Option Nat :=
  s.descriptors.lookup descriptor

/-- The contents of a file by its names from the root. -/
def contentsAt (t : Tree) (names : List String) : Raw :=
  match t.item? names with
  | some (.file contents) => contents
  | _ => []

/-- What is left to read through a descriptor. -/
def State.input (s : State) (descriptor : Nat) : Raw :=
  match (s.stream? descriptor).bind (s.streams[·]?) with
  | some (.source rest) => rest
  | some (.file names position _) => (contentsAt s.tree names).drop position
  | _ => []

/-- The state after so many characters were left to read through a descriptor. -/
def State.leave (s : State) (descriptor : Nat) (rest : Raw) : State :=
  match s.stream? descriptor with
  | none => s
  | some n =>
    match s.streams[n]? with
    | some (.source _) => { s with streams := s.streams.setIfInBounds n (.source rest) }
    | some (.file names _ opening) =>
      let position := (contentsAt s.tree names).length - rest.length
      { s with streams := s.streams.setIfInBounds n (.file names position opening) }
    | _ => s

def writeAt (contents : Raw) (position : Nat) (text : Raw) : Raw :=
  contents.take position ++ List.replicate (position - contents.length) '\x00' ++ text ++
    contents.drop (position + text.length)

def State.writeStream (s : State) (n : Nat) (text : Raw) : State :=
  match s.streams[n]? with
  | some (.collector written) =>
    { s with streams := s.streams.setIfInBounds n (.collector (text :: written)) }
  | some (.file names position opening) =>
    let contents := contentsAt s.tree names
    let position := if opening = .append then contents.length else position
    { s with
      tree := { s.tree with
        items := s.tree.items.insert (Tree.key names) (.file (writeAt contents position text)) }
      streams := s.streams.setIfInBounds n (.file names (position + text.length) opening) }
  | _ => s

def State.writable (s : State) (descriptor : Nat) : Bool :=
  match (s.stream? descriptor).bind (s.streams[·]?) with
  | some (.collector _) | some .sink => true
  | some (.file _ _ opening) => opening ≠ .read
  | _ => false

def State.write (s : State) (descriptor : Nat) (text : Raw) : State :=
  match s.stream? descriptor with
  | some n => if text = [] then s else s.writeStream n text
  | none => s

def State.collected (s : State) (n : Nat) : Raw :=
  match s.streams[n]? with
  | some (.collector written) => written.reverse.flatten
  | _ => []

/-- Lets a descriptor lead to a stream. -/
def State.connect (s : State) (descriptor n : Nat) : State :=
  { s with descriptors := (descriptor, n) :: s.descriptors.filter (·.1 ≠ descriptor) }

/-- Lets a descriptor lead to a new stream. -/
def State.attach (s : State) (descriptor : Nat) (stream : Stream) : State :=
  { s with streams := s.streams.push stream }.connect descriptor s.streams.size

def State.close (s : State) (descriptor : Nat) : State :=
  { s with descriptors := s.descriptors.filter (·.1 ≠ descriptor) }

/-! ### Messages -/

/-- A line of the shell with its name in front. -/
def State.message (s : State) (text : Raw) : Raw :=
  let speaker := match s.speaker with
    | some name => name ++ rawOf ": "
    | none => []
  s.name ++ rawOf ": " ++ rawOf (toString s.line) ++ rawOf ": " ++ speaker ++ text ++ ['\n']

def complain (text : Raw) : Action Unit :=
  modify fun s => s.write 2 (s.message text)

def setStatus (status : Nat) : Action Unit :=
  modify fun s => { s with status }

def giveUp {α : Type} (text : Raw) : Action α := do
  complain text
  setStatus 2
  throw .error

def giveUpAt {α : Type} (word : Raw) (text : String) : Action α :=
  giveUp (word ++ rawOf ": " ++ rawOf text)

def hasOption (letter : Char) : Action Bool :=
  return (← get).options.contains letter

def optionNames : List (String × Option Char) :=
  [("errexit", some 'e'), ("noglob", some 'f'), ("ignoreeof", some 'I'), ("interactive", some 'i'),
   ("monitor", some 'm'), ("noexec", some 'n'), ("stdin", some 's'), ("xtrace", some 'x'),
   ("verbose", some 'v'), ("vi", some 'V'), ("emacs", some 'E'), ("noclobber", some 'C'),
   ("allexport", some 'a'), ("notify", some 'b'), ("nounset", some 'u'), ("privileged", some 'p'),
   ("nolog", none), ("debug", none)]

/-- The letters of options in the order in which they are shown. -/
def optionLetters (options : List Char) : Raw :=
  (optionNames.reverse.filterMap Prod.snd).filter options.contains

/-! ### Variables -/

/-- The characters that separate fields unless a script sets others. -/
def usualSeparators : Raw := [' ', '\t', '\n']

def State.value? (s : State) (name : Raw) : Option Raw :=
  (s.table.lookup name).bind (·.value)

/-- The characters that separate fields. -/
def State.separators (s : State) : Raw :=
  (s.value? (rawOf "IFS")).getD usualSeparators

def State.setVariable (s : State) (name : Raw) (v : Variable) : State :=
  if s.table.any (·.1 = name) then
    { s with table := s.table.map fun (n, old) => if n = name then (n, v) else (n, old) }
  else { s with table := s.table ++ [(name, v)] }

/-- Gives a value to a variable, which may be exported with it. -/
def assign (name value : Raw) (exported : Bool) : Action Unit := do
  let s ← get
  let v := (s.table.lookup name).getD ⟨none, false, false⟩
  if v.readOnly then giveUpAt name "is read only"
  else
    let exported := v.exported || exported || s.options.contains 'a'
    set (s.setVariable name ⟨some value, exported, v.readOnly⟩)
    if name = rawOf "OPTIND" then modify fun s => { s with flagPlace := 0 }

/-- Changes what is known of a variable besides its value. -/
def State.mark (s : State) (name : Raw) (f : Variable → Variable) : State :=
  s.setVariable name (f ((s.table.lookup name).getD ⟨none, false, false⟩))

def State.removeVariable (s : State) (name : Raw) : State :=
  { s with table := s.table.filter (·.1 ≠ name) }

/-- Remembers a variable, to be set back at the end of the command or function that runs. -/
def remember (name : Raw) : Action Unit :=
  modify fun s =>
    match s.frames with
    | [] => s
    | frame :: frames =>
      if frame.any (·.1 = name) then s
      else { s with frames := ((name, s.table.lookup name) :: frame) :: frames }

/-- Sets back the variables that were remembered last. -/
def setBack : Action Unit :=
  modify fun s =>
    match s.frames with
    | [] => s
    | frame :: frames =>
      frame.foldl (fun s (name, before) =>
        match before with
        | some v => s.setVariable name v
        | none => s.removeVariable name) { s with frames }

/-- The variables that programs see. -/
def State.environment (s : State) : List (Raw × Raw) :=
  s.table.filterMap fun (name, v) =>
    if v.exported then v.value.map fun value => (name, value) else none

/-! ### Parameters -/

def processNumber : Nat := 4211

inductive Parameter
  | missing
  | one (value : Raw)
  | all (values : List Raw)

def State.parameter (s : State) (name : Raw) : Parameter :=
  let number (n : Nat) : Parameter := .one (rawOf (toString n))
  match name with
  | ['@'] | ['*'] => .all s.positional
  | ['#'] => number s.positional.length
  | ['?'] => number s.status
  | ['$'] => number processNumber
  | ['!'] => match s.background with
    | (n, _) :: _ => number n
    | [] => .missing
  | ['-'] => .one (optionLetters s.options)
  | ['0'] => .one s.name
  | _ =>
    match natural? name with
    | some n => match s.positional[n - 1]? with
      | some value => if n = 0 then .one s.name else .one value
      | none => .missing
    | none => match s.value? name with
      | some value => .one value
      | none => .missing

end TextChain.Tool.Shell
