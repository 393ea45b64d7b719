import TextChain.Tool.Shell.Builtin.Basic

/-!
# Commands for the flow of control

Leaving loops, functions and shells, running texts as commands, signals and what is done about them, and
questions about commands.
-/

namespace TextChain.Tool.Shell

/-- Leaves some of the loops around a command. -/
def loopCommand (flow : Nat → Flow) : Builtin := fun _ args => do
  let n ← match args with
    | [] => pure 1
    | word :: _ => do
      let n ← countOf word
      if n = 0 then giveUp (rawOf "Illegal number: " ++ word) else pure n
  let n := min n (← get).loops
  if n = 0 then return 0
  else
    setStatus 0
    throw (flow n)

def returnCommand : Builtin := fun _ args => do
  match args with
  | [] => pure ()
  | word :: _ => setStatus (← countOf word)
  throw .returning

def exitCommand : Builtin := fun _ args => do
  match args, (← get).lastStatus with
  | [], some status => setStatus status
  | [], none => pure ()
  | word :: _, _ => setStatus (← countOf word)
  throw .exit

/-- Runs its arguments as commands. -/
def evalCommand : Builtin := fun e args => do
  let text := [' '].intercalate args
  e.text text
  return (← get).status

/-- The text of a script that is run in place, by its name. -/
def scriptText (name : Raw) : Action Raw := do
  let s ← get
  match descriptorOf? name with
  | some d =>
    set (s.leave d [])
    return s.input d
  | none =>
    if name.contains '/' then
      match s.tree.find name with
      | .ok (.file contents) => return contents
      | .ok _ => return []
      | .error error => giveUp (openingFault .read name error)
    else
      let directories := ((s.value? (rawOf "PATH")).getD []).splitOn ':'
      let texts := directories.filterMap fun d =>
        match s.tree.find (if d = [] then name else d ++ ['/'] ++ name) with
        | .ok (.file contents) => some contents
        | _ => none
      match texts with
      | text :: _ => return text
      | [] => giveUpAt name "not found"

def sourceCommand : Builtin := fun e args => do
  match args with
  | [] => return 0
  | name :: _ =>
    let text ← scriptText name
    modify fun s => { s with speaker := some name }
    try e.text text
    catch
      | .returning => pure ()
      | flow => throw flow
    return (← get).status

/-! ### Signals -/

def signalName? (n : Nat) : Option Raw :=
  if n = 0 then some (rawOf "EXIT")
  else
    match n with
    | 17 => some (rawOf "CHLD")
    | 18 => some (rawOf "CONT")
    | 19 => some (rawOf "STOP")
    | 20 => some (rawOf "TSTP")
    | 21 => some (rawOf "TTIN")
    | 22 => some (rawOf "TTOU")
    | 23 => some (rawOf "URG")
    | 28 => some (rawOf "WINCH")
    | 29 => some (rawOf "POLL")
    | n => (signalNames.lookup n).map fun name => (rawOf name).drop 3

/-- The number of signals, with that for the end. -/
def signalCount : Nat := 65

def signalOf? (word : Raw) : Option Nat :=
  match natural? word with
  | some n => if n < signalCount then some n else none
  | none => (List.range signalCount).find? fun n => signalName? n = some (word.map Char.toUpper)

/-- Sets what is done when signals arrive, or shows it. -/
def trapCommand : Builtin := fun _ args => do
  let s ← get
  let setTraps (text? : Option Raw) (words : List Raw) : Action Nat := do
    for word in words do
      match signalOf? word with
      | none =>
        note (rawOf "trap: " ++ word ++ rawOf ": bad trap\n")
        return 1
      | some n =>
        modify fun s =>
          let others := s.traps.filter (·.1 ≠ n)
          { s with traps := match text? with
            | some text => (n, text) :: others
            | none => others }
    return 0
  match (if args.head? = some ['-', '-'] then args.drop 1 else args) with
  | [] =>
    let sorted := s.traps.mergeSort fun a b => a.1 ≤ b.1
    emit (sorted.flatMap fun (n, text) =>
      rawOf "trap -- " ++ quoteValue text ++ ' ' :: (signalName? n).getD (rawOf (toString n)) ++ ['\n'])
    return 0
  | [word] => setTraps none [word]
  | text :: words =>
    if ((natural? text).bind fun _ => signalOf? text).isSome then setTraps none (text :: words)
    else setTraps (if text = ['-'] then none else some text) words

/-- Whether a signal ends a program that does nothing about it. -/
def endsProgram (signal : Nat) : Bool :=
  !([0, 17, 18, 19, 20, 21, 22, 23, 28] : List Nat).contains signal

/-- What a shell does when a signal arrives. -/
def receive (e : Engine) (signal : Nat) : Action Unit := do
  let s ← get
  match (if signal = 9 then none else s.traps.lookup signal) with
  | some [] => return
  | some text =>
    e.text text
    setStatus s.status
  | none => if endsProgram signal then throw (.killed signal)

/-- Sends signals, of which only those to the shell itself arrive. -/
def sendSignal (e : Engine) (signal : Nat) : List Raw → Bool → Action Nat
  | [], failed => return if failed then 1 else 0
  | word :: rest, failed => do
    let n ← countOf (if word.head? = some '-' then word.drop 1 else word)
    if n = processNumber || n = 0 then
      receive e signal
      sendSignal e signal rest failed
    else
      complain (rawOf "No such process\n")
      sendSignal e signal rest true

/-- Sends a signal or shows the names of signals. -/
def killCommand : Builtin := fun e args => do
  let usage : Action Nat :=
    giveUp (rawOf ("Usage: kill [-s sigspec | -signum | -sigspec] [pid | job]... or\n" ++
      "kill -l [exitstatus]"))
  let send (signal? : Option Nat) (words : List Raw) : Action Nat :=
    if words = [] then usage else sendSignal e (signal?.getD 15) words false
  match args with
  | ('-' :: text) :: rest =>
    match signalOf? text with
    | some signal => send (some signal) rest
    | none =>
      let (given, words) ← readFlags [('l', false), ('s', true)] args
      let signals ← given.filterMapM fun (_, value?) => do
        match value? with
        | none => return none
        | some name =>
          match signalOf? name with
          | some signal => return some signal
          | none => giveUp (rawOf "invalid signal number or name: " ++ name)
      if !given.any (·.1 = 'l') then send signals.getLast? words
      else
        match words with
        | [] =>
          emit (rawOf "0\n" ++ endEach '\n' ((List.range 31).filterMap fun n => signalName? (n + 1)))
          return 0
        | word :: _ =>
          let n ← countOf word
          let signal := if 128 < n then n - 128 else n
          match if signal = 0 then none else signalName? signal with
          | some name =>
            emit (name ++ ['\n'])
            return 0
          | none => giveUp (rawOf "invalid signal number or exit status: " ++ word)
  | [] => usage
  | words => send none words

/-- Waits for commands in the background, which have ended already. -/
def waitCommand : Builtin := fun _ args => do
  let statuses ← args.mapM fun word => do
    return ((← get).background.lookup (← countOf word)).getD 127
  return statuses.getLast?.getD 0

/-! ### Questions about commands -/

/-- What is said about the meaning of a command; none if it has none. -/
def State.description? (s : State) (inWords : Bool) (name : Raw) : Option Raw :=
  let tell (words : String) : Option Raw :=
    some (if inWords then name ++ rawOf " is " ++ rawOf words else name)
  if keywords.contains (String.ofList name) then tell "a shell keyword"
  else
    match s.meaning true name with
    | .special => tell "a special shell builtin"
    | .function _ => tell "a shell function"
    | .regular => tell "a shell builtin"
    | .program path => some (if inWords then name ++ rawOf " is " ++ path else path)
    | .fault _ => none

/-- Says what commands mean. -/
def describe (inWords : Bool) (names : List Raw) : Action Nat := do
  let s ← get
  let found ← names.mapM fun name => do
    match s.description? inWords name with
    | some text =>
      emit (text ++ ['\n'])
      return true
    | none =>
      if inWords then emit (name ++ rawOf ": not found\n")
      return false
  return if found.all id then 0 else 127

def typeCommand : Builtin := fun _ args => describe true args

/-- Says what a command means, in words or by its path. -/
def commandCommand : Builtin := fun _ args => do
  let (flags, names) ← flagsOf "pvV" args
  describe (flags.contains 'V') (names.take 1)

end TextChain.Tool.Shell
