import TextChain.Tool.Shell.Builtin

/-!
# Running scripts

A script is read and run line by line, so that the commands before a fault are carried out. Commands
in pipelines, in parentheses and in the background run in shells of their own, one after the other.
-/

namespace TextChain.Tool.Shell

/-! ### Programs -/

/-- What is said of a signal that ended a program; nothing of some. -/
def signalWords (signal : Nat) : String :=
  match signal with
  | 1 => "Hangup"
  | 3 => "Quit"
  | 4 => "Illegal instruction"
  | 5 => "Trace/breakpoint trap"
  | 6 => "Aborted"
  | 7 => "Bus error"
  | 8 => "Floating point exception"
  | 9 => "Killed"
  | 10 => "User defined signal 1"
  | 11 => "Segmentation fault"
  | 12 => "User defined signal 2"
  | 14 => "Alarm clock"
  | 15 => "Terminated"
  | 16 => "Stack fault"
  | 24 => "CPU time limit exceeded"
  | 25 => "File size limit exceeded"
  | 26 => "Virtual timer expired"
  | 27 => "Profiling timer expired"
  | 29 => "I/O possible"
  | 30 => "Power failure"
  | 31 => "Bad system call"
  | _ => ""

/-- Runs the program at a path, which is called by a name. -/
def launch (e : Engine) (path name : Raw) (args : List Raw) : Action Unit := do
  let s ← get
  match e.start path ⟨name, args, s.environment, s.input 0, s.tree⟩ with
  | .error error =>
    complain (name ++ rawOf ": " ++ commandFault error)
    setStatus (if error = .notFound || error = .notDirectory || error = .tooLong then 127 else 126)
  | .ok outcome =>
    let words := match outcome.ending with
      | .exited _ => ""
      | .killed signal => signalWords signal
    set { s.leave 0 outcome.unread with tree := outcome.tree }
    modify fun s => (s.write 2 outcome.errors).write 1 outcome.output
    note (if words = "" then [] else rawOf words ++ ['\n'])
    setStatus outcome.ending.status

/-! ### Simple commands -/

/-- Expands the words of a command. Behind some commands assignments are not divided. -/
def expandCommand (e : Engine) : List Raw → List (List Piece) → Action (List Raw)
  | done, [] => return done
  | done, pieces :: rest => do
    let assigned := takesAssignments (done.headD []) && (assignment? pieces).isSome
    let words ← if assigned then (fun text => [text]) <$> expandText e true pieces
      else expandFields e pieces
    expandCommand e (done ++ words) rest

/-- A command without the words in front of it that only say how it is looked for; whether there are
any. The first argument bounds their number. -/
def plainCommand (s : State) : Nat → Bool → List Raw → Bool × List Raw
  | 0, direct, words => (direct, words)
  | fuel + 1, direct, words =>
    match words with
    | name :: rest =>
      let asksDirectly := match s.meaning (!direct) name with
        | .regular => name = rawOf "command"
        | _ => false
      let flag := rest.headD []
      if !asksDirectly || rest = [] then (direct, words)
      else if flag = rawOf "--" || flag = rawOf "-p" then plainCommand s fuel true (rest.drop 1)
      else if flag.head? = some '-' then (direct, words)
      else plainCommand s fuel true rest
    | [] => (direct, words)

/-- Shows a command before it runs, where the error output led before its redirections. -/
def trace (stream? : Option Nat) (assigned : List (Raw × Raw)) (words : List Raw) :
    Action Unit := do
  if ← hasOption 'x' then
    let start := ((← get).value? (rawOf "PS4")).getD []
    let shown := assigned.map fun (name, value) => name ++ '=' :: value
    let line := start ++ [' '].intercalate (shown ++ words) ++ ['\n']
    modify fun s => match stream? with
      | some n => s.writeStream n line
      | none => s

/-- Runs an action and sets back afterwards the variables that were remembered in it. -/
def withFrame (action : Action Unit) : Action Unit := do
  modify fun s => { s with frames := [] :: s.frames }
  try
    action
    setBack
  catch flow =>
    setBack
    throw flow

/-- Carries out the assignments in front of a command. -/
def assignFront (e : Engine) (isLocal exported : Bool) :
    List (Raw × List Piece) → Action (List (Raw × Raw))
  | [] => return []
  | (name, pieces) :: rest => do
    let value ← expandText e true pieces
    if isLocal then remember name
    assign name value (isLocal || exported)
    return (name, value) :: (← assignFront e isLocal exported rest)

/-- Runs a command of the shell. Errors of those that are no special ones only fail the command. -/
def runBuiltin (e : Engine) (special : Bool) (name : Raw) (args : List Raw) : Action Unit := do
  let speaker := (← get).speaker
  modify fun s => { s with speaker := some name, unwritten := false }
  let finish : Action Unit := do
    if (← get).unwritten then
      modify fun s =>
        { s with speaker := some name, unwritten := false, status := s.status ||| 1 }
      complain (name ++ rawOf ": I/O error")
    modify fun s => { s with speaker }
  try
    let status ← builtin (String.ofList name) e args
    setStatus status
    finish
  catch flow =>
    finish
    match flow with
    | .error => if special then throw flow
    | _ => throw flow

def runFunction (e : Engine) (tested : Bool) (body : Command) (args : List Raw) : Action Unit := do
  let s ← get
  let setParameters : Action Unit :=
    modify fun t =>
      { t with positional := s.positional, loops := s.loops, flagPlace := s.flagPlace }
  set { s with positional := args, loops := 0, flagPlace := 0 }
  try
    e.run body tested
    setParameters
  catch flow =>
    setParameters
    match flow with
    | .returning => pure ()
    | flow => throw flow

/-- Runs a program in place of the shell. -/
def replaceShell (e : Engine) (words : List Raw) : Action Unit := do
  match words with
  | [] => return
  | name :: args =>
    modify fun s => { s with traps := [] }
    match (← get).programPath name with
    | .ok path => launch e path name args
    | .error error =>
      modify fun s => { s with speaker := some (rawOf "exec") }
      complain (name ++ rawOf ": " ++ commandFault error)
      setStatus (if error = .notFound || error = .notDirectory then 127 else 126)
    throw .exit

def runWords (e : Engine) (tested direct : Bool) (words : List Raw) : Action Unit := do
  match words with
  | [] => setStatus (← get).outputStatus
  | name :: args =>
    match (← get).meaning (!direct) name with
    | .special =>
      if name = rawOf "exec" then
        setStatus 0
        replaceShell e (if args.head? = some ['-', '-'] then args.tail else args)
      else runBuiltin e (!direct) name args
    | .regular => runBuiltin e false name args
    | .function body => runFunction e tested body args
    | .program path => launch e path name args
    | .fault error =>
      complain (name ++ rawOf ": " ++ commandFault error)
      setStatus (if name.contains '/' && error = .denied then 126 else 127)

/-- Runs a command whose words are expanded, with its redirections and assignments. A special command
of the shell leaves its assignments behind, and errors in it end the shell. -/
def runExpanded (e : Engine) (tested direct special : Bool)
    (assignments : List (Raw × List Piece)) (words : List Raw) (redirections : List Redirection) :
    Action Unit := do
  let routes ← routesOf e redirections
  let errorStream? := (← get).stream? 2
  let replaces := special && words.head? = some (rawOf "exec")
  let act : Action Unit := do
    if ← carriedOut e routes then
      let assigned ← assignFront e (!special) (replaces && 1 < words.length) assignments
      trace errorStream? assigned words
      runWords e tested direct words
    else
      setStatus 2
      if special && words ≠ [] then throw .error
  if replaces then act else keepingDescriptors act

/-- Whether a command leaves its assignments behind: one without words, or a special one. -/
def leavesAssignments (direct : Bool) : List Raw → Bool
  | [] => true
  | name :: _ => !direct && specialNames.contains (String.ofList name)

def runSimple (e : Engine) (tested : Bool) (line : Nat) (assignments : List (Raw × List Piece))
    (words : List (List Piece)) (redirections : List Redirection) : Action Unit := do
  modify fun s => { s with line, outputStatus := 0 }
  let words ← expandCommand e [] words
  let (direct, words) := plainCommand (← get) (words.length + 1) false words
  match leavesAssignments direct words with
  | true => runExpanded e tested direct true assignments words redirections
  | false => withFrame (runExpanded e tested direct false assignments words redirections)

/-! ### Loops -/

inductive Turn
  | more
  | done

/-- Runs a turn of a loop, which commands in it can leave. -/
def oneTurn (turn : Action Turn) : Action Turn := do
  let loops := (← get).loops
  modify fun s => { s with loops := loops + 1 }
  let leave : Action Unit := modify fun s => { s with loops }
  try
    let t ← turn
    leave
    return t
  catch flow =>
    leave
    match flow with
    | .breaking n => if n ≤ 1 then return .done else throw (.breaking (n - 1))
    | .continuing n => if n ≤ 1 then return .more else throw (.continuing (n - 1))
    | flow => throw flow

/-- Repeats the turns of a loop; each is told the status of the one before. The first argument bounds
their number. -/
def repeatTurns (turn : Nat → Action Turn) : Nat → Nat → Action Unit
  | 0, _ => return
  | fuel + 1, status => do
    match ← oneTurn (turn status) with
    | .more => repeatTurns turn fuel (← get).status
    | .done => return

/-- The greatest number of turns of a loop. -/
def turnLimit : Nat := 200000

/-- Runs a loop as long as a test succeeds, or as long as it fails. -/
def runLoop (e : Engine) (tested whileFails : Bool) (test body : Command) : Action Unit :=
  repeatTurns (fun status => do
    e.run test true
    if ((← get).status = 0) = whileFails then
      setStatus status
      return .done
    else
      e.run body tested
      return .more) turnLimit 0

def runEach (turn : Raw → Action Unit) : List Raw → Action Unit
  | [] => return
  | word :: rest => do
    match ← oneTurn (do
      turn word
      return .more) with
    | .more => runEach turn rest
    | .done => return

/-! ### Commands -/

/-- Runs the stages of a pipeline, the first of which reads a text if there is one. -/
def runPipeline (e : Engine) (tested : Bool) : Option Raw → List Command → Action Unit
  | _, [] => return
  | input?, stage :: rest => do
    let status := (← get).status
    let action : Action Unit := do
      match input? with
      | some text => modify fun s => s.attach 0 (.source text)
      | none => pure ()
      e.run stage tested
    if rest.isEmpty then isolated e action
    else
      let text ← outputOf e action
      setStatus status
      runPipeline e tested (some text) rest

/-- Runs the first case one of whose patterns matches a text. -/
def runChoice (e : Engine) (tested : Bool) (text : Raw) :
    List (List (List Piece) × Command) → Action Unit
  | [] => setStatus 0
  | (patterns, body) :: rest => do
    if ← patterns.anyM fun pieces => do return wildMatches (← expandPattern e pieces) text then
      match body with
      | .nothing => setStatus 0
      | body => e.run body tested
    else runChoice e tested text rest

/-- Ends the shell after a failure if it has been told to. -/
def checkFailure (tested : Bool) : Action Unit := do
  let s ← get
  if !tested && s.status ≠ 0 && s.options.contains 'e' then throw .exit

def runRedirected (e : Engine) (redirections : List Redirection) (action : Action Unit) :
    Action Unit := do
  let routes ← routesOf e redirections
  keepingDescriptors do
    if ← carriedOut e routes then action else setStatus 2

def runCommand (e : Engine) (tested : Bool) : Command → Action Unit
  | .nothing => return
  | .simple line assignments words redirections => do
    runSimple e tested line assignments words redirections
    checkFailure tested
  | .pipeline stages => do
    runPipeline e tested none stages
    checkFailure tested
  | .negated c => do
    e.run c true
    setStatus (if (← get).status = 0 then 1 else 0)
  | .both a b => do
    e.run a true
    if (← get).status = 0 then e.run b tested
  | .either a b => do
    e.run a true
    if (← get).status ≠ 0 then e.run b tested
  | .sequence a b => do
    e.run a tested
    e.run b tested
  | .background c => do
    isolated e do
      modify fun s => s.attach 0 .sink
      e.run c false
    modify fun s =>
      { s with
        background := (processNumber + 1 + s.background.length, s.status) :: s.background
        status := 0 }
  | .subshell line c redirections => do
    modify fun s => { s with line }
    let routes ← routesOf e redirections
    isolated e do
      if ← carriedOut e routes then e.run c tested else setStatus 2
    checkFailure tested
  | .redirected line c redirections => do
    modify fun s => { s with line }
    runRedirected e redirections (e.run c tested)
  | .conditional test body other => do
    e.run test true
    if (← get).status = 0 then e.run body tested
    else
      match other with
      | some c => e.run c tested
      | none => setStatus 0
  | .loop whileFails test body => runLoop e tested whileFails test body
  | .each line name words body => do
    modify fun s => { s with line }
    let values ← words.mapM (expandFields e)
    if values.flatten = [] then setStatus 0
    runEach (fun word => do
      assign name word false
      e.run body tested) values.flatten
  | .choice line word cases => do
    modify fun s => { s with line }
    let text ← expandText e false word
    runChoice e tested text cases
  | .function name _ body => do
    modify fun s => { s with functions := (name, body) :: s.functions.filter (·.1 ≠ name) }
    setStatus 0

/-! ### Texts -/

/-- Runs the commands of a text line by line. The status is 0 if there are none. The first argument
bounds the number of lines. -/
def runLines (e : Engine) : Nat → Reader → Bool → Action Unit
  | 0, _, _ => return
  | fuel + 1, reader, anyRun => do
    let s ← get
    match nextCommand.run { reader with documents := s.documents, nextDocument := s.nextDocument } with
    | .error fault =>
      modify fun s => { s with line := fault.line }
      giveUp fault.message
    | .ok (none, _) => if !anyRun then setStatus 0
    | .ok (some c, reader) =>
      modify fun s => { s with documents := reader.documents, nextDocument := reader.nextDocument }
      match c with
      | .nothing => runLines e fuel reader anyRun
      | c =>
        e.run c false
        runLines e fuel reader true

def runText (e : Engine) (text : Raw) : Action Unit :=
  runLines e (text.length + 2) ⟨text, 1, none, [], [], 0⟩ false

/-! ### The shell -/

inductive Task
  | command (c : Command) (tested : Bool)
  | text (text : Raw) (tested : Bool)

abbrev Starter := Raw → Invocation → Except FileError Outcome

/-- Runs a task. The number bounds the depth. -/
def perform (start : Starter) : Nat → Task → Action Unit
  | 0, _ => return
  | fuel + 1, task => do
    let engine (tested : Bool) : Engine :=
      { run := fun c t => perform start fuel (.command c (tested || t))
        text := fun text => perform start fuel (.text text tested)
        start }
    match task with
    | .command c tested =>
      if ← hasOption 'n' then return else runCommand { engine false with text := (engine tested).text } tested c
    | .text text tested => runText (engine tested) text

def taskDepth : Nat := 20000

/-- The directories in which a shell looks for programs if it is not told others. -/
def usualPath : Raw :=
  rawOf "/usr/local/sbin:/usr/local/bin:/usr/sbin:/usr/bin:/sbin:/bin"

/-- A shell that is called like a program. -/
def State.initial (i : Invocation) : State :=
  let imported := i.environment.filter fun (name, _) => isName name && name ≠ rawOf "IFS"
  let own : List (Raw × Raw) :=
    [(rawOf "IFS", usualSeparators), (rawOf "OPTIND", ['1']), (rawOf "PATH", usualPath),
     (rawOf "PS4", rawOf "+ "), (rawOf "PWD", '/' :: rawOf (Tree.key i.tree.here))]
  let missing := own.filter fun (name, _) => !imported.any (·.1 = name)
  { name := i.name, positional := [], status := 0, outputStatus := 0, line := 0, speaker := none
    table := imported.map (fun (name, value) => (name, ⟨some value, true, false⟩)) ++
      missing.map fun (name, value) => (name, ⟨some value, false, false⟩)
    functions := [], options := [], documents := [], nextDocument := 0, tree := i.tree, traps := []
    lastStatus := none, descriptors := [(0, 0), (1, 1), (2, 2)]
    streams := #[.source i.input, .collector [], .collector []]
    loops := 0, frames := [], background := [], unwritten := false, flagPlace := 0 }

/-- Runs what the arguments of a shell ask for: a text, a file, or what it reads. -/
def runArguments (e : Engine) (args : List Raw) : Action Unit := do
  let r ← readOptions true (args.length + 1) ⟨[], false, false, args⟩
  modify fun s => { s with options := r.options }
  let parameters (words : List Raw) : Action Unit :=
    modify fun s => { s with name := words.headD s.name, positional := words.tail }
  match r.hasText, r.rest with
  | true, [] => giveUp (rawOf "-c requires an argument")
  | true, text :: words =>
    parameters words
    e.text text
  | false, words =>
    match words, r.options.contains 's' with
    | name :: _, false =>
      let s ← get
      match descriptorOf? name, s.tree.find name with
      | none, .error error => giveUp (openingFault .read name error)
      | _, _ =>
        let text ← scriptText (if name.contains '/' then name else rawOf "./" ++ name)
        parameters words
        e.text text
    | words, _ =>
      let s ← get
      set { s.leave 0 [] with options := changeOption s.options 's' true, positional := words }
      e.text (s.input 0)

/-- Runs the shell; it starts programs in the way that is given. -/
def run (start : Starter) (i : Invocation) : Outcome :=
  let e : Engine :=
    { run := fun c tested => perform start taskDepth (.command c tested)
      text := fun text => perform start taskDepth (.text text false)
      start }
  let (result, s) := (completely e (runArguments e i.args)).run.run (State.initial i)
  let ending : Ending := match result with
    | .error (.killed signal) => .killed signal
    | _ => .exited (s.status % statusCount)
  let unread := match s.streams[0]? with
    | some (Stream.source rest) => rest
    | _ => []
  ⟨s.collected 1, s.collected 2, ending, unread, { s.tree with here := i.tree.here }⟩

end TextChain.Tool.Shell
