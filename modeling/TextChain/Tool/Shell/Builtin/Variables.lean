import TextChain.Tool.Shell.Builtin.Basic

/-!
# Commands for variables and parameters

Options and positional parameters are set together; variables are set, marked, taken away, made local
to a function, and read from lines and from flags.
-/

namespace TextChain.Tool.Shell

/-- Gives up unless a word is the name of a variable. -/
def requireName (name : Raw) : Action Unit := do
  if !isName name then giveUpAt name "bad variable name"

/-! ### Options -/

def showOptions (options : List Char) (asCommands : Bool) : Raw :=
  let isSet (letter : Option Char) : Bool := (letter.map options.contains).getD false
  let line (entry : String × Option Char) : Raw :=
    let name := rawOf entry.1
    if asCommands then rawOf (if isSet entry.2 then "set -o " else "set +o ") ++ name
    else
      name ++ List.replicate (16 - name.length) ' ' ++ rawOf (if isSet entry.2 then "on" else "off")
  let lines := optionNames.map line
  endEach '\n' (if asCommands then lines else rawOf "Current option settings" :: lines)

/-- What was read of arguments that set options. -/
structure OptionArgs where
  options : List Char
  hasText : Bool
  /-- Whether the options end with a sign after which positional parameters follow, even none. -/
  closed : Bool
  rest : List Raw

/-- Sets an option or takes it away. -/
def changeOption (options : List Char) (letter : Char) (on : Bool) : List Char :=
  if on then letter :: options.filter (· ≠ letter) else options.filter (· ≠ letter)

/-- Sets options by letters. The next argument is there for the name of an option; gives also whether
it was taken. -/
def readOptionLetters (atStart on : Bool) (next : List Raw) :
    Raw → OptionArgs → Bool → Action (OptionArgs × Bool)
  | [], r, taken => return (r, taken)
  | c :: cs, r, taken => do
    if c = 'c' && atStart then readOptionLetters atStart on next cs { r with hasText := true } taken
    else if c = 'l' && atStart then readOptionLetters atStart on next cs r taken
    else if c = 'o' then
      match next with
      | [] =>
        emit (showOptions r.options (!on))
        readOptionLetters atStart on next cs r taken
      | name :: _ =>
        match optionNames.find? fun entry => entry.1.toList = name with
        | some (_, some letter) =>
          readOptionLetters atStart on next cs
            { r with options := changeOption r.options letter on } true
        | some (_, none) => readOptionLetters atStart on next cs r true
        | none => giveUp (rawOf "Illegal option -o " ++ name)
    else if optionNames.any fun entry => entry.2 = some c then
      readOptionLetters atStart on next cs { r with options := changeOption r.options c on } taken
    else giveUp (rawOf "Illegal option -" ++ [c])

/-- Reads arguments that set options. At the start of the shell commands may be among them. The first
argument bounds their number. -/
def readOptions (atStart : Bool) : Nat → OptionArgs → Action OptionArgs
  | 0, r => return r
  | fuel + 1, r => do
    match r.rest with
    | ['-'] :: rest =>
      let options := if atStart then r.options else r.options.filter fun c => c ≠ 'x' && c ≠ 'v'
      return { r with options, rest }
    | ['-', '-'] :: rest => return { r with closed := true, rest }
    | (sign :: letters) :: rest =>
      if sign = '-' || sign = '+' then
        let (r, taken) ← readOptionLetters atStart (sign = '-') rest letters r false
        readOptions atStart fuel { r with rest := if taken then rest.drop 1 else rest }
      else return r
    | _ => return r

/-- Sets options and positional parameters, or shows all variables. -/
def setCommand : Builtin := fun _ args => do
  let s ← get
  if args = [] then
    emit (showValues [] (s.table.filterMap fun (name, v) => v.value.map fun x => (name, some x)))
  else
    let r ← readOptions false (args.length + 1) ⟨s.options, false, false, args⟩
    modify fun s => { s with options := r.options }
    if r.closed || r.rest ≠ [] then modify fun s => { s with positional := r.rest }
  return 0

/-- Drops positional parameters. -/
def shiftCommand : Builtin := fun _ args => do
  let n ← match args with
    | [] => pure 1
    | word :: _ => countOf word
  let s ← get
  if s.positional.length < n then giveUp (rawOf "can't shift that many")
  else
    set { s with positional := s.positional.drop n, flagPlace := 0 }
    return 0

/-! ### Variables -/

/-- Takes variables or functions away. -/
def unsetCommand : Builtin := fun _ args => do
  let (flags, names) ← flagsOf "vf" args
  names.forM fun name => do
    if flags.getLast? = some 'f' then
      modify fun s => { s with functions := s.functions.filter (·.1 ≠ name) }
    else
      requireName name
      match (← get).table.lookup name with
      | some v =>
        if v.readOnly then giveUpAt name "is read only"
        else modify fun s => s.removeVariable name
      | none => pure ()
  return 0

/-- Marks variables, which may get values, or shows those that are marked. -/
def markCommand (word : String) (isMarked : Variable → Bool) (setMark : Variable → Variable) :
    Builtin := fun _ args => do
  let (flags, operands) ← flagsOf "p" args
  if operands = [] || flags ≠ [] then
    let marked := (← get).table.filter fun (_, v) => isMarked v
    emit (showValues (rawOf word ++ [' ']) (marked.map fun (name, v) => (name, v.value)))
  else
    operands.forM fun arg => do
      let (name, value?) := divideAssignment arg
      requireName name
      match value? with
      | some value => assign name value false
      | none => pure ()
      modify fun s => s.mark name setMark
  return 0

/-- Makes variables local to the function that runs. -/
def localCommand : Builtin := fun _ args => do
  if (← get).frames = [] then giveUp (rawOf "not in a function")
  else
    args.forM fun arg => do
      let (name, value?) := divideAssignment arg
      requireName name
      remember name
      match value? with
      | some value => assign name value false
      | none => pure ()
    return 0

/-! ### Lines -/

/-- Reads a line with backslashes: its glyphs, whether it has an end, and the rest. -/
def readEscapedLine : Raw → List Glyph × Bool × Raw
  | [] => ([], false, [])
  | '\n' :: rest => ([], true, rest)
  | '\\' :: '\n' :: rest => readEscapedLine rest
  | '\\' :: c :: rest =>
    let (gs, closed, rest) := readEscapedLine rest
    (.char c .quoted :: gs, closed, rest)
  | ['\\'] => ([], false, [])
  | c :: rest =>
    let (gs, closed, rest) := readEscapedLine rest
    (.char c .expanded :: gs, closed, rest)

/-- Reads a line: its glyphs, whether it has an end, and the rest. -/
def readLine (plain : Bool) (cs : Raw) : List Glyph × Bool × Raw :=
  if plain then
    let text := cs.takeWhile (· ≠ '\n')
    (glyphsOf .expanded text, text.length < cs.length, cs.drop (text.length + 1))
  else readEscapedLine cs

/-- Gives values to variables; those without one become empty. -/
def assignAll : List Raw → List Raw → Action Unit
  | [], _ => return
  | name :: names, values => do
    assign name (values.headD []) false
    assignAll names values.tail

def readCommand : Builtin := fun _ args => do
  let (given, names) ← readFlags [('r', false), ('p', true)] args
  if names = [] then giveUp (rawOf "arg count")
  else
    let s ← get
    let (line, closed, rest) := readLine (given.any (·.1 = 'r')) (s.input 0)
    set (s.leave 0 rest)
    let line := line.filter fun
      | .char '\x00' _ => false
      | _ => true
    let fields := divide s.separators (some names.length) .start line
    names.forM requireName
    assignAll names (fields.map (textOfGlyphs []))
    return if closed then 0 else 1

/-! ### Flags of scripts -/

/-- What a letter among the flags that a script reads stands for: none if it is unknown, or whether it
takes a value. -/
def flagNeed? (letters : Raw) (c : Char) : Option Bool :=
  match letters with
  | [] => none
  | d :: ':' :: rest => if c = d then some true else flagNeed? rest c
  | d :: rest => if c = d then some false else flagNeed? rest c

structure FlagReading where
  letter : Char
  /-- The value, or none if there is none to be seen. -/
  value : Option Raw
  message : Raw
  read : Nat
  /-- The place of the next letter in the last of them; 0 if it is finished. -/
  place : Nat
  finished : Bool

/-- Reads the next flag among arguments of which so many were read, the last one up to a place. -/
def nextFlag (letters : Raw) (args : List Raw) (read place : Nat) : FlagReading :=
  let quiet := letters.head? = some ':'
  let known := if quiet then letters.drop 1 else letters
  let current := if read = 0 || place = 0 then [] else ((args[read - 1]?).getD []).drop place
  let atEnd (read : Nat) : FlagReading := ⟨'?', none, [], read, 0, true⟩
  let readLetter (read place : Nat) (c : Char) (cs : Raw) : FlagReading :=
    let place := if cs = [] then 0 else place + 1
    match flagNeed? known c, cs, args[read]? with
    | none, _, _ =>
      if quiet then ⟨'?', some [c], [], read, place, false⟩
      else ⟨'?', none, rawOf "Illegal option -" ++ [c, '\n'], read, place, false⟩
    | some false, _, _ => ⟨c, some [], [], read, place, false⟩
    | some true, [], none =>
      if quiet then ⟨':', some [c], [], read, 0, false⟩
      else ⟨'?', none, rawOf "No arg for -" ++ c :: rawOf " option\n", read, 0, false⟩
    | some true, [], some value => ⟨c, some value, [], read + 1, 0, false⟩
    | some true, cs, _ => ⟨c, some cs, [], read, 0, false⟩
  match current with
  | c :: cs => readLetter read place c cs
  | [] =>
    match args[read]? with
    | some ['-', '-'] => atEnd (read + 1)
    | some ('-' :: c :: cs) => readLetter (read + 1) 1 c cs
    | _ => atEnd read

/-- Reads the next flag of a script into a variable. -/
def getoptsCommand : Builtin := fun _ args => do
  match args with
  | letters :: name :: more =>
    let s ← get
    let all := if more = [] then s.positional else more
    let next := ((s.value? (rawOf "OPTIND")).bind natural?).getD 1
    let r := nextFlag letters all (next - 1) s.flagPlace
    note r.message
    if !r.finished then
      match r.value with
      | some value => assign (rawOf "OPTARG") value false
      | none => modify fun s => s.removeVariable (rawOf "OPTARG")
    assign (rawOf "OPTIND") (rawOf (toString (r.read + 1))) false
    requireName name
    assign name [r.letter] false
    modify fun s => { s with flagPlace := r.place }
    return if r.finished then 1 else 0
  | _ => giveUp (rawOf "Usage: getopts optstring var [arg...]")

end TextChain.Tool.Shell
