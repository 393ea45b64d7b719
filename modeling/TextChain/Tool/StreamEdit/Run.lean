import TextChain.Tool.Flags
import TextChain.Tool.StreamEdit.Read

/-!
# Editing streams

Carries out scripts. In each cycle a line is read into the space in which the commands work, the
commands are carried out, and the space is written; then follows what commands have put into the queue.
-/

namespace TextChain.Tool.StreamEdit

/-! ### State -/

inductive RangeState
  | outside
  /-- Inside, up to a line that is found when it is reached. -/
  | inside
  /-- Inside, up to the line with a number; lines behind it are outside. -/
  | upTo (stop : Nat)
  /-- Inside, up to the first line from a number on. -/
  | reaching (stop : Nat)
  /-- Behind a range that cannot start again. -/
  | behind
deriving DecidableEq

/-- What a script has in hand: a text, and whether an end of line belongs to it. -/
structure Space where
  text : Raw
  closed : Bool

/-- What is written at the end of a cycle. -/
inductive Queued
  | text (text : Raw)
  | file (path : Raw)

/-- A place to which a script writes. -/
structure Sink where
  path : Raw
  /-- What was written, the last first. -/
  chunks : List Raw
  /-- Whether the end of the last line is missing. -/
  incomplete : Bool

structure State where
  /-- What the run was started with. -/
  call : Invocation
  space : Space
  /-- The space for later. -/
  held : Space
  number : Nat
  /-- The lines of the current file that are left. -/
  lines : List Line
  file : Raw
  /-- The files that were not opened. -/
  paths : List Raw
  opened : Bool
  /-- Whether the input of the tool was opened, and how many characters of it were taken. -/
  taken : Option Nat
  /-- What was written to the output, the last first. -/
  chunks : List Raw
  /-- Whether the end of the last line of the output is missing. -/
  incomplete : Bool
  /-- What was written to the error output, the last first. -/
  errors : List Raw
  /-- What is written at the end of the cycle, the last first. -/
  queue : List Queued
  /-- Whether something was replaced since a line was read. -/
  replaced : Bool
  ranges : Array RangeState
  lastSearch : Option Search
  /-- The other places to which was written. -/
  sinks : List Sink
  /-- What is left of the files that are read line by line. -/
  sources : List (Raw × List Line)
  status : Nat

/-- A script with the manner in which it is carried out. -/
structure Script where
  commands : Array Command
  /-- Whether lines are not written by themselves. -/
  silent : Bool
  /-- Whether each file has its own lines. -/
  separate : Bool
  stop : Char
  /-- The width in which lines are shown; zero for any width. -/
  width : Nat
  /-- Whether the input is read only as far as it is needed. -/
  unbuffered : Bool

/-- A result, or a fault that ends the run in a state. -/
abbrev Attempt (α : Type) := Except (Fault × State) α

/-! ### Output -/

namespace State

/-- Ends the last line of the output if it has no end. -/
def complete (s : State) (stop : Char) : State :=
  if s.incomplete then { s with chunks := [stop] :: s.chunks, incomplete := false } else s

def put (s : State) (stop : Char) (text : Raw) : State :=
  let s := s.complete stop
  { s with chunks := text :: s.chunks }

/-- Writes a text with its end if it has one. -/
def putSpace (s : State) (stop : Char) (space : Space) : State :=
  let s := s.put stop (if space.closed then space.text ++ [stop] else space.text)
  { s with incomplete := !space.closed }

/-- Writes a text with its end to a file. -/
def putFile (s : State) (stop : Char) (path : Raw) (space : Space) : State :=
  match s.sinks.find? (·.path = path) with
  | none => s
  | some sink =>
    let start := if sink.incomplete then [stop] else []
    let text := start ++ space.text ++ (if space.closed then [stop] else [])
    let isOutput := path = rawOf "/dev/stdout"
    let isErrors := path = rawOf "/dev/stderr"
    let sink := { sink with
      chunks := if isOutput || isErrors then [] else text :: sink.chunks
      incomplete := !space.closed }
    { s with
      sinks := s.sinks.map fun k => if k.path = path then sink else k
      chunks := if isOutput then text :: s.chunks else s.chunks
      errors := if isErrors then text :: s.errors else s.errors }

def flush (s : State) (stop : Char) : State :=
  s.queue.reverse.foldl (fun s q =>
    match q with
    | .text text => s.put stop text
    | .file path => s.put stop ((s.call.tree.read path).toOption.getD []))
    { s with queue := [] }

/-! ### Input -/

def openFile (s : State) (script : Script) (path : Raw) (rest : List Raw) : State :=
  let s := { s with paths := rest }
  let restart (s : State) : State :=
    if script.separate && s.opened then
      { s.complete script.stop with number := 0, ranges := s.ranges.map fun _ => .outside }
    else s
  let isInput := path = ['-'] || path = rawOf "/dev/stdin"
  if isInput then
    let text := if s.taken.isSome then [] else s.call.input
    { restart s with
      lines := linesBy script.stop text, file := path, opened := true
      taken := some (s.taken.getD 0) }
  else
    match s.call.tree.read path with
    | .ok text => { restart s with lines := linesBy script.stop text, file := path, opened := true }
    | .error .isDirectory =>
      let message := rawOf "read error on " ++ path ++ rawOf ": Is a directory"
      { s with status := 4, paths := [], errors := s.call.line message :: s.errors }
    | .error reason =>
      let message := rawOf "can't read " ++ path ++ rawOf ": " ++ rawOf reason.reason
      { s with status := 2, errors := s.call.line message :: s.errors }

/-- Opens files until there is a line. The list has the files that were not opened. -/
def prepare (s : State) (script : Script) : List Raw → State
  | [] => s
  | path :: rest =>
    if s.lines ≠ [] || s.paths = [] then s
    else (s.openFile script path rest).prepare script rest

/-- Whether no line follows; files that follow are opened to find out, unless each has its own
lines. -/
def atEnd (s : State) (script : Script) : Bool × State :=
  if s.lines ≠ [] then (false, s)
  else if script.separate && s.opened then (true, s)
  else
    let s := s.prepare script s.paths
    (s.lines = [], s)

/-- Reads the next line. What is in the queue is written first. -/
def nextLine (s : State) (script : Script) : Option Line × State :=
  let s := (s.flush script.stop).prepare script s.paths
  match s.lines with
  | [] => (none, s)
  | l :: rest =>
    let isInput := s.file = ['-'] || s.file = rawOf "/dev/stdin"
    let size := (l.whole script.stop).length
    (some l, { s with
      lines := rest, number := s.number + 1, replaced := false
      taken := if isInput then s.taken.map (· + size) else s.taken })

end State

/-! ### Selection -/

/-- The pattern that is meant. It becomes the one used last. -/
def State.resolve (s : State) (search : Option Search) :
    Attempt (Search × State) :=
  match search with
  | some found => .ok (found, { s with lastSearch := some found })
  | none =>
    match s.lastSearch with
    | some found => .ok (found, s)
    | none => .error (.noSearch, s)

/-- Whether an address selects the line. -/
def State.matches (s : State) (script : Script) :
    Address → Attempt (Bool × State)
  | .line n => .ok (n = s.number, s)
  | .steps first distance =>
    .ok (first ≤ s.number && (s.number - first) % distance = 0, s)
  | .last => .ok (s.atEnd script)
  | .search search => do
    let (found, s) ← s.resolve search
    .ok ((found.find? s.space.text.toArray 0).isSome, s)

def State.setRange (s : State) (index : Nat) (r : RangeState) : State :=
  { s with ranges := s.ranges.setIfInBounds index r }

/-- Starts a range at the line; `isFirst` says that its first address selects the line. Says whether the
line is in the range. -/
def State.startRange (s : State) (script : Script) (index : Nat) (isFirst : Bool) (last : RangeEnd) :
    Attempt (Bool × State) := do
  let reach (stop : Nat) : Attempt (Bool × State) :=
    .ok (true, s.setRange index (if stop ≤ s.number then .behind else .reaching stop))
  match last with
  | .after count => reach (s.number + count)
  | .multiple factor =>
    reach (if factor = 0 then s.number else (s.number / factor + 1) * factor)
  | .address (.line n) =>
    if n ≤ s.number then .ok (s.number ≤ n || isFirst, s.setRange index .behind)
    else .ok (true, s.setRange index (.upTo n))
  | .address (.search _) => .ok (true, s.setRange index .inside)
  | .address a =>
    let (reached, s) ← s.matches script a
    .ok (true, s.setRange index (if reached then .behind else .inside))

/-- Goes on with a range whose end is found when it is reached. -/
def State.continueRange (s : State) (script : Script) (index : Nat) (last : RangeEnd) :
    Attempt (Bool × State) := do
  match last with
  | .address a =>
    let (reached, s) ← s.matches script a
    .ok (true, if reached then s.setRange index .behind else s)
  | _ => .ok (true, s)

/-- Whether the line is in the range of the command with an index. -/
def State.inRange (s : State) (script : Script) (index : Nat) (first : Address)
    (last : RangeEnd) : Attempt (Bool × State) := do
  match s.ranges[index]?.getD .outside, first with
  | .upTo n, _ =>
    .ok (s.number ≤ n, if n ≤ s.number then s.setRange index .behind else s)
  | .reaching n, _ =>
    .ok (true, if n ≤ s.number then s.setRange index .behind else s)
  | .inside, _ => s.continueRange script index last
  | state, .line n =>
    if state = .behind || s.number < n then .ok (false, s)
    else if n = 0 then (s.setRange index .inside).continueRange script index last
    else s.startRange script index (s.number = n) last
  | _, first =>
    let (found, s) ← s.matches script first
    if found then s.startRange script index true last else .ok (false, s)

def State.selects (s : State) (script : Script) (index : Nat) (sel : Selection) :
    Attempt (Bool × State) := do
  match sel.first, sel.last with
  | none, _ => .ok (!sel.negated, s)
  | some a, none =>
    let (found, s) ← s.matches script a
    .ok (found != sel.negated, s)
  | some a, some last =>
    let (found, s) ← s.inRange script index a last
    .ok (found != sel.negated, s)

/-! ### Substitution -/

/-- A letter in a case. A character that is no byte of a plain letter set is lost. -/
def Case.apply (c : Case) (a : Char) : Char :=
  match c with
  | .kept => a
  | .upper => if 128 ≤ a.toNat then '\xff' else a.toUpper
  | .lower => if 128 ≤ a.toNat then '\xff' else a.toLower

/-- A text with its letters changed. -/
def Recasing.apply (r : Recasing) : Raw → Raw
  | [] => []
  | c :: cs =>
    (if r.first = .kept then r.all else r.first).apply c :: cs.map r.all.apply

/-- The text that replaces a match. A change of a first letter waits for a letter. -/
def expand (s : Pattern.Subject) (found : Pattern.Found) (waiting : Case) : List Part → Raw
  | [] => []
  | p :: rest =>
    let now : Recasing := if p.recasing.first = .kept then ⟨waiting, p.recasing.all⟩ else p.recasing
    let after : Recasing := if p.text = [] then now else ⟨.kept, now.all⟩
    let group := (p.group.map (found.group s)).getD []
    let waits := p.group.isSome && group = [] && p.recasing.first ≠ .kept
    now.apply p.text ++ after.apply group ++
      expand s found (if waits then after.first else .kept) rest

/-- Replaces matches from a position on: the text from there on, and whether something was replaced.
`count` is the number of matches before, and `previous` says where the last one ended. The first
argument bounds the number of matches. -/
def replaceFrom (r : Replacing) (search : Search) (subject : Pattern.Subject) :
    Nat → Nat → Nat → Option Nat → Raw × Bool
  | 0, start, _, _ => (subject.part start subject.chars.size, false)
  | fuel + 1, start, count, previous =>
    match search.find? subject.chars start with
    | none => (subject.part start subject.chars.size, false)
    | some found =>
      let before := subject.part start found.start
      let next := subject.part found.stop (found.stop + 1)
      if found.start = found.stop && previous = some found.start then
        let (text, replaced) :=
          if subject.chars.size ≤ found.stop then ([], false)
          else replaceFrom r search subject fuel (found.stop + 1) count none
        (before ++ next ++ text, replaced)
      else
        let count := count + 1
        let isReplaced := r.occurrence ≤ count
        let shown := if isReplaced then expand subject found .kept r.parts
          else subject.part found.start found.stop
        if isReplaced && !r.all then
          (before ++ shown ++ subject.part found.stop subject.chars.size, true)
        else if found.start = found.stop then
          let (text, replaced) :=
            if subject.chars.size ≤ found.stop then ([], false)
            else replaceFrom r search subject fuel (found.stop + 1) count none
          (before ++ shown ++ next ++ text, isReplaced || replaced)
        else
          let (text, replaced) := replaceFrom r search subject fuel found.stop count (some found.stop)
          (before ++ shown ++ text, isReplaced || replaced)

def State.substitute (s : State) (script : Script) (r : Replacing) :
    Attempt State := do
  let (search, s) ← s.resolve r.search
  let greatest := greatestGroup r.parts
  if search.groups < greatest then .error (.reference greatest, s)
  else
    let chars := s.space.text.toArray
    let (text, replaced) :=
      replaceFrom r search ⟨chars, search.several, search.folds⟩ (chars.size + 2) 0 0 none
    if !replaced then .ok s
    else
      let s := { s with space := { s.space with text }, replaced := true }
      let s := if r.printed then s.putSpace script.stop s.space else s
      .ok (match r.file with
        | some path => s.putFile script.stop path s.space
        | none => s)

/-! ### Showing lines -/

def shown (c : Char) : Raw :=
  if c = '\\' then ['\\', '\\']
  else if isPrint c then [c]
  else
    match escapeLetters.lookup c with
    | some letter => ['\\', letter]
    | none => '\\' :: octalText c

/-- A text as it is shown in lines of a width; `column` characters are in the line. -/
def listText (stop : Char) (width column : Nat) : Raw → Raw
  | [] => ['$', stop]
  | c :: cs =>
    let text := shown c
    if width ≠ 0 && width - 1 < column + text.length then
      ['\\', stop] ++ text ++ listText stop width text.length cs
    else text ++ listText stop width (column + text.length) cs

/-! ### Commands -/

def State.withLine (s : State) (l : Line) : State :=
  { s with space := ⟨l.text, l.closed⟩ }

inductive Next
  | goto (index : Nat)
  | endCycle (printed : Bool)
  /-- The start of a cycle without a new line. -/
  | again
  | quit (status : Nat)

/-- The first line of a text and what is behind its end; none if it has only one line. -/
def cutLine (stop : Char) (text : Raw) : Option (Raw × Raw) :=
  match text.dropWhile (· ≠ stop) with
  | [] => none
  | _ :: rest => some (text.takeWhile (· ≠ stop), rest)

/-- Carries out an action of the command with an index. -/
def State.perform (s : State) (script : Script) (index : Nat) (a : Action) :
    Attempt (Next × State) :=
  let stop := script.stop
  let go (s : State) : Attempt (Next × State) := .ok (.goto (index + 1), s)
  let firstLine : Space :=
    match cutLine stop s.space.text with
    | some (first, _) => ⟨first, true⟩
    | none => s.space
  let join (a b : Space) : Space := ⟨a.text ++ [stop] ++ b.text, b.closed⟩
  match a with
  | .opening | .closing | .mark _ => go s
  | .jump condition label =>
    let taken := match condition with
      | .always => true
      | .replaced => s.replaced
      | .unreplaced => !s.replaced
    let s := if condition = .always then s else { s with replaced := false }
    let target := if label = [] then script.commands.size
      else (labelIndex? script.commands label).getD script.commands.size
    .ok (.goto (if taken then target else index + 1), s)
  | .append text => go { s with queue := .text text :: s.queue }
  | .insert text => go (if text = [] then s else s.put stop (text.dropLast ++ [stop]))
  | .change text =>
    let isInside := match s.ranges[index]?.getD .outside with
      | .outside | .behind => false
      | _ => true
    .ok (.endCycle false, if isInside || text = [] then s else s.put stop (text.dropLast ++ [stop]))
  | .delete => .ok (.endCycle false, s)
  | .deleteFirst =>
    match cutLine stop s.space.text with
    | none => .ok (.endCycle false, s)
    | some (_, rest) => .ok (.again, { s with space := { s.space with text := rest } })
  | .print => go (s.putSpace stop s.space)
  | .printFirst => go (s.putSpace stop firstLine)
  | .next =>
    match s.atEnd script with
    | (true, s) => .ok (.endCycle true, s)
    | (false, s) =>
      let s := if script.silent then s else s.putSpace stop s.space
      match s.nextLine script with
      | (none, s) => .ok (.endCycle false, s)
      | (some l, s) => go (s.withLine l)
  | .appendNext =>
    match s.atEnd script with
    | (true, s) => .ok (.endCycle true, s)
    | (false, s) =>
      match s.nextLine script with
      | (none, s) => .ok (.endCycle true, s)
      | (some l, s) => go { s with space := join s.space ⟨l.text, l.closed⟩ }
  | .hold => go { s with held := s.space }
  | .appendHold => go { s with held := join s.held s.space }
  | .get => go { s with space := s.held }
  | .appendGet => go { s with space := join s.space s.held }
  | .exchange => go { s with space := s.held, held := s.space }
  | .list width => go (s.put stop (listText stop (width.getD script.width) 0 s.space.text))
  | .number => go (s.put stop (rawOf (toString s.number) ++ [stop]))
  | .quit status =>
    let s := if script.silent then s else s.putSpace stop s.space
    .ok (.quit status, (s.complete stop).flush stop)
  | .quitSilently status => .ok (.quit status, s)
  | .readFile path => go { s with queue := .file path :: s.queue }
  | .readLine path =>
    let lines := match s.sources.lookup path with
      | some lines => lines
      | none => linesBy stop ((s.call.tree.read path).toOption.getD [])
    let others := s.sources.filter fun source => source.1 ≠ path
    match lines with
    | [] => go { s with sources := (path, []) :: others }
    | l :: rest =>
      go { s with sources := (path, rest) :: others, queue := .text (l.whole stop) :: s.queue }
  | .writeFile path => go (s.putFile stop path s.space)
  | .writeFirst path => go (s.putFile stop path firstLine)
  | .substitute r => do go (← s.substitute script r)
  | .exchangeLetters pairs =>
    let text := s.space.text.map fun c => (pairs.lookup c).getD c
    go { s with space := { s.space with text } }
  | .fileName => go (s.put stop (s.file ++ [stop]))
  | .clear => go { s with space := { s.space with text := [] } }

/-! ### Runs -/

/-- How a run ended: its status, or a fault. -/
abbrev Ended := Except Fault Nat

/-- Carries out the commands from an index on, and further cycles. The first argument bounds the number
of steps. -/
def State.loop (script : Script) : Nat → Nat → State → Ended × State
  | 0, _, s => (.ok s.status, s)
  | fuel + 1, index, s =>
    let nextCycle (s : State) : Ended × State :=
      match s.nextLine script with
      | (none, s) => (.ok s.status, s)
      | (some l, s) => (s.withLine l).loop script fuel 0
    let endCycle (printed : Bool) (s : State) : Ended × State :=
      nextCycle (if printed && !script.silent then s.putSpace script.stop s.space else s)
    match script.commands[index]? with
    | none => endCycle true s
    | some c =>
      match s.selects script index c.selection with
      | .error (fault, s) => (.error fault, s)
      | .ok (false, s) =>
        match c.action with
        | .opening =>
          s.loop script fuel (behindBlock (script.commands.toList.drop (index + 1)) 0 (index + 1))
        | _ => s.loop script fuel (index + 1)
      | .ok (true, s) =>
        match s.perform script index c.action with
        | .error (fault, s) => (.error fault, s)
        | .ok (.goto target, s) => s.loop script fuel target
        | .ok (.endCycle printed, s) => endCycle printed s
        | .ok (.again, s) => s.loop script fuel 0
        | .ok (.quit status, s) => (.ok status, s)

def stepLimit : Nat := 100000000

/-- What a run leaves unread of the input. The input is read in blocks. -/
def State.unread (s : State) (script : Script) : Raw :=
  match s.taken with
  | none => s.call.input
  | some n => s.call.input.drop (if script.unbuffered then n else (n + 4095) / 4096 * 4096)

def State.tree (s : State) : Tree :=
  s.sinks.foldl (fun t sink => (t.write sink.path sink.chunks.reverse.flatten).toOption.getD t)
    s.call.tree

/-- The files to which a script writes, in their order. -/
def writtenPaths (commands : List Command) : List Raw :=
  (commands.filterMap fun c =>
    match c.action with
    | .writeFile path | .writeFirst path => some path
    | .substitute r => r.file
    | _ => none).eraseDups

def isOutputPath (path : Raw) : Bool :=
  path = rawOf "/dev/stdout" || path = rawOf "/dev/stderr"

/-- The files with those to which a script writes made empty. -/
def emptied (t : Tree) (paths : List Raw) : Except (Raw × FileError) Tree :=
  paths.foldlM (fun t path =>
    if isOutputPath path then .ok t
    else (t.write path []).mapError fun reason => (path, reason)) t

/-- The first label, from the end of a script, to which is jumped in vain. -/
def missingLabel? (commands : Array Command) : Option Raw :=
  (commands.toList.reverse.filterMap fun c =>
    match c.action with
    | .jump _ name => if name = [] then none else some name
    | _ => none).find? fun name => (labelIndex? commands name).isNone

def readScripts (m : Manner) : Nat → Draft → List Raw → Except (Nat × Nat × Fault) Draft
  | _, d, [] => .ok d
  | number, d, text :: rest =>
    match m.script number d text with
    | .ok d => readScripts m (number + 1) d rest
    | .error (fault, left) => .error (number, text.length - left, fault)

/-- The commands of scripts, or the number of a script, the number of a character and a fault. -/
def readProgram (m : Manner) (texts : List Raw) :
    Except (Nat × Nat × Fault) (Array Command) := do
  let d ← readScripts m 1 ⟨[], [], none⟩ texts
  let d ← (match d.pending with
    | none => .ok d
    | some (s, make, text) =>
      match finishText ⟨text, false⟩ [] with
      | .ok text => .ok (d.add s (make text))
      | .error (fault, _) => .error (texts.length, (texts.getLast?.getD []).length, fault) :
      Except (Nat × Nat × Fault) Draft)
  match d.blocks with
  | [] => .ok d.commands.reverse.toArray
  | number :: _ => .error (number, 0, .openBlock)

def flags : Flags where
  letters := [('b', .nothing), ('s', .nothing), ('n', .nothing), ('r', .nothing), ('z', .nothing),
    ('u', .nothing), ('E', .nothing), ('e', .value), ('f', .value), ('l', .value), ('i', .attached)]
  words := [("binary", 'b', .nothing), ("regexp-extended", 'r', .nothing), ("debug", 'D', .nothing),
    ("in-place", 'i', .attached), ("expression", 'e', .value), ("file", 'f', .value),
    ("line-length", 'l', .value), ("null-data", 'z', .nothing), ("zero-terminated", 'z', .nothing),
    ("quiet", 'n', .nothing), ("posix", 'p', .nothing), ("silent", 'n', .nothing),
    ("sandbox", 'S', .nothing), ("separate", 's', .nothing), ("unbuffered", 'u', .nothing),
    ("follow-symlinks", 'F', .nothing)]
  ordered := false

/-- The text of a script in a file, without the end of its last line. -/
def scriptOfFile (i : Invocation) (path : Raw) : Except FileError Raw :=
  (i.readOperand path).map fun text => if text.getLast? = some '\n' then text.dropLast else text

/-- The message about a fault at a character of a script. -/
def faultMessage (number character : Nat) (f : Fault) : Raw :=
  rawOf "-e expression #" ++ rawOf (toString number) ++ rawOf ", char " ++
    rawOf (toString character) ++ rawOf ": " ++ rawOf f.message

def execute (i : Invocation) (given : List Given) (scripts : Nat) (commands : Array Command)
    (silent : Bool) (operands : List Raw) : Outcome :=
  let script : Script := {
    commands, silent
    separate := hasFlag given 's' || hasFlag given 'i'
    stop := if hasFlag given 'z' then '\x00' else '\n'
    width := match flagValue? given 'l' with
      | some value => (number value).1
      | none => 70
    unbuffered := hasFlag given 'u' }
  let written := writtenPaths commands.toList
  match emptied i.tree written with
  | .error (path, reason) =>
    i.fail 4 (rawOf "couldn't open file " ++ path ++ rawOf ": " ++ rawOf reason.reason)
  | .ok tree =>
    match missingLabel? commands with
    | some name => i.fail 4 (rawOf "can't find label for jump to \x60" ++ name ++ ['\''])
    | none =>
      let start : State := {
        call := { i with tree }, space := ⟨[], true⟩, held := ⟨[], true⟩, number := 0, lines := []
        file := ['-'], paths := if operands = [] then [['-']] else operands, opened := false
        taken := none, chunks := [], incomplete := false, errors := [], queue := []
        replaced := false, ranges := commands.map fun _ => .outside, lastSearch := none
        sinks := written.map fun path => ⟨path, [], false⟩, sources := [], status := 0 }
      let (ended, s) : Ended × State := match start.nextLine script with
        | (none, s) => (.ok s.status, s)
        | (some l, s) => (s.withLine l).loop script stepLimit 0
      let (status, errors) := match ended with
        | .ok status => (status, s.errors)
        | .error fault => (1, i.line (faultMessage scripts 0 fault) :: s.errors)
      ⟨s.chunks.reverse.flatten, errors.reverse.flatten, .exited status, s.unread script, s.tree⟩

/-- Edits its input or files as scripts say. -/
def run (i : Invocation) : Outcome :=
  match flags.read i.args with
  | .error message => i.fail 1 message
  | .ok (given, operands) =>
    let sources := given.filter fun g => g.1 = 'e' || g.1 = 'f'
    let texts : Except (Raw × FileError) (List Raw) := sources.mapM fun (letter, value) =>
      let value := value.getD []
      if letter = 'e' then .ok value
      else (scriptOfFile i value).mapError fun reason => (value, reason)
    match texts with
    | .error (path, reason) =>
      i.fail 4 (rawOf "couldn't open file " ++ path ++ rawOf ": " ++ rawOf reason.reason)
    | .ok texts =>
      let (texts, operands) := if sources = [] then (operands.take 1, operands.drop 1)
        else (texts, operands)
      if texts = [] then
        i.finishUnread 1 [] (rawOf "Usage: " ++ i.name ++
          rawOf " [OPTION]... \x7bscript-only-if-no-other-script\x7d [input-file]...\n")
      else
        match readProgram ⟨hasFlag given 'r' || hasFlag given 'E', hasFlag given 'S'⟩ texts with
        | .error (_, _, .pattern .looseClass) => i.fail 4 (rawOf Pattern.Fault.looseClass.message)
        | .error (number, character, fault) => i.fail 1 (faultMessage number character fault)
        | .ok commands =>
          let silent := hasFlag given 'n' || (texts.head?.map asksForSilence).getD false
          if hasFlag given 'i' && operands = [] then i.fail 4 (rawOf "no input files")
          else execute i given texts.length commands silent operands

end TextChain.Tool.StreamEdit
