import TextChain.Tool.Tree

/-!
# Tools

A tool is a program that reads bytes, writes bytes to its output and to its error output, and ends.
-/

namespace TextChain.Tool

/-- How a program ended. -/
inductive Ending
  /-- It ended by itself with this status. -/
  | exited (status : Nat)
  /-- A signal ended it. -/
  | killed (signal : Nat)
deriving DecidableEq, Repr

/-- The names of the signals that can end a program. -/
def signalNames : List (Nat × String) :=
  [(1, "SIGHUP"), (2, "SIGINT"), (3, "SIGQUIT"), (4, "SIGILL"), (5, "SIGTRAP"), (6, "SIGABRT"),
   (7, "SIGBUS"), (8, "SIGFPE"), (9, "SIGKILL"), (10, "SIGUSR1"), (11, "SIGSEGV"), (12, "SIGUSR2"),
   (13, "SIGPIPE"), (14, "SIGALRM"), (15, "SIGTERM"), (16, "SIGSTKFLT"), (24, "SIGXCPU"),
   (25, "SIGXFSZ"), (26, "SIGVTALRM"), (27, "SIGPROF"), (29, "SIGIO"), (30, "SIGPWR"),
   (31, "SIGSYS")]

def Ending.text : Ending → String
  | .exited status => s!"exit status: {status}"
  | .killed signal =>
    match signalNames.lookup signal with
    | some name => s!"signal: {signal} ({name})"
    | none => s!"signal: {signal}"

/-- The status that a shell reports for an ending. -/
def Ending.status : Ending → Nat
  | .exited status => status
  | .killed signal => 128 + signal

/-- What a program leaves behind. -/
structure Outcome where
  output : Raw
  errors : Raw
  ending : Ending
  unread : Raw
  tree : Tree

structure Invocation where
  name : Raw
  args : List Raw
  environment : List (Raw × Raw)
  /-- What it can read. -/
  input : Raw
  tree : Tree

namespace Invocation

/-- The outcome of a program that reads all of its input. -/
def finish (i : Invocation) (status : Nat) (output errors : Raw) : Outcome :=
  ⟨output, errors, .exited status, [], i.tree⟩

/-- The outcome of a program that reads nothing. -/
def finishUnread (i : Invocation) (status : Nat) (output errors : Raw) : Outcome :=
  ⟨output, errors, .exited status, i.input, i.tree⟩

/-- The outcome of a program that works and reads all of its input. -/
def succeed (i : Invocation) (output : Raw) : Outcome :=
  i.finish 0 output []

/-- A line of a program with its name in front. -/
def line (i : Invocation) (message : Raw) : Raw :=
  i.name ++ rawOf ": " ++ message ++ ['\n']

/-- The outcome of a program that gives up with a message before it reads anything. -/
def fail (i : Invocation) (status : Nat) (message : Raw) : Outcome :=
  i.finishUnread status [] (i.line message)

/-- The line that says where help is. -/
def hint (i : Invocation) : Raw :=
  rawOf "Try '" ++ i.name ++ rawOf " --help' for more information.\n"

/-- The outcome of a program that was called in a wrong way. -/
def refuse (i : Invocation) (status : Nat) (message : Raw) : Outcome :=
  i.finishUnread status [] (i.line message ++ i.hint)

/-- Reads an operand: its input for a hyphen, a file otherwise. -/
def readOperand (i : Invocation) (path : Raw) : Except FileError Raw :=
  if path = ['-'] || path = rawOf "/dev/stdin" then .ok i.input else i.tree.read path

/-- Whether some operands make a program read its input. -/
def readsInput (paths : List Raw) : Bool :=
  paths.contains ['-'] || paths.contains (rawOf "/dev/stdin")

end Invocation

/-! ### Words in messages -/

/-- The letters of the escapes of control characters. -/
def escapeLetters : List (Char × Char) :=
  [('\x07', 'a'), ('\x08', 'b'), ('\x0c', 'f'), ('\n', 'n'), ('\r', 'r'), ('\t', 't'), ('\x0b', 'v')]

/-- A character in three octal digits. -/
def octalText (c : Char) : Raw :=
  (Nat.toDigits 8 (512 + c.toNat)).drop 1

/-- The escape of a character that is not printed. -/
def escapeOf (c : Char) : Raw :=
  match escapeLetters.lookup c with
  | some letter => ['\\', letter]
  | none => '\\' :: octalText c

def quoteWord (cs : Raw) : Raw :=
  let shown := cs.flatMap fun c =>
    if c = '\'' || c = '\\' then ['\\', c]
    else if isPrint c then [c]
    else escapeOf c
  ['\''] ++ shown ++ ['\'']

/-! ### Names in messages -/

/-- Whether a character has a meaning for a shell wherever it stands. -/
def isShellSpecial (c : Char) : Bool :=
  (rawOf " !\"$&'()*;<=>?[\\^\x60|").contains c || !isPrint c

/-- Whether a shell takes a name as it is. -/
def isShellWord (cs : Raw) : Bool :=
  match cs with
  | [] => false
  | [c] => !isShellSpecial c && !"#~\x7b\x7d".toList.contains c
  | c :: _ => c ≠ '#' && c ≠ '~' && !cs.any isShellSpecial

/-- Whether a name with a quote in it can stand as it is between double quotes. -/
def fitsDoubleQuotes (cs : Raw) : Bool :=
  cs.tail.all (fun c => c ≠ '#' && c ≠ '~') &&
    cs.all fun c =>
      c = '\'' || c = ' ' || !(isShellSpecial c || c = '\x7b' || c = '\x7d')

/-- What stands between the quotes of a name. Characters that are not printed are escaped between quotes
of their own, which are open at the start or not. -/
def quotedChars : Bool → Raw → Raw
  | _, [] => []
  | isOpen, c :: cs =>
    if c = '\'' then rawOf "'\\''" ++ quotedChars false cs
    else if isPrint c then (if isOpen then rawOf "''" else []) ++ c :: quotedChars false cs
    else (if isOpen then [] else rawOf "'$'") ++ escapeOf c ++ quotedChars true cs

def quoteName (cs : Raw) : Raw :=
  if cs.contains '\'' && fitsDoubleQuotes cs then ['"'] ++ cs ++ ['"']
  else ['\''] ++ quotedChars false cs ++ ['\'']

/-- A name, between quotes if a shell needs them. -/
def quoteShell (cs : Raw) : Raw :=
  if isShellWord cs then cs else quoteName cs

/-- The name of a file, between quotes if a shell needs them or if a colon would be misread. -/
def quoteFile (cs : Raw) : Raw :=
  if isShellWord cs && !cs.contains ':' then cs else quoteName cs

end TextChain.Tool
