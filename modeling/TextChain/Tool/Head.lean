import TextChain.Tool.Amount
import TextChain.Tool.Flags

/-!
# The start of files

Writes the first lines or bytes of files, or all but the last ones.
-/

namespace TextChain.Tool.Head

/-- The flags. A digit is one only to be refused: a number is read as the first argument alone. -/
def flags : Flags where
  letters := [('c', .value), ('n', .value), ('q', .nothing), ('v', .nothing), ('z', .nothing)] ++
    "0123456789".toList.map (·, .nothing)
  words := [("bytes", 'c', .value), ("lines", 'n', .value), ("quiet", 'q', .nothing),
    ("silent", 'q', .nothing), ("verbose", 'v', .nothing), ("zero-terminated", 'z', .nothing)]
  ordered := false

/-- How much of a file is written. -/
structure Extent where
  /-- Whether bytes are counted and not lines. -/
  bytes : Bool
  count : Nat
  /-- Whether it is the number of those at the end that are left out. -/
  fromEnd : Bool
  stop : Char

/-- How many bytes are read at once. -/
def blockSize : Nat := 8192

def Extent.select (e : Extent) (text : Raw) : Raw :=
  if e.bytes then text.take (if e.fromEnd then text.length - e.count else e.count)
  else
    let all := linesBy e.stop text
    (all.take (if e.fromEnd then all.length - e.count else e.count)).flatMap (·.whole e.stop)

/-- The part of a text that is left unread, after a part was written. Lines are looked for in
blocks. -/
def Extent.leaves (e : Extent) (text written : Raw) : Raw :=
  if e.fromEnd then []
  else if e.bytes then text.drop e.count
  else text.drop ((written.length + blockSize - 1) / blockSize * blockSize)

structure Request where
  /-- How much of each file is written. -/
  extent : Extent
  /-- Whether files have headings, if it is said. -/
  headed : Option Bool

/-- Ten lines of each file. -/
def Request.plain : Request := ⟨⟨false, 10, false, '\n'⟩, none⟩

/-- Why a request cannot be met. -/
inductive Fault
  | value (message : Raw)
  | flags (message : Raw)

/-- Asks for an amount; a hyphen in front counts from the end. -/
def Request.ask (r : Request) (bytes : Bool) (value : Raw) : Except Fault Request :=
  let (fromEnd, text) := match value with
    | '-' :: rest => (true, rest)
    | text => (false, text)
  let what := if bytes then "invalid number of bytes" else "invalid number of lines"
  match amount text with
  | .ok count => .ok { r with extent := ⟨bytes, count, fromEnd, r.extent.stop⟩ }
  | .error fault => .error (.value (fault.message what text))

/-- The message about a letter after a number. -/
def Fault.trailing (c : Char) : Fault :=
  .flags (rawOf "invalid trailing option -- " ++ [c])

def Request.add (r : Request) (g : Given) : Except Fault Request :=
  match g.1 with
  | 'q' => .ok { r with headed := some false }
  | 'v' => .ok { r with headed := some true }
  | 'z' => .ok { r with extent := { r.extent with stop := '\x00' } }
  | 'c' => r.ask true (g.2.getD [])
  | 'n' => r.ask false (g.2.getD [])
  | letter => .error (.trailing letter)

/-- Reads the letters after a number: the request, whether bytes are counted, and the multiple. -/
def Request.addLetters (r : Request) (bytes : Bool) (multiple : Raw) :
    Raw → Except Fault (Request × Bool × Raw)
  | [] => .ok (r, bytes, multiple)
  | c :: cs =>
    match c with
    | 'c' => r.addLetters true [] cs
    | 'l' => r.addLetters false multiple cs
    | 'b' | 'k' | 'm' => r.addLetters true [c] cs
    | 'q' | 'v' | 'z' =>
      match r.add (c, none) with
      | .ok r => r.addLetters bytes multiple cs
      | .error fault => .error fault
    | _ => .error (.trailing c)

/-- Reads a first argument such as `-5` or `-2kq`, and gives the other arguments. -/
def Request.first (r : Request) (args : List Raw) : Except Fault (Request × List Raw) :=
  match args with
  | ('-' :: c :: cs) :: rest =>
    if c.isDigit then do
      let (r, bytes, multiple) ← r.addLetters false [] ((c :: cs).dropWhile Char.isDigit)
      let r ← r.ask bytes ((c :: cs).takeWhile Char.isDigit ++ multiple)
      .ok (r, rest)
    else .ok (r, args)
  | _ => .ok (r, args)

def Request.read (args : List Raw) : Except Fault (Request × List Raw) := do
  let (r, args) ← Request.plain.first args
  let reading := flags.scan args
  let r ← reading.given.foldlM Request.add r
  match reading.fault with
  | none => .ok (r, reading.operands)
  | some message => .error (.flags message)

def heading (first : Bool) (path : Raw) : Raw :=
  let name := if path = ['-'] then rawOf "standard input" else path
  (if first then [] else ['\n']) ++ rawOf "==> " ++ name ++ rawOf " <==\n"

/-- Reads an operand. A directory is found out only if something is read. -/
def Extent.source (e : Extent) (i : Invocation) (path : Raw) : Except FileError Raw :=
  match i.readOperand path with
  | .error .isDirectory => if e.count = 0 && !e.fromEnd then .ok [] else .error .isDirectory
  | found => found

/-- Writes the parts of files: the output, the messages, and what is left of the input. -/
def writeAll (i : Invocation) (e : Extent) (headed first : Bool) : List Raw → Raw × Raw × Raw
  | [] => ([], [], i.input)
  | path :: rest =>
    match e.source i path with
    | .ok text =>
      let part := e.select text
      let input := if Invocation.readsInput [path] then e.leaves text part else i.input
      let (output, errors, left) := writeAll { i with input } e headed false rest
      ((if headed then heading first path else []) ++ part ++ output, errors, left)
    | .error .isDirectory =>
      let (output, errors, left) := writeAll i e headed false rest
      let message := rawOf "error reading " ++ quoteName path ++
        rawOf (": " ++ FileError.isDirectory.reason)
      ((if headed then heading first path else []) ++ output, i.line message ++ errors, left)
    | .error reason =>
      let (output, errors, left) := writeAll i e headed first rest
      let message := rawOf "cannot open " ++ quoteName path ++
        rawOf (" for reading: " ++ reason.reason)
      (output, i.line message ++ errors, left)

/-- Writes the start of its input or of files. -/
def run (i : Invocation) : Outcome :=
  match Request.read i.args with
  | .error (.value message) => i.fail 1 message
  | .error (.flags message) => i.refuse 1 message
  | .ok (r, operands) =>
    let paths := if operands = [] then [['-']] else operands
    let headed := r.headed.getD (1 < paths.length)
    let (output, errors, left) := writeAll i r.extent headed true paths
    { i.finish (if errors = [] then 0 else 1) output errors with unread := left }

end TextChain.Tool.Head
