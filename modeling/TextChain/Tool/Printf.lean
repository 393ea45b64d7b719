import TextChain.Tool.Basic
import TextChain.Tool.Real

/-!
# Formatted printing

A format is text with escapes and directives. Each directive takes the next argument; the format is
used again as long as arguments are left. There are two dialects: that of the program and that of the
command that is part of the shell.
-/

namespace TextChain.Tool.Printf

inductive Dialect
  | program
  | shell
deriving DecidableEq

def Dialect.precision : Dialect → Precision
  | .program => .extended
  | .shell => .double

/-! ### Escapes -/

/-- What an escape stands for. -/
inductive Escape
  | char (c : Char)
  | text (cs : Raw)
  /-- The end of all printing. -/
  | stop
  /-- A message about a faulty escape. -/
  | fault (message : Raw)

/-- Reads an escape of the program without its backslash. In an argument an octal number may have one
more zero in front. -/
def programEscape (inArgument : Bool) (cs : Raw) : Escape × Raw :=
  match cs with
  | [] => (.char '\\', [])
  | c :: rest =>
    if c = 'x' then
      match takeDigits 16 2 rest with
      | ([], rest) => (.fault (rawOf "missing hexadecimal number in escape"), rest)
      | (ds, rest) => (.char (Char.ofNat (ofDigits 16 ds)), rest)
    else if (digit? 8 c).isSome then
      let digits := if inArgument && c = '0' then rest else cs
      let (ds, rest) := takeDigits 8 3 digits
      (.char (Char.ofNat (ofDigits 8 ds % 256)), rest)
    else if c = 'c' then (.stop, rest)
    else if c = '"' then (.char '"', rest)
    else if c = 'e' then (.char '\x1b', rest)
    else if c = 'u' || c = 'U' then
      let count := if c = 'u' then 4 else 8
      let (ds, rest) := takeDigits 16 count rest
      if ds.length < count then (.fault (rawOf "missing hexadecimal number in escape"), rest)
      else
        let code := ofDigits 16 ds
        if code < 128 then (.char (Char.ofNat code), rest)
        else
          let digits := (Nat.toDigits 16 code).map Char.toUpper
          (.text (['\\', c] ++ List.replicate (count - digits.length) '0' ++ digits), rest)
    else
      match letterEscape? c with
      | some d => (.char d, rest)
      | none => (.text ['\\', c], rest)

/-- Reads an escape of the shell without its backslash. In an argument an octal number may have one
more zero in front, and printing can be stopped. -/
def shellEscape (inArgument : Bool) (cs : Raw) : Escape × Raw :=
  match cs with
  | [] => (.char '\\', [])
  | c :: rest =>
    if inArgument && c = 'c' then (.stop, rest)
    else if (digit? 8 c).isSome then
      let digits := if inArgument && c = '0' then rest else cs
      let (ds, rest) := takeDigits 8 3 digits
      (.char (Char.ofNat (ofDigits 8 ds % 256)), rest)
    else if c = 'e' then (.char '\x1b', rest)
    else
      match letterEscape? c with
      | some d => (.char d, rest)
      | none => (.char '\\', cs)

def Dialect.escape : Dialect → Bool → Raw → Escape × Raw
  | .program => programEscape
  | .shell => shellEscape

/-- Writes the escapes of an argument; the second part says whether printing is stopped. The first
argument bounds the number of characters. -/
def unescape (d : Dialect) : Nat → Raw → Raw × Bool
  | 0, _ => ([], false)
  | _, [] => ([], false)
  | fuel + 1, '\\' :: cs =>
    let (escape, rest) := d.escape true cs
    let (more, stopped) := unescape d fuel rest
    match escape with
    | .char c => (c :: more, stopped)
    | .text cs => (cs ++ more, stopped)
    | .stop => ([], true)
    | .fault _ => ([], true)
  | fuel + 1, c :: cs =>
    let (more, stopped) := unescape d fuel cs
    (c :: more, stopped)

/-! ### Directives -/

/-- A width or a number of places. -/
inductive Size
  | absent
  | fixed (n : Nat)
  | argument
deriving DecidableEq

structure Directive where
  flags : Raw
  width : Size
  places : Size
  letter : Char

def readSize (cs : Raw) : Size × Raw :=
  match cs with
  | '*' :: rest => (.argument, rest)
  | cs =>
    let rest := cs.dropWhile Char.isDigit
    match cs.takeWhile Char.isDigit with
    | [] => (.absent, rest)
    | ds => (.fixed (Nat.ofDigitChars 10 ds 0), rest)

/-- Reads the number of places after a point. -/
def readPlaces (cs : Raw) : Size × Raw :=
  match cs with
  | '.' :: after =>
    match readSize after with
    | (.absent, rest) => (.fixed 0, rest)
    | found => found
  | rest => (.absent, rest)

def Dialect.letters : Dialect → Raw
  | .program => "aAcdeEfFgGiosuxX".toList
  | .shell => "aAbcdeEfFgGiosuxX".toList

/-- Whether a flag or places may not go with the letter of a conversion. -/
def forbidden (flags : Raw) (places : Size) (letter : Char) : Bool :=
  let isIn (s : String) : Bool := s.toList.contains letter
  (flags.contains '#' && isIn "cdisu") || (flags.contains '0' && isIn "cs") ||
    ((flags.contains '\'' || flags.contains 'I') && isIn "aAceEosxX") ||
    (places ≠ .absent && letter = 'c')

/-- Reads a directive after its percent sign; the message if it is none. -/
def Dialect.directive (d : Dialect) (cs : Raw) : Except Raw (Directive × Raw) :=
  let flagChars := match d with
    | .program => "-+ #0'I".toList
    | .shell => "-+ #0".toList
  let flags := cs.takeWhile flagChars.contains
  if d = .program && (cs.head? = some 'b' || cs.head? = some 'q') then
    .ok (⟨[], .absent, .absent, cs.head?.getD 'b'⟩, cs.drop 1)
  else
    let (width, rest) := readSize (cs.dropWhile flagChars.contains)
    let (places, rest) := readPlaces rest
    let rest := if d = .program then rest.dropWhile "lLhjtz".toList.contains else rest
    let source := '%' :: cs.take (cs.length - rest.length + 1)
    match rest with
    | [] =>
      match d with
      | .program => .error (source ++ rawOf ": invalid conversion specification")
      | .shell => .error (rawOf "missing format character")
    | letter :: after =>
      if d.letters.contains letter && !(d = .program && forbidden flags places letter) then
        .ok (⟨flags, width, places, letter⟩, after)
      else
        match d with
        | .program => .error (source ++ rawOf ": invalid conversion specification")
        | .shell => .error (source ++ rawOf ": invalid directive")

/-- Fills a text up to a width, at the right or at the left. -/
def fill (left : Bool) (width : Nat) (text : Raw) : Raw :=
  let gap := List.replicate (width - text.length) ' '
  if left then text ++ gap else gap ++ text

/-- Puts a sign in front of a number and fills it up, with zeros after the sign if they are asked
for. -/
def fillNumber (flags : Raw) (zeros : Bool) (width : Nat) (sign body : Raw) : Raw :=
  if zeros && !flags.contains '-' then
    sign ++ List.replicate (width - sign.length - body.length) '0' ++ body
  else fill (flags.contains '-') width (sign ++ body)

/-- The sign in front of a number. -/
def signOf (flags : Raw) (negative : Bool) : Raw :=
  if negative then ['-']
  else if flags.contains '+' then ['+']
  else if flags.contains ' ' then [' ']
  else []

/-- A whole number as a directive writes it. -/
def writeInteger (flags : Raw) (width : Nat) (places : Option Nat) (letter : Char) (n : Int) : Raw :=
  let signed := letter = 'd' || letter = 'i'
  let value := if signed then n.natAbs else (n % 0x10000000000000000).toNat
  let base := if letter = 'o' then 8 else if letter = 'x' || letter = 'X' then 16 else 10
  let digits := if value = 0 && places = some 0 then [] else Nat.toDigits base value
  let digits := if letter = 'X' then digits.map Char.toUpper else digits
  let digits := List.replicate ((places.getD 0) - digits.length) '0' ++ digits
  let alternative := flags.contains '#'
  let digits := if alternative && letter = 'o' && digits.head? ≠ some '0' then '0' :: digits else digits
  let sign := if signed then signOf flags (n < 0)
    else if alternative && base = 16 && value ≠ 0 then ['0', letter] else []
  fillNumber flags (flags.contains '0' && places = none) width sign digits

/-- A number with a point as a directive writes it. -/
def writeReal (p : Precision) (flags : Raw) (width : Nat) (places : Option Nat) (letter : Char)
    (x : Real) : Raw :=
  let lower := letter.toLower
  let exponentLetter := 'e'
  let body (whole : Nat) (power : Int) : Raw :=
    let alternative := flags.contains '#'
    if lower = 'f' then Real.fixed whole power (places.getD 6) alternative
    else if lower = 'e' then Real.scientific exponentLetter whole power (places.getD 6) alternative
    else if lower = 'g' then Real.general exponentLetter whole power (places.getD 6) alternative
    else Real.hexadecimal p whole power
  let cased (cs : Raw) : Raw := if letter.isUpper then cs.map Char.toUpper else cs
  match x with
  | .finite negative whole power =>
    fillNumber flags (flags.contains '0') width (signOf flags negative) (cased (body whole power))
  | .infinite negative =>
    fill (flags.contains '-') width (signOf flags negative ++ cased (rawOf "inf"))
  | .undefined negative =>
    fill (flags.contains '-') width (signOf flags negative ++ cased (rawOf "nan"))

/-! ### Arguments -/

/-- How a whole number is read: its value, the rest, and whether it is too large. -/
def readInteger (signed : Bool) (cs : Raw) : Option (Int × Raw × Bool) :=
  let (negative, ds) := match cs.dropWhile isSpace with
    | '-' :: ds => (true, ds)
    | '+' :: ds => (false, ds)
    | ds => (false, ds)
  let isHex := match ds with
    | '0' :: x :: d :: _ => (x = 'x' || x = 'X') && (digit? 16 d).isSome
    | _ => false
  let (digits, rest, base) :=
    if isHex then
      let (digits, rest) := takeDigits 16 ds.length (ds.drop 2)
      (digits, rest, 16)
    else
      let base := if ds.head? = some '0' then 8 else 10
      let (digits, rest) := takeDigits base ds.length ds
      (digits, rest, base)
  if digits = [] then none
  else
    let n : Int := ofDigits base digits
    let value := if negative then -n else n
    if signed then
      if 0x7FFFFFFFFFFFFFFF < value then some (0x7FFFFFFFFFFFFFFF, rest, true)
      else if value < -0x8000000000000000 then some (-0x8000000000000000, rest, true)
      else some (value, rest, false)
    else if 0xFFFFFFFFFFFFFFFF < n then some (0xFFFFFFFFFFFFFFFF, rest, true)
    else some (value, rest, false)

/-- What is wrong with an argument that should be a number. -/
inductive NumberFault
  | missing
  | incomplete
  | tooLarge

def Dialect.faultMessage (d : Dialect) (arg : Raw) (fault : NumberFault) : Raw :=
  match d, fault with
  | .program, .missing => quoteWord arg ++ rawOf ": expected a numeric value"
  | .program, .incomplete => quoteWord arg ++ rawOf ": value not completely converted"
  | .program, .tooLarge => quoteWord arg ++ rawOf ": Numerical result out of range"
  | .shell, .missing => arg ++ rawOf ": expected numeric value"
  | .shell, .incomplete => arg ++ rawOf ": not completely converted"
  | .shell, .tooLarge => arg ++ rawOf ": Numerical result out of range"

structure State where
  output : Raw
  messages : List Raw
  args : List Raw
  faulty : Bool
  stopped : Option Nat

namespace State

def put (s : State) (cs : Raw) : State :=
  { s with output := s.output ++ cs }

def next (s : State) : Raw × State :=
  (s.args.headD [], { s with args := s.args.tail })

def note (s : State) (d : Dialect) (arg : Raw) (fault : NumberFault) : State :=
  { s with messages := s.messages ++ [d.faultMessage arg fault], faulty := true }

/-- The fault of an argument from what is left of it after a number. -/
def check (s : State) (d : Dialect) (arg rest : Raw) (tooLarge : Bool) : State :=
  if tooLarge then s.note d arg .tooLarge
  else if rest ≠ [] then s.note d arg .incomplete
  else s

/-- The code of the character after a quote that an argument starts with. -/
def charCode? (d : Dialect) (arg : Raw) : Option (Nat × Raw) :=
  match d, arg with
  | .shell, q :: rest =>
    if q = '\'' || q = '"' then some ((rest.headD '\x00').toNat, []) else none
  | .program, q :: c :: rest => if q = '\'' || q = '"' then some (c.toNat, rest) else none
  | _, _ => none

/-- Takes the next argument as a whole number. -/
def nextInteger (s : State) (d : Dialect) (signed : Bool) : Int × State :=
  let (arg, s) := s.next
  match charCode? d arg with
  | some (code, []) => (code, s)
  | some (code, extra) =>
    (code, { s with messages := s.messages ++ [rawOf "warning: " ++ extra ++
      rawOf ": character(s) following character constant have been ignored"] })
  | none =>
    match readInteger signed arg with
    | some (n, rest, tooLarge) => (n, s.check d arg rest tooLarge)
    | none => (0, if arg = [] then s else s.note d arg .missing)

/-- Takes the next argument as a number with a point. -/
def nextReal (s : State) (d : Dialect) : Real × State :=
  let (arg, s) := s.next
  match charCode? d arg with
  | some (code, _) => (.finite false code 0, s)
  | none =>
    match Real.read? d.precision arg with
    | some (x, rest) =>
      let tooLarge := match x with
        | .infinite _ => (arg.any Char.isDigit)
        | _ => false
      (x, s.check d arg rest tooLarge)
    | none => (.finite false 0 0, if arg = [] then s else s.note d arg .missing)

/-- The value of a size; a negative width fills up at the right. -/
def size (s : State) (d : Dialect) : Size → Option Int × State
  | .absent => (none, s)
  | .fixed n => (some n, s)
  | .argument =>
    let (n, s) := s.nextInteger d true
    (some n, s)

/-- Writes the next argument as a directive asks. -/
def write (s : State) (d : Dialect) (f : Directive) : State :=
  let (width, s) := s.size d f.width
  let (places, s) := s.size d f.places
  let flags := match width with
    | some n => if n < 0 then '-' :: f.flags else f.flags
    | none => f.flags
  let width := (width.getD 0).natAbs
  let places := match places with
    | some n => if n < 0 then none else some n.toNat
    | none => none
  let left := flags.contains '-'
  let cut (cs : Raw) : Raw := match places with
    | some n => cs.take n
    | none => cs
  match f.letter with
  | 's' =>
    let (arg, s) := s.next
    s.put (fill left width (cut arg))
  | 'c' =>
    let (arg, s) := s.next
    s.put (fill left width [arg.headD '\x00'])
  | 'q' =>
    match s.args with
    | [] => s
    | arg :: args => { s with args }.put (quoteShell arg)
  | 'b' =>
    let (arg, s) := s.next
    let (text, stopped) := unescape d arg.length arg
    let s := s.put (fill left width (cut text))
    if stopped then { s with stopped := some 0 } else s
  | letter =>
    if "diouxX".toList.contains letter then
      let (n, s) := s.nextInteger d (letter = 'd' || letter = 'i')
      s.put (writeInteger flags width places letter n)
    else
      let (x, s) := s.nextReal d
      s.put (writeReal d.precision flags width places letter x)

def halt (s : State) (status : Nat) (message : Raw) : State :=
  { s with messages := s.messages ++ [message], stopped := some status }

def faultStatus : Dialect → Nat
  | .program => 1
  | .shell => 2

/-- Writes a format once. The first argument bounds the number of characters. -/
def once (s : State) (d : Dialect) : Nat → Raw → State
  | 0, _ => s
  | _, [] => s
  | fuel + 1, '\\' :: cs =>
    match d.escape false cs with
    | (.char c, rest) => (s.put [c]).once d fuel rest
    | (.text text, rest) => (s.put text).once d fuel rest
    | (.stop, _) => { s with stopped := some 0 }
    | (.fault message, _) => s.halt (faultStatus d) message
  | fuel + 1, '%' :: '%' :: cs => (s.put ['%']).once d fuel cs
  | fuel + 1, '%' :: cs =>
    match d.directive cs with
    | .error message => s.halt (faultStatus d) message
    | .ok (f, rest) =>
      let s := s.write d f
      if s.stopped.isSome then s else s.once d fuel rest
  | fuel + 1, c :: cs => (s.put [c]).once d fuel cs

/-- Writes a format until no arguments are left, or only once if it takes none. The first argument
bounds the number of times. -/
def repeated (s : State) (d : Dialect) (format : Raw) : Nat → State
  | 0 => s
  | fuel + 1 =>
    let t := s.once d format.length format
    if t.stopped.isSome || t.args = [] || t.args.length = s.args.length then t
    else t.repeated d format fuel

end State

def print (d : Dialect) (format : Raw) (args : List Raw) : State :=
  State.repeated ⟨[], [], args, false, none⟩ d format (args.length + 1)

/-- Prints its arguments in a format, the first argument. -/
def run (i : Invocation) : Outcome :=
  match (if i.args.head? = some ['-', '-'] then i.args.tail else i.args) with
  | [] => i.refuse 1 (rawOf "missing operand")
  | format :: args =>
    let s := print .program format args
    let ignored := if s.stopped = none then
      match s.args with
      | [] => []
      | arg :: _ => i.line (rawOf "warning: ignoring excess arguments, starting with " ++ quoteWord arg)
    else []
    i.finishUnread (s.stopped.getD (if s.faulty then 1 else 0)) s.output
      (s.messages.flatMap i.line ++ ignored)

end TextChain.Tool.Printf
