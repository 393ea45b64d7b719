import TextChain.Tool.Flags

/-!
# Joining files

Writes files one after the other, with numbers in front of the lines and marks for characters that do
not show if they are asked for.
-/

namespace TextChain.Tool.Concatenate

def flags : Flags where
  letters := "AbeEnstTuv".toList.map (·, .nothing)
  words := [("number-nonblank", 'b', .nothing), ("number", 'n', .nothing),
    ("squeeze-blank", 's', .nothing), ("show-nonprinting", 'v', .nothing),
    ("show-ends", 'E', .nothing), ("show-tabs", 'T', .nothing), ("show-all", 'A', .nothing)]
  ordered := false

structure Style where
  numbered : Bool
  /-- Whether only lines that are not empty are numbered. -/
  skipsEmpty : Bool
  /-- Whether one of several empty lines is left. -/
  squeezed : Bool
  ends : Bool
  tabs : Bool
  /-- Whether other characters that do not show are marked. -/
  controls : Bool

def Style.ofFlags (given : List Given) : Style :=
  let has (letters : String) : Bool := letters.toList.any (hasFlag given)
  { numbered := has "bn", skipsEmpty := has "b", squeezed := has "s", ends := has "AeE"
    tabs := has "AtT", controls := has "Aetv" }

/-- The mark of a character that is below 128. -/
def markLow (c : Char) : Raw :=
  if c < ' ' then ['^', Char.ofNat (c.toNat + 64)]
  else if c = '\x7f' then ['^', '?']
  else [c]

def Style.show (s : Style) (c : Char) : Raw :=
  if c = '\t' then if s.tabs then ['^', 'I'] else [c]
  else if !s.controls then [c]
  else if c.toNat < 128 then markLow c
  else ['M', '-'] ++ markLow (Char.ofNat (c.toNat - 128))

/-- The number in front of a line. -/
def numberText (n : Nat) : Raw :=
  let digits := (toString n).toList
  List.replicate (6 - digits.length) ' ' ++ digits ++ ['\t']

/-- The end of a line as it is shown; a carriage return in front of it shows with it. -/
def Style.showLine (s : Style) (l : Line) : Raw :=
  let shown := l.text.flatMap s.show
  if !l.closed then shown
  else if !s.ends then shown ++ ['\n']
  else if shown.getLast? = some '\r' then shown.dropLast ++ rawOf "^M$\n"
  else shown ++ rawOf "$\n"

/-- Lines as they are shown, from a number on; `afterEmpty` says whether the line before is empty. -/
def Style.render (s : Style) (number : Nat) (afterEmpty : Bool) : List Line → Raw
  | [] => []
  | l :: rest =>
    let empty := l.text = [] && l.closed
    if s.squeezed && afterEmpty && empty then s.render number true rest
    else if s.numbered && !(s.skipsEmpty && empty) then
      numberText number ++ s.showLine l ++ s.render (number + 1) empty rest
    else s.showLine l ++ s.render number empty rest

/-- Reads operands one after the other: what was read, and the messages about those that could not be
read. The input of the tool is read once. -/
def gather (i : Invocation) : List Raw → Raw × Raw
  | [] => ([], [])
  | path :: rest =>
    let next := if Invocation.readsInput [path] then { i with input := [] } else i
    let (text, errors) := gather next rest
    match i.readOperand path with
    | .ok contents => (contents ++ text, errors)
    | .error e => (text, i.line (quoteFile path ++ rawOf ": " ++ rawOf e.reason) ++ errors)

/-- Joins files, or shows its input. -/
def run (i : Invocation) : Outcome :=
  match flags.read i.args with
  | .error message => i.refuse 1 message
  | .ok (given, operands) =>
    let paths := if operands = [] then [['-']] else operands
    let (text, errors) := gather i paths
    let style := Style.ofFlags given
    let plain := !style.numbered && !style.squeezed && !style.ends && !style.tabs && !style.controls
    let output := if plain then text else style.render 1 false (linesOf text)
    let status := if errors = [] then 0 else 1
    { i.finish status output errors with
      unread := if Invocation.readsInput paths then [] else i.input }

end TextChain.Tool.Concatenate
