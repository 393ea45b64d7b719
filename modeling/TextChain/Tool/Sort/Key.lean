import TextChain.Tool.Basic
import TextChain.Tool.Sort.Order

/-!
# Keys of lines

The part of a line that counts in an order, and how it counts. Fields are separated by a character, or
else each starts with the blanks in front of it.
-/

namespace TextChain.Tool.Sort

/-- The message about letters that cannot go together. -/
def incompatible (letters : Raw) : Raw :=
  rawOf "options " ++ quoteWord ('-' :: letters) ++ rawOf " are incompatible"

/-- How parts of lines are compared. -/
structure Rule where
  /-- Whether blanks at the start of the first field do not count. -/
  skipsStart : Bool
  /-- Whether blanks at the start of the last field do not count. -/
  skipsEnd : Bool
  /-- Whether only blanks, letters and digits count. -/
  dictionary : Bool
  /-- Whether only characters count that can be printed. -/
  printable : Bool
  /-- Whether lower case counts as upper case. -/
  folds : Bool
  measures : Raw
  reversed : Bool
deriving DecidableEq

namespace Rule

def plain : Rule := ⟨false, false, false, false, false, [], false⟩

/-- Adds a letter to a rule, for the start or the end of a key or for both. -/
def add? (r : Rule) (start stop : Bool) (letter : Char) : Option Rule :=
  if letter = 'b' then
    some { r with skipsStart := r.skipsStart || start, skipsEnd := r.skipsEnd || stop }
  else if letter = 'd' then some { r with dictionary := true }
  else if letter = 'i' then some { r with printable := !r.dictionary || r.printable }
  else if letter = 'f' then some { r with folds := true }
  else if letter = 'r' then some { r with reversed := true }
  else if "ghMnRV".toList.contains letter then
    some { r with measures := if r.measures.contains letter then r.measures else letter :: r.measures }
  else none

def measure (r : Rule) : Measure :=
  if r.measures.contains 'n' then .number
  else if r.measures.contains 'g' then .general
  else if r.measures.contains 'h' then .human
  else if r.measures.contains 'M' then .month
  else if r.measures.contains 'V' then .version
  else .bytes

/-- Whether a rule says nothing but the direction. -/
def isDefault (r : Rule) : Bool :=
  { r with reversed := false } = plain

/-- The message about a rule whose letters cannot go together. -/
def conflict? (r : Rule) : Option Raw :=
  let kinds := r.measures.filter fun c => c ≠ 'R' && c ≠ 'V'
  let others := r.dictionary || r.printable || r.measures.contains 'R' || r.measures.contains 'V'
  if 1 < kinds.length + (if others then 1 else 0) then
    let shown := "dfghiMnRV".toList.filter fun c =>
      if c = 'd' then r.dictionary
      else if c = 'f' then r.folds
      else if c = 'i' then r.printable && !r.dictionary
      else r.measures.contains c
    some (incompatible shown)
  else none

/-- The characters of a part that count. -/
def filter (r : Rule) (cs : Raw) : Raw :=
  let kept := cs.filter fun c =>
    (!r.dictionary || c.isAlphanum || isGap c || c = '\n') && (!r.printable || isPrint c)
  if r.folds then kept.map Char.toUpper else kept

def compare (r : Rule) (a b : Raw) : Ordering :=
  let order := r.measure.compare (r.filter a) (r.filter b)
  if r.reversed then order.swap else order

end Rule

/-- A place in a line: fields to skip and characters to skip after them. -/
structure Position where
  fields : Nat
  chars : Nat

/-- The part of a line that counts, and how. -/
structure Key where
  start : Position
  /-- Where the part ends; none for the end of the line. -/
  stop : Option Position
  rule : Rule

/-! ### Parts of lines -/

/-- Whether a character separates fields if no separator is given. -/
def isBlankChar (c : Char) : Bool :=
  isGap c || c = '\n'

/-- The number of characters of a line up to the start of a field. -/
def fieldStart (separator : Option Char) : Nat → Raw → Nat
  | 0, _ => 0
  | fields + 1, cs =>
    match separator with
    | some s =>
      let skipped := (cs.takeWhile (· ≠ s)).length + 1
      let skipped := min skipped cs.length
      skipped + fieldStart separator fields (cs.drop skipped)
    | none =>
      let gap := (cs.takeWhile isBlankChar).length
      let word := ((cs.drop gap).takeWhile fun c => !isBlankChar c).length
      gap + word + fieldStart separator fields (cs.drop (gap + word))

/-- The number of characters of a line up to the end of a field. -/
def fieldEnd (separator : Option Char) : Nat → Raw → Nat
  | 0, _ => 0
  | 1, cs =>
    match separator with
    | some s => (cs.takeWhile (· ≠ s)).length
    | none => fieldStart none 1 cs
  | fields + 2, cs =>
    let skipped := fieldStart separator 1 cs
    skipped + fieldEnd separator (fields + 1) (cs.drop skipped)

def blanksAt (cs : Raw) (place : Nat) : Nat :=
  ((cs.drop place).takeWhile isBlankChar).length

/-- The part of a line that a key means. -/
def Key.part (k : Key) (separator : Option Char) (cs : Raw) : Raw :=
  let start := fieldStart separator k.start.fields cs
  let start := start + (if k.rule.skipsStart then blanksAt cs start else 0) + k.start.chars
  let stop := match k.stop with
    | none => cs.length
    | some p =>
      if p.chars = 0 then fieldEnd separator (p.fields + 1) cs
      else
        let place := fieldStart separator p.fields cs
        place + (if k.rule.skipsEnd then blanksAt cs place else 0) + p.chars
  (cs.take stop).drop start

/-- Compares lines by keys, one after the other. -/
def compareKeys (separator : Option Char) (keys : List Key) (a b : Raw) : Ordering :=
  keys.foldl (fun order k =>
    order.then (k.rule.compare (k.part separator a) (k.part separator b))) .eq

/-! ### Reading keys -/

/-- A message about the source of a key. -/
def fieldFault (reason : String) (source : Raw) : Raw :=
  rawOf reason ++ rawOf ": invalid field specification " ++ quoteWord source

/-- Reads a count of a key, after white space and a plus sign. -/
def readCount (reason : String) (cs : Raw) : Except Raw (Nat × Raw) :=
  let spaced := cs.dropWhile isSpace
  let digits := if spaced.head? = some '+' then spaced.tail else spaced
  match natural? (digits.takeWhile Char.isDigit) with
  | some n => .ok (n, digits.dropWhile Char.isDigit)
  | none => .error (rawOf reason ++ rawOf ": invalid count at start of " ++ quoteWord cs)

/-- Adds the letters that a text starts with to a rule; gives the rest. -/
def readLetters (start stop : Bool) (r : Rule) : Raw → Rule × Raw
  | [] => (r, [])
  | c :: cs =>
    match r.add? start stop c with
    | some r => readLetters start stop r cs
    | none => (r, c :: cs)

/-- Reads the place at which a key starts, with its letters. -/
def readStart (source : Raw) : Except Raw (Position × Rule × Raw) := do
  let (field, rest) ← readCount "invalid number at field start" source
  if field = 0 then .error (fieldFault "field number is zero" source)
  else
    let (chars, rest) ← match rest with
      | '.' :: after =>
        match readCount "invalid number after '.'" after with
        | .ok (0, _) => .error (fieldFault "character offset is zero" source)
        | .ok (n, rest) => .ok (n - 1, rest)
        | .error message => .error message
      | rest => .ok (0, rest)
    let (rule, rest) := readLetters true false .plain rest
    .ok (⟨field - 1, chars⟩, rule, rest)

/-- Reads the place at which a key ends, with its letters. -/
def readStop (source : Raw) (rule : Rule) (cs : Raw) : Except Raw (Position × Rule × Raw) := do
  let (field, rest) ← readCount "invalid number after ','" cs
  if field = 0 then .error (fieldFault "field number is zero" source)
  else
    let (chars, rest) ← match rest with
      | '.' :: after => readCount "invalid number after '.'" after
      | rest => .ok (0, rest)
    let (rule, rest) := readLetters false true rule rest
    .ok (⟨field - 1, chars⟩, rule, rest)

def Key.read (source : Raw) : Except Raw Key := do
  let (start, rule, rest) ← readStart source
  let (stop, rule, rest) ← match rest with
    | ',' :: after => (readStop source rule after).map fun (p, rule, rest) => (some p, rule, rest)
    | rest => .ok (none, rule, rest)
  if rest = [] then .ok ⟨start, stop, rule⟩
  else .error (fieldFault "stray character in field spec" source)

end TextChain.Tool.Sort
