import TextChain.Text.Utf8

/-!
# Bytes as characters

Tools work on bytes. A byte is given as the character of its value, so a text of bytes has no character
above 255. The classes of characters are those of ASCII.
-/

namespace TextChain.Tool

/-- A text of bytes. -/
abbrev Raw := List Char

def rawOf (s : String) : Raw :=
  (Text.Utf8.encode s).map fun b => Char.ofNat b.toNat

def rawOfBytes (bytes : Text.Utf8.Bytes) : Raw :=
  bytes.map fun b => Char.ofNat b.toNat

def bytesOf (cs : Raw) : Text.Utf8.Bytes :=
  cs.map fun c => c.toNat.toUInt8

/-! ### Lines -/

/-- A line of an input. The last one may lack its end. -/
structure Line where
  /-- The characters of the line without its end. -/
  text : Raw
  closed : Bool
deriving DecidableEq, Repr

/-- The lines of a text that ends each line with a character. -/
def linesBy (stop : Char) (cs : Raw) : List Line :=
  match (cs.splitOn stop).reverse with
  | [] => []
  | [] :: rest => rest.reverse.map fun l => ⟨l, true⟩
  | last :: rest => rest.reverse.map (fun l => ⟨l, true⟩) ++ [⟨last, false⟩]

def linesOf (cs : Raw) : List Line :=
  linesBy '\n' cs

/-- A line with its end, if it has one. -/
def Line.whole (l : Line) (stop : Char) : Raw :=
  if l.closed then l.text ++ [stop] else l.text

def endEach (stop : Char) (ls : List Raw) : Raw :=
  ls.flatMap fun l => l ++ [stop]

/-! ### Classes -/

/-- Whether a character is a space or a tab. -/
def isGap (c : Char) : Bool :=
  c = ' ' || c = '\t'

def isSpace (c : Char) : Bool :=
  c = ' ' || ('\t' ≤ c && c ≤ '\r')

def isPrint (c : Char) : Bool :=
  ' ' ≤ c && c ≤ '~'

/-- Whether a character is a letter, a digit or an underscore. -/
def isWord (c : Char) : Bool :=
  c.isAlphanum || c = '_'

/-- The value of a digit in some base up to 36. -/
def digit? (base : Nat) (c : Char) : Option Nat :=
  let d :=
    if '0' ≤ c ∧ c ≤ '9' then c.toNat - 48
    else if 'a' ≤ c ∧ c ≤ 'z' then c.toNat - 87
    else if 'A' ≤ c ∧ c ≤ 'Z' then c.toNat - 55
    else base
  if d < base then some d else none

/-- The digits in some base that a text starts with, at most so many, and the rest. -/
def takeDigits (base limit : Nat) (cs : Raw) : List Nat × Raw :=
  let ds := ((cs.take limit).map (digit? base)).takeWhile Option.isSome
  (ds.filterMap id, cs.drop ds.length)

def ofDigits (base : Nat) (ds : List Nat) : Nat :=
  ds.foldl (fun n d => n * base + d) 0

/-- The whole number that a text is in decimal digits. -/
def natural? (cs : Raw) : Option Nat :=
  if cs ≠ [] && cs.all Char.isDigit then some (Nat.ofDigitChars 10 cs 0) else none

/-- Whether a character is in the class of a name; none if there is no such class. -/
def classOf? (name : Raw) : Option (Char → Bool) :=
  match String.ofList name with
  | "alnum" => some Char.isAlphanum
  | "alpha" => some Char.isAlpha
  | "blank" => some isGap
  | "cntrl" => some fun c => c < ' ' || c = '\x7f'
  | "digit" => some Char.isDigit
  | "graph" => some fun c => isPrint c && c ≠ ' '
  | "lower" => some Char.isLower
  | "print" => some isPrint
  | "punct" => some fun c => isPrint c && c ≠ ' ' && !c.isAlphanum
  | "space" => some isSpace
  | "upper" => some Char.isUpper
  | "xdigit" => some fun c => (digit? 16 c).isSome
  | _ => none

def charRange (a b : Char) : Raw :=
  (List.range (b.toNat + 1 - a.toNat)).map fun i => Char.ofNat (a.toNat + i)

def allChars : Raw :=
  charRange '\x00' '\xff'

/-- The character that a letter after a backslash stands for. -/
def letterEscape? : Char → Option Char
  | 'a' => some '\x07'
  | 'b' => some '\x08'
  | 'f' => some '\x0c'
  | 'n' => some '\n'
  | 'r' => some '\r'
  | 't' => some '\t'
  | 'v' => some '\x0b'
  | '\\' => some '\\'
  | _ => none

end TextChain.Tool
