import TextChain.Tool.Shell.Expand

/-!
# Conditions

The tests of a shell: of texts, of numbers and of files, joined by signs for "and", "or" and "not" and
by parentheses. What a word means depends on those behind it, so that operands may look like
operators.
-/

namespace TextChain.Tool.Shell.Condition

/-- What an operator joins. -/
inductive Kind
  | unary
  | binary
  | negation
  | both
  | either
  | opening
  | closing
deriving DecidableEq

/-- The operators before one operand. -/
def unaryNames : List String :=
  ["-r", "-w", "-x", "-e", "-f", "-d", "-c", "-b", "-p", "-u", "-g", "-k", "-s", "-t", "-z", "-n",
   "-h", "-O", "-G", "-L", "-S"]

/-- The operators between two operands. -/
def binaryNames : List String :=
  ["=", "!=", "<", ">", "-eq", "-ne", "-ge", "-gt", "-le", "-lt", "-nt", "-ot", "-ef"]

def kind? (word : Raw) : Option Kind :=
  let name := String.ofList word
  if unaryNames.contains name then some .unary
  else if binaryNames.contains name then some .binary
  else
    match name with
    | "!" => some .negation
    | "-a" => some .both
    | "-o" => some .either
    | "(" => some .opening
    | ")" => some .closing
    | _ => none

/-- The kind of the first word if it stands there as an operator. -/
def operator? : List Raw → Option Kind
  | [] => none
  | word :: rest =>
    match kind? word, rest with
    | some .unary, [] => none
    | some .unary, [_] => some .unary
    | some .unary, next :: _ => if kind? next = some .binary then none else some .unary
    | some .opening, [] => none
    | found, _ => found

/-- Why a condition cannot be read. -/
def fault (word : Raw) (message : String) : Raw :=
  if word = [] then rawOf message else word ++ rawOf ": " ++ rawOf message

def number (word : Raw) : Except Raw Int :=
  let bare := word.dropWhile isSpace
  let (negative, rest) := match bare with
    | '-' :: rest => (true, rest)
    | '+' :: rest => (false, rest)
    | rest => (false, rest)
  let (digits, after) := takeDigits 10 rest.length rest
  let n : Int := ofDigits 10 digits
  if digits = [] || !after.all isSpace || 0x7FFFFFFFFFFFFFFF < n then
    .error (rawOf "Illegal number: " ++ word)
  else .ok (if negative then -n else n)

def unary (t : Tree) (name : Raw) (operand : Raw) : Except Raw Bool :=
  let item? := (t.find operand).toOption
  match String.ofList name with
  | "-z" => .ok (operand = [])
  | "-n" => .ok (operand ≠ [])
  | "-t" => (number operand).map fun _ => false
  | "-e" | "-r" | "-w" | "-O" | "-G" => .ok item?.isSome
  | "-d" => .ok (item? = some .directory)
  | "-c" => .ok (item? = some .sink)
  | "-x" => .ok (item? = some .directory || item? = some .program)
  | "-f" => .ok (match item? with
    | some (.file _) | some .program => true
    | _ => false)
  | "-s" => .ok (match item? with
    | some (.file contents) => contents ≠ []
    | some .program | some .directory => true
    | _ => false)
  | _ => .ok false

/-- The value of an operator between operands. -/
def binary (t : Tree) (name a b : Raw) : Except Raw Bool :=
  let compare (test : Int → Int → Bool) : Except Raw Bool := do
    return test (← number a) (← number b)
  match String.ofList name with
  | "=" => .ok (a = b)
  | "!=" => .ok (a ≠ b)
  | "<" => .ok (decide (a < b))
  | ">" => .ok (decide (b < a))
  | "-eq" => compare (· = ·)
  | "-ne" => compare (· ≠ ·)
  | "-ge" => compare (· ≥ ·)
  | "-gt" => compare (· > ·)
  | "-le" => compare (· ≤ ·)
  | "-lt" => compare (· < ·)
  | "-ef" => .ok (match t.resolve a, t.resolve b with
    | .ok p, .ok q => p = q && (t.item? p).isSome
    | _, _ => false)
  | _ => .ok false

/-- The value of a condition, and the words from its last one on. -/
abbrev Reading := Except Raw (Bool × List Raw)

def primary (t : Tree) (whole : List Raw → Reading) (words : List Raw) : Reading :=
  match words, operator? words with
  | [], _ => .ok (false, [])
  | _ :: rest, some .opening =>
    if operator? rest = some .closing then .ok (false, rest)
    else do
      let (value, last) ← whole rest
      if operator? (last.drop 1) = some .closing then .ok (value, last.drop 1)
      else .error (fault [] "closing paren expected")
  | name :: rest, some .unary =>
    match rest with
    | [] => .error (fault name "argument expected")
    | operand :: _ => (unary t name operand).map fun value => (value, rest)
  | a :: rest, _ =>
    match rest, operator? rest with
    | name :: after, some .binary =>
      match after with
      | [] => .error (fault name "argument expected")
      | b :: _ => (binary t name a b).map fun value => (value, after)
    | _, _ => .ok (a ≠ [], words)

def negation (t : Tree) (whole : List Raw → Reading) : List Raw → Reading
  | [] => primary t whole []
  | word :: rest =>
    if operator? (word :: rest) = some .negation then
      if rest = [] then .ok (true, [word])
      else (negation t whole rest).map fun (value, last) => (!value, last)
    else primary t whole (word :: rest)

/-- Reads conditions that are joined by an operator. The first argument bounds their number. -/
def joinedBy (sign : Kind) (join : Bool → Bool → Bool) (operand : List Raw → Reading) :
    Nat → List Raw → Reading
  | 0, words => operand words
  | fuel + 1, words => do
    let (a, last) ← operand words
    if operator? (last.drop 1) = some sign then
      let (b, last) ← joinedBy sign join operand fuel (last.drop 2)
      .ok (join a b, last)
    else .ok (a, last)

/-- Reads a condition. The first argument bounds its depth. -/
def whole (t : Tree) : Nat → List Raw → Reading
  | 0, words => .ok (false, words)
  | fuel + 1, words =>
    joinedBy .either (· || ·)
      (joinedBy .both (· && ·) (negation t (whole t fuel)) words.length) words.length words

/-- The value of a condition that is given as words. With three words an operator in the middle counts
first. -/
def value (t : Tree) (words : List Raw) : Except Raw Bool :=
  let read (words : List Raw) : Except Raw Bool := do
    let (value, last) ← whole t (words.length + 1) words
    match last with
    | word :: _ :: _ => .error (fault word "unexpected operator")
    | _ => .ok value
  match words with
  | [] => .ok false
  | [a, o, b] =>
    if kind? o = some .binary then binary t o a b
    else if a = ['('] && b = [')'] then read [o]
    else if a = ['!'] then (value t [o, b]).map fun value => !value
    else read words
  | [a, b, c, d] =>
    if a = ['('] && d = [')'] then read [b, c]
    else if a = ['!'] then (value t [b, c, d]).map fun value => !value
    else read words
  | _ => read words
termination_by words.length

end TextChain.Tool.Shell.Condition
