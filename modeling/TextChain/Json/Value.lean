import TextChain.Decimal.Layout
import TextChain.Json.Syntax

/-!
# JSON values

A value is what a JSON text means: its numbers are machine numbers, its strings are characters, and
its objects list their members in ascending order of the keys, each key once. `Json.compact` writes
a value without blanks.
-/

namespace TextChain

inductive Json.Number
  /-- A whole number from `-2 ^ 63` to `2 ^ 64 - 1`. -/
  | integer (value : Int)
  /-- Any other number, and the negative zero. -/
  | float (value : Float)
deriving BEq

inductive Json
  | null
  | bool (value : Bool)
  | number (value : Json.Number)
  | string (value : String)
  | array (items : List Json)
  | object (members : List (String × Json))
deriving BEq

namespace Json

instance : Inhabited Json := ⟨.null⟩

def ofDict (d : Dict Json) : Json :=
  .object d.entries

def asString? : Json → Option String
  | .string s => some s
  | _ => none

def asBool? : Json → Option Bool
  | .bool b => some b
  | _ => none

/-- The value of a member; none if the value is no object. -/
def member? (key : String) : Json → Option Json
  | .object members => Entries.find? key members
  | _ => none

/-- The value at the end of a path of keys. -/
def path? (v : Json) (keys : List String) : Option Json :=
  keys.foldlM (fun v key => v.member? key) v

/-! ### Writing -/

/-- Floats are positional from `10 ^ (-5)` up to `10 ^ 16` and always show that they are floats. -/
def floatLayout : Decimal.Layout where
  positional := fun leading => -5 ≤ leading && leading ≤ 15
  whole := ".0"
  plus := "+"

def Number.text : Number → String
  | .integer i => toString i
  | .float x => floatLayout.writeFloat x

/-- The hexadecimal digit of a number below sixteen. -/
def hexDigit (n : Nat) : Char :=
  Char.ofNat (if n < 10 then 48 + n else 87 + n)

/-- A character inside a written string: quotes, backslashes and controls are escaped. -/
def escape (c : Char) : List Char :=
  match c with
  | '"' => ['\\', '"']
  | '\\' => ['\\', '\\']
  | '\x08' => ['\\', 'b']
  | '\x0c' => ['\\', 'f']
  | '\n' => ['\\', 'n']
  | '\r' => ['\\', 'r']
  | '\t' => ['\\', 't']
  | c =>
    if c < ' ' then ['\\', 'u', '0', '0', hexDigit (c.toNat / 16), hexDigit (c.toNat % 16)]
    else [c]

def quote (s : String) : String :=
  String.ofList ('"' :: s.toList.flatMap escape ++ ['"'])

mutual

/-- The text of a value, without blanks. -/
def compact : Json → String
  | .null => "null"
  | .bool true => "true"
  | .bool false => "false"
  | .number n => n.text
  | .string s => quote s
  | .array items => "[" ++ ",".intercalate (compactItems items) ++ "]"
  | .object members => "\x7b" ++ ",".intercalate (compactMembers members) ++ "\x7d"

def compactItems : List Json → List String
  | [] => []
  | v :: rest => compact v :: compactItems rest

def compactMembers : List (String × Json) → List String
  | [] => []
  | (key, v) :: rest => (quote key ++ ":" ++ compact v) :: compactMembers rest

end

end Json

end TextChain
