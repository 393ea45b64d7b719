import TextChain.Json.Value

/-!
# Reading JSON values

Interprets a syntax tree. A text has no value if a surrogate stands alone in one of its strings, if
a number is beyond the doubles, or if its arrays and objects are nested too deeply. Of a key that
occurs twice in an object the last value stays.
-/

namespace TextChain.Json

/-! ### Strings -/

/-- The characters that the pieces of a string stand for. Two units may form a surrogate pair. -/
def characters? : List Piece → Option (List Char)
  | [] => some []
  | .char c :: rest => (characters? rest).map (c :: ·)
  | .unit high :: .unit low :: rest =>
    if 0xD800 ≤ high ∧ high < 0xDC00 then
      if 0xDC00 ≤ low ∧ low < 0xE000 then
        let c := Char.ofNat (0x10000 + (high - 0xD800) * 0x400 + (low - 0xDC00))
        (characters? rest).map (c :: ·)
      else none
    else if 0xDC00 ≤ high ∧ high < 0xE000 then none
    else (characters? (.unit low :: rest)).map (Char.ofNat high :: ·)
  | .unit code :: rest =>
    if 0xD800 ≤ code ∧ code < 0xE000 then none
    else (characters? rest).map (Char.ofNat code :: ·)

def text? (pieces : List Piece) : Option String :=
  (characters? pieces).map String.ofList

/-! ### Numbers -/

/-- The greatest number of 64 bits. -/
def maxWord : Nat := 0xFFFFFFFFFFFFFFFF

/-- The greatest power of ten that is read as it stands. -/
def maxPower : Nat := 0x7FFFFFFF

/-- Takes digits into a significand as long as it fits into 64 bits; gives it with the number of
digits taken and the number of those left over. -/
def significand : Nat → List Nat → Nat × Nat × Nat
  | n, [] => (n, 0, 0)
  | n, d :: ds =>
    if n * 10 + d ≤ maxWord then
      let (m, taken, left) := significand (n * 10 + d) ds
      (m, taken + 1, left)
    else (n, 0, ds.length + 1)

def ofDigits (ds : List Nat) : Nat :=
  ds.foldl (fun n d => n * 10 + d) 0

/-- `10 ^ n` as the nearest double. -/
def powerOfTen (n : Nat) : Float :=
  Float.ofScientific 1 false n

/-- Divides by `10 ^ n` in steps of at most `10 ^ 308`, until nothing is left. -/
def scaleDown : Nat → Float → Nat → Float
  | 0, x, _ => x
  | steps + 1, x, n =>
    if n ≤ 308 then x / powerOfTen n
    else if x == 0 then x
    else scaleDown steps (x / powerOfTen 308) (n - 308)

/-- A significand times a power of ten: one rounding for the significand and one for each factor.
None if the result is beyond the doubles. -/
def scale? (n : Nat) (power : Int) : Option Float :=
  let x := Float.ofNat n
  if 0 ≤ power then
    if power ≤ 308 then
      let y := x * powerOfTen power.toNat
      if y.isInf then none else some y
    else if x == 0 then some x
    else none
  else some (scaleDown 8 x (-power).toNat)

/-- The double that a number denotes, without its sign. -/
def Numeral.magnitude? (t : Numeral) : Option Float :=
  let (n, _, extra) := significand 0 t.whole
  let (n, taken, _) := significand n t.fraction
  let base : Int := (extra : Int) - taken
  match t.power with
  | none => scale? n base
  | some (negative, ds) =>
    let power := ofDigits ds
    if power ≤ maxPower then scale? n (if negative then base - power else base + power)
    else if n = 0 ∨ negative then some 0.0
    else none

/-- The value of a number: an integer if it is written as one and fits, else a double. -/
def Numeral.value? (t : Numeral) : Option Number :=
  let float := t.magnitude?.map fun x => Number.float (if t.negative then -x else x)
  if t.fraction = [] ∧ t.power = none then
    let n := ofDigits t.whole
    if t.negative then if 0 < n ∧ n ≤ 0x8000000000000000 then some (.integer (-(n : Int))) else float
    else if n ≤ maxWord then some (.integer n)
    else float
  else float

/-! ### Values -/

mutual

/-- The value of a syntax tree with at most `depth` arrays and objects around each other. -/
def Syntax.valueWithin? (depth : Nat) : Syntax → Option Json
  | .null => some .null
  | .bool b => some (.bool b)
  | .number t => t.value?.map .number
  | .string pieces => (text? pieces).map .string
  | .array items =>
    if depth = 0 then none else (itemsWithin? (depth - 1) items).map .array
  | .object members =>
    if depth = 0 then none
    else (membersWithin? (depth - 1) members).map fun ms => ofDict (Dict.ofList ms)

def Syntax.itemsWithin? (depth : Nat) : List Syntax → Option (List Json)
  | [] => some []
  | item :: rest => do
    let v ← item.valueWithin? depth
    let vs ← itemsWithin? depth rest
    some (v :: vs)

/-- The members of an object in the order of the text. -/
def Syntax.membersWithin? (depth : Nat) : List (List Piece × Syntax) → Option (List (String × Json))
  | [] => some []
  | (key, value) :: rest => do
    let k ← text? key
    let v ← value.valueWithin? depth
    let ms ← membersWithin? depth rest
    some ((k, v) :: ms)

end

/-- How many arrays and objects may stand inside each other. -/
def maxDepth : Nat := 127

def Syntax.value? (s : Syntax) : Option Json :=
  s.valueWithin? maxDepth

def parse? (text : String) : Option Json := do
  (← Syntax.parse? text).value?

end TextChain.Json
