import TextChain.Json.Token
import TextChain.Settings.Setting
import TextChain.Toml.Moment

/-!
# TOML words

What a word without quotes stands for where a value is due: a truth value, a date, an integer or a
float.
-/

namespace TextChain.Toml

/-- The digits of a word in a base; an underscore may stand between two of them. -/
def digitsIn? (base : Nat) : List Char → Option (List Nat)
  | [] => none
  | c :: cs => do
    let d ← Json.hexDigit? c
    if base ≤ d then none
    else
      match cs with
      | [] => some [d]
      | '_' :: rest => (digitsIn? base rest).map (d :: ·)
      | rest => (digitsIn? base rest).map (d :: ·)

def valueIn (base : Nat) (ds : List Nat) : Nat :=
  ds.foldl (fun n d => n * base + d) 0

/-- The sign in front of a number, and the rest. -/
def sign : List Char → Bool × List Char
  | '-' :: cs => (true, cs)
  | '+' :: cs => (false, cs)
  | cs => (false, cs)

/-- The digits in front of the point, which start with zero only if that is all. -/
def whole? (cs : List Char) : Option (List Nat) := do
  let ds ← digitsIn? 10 cs
  match ds with
  | 0 :: _ :: _ => none
  | ds => some ds

/-- An integer that fits into 64 bits. -/
def bounded? (i : Int) : Option Setting :=
  if -0x8000000000000000 ≤ i ∧ i ≤ 0x7FFFFFFFFFFFFFFF then some (.integer i) else none

def integer? : List Char → Option Setting
  | '0' :: 'x' :: cs => do bounded? (valueIn 16 (← digitsIn? 16 cs))
  | '0' :: 'o' :: cs => do bounded? (valueIn 8 (← digitsIn? 8 cs))
  | '0' :: 'b' :: cs => do bounded? (valueIn 2 (← digitsIn? 2 cs))
  | cs => do
    let (negative, cs) := sign cs
    let n := valueIn 10 (← whole? cs)
    bounded? (if negative then -n else n)

/-- The power of ten above which nothing is finite and below which everything is zero, for numbers
with few digits. -/
def powerLimit : Nat := 400

/-- A finite float with these digits times a power of ten. -/
def decimal? (digits : Nat) (power : Int) : Option Float :=
  if digits = 0 ∨ power < -(powerLimit + Decimal.digitCount digits : Nat) then some 0
  else if (powerLimit : Int) < power then none
  else
    let x := if power < 0 then Float.ofScientific digits true power.natAbs
      else Float.ofScientific digits false power.natAbs
    if x.isInf then none else some x

def float? (cs : List Char) : Option Setting := do
  let (negative, cs) := sign cs
  let signed (x : Float) : Setting := .float (if negative then -x else x)
  if cs = ['i', 'n', 'f'] then some (signed (1 / 0))
  else if cs = ['n', 'a', 'n'] then some (signed (0 / 0))
  else
    let isPower (c : Char) : Bool := c = 'e' || c = 'E'
    let front := cs.takeWhile fun c => !isPower c
    let power ← match cs.dropWhile fun c => !isPower c with
      | [] => some 0
      | _ :: cs => do
        let (negative, cs) := sign cs
        let n := valueIn 10 (← digitsIn? 10 cs)
        some (if negative then -(n : Int) else n)
    let whole ← whole? (front.takeWhile (· ≠ '.'))
    let fraction ← match front.dropWhile (· ≠ '.') with
      | [] => some []
      | _ :: cs => digitsIn? 10 cs
    (decimal? (valueIn 10 (whole ++ fraction)) (power - fraction.length)).map signed

/-- The setting that a word without quotes is. -/
def scalar? (cs : List Char) : Option Setting :=
  if cs = ['t', 'r', 'u', 'e'] then some (.bool true)
  else if cs = ['f', 'a', 'l', 's', 'e'] then some (.bool false)
  else
    match date? cs, integer? cs with
    | some (date, []), _ => some (.text date)
    | _, some setting => some setting
    | _, none => float? cs

end TextChain.Toml
