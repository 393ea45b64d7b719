import TextChain.Tool.Raw

/-!
# Numbers with a point

Numbers as tools read and print them: a whole number times a power of two, of some limited size, or
one of the values that are no number. Everything is exact; a number is rounded once when it is read
and once when it is printed, and a tie goes to the even neighbour.
-/

namespace TextChain.Tool

structure Precision where
  /-- The number of bits of the whole number. -/
  bits : Nat
  least : Int
  /-- The number of bits that the whole part of a number may have. -/
  limit : Nat

/-- Numbers of 64 bits. -/
def Precision.double : Precision := ⟨53, -1074, 1024⟩

/-- Numbers of 80 bits. -/
def Precision.extended : Precision := ⟨64, -16445, 16384⟩

/-- A number or what takes its place. -/
inductive Real
  /-- A whole number times a power of two. -/
  | finite (negative : Bool) (whole : Nat) (power : Int)
  | infinite (negative : Bool)
  | undefined (negative : Bool)
deriving DecidableEq, Repr

namespace Real

/-- A quotient rounded to a whole number; a tie goes to the even one. -/
def roundQuotient (n d : Nat) : Nat :=
  let q := n / d
  let twice := 2 * (n % d)
  if d < twice ∨ (twice = d ∧ q % 2 = 1) then q + 1 else q

/-- The quotient of two numbers after each is multiplied by its power of two. -/
def scaled (n d : Nat) (power : Int) : Nat × Nat :=
  if power < 0 then (n * Nat.pow 2 power.natAbs, d) else (n, d * Nat.pow 2 power.natAbs)

/-- A quotient as a number of some precision. -/
def ofQuotient (p : Precision) (negative : Bool) (n d : Nat) : Real :=
  if n = 0 then .finite negative 0 0
  else
    let guess : Int := (Nat.log2 n : Int) - Nat.log2 d - p.bits
    let fits (power : Int) : Bool :=
      let (a, b) := scaled n d power
      a < b * Nat.pow 2 p.bits
    let power := if fits guess then guess else if fits (guess + 1) then guess + 1 else guess + 2
    let power := max power p.least
    let (a, b) := scaled n d power
    let whole := roundQuotient a b
    if (p.limit : Int) < (Nat.log2 whole : Int) + power + 1 then .infinite negative
    else .finite negative whole power

/-- A number with decimal digits times a power of ten. -/
def ofDecimal (p : Precision) (negative : Bool) (digits : List Nat) (power : Int) : Real :=
  let n := ofDigits 10 digits
  let size : Int := digits.length + power
  if n = 0 then .finite negative 0 0
  else if (p.limit : Int) < size then .infinite negative
  else if size < p.least then .finite negative 0 p.least
  else if power < 0 then ofQuotient p negative n (Nat.pow 10 power.natAbs)
  else ofQuotient p negative (n * Nat.pow 10 power.natAbs) 1

/-- Reads an exponent after its letter; none if there are no digits. -/
def exponent? (letters : Raw) (cs : Raw) : Option (Int × Raw) :=
  match cs with
  | c :: rest =>
    if !letters.contains c then none
    else
      let (negative, ds) := match rest with
        | '-' :: ds => (true, ds)
        | '+' :: ds => (false, ds)
        | ds => (false, ds)
      match ds.takeWhile Char.isDigit with
      | [] => none
      | digits =>
        let n : Int := Nat.ofDigitChars 10 (digits.take 9) 0
        some (if negative then -n else n, ds.dropWhile Char.isDigit)
  | [] => none

/-- Reads digits with a point somewhere: the digits, the number of those after the point, and the
rest. -/
def pointed? (base : Nat) (cs : Raw) : Option (List Nat × Nat × Raw) :=
  let (whole, rest) := takeDigits base cs.length cs
  let (part, rest) := match rest with
    | '.' :: after => takeDigits base after.length after
    | rest => ([], rest)
  if whole = [] && part = [] then none else some (whole ++ part, part.length, rest)

/-- Reads a number without its sign, and the rest. -/
def unsigned? (p : Precision) (negative : Bool) (cs : Raw) : Option (Real × Raw) :=
  let lower := cs.map Char.toLower
  if "infinity".toList.isPrefixOf lower then some (.infinite negative, cs.drop 8)
  else if "inf".toList.isPrefixOf lower then some (.infinite negative, cs.drop 3)
  else if "nan".toList.isPrefixOf lower then some (.undefined negative, cs.drop 3)
  else
    let hexadecimal := if "0x".toList.isPrefixOf lower then pointed? 16 (cs.drop 2) else none
    match hexadecimal with
    | some (digits, places, rest) =>
      let (power, rest) := (exponent? ['p', 'P'] rest).getD (0, rest)
      let power := power - 4 * places
      let n := ofDigits 16 digits
      if power < 0 then some (ofQuotient p negative n (Nat.pow 2 power.natAbs), rest)
      else some (ofQuotient p negative (n * Nat.pow 2 (min power.natAbs 20000)) 1, rest)
    | none => do
      let (digits, places, rest) ← pointed? 10 cs
      let (power, rest) := (exponent? ['e', 'E'] rest).getD (0, rest)
      some (ofDecimal p negative digits (power - places), rest)

/-- Reads the number that a text starts with after white space, and the rest. -/
def read? (p : Precision) (cs : Raw) : Option (Real × Raw) :=
  match cs.dropWhile isSpace with
  | '-' :: rest => unsigned? p true rest
  | '+' :: rest => unsigned? p false rest
  | rest => unsigned? p false rest

/-! ### Printing -/

def digitsOf (n : Nat) : Raw :=
  Nat.toDigits 10 n

/-- The number without its sign times a power of ten, rounded to a whole number. -/
def timesTen (whole : Nat) (power places : Int) : Nat :=
  let n := whole * Nat.pow 10 (if 0 ≤ places then places.natAbs else 0)
  let d := Nat.pow 10 (if places < 0 then places.natAbs else 0)
  let (a, b) := scaled n d (-power)
  roundQuotient a b

/-- Digits with a point before the last ones. -/
def withPoint (places : Nat) (keepPoint : Bool) (digits : Raw) : Raw :=
  let padded := List.replicate (places + 1 - digits.length) '0' ++ digits
  let whole := padded.take (padded.length - places)
  if places = 0 then whole ++ (if keepPoint then ['.'] else [])
  else whole ++ ['.'] ++ padded.drop (padded.length - places)

def fixed (whole : Nat) (power : Int) (places : Nat) (keepPoint : Bool) : Raw :=
  withPoint places keepPoint (digitsOf (timesTen whole power places))

/-- The digits of a number, one more than `places`, and the power of ten of the first of them. -/
def leading (whole : Nat) (power : Int) (places : Nat) : Raw × Int :=
  if whole = 0 then (List.replicate (places + 1) '0', 0)
  else
    let size := (digitsOf (timesTen whole power 0)).length
    let size := if timesTen whole power 0 = 0 then 0 else size
    let start : Int :=
      if 0 < size then (size : Int) - 1
      else -((Nat.log2 (Nat.pow 2 power.natAbs / whole) : Int) * 30103 / 100000) - 1
    let digitsAt (x : Int) : Raw := digitsOf (timesTen whole power (places - x))
    let fits (x : Int) : Bool := (digitsAt x).length = places + 1
    let found := ([0, -1, 1, -2, 2].map (start + ·)).find? fits
    let x := found.getD start
    ((digitsAt x).take (places + 1), x)

/-- An exponent as it is printed, with two digits at least. -/
def exponentText (letter : Char) (x : Int) : Raw :=
  let digits := digitsOf x.natAbs
  [letter, if x < 0 then '-' else '+'] ++ List.replicate (2 - digits.length) '0' ++ digits

/-- A number with one digit before the point and an exponent. -/
def scientific (letter : Char) (whole : Nat) (power : Int) (places : Nat) (keepPoint : Bool) : Raw :=
  let (digits, x) := leading whole power places
  withPoint places keepPoint digits ++ exponentText letter x

/-- A text without the zeros at the end of its places. -/
def dropZeros (cs : Raw) : Raw :=
  if !cs.contains '.' then cs
  else
    let kept := (cs.reverse.dropWhile (· = '0')).reverse
    if kept.getLast? = some '.' then kept.dropLast else kept

/-- A number with so many digits that count, in the shorter of both forms. -/
def general (letter : Char) (whole : Nat) (power : Int) (digits : Nat) (keepAll : Bool) : Raw :=
  let digits := max digits 1
  let (ds, x) := leading whole power (digits - 1)
  let shorten (cs : Raw) : Raw := if keepAll then cs else dropZeros cs
  if -4 ≤ x ∧ x < digits then
    shorten (fixed whole power ((digits : Int) - 1 - x).toNat keepAll)
  else shorten (withPoint (digits - 1) keepAll ds) ++ exponentText letter x

/-- A number in hexadecimal digits, the first of which has `first` bits. -/
def hexadecimal (p : Precision) (whole : Nat) (power : Int) : Raw :=
  let first := if p.bits % 4 = 0 then 4 else p.bits % 4
  if whole = 0 then rawOf "0x0p+0"
  else
    let shift := p.bits - 1 - Nat.log2 whole
    let all := Nat.toDigits 16 (whole * Nat.pow 2 shift)
    let tail := (all.drop 1).reverse.dropWhile (· = '0') |>.reverse
    let x : Int := power - shift + p.bits - first
    rawOf "0x" ++ all.take 1 ++ (if tail = [] then [] else '.' :: tail) ++
      ['p', if x < 0 then '-' else '+'] ++ digitsOf x.natAbs

end Real

end TextChain.Tool
