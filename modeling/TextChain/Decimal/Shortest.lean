/-!
# Shortest decimals

A finite positive binary number `m · 2 ^ q` stands for every real that rounds to it. Its shortest
decimal is the nearest to it among the decimals with the fewest digits that lie in this interval;
of two that are equally near, the one with an even last digit. Everything is compared exactly, in
natural numbers.
-/

namespace TextChain

/-- The decimal `digits · 10 ^ exponent`. -/
structure Decimal where
  digits : Nat
  exponent : Int
deriving DecidableEq, Repr

namespace Decimal

/-- A positive binary number with the reals that round to it, in units of `2 ^ exponent`. -/
structure Interval where
  lower : Nat
  centre : Nat
  upper : Nat
  /-- The power of two of the unit. -/
  exponent : Int
  /-- Whether the ends round to the number. -/
  closed : Bool

/-- The interval of `mantissa · 2 ^ exponent`. The numbers below it lie half as far apart where
`narrow` says so. -/
def Interval.ofBinary (mantissa : Nat) (exponent : Int) (narrow : Bool) : Interval where
  lower := 4 * mantissa - (if narrow then 1 else 2)
  centre := 4 * mantissa
  upper := 4 * mantissa + 2
  exponent := exponent - 2
  closed := mantissa % 2 = 0

/-- The factors `(a, b)` for which `x · 2 ^ binary` and `k · 10 ^ decimal` compare as `x · a` and
`k · b` do. -/
def commonFactors (binary decimal : Int) : Nat × Nat :=
  (Nat.pow 2 binary.toNat * Nat.pow 10 (-decimal).toNat,
    Nat.pow 2 (-binary).toNat * Nat.pow 10 decimal.toNat)

def digitCount (n : Nat) : Nat :=
  (Nat.toDigits 10 n).length

/-- The least power of ten above a binary number of at least `10 ^ (-400)`. -/
def Interval.magnitude (i : Interval) : Int :=
  let (a, b) := commonFactors i.exponent (-400)
  (digitCount (i.centre * a / b) : Int) - 400

/-- The nearest multiple of `10 ^ decimal` that rounds to the number, if one does. -/
def Interval.onGrid? (i : Interval) (decimal : Int) : Option Nat :=
  let (a, b) := commonFactors i.exponent decimal
  let inside (k : Nat) : Bool :=
    if i.closed then i.lower * a ≤ k * b && k * b ≤ i.upper * a
    else i.lower * a < k * b && k * b < i.upper * a
  let below := i.centre * a / b
  let gap := i.centre * a % b
  match inside below, inside (below + 1) with
  | true, true =>
    if 2 * gap < b || (2 * gap = b && below % 2 = 0) then some below else some (below + 1)
  | true, false => some below
  | false, true => some (below + 1)
  | false, false => none

/-- The digits of a number without the zeros at its end, and their count. -/
def dropZeros : Nat → Nat → Nat → Nat × Nat
  | 0, n, count => (n, count)
  | fuel + 1, n, count =>
    if n ≠ 0 ∧ n % 10 = 0 then dropZeros fuel (n / 10) (count + 1) else (n, count)

/-- Tries grids of `count` and more digits, up to seventeen of them, which always hold a decimal
that rounds to a double. -/
def Interval.search (i : Interval) (magnitude : Int) : Nat → Decimal
  | 0 => ⟨0, 0⟩
  | left + 1 =>
    let decimal := magnitude - ((17 - left : Nat) : Int)
    match i.onGrid? decimal with
    | some k =>
      let (digits, zeros) := dropZeros 20 k 0
      ⟨digits, decimal + zeros⟩
    | none => i.search magnitude left

def Interval.shortest (i : Interval) : Decimal :=
  i.search i.magnitude 17

/-- The number of fractions of a double, `2 ^ 52`. -/
def fractionCount : Nat := 0x10000000000000

/-- The number of exponent fields of a double, `2 ^ 11`. -/
def fieldCount : Nat := 0x800

/-- A double as a sign and the interval of its magnitude; none for zeros and for what is not
finite. -/
def intervalOf? (x : Float) : Option Interval :=
  let bits : Nat := x.toBits.toNat
  let field : Nat := bits / fractionCount % fieldCount
  let fraction : Nat := bits % fractionCount
  if field = 0 then
    if fraction = 0 then none else some (.ofBinary fraction (-1074) false)
  else if field = 2047 then none
  else some (.ofBinary (fractionCount + fraction) ((field : Int) - 1075) (fraction = 0 && field ≠ 1))

/-- Whether the sign bit of a double is set. -/
def isNegative (x : Float) : Bool :=
  x.toBits.toNat / (fractionCount * fieldCount) = 1

end Decimal

end TextChain
