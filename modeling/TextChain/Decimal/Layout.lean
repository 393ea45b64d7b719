import TextChain.Decimal.Shortest

/-!
# Layouts of decimals

How the digits of a number are written out: positionally or with a power of ten, and with or without
a point where the number is whole.
-/

namespace TextChain.Decimal

/-- The choices in writing a decimal. -/
structure Layout where
  /-- Whether a number is positional whose first digit has this power of ten. -/
  positional : Int → Bool
  /-- What follows a whole number that is written positionally. -/
  whole : String
  /-- The sign in front of a power of ten that is not negative. -/
  plus : String

def zeros (n : Nat) : String :=
  String.ofList (List.replicate n '0')

def Layout.write (l : Layout) (d : Decimal) : String :=
  let digits := Nat.toDigits 10 d.digits
  let leading := d.exponent + digits.length - 1
  if l.positional leading then
    if 0 ≤ d.exponent then String.ofList digits ++ zeros d.exponent.toNat ++ l.whole
    else if 0 ≤ leading then
      let (front, back) := digits.splitAt (leading.toNat + 1)
      String.ofList front ++ "." ++ String.ofList back
    else "0." ++ zeros (-leading - 1).toNat ++ String.ofList digits
  else
    let power := (if leading < 0 then "-" else l.plus) ++ toString leading.natAbs
    match digits with
    | [] => ""
    | [first] => first.toString ++ "e" ++ power
    | first :: rest => first.toString ++ "." ++ String.ofList rest ++ "e" ++ power

/-- Writes a finite double with the fewest digits that read back as the same double. -/
def Layout.writeFloat (l : Layout) (x : Float) : String :=
  (if isNegative x then "-" else "") ++
    match intervalOf? x with
    | some i => l.write i.shortest
    | none => "0" ++ l.whole

end TextChain.Decimal
