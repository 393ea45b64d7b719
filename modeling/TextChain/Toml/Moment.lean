/-!
# TOML dates and times

A date, a time of day, or both with the distance from Greenwich. Each has one written form; readers
give that form together with the characters behind it.
-/

namespace TextChain.Toml

/-- Reads a number of so many digits that is at most `limit`. -/
def digits? (count limit : Nat) (cs : List Char) : Option (Nat × List Char) :=
  let ds := cs.take count
  let n := Nat.ofDigitChars 10 ds 0
  if ds.length = count && ds.all Char.isDigit && n ≤ limit then some (n, cs.drop count) else none

/-- Reads a sign between two numbers. -/
def separator? (sign : Char) : List Char → Option (List Char)
  | c :: cs => if c = sign then some cs else none
  | [] => none

def daysOf (year month : Nat) : Nat :=
  let leap := year % 4 = 0 ∧ (year % 100 ≠ 0 ∨ year % 400 = 0)
  if month = 2 then if leap then 29 else 28
  else if [4, 6, 9, 11].contains month then 30
  else 31

def date? (cs : List Char) : Option (String × List Char) := do
  let (year, rest) ← digits? 4 9999 cs
  let (month, rest) ← digits? 2 12 (← separator? '-' rest)
  let (day, rest) ← digits? 2 (daysOf year month) (← separator? '-' rest)
  if month = 0 ∨ day = 0 then none else some (String.ofList (cs.take 10), rest)

/-- Reads the fraction of a second; nine digits of it count, and zeros at the end do not. -/
def fraction (cs : List Char) : String × List Char :=
  match cs with
  | '.' :: rest =>
    match rest.takeWhile Char.isDigit with
    | [] => ("", cs)
    | ds =>
      let kept := ((ds.take 9).reverse.dropWhile (· = '0')).reverse
      (if kept = [] then "" else "." ++ String.ofList kept, rest.dropWhile Char.isDigit)
  | _ => ("", cs)

def time? (cs : List Char) : Option (String × List Char) := do
  let (_, rest) ← digits? 2 23 cs
  let (_, rest) ← digits? 2 59 (← separator? ':' rest)
  let (_, rest) ← digits? 2 60 (← separator? ':' rest)
  let (part, rest) := fraction rest
  some (String.ofList (cs.take 8) ++ part, rest)

/-- Reads the distance from Greenwich, if there is one. No distance is written with a plus sign. -/
def distance? (cs : List Char) : Option (String × List Char) :=
  match cs with
  | c :: rest =>
    if c = 'Z' ∨ c = 'z' then some ("Z", rest)
    else if c = '+' ∨ c = '-' then do
      let (hours, after) ← digits? 2 23 rest
      let (minutes, after) ← digits? 2 59 (← separator? ':' after)
      let sign := if hours = 0 ∧ minutes = 0 then '+' else c
      some (String.ofList (sign :: rest.take 5), after)
    else some ("", cs)
  | [] => some ("", [])

/-- Reads a date with a time after a letter `T` or a space, or a time alone. -/
def moment? (cs : List Char) : Option (String × List Char) :=
  match date? cs with
  | some (date, c :: rest) =>
    if c = 'T' ∨ c = 't' ∨ c = ' ' then do
      let (time, rest) ← time? rest
      let (distance, rest) ← distance? rest
      some (date ++ "T" ++ time ++ distance, rest)
    else none
  | some (_, []) => none
  | none => time? cs

end TextChain.Toml
