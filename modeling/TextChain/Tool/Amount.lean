import TextChain.Tool.Basic

/-!
# Amounts

Numbers of lines or bytes as arguments give them, with a letter for a multiple.
-/

namespace TextChain.Tool

/-- The letters of multiples in order; each stands for the next power. -/
def multipleLetters : Raw := "KMGTPEZYRQ".toList

/-- The factor of a suffix; none if there is no such suffix. -/
def factor? (suffix : Raw) : Option Nat :=
  let power (letter : Char) : Option Nat :=
    (multipleLetters.findIdx? (· = letter)).map (· + 1)
  match suffix with
  | [] => some 1
  | ['b'] => some 512
  | 'k' :: rest => multiple (some 1) rest
  | 'm' :: rest => multiple (some 2) rest
  | letter :: rest => multiple (power letter) rest
where
  /-- The factor of a power, in tens or in twos. -/
  multiple (power : Option Nat) (rest : Raw) : Option Nat :=
    match power, String.ofList rest with
    | some n, "" | some n, "iB" => some (Nat.pow 1024 n)
    | some n, "B" | some n, "D" => some (Nat.pow 1000 n)
    | _, _ => none

/-- Why an amount cannot be read. -/
inductive AmountFault
  | malformed
  | tooLarge
deriving DecidableEq, Repr

/-- Reads an amount. A suffix alone stands for one of its multiple. -/
def amount (cs : Raw) : Except AmountFault Nat :=
  let signed := cs.dropWhile isSpace
  let digits := if signed.head? = some '+' then signed.tail else signed
  let suffix := digits.dropWhile Char.isDigit
  match natural? (digits.takeWhile Char.isDigit), factor? suffix with
  | _, none => .error .malformed
  | none, some factor =>
    if suffix = [] || signed.head? = some '+' then .error .malformed else .ok factor
  | some n, some factor =>
    if 0xFFFFFFFFFFFFFFFF < n * factor then .error .tooLarge else .ok (n * factor)

/-- The message about an amount that cannot be read. -/
def AmountFault.message (what : String) (cs : Raw) : AmountFault → Raw
  | .malformed => rawOf what ++ rawOf ": " ++ quoteWord cs
  | .tooLarge =>
    rawOf what ++ rawOf ": " ++ quoteWord cs ++ rawOf ": Value too large for defined data type"

end TextChain.Tool
