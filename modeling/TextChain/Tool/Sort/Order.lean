import TextChain.Tool.Real

/-!
# Orders of lines

How two texts are compared: by their bytes, or by a number, a month or a version that they start with.
-/

namespace TextChain.Tool.Sort

/-- What texts are compared by. -/
inductive Measure
  | bytes
  /-- The number that they start with, in digits. -/
  | number
  /-- The number that they start with, in any notation. -/
  | general
  /-- The number that they start with, and the letter of its unit first. -/
  | human
  | month
  | version
deriving DecidableEq

def compareBytes : Raw → Raw → Ordering
  | [], [] => .eq
  | [], _ :: _ => .lt
  | _ :: _, [] => .gt
  | a :: as, b :: bs => (compare a.toNat b.toNat).then (compareBytes as bs)

/-! ### Numbers -/

/-- A number in digits: its sign, the digits before the point without zeros at their start, and those
after it without zeros at their end. -/
structure Decimal where
  negative : Bool
  whole : Raw
  part : Raw

/-- The number that a text starts with; zero if there is none. -/
def Decimal.ofText (cs : Raw) : Decimal :=
  let rest := cs.dropWhile fun c => isGap c || c = '\n'
  let (negative, ds) := match rest with
    | '-' :: ds => (true, ds)
    | ds => (false, ds)
  let whole := (ds.takeWhile Char.isDigit).dropWhile (· = '0')
  let part := match ds.dropWhile Char.isDigit with
    | '.' :: after => ((after.takeWhile Char.isDigit).reverse.dropWhile (· = '0')).reverse
    | _ => []
  ⟨negative && (whole ≠ [] || part ≠ []), whole, part⟩

def Decimal.compare (a b : Decimal) : Ordering :=
  let size := (Ord.compare a.whole.length b.whole.length).then
    ((compareBytes a.whole b.whole).then (compareBytes a.part b.part))
  match a.negative, b.negative with
  | true, false => .lt
  | false, true => .gt
  | false, false => size
  | true, true => size.swap

def unitLetters : Raw := "KMGTPEZYRQ".toList

/-- The rank of the unit of a number, which is below zero for a negative one. -/
def unitRank (cs : Raw) : Int :=
  let rest := cs.dropWhile fun c => isGap c || c = '\n'
  let (negative, ds) := match rest with
    | '-' :: ds => (true, ds)
    | ds => (false, ds)
  let isPart (c : Char) : Bool := c.isDigit || c = '.'
  if (ds.takeWhile isPart).any fun c => c.isDigit && c ≠ '0' then
    let rank : Int := match (ds.dropWhile isPart).head? with
      | some 'k' => 1
      | some c => ((unitLetters.findIdx? (· = c)).map fun n => (n : Int) + 1).getD 0
      | none => 0
    if negative then -rank else rank
  else 0

def compareHuman (a b : Raw) : Ordering :=
  (compare (unitRank a) (unitRank b)).then ((Decimal.ofText a).compare (Decimal.ofText b))

/-- Compares two finite numbers. -/
def compareFinite (n : Bool) (a : Nat) (x : Int) (m : Bool) (b : Nat) (y : Int) : Ordering :=
  let least := min x y
  let scale (whole : Nat) (power : Int) : Int := whole * Nat.pow 2 (power - least).toNat
  let signed (negative : Bool) (v : Int) : Int := if negative then -v else v
  compare (signed n (scale a x)) (signed m (scale b y))

/-- Compares numbers in any notation: what is no number comes first, then undefined ones. -/
def compareGeneral (a b : Raw) : Ordering :=
  let value (cs : Raw) : Option Real := (Real.read? .extended cs).map Prod.fst
  let rank : Option Real → Int
    | none => 0
    | some (.undefined _) => 1
    | some (.infinite negative) => if negative then 2 else 4
    | some (.finite ..) => 3
  match value a, value b with
  | some (.finite n w x), some (.finite m v y) => compareFinite n w x m v y
  | x, y => compare (rank x) (rank y)

/-! ### Months -/

def monthNames : List String :=
  ["JAN", "FEB", "MAR", "APR", "MAY", "JUN", "JUL", "AUG", "SEP", "OCT", "NOV", "DEC"]

/-- The number of the month that a text starts with; zero if there is none. -/
def monthOf (cs : Raw) : Nat :=
  let name := ((cs.dropWhile isGap).take 3).map Char.toUpper
  ((monthNames.findIdx? fun m => m.toList = name).map (· + 1)).getD 0

/-! ### Versions -/

/-- The rank of a character of a version; the end of the text and digits come before letters. -/
def versionRank : Option Char → Int
  | none => -1
  | some c =>
    if c.isDigit then 0
    else if c.isAlpha then c.toNat
    else if c = '~' then -2
    else c.toNat + 256

/-- Compares versions: parts without digits by rank, and numbers by value. The first argument bounds
the number of characters. -/
def compareParts : Nat → Raw → Raw → Ordering
  | 0, _, _ => .eq
  | fuel + 1, a, b =>
    let letter (cs : Raw) : Bool := cs.head?.any fun c => !c.isDigit
    if a = [] && b = [] then .eq
    else if letter a || letter b then
      (compare (versionRank a.head?) (versionRank b.head?)).then
        (compareParts fuel (a.drop 1) (b.drop 1))
    else
      let m := (a.takeWhile Char.isDigit).dropWhile (· = '0')
      let n := (b.takeWhile Char.isDigit).dropWhile (· = '0')
      ((compare m.length n.length).then (compareBytes m n)).then
        (compareParts fuel (a.dropWhile Char.isDigit) (b.dropWhile Char.isDigit))

/-- The text without the suffixes at its end, each of which is a point, a letter, and letters and
digits. -/
def withoutSuffixes (cs : Raw) : Raw :=
  let isTail (part : Raw) : Bool := match part with
    | c :: rest => (c.isAlpha || c = '~') && rest.all fun d => d.isAlphanum || d = '~'
    | [] => false
  match (cs.splitOn '.') with
  | [] => []
  | first :: parts =>
    let kept := (parts.reverse.dropWhile isTail).reverse
    let whole := ['.'].intercalate (first :: kept)
    if whole = [] then cs else whole

/-- Compares versions, without suffixes first. -/
def compareVersion (a b : Raw) : Ordering :=
  let hidden (cs : Raw) : Nat :=
    if cs = [] then 0
    else if cs = ['.'] then 1
    else if cs = ['.', '.'] then 2
    else if cs.head? = some '.' then 3
    else 4
  let parts (x y : Raw) : Ordering := compareParts (x.length + y.length + 1) x y
  (compare (hidden a) (hidden b)).then
    ((parts (withoutSuffixes a) (withoutSuffixes b)).then (parts a b))

/-! ### All of them -/

def Measure.compare : Measure → Raw → Raw → Ordering
  | .bytes, a, b => compareBytes a b
  | .number, a, b => (Decimal.ofText a).compare (Decimal.ofText b)
  | .general, a, b => compareGeneral a b
  | .human, a, b => compareHuman a b
  | .month, a, b => Ord.compare (monthOf a) (monthOf b)
  | .version, a, b => compareVersion a b

end TextChain.Tool.Sort
