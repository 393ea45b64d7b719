import TextChain.Settings.Setting

/-!
# Keys of settings

A key names a place among the settings: an entry of the outermost table, and then entries of the
tables and items of the lists below it, as in `commands.upper.args[0]`. A text that cannot be read so
names the entry of its own name.
-/

namespace TextChain.Settings

/-- A step from a setting to one below it. -/
inductive Step
  | child (name : String)
  /-- To the item with an index, which counts from the end if it is negative. -/
  | item (index : Int)
deriving DecidableEq, Repr

def isNameChar (c : Char) : Bool :=
  c.isAlphanum || c = ' ' || c = '_' || c = '-'

/-- The index between brackets, which fits into 64 bits. -/
def index? (cs : List Char) : Option Int :=
  let isGap (c : Char) : Bool := c = ' ' || c = '\t'
  let bounded (i : Int) : Option Int :=
    if -0x8000000000000000 ≤ i ∧ i ≤ 0x7FFFFFFFFFFFFFFF then some i else none
  let ofDigits (ds : List Char) : Option Int :=
    if ds ≠ [] && ds.all Char.isDigit then some (Nat.ofDigitChars 10 ds 0) else none
  match ((cs.dropWhile isGap).reverse.dropWhile isGap).reverse with
  | '-' :: ds => (ofDigits ds).bind fun n => bounded (-n)
  | ds => (ofDigits ds).bind bounded

/-- Reads the steps after the first name. -/
def steps? (cs : List Char) : Option (List Step) :=
  match cs with
  | [] => some []
  | '.' :: cs =>
    match cs.takeWhile isNameChar with
    | [] => none
    | name => (steps? (cs.dropWhile isNameChar)).map (.child (String.ofList name) :: ·)
  | '[' :: cs => do
    let index ← index? (cs.takeWhile (· ≠ ']'))
    let rest ← steps? ((cs.dropWhile (· ≠ ']')).drop 1)
    if cs.contains ']' then some (.item index :: rest) else none
  | _ => none
termination_by cs.length
decreasing_by
  · have := (List.dropWhile_suffix (l := cs) isNameChar).length_le
    simp only [List.length_cons]
    omega
  · have := (List.dropWhile_suffix (l := cs) (· ≠ ']')).length_le
    simp only [List.length_cons, List.length_drop]
    omega

def stepsOf (key : String) : List Step :=
  let cs := key.toList
  match cs.takeWhile isNameChar, steps? (cs.dropWhile isNameChar) with
  | _ :: _, some rest => .child (String.ofList (cs.takeWhile isNameChar)) :: rest
  | _, _ => [.child key]

/-- The position of an index in a list of some length. -/
def position? (index : Int) (length : Nat) : Option Nat :=
  if 0 ≤ index then some index.toNat
  else if index.natAbs ≤ length then some (length - index.natAbs)
  else none

/-- Lays a setting over the place at the end of some steps. What is not there is made on the way. -/
def layAt (value : Setting) : List Step → Setting → Setting
  | [], base => base.merge value
  | .child name :: rest, base =>
    let key := Text.lowercase name
    let next := (Entries.find? key base.entries).getD (.table [])
    .table (Entries.insert key (layAt value rest next) base.entries)
  | .item index :: rest, base =>
    match position? index base.items.length with
    | none => base
    | some i =>
      let items := base.items ++ List.replicate (i + 1 - base.items.length) .nothing
      .list (items.modify i (layAt value rest))

/-- Lays the settings of a source over those of the sources before it. -/
def mergeSource (base : Setting) (source : List (String × Setting)) : Setting :=
  source.foldl (fun base (key, value) => layAt value (stepsOf key) base) base

end TextChain.Settings
