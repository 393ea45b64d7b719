import TextChain.Tool.Basic

/-!
# Flags

The flags of a tool: single letters after one hyphen, which may stand together, or words after two,
which may be cut short as long as only one word starts so. Each flag is known by a letter. The other
arguments are operands; flags may stand among them unless a tool wants all flags first.
-/

namespace TextChain.Tool

/-- Whether a flag takes a value. -/
inductive Need
  | nothing
  | value
  /-- Only a value that is attached to it. -/
  | attached
deriving DecidableEq, Repr

structure Flags where
  letters : List (Char × Need)
  /-- The words with the letters that they stand for. -/
  words : List (String × Char × Need)
  /-- Whether an operand ends the flags. -/
  ordered : Bool

abbrev Given := Char × Option Raw

structure Reading where
  /-- The flags in their order, up to the first fault. -/
  given : List Given
  operands : List Raw
  /-- The message about the first fault. -/
  fault : Option Raw

def Reading.after (r : Reading) (given : List Given) : Reading :=
  { r with given := given ++ r.given }

namespace Flags

/-- Reads letters that stand together; the next argument is there for a value. Gives the flags, and
whether the next argument was taken or what is wrong. -/
def readLetters (f : Flags) (next : Option Raw) : Raw → List Given × Except Raw Bool
  | [] => ([], .ok false)
  | c :: cs =>
    match f.letters.lookup c with
    | none => ([], .error (rawOf "invalid option -- '" ++ [c, '\'']))
    | some .nothing =>
      let (given, taken) := f.readLetters next cs
      ((c, none) :: given, taken)
    | some .attached => ([(c, if cs = [] then none else some cs)], .ok false)
    | some .value =>
      if cs ≠ [] then ([(c, some cs)], .ok false)
      else
        match next with
        | some value => ([(c, some value)], .ok true)
        | none => ([], .error (rawOf "option requires an argument -- '" ++ [c, '\'']))

/-- The words that a word may mean. -/
def candidates (f : Flags) (word : Raw) : List (String × Char × Need) :=
  match f.words.filter fun w => w.1.toList = word with
  | [] => f.words.filter fun w => word.isPrefixOf w.1.toList
  | exact => exact

def shownWord (word : Raw) : Raw :=
  rawOf "'--" ++ word ++ ['\'']

/-- Reads a word after two hyphens. -/
def readWord (f : Flags) (next : Option Raw) (text : Raw) : Except Raw (Given × Bool) :=
  let word := text.takeWhile (· ≠ '=')
  let value := if text.contains '=' then some ((text.dropWhile (· ≠ '=')).drop 1) else none
  let found := f.candidates word
  match found with
  | [] => .error (rawOf "unrecognized option " ++ shownWord text)
  | (name, letter, need) :: others =>
    if others.any fun w => w.2 ≠ (letter, need) then
      .error (rawOf "option " ++ shownWord text ++ rawOf " is ambiguous; possibilities:" ++
        found.flatMap fun w => rawOf " '--" ++ rawOf w.1 ++ ['\''])
    else
      match need, value, next with
      | .nothing, none, _ => .ok ((letter, none), false)
      | .nothing, some _, _ =>
        .error (rawOf "option " ++ shownWord (rawOf name) ++ rawOf " doesn't allow an argument")
      | .attached, value, _ => .ok ((letter, value), false)
      | .value, some value, _ => .ok ((letter, some value), false)
      | .value, none, some value => .ok ((letter, some value), true)
      | .value, none, none =>
        .error (rawOf "option " ++ shownWord (rawOf name) ++ rawOf " requires an argument")

def scan (f : Flags) (args : List Raw) : Reading :=
  match args with
  | [] => ⟨[], [], none⟩
  | ['-', '-'] :: rest => ⟨[], rest, none⟩
  | ('-' :: '-' :: text) :: rest =>
    match f.readWord rest.head? text with
    | .ok (given, taken) => (f.scan (rest.drop (if taken then 1 else 0))).after [given]
    | .error message => ⟨[], [], some message⟩
  | ('-' :: c :: cs) :: rest =>
    match f.readLetters rest.head? (c :: cs) with
    | (given, .ok taken) => (f.scan (rest.drop (if taken then 1 else 0))).after given
    | (given, .error message) => ⟨given, [], some message⟩
  | operand :: rest =>
    if f.ordered then ⟨[], operand :: rest, none⟩
    else
      let r := f.scan rest
      { r with operands := operand :: r.operands }
termination_by args.length
decreasing_by
  all_goals simp only [List.length_cons, List.length_drop]
  all_goals omega

/-- Reads arguments: the flags in their order and the operands, or what is wrong first. -/
def read (f : Flags) (args : List Raw) : Except Raw (List Given × List Raw) :=
  let r := f.scan args
  match r.fault with
  | none => .ok (r.given, r.operands)
  | some message => .error message

end Flags

def hasFlag (given : List Given) (letter : Char) : Bool :=
  given.any fun g => g.1 = letter

/-- The last value of a flag. -/
def flagValue? (given : List Given) (letter : Char) : Option Raw :=
  (given.reverse.find? fun g => g.1 = letter).bind Prod.snd

end TextChain.Tool
