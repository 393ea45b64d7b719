import TextChain.Tool.Pattern.Match

/-!
# Scripts that edit streams

A script is a sequence of commands. Each is carried out on the lines that its addresses select.
-/

namespace TextChain.Tool.StreamEdit

/-- A pattern with the way in which it is looked for. -/
structure Search where
  pattern : Pattern
  groups : Nat
  /-- Whether lines start and end inside the text. -/
  several : Bool
  /-- Whether case does not count. -/
  folds : Bool

/-- Looks for a pattern in a text from a position on. -/
def Search.find? (s : Search) (chars : Array Char) (start : Nat) : Option Pattern.Found :=
  s.pattern.find? ⟨chars, s.several, s.folds⟩ start

/-! ### Addresses -/

inductive Address
  | line (number : Nat)
  /-- The lines from a number on with a distance. -/
  | steps (first distance : Nat)
  | last
  /-- The lines that match a pattern, or the pattern used last. -/
  | search (pattern : Option Search)

inductive RangeEnd
  /-- At a line that an address selects. -/
  | address (a : Address)
  /-- So many lines behind its start. -/
  | after (count : Nat)
  /-- At the next line whose number is a multiple. -/
  | multiple (factor : Nat)

/-- The lines on which a command is carried out. -/
structure Selection where
  /-- The address of a line, or of the first line of a range. -/
  first : Option Address
  last : Option RangeEnd
  /-- Whether the other lines are meant. -/
  negated : Bool

/-! ### Replacements -/

inductive Case
  | kept
  | upper
  | lower
deriving DecidableEq

/-- How a part of a replacement changes: its first letter, and all letters. -/
structure Recasing where
  first : Case
  all : Case
deriving DecidableEq

/-- A part of a replacement: a text, and the group that follows it. -/
structure Part where
  text : Raw
  group : Option Nat
  recasing : Recasing

structure Replacing where
  search : Option Search
  parts : List Part
  /-- Which of the matches is the first that is replaced. -/
  occurrence : Nat
  all : Bool
  /-- Whether the line is printed if something was replaced. -/
  printed : Bool
  file : Option Raw

def greatestGroup (parts : List Part) : Nat :=
  (parts.filterMap (·.group)).foldl max 0

/-! ### Commands -/

inductive Condition
  | always
  /-- If something was replaced since the line was read. -/
  | replaced
  /-- If nothing was replaced since the line was read. -/
  | unreplaced
deriving DecidableEq

inductive Action
  | opening
  | closing
  | mark (label : Raw)
  /-- Jumps to a label, or to the end if it is empty. -/
  | jump (when : Condition) (label : Raw)
  | append (text : Raw)
  | insert (text : Raw)
  | change (text : Raw)
  | delete
  | deleteFirst
  | print
  | printFirst
  | next
  | appendNext
  | hold
  | appendHold
  | get
  | appendGet
  | exchange
  /-- Shows the line with its characters in escapes, in lines of a width. -/
  | list (width : Option Nat)
  | number
  | quit (status : Nat)
  | quitSilently (status : Nat)
  | readFile (path : Raw)
  | readLine (path : Raw)
  | writeFile (path : Raw)
  | writeFirst (path : Raw)
  | substitute (r : Replacing)
  | exchangeLetters (pairs : List (Char × Char))
  | fileName
  | clear

structure Command where
  selection : Selection
  action : Action

/-- The index behind the block that starts before an index; `depth` counts the blocks inside it. -/
def behindBlock (commands : List Command) (depth index : Nat) : Nat :=
  match commands with
  | [] => index
  | c :: rest =>
    match c.action with
    | .closing => if depth = 0 then index + 1 else behindBlock rest (depth - 1) (index + 1)
    | .opening => behindBlock rest (depth + 1) (index + 1)
    | _ => behindBlock rest depth (index + 1)

/-- The index of the last place with a label. -/
def labelIndex? (commands : Array Command) (label : Raw) : Option Nat :=
  (List.range commands.size).reverse.find? fun i =>
    match commands[i]? with
    | some ⟨_, .mark name⟩ => name = label
    | _ => false

end TextChain.Tool.StreamEdit
