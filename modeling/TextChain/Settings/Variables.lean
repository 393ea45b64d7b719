import TextChain.Settings.Setting
import TextChain.Text.Alphanumeric
import TextChain.Text.Utf8

/-!
# Environment variables

Variables of the environment whose names start with `CATENA_` are settings. A file of assignments adds
variables to an environment, but never changes one that is set. A name after a dollar sign stands for
the value of a variable, or of an assignment further up; nothing after a faulty assignment counts.
-/

namespace TextChain.Settings

open Text.Utf8 (Bytes)

/-- The values of environment variables. -/
abbrev Variables := Dict String

/-! ### Entries of a file of assignments -/

/-- Where in an entry a character stands. -/
inductive EntryState
  | plain
  | blank
  | escaped
  | double
  | doubleEscaped
  | single
  | singleEscaped
  | comment
deriving DecidableEq, Repr

/-- What a character means outside of quotes. -/
def EntryState.ofChar : Char → EntryState
  | '\\' => .escaped
  | '"' => .double
  | '\'' => .single
  | _ => .plain

/-- The state after a character. A comment starts with a hash after a single blank. -/
def EntryState.next : EntryState → Char → EntryState
  | .plain, c =>
    if Text.isBlank c && c ≠ '\n' && c ≠ '\r' then .blank else ofChar c
  | .blank, c => if c = '#' then .comment else ofChar c
  | .escaped, _ => .plain
  | .double, c => if c = '\\' then .doubleEscaped else if c = '"' then .plain else .double
  | .doubleEscaped, _ => .double
  | .single, c => if c = '\\' then .singleEscaped else if c = '\'' then .plain else .single
  | .singleEscaped, _ => .single
  | .comment, _ => .comment

/-- Follows an entry through a line: the line up to a comment, and the state after it. -/
def EntryState.follow : EntryState → List Char → List Char × EntryState
  | s, [] => ([], s)
  | s, c :: cs =>
    match s.next c with
    | .comment => ([], .comment)
    | s =>
      let (kept, last) := s.follow cs
      (c :: kept, last)

def dropLineEnd (line : List Char) : List Char :=
  match line.reverse with
  | '\n' :: '\r' :: front => front.reverse
  | '\n' :: front => front.reverse
  | _ => line

/-- The entries of lines, which keep their ends. An entry goes on in the next line while a quote is
open; `before` is what was read of it. An entry that is still open at the end is left out. -/
def entriesFrom (before : List Char) (state : EntryState) : List (List Char) → List (List Char)
  | [] => []
  | line :: rest =>
    let whole := before ++ line
    if (whole.dropWhile Text.isBlank).head? = some '#' then entriesFrom [] .plain rest
    else
      match state.follow line with
      | (kept, .comment) => (before ++ kept) :: entriesFrom [] .plain rest
      | (_, .plain) => dropLineEnd whole :: entriesFrom [] .plain rest
      | (_, state) => entriesFrom whole state rest

/-- Lines of bytes with their ends, given the bytes between line feeds. -/
def withEnds : List Bytes → List Bytes
  | [] => []
  | [last] => if last = [] then [] else [last]
  | line :: rest => (line ++ [10]) :: withEnds rest

/-- The lines of a file with their ends, up to the first that is no text. -/
def linesOf (contents : Bytes) : List (List Char) :=
  let read := (withEnds (contents.splitOn 10)).map fun line => (Text.Utf8.decode line).toOption
  (read.takeWhile Option.isSome).filterMap fun line => line.map String.toList

/-! ### Values -/

/-- Where in a value a character stands. In some states `quoted` says whether a double quote is
open. -/
inductive ValueState
  | plain (quoted : Bool)
  | escaped (quoted : Bool)
  | single
  /-- In a name after a dollar sign, given in reverse order. -/
  | name (quoted : Bool) (cs : List Char)
  | braced (quoted : Bool) (cs : List Char)
  | ended

/-- The character that a backslash and this character stand for. -/
def escapedInValue? : Char → Option Char
  | 'n' => some '\n'
  | c => if c = '\\' || c = '\'' || c = '"' || c = '$' || c = ' ' then some c else none

/-- What the rest of a value stands for, where `lookup` tells what names stand for. -/
def valueFrom? (lookup : String → String) : ValueState → List Char → Option (List Char)
  | .plain quoted, [] => if quoted then none else some []
  | .escaped quoted, [] => if quoted then none else some []
  | .name quoted cs, [] => if quoted then none else some (lookup (String.ofList cs.reverse)).toList
  | .ended, [] => some []
  | .single, [] => none
  | .braced .., [] => none
  | .ended, c :: rest =>
    if c = ' ' || c = '\t' then valueFrom? lookup .ended rest
    else if c = '#' then some []
    else none
  | .escaped quoted, c :: rest => do
    let char ← escapedInValue? c
    some (char :: (← valueFrom? lookup (.plain quoted) rest))
  | .single, c :: rest =>
    if c = '\'' then valueFrom? lookup (.plain false) rest
    else (valueFrom? lookup .single rest).map (c :: ·)
  | .name quoted cs, c :: rest =>
    if Text.isAlphanumeric c then valueFrom? lookup (.name quoted (c :: cs)) rest
    else if c = '\x7b' && cs.isEmpty then valueFrom? lookup (.braced quoted []) rest
    else
      let found := (lookup (String.ofList cs.reverse)).toList
      if c = '$' then (valueFrom? lookup (.name quoted []) rest).map (found ++ ·)
      else (valueFrom? lookup (.plain quoted) rest).map fun more => found ++ c :: more
  | .braced quoted cs, c :: rest =>
    if c = '\x7d' then
      (valueFrom? lookup (.plain quoted) rest).map
        ((lookup (String.ofList cs.reverse)).toList ++ ·)
    else valueFrom? lookup (.braced quoted (c :: cs)) rest
  | .plain quoted, c :: rest =>
    if c = '$' then valueFrom? lookup (.name quoted []) rest
    else if c = '"' then valueFrom? lookup (.plain !quoted) rest
    else if c = '\\' then valueFrom? lookup (.escaped quoted) rest
    else if c = '\'' && !quoted then valueFrom? lookup .single rest
    else if (c = ' ' || c = '\t') && !quoted then valueFrom? lookup .ended rest
    else (valueFrom? lookup (.plain quoted) rest).map (c :: ·)

/-! ### Assignments -/

def variableName? (cs : List Char) : Option (String × List Char) :=
  let isPart (c : Char) : Bool := c.isAlphanum || c = '_' || c = '.'
  match cs with
  | c :: _ =>
    if c.isAlpha || c = '_' then
      some (String.ofList (cs.takeWhile isPart), (cs.dropWhile isPart).dropWhile Text.isBlank)
    else none
  | [] => none

/-- Reads a name with its equals sign; the word `export` may stand in front. -/
def target? (cs : List Char) : Option (String × List Char) := do
  match ← variableName? cs with
  | (name, '=' :: rest) => some (name, rest)
  | ("export", rest) =>
    match ← variableName? rest with
    | (name, '=' :: rest) => some (name, rest)
    | _ => none
  | _ => none

/-- What an entry of a file assigns. -/
inductive Assignment
  | nothing
  | set (name value : String)
deriving DecidableEq, Repr

/-- Reads an entry, unless it is faulty. -/
def Assignment.parse? (lookup : String → String) (entry : List Char) : Option Assignment :=
  match Text.trimChars entry with
  | [] | '#' :: _ => some .nothing
  | cs => do
    let (name, rest) ← target? cs
    match rest.dropWhile Text.isBlank with
    | [] | '#' :: _ => some (.set name "")
    | rest => do
      let value ← valueFrom? lookup (.plain false) rest
      some (.set name (String.ofList value))

namespace Variables

/-- The variables after assignments, where `assigned` has the values of those further up. -/
def assignFrom (env assigned : Variables) : List (List Char) → Variables
  | [] => env
  | entry :: rest =>
    let lookup (name : String) : String :=
      ((env.find? name).orElse fun _ => assigned.find? name).getD ""
    match Assignment.parse? lookup entry with
    | none => env
    | some .nothing => assignFrom env assigned rest
    | some (.set name value) =>
      let next := if env.contains name then env else env.insert name value
      assignFrom next (assigned.insert name value) rest

/-- The bytes without a byte order mark at their start. -/
def dropMark : Bytes → Bytes
  | 0xEF :: 0xBB :: 0xBF :: rest => rest
  | bytes => bytes

def assignAll (env : Variables) (contents : Bytes) : Variables :=
  assignFrom env .empty (entriesFrom [] .plain (linesOf (dropMark contents)))

/-- What the names of variables that are settings start with, in lower case. -/
def settingPrefix : String := "catena_"

def settings (env : Variables) : List (String × Setting) :=
  env.entries.filterMap fun (name, value) =>
    let key := Text.lowercase name
    if key.startsWith settingPrefix then
      some (String.ofList (key.toList.drop settingPrefix.length), .text value)
    else none

end Variables

end TextChain.Settings
