import TextChain.Tool.Raw

/-!
# Shell scripts

A script is made of commands, and commands of words. The pieces of a word say which of its characters
stand in quotes and where values are put in.
-/

namespace TextChain.Tool.Shell

/-- What is done with the value of a parameter. With `orEmpty` an empty value counts as none. -/
inductive Operation
  | value
  | length
  /-- The word takes the place of a missing value. -/
  | orElse (orEmpty : Bool)
  /-- The word takes the place of a value. -/
  | instead (orEmpty : Bool)
  /-- The word is the message about a missing value. -/
  | demand (orEmpty : Bool)
  /-- The word becomes a missing value. -/
  | assign (orEmpty : Bool)
  /-- A part that matches the word is cut off. -/
  | trim (fromEnd longest : Bool)
  /-- Something that means nothing. -/
  | invalid
deriving DecidableEq, Repr

inductive Opening
  | read
  /-- A file that is there keeps its contents if the shell has been told so. -/
  | write
  | overwrite
  | append
  | readWrite
deriving DecidableEq, Repr

mutual

inductive Piece
  /-- A character that may have a meaning. -/
  | char (c : Char)
  | quoted (c : Char)
  /-- A pair of quotes, which makes a word even if nothing is between them. -/
  | quotes
  | parameter (name : Raw) (operation : Operation) (word : List Piece) (inQuotes : Bool)
  | output (c : Command) (inQuotes : Bool)
  | arithmetic (text : List Piece) (inQuotes : Bool)

inductive Redirection
  | file (descriptor : Nat) (opening : Opening) (name : List Piece)
  | copy (descriptor : Nat) (source : List Piece)
  /-- The text that stands in the script, by its number. -/
  | document (descriptor : Nat) (number : Nat)

inductive Command
  | nothing
  | simple (line : Nat) (assignments : List (Raw × List Piece)) (words : List (List Piece))
      (redirections : List Redirection)
  | pipeline (stages : List Command)
  | negated (c : Command)
  | both (a b : Command)
  | either (a b : Command)
  | sequence (a b : Command)
  | background (c : Command)
  | subshell (line : Nat) (c : Command) (redirections : List Redirection)
  | redirected (line : Nat) (c : Command) (redirections : List Redirection)
  | conditional (test body : Command) (other : Option Command)
  | loop (whileFails : Bool) (test body : Command)
  | each (line : Nat) (name : Raw) (words : List (List Piece)) (body : Command)
  | choice (line : Nat) (word : List Piece) (cases : List (List (List Piece) × Command))
  | function (name : Raw) (line : Nat) (body : Command)

end

instance : Inhabited Command := ⟨.nothing⟩

/-! ### Names -/

def startsName (c : Char) : Bool :=
  c.isAlpha || c = '_'

def isName (cs : Raw) : Bool :=
  match cs with
  | [] => false
  | c :: rest => startsName c && rest.all isWord

/-- Whether a character is the name of a special parameter. -/
def isSpecial (c : Char) : Bool :=
  "!#$*-?@".toList.contains c || c.isDigit

end TextChain.Tool.Shell
