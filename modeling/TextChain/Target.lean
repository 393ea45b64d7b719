import TextChain.Chain
import TextChain.Dict

/-!
# Targets of extensions

What an extension is mapped to, and which chain it has by convention.
-/

namespace TextChain

/-- What an extension is mapped to. -/
inductive Target
  | chain (spec : String)
  /-- The document is compiled block by block. -/
  | wildcard
deriving DecidableEq, Repr

namespace Target

/-- Reads a mapping value, of which the blanks at the ends do not count. -/
def parse (value : String) : Target :=
  let spec := Text.trim value
  if spec = Chain.wildcard then .wildcard else .chain spec

def chain? : Target → Option String
  | .chain spec => some spec
  | .wildcard => none

/-- The mapping value of a target. -/
def text : Target → String
  | .chain spec => spec
  | .wildcard => Chain.wildcard

end Target

/-! ### Conventional chains -/

/-- The extensions that always have a chain, in the order in which they are shown. -/
def builtInChains : List (String × String) :=
  [("txt", "text"), ("html", "html"), ("css", "css"), ("js", "js")]

def builtInChain? (ext : String) : Option String :=
  Entries.find? ext builtInChains

/-- Which chain an extension has that is not mapped. -/
structure Conventions where
  /-- Chains that come before the built-in ones. -/
  overrides : Dict String
  /-- Whether any other extension has the chain of its own name. -/
  fallback : Bool

namespace Conventions

/-- Adds chains that come before the built-in ones. -/
def withOverrides (c : Conventions) (overrides : Dict String) : Conventions :=
  { c with overrides := c.overrides.insertMany overrides.entries }

/-- The chain of an extension: an override, else the built-in one, else its own name. -/
def chain? (c : Conventions) (ext : String) : Option String :=
  match c.overrides.find? ext with
  | some spec => some spec
  | none =>
    match builtInChain? ext with
    | some spec => some spec
    | none => if c.fallback then some ext else none

end Conventions

end TextChain
