import TextChain.Text.Lines

/-!
# Chains

A chain text names stages in the order in which they run, separated by `>`. The boundary `@` forces
what the stages before it made to text; at most one stage may follow it. `Chain.parse` reads a chain
text and reports its leftmost fault; `Chain.text` writes a chain in its canonical form.
-/

namespace TextChain

/-- The character between two stages of a chain text. -/
def Chain.delimiter : Char := '>'

/-- The piece of a chain text that forces the result so far to text. -/
def Chain.boundary : String := "@"

/-- The mapping value that selects block by block compilation; never a stage of a chain. -/
def Chain.wildcard : String := "*"

structure Chain where
  /-- The stages before the boundary, or all stages if there is none. -/
  pre : List String
  /-- The stage after the boundary. -/
  post : Option String
  forced : Bool
deriving DecidableEq, Repr

/-- What is wrong with a chain text. Each fault carries the trimmed text it was found in. -/
inductive ChainError
  /-- The text has nothing but blanks. -/
  | emptyChain
  /-- The piece at this position, counted from zero, has nothing but blanks. -/
  | emptyStage (spec : String) (position : Nat)
  /-- So many stages follow the boundary. -/
  | multiplePostStages (spec : String) (count : Nat)
  | repeatedBoundary (spec : String)
  /-- The wildcard stands among the stages. -/
  | wildcardInChain (spec : String)
deriving DecidableEq, Repr

def ChainError.message : ChainError → String
  | .emptyChain => "Empty chain specification"
  | .emptyStage spec position =>
    s!"Empty stage name at position {position} in chain '{spec}'"
  | .multiplePostStages spec count =>
    s!"Only one stage may follow the force-to-text boundary in chain '{spec}' (found {count})"
  | .repeatedBoundary spec => s!"Force-to-text boundary repeated in chain '{spec}'"
  | .wildcardInChain spec => s!"Wildcard cannot appear inside chain '{spec}'"

namespace Chain

/-- The stage names in the order in which they run. -/
def stages (c : Chain) : List String :=
  c.pre ++ c.post.toList

/-- The pieces of the canonical text: the stages and, if there is one, the boundary. -/
def tokens (c : Chain) : List String :=
  c.pre ++ (if c.forced then [boundary] else []) ++ c.post.toList

/-- The canonical text of a chain, without blanks around its pieces. -/
def text (c : Chain) : String :=
  (String.singleton delimiter).intercalate c.tokens

/-- Whether a text can name a stage in a chain text. -/
def IsStageName (name : String) : Prop :=
  name ≠ "" ∧ Text.trim name = name ∧ delimiter ∉ name.toList ∧ name ≠ boundary ∧ name ≠ wildcard

/-- A chain that some chain text denotes. -/
structure WellFormed (c : Chain) : Prop where
  /-- Every stage has a name that a chain text can hold. -/
  names : ∀ name ∈ c.stages, IsStageName name
  /-- Only a boundary is followed by a last stage. -/
  forced_of_post : c.post.isSome → c.forced
  /-- There is a stage or a boundary. -/
  nonempty : c.pre ≠ [] ∨ c.forced

/-! ### Reading -/

/-- Reads the stages after the boundary, where no second boundary may stand. -/
def readPost (spec : String) : Nat → List String → Except ChainError (List String)
  | _, [] => .ok []
  | position, piece :: rest =>
    if piece = "" then .error (.emptyStage spec position)
    else if piece = boundary then .error (.repeatedBoundary spec)
    else if piece = wildcard then .error (.wildcardInChain spec)
    else (readPost spec (position + 1) rest).map (piece :: ·)

/-- Reads the stages before the boundary and, if there is a boundary, those after it. -/
def readPre (spec : String) : Nat → List String → Except ChainError (List String × Option (List String))
  | _, [] => .ok ([], none)
  | position, piece :: rest =>
    if piece = "" then .error (.emptyStage spec position)
    else if piece = boundary then
      (readPost spec (position + 1) rest).map fun post => ([], some post)
    else if piece = wildcard then .error (.wildcardInChain spec)
    else (readPre spec (position + 1) rest).map fun (pre, post) => (piece :: pre, post)

/-- The chain of the stages before and after the boundary. -/
def ofSegments (spec : String) : List String × Option (List String) → Except ChainError Chain
  | (pre, none) => .ok ⟨pre, none, false⟩
  | (pre, some []) => .ok ⟨pre, none, true⟩
  | (pre, some [post]) => .ok ⟨pre, some post, true⟩
  | (_, some posts) => .error (.multiplePostStages spec posts.length)

/-- The trimmed pieces of a chain text. -/
def piecesOf (spec : String) : List String :=
  (Text.pieces delimiter spec).map Text.trim

def parse (source : String) : Except ChainError Chain :=
  let spec := Text.trim source
  if spec = "" then .error .emptyChain
  else (readPre spec 0 (piecesOf spec)).bind (ofSegments spec)

end Chain

end TextChain
