import TextChain.Chain
import TextChain.Stage

/-!
# Resolving chains

A resolver answers which stage a name stands for. Resolving a chain asks for its stages in the order
in which they run and stops at the first name that is refused; a chain text with a fault asks for
none. Every lookup is recorded, and an answer may depend on the lookups before it.
-/

namespace TextChain

/-- What a resolver is told on every lookup. -/
structure ResolverSettings where
  installDir : String
  allowFetch : Bool
deriving DecidableEq, Repr

namespace ResolverSettings

/-- Implementations live below the working directory, and nothing is fetched. -/
def default : ResolverSettings := ⟨".catena", false⟩

instance : Inhabited ResolverSettings := ⟨default⟩

end ResolverSettings

/-- A name that a resolver was asked for. -/
structure Lookup where
  name : String
  settings : ResolverSettings
deriving DecidableEq, Repr

/-- Answers which stage a name stands for, knowing the lookups that came before. -/
structure Resolver where
  answer : List Lookup → Lookup → Except StageError Stage

/-- Why a chain text does not become a chain of stages. -/
inductive LinkError
  | chain (fault : ChainError)
  | resolution (stage : String) (reason : StageError)
deriving DecidableEq, Repr

namespace LinkError

def message : LinkError → String
  | .chain fault => s!"Invalid chain: {fault.message}"
  | .resolution stage reason => s!"Cannot resolve stage '{stage}': {reason.message}"

/-- The texts of the errors behind an error, outermost first. -/
def causes : LinkError → List String
  | .chain fault => [fault.message]
  | .resolution _ reason => reason.message :: reason.causes

/-- Whether the error shows without asking for any stage. -/
def isConfiguration : LinkError → Bool
  | .chain _ => true
  | .resolution .. => false

end LinkError

/-- A chain with its stages. -/
structure LinkedChain where
  chain : Chain
  pre : List Stage
  /-- The stage after the boundary. -/
  post : Option Stage

namespace Chain

/-- A computation that asks a resolver: it may fail, and it leaves the lookups made so far behind in
either case. -/
abbrev Linking (α : Type) := ExceptT LinkError (StateM (List Lookup)) α

/-- Reads a chain text without asking for any stage. -/
def validate (spec : String) : Except LinkError Chain :=
  (parse spec).mapError .chain

def resolveStage (resolver : Resolver) (settings : ResolverSettings) (name : String) :
    Linking Stage := do
  let before ← get
  let lookup : Lookup := ⟨name, settings⟩
  set (before ++ [lookup])
  match resolver.answer before lookup with
  | .ok stage => pure stage
  | .error reason => throw (.resolution name reason)

/-- Asks for stages one after the other. -/
def resolveAll (resolver : Resolver) (settings : ResolverSettings) :
    List String → Linking (List Stage)
  | [] => pure []
  | name :: rest => do
    let stage ← resolveStage resolver settings name
    let stages ← resolveAll resolver settings rest
    pure (stage :: stages)

/-- Asks for the stage after the boundary, if there is one. -/
def resolvePost (resolver : Resolver) (settings : ResolverSettings) :
    Option String → Linking (Option Stage)
  | none => pure none
  | some name => do
    let stage ← resolveStage resolver settings name
    pure (some stage)

/-- Reads a chain text and asks for its stages. -/
def link (resolver : Resolver) (settings : ResolverSettings) (spec : String) :
    Linking LinkedChain := do
  match validate spec with
  | .error e => throw e
  | .ok chain =>
    let pre ← resolveAll resolver settings chain.pre
    let post ← resolvePost resolver settings chain.post
    pure ⟨chain, pre, post⟩

end Chain

end TextChain
