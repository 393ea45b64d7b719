import TextChain.Document
import TextChain.Engine.Error
import TextChain.Target

/-!
# The registry

The registry maps extensions to chains or to the wildcard and keeps one pipeline for each chain text
that was needed. Extensions that share a chain share its pipeline. A mapping is changed only when its
pipeline is ready; a pipeline goes when the last extension that refers to its chain is removed.

The operations are computations on a session, which holds the registry together with a record of the
lookups and of the stage calls made so far. An operation that fails keeps what it did before.
-/

namespace TextChain

/-- A pipeline in the cache. The serial number tells apart pipelines that were made at different
times from the same chain. -/
structure CachedPipeline where
  /-- How many pipelines were made before. -/
  serial : Nat
  pipeline : Pipeline

structure Registry where
  mapping : Dict Target
  /-- The pipelines by their chain texts. -/
  pipelines : Dict CachedPipeline
  /-- How many pipelines were made so far. -/
  made : Nat

namespace Registry

/-- The registry in which only the built-in extensions are mapped; no pipeline is made yet. -/
def initial : Registry where
  mapping := builtInChains.foldl (fun m entry => m.insert entry.1 (.chain entry.2)) .empty
  pipelines := .empty
  made := 0

instance : Inhabited Registry := ⟨initial⟩

/-- What an extension is mapped to. -/
def target? (r : Registry) (ext : String) : Option Target :=
  r.mapping.find? (Text.trim ext)

def has (r : Registry) (ext : String) : Bool :=
  r.mapping.contains (Text.trim ext)

/-- The mapped extensions in ascending order. -/
def extensions (r : Registry) : List String :=
  r.mapping.keys

/-- The chain texts that have a pipeline, in ascending order. -/
def cachedChains (r : Registry) : List String :=
  r.pipelines.keys

/-- Whether some extension is mapped to a chain text. -/
def refersTo (r : Registry) (spec : String) : Bool :=
  r.mapping.values.any fun target => target.chain? = some spec

/-- Drops the pipeline of a chain text to which no extension is mapped. -/
def release (r : Registry) (spec : String) : Registry :=
  if r.refersTo spec then r else { r with pipelines := r.pipelines.erase spec }

/-- Drops the mapping of an extension, and the pipeline that nothing refers to any more. -/
def unmap (r : Registry) (ext : String) : Registry :=
  let without := { r with mapping := r.mapping.erase ext }
  match r.mapping.find? ext with
  | some (.chain spec) => without.release spec
  | _ => without

/-- Maps a built-in extension to its own chain again. -/
def restore (r : Registry) (ext : String) : Registry :=
  match builtInChain? ext with
  | some spec => { r with mapping := r.mapping.insert ext (.chain spec) }
  | none => r

/-- Removes the mapping of an extension. A built-in extension goes back to its built-in chain. -/
def remove (r : Registry) (ext : String) : Registry :=
  (r.unmap (Text.trim ext)).restore (Text.trim ext)

end Registry

/-- What the operations of a registry depend on and never change. -/
structure Setup where
  /-- Answers which stage a name stands for. -/
  resolver : Resolver
  settings : ResolverSettings
  /-- The chain of an extension that is not mapped. -/
  conventions : String → Option String
  /-- What happens to renderers between stages. -/
  mode : ForceMode
  /-- How deep documents may be nested in blocks of documents. A limit makes compiling a total function and
  has no other purpose. -/
  nesting : Nat

/-- The registry with what happened so far. -/
structure Session where
  registry : Registry
  /-- The names that the resolver was asked for, in order. -/
  lookups : List Lookup
  /-- The stages that were started, in order. -/
  calls : List Call

/-- The session in which nothing happened yet. -/
def Session.initial : Session := ⟨.initial, [], []⟩

instance : Inhabited Session := ⟨.initial⟩

/-- An operation: it may fail, and it leaves a session behind in either case. -/
abbrev Act (α : Type) := ExceptT EngineError (StateM Session) α

namespace Act

/-- Does a computation that asks the resolver. -/
def linking {α : Type} (link : Chain.Linking α) : Act α := do
  let session ← get
  let (result, lookups) := link.run.run session.lookups
  set { session with lookups := lookups }
  match result with
  | .ok a => pure a
  | .error e => throw (.ofLink e)

def running {α : Type} (run : Traced RunError α) : Act α := do
  modify fun session => { session with calls := session.calls ++ run.calls }
  match run.result with
  | .ok a => pure a
  | .error e => throw (.run e)

/-- Goes on with a text that was rendered, or fails as the renderer did. -/
def rendering {α : Type} : Except StageError α → Act α
  | .ok a => pure a
  | .error e => throw (.stage e)

def modifyRegistry (f : Registry → Registry) : Act Unit :=
  modify fun session => { session with registry := f session.registry }

end Act

namespace Registry

/-- The pipeline of a chain text; made and kept if there is none yet. -/
def pipelineFor (setup : Setup) (spec : String) : Act CachedPipeline := do
  let session ← get
  match session.registry.pipelines.find? spec with
  | some cached => pure cached
  | none =>
    let linked ← Act.linking (Chain.link setup.resolver setup.settings spec)
    let cached : CachedPipeline := ⟨session.registry.made, linked, setup.mode⟩
    Act.modifyRegistry fun r =>
      { r with pipelines := r.pipelines.insert spec cached, made := r.made + 1 }
    pure cached

/-- Maps an extension to a target whose pipeline, if it has one, can be made. -/
def establish (setup : Setup) (ext : String) (target : Target) : Act (Option CachedPipeline) := do
  let cached ← match target with
    | .wildcard => pure none
    | .chain spec => do
      let cached ← pipelineFor setup spec
      pure (some cached)
  Act.modifyRegistry fun r => { r with mapping := r.mapping.insert ext target }
  pure cached

def conventionalTarget (setup : Setup) (ext : String) : Except EngineError Target :=
  match setup.conventions ext with
  | some spec => .ok (.parse spec)
  | none => .error (.unknownExtension ext)

/-- Maps an extension to a mapping value, or to its conventional target if no value is given. Gives
the pipeline, if the target is a chain. -/
def add (setup : Setup) (ext : String) (value : Option String) : Act (Option CachedPipeline) := do
  let ext := Text.trim ext
  if ext = "" then throw (.config "extension must not be empty")
  else
    let target ← match value with
      | some value => pure (Target.parse value)
      | none => MonadExcept.ofExcept (conventionalTarget setup ext)
    establish setup ext target

/-- The pipeline of a chain text, of which the blanks at the ends do not count. -/
def get (setup : Setup) (spec : String) : Act CachedPipeline :=
  pipelineFor setup (Text.trim spec)

/-- The target of an extension; one that is not mapped is mapped to its conventional target. -/
def ensure (setup : Setup) (ext : String) : Act Target := do
  let session ← MonadState.get
  match session.registry.mapping.find? ext with
  | some target => pure target
  | none =>
    let target ← MonadExcept.ofExcept (conventionalTarget setup ext)
    let _ ← establish setup ext target
    pure target

/-- Runs the pipeline of a chain text on a text. -/
def execute (setup : Setup) (spec text : String) (options : Options) : Act Output := do
  let cached ← get setup spec
  Act.running (cached.pipeline.execute text options)

/-- Makes the text of a block with what compiles a text of some extension. -/
def runBlock (compile : String → String → Act Output) (options : Options) (ext text : String) :
    Act String := do
  let output ← compile ext text
  Act.rendering (output.force options)

/-- Refuses a line that belongs to no block. -/
def rejectLine (number : Nat) (content : String) : Act String :=
  throw (.malformedMarker number content)

/-- Compiles a text as a document whose blocks are made by `compile`. -/
def compileDocument (compile : String → String → Act Output) (options : Options) (text : String) :
    Act String :=
  if text = "" then pure ""
  else (Document.ofText text).compile (runBlock compile options) rejectLine

/-- The empty text is no exception among the documents. -/
theorem compileDocument_eq (compile : String → String → Act Output) (options : Options) (text : String) :
    compileDocument compile options text =
      (Document.ofText text).compile (runBlock compile options) rejectLine := by
  unfold compileDocument
  split
  next h => rw [h, Document.compile_ofText_empty]
  next => rfl

/-- Compiles a text with what its extension is mapped to; documents may be nested in blocks of
documents at most `depth` deep, so this ends. -/
def compileWithin (setup : Setup) (options : Options) : Nat → String → String → Act Output
  | depth, ext, text => do
    match ← ensure setup (Text.trim ext) with
    | .chain spec => execute setup spec text options
    | .wildcard =>
      match depth with
      | 0 => throw .tooDeep
      | depth + 1 => do
        let text ← compileDocument (compileWithin setup options depth) options text
        pure (.text text)

def compile (setup : Setup) (ext text : String) (options : Options) : Act Output :=
  compileWithin setup options setup.nesting ext text

end Registry

end TextChain
