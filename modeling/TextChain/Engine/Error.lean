import TextChain.Pipeline

/-!
# Errors of the engine

Every error of the engine has a cause of its own layer; `EngineError.message` is what is shown for it.
-/

namespace TextChain

/-- Why an operation of the engine fails. -/
inductive EngineError
  | config (reason : String)
  | chain (fault : ChainError)
  /-- The resolver refused a stage of a chain. -/
  | unresolved (stage : String) (reason : StageError)
  | run (reason : RunError)
  | stage (reason : StageError)
  /-- The system refused an operation. -/
  | io (text : String)
  | unknownExtension (ext : String)
  | missingExtension (path : String)
  /-- A line belongs to no block. -/
  | malformedMarker (line : Nat) (content : String)
  /-- Documents are nested in documents deeper than the limit, which only makes compiling a total function. -/
  | tooDeep
deriving DecidableEq, Repr

namespace EngineError

/-- The error of a chain that could not be resolved. -/
def ofLink : LinkError → EngineError
  | .chain fault => .chain fault
  | .resolution name reason => .unresolved name reason

def message : EngineError → String
  | .config reason => s!"Configuration error: {reason}"
  | .chain fault => s!"Invalid chain: {fault.message}"
  | .unresolved name reason =>
    let link := LinkError.resolution name reason
    s!"Compiler error: {link.message}"
  | .run reason => s!"Runtime error: {reason.message}"
  | .stage reason => s!"Core error: {reason.message}"
  | .io text => s!"I/O error: {text}"
  | .unknownExtension ext => s!"No chain registered or known for extension '{ext}'"
  | .missingExtension path => s!"Cannot derive an extension from path: {path}"
  | .malformedMarker line content => s!"Malformed wildcard marker on line {line}: '{content}'"
  | .tooDeep => "Wildcard documents are nested too deeply"

/-- The texts of the errors behind an error, outermost first. -/
def causes : EngineError → List String
  | .chain fault => [fault.message]
  | .unresolved name reason =>
    let link := LinkError.resolution name reason
    link.message :: link.causes
  | .run reason => reason.message :: reason.causes
  | .stage reason => reason.message :: reason.causes
  | .io text => [text]
  | _ => []

/-- Whether the error shows before any stage is asked for. -/
def isConfiguration : EngineError → Bool
  | .config _ => true
  | .chain _ => true
  | _ => false

end EngineError

end TextChain
