import TextChain.Resolver
import TextChain.Traced

/-!
# Pipelines

A pipeline runs the stages of a chain one after the other on a text. Between two stages only text is
handed on: a renderer is refused in strict mode and rendered in auto mode. A chain with a boundary
then forces what it has to text, hands that to the last stage, and always ends with a renderer.
-/

namespace TextChain

/-- What happens to a renderer that one stage would hand to the next. -/
inductive ForceMode
  | strict
  /-- It is rendered with the current options. -/
  | auto
deriving DecidableEq, Repr, Inhabited

/-- Why a run of stages fails. -/
inductive RunError
  | stage (name : String) (reason : StageError)
  /-- This stage made a renderer although another stage follows. -/
  | deferredBetween (name : String)
  | render (reason : StageError)
deriving DecidableEq, Repr

namespace RunError

def message : RunError → String
  | .stage name reason => s!"Stage '{name}' failed: {reason.message}"
  | .deferredBetween name =>
    s!"Stage '{name}' returned a deferred renderer but is followed by another stage"
  | .render reason => s!"Render error: {reason.message}"

/-- The texts of the errors behind an error, outermost first. -/
def causes : RunError → List String
  | .stage _ reason => reason.message :: reason.causes
  | .deferredBetween _ => []
  | .render reason => reason.message :: reason.causes

end RunError

/-- Starts a stage on a text. -/
def Stage.call (stage : Stage) (text : String) (options : Options) : Traced RunError Output where
  calls := [⟨stage.name, stage.origin, text⟩]
  result := (stage.run text options).mapError (.stage stage.name)

namespace ForceMode

/-- The text that a stage hands to the next one. -/
def handOver (mode : ForceMode) (options : Options) (previous : Stage) :
    Output → Except RunError String
  | .text text => .ok text
  | .deferred renderer =>
    match mode with
    | .strict => .error (.deferredBetween previous.name)
    | .auto => (renderer.render options).mapError .render

/-- Goes on with the stages after one that made some output. -/
def runAfter (mode : ForceMode) (options : Options) (previous : Stage) (output : Output) :
    List Stage → Traced RunError Output
  | [] => pure output
  | stage :: rest => do
    let text ← Traced.ofExcept (mode.handOver options previous output)
    let output ← stage.call text options
    mode.runAfter options stage output rest

/-- Runs stages one after the other. Without stages the text is the output. -/
def run (mode : ForceMode) (options : Options) (text : String) :
    List Stage → Traced RunError Output
  | [] => pure (.text text)
  | stage :: rest => do
    let output ← stage.call text options
    mode.runAfter options stage output rest

end ForceMode

/-- A chain of stages that is ready to run. -/
structure Pipeline where
  linked : LinkedChain
  /-- What happens to renderers between stages. -/
  mode : ForceMode

namespace Pipeline

/-- The canonical text of the chain. -/
def spec (p : Pipeline) : String :=
  p.linked.chain.text

/-- Runs the stage after the boundary, if there is one, on the forced text. -/
def runPost (options : Options) (text : String) : Option Stage → Traced RunError Output
  | none => pure (.text text)
  | some stage => stage.call text options

/-- Runs the chain on a text. -/
def execute (p : Pipeline) (text : String) (options : Options) : Traced RunError Output := do
  let output ← p.mode.run options text p.linked.pre
  if p.linked.chain.forced then
    let text ← Traced.ofExcept ((output.force options).mapError .render)
    let output ← runPost options text p.linked.post
    pure (.deferred output.toRenderer)
  else pure output

end Pipeline

end TextChain
