import TextChain.Options

/-!
# Stages and their output

A stage is one named step that turns a text into output: text, or a renderer that still waits for
options.
-/

namespace TextChain

/-- What goes wrong in a stage, in a renderer, or in looking a stage up. -/
inductive StageError
  | failed (stage message : String)
  | render (message : String)
  | unknown (name : String)
  /-- The stage exists but cannot be made ready. -/
  | unresolved (stage reason : String)
  /-- The system refused an operation. -/
  | io (text : String)
deriving DecidableEq, Repr

namespace StageError

def message : StageError → String
  | .failed stage message => s!"Stage '{stage}' failed: {message}"
  | .render message => s!"Render failed: {message}"
  | .unknown name => s!"Unknown stage: {name}"
  | .unresolved stage reason => s!"Failed to resolve stage '{stage}': {reason}"
  | .io text => s!"I/O error: {text}"

/-- The texts of the errors behind an error, outermost first. -/
def causes : StageError → List String
  | .io text => [text]
  | _ => []

end StageError

/-- Makes text when it is given options. -/
structure Renderer where
  render : Options → Except StageError String

/-- The renderer that makes the same text for all options. -/
def Renderer.const (text : String) : Renderer :=
  ⟨fun _ => .ok text⟩

/-- What a stage or a pipeline makes. -/
inductive Output
  | text (value : String)
  /-- A renderer that waits for options. -/
  | deferred (renderer : Renderer)

namespace Output

def isDeferred : Output → Bool
  | .text _ => false
  | .deferred _ => true

def asText? : Output → Option String
  | .text value => some value
  | .deferred _ => none

/-- The text of the output; a renderer makes it from these options. -/
def force (output : Output) (options : Options) : Except StageError String :=
  match output with
  | .text value => .ok value
  | .deferred renderer => renderer.render options

/-- The output as a renderer. Plain text does not depend on the options. -/
def toRenderer : Output → Renderer
  | .text value => .const value
  | .deferred renderer => renderer

theorem render_toRenderer (output : Output) (options : Options) :
    output.toRenderer.render options = output.force options := by
  cases output <;> rfl

end Output

/-- Where a stage comes from. -/
inductive Origin
  /-- Every stage table has it. -/
  | builtIn
  /-- The configuration names the program it starts. -/
  | configured
  /-- The user of the library supplied it. -/
  | supplied
deriving DecidableEq, Repr

structure Stage where
  name : String
  origin : Origin
  run : String → Options → Except StageError Output

/-- A stage that was started, and on which text. -/
structure Call where
  /-- The stage's own name. -/
  stage : String
  origin : Origin
  input : String
deriving DecidableEq, Repr

/-- The stage that hands its text on. -/
def Stage.passthrough (name : String) (origin : Origin) : Stage where
  name := name
  origin := origin
  run := fun text _ => .ok (.text text)

end TextChain
