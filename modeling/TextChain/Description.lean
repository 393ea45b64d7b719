import TextChain.Pipeline
import TextChain.Stage.Table
import TextChain.Text.Quoted

/-!
# Descriptions

One-line descriptions of values for people who look for the cause of a problem: the name of the type
and its fields. What runs when it is called is shown by its name only.
-/

namespace TextChain

open Text

namespace Description

/-- A value with named fields. -/
def record (type : String) (fields : List (String × String)) : String :=
  type ++ " \x7b " ++ ", ".intercalate (fields.map fun f => f.1 ++ ": " ++ f.2) ++ " \x7d"

def optional : Option String → String
  | none => "None"
  | some text => "Some(" ++ text ++ ")"

def bool (b : Bool) : String :=
  if b then "true" else "false"

end Description

open Description

def Output.describe : Output → String
  | .text value => "Text(" ++ quoted value ++ ")"
  | .deferred _ => "Deferred(Renderer(..))"

/-- Describes a stage whose type has no other field than its name. -/
def Stage.describeNamed (type name : String) : String :=
  record type [("name", quoted name)]

def Stage.describeCommand (name program : String) (args : List String) : String :=
  record "CommandStage"
    [("name", quoted name), ("program", quoted program), ("args", quotedList args)]

/-- Describes what happens to renderers between stages. -/
def ForceMode.describe : ForceMode → String
  | .strict => "Strict"
  | .auto => "Auto"

/-- Describes what runs the stages of a chain. -/
def ForceMode.describeRunner (mode : ForceMode) : String :=
  record "StageRunner" [("mode", mode.describe)]

def ResolverSettings.describe (s : ResolverSettings) : String :=
  record "ResolverConfig"
    [("install_dir", quoted s.installDir), ("allow_fetch", bool s.allowFetch)]

def LinkedChain.describe (c : LinkedChain) : String :=
  record "CompiledChain"
    [("spec", quoted c.chain.text), ("pre", quotedList (c.pre.map Stage.name)),
     ("post", optional (c.post.map fun stage => quoted stage.name))]

def Pipeline.describe (p : Pipeline) : String :=
  record "Pipeline" [("chain", p.linked.describe), ("runner", p.mode.describeRunner)]

end TextChain
