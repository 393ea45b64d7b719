import TextChain.Stage
import TextChain.Text.Blank
import TextChain.Text.Utf8

/-!
# Stages that start a program

The program reads the text of the stage, sees the options as JSON in its environment, and its output
is the output of the stage. A program that does not end well fails the stage with what it wrote to
its error output. What programs do is left open: `Programs` tells what comes of starting one.
-/

namespace TextChain

open Text.Utf8 (Bytes)

/-- What comes of starting a program. -/
inductive ProgramRun
  | notStarted (reason : String)
  /-- The program starts, but its output cannot be read to the end. -/
  | lost (reason : String)
  /-- The program ends, with its exit status as the system puts it into words. `unwritten` is why it could
  not be given all of its input, if not because it stopped reading. -/
  | ended (succeeded : Bool) (status : String) (output errors : Bytes) (unwritten : Option String)
deriving DecidableEq, Repr

/-- What programs do. -/
structure Programs where
  /-- Starts a program with arguments, one more variable in its environment, and an input. -/
  start (program : String) (args : List String) (assignment : String × String) (input : String) :
    ProgramRun

/-- The variable in which a program finds the options. -/
def optionsVariable : String := "CATENA_OPTIONS"

/-- The stage that runs a program. -/
def Stage.program (programs : Programs) (name : String) (origin : Origin) (program : String)
    (args : List String) : Stage where
  name := name
  origin := origin
  run := fun text options =>
    match programs.start program args (optionsVariable, options.text) text with
    | .notStarted reason => .error (.failed name s!"cannot start '{program}': {reason}")
    | .lost reason => .error (.io reason)
    -- A bad exit status counts more than an input that was not written.
    | .ended false status _ errors _ =>
      let written := Text.trim (Text.Utf8.decodeLossy errors)
      .error (.failed name s!"'{program}' exited with {status}: {written}")
    | .ended true _ _ _ (some reason) => .error (.io reason)
    | .ended true _ output _ none =>
      match Text.Utf8.decode output with
      | .ok text => .ok (.text text)
      | .error fault => .error (.failed name s!"output is not UTF-8: {fault.message}")

end TextChain
