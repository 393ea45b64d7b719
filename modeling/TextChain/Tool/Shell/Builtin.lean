import TextChain.Tool.Shell.Builtin.Control
import TextChain.Tool.Shell.Builtin.Output
import TextChain.Tool.Shell.Builtin.Variables

/-!
# The commands of the shell

The commands that are part of the shell, by their names.
-/

namespace TextChain.Tool.Shell

def builtin (name : String) : Builtin :=
  match name with
  | "." => sourceCommand
  | "break" => loopCommand .breaking
  | "continue" => loopCommand .continuing
  | "eval" => evalCommand
  | "exit" => exitCommand
  | "export" => markCommand "export" (·.exported) fun v => { v with exported := true }
  | "readonly" => markCommand "readonly" (·.readOnly) fun v => { v with readOnly := true }
  | "return" => returnCommand
  | "set" => setCommand
  | "shift" => shiftCommand
  | "trap" => trapCommand
  | "unset" => unsetCommand
  | "[" => testCommand true
  | "bg" | "fg" => jobCommand
  | "cd" | "chdir" => cdCommand
  | "command" => commandCommand
  | "echo" => echoCommand
  | "false" => nothingCommand 1
  | "getopts" => getoptsCommand
  | "kill" => killCommand
  | "local" => localCommand
  | "printf" => printfCommand
  | "pwd" => pwdCommand
  | "read" => readCommand
  | "test" => testCommand false
  | "type" => typeCommand
  | "ulimit" => ulimitCommand
  | "umask" => umaskCommand
  | "wait" => waitCommand
  | _ => nothingCommand 0

def takesAssignments (name : Raw) : Bool :=
  ["export", "readonly", "local"].contains (String.ofList name)

end TextChain.Tool.Shell
