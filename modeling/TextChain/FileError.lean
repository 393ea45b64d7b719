/-!
# File errors

Why the system refuses an operation on files. Programs show the reason alone, with a capital letter at
its start; reports of this program also give the number that the system has for it.
-/

namespace TextChain

/-- Why the system refuses an operation on files. -/
inductive FileError
  /-- The path leads nowhere. -/
  | notFound
  /-- What the path leads to cannot be used so. -/
  | denied
  /-- A file stands in the path where a directory is needed. -/
  | notDirectory
  | isDirectory
  | tooLong
  | argumentTooLong
  | notText
  /-- Anything else, as the system puts it. -/
  | other (reason : String)
deriving DecidableEq, Repr

namespace FileError

def reason : FileError → String
  | .notFound => "No such file or directory"
  | .denied => "Permission denied"
  | .notDirectory => "Not a directory"
  | .isDirectory => "Is a directory"
  | .tooLong => "File name too long"
  | .argumentTooLong => "Argument list too long"
  | .notText => "stream did not contain valid UTF-8"
  | .other reason => reason

/-- The number that the system has for the reason. -/
def code? : FileError → Option Nat
  | .notFound => some 2
  | .denied => some 13
  | .notDirectory => some 20
  | .isDirectory => some 21
  | .tooLong => some 36
  | .argumentTooLong => some 7
  | .notText => none
  | .other _ => none

def message (e : FileError) : String :=
  match e.code? with
  | some code => s!"{e.reason} (os error {code})"
  | none => e.reason

end FileError

end TextChain
