import TextChain.Json.Reader
import TextChain.Options
import TextChain.Text.Blank

/-!
# Pairs on the command line

Pairs of a key and a value with an equals sign between them, and the options that they make.
-/

namespace TextChain.Settings

inductive PairError
  | noValue (source : String)
  /-- There are only blanks in front of the equals sign. -/
  | noKey (source : String)
deriving DecidableEq, Repr

def PairError.message : PairError → String
  | .noValue source => s!"expected KEY=VALUE, got '{source}'"
  | .noKey source => s!"missing key in '{source}'"

/-- Reads a pair. The first equals sign ends the key, and blanks around the key do not count. -/
def parsePair (source : String) : Except PairError (String × String) :=
  let key := source.toList.takeWhile (· ≠ '=')
  match source.toList.dropWhile (· ≠ '=') with
  | [] => .error (.noValue source)
  | _ :: value =>
    match Text.trimChars key with
    | [] => .error (.noKey source)
    | name => .ok (String.ofList name, String.ofList value)

/-- The value of an option: what a JSON text means, or else the text itself. -/
def optionValue (source : String) : Json :=
  (Json.parse? source).getD (.string source)

/-- The options of pairs; the last value of a key stays. -/
def optionsOf (pairs : List (String × String)) : Options :=
  pairs.foldl (fun o (key, source) => o.insert key (optionValue source)) .empty

end TextChain.Settings
