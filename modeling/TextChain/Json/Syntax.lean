import TextChain.Json.Token

/-!
# JSON syntax trees

The tree of a JSON text before its numbers and strings are interpreted: members keep their order and
their repeated keys. The reader walks over the tokens once, with the open arrays and objects on a
stack, so nesting has no limit here.
-/

namespace TextChain.Json

inductive Syntax
  | null
  | bool (value : Bool)
  | number (text : Numeral)
  | string (pieces : List Piece)
  | array (items : List Syntax)
  | object (members : List (List Piece × Syntax))

namespace Syntax

/-- An open array or object around the current place. What was read of it stands in reverse order. -/
inductive Frame
  | array (items : List Syntax)
  | object (members : List (List Piece × Syntax)) (name : List Piece)

/-- Where in a text the reader is. -/
inductive State
  /-- A value is due; an array that was just opened may also close. -/
  | value (frames : List Frame) (opened : Bool)
  /-- A key is due; an object that was just opened may also close. -/
  | key (members : List (List Piece × Syntax)) (frames : List Frame) (opened : Bool)
  /-- The colon after a key is due. -/
  | colon (name : List Piece) (members : List (List Piece × Syntax)) (frames : List Frame)
  | done (value : Syntax) (frames : List Frame)

/-- What a token does to the state of the reader. -/
def State.step : State → Token → Option State
  | .value frames _, .null => some (.done .null frames)
  | .value frames _, .bool b => some (.done (.bool b) frames)
  | .value frames _, .number n => some (.done (.number n) frames)
  | .value frames _, .string s => some (.done (.string s) frames)
  | .value frames _, .openArray => some (.value (.array [] :: frames) true)
  | .value frames _, .openObject => some (.key [] frames true)
  | .value (.array [] :: frames) true, .closeArray => some (.done (.array []) frames)
  | .key members frames _, .string name => some (.colon name members frames)
  | .key [] frames true, .closeObject => some (.done (.object []) frames)
  | .colon name members frames, .colon => some (.value (.object members name :: frames) false)
  | .done v (.array items :: frames), .comma => some (.value (.array (v :: items) :: frames) false)
  | .done v (.array items :: frames), .closeArray =>
    some (.done (.array (v :: items).reverse) frames)
  | .done v (.object members name :: frames), .comma =>
    some (.key ((name, v) :: members) frames false)
  | .done v (.object members name :: frames), .closeObject =>
    some (.done (.object ((name, v) :: members).reverse) frames)
  | _, _ => none

def parse? (text : String) : Option Syntax := do
  let tokens ← tokens? text.toList
  match ← tokens.foldlM State.step (.value [] false) with
  | .done value [] => some value
  | _ => none

end Syntax

end TextChain.Json
