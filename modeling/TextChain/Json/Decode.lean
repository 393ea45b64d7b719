import TextChain.Json.Reader

/-!
# Decoding JSON into records

What a record is read from: an object with its fields by name, or an array with its fields in order.
In an object a field may occur once, and fields that the record does not have are skipped without a
look at their values; an array may leave fields out at its end. A map takes the last value of a key.
-/

namespace TextChain.Json.Decode

/-- Reads a value of some type from a syntax tree. -/
abbrev Decoder (α : Type) := Syntax → Option α

/-- Reads a truth value. -/
def bool : Decoder Bool
  | .bool b => some b
  | _ => none

def text : Decoder String
  | .string pieces => text? pieces
  | _ => none

def list {α : Type} (item : Decoder α) : Decoder (List α)
  | .array items => items.mapM item
  | _ => none

def dict {α : Type} (value : Decoder α) : Decoder (Dict α)
  | .object members => do
    let entries ← members.mapM fun (key, v) => do some ((← text? key), (← value v))
    some (Dict.ofList entries)
  | _ => none

/-- The fields of a record with these field names, as far as they are given. -/
def fields (names : List String) : Decoder (List (String × Syntax))
  | .object members => do
    let named ← members.mapM fun (key, v) => (text? key).map fun k => (k, v)
    let known := named.filter fun f => names.contains f.1
    if (known.map Prod.fst).eraseDups.length = known.length then some known else none
  | .array items => if items.length ≤ names.length then some (names.zip items) else none
  | _ => none

/-- The value of a field, or `missing` if the field is not given. -/
def field {α : Type} (given : List (String × Syntax)) (name : String) (value : Decoder α)
    (missing : Option α) : Option α :=
  match Entries.find? name given with
  | some v => value v
  | none => missing

end TextChain.Json.Decode
