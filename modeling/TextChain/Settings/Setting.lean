import TextChain.Config
import TextChain.Text.Lowercase

/-!
# Settings

A setting is a value of a configuration file or of the environment. Where a configuration wants a
text, a number or a truth value is also good; where it wants a truth value, a number or a word for it
is. `Setting.merge` lays one setting over another: tables are merged entry by entry, under names in
lower case, and anything else takes the place of what was there.
-/

namespace TextChain

inductive Setting
  | nothing
  | bool (value : Bool)
  | integer (value : Int)
  | float (value : Float)
  | text (value : String)
  | list (items : List Setting)
  | table (entries : List (String × Setting))

namespace Setting

instance : Inhabited Setting := ⟨.nothing⟩

/-- The entries of a table; none for another setting. -/
def entries : Setting → List (String × Setting)
  | .table entries => entries
  | _ => []

/-- The items of a list; none for another setting. -/
def items : Setting → List Setting
  | .list items => items
  | _ => []

/-! ### Settings of JSON values -/

/-- The setting of a number. A whole number that does not fit into 64 bits with a sign is a float. -/
def ofNumber : Json.Number → Setting
  | .integer i => if i ≤ 0x7FFFFFFFFFFFFFFF then .integer i else .float (Float.ofInt i)
  | .float x => .float x

mutual

def ofJson : Json → Setting
  | .null => .nothing
  | .bool b => .bool b
  | .number n => ofNumber n
  | .string s => .text s
  | .array vs => .list (ofJsonItems vs)
  | .object ms => .table (ofJsonMembers ms)

def ofJsonItems : List Json → List Setting
  | [] => []
  | v :: rest => ofJson v :: ofJsonItems rest

def ofJsonMembers : List (String × Json) → List (String × Setting)
  | [] => []
  | (key, v) :: rest => (key, ofJson v) :: ofJsonMembers rest

end

/-! ### Merging -/

mutual

/-- What becomes of a place when a setting is laid over it. -/
def merge (base : Setting) : Setting → Setting
  | .table incoming => mergeEntries base incoming
  | other => other

/-- Lays entries over the entries that a place has. A place without a table stays as it is until
there is an entry to lay over it. -/
def mergeEntries (base : Setting) : List (String × Setting) → Setting
  | [] => base
  | (name, value) :: rest =>
    let key := Text.lowercase name
    let old := (Entries.find? key base.entries).getD (.table [])
    mergeEntries (.table (Entries.insert key (merge old value) base.entries)) rest

end

/-! ### Reading -/

/-- Floats are always positional and show no point if they are whole. -/
def floatLayout : Decimal.Layout where
  positional := fun _ => true
  whole := ""
  plus := ""

def floatText (x : Float) : String :=
  if x.isNaN then "NaN"
  else if x.isInf then (if x < 0 then "-inf" else "inf")
  else floatLayout.writeFloat x

/-- A setting where a text is wanted. -/
def text? : Setting → Option String
  | .text s => some s
  | .bool b => some (if b then "true" else "false")
  | .integer i => some (toString i)
  | .float x => some (floatText x)
  | _ => none

/-- The truth value that a word stands for. -/
def truth? (word : String) : Option Bool :=
  match Text.lowercase word with
  | "true" | "on" | "yes" | "1" => some true
  | "false" | "off" | "no" | "0" => some false
  | _ => none

/-- A setting where a truth value is wanted. -/
def bool? : Setting → Option Bool
  | .bool b => some b
  | .integer i => some (i ≠ 0)
  | .float x => some (x != 0)
  | .text s => truth? s
  | _ => none

def texts? : Setting → Option (List String)
  | .list vs => vs.mapM text?
  | _ => none

/-- A setting where a table is wanted. -/
def dict? {α : Type} (value : Setting → Option α) : Setting → Option (Dict α)
  | .table es => do
    let read ← es.mapM fun e => (value e.2).map fun x => (e.1, x)
    some (Dict.ofList read)
  | _ => none

/-- The value of an entry, or `missing` if there is no such entry. -/
def entry {α : Type} (es : List (String × Setting)) (name : String) (value : Setting → Option α)
    (missing : Option α) : Option α :=
  match Entries.find? name es with
  | some v => value v
  | none => missing

/-- Reads a program with its arguments: a table with entries for them, or a list with them in this
order, of which more items do not count. -/
def command? : Setting → Option Command
  | .table es => do
    let program ← entry es "program" text? none
    let args ← entry es "args" texts? (some [])
    some ⟨program, args⟩
  | .list [program] => program.text?.map fun program => ⟨program, []⟩
  | .list (program :: args :: _) => do some ⟨(← program.text?), (← args.texts?)⟩
  | _ => none

/-- Reads a configuration from the entries of a table. -/
def config? (es : List (String × Setting)) : Option Config := do
  let installDir ← entry es "install_dir" text? (some Config.default.installDir)
  let allowFetch ← entry es "allow_fetch" bool? (some Config.default.allowFetch)
  let autoForce ← entry es "auto_force" bool? (some Config.default.autoForce)
  let fallback ← entry es "fallback_to_extension" bool? (some Config.default.fallback)
  let mappings ← entry es "mappings" (dict? text?) (some .empty)
  let defaults ← entry es "defaults" (dict? text?) (some .empty)
  let commands ← entry es "commands" (dict? command?) (some .empty)
  some ⟨installDir, allowFetch, autoForce, fallback, mappings, defaults, commands⟩

end Setting

end TextChain
