import TextChain.Json.Value

/-!
# Options

The directives that every stage of a run sees. Options are values: a stage that adds directives for
its own use works on new options and leaves those of the other stages alone.
-/

namespace TextChain

/-- Directives by name, in ascending order of the names. -/
structure Options where
  entries : Dict Json

namespace Options

def empty : Options := ⟨.empty⟩

instance : EmptyCollection Options := ⟨empty⟩

instance : Inhabited Options := ⟨empty⟩

instance : BEq Options := ⟨fun a b => a.entries.entries == b.entries.entries⟩

def insert (o : Options) (key : String) (value : Json) : Options :=
  ⟨o.entries.insert key value⟩

def get? (o : Options) (key : String) : Option Json :=
  o.entries.find? key

def getString? (o : Options) (key : String) : Option String :=
  (o.get? key).bind Json.asString?

/-- The value of a directive that is a truth value. -/
def getBool? (o : Options) (key : String) : Option Bool :=
  (o.get? key).bind Json.asBool?

def contains (o : Options) (key : String) : Bool :=
  o.entries.contains key

/-- The names of the directives in ascending order. -/
def keys (o : Options) : List String :=
  o.entries.keys

def size (o : Options) : Nat :=
  o.entries.size

def toJson (o : Options) : Json :=
  .ofDict o.entries

def text (o : Options) : String :=
  o.toJson.compact

/-- The options that a JSON object describes; none for another value. -/
def ofJson? : Json → Option Options
  | .object members => some ⟨Dict.ofList members⟩
  | _ => none

/-- The value at a path of keys: the first names a directive, the others lead into objects. -/
def path? (o : Options) : List String → Option Json
  | [] => none
  | key :: keys => (o.get? key).bind fun v => v.path? keys

theorem get?_insert (o : Options) (key : String) (value : Json) (k : String) :
    (o.insert key value).get? k = if key = k then some value else o.get? k :=
  Dict.find?_insert o.entries key value k

end Options

end TextChain
