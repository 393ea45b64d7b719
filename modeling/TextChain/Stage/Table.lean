import TextChain.Resolver
import TextChain.Stage.Template

/-!
# Stage tables

A table knows stages by name. A stage is entered under its own name or under another one, and
replaces what stood there. A table is a resolver whose answers depend on the name alone: a name
without a stage is unknown, or cannot be fetched where fetching is allowed.
-/

namespace TextChain

/-- Stages by the names under which they are found. -/
structure StageTable where
  stages : Dict Stage

namespace StageTable

def empty : StageTable := ⟨.empty⟩

instance : Inhabited StageTable := ⟨empty⟩

def find? (table : StageTable) (name : String) : Option Stage :=
  table.stages.find? name

/-- Enters a stage under a name. -/
def insertAs (table : StageTable) (name : String) (stage : Stage) : StageTable :=
  ⟨table.stages.insert name stage⟩

/-- Enters a stage under its own name. -/
def insert (table : StageTable) (stage : Stage) : StageTable :=
  table.insertAs stage.name stage

def contains (table : StageTable) (name : String) : Bool :=
  table.stages.contains name

def names (table : StageTable) : List String :=
  table.stages.keys

/-- The names of the built-in stages that hand their text on. -/
def passthroughNames : List String :=
  ["text", "html", "css", "js"]

def builtIn : StageTable :=
  (passthroughNames.foldl (fun table name => table.insert (.passthrough name .builtIn)) empty).insert
    (.template "template" .builtIn)

/-- The stage of a name, or why there is none. -/
def lookup (table : StageTable) (l : Lookup) : Except StageError Stage :=
  match table.find? l.name with
  | some stage => .ok stage
  | none =>
    if l.settings.allowFetch then
      .error (.unresolved l.name
        s!"not registered and cannot be fetched into {l.settings.installDir}")
    else .error (.unknown l.name)

def toResolver (table : StageTable) : Resolver :=
  ⟨fun _ l => table.lookup l⟩

theorem find?_insertAs (table : StageTable) (name : String) (stage : Stage) (n : String) :
    (table.insertAs name stage).find? n = if name = n then some stage else table.find? n :=
  Dict.find?_insert table.stages name stage n

end StageTable

end TextChain
