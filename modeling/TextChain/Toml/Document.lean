import TextChain.Toml.Syntax

/-!
# TOML documents

Puts the statements of a TOML text together. A table has at most one header and a key at most one
value; a header may come after those of tables below it.
-/

namespace TextChain.Toml

/-- Changes the table at the end of a path. Tables that are missing on the way are made, and of a list
of tables the last one is meant. -/
def within? (change : List (String × Node) → Option (List (String × Node))) :
    List String → List (String × Node) → Option (List (String × Node))
  | [], entries => change entries
  | key :: rest, entries =>
    match Entries.find? key entries with
    | none => do some (Entries.insert key (.implied (← within? change rest [])) entries)
    | some (.dotted below) => do
      some (Entries.insert key (.dotted (← within? change rest below)) entries)
    | some (.implied below) => do
      some (Entries.insert key (.implied (← within? change rest below)) entries)
    | some (.opened below) => do
      some (Entries.insert key (.opened (← within? change rest below)) entries)
    | some (.several (last :: before)) => do
      some (Entries.insert key (.several ((← within? change rest last) :: before)) entries)
    | some _ => none

def openTable? (key : String) (entries : List (String × Node)) :
    Option (List (String × Node)) :=
  match Entries.find? key entries with
  | none => some (Entries.insert key (.opened []) entries)
  | some (.implied below) => some (Entries.insert key (.opened below) entries)
  | some _ => none

/-- Adds a table to a list of tables. -/
def openItem? (key : String) (entries : List (String × Node)) : Option (List (String × Node)) :=
  match Entries.find? key entries with
  | none => some (Entries.insert key (.several [[]]) entries)
  | some (.several tables) => some (Entries.insert key (.several ([] :: tables)) entries)
  | some _ => none

/-- A document that is being put together. -/
structure Draft where
  entries : List (String × Node)
  path : List String

def Draft.add? (d : Draft) : Statement → Option Draft
  | .table path => do
    let key ← path.getLast?
    some ⟨(← within? (openTable? key) path.dropLast d.entries), path⟩
  | .item path => do
    let key ← path.getLast?
    some ⟨(← within? (openItem? key) path.dropLast d.entries), path⟩
  | .pair path value => do
    some ⟨(← within? (assign value path) d.path d.entries), d.path⟩

/-- Reads a TOML text: the entries of its outermost table. -/
def parse? (text : String) : Option (List (String × Setting)) := do
  let draft ← (← statements? text).foldlM Draft.add? ⟨[], []⟩
  some (settings draft.entries)

end TextChain.Toml
