import TextChain.Settings.Setting

/-!
# TOML tables

Tables that are being put together remember how each table in them came about, because that decides
what may be added to it.
-/

namespace TextChain.Toml

/-- A place in a table that is being put together. -/
inductive Node
  | leaf (value : Setting)
  | dotted (entries : List (String × Node))
  /-- A table that headers of tables below it made. -/
  | implied (entries : List (String × Node))
  | opened (entries : List (String × Node))
  /-- A list of tables that have headers, the last one first. -/
  | several (tables : List (List (String × Node)))

/-- Enters a setting into a table under a dotted key, whose parts are free or belong to tables that
dotted keys made. -/
def assign (value : Setting) : List String → List (String × Node) → Option (List (String × Node))
  | [], _ => none
  | [key], entries =>
    match Entries.find? key entries with
    | none => some (Entries.insert key (.leaf value) entries)
    | some _ => none
  | key :: next :: rest, entries =>
    match Entries.find? key entries with
    | none => do
      let below ← assign value (next :: rest) []
      some (Entries.insert key (.dotted below) entries)
    | some (.dotted below) => do
      let below ← assign value (next :: rest) below
      some (Entries.insert key (.dotted below) entries)
    | some (.implied below) =>
      if rest = [] then none
      else do
        let below ← assign value (next :: rest) below
        some (Entries.insert key (.implied below) entries)
    | some _ => none

mutual

def Node.setting : Node → Setting
  | .leaf value => value
  | .dotted entries | .implied entries | .opened entries => .table (settings entries)
  | .several tables => .list (listed tables).reverse

def settings : List (String × Node) → List (String × Setting)
  | [] => []
  | (key, node) :: rest => (key, node.setting) :: settings rest

def listed : List (List (String × Node)) → List Setting
  | [] => []
  | entries :: rest => .table (settings entries) :: listed rest

end

def inlineTable? (pairs : List (List String × Setting)) : Option Setting := do
  let entries ← pairs.foldlM (fun entries (path, value) => assign value path entries) []
  some (.table (settings entries))

end TextChain.Toml
