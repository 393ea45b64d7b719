/-!
# Paths

Paths are texts with slashes between their components. A single point as a component means the same
directory and does not count.
-/

namespace TextChain.Path

/-- The components of a path that lead somewhere. -/
def components (path : String) : List String :=
  ((path.toList.splitOn '/').map String.ofList).filter fun c => c ≠ "" && c ≠ "."

/-- The last component, unless it leads upwards. -/
def fileName? (path : String) : Option String :=
  match (components path).getLast? with
  | some ".." => none
  | last => last

/-- The part of a file name after its last point. A name whose only point is its first character has
no extension. -/
def extensionOf? (name : String) : Option String :=
  match (name.toList.splitOn '.').reverse with
  | last :: before :: rest =>
    if before = [] ∧ rest = [] then none else some (String.ofList last)
  | _ => none

/-- The extension of the file that a path leads to. -/
def extension? (path : String) : Option String :=
  (fileName? path).bind extensionOf?

/-- The path with something added to its last component; none if that leads upwards. -/
def withSuffix? (path suffix : String) : Option String :=
  (fileName? path).map fun _ =>
    (if path.startsWith "/" then "/" else "") ++ "/".intercalate (components path) ++ suffix

end TextChain.Path
