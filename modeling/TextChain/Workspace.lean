import TextChain.Dict
import TextChain.FileError
import TextChain.Path
import TextChain.Text.Utf8

/-!
# Workspaces

A workspace is a directory with the files below it, and the rules by which paths lead to them. Nothing
is known of what lies outside, except that there are directories above.
-/

namespace TextChain

open Text.Utf8 (Bytes)

/-- Something that tells the bytes of the file at a path. -/
abbrev FileReader := String → Except FileError Bytes

namespace FileReader

def text (files : FileReader) (path : String) : Except FileError String := do
  let contents ← files path
  match Text.Utf8.decode contents with
  | .ok text => .ok text
  | .error _ => .error .notText

def isFile (files : FileReader) (path : String) : Bool :=
  match files path with
  | .ok _ => true
  | .error _ => false

end FileReader

/-- What a name in a directory stands for. -/
inductive Entry
  | file (contents : Bytes)
  | directory
deriving DecidableEq, Repr

/-- The files and directories below a directory, by their paths without points. -/
structure Workspace where
  entries : Dict Entry

namespace Workspace

def empty : Workspace := ⟨.empty⟩

instance : Inhabited Workspace := ⟨empty⟩

/-- A place that a path leads to: this many directories above the workspace, then down along names. -/
structure Place where
  above : Nat
  names : List String
deriving DecidableEq, Repr

def key (names : List String) : String :=
  "/".intercalate names

def at? (w : Workspace) (p : Place) : Option Entry :=
  if p.names = [] then some .directory
  else if p.above = 0 then w.entries.find? (key p.names)
  else none

/-- The greatest number of bytes of a name. -/
def nameLimit : Nat := 255

/-- The greatest number of bytes of a path. -/
def pathLimit : Nat := 4095

/-- Goes on from a place, which must be a directory, along a component. -/
def step (w : Workspace) (p : Place) (component : String) : Except FileError Place :=
  match w.at? p with
  | none => .error .notFound
  | some (.file _) => .error .notDirectory
  | some .directory =>
    if component = ".." then
      match p.names with
      | [] => .ok ⟨p.above + 1, []⟩
      | names => .ok ⟨p.above, names.dropLast⟩
    else if nameLimit < component.utf8ByteSize then .error .tooLong
    else .ok ⟨p.above, p.names ++ [component]⟩

/-- Whether a path asks for a directory by how it ends. -/
def asksForDirectory (path : String) : Bool :=
  path.endsWith "/" || path.endsWith "/."

/-- The place that a path leads to. An absolute path starts above the workspace. -/
def place (w : Workspace) (path : String) : Except FileError Place :=
  if path.toList.contains '\x00' then .error (.other "file name contained an unexpected NUL byte")
  else if path = "" then .error .notFound
  else if pathLimit < path.utf8ByteSize then .error .tooLong
  else
    let start : Place := if path.startsWith "/" then ⟨1, []⟩ else ⟨0, []⟩
    (Path.components path).foldlM w.step start

def readBytes (w : Workspace) (path : String) : Except FileError Bytes := do
  let p ← w.place path
  match w.at? p with
  | none => .error .notFound
  | some .directory => .error .isDirectory
  | some (.file contents) =>
    if asksForDirectory path then .error .notDirectory else .ok contents

def reader (w : Workspace) : FileReader :=
  w.readBytes

/-- Whether the last component of a path is a single point. -/
def endsInPoint (path : String) : Bool :=
  (path.toList.splitOn '/').filter (· ≠ []) |>.getLast? |>.any (· = ['.'])

/-- Writes a file, which is made if there is none. A path with a slash at its end leads to no file,
whatever is there. -/
def write (w : Workspace) (path : String) (contents : Bytes) : Except FileError Workspace := do
  let p ← w.place path
  let written : Workspace := ⟨w.entries.insert (key p.names) (.file contents)⟩
  match w.at? p with
  | some .directory => .error .isDirectory
  | some (.file _) =>
    if endsInPoint path then .error .notDirectory
    else if path.endsWith "/" then .error .isDirectory
    else .ok written
  | none =>
    if endsInPoint path || p.above ≠ 0 || w.at? ⟨0, p.names.dropLast⟩ ≠ some .directory then
      .error .notFound
    else if path.endsWith "/" then .error .isDirectory
    else .ok written

/-- Enters all directories on the way to some names. -/
def withDirectories (w : Workspace) (names : List String) : Workspace :=
  ⟨(List.range names.length).foldl (fun entries i =>
    let k := key (names.take (i + 1))
    if entries.contains k then entries else entries.insert k .directory) w.entries⟩

/-- Enters something with all directories on the way to it. -/
def enter (w : Workspace) (path : String) (entry : Entry) : Workspace :=
  let names := Path.components path
  ⟨(w.withDirectories names.dropLast).entries.insert (key names) entry⟩

/-- The workspace with these entries and the directories on the way to them. -/
def ofList (entries : List (String × Entry)) : Workspace :=
  entries.foldl (fun w entry => w.enter entry.1 entry.2) empty

def files (w : Workspace) : List (String × Bytes) :=
  w.entries.entries.filterMap fun (path, entry) =>
    match entry with
    | .file contents => some (path, contents)
    | .directory => none

end Workspace

end TextChain
