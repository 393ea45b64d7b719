import TextChain.Dict
import TextChain.FileError
import TextChain.Tool.Raw
import TextChain.Workspace

/-!
# The tree of files

What tools see of the files of a system: its usual directories, the programs that can be started, and
the files below the directory in which a tool runs. Paths are walked from the root; the directories of
programs at the root are links to those below `/usr`.
-/

namespace TextChain.Tool

inductive Item
  | directory
  | program
  | file (contents : Raw)
  /-- A file that takes anything and has nothing. -/
  | sink
deriving DecidableEq, Repr

structure Tree where
  /-- The items by their paths from the root. -/
  items : Dict Item
  /-- The names on the way to the directory in which the tool runs. -/
  here : List String

namespace Tree

def programNames : List String :=
  ["cat", "false", "head", "printf", "sed", "sh", "sort", "tr", "true"]

def programDirectories : List String :=
  ["usr/local/sbin", "usr/local/bin", "usr/sbin", "usr/bin"]

def systemDirectories : List String :=
  ["boot", "dev", "etc", "home", "media", "mnt", "opt", "proc", "root", "run", "srv", "sys", "tmp",
   "usr", "usr/bin", "usr/include", "usr/lib", "usr/local", "usr/local/bin", "usr/local/lib",
   "usr/local/sbin", "usr/sbin", "usr/share", "usr/src", "var", "var/cache", "var/lib", "var/log",
   "var/tmp"]

/-- The files of a system that are no programs. -/
def systemFiles : List String :=
  ["etc/group", "etc/hostname", "etc/hosts", "etc/os-release", "etc/passwd", "etc/profile",
   "etc/resolv.conf", "etc/shadow"]

/-- Links at the root, and where they lead. -/
def links : List (String × List String) :=
  [("bin", ["usr", "bin"]), ("lib", ["usr", "lib"]), ("sbin", ["usr", "sbin"])]

def systemItems : Dict Item :=
  let add (item : Item) (paths : List String) (items : Dict Item) : Dict Item :=
    paths.foldl (fun items path => items.insert path item) items
  add .directory systemDirectories <| add (.file []) systemFiles <|
    add .program (programNames.map ("usr/bin/" ++ ·)) <| add .sink ["dev/null"] .empty

/-- The directory in which tools run, as names from the root. -/
def workingDirectory : List String := ["tmp", "work"]

def key (names : List String) : String :=
  "/".intercalate names

/-- A system whose working directory is empty. -/
def initial : Tree :=
  ⟨systemItems.insert (key workingDirectory) .directory, workingDirectory⟩

/-- A system whose working directory is a workspace. -/
def ofWorkspace (w : Workspace) : Tree :=
  let items := w.entries.entries.foldl (fun items (path, entry) =>
    let item : Item := match entry with
      | .file contents => .file (rawOfBytes contents)
      | .directory => .directory
    items.insert (key (workingDirectory ++ [path])) item) initial.items
  ⟨items, workingDirectory⟩

def item? (t : Tree) (names : List String) : Option Item :=
  if names = [] then some .directory else t.items.find? (key names)

/-- Follows a link at the root. -/
def followLink (names : List String) : List String :=
  match names with
  | [name] => (links.lookup name).getD names
  | _ => names

/-- Goes on from names, which must lead to a directory, along a component. -/
def step (t : Tree) (names : List String) (component : String) :
    Except FileError (List String) :=
  match t.item? names with
  | none => .error .notFound
  | some .directory =>
    if component = ".." then .ok names.dropLast
    else if Workspace.nameLimit < component.length then .error .tooLong
    else .ok (followLink (names ++ [component]))
  | some _ => .error .notDirectory

/-- The names from the root to which a path leads. -/
def resolve (t : Tree) (path : Raw) : Except FileError (List String) :=
  let text := String.ofList path
  if path = [] then .error .notFound
  else if Workspace.pathLimit < path.length then .error .tooLong
  else (Path.components text).foldlM t.step (if text.startsWith "/" then [] else t.here)

def find (t : Tree) (path : Raw) : Except FileError Item := do
  match t.item? (← t.resolve path) with
  | none => .error .notFound
  | some .directory => .ok .directory
  | some item =>
    if Workspace.asksForDirectory (String.ofList path) then .error .notDirectory else .ok item

def read (t : Tree) (path : Raw) : Except FileError Raw := do
  match ← t.find path with
  | .directory => .error .isDirectory
  | .file contents => .ok contents
  | _ => .ok []

/-- Writes a file, which is made if there is none. -/
def write (t : Tree) (path contents : Raw) : Except FileError Tree := do
  let names ← t.resolve path
  match t.item? names with
  | some .directory => .error .isDirectory
  | some .sink => .ok t
  | found =>
    if (String.ofList path).endsWith "/" then .error .isDirectory
    else if found = none && t.item? names.dropLast ≠ some .directory then .error .notFound
    else .ok { t with items := t.items.insert (key names) (.file contents) }

/-- The names in a directory, in order. -/
def namesIn (t : Tree) (names : List String) : List String :=
  let start := if names = [] then "" else key names ++ "/"
  t.items.entries.filterMap fun (path, _) =>
    if path.startsWith start then
      let rest := path.toList.drop start.length
      if rest ≠ [] && !rest.contains '/' then some (String.ofList rest) else none
    else none

/-- Whether a program can be started at a path. -/
def startable (t : Tree) (path : Raw) : Except FileError Unit := do
  match ← t.find path with
  | .program => .ok ()
  | _ => .error .denied

/-- The program that a command means: the one at its path, or for a command without slashes the first
of its name in the directories of programs. Something that is no program is remembered in case there
is no program. -/
def program (t : Tree) (command : Raw) : Except FileError Raw :=
  if command.contains '/' || command = [] then (t.startable command).map fun _ => command
  else if Workspace.nameLimit < command.length then .error .tooLong
  else
    let paths := programDirectories.map fun d => rawOf ("/" ++ d ++ "/") ++ command
    match paths.find? fun path => (t.startable path).isOk with
    | some path => .ok path
    | none =>
      if paths.any fun path => (t.find path).isOk then .error .denied else .error .notFound

def programName (path : Raw) : String :=
  (Path.components (String.ofList path)).getLast?.getD ""

end Tree

end TextChain.Tool
