import TextChain.Tool.Shell.Expand

/-!
# Redirections

Before a command runs, its redirections let descriptors lead to files, to texts of the script or to
where other descriptors lead. All names are expanded before the first of them is carried out.
-/

namespace TextChain.Tool.Shell

/-- A redirection whose words are expanded. -/
inductive Route
  | file (descriptor : Nat) (opening : Opening) (path : Raw)
  | copy (descriptor source : Nat)
  | close (descriptor : Nat)
  | document (descriptor number : Nat)

def Redirection.route (e : Engine) : Redirection → Action Route
  | .file d opening name => return .file d opening (← expandText e false name)
  | .document d number => return .document d number
  | .copy d source => do
    let text ← expandText e false source
    match text with
    | ['-'] => return .close d
    | [c] => if c.isDigit then return .copy d (c.toNat - 48) else unreadable
    | _ => unreadable
where
  /-- Gives up at a word that is no descriptor. -/
  unreadable : Action Route :=
    giveUp (rawOf "Syntax error: Bad fd number")

/-- Why a file cannot be opened, as the shell puts it. -/
def openingFault (opening : Opening) (path : Raw) (error : FileError) : Raw :=
  let missing := error = .notFound || error = .notDirectory
  let reading := opening = .read
  let reason :=
    if !missing then error.reason else if reading then "No such file" else "Directory nonexistent"
  rawOf (if reading then "cannot open " else "cannot create ") ++ path ++ rawOf ": " ++ rawOf reason

def descriptorOf? (path : Raw) : Option Nat :=
  match String.ofList path with
  | "/dev/stdin" => some 0
  | "/dev/stdout" => some 1
  | "/dev/stderr" => some 2
  | text => if text.startsWith "/dev/fd/" then natural? (path.drop 8) else none

/-- The stream for what a path leads to, and the files after it was opened. -/
def State.opened (s : State) (opening : Opening) (path : Raw) :
    Except FileError (Stream × Tree) := do
  let found := s.tree.find path
  match opening, found with
  | .read, .error e => .error e
  | _, .ok .sink => .ok (.sink, s.tree)
  | .read, .ok .directory => .ok (.source [], s.tree)
  | .read, .ok (.file _) => .ok (.file (← s.tree.resolve path) 0 .read, s.tree)
  | .read, .ok .program => .ok (.source [], s.tree)
  | .write, .ok (.file _) =>
    if s.options.contains 'C' then .error (.other "File exists")
    else .ok (.file (← s.tree.resolve path) 0 .write, ← s.tree.write path [])
  | .overwrite, .ok (.file _) =>
    .ok (.file (← s.tree.resolve path) 0 .write, ← s.tree.write path [])
  | .append, .ok (.file _) => .ok (.file (← s.tree.resolve path) 0 .append, s.tree)
  | .readWrite, .ok (.file _) => .ok (.file (← s.tree.resolve path) 0 .readWrite, s.tree)
  | _, _ =>
    let tree ← s.tree.write path []
    .ok (.file (← s.tree.resolve path) 0 opening, tree)

/-- Lets a descriptor lead to where another one leads. -/
def copyDescriptor (descriptor source : Nat) (fault : Raw) : Action Unit := do
  match (← get).stream? source with
  | some n => modify fun s => s.connect descriptor n
  | none => giveUp fault

def Route.carryOut (e : Engine) : Route → Action Unit
  | .close d => modify fun s => s.close d
  | .copy d source => copyDescriptor d source (rawOf (toString source) ++ rawOf ": Bad file descriptor")
  | .document d number => do
    let text ← expandDocument e number
    modify fun s => s.attach d (.source text)
  | .file d opening path => do
    match descriptorOf? path with
    | some source => copyDescriptor d source (openingFault opening path .notFound)
    | none =>
      let s ← get
      match s.opened opening path with
      | .ok (stream, tree) => set ({ s with tree }.attach d stream)
      | .error error => giveUp (openingFault opening path error)

def routesOf (e : Engine) (rs : List Redirection) : Action (List Route) :=
  rs.mapM (·.route e)

def carriedOut (e : Engine) (routes : List Route) : Action Bool :=
  try
    routes.forM (·.carryOut e)
    return true
  catch
    | .error => return false
    | flow => throw flow

/-- Runs an action and lets the descriptors lead to where they led before. -/
def keepingDescriptors {α : Type} (action : Action α) : Action α := do
  let before := (← get).descriptors
  try
    let a ← action
    modify fun s => { s with descriptors := before }
    return a
  catch flow =>
    modify fun s => { s with descriptors := before }
    throw flow

end TextChain.Tool.Shell
