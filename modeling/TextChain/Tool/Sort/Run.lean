import TextChain.Tool.Flags
import TextChain.Tool.Sort.Key

/-!
# Sorting lines

Writes the lines of files in order. Lines that are equal by their keys are ordered by their bytes,
unless they stay as they are or only the first of them is written.
-/

namespace TextChain.Tool.Sort

def flags : Flags where
  letters := ("bcCdfghimMnrRsuVz".toList.map (·, .nothing)) ++ "koStT".toList.map (·, .value) ++
    [('y', .attached)]
  words := [("ignore-leading-blanks", 'b', .nothing), ("check", 'c', .attached),
    ("dictionary-order", 'd', .nothing), ("ignore-case", 'f', .nothing),
    ("general-numeric-sort", 'g', .nothing), ("ignore-nonprinting", 'i', .nothing),
    ("key", 'k', .value), ("merge", 'm', .nothing), ("month-sort", 'M', .nothing),
    ("numeric-sort", 'n', .nothing), ("human-numeric-sort", 'h', .nothing),
    ("version-sort", 'V', .nothing), ("random-sort", 'R', .nothing), ("output", 'o', .value),
    ("reverse", 'r', .nothing), ("stable", 's', .nothing), ("buffer-size", 'S', .value),
    ("field-separator", 't', .value), ("temporary-directory", 'T', .value),
    ("unique", 'u', .nothing), ("zero-terminated", 'z', .nothing), ("parallel", 'S', .value),
    ("batch-size", 'S', .value), ("sort", 'w', .value)]
  ordered := false

structure Plan where
  keys : List Key
  separator : Option Char
  /-- Whether bytes are compared in reverse where keys do not decide. -/
  reversed : Bool
  /-- Whether lines stay in their order where keys do not decide. -/
  stable : Bool
  /-- Whether only the first of equal lines is written. -/
  unique : Bool

def Plan.compare (p : Plan) (a b : Raw) : Ordering :=
  let byKeys := compareKeys p.separator p.keys a b
  if p.keys ≠ [] && (byKeys ≠ .eq || p.unique || p.stable) then byKeys
  else
    let order := compareBytes a b
    if p.reversed then order.swap else order

/-- Lines without those that are equal to the one before. -/
def distinct (p : Plan) : List Raw → List Raw
  | a :: b :: rest =>
    if p.compare a b = .eq then distinct p (a :: rest) else a :: distinct p (b :: rest)
  | ls => ls
termination_by ls => ls.length

def Plan.sort (p : Plan) (ls : List Raw) : List Raw :=
  ls.mergeSort fun a b => p.compare a b ≠ .gt

/-- The lines of files that are in order, merged: the least of the first lines comes first. -/
def Plan.merge (p : Plan) (files : List (List Raw)) : List Raw :=
  files.foldr (fun ls merged => List.merge ls merged fun a b => p.compare a b ≠ .gt) []

/-- The first line that is out of order, with its number. -/
def Plan.disorder? (p : Plan) (number : Nat) : List Raw → Option (Nat × Raw)
  | a :: b :: rest =>
    let order := p.compare a b
    if order = .gt || (order = .eq && p.unique) then some (number + 1, b)
    else p.disorder? (number + 1) (b :: rest)
  | _ => none

/-! ### Flags -/

/-- Why a sort cannot start. -/
inductive Fault
  | request (message : Raw)
  | flags (message : Raw)
  /-- A message about a word that is given for a flag, with the words that can be. -/
  | word (message : Raw)

def measureWords : List (List String × Char) :=
  [(["general-numeric"], 'g'), (["human-numeric"], 'h'), (["month"], 'M'), (["numeric"], 'n'),
   (["random"], 'R'), (["version"], 'V')]

/-- The words for ways to check, with their letters. -/
def checkWords : List (List String × Char) :=
  [(["quiet", "silent"], 'C'), (["diagnose-first"], 'c')]

/-- The letter of a word that may be cut short. -/
def readChoice (flag : String) (choices : List (List String × Char)) (word : Raw) :
    Except Fault Char :=
  let fault (reason : String) : Fault := .word (rawOf reason ++ quoteWord word ++ rawOf " for " ++
    quoteWord (rawOf flag) ++ rawOf "\nValid arguments are:\n" ++ choices.flatMap fun c =>
      rawOf "  - " ++ List.intercalate (rawOf ", ") (c.1.map fun w => quoteWord (rawOf w)) ++ ['\n'])
  match choices.find? fun c => c.1.any (·.toList = word) with
  | some choice => .ok choice.2
  | none =>
    match choices.filter fun c => c.1.any (word.isPrefixOf ·.toList) with
    | [] => .error (fault "invalid argument ")
    | [choice] => .ok choice.2
    | _ => .error (fault "ambiguous argument ")

def readSeparator (value : Raw) : Except Raw Char :=
  match value with
  | [] => .error (rawOf "empty tab")
  | [c] => .ok c
  | ['\\', '0'] => .ok '\x00'
  | _ => .error (rawOf "multi-character tab " ++ quoteWord value)

structure Request where
  /-- The rule of keys that say nothing else. -/
  rule : Rule
  keys : List Key
  separator : Option Char
  /-- Whether lines stay in their order where keys do not decide. -/
  stable : Bool
  /-- Whether only the first of equal lines is written. -/
  unique : Bool
  stop : Char
  /-- Whether the files are in order already. -/
  merges : Bool
  /-- Whether the order is only checked, and the letter of the way. -/
  checks : Option Char
  output : Option Raw

/-- Lines are compared by their bytes. -/
def Request.plain : Request := ⟨.plain, [], none, false, false, '\n', false, none, none⟩

def Request.check (r : Request) (letter : Char) : Except Fault Request :=
  match r.checks with
  | some other =>
    if other = letter then .ok r else .error (.request (incompatible ['c', 'C']))
  | none => .ok { r with checks := some letter }

def Request.add (r : Request) (g : Given) : Except Fault Request :=
  let value := g.2.getD []
  match g.1 with
  | 's' => .ok { r with stable := true }
  | 'u' => .ok { r with unique := true }
  | 'z' => .ok { r with stop := '\x00' }
  | 'm' => .ok { r with merges := true }
  | 'C' => r.check 'C'
  | 'c' => do
    let letter ← match g.2 with
      | some word => readChoice "--check" checkWords word
      | none => .ok 'c'
    r.check letter
  | 'w' => do
    let letter ← readChoice "--sort" measureWords value
    .ok { r with rule := (r.rule.add? true true letter).getD r.rule }
  | 'k' =>
    match Key.read value with
    | .ok key => .ok { r with keys := r.keys ++ [key] }
    | .error message => .error (.request message)
  | 'o' =>
    if r.output.any (· ≠ value) then .error (.request (rawOf "multiple output files specified"))
    else .ok { r with output := some value }
  | 't' =>
    match readSeparator value with
    | .ok c =>
      if r.separator.any (· ≠ c) then .error (.request (rawOf "incompatible tabs"))
      else .ok { r with separator := some c }
    | .error message => .error (.request message)
  | letter => .ok { r with rule := (r.rule.add? true true letter).getD r.rule }

def Request.read (args : List Raw) : Except Fault (Request × List Raw) := do
  let reading := flags.scan args
  let r ← reading.given.foldlM Request.add .plain
  match reading.fault with
  | none => .ok (r, reading.operands)
  | some message => .error (.flags message)

def Request.plan (r : Request) : Except Raw Plan :=
  let keys := r.keys.map fun k =>
    if k.rule.isDefault && !k.rule.reversed then { k with rule := r.rule } else k
  let keys := if keys.isEmpty && !(r.rule.isDefault) then [⟨⟨0, 0⟩, none, r.rule⟩] else keys
  match (if keys.isEmpty then r.rule.conflict? else keys.findSome? fun k => k.rule.conflict?) with
  | some message => .error message
  | none => .ok ⟨keys, r.separator, r.rule.reversed, r.stable, r.unique⟩

/-! ### Files -/

/-- The message about an operand that cannot be read; what was done with it is said unless it is a
directory. -/
def readFault (deed : String) (path : Raw) (reason : FileError) : Raw :=
  let deed := if reason = .isDirectory then "read failed" else deed
  rawOf (deed ++ ": ") ++ quoteFile path ++ rawOf (": " ++ reason.reason)

/-- The texts of operands, or the message about the first that cannot be read. Directories are found
out last. -/
def readAll (i : Invocation) (paths : List Raw) : Except Raw (List Raw) :=
  let missing := paths.findSome? fun path =>
    match i.readOperand path with
    | .error .isDirectory | .ok _ => none
    | .error reason => some (readFault "cannot read" path reason)
  match missing with
  | some message => .error message
  | none => readEach i paths
where
  /-- The texts of operands; the input is there only once. -/
  readEach (i : Invocation) : List Raw → Except Raw (List Raw)
    | [] => .ok []
    | path :: rest =>
      match i.readOperand path with
      | .ok text =>
        let left := if Invocation.readsInput [path] then { i with input := [] } else i
        (readEach left rest).map (text :: ·)
      | .error reason => .error (readFault "cannot read" path reason)

/-- Checks whether the lines of a file are in order. -/
def checkOrder (i : Invocation) (r : Request) (p : Plan) (quiet : Bool) (path : Raw) : Outcome :=
  match i.readOperand path with
  | .error reason => i.fail 2 (readFault "open failed" path reason)
  | .ok text =>
    match p.disorder? 1 ((linesBy r.stop text).map Line.text) with
    | none => i.succeed []
    | some (number, line) =>
      let message := path ++ rawOf s!":{number}: disorder: " ++ line
      i.finish 1 [] (if quiet then [] else i.line message)

def sortFiles (i : Invocation) (r : Request) (p : Plan) (paths : List Raw) : Outcome :=
  match readAll i paths with
  | .error message => i.fail 2 message
  | .ok texts =>
    let files := texts.map fun text => (linesBy r.stop text).map Line.text
    let ordered := if r.merges then p.merge files else p.sort files.flatten
    let output := endEach r.stop (if p.unique then distinct p ordered else ordered)
    match r.output with
    | none =>
      { i.succeed output with unread := if Invocation.readsInput paths then [] else i.input }
    | some path =>
      match i.tree.write path output with
      | .ok tree => { i.succeed [] with tree }
      | .error e =>
        i.fail 2 (rawOf "open failed: " ++ quoteFile path ++ rawOf (": " ++ e.reason))

def run (i : Invocation) : Outcome :=
  match Request.read i.args with
  | .error (.request message) => i.fail 2 message
  | .error (.flags message) => i.refuse 2 message
  | .error (.word message) =>
    i.finishUnread 1 [] (i.name ++ rawOf ": " ++ message ++ i.hint)
  | .ok (r, operands) =>
    match r.plan with
    | .error message => i.fail 2 message
    | .ok plan =>
      let paths := if operands = [] then [['-']] else operands
      match r.checks, paths with
      | none, paths => sortFiles i r plan paths
      | some letter, _ :: extra :: _ =>
        i.fail 2 (rawOf "extra operand " ++ quoteName extra ++ rawOf " not allowed with -" ++ [letter])
      | some letter, paths =>
        if r.output.isSome then i.fail 2 (incompatible [letter, 'o'])
        else checkOrder i r plan (letter = 'C') (paths.headD [])

end TextChain.Tool.Sort
