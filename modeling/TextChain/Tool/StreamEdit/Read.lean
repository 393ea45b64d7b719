import TextChain.Tool.Pattern.Read
import TextChain.Tool.StreamEdit.Script

/-!
# Written scripts

Reads scripts. Each command has its addresses in front of it and ends at a semicolon, at the end of the
line or at the end of its block; texts and names of files go to the end of the line.
-/

namespace TextChain.Tool.StreamEdit

/-- Why a script cannot be read. -/
inductive Fault
  | severalNegations
  | unexpectedComma
  | relativeStart
  | openBlock
  | unexpectedClosing
  | extraCharacters
  | missingText
  | closingAddress
  | markAddress
  | commentAddress
  | missingCommand
  | severalAddresses
  | openAddress
  | openSubstitution
  | openExchange
  | unknownFlag
  | severalPrints
  | severalGlobals
  | severalNumbers
  | zeroNumber
  | differentLengths
  | lineZero
  | unknownCommand (c : Char)
  | missingLabel
  | missingFile
  | newerVersion
  | confined
  | noSearch
  | emptyFlags
  | nestedEscape
  | reference (number : Nat)
  | pattern (f : Pattern.Fault)

def Fault.message : Fault → String
  | .severalNegations => "multiple \x60!'s"
  | .unexpectedComma => "unexpected \x60,'"
  | .relativeStart => "invalid usage of +N or ~N as first address"
  | .openBlock => "unmatched \x60\x7b'"
  | .unexpectedClosing => "unexpected \x60\x7d'"
  | .extraCharacters => "extra characters after command"
  | .missingText => "expected \\ after \x60a', \x60c' or \x60i'"
  | .closingAddress => "\x60\x7d' doesn't want any addresses"
  | .markAddress => ": doesn't want any addresses"
  | .commentAddress => "comments don't accept any addresses"
  | .missingCommand => "missing command"
  | .severalAddresses => "command only uses one address"
  | .openAddress => "unterminated address regex"
  | .openSubstitution => "unterminated \x60s' command"
  | .openExchange => "unterminated \x60y' command"
  | .unknownFlag => "unknown option to \x60s'"
  | .severalPrints => "multiple \x60p' options to \x60s' command"
  | .severalGlobals => "multiple \x60g' options to \x60s' command"
  | .severalNumbers => "multiple number options to \x60s' command"
  | .zeroNumber => "number option to \x60s' command may not be zero"
  | .differentLengths => "strings for \x60y' command are different lengths"
  | .lineZero => "invalid usage of line address 0"
  | .unknownCommand c => "unknown command: \x60" ++ c.toString ++ "'"
  | .missingLabel => "\":\" lacks a label"
  | .missingFile => "missing filename in r/R/w/W commands"
  | .newerVersion => "expected newer version of sed"
  | .confined => "e/r/w commands disabled in sandbox mode"
  | .noSearch => "no previous regular expression"
  | .emptyFlags => "cannot specify modifiers on empty regexp"
  | .nestedEscape => "recursive escaping after \\c not allowed"
  | .reference number => "invalid reference \\" ++ toString number ++ " on \x60s' command's RHS"
  | .pattern f => f.message

/-- A reader of scripts. A fault comes with the number of characters that are left at it. -/
abbrev Reader (α : Type) := Raw → Except (Fault × Nat) (α × Raw)

structure Manner where
  extended : Bool
  /-- Whether a script cannot use files. -/
  confined : Bool

def failAt {α : Type} (f : Fault) (rest : Raw) : Except (Fault × Nat) α :=
  .error (f, rest.length)

/-! ### Texts between delimiters -/

/-- How far the reader is in a set of characters. -/
inductive SetState
  | plain
  | bracket
  | name (mark : Char)
  /-- Behind a mark in such a name. -/
  | mark (mark : Char)

/-- The characters of a set up to its closing bracket; none if the line ends before it. -/
def setRest (state : SetState) : Raw → Option (Raw × Raw)
  | [] => none
  | c :: cs =>
    let plainer : SetState := match state with
      | .bracket => .plain
      | .mark m => .name m
      | s => s
    let go (s : SetState) : Option (Raw × Raw) :=
      (setRest s cs).map fun (inner, rest) => (c :: inner, rest)
    if c = '\n' then none
    else if c = '.' || c = ':' || c = '=' then
      match state with
      | .bracket => go (.name c)
      | .name m => go (if c = m then .mark m else .name m)
      | _ => go plainer
    else if c = '[' then
      match state with
      | .plain => go .bracket
      | s => go s
    else if c = ']' then
      match state with
      | .plain | .bracket => some ([c], cs)
      | .mark _ => go .plain
      | s => go s
    else go plainer

/-- The characters of a set after its opening bracket; a closing bracket at its start belongs to it. -/
def setText (cs : Raw) : Option (Raw × Raw) :=
  let start := if cs.head? = some '^' then ['^'] else []
  let start := if (cs.drop start.length).head? = some ']' then start ++ [']'] else start
  (setRest .plain (cs.drop start.length)).map fun (inner, rest) => (start ++ inner, rest)

/-- Reads a text up to a delimiter. In a pattern sets may contain the delimiter. The first argument
bounds the number of characters; without an end the rest is the place at which that is noticed. -/
def delimited (isPattern : Bool) (stop : Char) : Nat → Raw → Option Raw × Raw
  | 0, rest => (none, rest)
  | fuel + 1, cs =>
    let join (shown : Raw) (r : Option Raw × Raw) : Option Raw × Raw :=
      (r.1.map (shown ++ ·), r.2)
    match cs with
    | [] => (none, [])
    | c :: cs =>
      if c = '\n' then (none, c :: cs)
      else if c = stop then (some [], cs)
      else if c = '\\' then
        match cs with
        | [] => (none, [])
        | d :: rest =>
          let shown :=
            if isPattern && d = 'n' then ['\n']
            else if d = '\n' || (d = stop && (isPattern || d ≠ '&')) then [d]
            else ['\\', d]
          join shown (delimited isPattern stop fuel rest)
      else if c = '[' && isPattern then
        match setText cs with
        | some (inner, rest) => join ('[' :: inner) (delimited isPattern stop fuel rest)
        | none => (none, cs.dropWhile (· ≠ '\n'))
      else join [c] (delimited isPattern stop fuel cs)

/-- Reads a text between delimiters after the first of them. -/
def delimitedText (isPattern : Bool) (stop : Char) (fault : Fault) : Reader Raw := fun cs =>
  match delimited isPattern stop (cs.length + 1) cs with
  | (some text, rest) => .ok (text, rest)
  | (none, rest) => failAt fault rest

/-! ### Escapes -/

/-- The base of the digits after a letter of an escape, and their greatest number. -/
def numberEscape? : Char → Option (Nat × Nat)
  | 'd' => some (10, 3)
  | 'o' => some (8, 3)
  | 'x' => some (16, 2)
  | _ => none

/-- Replaces escapes by the characters that they stand for. A character that is `guarded` keeps a
backslash in front of it. Nothing can be given for a control character that is itself an escape. The
first argument bounds the number of characters. -/
def decodeEscapes (guarded : Char → Bool) : Nat → Raw → Option Raw
  | 0, _ => some []
  | fuel + 1, cs =>
    let guard (c : Char) : Raw := if guarded c then ['\\', c] else [c]
    match cs with
    | [] => some []
    | '\\' :: 'c' :: rest =>
      match rest with
      | [] => some ['\\']
      | '\\' :: '\\' :: rest => (decodeEscapes guarded fuel rest).map (guard '\x1c' ++ ·)
      | '\\' :: _ => none
      | c :: rest =>
        (decodeEscapes guarded fuel rest).map
          (guard (Char.ofNat (c.toUpper.toNat ^^^ 0x40)) ++ ·)
    | '\\' :: c :: rest =>
      match numberEscape? c with
      | some (base, limit) =>
        let (ds, rest) := takeDigits base limit rest
        let shown := if ds = [] then [c] else guard (Char.ofNat (ofDigits base ds % 256))
        (decodeEscapes guarded fuel rest).map (shown ++ ·)
      | none =>
        let shown := if "afnrtv".toList.contains c then [(letterEscape? c).getD c] else ['\\', c]
        (decodeEscapes guarded fuel rest).map (shown ++ ·)
    | c :: rest => (decodeEscapes guarded fuel rest).map (c :: ·)

/-- Removes the backslashes in front of characters. -/
def unquote : Raw → Raw
  | '\\' :: c :: rest => c :: unquote rest
  | c :: rest => c :: unquote rest
  | [] => []

/-! ### Patterns and replacements -/

/-- The pattern of a text; none if it is empty. The place is that of a fault. -/
def Manner.search (m : Manner) (folds several : Bool) (text rest : Raw) :
    Except (Fault × Nat) (Option Search) :=
  if text = [] then
    if folds || several then failAt .emptyFlags rest else .ok none
  else
    match decodeEscapes (fun _ => false) (text.length + 1) text with
    | none => failAt .nestedEscape rest
    | some decoded =>
      match Pattern.read ⟨m.extended, folds, false, several⟩ decoded with
      | .ok (pattern, groups) => .ok (some ⟨pattern, groups, several, folds⟩)
      | .error fault => failAt (.pattern fault) rest

structure PartReader where
  /-- The parts in reverse order. -/
  parts : List Part
  /-- The characters of the current part in reverse order. -/
  text : Raw
  /-- How the current part changes. -/
  now : Recasing
  later : Case

def PartReader.finish (r : PartReader) (group : Option Nat) : PartReader :=
  { r with parts := ⟨r.text.reverse, group, r.now⟩ :: r.parts, text := [], now := ⟨.kept, r.later⟩ }

/-- Changes all letters from here on. -/
def PartReader.recase (r : PartReader) (c : Case) : PartReader :=
  { r.finish none with now := ⟨.kept, c⟩, later := c }

/-- Changes the next letter. -/
def PartReader.recaseFirst (r : PartReader) (c : Case) : PartReader :=
  { r.finish none with now := ⟨c, r.later⟩ }

def PartReader.read (r : PartReader) : Raw → List Part
  | [] => (if r.text = [] then r else r.finish none).parts.reverse
  | ['\\'] => (({ r with text := '\\' :: r.text } : PartReader).finish none).parts.reverse
  | '\\' :: c :: rest =>
    if c.isDigit then (r.finish (some (c.toNat - 48))).read rest
    else
      match c with
      | 'L' => (r.recase .lower).read rest
      | 'U' => (r.recase .upper).read rest
      | 'E' => (r.recase .kept).read rest
      | 'l' => (r.recaseFirst .lower).read rest
      | 'u' => (r.recaseFirst .upper).read rest
      | c => ({ r with text := c :: r.text } : PartReader).read rest
  | '&' :: rest => (r.finish (some 0)).read rest
  | c :: rest => ({ r with text := c :: r.text } : PartReader).read rest

def replacementParts? (text : Raw) : Option (List Part) :=
  (decodeEscapes (fun c => c = '&' || c = '\\') (text.length + 1) text).map
    (PartReader.read ⟨[], [], ⟨.kept, .kept⟩, .kept⟩)

/-! ### Small pieces -/

/-- The rest without blanks at its start. -/
def skipGaps (cs : Raw) : Raw :=
  cs.dropWhile isGap

/-- Reads the digits of a number; without digits it is zero. -/
def number (cs : Raw) : Nat × Raw :=
  (Nat.ofDigitChars 10 (cs.takeWhile Char.isDigit) 0, cs.dropWhile Char.isDigit)

def endOfCommand : Reader Unit := fun cs =>
  match skipGaps cs with
  | [] => .ok ((), [])
  | c :: rest =>
    if c = '\x7d' || c = '#' then .ok ((), c :: rest)
    else if c = '\n' || c = ';' then .ok ((), rest)
    else failAt .extraCharacters rest

/-- Reads the rest of the line as the name of a file. -/
def Manner.fileName (m : Manner) : Reader Raw := fun cs =>
  let text := skipGaps cs
  let name := text.takeWhile (· ≠ '\n')
  let rest := (text.dropWhile (· ≠ '\n')).drop 1
  if m.confined then failAt .confined cs
  else if name = [] then failAt .missingFile rest else .ok (name, rest)

def label (cs : Raw) : Raw × Raw :=
  let text := skipGaps cs
  let belongs (c : Char) : Bool := !isSpace c && c ≠ ';' && c ≠ '\x7d' && c ≠ '#'
  (text.takeWhile belongs, text.dropWhile belongs)

/-! ### Addresses -/

/-- Reads the flags after the pattern of an address: whether case does not count, and whether lines
start inside the text. -/
def addressFlags : Bool → Bool → Raw → Bool × Bool × Raw
  | folds, several, [] => (folds, several, [])
  | folds, several, c :: cs =>
    if isGap c then addressFlags folds several cs
    else if c = 'I' then addressFlags true several cs
    else if c = 'M' then addressFlags folds true cs
    else (folds, several, c :: cs)

/-- Reads a pattern as an address after its first delimiter. -/
def Manner.searchAddress (m : Manner) (stop : Char) : Reader Address := fun cs => do
  let (text, rest) ← delimitedText true stop .openAddress cs
  let (folds, several, after) := addressFlags false false rest
  let found ← m.search folds several text after
  .ok (.search found, after)

/-- Reads an address; none if there is none. -/
def Manner.address (m : Manner) : Reader (Option Address) := fun cs =>
  match cs with
  | '/' :: rest => (m.searchAddress '/' rest).map fun (a, rest) => (some a, rest)
  | ['\\'] => failAt .openAddress []
  | '\\' :: stop :: rest => (m.searchAddress stop rest).map fun (a, rest) => (some a, rest)
  | '$' :: rest => .ok (some .last, rest)
  | c :: _ =>
    if c.isDigit then
      let (first, rest) := number cs
      match skipGaps rest with
      | '~' :: rest =>
        let (distance, rest) := number (skipGaps rest)
        .ok (some (if distance = 0 then .line first else .steps first distance), rest)
      | rest => .ok (some (.line first), rest)
    else .ok (none, cs)
  | [] => .ok (none, [])

def Manner.rangeEnd (m : Manner) : Reader RangeEnd := fun cs =>
  match cs with
  | '+' :: rest =>
    let (count, rest) := number (skipGaps rest)
    .ok (.after count, rest)
  | '~' :: rest =>
    let (factor, rest) := number (skipGaps rest)
    .ok (.multiple factor, rest)
  | _ => do
    match ← m.address cs with
    | (some a, rest) => .ok (.address a, rest)
    | (none, rest) => failAt .unexpectedComma (rest.drop 1)

/-- Whether a selection starts at line zero without a pattern at its end. -/
def Selection.startsAtZero (s : Selection) : Bool :=
  match s.first, s.last with
  | some (.line 0), some (.address (.search _)) => false
  | some (.line 0), _ => true
  | _, _ => false

def Manner.selection (m : Manner) : Reader Selection := fun cs => do
  let (first, rest) ← m.address cs
  let (last, rest) ← (match first, skipGaps rest with
    | none, _ =>
      match cs with
      | c :: rest =>
        if c = '+' || c = '~' then failAt .relativeStart (number (skipGaps rest)).2
        else .ok (none, cs)
      | [] => .ok (none, [])
    | some _, ',' :: rest => do
      let (stop, rest) ← m.rangeEnd (skipGaps rest)
      .ok (some stop, skipGaps rest)
    | some _, rest => .ok (none, rest) : Except (Fault × Nat) (Option RangeEnd × Raw))
  let negated := rest.head? = some '!'
  let s : Selection := ⟨first, last, negated⟩
  if s.startsAtZero then failAt .lineZero (rest.drop 1)
  else if !negated then .ok (s, rest)
  else
    match skipGaps (rest.drop 1) with
    | '!' :: rest => failAt .severalNegations rest
    | rest => .ok (s, rest)

/-! ### Texts -/

/-- Reads a text up to the end of the line; a backslash joins the next line. Says whether the text ends
with a backslash at the end of the script, so that it may go on. -/
def textLines : Raw → Raw × Raw × Bool
  | [] => (['\n'], [], false)
  | ['\\'] => (['\n'], [], true)
  | '\\' :: c :: rest =>
    let (text, rest, open?) := textLines rest
    ('\\' :: c :: text, rest, open?)
  | '\n' :: rest => (['\n'], rest, false)
  | c :: rest =>
    let (text, rest, open?) := textLines rest
    (c :: text, rest, open?)

/-- A text as it is written, and whether it may go on in the next script. -/
structure Pending where
  text : Raw
  goesOn : Bool

def commandText : Reader Pending := fun cs =>
  let finish (lead text : Raw) : Except (Fault × Nat) (Pending × Raw) :=
    let (text, rest, goesOn) := textLines text
    .ok (⟨lead ++ text, goesOn⟩, rest)
  match skipGaps cs with
  | [] => failAt .missingText []
  | ['\\'] => .ok (⟨[], true⟩, [])
  | '\\' :: c :: rest => finish (if c = '\n' then [] else [c]) rest
  | text => finish [] text

/-- The text that is written for a text of a command. -/
def finishText (p : Pending) (rest : Raw) : Except (Fault × Nat) Raw :=
  match decodeEscapes (· = '\\') (p.text.length + 1) p.text with
  | none => failAt .nestedEscape rest
  | some text => .ok (unquote text)

/-! ### Substitutions -/

structure ReplacingFlags where
  folds : Bool
  several : Bool
  printed : Bool
  all : Bool
  occurrence : Nat
  file : Option Raw

/-- Reads the flags of a substitution. The first argument bounds the number of characters. -/
def Manner.replacingFlags (m : Manner) (f : ReplacingFlags) : Nat → Reader ReplacingFlags
  | 0, cs => .ok (f, cs)
  | _, [] => .ok (f, [])
  | fuel + 1, c :: cs =>
    match c with
    | 'i' | 'I' => m.replacingFlags { f with folds := true } fuel cs
    | 'm' | 'M' => m.replacingFlags { f with several := true } fuel cs
    | 'p' =>
      if f.printed then failAt .severalPrints cs
      else m.replacingFlags { f with printed := true } fuel cs
    | 'g' =>
      if f.all then failAt .severalGlobals cs
      else m.replacingFlags { f with all := true } fuel cs
    | 'w' => (m.fileName cs).map fun (name, rest) => ({ f with file := some name }, rest)
    | '\x7d' | '#' => .ok (f, c :: cs)
    | '\n' | ';' => .ok (f, cs)
    | '\r' =>
      match cs with
      | '\n' :: rest => .ok (f, rest)
      | _ => failAt .unknownFlag cs
    | c =>
      if isGap c then m.replacingFlags f fuel cs
      else if c.isDigit then
        let (n, rest) := number (c :: cs)
        if f.occurrence ≠ 0 then failAt .severalNumbers cs
        else if n = 0 then failAt .zeroNumber rest
        else m.replacingFlags { f with occurrence := n } fuel rest
      else failAt .unknownFlag cs

def Manner.substitution (m : Manner) : Reader Replacing := fun cs => do
  match cs with
  | [] => failAt .openSubstitution []
  | stop :: cs =>
    let (text, rest) ← delimitedText true stop .openSubstitution cs
    let (replacement, rest) ← delimitedText false stop .openSubstitution rest
    match replacementParts? replacement with
    | none => failAt .nestedEscape rest
    | some parts =>
      let flags : ReplacingFlags := ⟨false, false, false, false, 0, none⟩
      let (f, rest) ← m.replacingFlags flags (rest.length + 1) rest
      let search ← m.search f.folds f.several text rest
      let greatest := greatestGroup parts
      match search with
      | some s =>
        if s.groups < greatest then failAt (.reference greatest) rest
        else .ok (⟨some s, parts, f.occurrence, f.all, f.printed, f.file⟩, rest)
      | none => .ok (⟨none, parts, f.occurrence, f.all, f.printed, f.file⟩, rest)

def exchangeLetters : Reader (List (Char × Char)) := fun cs => do
  match cs with
  | [] => failAt .openExchange []
  | stop :: cs =>
    let (source, rest) ← delimitedText false stop .openExchange cs
    let (target, rest) ← delimitedText false stop .openExchange rest
    let decode (text : Raw) : Option Raw :=
      (decodeEscapes (· = '\\') (text.length + 1) text).map unquote
    match decode source, decode target with
    | some source, some target =>
      if source.length ≠ target.length then failAt .differentLengths rest
      else
        let ((), rest) ← endOfCommand rest
        .ok ((source.zip target).reverse, rest)
    | _, _ => failAt .nestedEscape rest

/-! ### Commands -/

/-- The actions that have nothing behind their letters. -/
def plainAction? : Char → Option Action
  | '=' => some .number
  | 'd' => some .delete
  | 'D' => some .deleteFirst
  | 'F' => some .fileName
  | 'g' => some .get
  | 'G' => some .appendGet
  | 'h' => some .hold
  | 'H' => some .appendHold
  | 'n' => some .next
  | 'N' => some .appendNext
  | 'p' => some .print
  | 'P' => some .printFirst
  | 'x' => some .exchange
  | 'z' => some .clear
  | _ => none

/-- Reads a number that may stand behind a letter, up to the end of the command. -/
def commandNumber : Reader (Option Nat) := fun cs => do
  let text := skipGaps cs
  let (n, rest) := number text
  let ((), after) ← endOfCommand rest
  .ok (if rest.length = text.length then none else some n, after)

/-- The numbers of the version of the language of scripts. -/
def version : List Nat := [4, 9]

def knownVersion (text : Raw) : Bool :=
  match (text.splitOn '.').mapM natural? with
  | none => false
  | some numbers =>
    let compared := (version ++ [0]).zip (numbers ++ List.replicate 3 0)
    match compared.find? fun (known, wanted) => known ≠ wanted with
    | some (known, wanted) => wanted < known
    | none => true

/-- The command at the start of a script after its selection: its action, or none for one that only
stands in the script. -/
def Manner.action (m : Manner) (s : Selection) (inBlock : Bool) (c : Char) :
    Reader (Option Action) := fun cs => do
  match c with
  | '#' =>
    if s.first.isSome then failAt .commentAddress cs
    else .ok (none, (cs.dropWhile (· ≠ '\n')).drop 1)
  | 'v' =>
    let (text, rest) := label cs
    if text = [] || knownVersion text then .ok (none, rest) else failAt .newerVersion rest
  | '\x7b' => .ok (some .opening, cs)
  | '\x7d' =>
    if !inBlock then failAt .unexpectedClosing cs
    else if s.first.isSome then failAt .closingAddress cs
    else
      let ((), rest) ← endOfCommand cs
      .ok (some .closing, rest)
  | ':' =>
    if s.first.isSome then failAt .markAddress cs
    else
      let (name, rest) := label cs
      if name = [] then failAt .missingLabel rest else .ok (some (.mark name), rest)
  | 'b' => let (name, rest) := label cs; .ok (some (.jump .always name), rest)
  | 't' => let (name, rest) := label cs; .ok (some (.jump .replaced name), rest)
  | 'T' => let (name, rest) := label cs; .ok (some (.jump .unreplaced name), rest)
  | 'q' | 'Q' =>
    if s.last.isSome then failAt .severalAddresses cs
    else
      let (status, rest) ← commandNumber cs
      let status := status.getD 0 % 256
      .ok (some (if c = 'q' then .quit status else .quitSilently status), rest)
  | 'l' =>
    let (width, rest) ← commandNumber cs
    .ok (some (.list width), rest)
  | 'r' => (m.fileName cs).map fun (name, rest) => (some (.readFile name), rest)
  | 'R' => (m.fileName cs).map fun (name, rest) => (some (.readLine name), rest)
  | 'w' => (m.fileName cs).map fun (name, rest) => (some (.writeFile name), rest)
  | 'W' => (m.fileName cs).map fun (name, rest) => (some (.writeFirst name), rest)
  | 's' => (m.substitution cs).map fun (r, rest) => (some (.substitute r), rest)
  | 'y' => (exchangeLetters cs).map fun (pairs, rest) => (some (.exchangeLetters pairs), rest)
  | c =>
    match plainAction? c with
    | some action =>
      let ((), rest) ← endOfCommand cs
      .ok (some action, rest)
    | none => failAt (.unknownCommand c) cs

structure Draft where
  /-- The commands in reverse order. -/
  commands : List Command
  /-- The numbers of the scripts in which the open blocks start, the innermost first. -/
  blocks : List Nat
  /-- The command whose text may go on in the next script. -/
  pending : Option (Selection × (Raw → Action) × Raw)

def textAction? : Char → Option (Raw → Action)
  | 'a' => some .append
  | 'i' => some .insert
  | 'c' => some .change
  | _ => none

def Draft.add (d : Draft) (s : Selection) (a : Action) : Draft :=
  { d with commands := ⟨s, a⟩ :: d.commands }

def Draft.addText (d : Draft) (s : Selection) (make : Raw → Action) (p : Pending) (rest : Raw) :
    Except (Fault × Nat) (Draft × Raw) := do
  let text ← finishText p rest
  if p.goesOn && rest = [] then .ok ({ d with pending := some (s, make, p.text) }, rest)
  else .ok (d.add s (make text), rest)

def Manner.command (m : Manner) (script : Nat) (d : Draft) :
    Raw → Except (Fault × Nat) (Draft × Raw) := fun cs => do
  let (s, rest) ← m.selection cs
  match rest with
  | [] => failAt .missingCommand []
  | c :: rest =>
    match textAction? c with
    | some make =>
      let (p, rest) ← commandText rest
      d.addText s make p rest
    | none =>
      let (action, rest) ← m.action s (!d.blocks.isEmpty) c rest
      match action with
      | none => .ok (d, rest)
      | some .opening => .ok ({ d.add s .opening with blocks := script :: d.blocks }, rest)
      | some .closing => .ok ({ d.add s .closing with blocks := d.blocks.drop 1 }, rest)
      | some a => .ok (d.add s a, rest)

/-- Reads the commands of a script. The first argument bounds the number of characters. -/
def Manner.commands (m : Manner) (script : Nat) : Nat → Draft → Raw → Except (Fault × Nat) Draft
  | 0, d, _ => .ok d
  | fuel + 1, d, cs =>
    match cs.dropWhile fun c => c = ';' || isSpace c with
    | [] => .ok d
    | cs => do
      let (d, rest) ← m.command script d cs
      m.commands script fuel d rest

/-- Reads a script. It goes on with a text if the script before it ends in one. -/
def Manner.script (m : Manner) (script : Nat) (d : Draft) (cs : Raw) :
    Except (Fault × Nat) Draft :=
  match d.pending with
  | none => m.commands script (cs.length + 1) d cs
  | some (s, make, lead) => do
    let (text, rest, goesOn) := textLines cs
    let (d, rest) ←
      ({ d with pending := none } : Draft).addText s make ⟨lead ++ text, goesOn⟩ rest
    m.commands script (rest.length + 1) d rest

/-- Whether a script asks in its first line that lines are not printed by themselves. -/
def asksForSilence (cs : Raw) : Bool :=
  cs.take 2 = ['#', 'n']

end TextChain.Tool.StreamEdit
