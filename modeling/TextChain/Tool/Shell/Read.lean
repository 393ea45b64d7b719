import TextChain.Tool.Shell.Script

/-!
# Written shell scripts

Reads the commands of a script one after the other, so that those before a fault can be carried out.
Words are read character by character; signs and words are put together to commands. Texts that stand
in the script behind a line are read with the end of that line.
-/

namespace TextChain.Tool.Shell

/-- Why a script cannot be read, and the line at which that is noticed. -/
structure Fault where
  line : Nat
  message : Raw

/-- A text whose lines follow. -/
structure Pending where
  number : Nat
  /-- The line behind its end. -/
  mark : Raw
  /-- Whether tabs at the start of its lines do not count. -/
  stripped : Bool
  plain : Bool

inductive RedirectionSign
  | file (descriptor : Nat) (opening : Opening)
  | copy (descriptor : Nat)
  | document (descriptor : Nat) (stripped : Bool)

/-- A word or a sign of a script. -/
inductive Token
  | ending
  | newline
  | sign (text : String)
  | keyword (name : String)
  | word (pieces : List Piece)
  | redirection (sign : RedirectionSign)

structure Reader where
  rest : Raw
  line : Nat
  /-- A token that is read again. -/
  back : Option Token
  /-- The texts that follow at the end of the line. -/
  pending : List Pending
  documents : List (Nat × List Piece)
  nextDocument : Nat

abbrev Parser := StateT Reader (Except Fault)

def failure {α : Type} (message : Raw) : Parser α := do
  throw ⟨(← get).line, rawOf "Syntax error: " ++ message⟩

/-! ### Characters -/

/-- The rest without joined lines at its start, and the number of its line. -/
def joined (line : Nat) : Raw → Raw × Nat
  | '\\' :: '\n' :: rest => joined (line + 1) rest
  | cs => (cs, line)

/-- The next character; lines are joined at backslashes. -/
def peek : Parser (Option Char) := do
  let r ← get
  let (rest, line) := joined r.line r.rest
  set { r with rest, line }
  return rest.head?

def advance : Parser Unit :=
  modify fun r =>
    { r with rest := r.rest.drop 1, line := if r.rest.head? = some '\n' then r.line + 1 else r.line }

/-- Takes the characters of a text away. -/
def consume (text : Raw) : Parser Unit :=
  modify fun r =>
    { r with rest := r.rest.drop text.length, line := r.line + text.count '\n' }

/-- Takes away the characters of a kind that follow; lines are joined at backslashes. The first argument
bounds their number. -/
def takeJoined (p : Char → Bool) : Nat → Parser Raw
  | 0 => return []
  | fuel + 1 => do
    match ← peek with
    | some c =>
      if p c then
        advance
        return c :: (← takeJoined p fuel)
      else return []
    | none => return []

/-! ### Words -/

/-- Where a piece of a word stands. -/
inductive Context
  | word
  | double
  /-- In braces, which may stand in quotes. -/
  | braces (inQuotes : Bool)
  /-- In quotes in braces that stand in quotes. -/
  | inner
  | arithmetic
  /-- In a text behind a line. -/
  | document
deriving DecidableEq

/-- Whether pieces in a context stand in quotes. -/
def Context.inQuotes : Context → Bool
  | .word | .braces false => false
  | _ => true

def endsWord (c : Char) : Bool :=
  " \t\n;&|<>()".toList.contains c

/-- The operation that a sign in braces stands for. -/
def operationOf? (orEmpty : Bool) : Char → Option Operation
  | '-' => some (.orElse orEmpty)
  | '+' => some (.instead orEmpty)
  | '?' => some (.demand orEmpty)
  | '=' => some (.assign orEmpty)
  | _ => none

/-- Reads the operation behind the name of a parameter in braces; what follows it is a word. -/
def readOperation (cs : Raw) : Operation × Raw :=
  match cs with
  | '\x7d' :: _ => (.value, cs)
  | '#' :: '#' :: rest => (.trim false true, rest)
  | '#' :: rest => (.trim false false, rest)
  | '%' :: '%' :: rest => (.trim true true, rest)
  | '%' :: rest => (.trim true false, rest)
  | ':' :: c :: rest =>
    match operationOf? true c with
    | some o => (o, rest)
    | none => (.invalid, c :: rest)
  | c :: rest =>
    match operationOf? false c with
    | some o => (o, rest)
    | none => (.invalid, rest)
  | [] => (.invalid, [])

/-- The name at the start of a text: that of a variable, or a number. -/
def nameAt (cs : Raw) : Raw :=
  match cs with
  | c :: _ =>
    if startsName c then cs.takeWhile isWord
    else if c.isDigit then cs.takeWhile Char.isDigit
    else []
  | [] => []

/-- Reads a parameter and its operation after a brace. -/
def readBraces (cs : Raw) : Raw × Operation × Raw :=
  let ofLength (name : Raw) (rest : Raw) : Raw × Operation × Raw :=
    if rest.head? = some '\x7d' then (name, .length, rest) else (name, .invalid, rest)
  let ofSpecial (c : Char) (rest : Raw) : Raw × Operation × Raw :=
    let (o, after) := readOperation rest
    if isSpecial c then ([c], o, after) else ([c], .invalid, rest)
  match cs with
  | '#' :: rest =>
    let name := nameAt rest
    if name ≠ [] then ofLength name (rest.drop name.length)
    else
      match rest with
      | '\x7d' :: _ => ofSpecial '#' rest
      | c :: '\x7d' :: after =>
        if isSpecial c then ([c], .length, '\x7d' :: after) else ([c], .invalid, '\x7d' :: after)
      | _ => ofSpecial '#' rest
  | _ =>
    let name := nameAt cs
    if name ≠ [] then
      let (o, after) := readOperation (cs.drop name.length)
      (name, o, after)
    else
      match cs with
      | [] => ([], .invalid, [])
      | '\x7d' :: _ => ([], .invalid, cs)
      | c :: rest => ofSpecial c rest

/-- The context of the word behind an operation. -/
def Operation.context (o : Operation) (inQuotes : Bool) : Context :=
  match o with
  | .trim .. => .braces false
  | _ => .braces inQuotes

/-- The text between backquotes, without the backslashes that only stand before signs; none if it has
no end. -/
def backquoted? (inQuotes : Bool) : Raw → Option (Raw × Raw)
  | [] => none
  | '\x60' :: rest => some ([], rest)
  | '\\' :: c :: rest =>
    let bare := c = '\\' || c = '\x60' || c = '$' || (inQuotes && c = '"')
    (backquoted? inQuotes rest).map fun (text, rest) =>
      (if bare then c :: text else '\\' :: c :: text, rest)
  | c :: rest => (backquoted? inQuotes rest).map fun (text, rest) => (c :: text, rest)

/-- Reads commands in place of a value. The argument says whether they end at a parenthesis. -/
abbrev Inner := Bool → Parser Command

def readBackquoted (inner : Inner) (inQuotes : Bool) : Parser Piece := do
  let r ← get
  match backquoted? inQuotes r.rest with
  | none =>
    consume r.rest
    failure (rawOf "EOF in backquote substitution")
  | some (text, rest) =>
    set { r with rest := text, line := 1, back := none, pending := [] }
    let c ← inner false
    modify fun s =>
      { s with rest, line := r.line + (r.rest.take (r.rest.length - rest.length)).count '\n'
               back := r.back, pending := r.pending }
    return .output c inQuotes

/-- Reads commands in parentheses after the first of them. -/
def readOutput (inner : Inner) (inQuotes : Bool) : Parser Piece := do
  let r ← get
  set { r with back := none, pending := [] }
  let c ← inner true
  modify fun s => { s with back := r.back, pending := r.pending }
  return .output c inQuotes

/-- Reads what follows a dollar sign. -/
def readDollar (inner : Inner) (scan : Context → Parser (List Piece)) (inQuotes : Bool) :
    Parser Piece := do
  match ← peek with
  | some '(' =>
    advance
    if (← peek) = some '(' then
      advance
      return .arithmetic (← scan .arithmetic) inQuotes
    else readOutput inner inQuotes
  | some '\x7b' =>
    advance
    let _ ← peek
    let r ← get
    let (name, operation, rest) := readBraces r.rest
    consume (r.rest.take (r.rest.length - rest.length))
    let word ← scan (operation.context inQuotes)
    return .parameter name operation word inQuotes
  | some c =>
    if startsName c then
      let name ← takeJoined isWord ((← get).rest.length)
      return .parameter name .value [] inQuotes
    else if isSpecial c then
      advance
      return .parameter [c] .value [] inQuotes
    else return if inQuotes then .quoted '$' else .char '$'
  | none => return if inQuotes then .quoted '$' else .char '$'

/-- Whether a backslash in a context only takes away the meaning of a character, and does not stand for
itself. -/
def Context.escapes (ctx : Context) (c : Char) : Bool :=
  !ctx.inQuotes || c = '\\' || c = '\x60' || c = '$' || (c = '"' && ctx ≠ .document) ||
    (c = '\x7d' && (ctx = .braces true || ctx = .inner))

def readEscape (ctx : Context) : Parser (List Piece) := do
  match (← get).rest.head? with
  | none => return [.quoted '\\']
  | some c =>
    advance
    return if ctx.escapes c then [.quoted c] else [.quoted '\\', .quoted c]

/-- Reads the pieces of a word. `depth` counts the parentheses in an expression. The first argument
bounds the number of pieces. -/
def scan (inner : Inner) : Nat → Context → Nat → Parser (List Piece)
  | 0, _, _ => return []
  | fuel + 1, ctx, depth => do
    let plain (c : Char) : Piece := if ctx.inQuotes then .quoted c else .char c
    let goOn (pieces : List Piece) : Parser (List Piece) :=
      return pieces ++ (← scan inner fuel ctx depth)
    match ← peek with
    | none =>
      match ctx with
      | .word | .document => return []
      | .double | .inner | .braces true => failure (rawOf "Unterminated quoted string")
      | .braces false => failure (rawOf "Missing '\x7d'")
      | .arithmetic => failure (rawOf "Missing '))'")
    | some c =>
      if ctx = .word && endsWord c then return []
      else
        advance
        match c with
        | '\\' => goOn (← readEscape ctx)
        | '$' => goOn [← readDollar inner (fun ctx => scan inner fuel ctx 0) ctx.inQuotes]
        | '\x60' => goOn [← readBackquoted inner ctx.inQuotes]
        | '"' =>
          match ctx with
          | .double | .inner => return []
          | .document | .arithmetic => goOn [.quoted '"']
          | .word | .braces false => goOn (.quotes :: (← scan inner fuel .double 0))
          | .braces true => goOn (.quotes :: (← scan inner fuel .inner 0))
        | '\'' =>
          if ctx.inQuotes then goOn [.quoted c]
          else
            let text := (← get).rest.takeWhile (· ≠ '\'')
            if text.length = (← get).rest.length then
              consume text
              failure (rawOf "Unterminated quoted string")
            else
              consume (text ++ ['\''])
              goOn (.quotes :: text.map .quoted)
        | '\x7d' =>
          match ctx with
          | .braces _ => return []
          | _ => goOn [plain c]
        | '(' =>
          if ctx = .arithmetic then
            return .quoted '(' :: (← scan inner fuel ctx (depth + 1))
          else goOn [plain c]
        | ')' =>
          if ctx ≠ .arithmetic then goOn [plain c]
          else if 0 < depth then return .quoted ')' :: (← scan inner fuel ctx (depth - 1))
          else if (← peek) = some ')' then
            advance
            return []
          else goOn [.quoted ')']
        | c => goOn [plain c]

/-! ### Texts behind a line -/

/-- Divides lines at the first that is a mark: the text before it, and what is behind it. -/
def documentText (mark : Raw) (stripped : Bool) : List Line → Raw × List Line
  | [] => ([], [])
  | l :: rest =>
    let text := if stripped then l.text.dropWhile (· = '\t') else l.text
    if text = mark then ([], rest)
    else
      let (more, after) := documentText mark stripped rest
      (Line.whole ⟨text, l.closed⟩ '\n' ++ more, after)

def readDocuments (inner : Inner) : Parser Unit := do
  let r ← get
  set { r with pending := [] }
  for p in r.pending do
    let r ← get
    let (text, after) := documentText p.mark p.stripped (linesOf r.rest)
    let rest := after.flatMap (·.whole '\n')
    let line := r.line + (r.rest.take (r.rest.length - rest.length)).count '\n'
    let pieces ←
      if p.plain then pure (text.map Piece.quoted)
      else
        set { r with rest := text, back := none, pending := [] }
        scan inner (text.length + 1) .document 0
    modify fun s =>
      { s with rest, line, back := r.back, pending := []
               documents := (p.number, pieces) :: s.documents }

/-! ### Tokens -/

/-- The words with a meaning for the structure of commands. -/
def keywords : List String :=
  ["!", "case", "do", "done", "elif", "else", "esac", "fi", "for", "if", "in", "then", "until",
   "while", "\x7b", "\x7d"]

def plainText? (pieces : List Piece) : Option Raw :=
  pieces.mapM fun
    | .char c => some c
    | _ => none

def Token.name : Token → String
  | .ending => "end of file"
  | .newline => "newline"
  | .sign text | .keyword text => "\"" ++ text ++ "\""
  | .word _ => "word"
  | .redirection _ => "redirection"

def unexpected {α : Type} (t : Token) (expected : Option Token) : Parser α :=
  let wanted := match expected with
    | some e => rawOf " (expecting " ++ rawOf e.name ++ [')']
    | none => []
  failure ((rawOf t.name ++ rawOf " unexpected" ++ wanted).take 63)

/-- The rest without blanks and a comment at its start. The first argument bounds their number. -/
def skipBlanks : Nat → Parser Unit
  | 0 => return
  | fuel + 1 => do
    match ← peek with
    | some c =>
      if isGap c then
        advance
        skipBlanks fuel
      else if c = '#' then
        consume ((← get).rest.takeWhile (· ≠ '\n'))
      else return
    | none => return

def doubled (c : Char) : Parser Token := do
  if (← peek) = some c then
    advance
    return .sign (String.ofList [c, c])
  else return .sign (String.ofList [c])

def redirectionSign (descriptor : Option Nat) : Parser RedirectionSign := do
  let first ← peek
  advance
  let second ← peek
  if first = some '>' then
    let d := descriptor.getD 1
    match second with
    | some '>' => advance; return .file d .append
    | some '|' => advance; return .file d .overwrite
    | some '&' => advance; return .copy d
    | _ => return .file d .write
  else
    let d := descriptor.getD 0
    match second with
    | some '<' =>
      advance
      if (← peek) = some '-' then
        advance
        return .document d true
      else return .document d false
    | some '&' => advance; return .copy d
    | some '>' => advance; return .file d .readWrite
    | _ => return .file d .read

/-- Reads a word, or a redirection whose descriptor is a digit in front of its sign. -/
def wordToken (inner : Inner) : Parser Token := do
  let pieces ← scan inner ((← get).rest.length + 1) .word 0
  let next ← peek
  let descriptor : Option (Option Nat) := match pieces with
    | [] => some none
    | [.char c] => if c.isDigit then some (some (c.toNat - 48)) else none
    | _ => none
  match descriptor with
  | some d =>
    if next = some '<' || next = some '>' then return .redirection (← redirectionSign d)
    else return .word pieces
  | none => return .word pieces

def rawToken (inner : Inner) : Parser Token := do
  let r ← get
  match r.back with
  | some t =>
    set { r with back := none }
    return t
  | none =>
    skipBlanks (r.rest.length + 1)
    match ← peek with
    | none => return .ending
    | some '\n' =>
      advance
      readDocuments inner
      return .newline
    | some '(' => advance; return .sign "("
    | some ')' => advance; return .sign ")"
    | some c =>
      if c = '&' || c = '|' || c = ';' then
        advance
        doubled c
      else wordToken inner

/-- Drops ends of lines. The first argument bounds their number. -/
def skipNewlines (inner : Inner) : Nat → Token → Parser Token
  | 0, t => return t
  | fuel + 1, .newline => do skipNewlines inner fuel (← rawToken inner)
  | _, t => return t

structure Reading where
  /-- Whether ends of lines do not count. -/
  newlines : Bool
  keywords : Bool

/-- Reads a token where only signs and words count. -/
def Reading.plain : Reading := ⟨false, false⟩

/-- Reads a token where a command can start. -/
def Reading.command : Reading := ⟨true, true⟩

def token (inner : Inner) (how : Reading) : Parser Token := do
  let t ← rawToken inner
  let t ← if how.newlines then skipNewlines inner ((← get).rest.length + 1) t else pure t
  match t with
  | .word pieces =>
    match plainText? pieces with
    | some text =>
      let name := String.ofList text
      return if how.keywords && keywords.contains name then .keyword name else t
    | none => return t
  | t => return t

def pushBack (t : Token) : Parser Unit :=
  modify fun r => { r with back := some t }

def Token.is (t : Token) (text : String) : Bool :=
  match t with
  | .sign s | .keyword s => s = text
  | _ => false

def expectKeyword (inner : Inner) (how : Reading) (name : String) : Parser Unit := do
  let t ← token inner how
  if t.is name then return else unexpected t (some (.keyword name))

/-! ### Simple commands -/

/-- The variable and the value of a word that is an assignment. -/
def assignment? (pieces : List Piece) : Option (Raw × List Piece) :=
  let name := pieces.takeWhile fun
    | .char c => c ≠ '='
    | _ => false
  match plainText? name, pieces.drop name.length with
  | some text, .char '=' :: value => if isName text then some (text, value) else none
  | _, _ => none

def markText (pieces : List Piece) : Raw :=
  pieces.flatMap fun
    | .char c | .quoted c => [c]
    | .parameter name _ _ _ => '$' :: name
    | _ => []

/-- Whether nothing of a word stands in quotes. -/
def isUnquoted (pieces : List Piece) : Bool :=
  pieces.all fun
    | .quotes | .quoted _ => false
    | _ => true

/-- Reads the name behind the sign of a redirection. -/
def redirection (inner : Inner) (sign : RedirectionSign) : Parser Redirection := do
  match ← token inner .plain with
  | .word pieces =>
    match sign with
    | .file d opening => return .file d opening pieces
    | .copy d => return .copy d pieces
    | .document d stripped =>
      let r ← get
      let p : Pending := ⟨r.nextDocument, markText pieces, stripped, !isUnquoted pieces⟩
      set { r with pending := r.pending ++ [p], nextDocument := r.nextDocument + 1 }
      return .document d p.number
  | t => unexpected t none

/-- Reads redirections. The first argument bounds their number. -/
def redirections (inner : Inner) : Nat → Reading → Parser (List Redirection)
  | 0, _ => return []
  | fuel + 1, how => do
    match ← token inner how with
    | .redirection sign =>
      let r ← redirection inner sign
      return r :: (← redirections inner fuel .plain)
    | t =>
      pushBack t
      return []

structure Parts where
  assignments : List (Raw × List Piece)
  words : List (List Piece)
  redirections : List Redirection

/-- The commands of the shell that no function can be called like. -/
def specialNames : List String :=
  [".", ":", "break", "continue", "eval", "exec", "exit", "export", "local", "readonly", "return",
   "set", "shift", "times", "trap", "unset"]

/-- Reads the words of a simple command. A word with parentheses behind it is the name of a function
with the body that follows. The number bounds the number of tokens. -/
def simple (inner : Inner) (body : Parser Command) (line : Nat) : Nat → Parts → Parser Command
  | 0, _ => return .nothing
  | fuel + 1, p => do
    let finish : Parser Command := return .simple line p.assignments p.words p.redirections
    match ← token inner .plain with
    | .word pieces =>
      match p.words, assignment? pieces with
      | [], some a => simple inner body line fuel { p with assignments := p.assignments ++ [a] }
      | _, _ => simple inner body line fuel { p with words := p.words ++ [pieces] }
    | .redirection sign =>
      let r ← redirection inner sign
      simple inner body line fuel { p with redirections := p.redirections ++ [r] }
    | t =>
      match p.words, p.assignments, p.redirections, t.is "(" with
      | [name], [], [], true =>
        let t ← token inner .plain
        if t.is ")" then
          match plainText? name with
          | some name =>
            if isName name && !specialNames.contains (String.ofList name) then
              let line := (← get).line
              return .function name line (← body)
            else failure (rawOf "Bad function name")
          | none => failure (rawOf "Bad function name")
        else unexpected t (some (.sign ")"))
      | _, _, _, _ =>
        pushBack t
        finish

/-! ### Compound commands -/

inductive Goal
  /-- Commands up to a word that ends them; there has to be one if the flag is not set. -/
  | list (mayBeEmpty : Bool)
  /-- One command, which may stand in a later line. -/
  | command

def Token.endsList : Token → Bool
  | .ending => true
  | .sign text => text = ")" || text = ";;"
  | .keyword name => ["do", "done", "elif", "else", "esac", "fi", "then", "\x7d"].contains name
  | _ => false

/-- Reads the words of a loop. The first argument bounds their number. -/
def loopWords (inner : Inner) : Nat → Parser (List (List Piece))
  | 0 => return []
  | fuel + 1 => do
    match ← token inner .plain with
    | .word pieces => return pieces :: (← loopWords inner fuel)
    | t =>
      match t with
      | .newline => return []
      | _ => if t.is ";" then return [] else unexpected t none

/-- Reads the patterns of a case, the first of which is a token that was read. The first argument
bounds their number. -/
def casePatterns (inner : Inner) : Nat → Token → Parser (List (List Piece))
  | 0, _ => return []
  | fuel + 1, t => do
    let pieces := match t with
      | .word pieces => pieces
      | _ => []
    let t ← token inner .plain
    if t.is "|" then return pieces :: (← casePatterns inner fuel (← token inner .plain))
    else if t.is ")" then return [pieces]
    else unexpected t (some (.sign ")"))

/-- Reads the cases of a choice. The first argument bounds their number. -/
def cases (inner : Inner) (self : Goal → Parser Command) :
    Nat → Parser (List (List (List Piece) × Command))
  | 0 => return []
  | fuel + 1 => do
    let t ← token inner .command
    if t.is "esac" then return []
    else
      let t ← if t.is "(" then token inner .plain else pure t
      let t : Token := match t with
        | .keyword name => .word (name.toList.map .char)
        | t => t
      let patterns ← casePatterns inner ((← get).rest.length + 1) t
      let body ← self (.list true)
      let t ← token inner .command
      if t.is "esac" then return [(patterns, body)]
      else if t.is ";;" then return (patterns, body) :: (← cases inner self fuel)
      else unexpected t (some (.sign ";;"))

/-- Reads the rest of a condition after its first word. The first argument bounds the number of its
branches. -/
def branches (inner : Inner) (self : Goal → Parser Command) : Nat → Parser Command
  | 0 => return .nothing
  | fuel + 1 => do
    let test ← self (.list false)
    expectKeyword inner .plain "then"
    let body ← self (.list false)
    let t ← token inner .plain
    if t.is "elif" then return .conditional test body (some (← branches inner self fuel))
    else if t.is "else" then return .conditional test body (some (← self (.list false)))
    else
      pushBack t
      return .conditional test body none

/-- Reads a compound command after its first token, with the word that ends it; none if the token
starts none. -/
def compound? (inner : Inner) (self : Goal → Parser Command) (line : Nat) (t : Token) :
    Parser (Option Command) := do
  let upTo (name : String) (c : Command) : Parser (Option Command) := do
    expectKeyword inner .plain name
    return some c
  let size := (← get).rest.length + 1
  match t with
  | .keyword "if" => upTo "fi" (← branches inner self size)
  | .keyword "while" | .keyword "until" =>
    let test ← self (.list false)
    expectKeyword inner .plain "do"
    let body ← self (.list false)
    upTo "done" (.loop (t.is "until") test body)
  | .keyword "for" =>
    let name ← (do match ← token inner .plain with
      | .word pieces =>
        match plainText? pieces with
        | some name => if isName name then return name else failure (rawOf "Bad for loop variable")
        | none => failure (rawOf "Bad for loop variable")
      | _ => failure (rawOf "Bad for loop variable") : Parser Raw)
    let t ← token inner .command
    let words ←
      if t.is "in" then loopWords inner size
      else
        if !t.is ";" then pushBack t
        pure [[Piece.quotes, Piece.parameter ['@'] .value [] true]]
    expectKeyword inner .command "do"
    let body ← self (.list false)
    upTo "done" (.each line name words body)
  | .keyword "case" =>
    match ← token inner .plain with
    | .word pieces =>
      expectKeyword inner .command "in"
      return some (.choice line pieces (← cases inner self size))
    | t => unexpected t (some (.word []))
  | .keyword "\x7b" => upTo "\x7d" (← self (.list false))
  | .sign "(" =>
    let c ← self (.list false)
    let t ← token inner .plain
    if t.is ")" then return some (.subshell line c []) else unexpected t (some (.sign ")"))
  | _ => return none

def command (inner : Inner) (self : Goal → Parser Command) (how : Reading) : Parser Command := do
  let t ← token inner how
  let line := (← get).line
  match ← compound? inner self line t with
  | some c =>
    let rs ← redirections inner ((← get).rest.length + 1) ⟨false, true⟩
    return match c, rs with
      | c, [] => c
      | .subshell line c _, rs => .subshell line c rs
      | c, rs => .redirected line c rs
  | none =>
    match t with
    | .word _ | .redirection _ =>
      pushBack t
      simple inner (self .command) line ((← get).rest.length + 2) ⟨[], [], []⟩
    | t => unexpected t none

/-- Reads the further stages of a pipeline. The first argument bounds their number. -/
def stages (inner : Inner) (self : Goal → Parser Command) : Nat → Parser (List Command)
  | 0 => return []
  | fuel + 1 => do
    let t ← token inner .plain
    if t.is "|" then
      let c ← command inner self .command
      return c :: (← stages inner self fuel)
    else
      pushBack t
      return []

def pipeline (inner : Inner) (self : Goal → Parser Command) (how : Reading) : Parser Command := do
  let t ← token inner how
  let negated := t.is "!"
  if !negated then pushBack t
  let first ← command inner self (if negated then ⟨false, true⟩ else .plain)
  let more ← stages inner self ((← get).rest.length + 1)
  let c := if more.isEmpty then first else .pipeline (first :: more)
  return if negated then .negated c else c

/-- Reads the further parts of a command that depend on the success of those before. The first argument
bounds their number. -/
def andOr (inner : Inner) (self : Goal → Parser Command) : Nat → Command → Parser Command
  | 0, c => return c
  | fuel + 1, c => do
    let t ← token inner .plain
    if t.is "&&" then andOr inner self fuel (.both c (← pipeline inner self .command))
    else if t.is "||" then andOr inner self fuel (.either c (← pipeline inner self .command))
    else
      pushBack t
      return c

def Command.andThen (a : Option Command) (b : Command) : Command :=
  match a with
  | some a => .sequence a b
  | none => b

/-- Reads commands. At the top they end with the line; else they end before a token that ends commands.
The first argument bounds their number. -/
def commandList (inner : Inner) (self : Goal → Parser Command) (top : Bool) :
    Nat → Bool → Option Command → Parser (Option Command)
  | 0, _, before => return before
  | fuel + 1, mayEnd, before => do
    match ← token inner ⟨!top, true⟩ with
    | .newline => return before
    | .ending =>
      readDocuments inner
      pushBack .ending
      return before
    | t =>
      pushBack t
      if mayEnd && !top && t.endsList then return before
      else
        let first ← pipeline inner self .plain
        let c ← andOr inner self ((← get).rest.length + 1) first
        let t ← token inner .plain
        let c := if t.is "&" then .background c else c
        let all := Command.andThen before c
        match t with
        | .ending =>
          readDocuments inner
          pushBack t
          return some all
        | .newline =>
          pushBack t
          commandList inner self top fuel true (some all)
        | t =>
          if t.is "&" || t.is ";" then commandList inner self top fuel true (some all)
          else if top then unexpected t none
          else
            pushBack t
            return some all

/-- Reads commands in place of a value with a reader of commands. -/
def innerOf (self : Goal → Parser Command) : Inner := fun inParentheses => do
  let c ← self (.list true)
  if inParentheses then
    let t ← token (fun _ => self (.list true)) .plain
    if t.is ")" then return c else unexpected t (some (.sign ")"))
  else return c

/-- Reads what a goal asks for. The first argument bounds the depth. -/
def parse : Nat → Goal → Parser Command
  | 0, _ => failure (rawOf "too deep")
  | fuel + 1, goal => do
    let self := parse fuel
    match goal with
    | .list mayBeEmpty =>
      let found ← commandList (innerOf self) self false ((← get).rest.length + 2) mayBeEmpty none
      return found.getD .nothing
    | .command => command (innerOf self) self .command

def depthLimit : Nat := 1000

/-- Reads the commands of a line; none if the script is at its end. -/
def nextCommand : Parser (Option Command) := do
  let self := parse depthLimit
  modify fun r => { r with back := none }
  let found ← commandList (innerOf self) self true ((← get).rest.length + 2) false none
  match found, (← get).rest with
  | none, [] => return none
  | found, _ => return some (found.getD .nothing)

end TextChain.Tool.Shell
