import TextChain.Tool.Shell.Arithmetic
import TextChain.Tool.Shell.Fields

/-!
# Putting values into words

The values of parameters, the output of commands and the values of expressions are put into words.
Commands for output run in a shell of their own, which shares only its streams and files with the one
that waits for them.
-/

namespace TextChain.Tool.Shell

structure Engine where
  /-- Runs a command; the flag says that a failure does not end the shell. -/
  run : Command → Bool → Action Unit
  text : Raw → Action Unit
  start : Raw → Invocation → Except FileError Outcome

/-! ### Shells of their own -/

/-- Runs the commands that were set for the end of the shell. -/
def atEnd (e : Engine) : Action Unit := do
  let s ← get
  match s.traps.lookup 0 with
  | none => return
  | some text =>
    set { s with traps := s.traps.filter (·.1 ≠ 0), loops := 0, lastStatus := some s.status }
    try
      e.text text
      setStatus s.status
    catch
      | .exit => return
      | .killed signal => throw (.killed signal)
      | _ => setStatus s.status

/-- Runs an action to its end, however it ends. -/
def completely (e : Engine) (action : Action Unit) : Action Unit := do
  try action
  catch
    | .killed signal => throw (.killed signal)
    | _ => pure ()
  atEnd e

/-- The number of statuses that the end of a shell can have. -/
def statusCount : Nat := 256

/-- Runs an action in a shell of its own. Its status is left. -/
def isolated (e : Engine) (action : Action Unit) : Action Unit := do
  let s ← get
  set { s with traps := s.traps.filter (·.2 = []) }
  completely e action
  modify fun after =>
    { s with streams := after.streams, tree := after.tree, status := after.status % statusCount }

/-- The text that an action writes to its output in a shell of its own. The status of the action is
left. -/
def outputOf (e : Engine) (action : Action Unit) : Action Raw := do
  let n := (← get).streams.size
  isolated e do
    modify fun s => s.attach 1 (.collector [])
    action
  return (← get).collected n

/-! ### Expressions -/

/-- Gives up with a message about an expression. -/
def giveUpIn {α : Type} (text : Raw) (reason : String) : Action α :=
  giveUp (rawOf "arithmetic expression: " ++ rawOf reason ++ rawOf ": \"" ++ text ++ ['"'])

/-- The number that a text is; none if it is no number. -/
def wholeNumber? (cs : Raw) : Option Int :=
  let bare := cs.dropWhile isSpace
  let (negative, digits) := match bare with
    | '-' :: rest => (true, rest)
    | '+' :: rest => (false, rest)
    | rest => (false, rest)
  if (digits.head?.map Char.isDigit).getD false then
    let (n, rest) := readNumber digits
    if rest.all isSpace then some (if negative then -n else n) else none
  else none

def variableNumber (name : Raw) : Action Int := do
  let value := ((← get).value? name).getD []
  if value.all isSpace then return 0
  else
    match wholeNumber? value with
    | some n => return n
    | none => giveUp (rawOf "Illegal number: " ++ value)

def numberText (n : Int) : Raw :=
  rawOf (toString n)

/-- The value of an expression, whose text is known for messages. Of an expression that is skipped
only the faults count. -/
def evaluate (text : Raw) : Bool → Expression → Action Int
  | _, .number n => return n
  | skipped, .variableValue name => if skipped then return 0 else variableNumber name
  | skipped, .negated a => return wrap64 (-(← evaluate text skipped a))
  | skipped, .complement a => return -(← evaluate text skipped a) - 1
  | skipped, .not a => return if (← evaluate text skipped a) = 0 then 1 else 0
  | skipped, .binary o a b => do
    let m ← evaluate text skipped a
    let n ← evaluate text skipped b
    if skipped then return n
    else apply o m n
  | skipped, .both a b => do
    let m ← evaluate text skipped a
    let n ← evaluate text (skipped || m = 0) b
    return if m ≠ 0 && n ≠ 0 then 1 else 0
  | skipped, .either a b => do
    let m ← evaluate text skipped a
    let n ← evaluate text (skipped || m ≠ 0) b
    return if m ≠ 0 || n ≠ 0 then 1 else 0
  | skipped, .choice test a b => do
    let t ← evaluate text skipped test
    let m ← evaluate text (skipped || t = 0) a
    let n ← evaluate text (skipped || t ≠ 0) b
    return if t ≠ 0 then m else n
  | skipped, .assign name o a => do
    let n ← evaluate text skipped a
    if skipped then return n
    else
      let value ← match o with
        | none => pure n
        | some o => do apply o (← variableNumber name) n
      assign name (numberText value) false
      return value
  | _, .fault reason => giveUpIn text reason
  | skipped, .faultAfter a reason => do
    let _ ← evaluate text skipped a
    giveUpIn text reason
where
  /-- The value of an operator on two numbers. -/
  apply (o : String) (m n : Int) : Action Int := do
    match applyOperator o m n with
    | some v => return v
    | none => giveUpIn text "division by zero"

def arithmetic (text : Raw) : Action Int :=
  evaluate text false (expressionOf text)

/-! ### Values -/

/-- The glyphs of a parameter. -/
def State.glyphsOfParameter (s : State) (name : Raw) (inQuotes : Bool) : List Glyph :=
  let mark : Mark := if inQuotes then .quoted else .expanded
  match s.parameter name with
  | .missing => []
  | .one value => glyphsOf mark value
  | .all values =>
    if inQuotes && name = ['*'] then glyphsOf mark (s.joint.intercalate values)
    else boundGlyphs mark values

/-- The text of a parameter; none if it has no value. -/
def State.textOfParameter? (s : State) (name : Raw) : Option Raw :=
  match s.parameter name with
  | .missing => none
  | .one value => some value
  | .all values => some (s.joint.intercalate values)

/-- Whether an operation needs a value when missing ones are faults. -/
def Operation.needsValue : Operation → Bool
  | .value | .length | .trim .. => true
  | _ => false

/-- Whether an operation takes an empty value for a missing one. -/
def Operation.orEmpty : Operation → Bool
  | .orElse b | .instead b | .demand b | .assign b => b
  | _ => false

/-- Glyphs that are put in outside of quotes. -/
def spread (inQuotes : Bool) (gs : List Glyph) : List Glyph :=
  if inQuotes then gs
  else gs.map fun
    | .char c .plain => .char c .expanded
    | g => g

/-- The glyphs for a parameter with an operation, whose word can be expanded. -/
def parameterGlyphs (word : Action (List Glyph)) (hasWord : Bool) (name : Raw)
    (operation : Operation) (inQuotes : Bool) : Action (List Glyph) := do
  let s ← get
  let text? := s.textOfParameter? name
  let missing := match text? with
    | none => true
    | some text => operation.orEmpty && text = []
  let mark : Mark := if inQuotes then .quoted else .expanded
  let value := s.glyphsOfParameter name inQuotes
  if operation = .invalid then giveUp (rawOf "Bad substitution")
  else if text? = none && operation.needsValue && s.options.contains 'u' then
    giveUpAt name "parameter not set"
  else
    match operation with
    | .value | .invalid => return value
    | .length => return glyphsOf mark (rawOf (toString (text?.getD []).length))
    | .orElse _ => if missing then return spread inQuotes (← word) else return value
    | .instead _ => if missing then return [] else return spread inQuotes (← word)
    | .demand orEmpty =>
      if !missing then return value
      else if hasWord then
        let gs ← word
        giveUp (name ++ rawOf ": " ++ s.plainOf gs)
      else giveUpAt name (if orEmpty then "parameter not set or null" else "parameter not set")
    | .assign _ =>
      if !missing then return value
      else
        let gs ← word
        if !isName name then giveUpAt name "bad variable name"
        else
          assign name ((← get).plainOf gs) false
          return (← get).glyphsOfParameter name inQuotes
    | .trim fromEnd longest =>
      if text? = none then return []
      else
        let gs ← word
        return trimGlyphs fromEnd longest (wildOf (markedOf s.joint gs)) value

/-- Lines of output without the ends of the last ones. -/
def withoutLastEnds (cs : Raw) : Raw :=
  (cs.reverse.dropWhile (· = '\n')).reverse

/-- The glyphs for the output of a command. The status of the shell stays. -/
def outputGlyphs (e : Engine) (c : Command) (inQuotes : Bool) : Action (List Glyph) := do
  let status := (← get).status
  let text ← outputOf e (e.run c false)
  modify fun s => { s with outputStatus := s.status, status }
  return glyphsOf (if inQuotes then .quoted else .expanded)
    (withoutLastEnds (text.filter (· ≠ '\x00')))

/-! ### Words -/

/-- Leaves out the quotes around all positional parameters, so that no parameters give no word. -/
def bareParameters : List Piece → List Piece
  | .quotes :: .parameter ['@'] .value w true :: rest =>
    let alone := match rest with
      | [] | .quotes :: _ | .char _ :: _ => true
      | .parameter _ _ _ inQuotes :: _ | .output _ inQuotes :: _ | .arithmetic _ inQuotes :: _ =>
        !inQuotes
      | .quoted _ :: _ => false
    if alone then .parameter ['@'] .value w true :: bareParameters rest
    else .quotes :: .parameter ['@'] .value w true :: bareParameters rest
  | p :: rest => p :: bareParameters rest
  | [] => []

/-- Puts the home directory in for a tilde at the start of a path. In an assignment a colon ends a
path, too. -/
def homePieces (home : Option Raw) (inAssignment : Bool) : Bool → List Piece → List Piece
  | _, [] => []
  | true, .char '~' :: rest =>
    let ended := match rest with
      | [] | .char '/' :: _ => true
      | .char ':' :: _ => inAssignment
      | _ => false
    match home with
    | some directory =>
      if ended then directory.map .quoted ++ homePieces home inAssignment false rest
      else .char '~' :: homePieces home inAssignment false rest
    | none => .char '~' :: homePieces home inAssignment false rest
  | _, .char ':' :: rest => .char ':' :: homePieces home inAssignment inAssignment rest
  | _, p :: rest => p :: homePieces home inAssignment false rest

/-- Puts values into the pieces of a word. The first argument bounds the depth. -/
def expandPieces (e : Engine) : Nat → List Piece → Action (List Glyph)
  | 0, _ => return []
  | fuel + 1, pieces => do
    let parts ← (bareParameters pieces).mapM fun
      | .char c => return [Glyph.char c .plain]
      | .quoted c => return [.char c .quoted]
      | .quotes => return [.presence]
      | .parameter name operation word inQuotes =>
        parameterGlyphs (expandPieces e fuel word) (!word.isEmpty) name operation inQuotes
      | .output c inQuotes => outputGlyphs e c inQuotes
      | .arithmetic text inQuotes => do
        let gs ← expandPieces e fuel text
        let n ← arithmetic ((← get).plainOf gs)
        return glyphsOf (if inQuotes then .quoted else .expanded) (numberText n)
    return parts.flatten

def wordDepth : Nat := 1000

def expandWord (e : Engine) (inAssignment : Bool) (pieces : List Piece) : Action (List Glyph) := do
  let home := (← get).value? (rawOf "HOME")
  expandPieces e wordDepth (homePieces home inAssignment true pieces)

/-- The words that a word of a command stands for. -/
def expandFields (e : Engine) (pieces : List Piece) : Action (List Raw) := do
  let gs ← expandWord e false pieces
  return (← get).wordsOf gs

/-- The text of a word that is not divided. -/
def expandText (e : Engine) (inAssignment : Bool) (pieces : List Piece) : Action Raw := do
  let gs ← expandWord e inAssignment pieces
  return (← get).plainOf gs

def expandPattern (e : Engine) (pieces : List Piece) : Action (List Wild) := do
  let gs ← expandWord e false pieces
  return wildOf (markedOf (← get).joint gs)

/-- The text of lines that stand in the script. -/
def expandDocument (e : Engine) (number : Nat) : Action Raw := do
  let gs ← expandPieces e wordDepth (((← get).documents.lookup number).getD [])
  return (← get).plainOf gs

end TextChain.Tool.Shell
