import TextChain.Toml.Scalar
import TextChain.Toml.Table
import TextChain.Toml.Token

/-!
# TOML statements

The headers and pairs of a TOML text in their order, before they are put together to tables. The reader
walks over the tokens once, with the open lists and inline tables on a stack.
-/

namespace TextChain.Toml

/-! ### Statements -/

inductive Statement
  | table (path : List String)
  /-- The header of another table of a list of tables. -/
  | item (path : List String)
  /-- An entry of the table of the last header. -/
  | pair (path : List String) (value : Setting)

/-- What a key is read for. -/
inductive Purpose
  /-- A header; one for a table of a list has two brackets on each side. -/
  | header (double : Bool)
  | statement
  /-- A pair of an inline table after others, which stand in reverse order. -/
  | member (pairs : List (List String × Setting))

/-- An open place for a value. What was read before it stands in reverse order. -/
inductive Frame
  | statement (path : List String)
  | list (items : List Setting)
  | member (pairs : List (List String × Setting)) (path : List String)

/-- Where in a text the reader is. Paths stand in reverse order. -/
inductive State
  /-- A statement is due. -/
  | between
  /-- A bracket that starts a header was read. -/
  | bracket
  /-- A part of a key is due; an inline table that was just opened may also close. -/
  | part (purpose : Purpose) (path : List String) (frames : List Frame) (opened : Bool)
  /-- A part of a key was read. -/
  | key (purpose : Purpose) (path : List String) (frames : List Frame)
  /-- The second bracket at the end of a header is due. -/
  | closing (path : List String)
  /-- Nothing is due but the end of the line. -/
  | ended
  | value (frames : List Frame)
  /-- A word of a value is being read. -/
  | word (cs : List Char) (frames : List Frame)
  | done (value : Setting) (frames : List Frame)

/-- How many parts a key may have, and how many lists and inline tables may stand inside each other. -/
def nestingLimit : Nat := 79

/-- Where the reader is after a part of a key. -/
def State.afterPart? (purpose : Purpose) (path : List String) (frames : List Frame)
    (part : String) : Option State :=
  if path.length < nestingLimit then some (.key purpose (part :: path) frames) else none

/-- Where the reader is after the start of a list or an inline table. -/
def State.opening? (frames : List Frame) (next : State) : Option State :=
  if frames.length ≤ nestingLimit then some next else none

/-- What a token does after a value, with the statement that it ends. -/
def State.afterValue? (v : Setting) (frames : List Frame) (token : Token) :
    Option (State × List Statement) :=
  match frames, token with
  | frames, .blank => some (.done v frames, [])
  | [.statement path], .newline => some (.between, [.pair path.reverse v])
  | .list items :: frames, .newline => some (.done v (.list items :: frames), [])
  | .list items :: frames, .comma => some (.value (.list (v :: items) :: frames), [])
  | .list items :: frames, .closeBracket =>
    some (.done (.list (v :: items).reverse) frames, [])
  | .member pairs path :: frames, .comma =>
    some (.part (.member ((path.reverse, v) :: pairs)) [] frames false, [])
  | .member pairs path :: frames, .closeBrace => do
    let table ← inlineTable? ((path.reverse, v) :: pairs).reverse
    some (.done table frames, [])
  | _, _ => none

/-- What a token does to the state of the reader, with the statement that it ends. -/
def State.step? (state : State) (token : Token) : Option (State × List Statement) :=
  match state, token with
  | .between, .blank | .between, .newline => some (.between, [])
  | .between, .openBracket => some (.bracket, [])
  | .between, .word cs =>
    if cs.all isKeyChar then some (.key .statement [String.ofList cs] [], []) else none
  | .between, .quoted text => some (.key .statement [text] [], [])
  | .bracket, .openBracket => some (.part (.header true) [] [] false, [])
  | .bracket, .blank => some (.part (.header false) [] [] false, [])
  | .bracket, .word cs =>
    if cs.all isKeyChar then some (.key (.header false) [String.ofList cs] [], []) else none
  | .bracket, .quoted text => some (.key (.header false) [text] [], [])
  | .part purpose path frames opened, .blank => some (.part purpose path frames opened, [])
  | .part purpose path frames _, .word cs =>
    if cs.all isKeyChar then
      (afterPart? purpose path frames (String.ofList cs)).map fun next => (next, [])
    else none
  | .part purpose path frames _, .quoted text =>
    (afterPart? purpose path frames text).map fun next => (next, [])
  | .part _ _ frames true, .closeBrace => some (.done (.table []) frames, [])
  | .key purpose path frames, .blank => some (.key purpose path frames, [])
  | .key purpose path frames, .point => some (.part purpose path frames false, [])
  | .key .statement path _, .equals => some (.value [.statement path], [])
  | .key (.member pairs) path frames, .equals => some (.value (.member pairs path :: frames), [])
  | .key (.header false) path _, .closeBracket => some (.ended, [.table path.reverse])
  | .key (.header true) path _, .closeBracket => some (.closing path, [])
  | .closing path, .closeBracket => some (.ended, [.item path.reverse])
  | .ended, .blank => some (.ended, [])
  | .ended, .newline => some (.between, [])
  | .value frames, .blank => some (.value frames, [])
  | .value (.list items :: frames), .newline => some (.value (.list items :: frames), [])
  | .value frames, .quoted text | .value frames, .value text => some (.done (.text text) frames, [])
  | .value frames, .word cs => some (.word cs frames, [])
  | .value frames, .openBracket =>
    (opening? frames (.value (.list [] :: frames))).map fun next => (next, [])
  | .value frames, .openBrace =>
    (opening? frames (.part (.member []) [] frames true)).map fun next => (next, [])
  | .value (.list items :: frames), .closeBracket => some (.done (.list items.reverse) frames, [])
  | .word cs frames, .word more => some (.word (cs ++ more) frames, [])
  | .word cs frames, .point => some (.word (cs ++ ['.']) frames, [])
  | .word cs frames, token => do afterValue? (← scalar? cs) frames token
  | .done v frames, token => afterValue? v frames token
  | _, _ => none

/-- Reads tokens from a state on, until the text ends between two statements. -/
def statementsFrom? (state : State) : List Token → Option (List Statement)
  | [] =>
    match state with
    | .between => some []
    | _ => none
  | token :: rest => do
    let (next, found) ← state.step? token
    let later ← statementsFrom? next rest
    some (found ++ later)

/-- The statements of a TOML text. The end of the text also ends its last line. -/
def statements? (text : String) : Option (List Statement) := do
  let tokens ← tokens? text.toList
  statementsFrom? .between (tokens ++ [.newline])

end TextChain.Toml
