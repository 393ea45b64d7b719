import TextChain.Tool.Raw

/-!
# Expressions of whole numbers

Expressions with the operators of shells, on numbers of 64 bits. An expression that is not well formed
has a fault at the place where that shows, so that what stands before it is computed first.
-/

namespace TextChain.Tool.Shell

inductive Expression
  | number (n : Int)
  | variableValue (name : Raw)
  | negated (e : Expression)
  | complement (e : Expression)
  | not (e : Expression)
  | binary (operator : String) (a b : Expression)
  | both (a b : Expression)
  | either (a b : Expression)
  | choice (test a b : Expression)
  /-- Assigns a value, or a value that is joined with the one before. -/
  | assign (name : Raw) (operator : Option String) (e : Expression)
  | fault (reason : String)
  | faultAfter (e : Expression) (reason : String)

inductive ExpressionToken
  | number (n : Int)
  | name (name : Raw)
  | operator (text : String)
  | unknown
deriving DecidableEq

/-- The operators, longer ones first. -/
def operators : List String :=
  ["<<=", ">>=", "&&", "||", "==", "!=", "<=", ">=", "<<", ">>", "+=", "-=", "*=", "/=", "%=", "&=",
   "^=", "|=", "(", ")", "+", "-", "*", "/", "%", "<", ">", "&", "|", "^", "!", "~", "=", "?", ":"]

/-- The number in 64 bits with the lowest digits of a number. -/
def wrap64 (n : Int) : Int :=
  Int.bmod n 0x10000000000000000

/-- Reads a number in decimal, octal or hexadecimal digits, and the rest. -/
def readNumber (cs : Raw) : Int × Raw :=
  let isHex := match cs with
    | '0' :: x :: d :: _ => (x = 'x' || x = 'X') && (digit? 16 d).isSome
    | _ => false
  let (digits, rest, base) :=
    if isHex then
      let (digits, rest) := takeDigits 16 cs.length (cs.drop 2)
      (digits, rest, 16)
    else
      let base := if cs.head? = some '0' then 8 else 10
      let (digits, rest) := takeDigits base cs.length cs
      (digits, rest, base)
  (min (ofDigits base digits) 0x7FFFFFFFFFFFFFFF, rest)

/-- The tokens of an expression. The first argument bounds their number. -/
def expressionTokens : Nat → Raw → List ExpressionToken
  | 0, _ => []
  | _, [] => []
  | fuel + 1, c :: cs =>
    let text := c :: cs
    if isSpace c then expressionTokens fuel cs
    else if c.isDigit then
      let (n, rest) := readNumber text
      .number n :: expressionTokens fuel rest
    else if c.isAlpha || c = '_' then
      .name (text.takeWhile isWord) :: expressionTokens fuel (text.dropWhile isWord)
    else
      match operators.find? fun o => o.toList.isPrefixOf text with
      | some o => .operator o :: expressionTokens fuel (text.drop o.length)
      | none => [.unknown]

/-- A reader of expressions. Behind a fault nothing is read. -/
abbrev ExpressionReader := List ExpressionToken → Expression × List ExpressionToken

/-- Reads the smallest part of an expression. The first argument bounds the number of signs before
it. -/
def readPrimary (self : ExpressionReader) : Nat → ExpressionReader
  | 0, _ => (.fault "expecting primary", [])
  | fuel + 1, ts =>
    let signed (sign : Expression → Expression) (rest : List ExpressionToken) :
        Expression × List ExpressionToken :=
      let (e, rest) := readPrimary self fuel rest
      (sign e, rest)
    match ts with
    | .number n :: rest => (.number n, rest)
    | .name name :: rest => (.variableValue name, rest)
    | .operator "(" :: rest =>
      let (e, rest) := self rest
      match rest with
      | .operator ")" :: rest => (e, rest)
      | _ => (.faultAfter e "expecting ')'", [])
    | .operator "+" :: rest => readPrimary self fuel rest
    | .operator "-" :: rest => signed .negated rest
    | .operator "!" :: rest => signed .not rest
    | .operator "~" :: rest => signed .complement rest
    | _ => (.fault "expecting primary", [])

/-- The operators with two sides, those that bind least first. -/
def operatorLevels : List (List String) :=
  [["|"], ["^"], ["&"], ["==", "!="], ["<", ">", "<=", ">="], ["<<", ">>"], ["+", "-"],
   ["*", "/", "%"]]

/-- Reads the further operands of a level. The first argument bounds their number. -/
def readOperands (level : List String) (operand : ExpressionReader) :
    Nat → Expression → ExpressionReader
  | 0, e, ts => (e, ts)
  | fuel + 1, e, ts =>
    match ts with
    | .operator o :: rest =>
      if level.contains o then
        let (b, rest) := operand rest
        readOperands level operand fuel (.binary o e b) rest
      else (e, ts)
    | _ => (e, ts)

/-- Reads an expression of some levels of operators. -/
def readLevels (operand : ExpressionReader) : List (List String) → ExpressionReader
  | [], ts => operand ts
  | level :: levels, ts =>
    let (e, rest) := readLevels operand levels ts
    readOperands level (readLevels operand levels) rest.length e rest

/-- Reads conditions that are joined by an operator. The first argument bounds their number. -/
def readJoined (sign : String) (join : Expression → Expression → Expression)
    (operand : ExpressionReader) : Nat → ExpressionReader
  | 0, ts => operand ts
  | fuel + 1, ts =>
    let (a, rest) := operand ts
    match rest with
    | .operator o :: after =>
      if o = sign then
        let (b, rest) := readJoined sign join operand fuel after
        (join a b, rest)
      else (a, rest)
    | rest => (a, rest)

/-- Reads a choice. The first argument bounds the number of choices. -/
def readChoice (self : ExpressionReader) : Nat → ExpressionReader
  | 0, _ => (.fault "expecting primary", [])
  | fuel + 1, ts =>
    let operand : ExpressionReader := readLevels (readPrimary self (ts.length + 1)) operatorLevels
    let both : ExpressionReader := readJoined "&&" .both operand ts.length
    let (test, rest) := readJoined "||" .either both ts.length ts
    match rest with
    | .operator "?" :: rest =>
      let (a, rest) := self rest
      match rest with
      | .operator ":" :: rest =>
        let (b, rest) := readChoice self fuel rest
        (.choice test a b, rest)
      | _ => (.choice test a (.fault "expecting ':'"), [])
    | rest => (test, rest)

/-- The operator that an assignment joins values with; none if it is no assignment. -/
def joinedAssignment? (o : String) : Option (Option String) :=
  if o = "=" then some none
  else if ["+=", "-=", "*=", "/=", "%=", "&=", "^=", "|=", "<<=", ">>="].contains o then
    some (some (String.ofList o.toList.dropLast))
  else none

/-- Reads an assignment or a choice. The first argument bounds the depth. -/
def readExpression : Nat → ExpressionReader
  | 0, _ => (.fault "expecting primary", [])
  | fuel + 1, ts =>
    match ts with
    | .name name :: .operator o :: rest =>
      match joinedAssignment? o with
      | some joined =>
        let (e, rest) := readExpression fuel rest
        (.assign name joined e, rest)
      | none => readChoice (readExpression fuel) (ts.length + 1) ts
    | _ => readChoice (readExpression fuel) (ts.length + 1) ts

def expressionOf (cs : Raw) : Expression :=
  let ts := expressionTokens (cs.length + 1) cs
  let (e, rest) := readExpression (ts.length + 1) ts
  if rest = [] then e else .faultAfter e "expecting EOF"

/-- The value of an operator on two numbers; none for a division by zero. -/
def applyOperator (o : String) (a b : Int) : Option Int :=
  let truth (p : Bool) : Option Int := some (if p then 1 else 0)
  let bits (f : Nat → Nat → Nat) : Option Int :=
    let unsigned (n : Int) : Nat := (n % 0x10000000000000000).toNat
    some (wrap64 (f (unsigned a) (unsigned b)))
  match o with
  | "|" => bits (· ||| ·)
  | "^" => bits (· ^^^ ·)
  | "&" => bits (· &&& ·)
  | "==" => truth (a = b)
  | "!=" => truth (a ≠ b)
  | "<" => truth (a < b)
  | ">" => truth (b < a)
  | "<=" => truth (a ≤ b)
  | ">=" => truth (b ≤ a)
  | "<<" => some (wrap64 (a * (Nat.pow 2 (b % 64).toNat : Nat)))
  | ">>" => some (Int.fdiv a (Nat.pow 2 (b % 64).toNat : Nat))
  | "+" => some (wrap64 (a + b))
  | "-" => some (wrap64 (a - b))
  | "*" => some (wrap64 (a * b))
  | "/" => if b = 0 then none else some (wrap64 (Int.tdiv a b))
  | "%" => if b = 0 then none else some (Int.tmod a b)
  | _ => none

end TextChain.Tool.Shell
