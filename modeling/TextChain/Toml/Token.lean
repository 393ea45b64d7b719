import TextChain.Json.Token
import TextChain.Toml.Moment

/-!
# TOML tokens

The words of a TOML text. Blanks are tokens, because the parts of a number and the brackets of some
headers must stand next to each other; comments are none.
-/

namespace TextChain.Toml

inductive Token
  | blank
  | newline
  /-- Letters, digits, underscores and signs. -/
  | word (cs : List Char)
  | quoted (text : String)
  /-- A text that was written between quotes of three, or a time; it can only be a value. -/
  | value (text : String)
  | point
  | equals
  | comma
  | openBracket
  | closeBracket
  | openBrace
  | closeBrace
deriving DecidableEq, Repr

/-- Whether a character may stand in a bare key. -/
def isKeyChar (c : Char) : Bool :=
  c.isAlphanum || c = '_' || c = '-'

def isWordChar (c : Char) : Bool :=
  isKeyChar c || c = '+'

/-- Whether a character may stand in a comment or between quotes. -/
def isPrintable (c : Char) : Bool :=
  c = '\t' || (' ' ≤ c && c ≠ '\x7f')

/-! ### Strings -/

/-- The character that a backslash and this character stand for. -/
def escaped? : Char → Option Char
  | 'b' => some '\x08'
  | 't' => some '\t'
  | 'n' => some '\n'
  | 'f' => some '\x0c'
  | 'r' => some '\r'
  | '"' => some '"'
  | '\\' => some '\\'
  | _ => none

/-- The character whose code has these hexadecimal digits. -/
def charOf? (ds : List Char) : Option Char := do
  let digits ← ds.mapM Json.hexDigit?
  let code := digits.foldl (fun n d => n * 16 + d) 0
  if h : code.isValidChar then some (Char.ofNatAux code h) else none

/-- Reads what follows a backslash: a letter, or the code of a character. -/
def escape? : List Char → Option (Char × List Char)
  | 'u' :: a :: b :: c :: d :: cs => (charOf? [a, b, c, d]).map fun char => (char, cs)
  | 'U' :: a :: b :: c :: d :: e :: f :: g :: h :: cs =>
    (charOf? [a, b, c, d, e, f, g, h]).map fun char => (char, cs)
  | c :: cs => (escaped? c).map fun char => (char, cs)
  | [] => none

theorem length_escape? {cs : List Char} {r : Char × List Char} (h : escape? cs = some r) :
    r.2.length < cs.length := by
  fun_cases escape? cs
  all_goals simp only [escape?, Option.map_eq_some_iff, reduceCtorEq] at h
  all_goals obtain ⟨_, _, rfl⟩ := h
  all_goals simp +arith

/-- Reads a string between double quotes up to the closing one. -/
def basic? (cs : List Char) : Option (List Char × List Char) :=
  match cs with
  | '"' :: cs => some ([], cs)
  | '\\' :: cs =>
    match h : escape? cs with
    | some (c, rest) =>
      have : rest.length < cs.length := length_escape? h
      (basic? rest).map fun (text, rest) => (c :: text, rest)
    | none => none
  | c :: cs =>
    if isPrintable c then (basic? cs).map fun (text, rest) => (c :: text, rest) else none
  | [] => none
termination_by cs.length
decreasing_by
  all_goals simp only [List.length_cons]
  all_goals omega

/-- Reads a string between single quotes up to the closing one; nothing is escaped. -/
def literal? : List Char → Option (List Char × List Char)
  | '\'' :: cs => some ([], cs)
  | c :: cs =>
    if isPrintable c then (literal? cs).map fun (text, rest) => (c :: text, rest) else none
  | [] => none

/-- Drops spaces and ends of lines, which is how a line is continued after a backslash; the first
character that counts must come after the end of a line. -/
def continued? (cs : List Char) : Option (List Char) :=
  match cs.dropWhile fun c => c = ' ' || c = '\t' with
  | '\n' :: rest | '\r' :: '\n' :: rest => some (dropGap rest)
  | _ => none
where
  /-- Drops spaces and ends of lines. -/
  dropGap : List Char → List Char
    | '\r' :: '\n' :: cs => dropGap cs
    | c :: cs => if c = ' ' || c = '\t' || c = '\n' then dropGap cs else c :: cs
    | [] => []

/-- Reads a string of several lines up to three quotes. Up to two quotes in front of those belong to
the string. In a string between double quotes a backslash escapes a character or the end of a line.
The first argument bounds the number of characters. -/
def multiline? (quote : Char) : Nat → List Char → Option (List Char × List Char)
  | 0, _ => none
  | _, [] => none
  | fuel + 1, c :: cs =>
    let continueWith (char : Char) (rest : List Char) : Option (List Char × List Char) :=
      (multiline? quote fuel rest).map fun (text, rest) => (char :: text, rest)
    if c = quote ∧ cs.take 2 = [quote, quote] then
      let more := min 2 ((cs.drop 2).takeWhile (· = quote)).length
      some (List.replicate more quote, cs.drop (2 + more))
    else if c = '\\' ∧ quote = '"' then
      match escape? cs, continued? cs with
      | some (char, rest), _ => continueWith char rest
      | none, some rest => multiline? quote fuel rest
      | none, none => none
    else if c = '\r' ∧ cs.head? = some '\n' then continueWith '\n' cs.tail
    else if c = '\n' ∨ isPrintable c then continueWith c cs
    else none

/-- A list without the end of a line at its start. -/
def dropNewline : List Char → List Char
  | '\n' :: cs => cs
  | '\r' :: '\n' :: cs => cs
  | cs => cs

/-- Reads a string that starts with this quote. It may go over several lines if it starts with three
of them. -/
def string? (quote : Char) (cs : List Char) : Option (Bool × List Char × List Char) :=
  match cs with
  | c :: d :: rest =>
    if c = quote ∧ d = quote then
      (multiline? quote rest.length (dropNewline rest)).map (true, ·)
    else (oneLine? cs).map (false, ·)
  | cs => (oneLine? cs).map (false, ·)
where
  /-- Reads a string that does not go over several lines. -/
  oneLine? (cs : List Char) : Option (List Char × List Char) :=
    if quote = '"' then basic? cs else literal? cs

/-! ### Texts -/

/-- The last characters of a text, this many. -/
def endOf (cs : List Char) (count : Nat) : List Char :=
  cs.drop (cs.length - count)

theorem length_endOf (cs : List Char) (count : Nat) : (endOf cs count).length ≤ cs.length := by
  simp [endOf]

/-- Cuts a TOML text into tokens. -/
def tokens? (cs : List Char) : Option (List Token) :=
  match cs with
  | [] => some []
  | '\n' :: cs => (tokens? cs).map (.newline :: ·)
  | '\r' :: '\n' :: cs => (tokens? cs).map (.newline :: ·)
  | '.' :: cs => (tokens? cs).map (.point :: ·)
  | '=' :: cs => (tokens? cs).map (.equals :: ·)
  | ',' :: cs => (tokens? cs).map (.comma :: ·)
  | '[' :: cs => (tokens? cs).map (.openBracket :: ·)
  | ']' :: cs => (tokens? cs).map (.closeBracket :: ·)
  | '\x7b' :: cs => (tokens? cs).map (.openBrace :: ·)
  | '\x7d' :: cs => (tokens? cs).map (.closeBrace :: ·)
  | '#' :: cs => tokens? (cs.dropWhile isPrintable)
  | c :: cs =>
    if c = ' ' ∨ c = '\t' then (tokens? cs).map (.blank :: ·)
    else if c = '"' ∨ c = '\'' then do
      let (several, text, rest) ← string? c cs
      let token := if several then .value (String.ofList text) else .quoted (String.ofList text)
      (tokens? (endOf cs rest.length)).map (token :: ·)
    else if (moment? (c :: cs)).isSome then do
      let (text, rest) ← moment? (c :: cs)
      (tokens? (endOf cs rest.length)).map (.value text :: ·)
    else if isWordChar c then
      (tokens? (cs.dropWhile isWordChar)).map (.word (c :: cs.takeWhile isWordChar) :: ·)
    else none
termination_by cs.length
decreasing_by
  all_goals simp only [List.length_cons]
  all_goals first
    | omega
    | exact Nat.lt_succ_of_le (List.dropWhile_suffix _).length_le
    | exact Nat.lt_succ_of_le (length_endOf _ _)

end TextChain.Toml
