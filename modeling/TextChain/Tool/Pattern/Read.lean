import TextChain.Tool.Pattern.Match

/-!
# Written patterns

The two notations of patterns. In the basic one groups, choices and intervals have backslashes in front
of their signs; in the extended one those signs stand alone. Reading has two steps: words with the
context in which a sign has a meaning, and then the nesting of groups.
-/

namespace TextChain.Tool.Pattern

/-- Why a pattern cannot be read. -/
inductive Fault
  | repetition
  | openGroup
  | closeGroup
  | bracket
  | range
  | className
  | backslash
  | interval
  | openInterval
  | reference
  | size
  | collation
  | looseClass
deriving DecidableEq, Repr

def Fault.message : Fault → String
  | .repetition => "Invalid preceding regular expression"
  | .openGroup => "Unmatched ( or \\("
  | .closeGroup => "Unmatched ) or \\)"
  | .bracket => "Unmatched [, [^, [:, [., or [="
  | .range => "Invalid range end"
  | .className => "Invalid character class name"
  | .backslash => "Trailing backslash"
  | .interval => "Invalid content of \\\x7b\\\x7d"
  | .openInterval => "Unmatched \\\x7b"
  | .reference => "Invalid back reference"
  | .size => "Regular expression too big"
  | .collation => "Invalid collation character"
  | .looseClass => "character class syntax is [[:space:]], not [:space:]"

structure Notation where
  /-- Whether signs stand without backslashes. -/
  extended : Bool
  /-- Whether case does not count. -/
  folds : Bool
  /-- Whether a lone closing bracket is a character. -/
  lenient : Bool
  /-- Whether a line feed matches only where it is written. -/
  divided : Bool

/-! ### Sets of characters -/

/-- A set with the other case of its letters if case does not count. -/
def Notation.fold (n : Notation) (accepts : Char → Bool) : Char → Bool :=
  if n.folds then fun c => accepts c || accepts c.toLower || accepts c.toUpper else accepts

def Notation.char (n : Notation) (c : Char) : Pattern :=
  .one (n.fold (· = c))

/-- Reads the inside of a class, an equivalent or a collating element up to its mark and bracket. -/
def bracketInner? (mark : Char) : Raw → Option (Raw × Raw)
  | a :: b :: rest =>
    if a = mark ∧ b = ']' then some ([], rest)
    else (bracketInner? mark (b :: rest)).map fun (inner, rest) => (a :: inner, rest)
  | _ => none

/-- An item of a set: a character, which may start a range, or a class. -/
inductive SetItem
  | char (c : Char)
  | named (accepts : Char → Bool)

def setItem (cs : Raw) : Except Fault (SetItem × Raw) :=
  match cs with
  | [] => .error .bracket
  | '[' :: mark :: rest =>
    if mark = ':' then
      match bracketInner? ':' rest with
      | none => .error .bracket
      | some (name, after) =>
        match classOf? name with
        | some accepts => .ok (.named accepts, after)
        | none => .error .className
    else if mark = '.' || mark = '=' then
      match bracketInner? mark rest with
      | none => .error .bracket
      | some ([c], after) => .ok (.char c, after)
      | some _ => .error .collation
    else .ok (.char '[', mark :: rest)
  | c :: rest => .ok (.char c, rest)

/-- Whether a hyphen that makes a range stands at the start of the rest of a set. -/
def startsRange : Raw → Bool
  | '-' :: c :: _ => c ≠ ']'
  | _ => false

/-- Reads a set after its bracket. The first argument bounds the number of items; `first` says that
none was read yet, so that a closing bracket is a character. A range cannot start with a class or with
another range. -/
def setItems : Nat → Bool → Raw → Except Fault ((Char → Bool) × Raw)
  | 0, _, _ => .error .bracket
  | fuel + 1, first, cs =>
    if cs.head? = some ']' && !first then .ok (fun _ => false, cs.drop 1)
    else do
      let (item, rest) ← setItem cs
      match item, rest with
      | .char a, '-' :: d :: rest' =>
        if d = ']' then
          let (more, after) ← setItems fuel false rest
          .ok (fun c => c = a || more c, after)
        else
          let (last, after) ← setItem (d :: rest')
          match last with
          | .named _ => .error .range
          | .char b =>
            if b < a || startsRange after then .error .range
            else
              let (more, after) ← setItems fuel false after
              .ok (fun c => (a ≤ c && c ≤ b) || more c, after)
      | .char a, rest =>
        let (more, after) ← setItems fuel false rest
        .ok (fun c => c = a || more c, after)
      | .named accepts, rest =>
        if startsRange rest then .error .range
        else
          let (more, after) ← setItems fuel false rest
          .ok (fun c => accepts c || more c, after)

/-- Whether a set is a class whose own brackets are missing. -/
def isLooseClass (cs : Raw) : Bool :=
  let inner := cs.takeWhile (· ≠ ']')
  1 < inner.length && inner.head? = some ':' && inner.getLast? = some ':' && inner.length < cs.length

/-- Reads a set after its opening bracket. -/
def Notation.set (n : Notation) (cs : Raw) : Except Fault (Pattern × Raw) := do
  if isLooseClass cs then .error .looseClass
  else
    let negated := cs.head? = some '^'
    let (accepts, rest) ← setItems (cs.length + 1) true (if negated then cs.drop 1 else cs)
    let folded := n.fold accepts
    let excluded (c : Char) : Bool := folded c || (n.divided && c = '\n')
    .ok (.one (if negated then fun c => !excluded c else folded), rest)

/-! ### Words -/

inductive Word
  | atom (p : Pattern)
  /-- A place, which cannot be repeated. -/
  | place (p : Pattern)
  | reference (number : Nat)
  | opening
  | closing
  | choice
  | times (least : Nat) (most : Option Nat)
  | fault (f : Fault)

def Word.repeatable : Option Word → Bool
  | some (.atom _) | some (.reference _) | some .closing | some (.times ..) => true
  | _ => false

def repetitionLimit : Nat := 0x7FFF

/-- How a number of an interval ends. -/
inductive Closing
  | closed
  | comma
  | missing
deriving DecidableEq

/-- The text of a number of an interval, how it ends, and what follows. -/
def Notation.bound (n : Notation) : Raw → Raw × Closing × Raw
  | [] => ([], .missing, [])
  | ',' :: rest => ([], .comma, rest)
  | '\\' :: c :: rest =>
    if c = '\x7d' && !n.extended then ([], .closed, rest)
    else
      let (text, closing, after) := n.bound rest
      ('\\' :: text, closing, after)
  | c :: rest =>
    if c = '\x7d' && n.extended then ([], .closed, rest)
    else
      let (text, closing, after) := n.bound rest
      (c :: text, closing, after)

/-- Reads an interval after its opening sign. -/
def Notation.interval (n : Notation) (cs : Raw) : Except Fault (Word × Raw) :=
  let make (least : Nat) (most : Option Nat) (rest : Raw) : Except Fault (Word × Raw) :=
    if (most.map fun high => decide (high < least)).getD false then .error .interval
    else if repetitionLimit < most.getD least then .error .size
    else .ok (.times least most, rest)
  match n.bound cs with
  | (_, .missing, _) => .error .openInterval
  | (text, .closed, rest) =>
    match natural? text with
    | some k => make k (some k) rest
    | none => .error .interval
  | (low, .comma, rest) =>
    match (if low = [] then some 0 else natural? low) with
    | none => .error .interval
    | some least =>
      match n.bound rest with
      | (_, .missing, _) => .error .openInterval
      | (_, .comma, _) => .error .interval
      | ([], .closed, rest) => make least none rest
      | (high, .closed, rest) =>
        match natural? high with
        | some most => make least (some most) rest
        | none => .error .interval

/-- The pattern of a letter after a backslash that stands for a set or a place. -/
def letterWord? (c : Char) : Option Word :=
  match c with
  | 'w' => some (.atom (.one isWord))
  | 'W' => some (.atom (.one fun c => !isWord c))
  | 's' => some (.atom (.one isSpace))
  | 'S' => some (.atom (.one fun c => !isSpace c))
  | 'b' => some (.place (.between fun a b => a ≠ b))
  | 'B' => some (.place (.between fun a b => a = b))
  | '<' => some (.place (.between fun a b => !a && b))
  | '>' => some (.place (.between fun a b => a && !b))
  | '\x60' => some (.place .textStart)
  | '\'' => some (.place .textEnd)
  | _ => none

/-- Whether a star or an interval cannot follow since there is a repetition before it. -/
def Notation.refusesRepeat (n : Notation) (before : Option Word) : Bool :=
  match before with
  | some (.times ..) => !n.extended && !n.lenient
  | _ => false

/-- A sign that repeats what is before it, where that can be repeated. -/
def Notation.repeatWord (n : Notation) (before : Option Word) (c : Char) (w : Word) :
    Except Fault Word :=
  if c = '*' && n.refusesRepeat before then .error .repetition
  else if Word.repeatable before then .ok w
  else if n.extended then .error .repetition
  else .ok (.atom (n.char c))

/-- Reads a sign that has a backslash in one notation and none in the other; none if it is a
character. -/
def Notation.sign? (n : Notation) (before : Option Word) (c : Char) (rest : Raw) :
    Option (Except Fault (Word × Raw)) :=
  match c with
  | '(' => some (.ok (.opening, rest))
  | ')' => some (.ok (.closing, rest))
  | '|' => some (.ok (.choice, rest))
  | '+' => some ((n.repeatWord before '+' (.times 1 none)).map (·, rest))
  | '?' => some ((n.repeatWord before '?' (.times 0 (some 1))).map (·, rest))
  | '\x7b' =>
    some (if Word.repeatable before && !n.refusesRepeat before then n.interval rest
      else .error .repetition)
  | _ => none

/-- Whether an end of a line can stand before the rest. -/
def Notation.endsLine (n : Notation) (rest : Raw) : Bool :=
  n.extended || rest = [] || "\\)".toList.isPrefixOf rest || "\\|".toList.isPrefixOf rest

/-- Whether a start of a line can stand after a word. -/
def Notation.startsLine (n : Notation) (before : Option Word) : Bool :=
  n.extended || match before with
    | none | some .opening | some .choice | some (.place _) => true
    | _ => false

def Notation.word (n : Notation) (before : Option Word) (c : Char) (rest : Raw) :
    Except Fault (Word × Raw) :=
  match c with
  | '\\' =>
    match rest with
    | [] => .error .backslash
    | d :: after =>
      match letterWord? d with
      | some w => .ok (w, after)
      | none =>
        if d.isDigit && d ≠ '0' then .ok (.reference (d.toNat - 48), after)
        else
          match if n.extended then none else n.sign? before d after with
          | some result => result
          | none => .ok (.atom (n.char d), after)
  | '.' => .ok (.atom (.one fun c => !n.divided || c ≠ '\n'), rest)
  | '[' => (n.set rest).map fun (p, after) => (.atom p, after)
  | '*' => (n.repeatWord before '*' (.times 0 none)).map (·, rest)
  | '^' => .ok (if n.startsLine before then .place .lineStart else .atom (n.char '^'), rest)
  | '$' => .ok (if n.endsLine rest then .place .lineEnd else .atom (n.char '$'), rest)
  | c =>
    match if n.extended then n.sign? before c rest else none with
    | some result => result
    | none => .ok (.atom (n.char c), rest)

/-- The words of a pattern up to the first fault. The first argument bounds the number of
characters. -/
def Notation.words (n : Notation) : Nat → Option Word → Raw → List Word
  | 0, _, _ => []
  | _, _, [] => []
  | fuel + 1, before, c :: cs =>
    match n.word before c cs with
    | .ok (w, rest) => w :: n.words fuel (some w) rest
    | .error f => [.fault f]

/-! ### Nesting -/

/-- A group that is being read: the choices before, and the patterns of the last choice in reverse
order. -/
structure Open where
  number : Nat
  choices : List Pattern
  sequence : List Pattern
  /-- The numbers of the groups that were closed before it. -/
  before : List Nat
  /-- The numbers of the groups that were closed in its choices before. -/
  others : List Nat

/-- The pattern of a sequence in reverse order. -/
def ofSequence : List Pattern → Pattern
  | [] => .empty
  | [p] => p
  | p :: rest => .both (ofSequence rest) p

def Open.pattern (o : Open) : Pattern :=
  o.choices.foldl (fun later p => .either p later) (ofSequence o.sequence)

structure Nesting where
  inner : Open
  outer : List Open
  count : Nat
  /-- The numbers of the groups that are closed on the way here. -/
  closed : List Nat

/-- Adds a pattern to the innermost group. -/
def Nesting.push (s : Nesting) (p : Pattern) : Nesting :=
  { s with inner := { s.inner with sequence := p :: s.inner.sequence } }

def Nesting.step (lenient : Bool) (s : Nesting) : Word → Except Fault Nesting
  | .fault f => .error f
  | .atom p | .place p => .ok (s.push p)
  | .reference k => if s.closed.contains k then .ok (s.push (.same k)) else .error .reference
  | .opening =>
    .ok { s with inner := ⟨s.count + 1, [], [], s.closed, []⟩, outer := s.inner :: s.outer, count := s.count + 1 }
  | .closing =>
    match s.outer with
    | [] => if lenient then .ok (s.push (.one (· = ')'))) else .error .closeGroup
    | o :: outer =>
      let p := Pattern.group s.inner.number s.inner.pattern
      .ok { s with inner := { o with sequence := p :: o.sequence }, outer,
                   closed := s.inner.number :: (s.inner.others ++ s.closed) }
  | .choice =>
    .ok { s with inner := { s.inner with choices := ofSequence s.inner.sequence :: s.inner.choices,
                                         sequence := [], others := s.closed ++ s.inner.others },
                 closed := s.inner.before }
  | .times least most =>
    match s.inner.sequence with
    | p :: rest =>
      .ok { s with inner := { s.inner with sequence := .repeated p least most :: rest } }
    | [] => .error .repetition

/-- Reads a pattern; gives it with the number of its groups. -/
def read (n : Notation) (cs : Raw) : Except Fault (Pattern × Nat) := do
  let words := n.words cs.length none cs
  let s ← words.foldlM (Nesting.step n.lenient) ⟨⟨0, [], [], [], []⟩, [], 0, []⟩
  if s.outer.isEmpty then .ok (s.inner.pattern, s.count) else .error .openGroup

end TextChain.Tool.Pattern
