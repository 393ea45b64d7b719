import TextChain.Tool.Flags

/-!
# Replacing characters

Maps the characters of one set to those of another, deletes characters, or leaves one of several equal
characters in a row. A set is written as characters, ranges, classes and repetitions.
-/

namespace TextChain.Tool.Substitute

/-! ### Sets -/

inductive Element
  | char (c : Char)
  | range (a b : Char)
  | members (name : Raw)
  | equal (c : Char)
  /-- A character so many times, or as often as needed. -/
  | repeated (c : Char) (count : Option Nat)

/-- A character of a set, and whether it was written with a backslash. -/
abbrev Letter := Char × Bool

/-- The warning about octal digits that stand for two characters. -/
def ambiguousOctal (digits : Raw) : Raw :=
  rawOf "warning: the ambiguous octal escape \\" ++ digits ++
    rawOf " is being\n\tinterpreted as the 2-byte sequence \\0" ++ digits.take 2 ++
    rawOf ", " ++ digits.drop 2

/-- Reads what stands after a backslash: the letter, the number of characters, and a warning. -/
def escapedLetter (cs : Raw) : Letter × Nat × Option Raw :=
  match cs with
  | [] => (('\\', false), 0, some
      (rawOf "warning: an unescaped backslash at end of string is not portable"))
  | c :: _ =>
    if (digit? 8 c).isSome then
      let ds := (takeDigits 8 3 cs).1
      let kept := if 255 < ofDigits 8 ds then ds.dropLast else ds
      let warning := if kept.length < ds.length then some (ambiguousOctal (cs.take 3)) else none
      ((Char.ofNat (ofDigits 8 kept), true), kept.length, warning)
    else (((letterEscape? c).getD c, true), 1, none)

/-- Reads the letters of a set, with warnings. The first argument bounds the number of characters. -/
def letters : Nat → Raw → List Letter × List Raw
  | 0, _ => ([], [])
  | _, [] => ([], [])
  | fuel + 1, '\\' :: cs =>
    let (l, length, warning) := escapedLetter cs
    let (ls, warnings) := letters fuel (cs.drop length)
    (l :: ls, warning.toList ++ warnings)
  | fuel + 1, c :: cs =>
    let (ls, warnings) := letters fuel cs
    ((c, false) :: ls, warnings)

/-- What is written up to a mark and a closing bracket, and the rest after them. -/
def untilClosing (mark : Char) : List Letter → Option (List Letter × List Letter)
  | a :: b :: rest =>
    if a = (mark, false) ∧ b = (']', false) then some ([], rest)
    else (untilClosing mark (b :: rest)).map fun (inner, rest) => (a :: inner, rest)
  | _ => none

/-- Reads a repetition after its bracket; none if there is none. -/
def repetition? (ls : List Letter) : Option (Except Raw (Element × List Letter)) :=
  match ls with
  | (c, _) :: ('*', false) :: rest =>
    let inner := rest.takeWhile (· ≠ (']', false))
    if inner.length = rest.length then none
    else
      let digits := inner.map Prod.fst
      let base := if digits.head? = some '0' then 8 else 10
      let (ds, left) := takeDigits base digits.length digits
      let after := rest.drop (inner.length + 1)
      if left ≠ [] then
        some (.error (rawOf "invalid repeat count " ++ quoteWord digits ++
          rawOf " in [c*n] construct"))
      else
        let count := ofDigits base ds
        some (.ok (.repeated c (if count = 0 then none else some count), after))
  | _ => none

/-- Whether a repetition of a mark stands here, after its bracket and its mark. -/
def isStarred (ls : List Letter) : Bool :=
  match ls with
  | ('*', false) :: rest => (rest.dropWhile fun l => l.1.isDigit).head? = some (']', false)
  | _ => false

/-- Reads a class or an equivalent after its bracket; none if there is none. -/
def bracketed? (ls : List Letter) : Option (Except Raw (Element × List Letter)) :=
  match ls with
  | (mark, false) :: rest =>
    if mark ≠ ':' && mark ≠ '=' then none
    else
      match untilClosing mark rest with
      | none => none
      | some (inner, after) =>
        let name := inner.map Prod.fst
        if mark = ':' then
          if name = [] then some (.error (rawOf "missing character class name '[::]'"))
          else if (classOf? name).isSome then some (.ok (.members name, after))
          else if isStarred rest then none
          else some (.error (rawOf "invalid character class " ++ quoteWord name))
        else
          match name with
          | [] => some (.error (rawOf "missing equivalence class character '[==]'"))
          | [c] => some (.ok (.equal c, after))
          | _ =>
            if isStarred rest then none
            else some (.error
              (name ++ rawOf ": equivalence class operand must be a single character"))
  | _ => none

/-- A character in a message, in octal digits unless it is printed. -/
def shown (c : Char) : Raw :=
  if isPrint c then [c] else '\\' :: octalText c

/-- Reads the elements of a set. The first argument bounds the number of letters. -/
def elements : Nat → List Letter → Except Raw (List Element)
  | 0, _ => .ok []
  | fuel + 1, ls =>
    match ls with
    | [] => .ok []
    | first :: rest =>
      let special := if first = ('[', false) && 2 ≤ rest.length then
        (bracketed? rest).orElse fun _ => repetition? rest
      else none
      match special, rest with
      | some (.error message), _ => .error message
      | some (.ok (element, after)), _ => (elements fuel after).map (element :: ·)
      | none, ('-', false) :: last :: after =>
        if last.1 < first.1 then
          .error (rawOf "range-endpoints of '" ++ shown first.1 ++ ['-'] ++ shown last.1 ++
            rawOf "' are in reverse collating sequence order")
        else (elements fuel after).map (.range first.1 last.1 :: ·)
      | none, rest => (elements fuel rest).map (.char first.1 :: ·)

/-- Reads sets one after the other, with the warnings up to the first that is faulty. -/
def readSets : List Raw → List Raw × Except Raw (List (List Element))
  | [] => ([], .ok [])
  | text :: texts =>
    let (ls, warnings) := letters text.length text
    match elements ls.length ls with
    | .error message => (warnings, .error message)
    | .ok set =>
      let (more, sets) := readSets texts
      (warnings ++ more, sets.map (set :: ·))

namespace Element

/-- The characters of an element, where a repetition without a count stands for `free` of them. -/
def chars (free : Nat) : Element → Raw
  | .char c | .equal c => [c]
  | .range a b => charRange a b
  | .members name => allChars.filter ((classOf? name).getD fun _ => false)
  | .repeated c count => List.replicate (count.getD free) c

def isClass : Element → Bool
  | .members _ => true
  | _ => false

/-- Whether an element is a class of letters of one case. -/
def isCase : Element → Bool
  | .members name => name = "upper".toList || name = "lower".toList
  | _ => false

/-- Whether an element is repeated as often as needed. -/
def isFree : Element → Bool
  | .repeated _ none => true
  | _ => false

end Element

def charsOf (free : Nat) (set : List Element) : Raw :=
  set.flatMap (·.chars free)

/-- The places at which classes of one case start in a set. -/
def caseStarts (free start : Nat) : List Element → List Nat
  | [] => []
  | e :: rest =>
    let next := caseStarts free (start + (e.chars free).length) rest
    if e.isCase then start :: next else next

/-! ### Filters -/

/-- Leaves one of several equal characters of a set in a row. -/
def squeeze (members : Raw) : Raw → Raw
  | c :: d :: cs =>
    if c = d ∧ members.contains c then squeeze members (d :: cs) else c :: squeeze members (d :: cs)
  | cs => cs

/-- Where the characters go, in their order: the last of several pairs for a character counts. -/
def mapping (source target : Raw) : Array Char :=
  let pairs := (source.zip target).reverse
  (allChars.map fun c => (pairs.lookup c).getD c).toArray

def mappingFault? (complemented truncated : Bool) (source target : List Element)
    (sourceLength targetLength free : Nat) : Option String :=
  if target.any fun e => match e with | .equal _ => true | _ => false then
    some "[=c=] expressions may not appear in string2 when translating"
  else if target.any fun e => e.isClass && !e.isCase then
    some ("when translating, the only character classes that may appear in\n" ++
      "string2 are 'upper' and 'lower'")
  else if !complemented && target.any Element.isCase && !(caseStarts free 0 target).all fun n =>
      sourceLength < n || (caseStarts free 0 source).contains n then
    some "misaligned [:upper:] and/or [:lower:] construct"
  else if targetLength < sourceLength && !truncated && target.isEmpty then
    some "when not truncating set1, string2 must be non-empty"
  else if targetLength < sourceLength && !truncated && (target.getLast?.any Element.isClass) then
    some ("when translating with string1 longer than string2,\n" ++
      "the latter string must not end with a character class")
  else if complemented && source.any Element.isClass &&
      !((targetLength = sourceLength || (targetLength < sourceLength && !truncated)) &&
        (charsOf free target).eraseDups.length = 1) then
    some ("when translating with complemented character classes,\n" ++
      "string2 must map all characters in the domain to one")
  else none

def flags : Flags where
  letters := "cCdst".toList.map (·, .nothing)
  words := [("complement", 'c', .nothing), ("delete", 'd', .nothing),
    ("squeeze-repeats", 's', .nothing), ("truncate-set1", 't', .nothing)]
  ordered := true

def operandFault? (delete squeezes : Bool) (operands : List Raw) : Option Raw :=
  let least := if delete = squeezes then 2 else 1
  let most := if delete && !squeezes then 1 else 2
  if operands.length < least then
    match operands.getLast? with
    | none => some (rawOf "missing operand")
    | some last => some (rawOf "missing operand after " ++ quoteWord last ++ ['\n'] ++
        rawOf (if squeezes then "Two strings must be given when both deleting and squeezing repeats."
          else "Two strings must be given when translating."))
  else if most < operands.length then
    let extra := rawOf "extra operand " ++ quoteWord (operands[most]?.getD [])
    some (if operands.length = 2 then
        extra ++ rawOf "\nOnly one string may be given when deleting without squeezing repeats."
      else extra)
  else none

/-- Maps, deletes and squeezes the characters of its input by sets. -/
def edit (i : Invocation) (given : List Given) (sets : List (List Element)) : Outcome :=
  let delete := hasFlag given 'd'
  let squeezes := hasFlag given 's'
  let truncated := hasFlag given 't'
  let complemented := hasFlag given 'c' || hasFlag given 'C'
  let source := sets.headD []
  let target := sets.tail.headD []
  let plain := charsOf 0 source
  let first := if complemented then allChars.filter fun c => !plain.contains c else plain
  let free := first.length - (charsOf 0 target).length
  let second := charsOf free target
  if source.any Element.isFree then
    i.fail 1 (rawOf "the [c*] repeat construct may not appear in string1")
  else if 1 < (target.filter Element.isFree).length then
    i.fail 1 (rawOf "only one [c*] repeat construct may appear in string2")
  else if !delete && sets.length = 2 then
    match mappingFault? complemented truncated source target first.length second.length free with
    | some message => i.fail 1 (rawOf message)
    | none =>
      let full := match second.getLast? with
        | some last =>
          if truncated then second
          else second ++ List.replicate (first.length - second.length) last
        | none => second
      let table := mapping first full
      let text := i.input.map fun c => table[c.toNat]?.getD c
      i.succeed (if squeezes then squeeze second text else text)
  else if target.any Element.isFree then
    i.fail 1 (rawOf "the [c*] construct may appear in string2 only when translating")
  else
    let kept := if delete then i.input.filter fun c => !first.contains c else i.input
    let members := if delete then second else first
    i.succeed (if squeezes then squeeze members kept else kept)

/-- Maps, deletes and squeezes the characters of its input. -/
def run (i : Invocation) : Outcome :=
  match flags.read i.args with
  | .error message => i.refuse 1 message
  | .ok (given, operands) =>
    match operandFault? (hasFlag given 'd') (hasFlag given 's') operands with
    | some message => i.refuse 1 message
    | none =>
      let (warnings, sets) := readSets operands
      let outcome := match sets with
        | .error message => i.fail 1 message
        | .ok sets => edit i given sets
      { outcome with errors := warnings.flatMap i.line ++ outcome.errors }

end TextChain.Tool.Substitute
