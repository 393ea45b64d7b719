import TextChain.Tool.Raw

/-!
# Patterns

Patterns of texts with groups and back references. A match starts as far left as it can and is as long
as it can be from there; among equally long matches the first parts of the pattern take as much as they
can.
-/

namespace TextChain.Tool

inductive Pattern
  | empty
  | one (accepts : Char → Bool)
  | lineStart
  | lineEnd
  | textStart
  | textEnd
  /-- A place with or without word characters before it and behind it. -/
  | between (test : Bool → Bool → Bool)
  | both (a b : Pattern)
  /-- One of two patterns. -/
  | either (a b : Pattern)
  | repeated (a : Pattern) (least : Nat) (most : Option Nat)
  /-- A pattern whose match has a number. -/
  | group (number : Nat) (a : Pattern)
  /-- The text of the match with a number. -/
  | same (number : Nat)

namespace Pattern

/-- The text in which matches are looked for. -/
structure Subject where
  chars : Array Char
  /-- Whether lines start and end at line feeds inside the text. -/
  several : Bool
  /-- Whether case does not count in back references. -/
  folds : Bool

/-- A place that a match can reach: its position, and the positions of the groups on the way. -/
structure Reached where
  position : Nat
  groups : List (Nat × Nat × Nat)
deriving DecidableEq

def Subject.wordAt (s : Subject) (position : Nat) : Bool :=
  (s.chars[position]?).any isWord

def Subject.wordBefore (s : Subject) (position : Nat) : Bool :=
  0 < position && s.wordAt (position - 1)

/-- The characters between two positions. -/
def Subject.part (s : Subject) (start stop : Nat) : Raw :=
  (s.chars.extract start stop).toList

def refers : Pattern → Bool
  | .same _ => true
  | .both a b | .either a b => a.refers || b.refers
  | .repeated a _ _ | .group _ a => a.refers
  | _ => false

/-- The first of the places with each position, or with each position and the same groups. -/
def firstOfEach (exact : Bool) (rs : List Reached) : List Reached :=
  (rs.foldl (fun kept r =>
    if kept.any fun k => if exact then k = r else k.position = r.position then kept
    else r :: kept) []).reverse

/-- The places after any number of steps forward, those after many steps first; no position is
visited twice. The first argument bounds the number of steps. -/
def closure (step : Reached → List Reached) :
    Nat → Reached → List Nat → List Reached × List Nat
  | 0, r, seen => ([r], seen)
  | fuel + 1, r, seen =>
    let (found, seen) := (step r).foldl (fun (found, seen) next =>
      if next.position ≤ r.position || seen.contains next.position then (found, seen)
      else
        let (more, seen) := closure step fuel next (next.position :: seen)
        (found ++ more, seen)) ([], seen)
    (found ++ [r], seen)

/-- The places after up to so many steps forward, those after many steps first. -/
def upTo (exact : Bool) (step : Reached → List Reached) : Nat → Reached → List Reached
  | 0, r => [r]
  | most + 1, r =>
    let next := (step r).filter fun n => r.position < n.position
    firstOfEach exact (next.flatMap (upTo exact step most) ++ [r])

/-- The places after exactly so many steps. -/
def exactly (exact : Bool) (step : Reached → List Reached) : Nat → Reached → List Reached
  | 0, r => [r]
  | count + 1, r => firstOfEach exact ((step r).flatMap (exactly exact step count))

/-- The places at which matches end that start at a place, the preferred ones first. -/
def ends (s : Subject) (exact : Bool) : Pattern → Reached → List Reached
  | .empty, r => [r]
  | .one accepts, r =>
    match s.chars[r.position]? with
    | some c => if accepts c then [{ r with position := r.position + 1 }] else []
    | none => []
  | .lineStart, r =>
    let here := r.position = 0 || (s.several && s.chars[r.position - 1]? = some '\n')
    if here then [r] else []
  | .lineEnd, r =>
    let here := r.position = s.chars.size || (s.several && s.chars[r.position]? = some '\n')
    if here then [r] else []
  | .textStart, r => if r.position = 0 then [r] else []
  | .textEnd, r => if r.position = s.chars.size then [r] else []
  | .between test, r =>
    if test (s.wordBefore r.position) (s.wordAt r.position) then [r] else []
  | .both a b, r => firstOfEach exact ((a.ends s exact r).flatMap (b.ends s exact))
  | .either a b, r => firstOfEach exact (a.ends s exact r ++ b.ends s exact r)
  | .repeated a least most, r =>
    let step := a.ends s exact
    let more (n : Reached) : List Reached :=
      match most with
      | some most => upTo exact step (most - least) n
      | none =>
        if exact then upTo exact step (s.chars.size + 1) n
        else (closure step (s.chars.size + 1) n [n.position]).1
    firstOfEach exact ((exactly exact step least r).flatMap more)
  | .group number a, r =>
    (a.ends s exact r).map fun e =>
      { e with groups := (number, r.position, e.position) ::
          e.groups.filter fun g => g.1 ≠ number }
  | .same number, r =>
    match r.groups.lookup number with
    | none => []
    | some (start, stop) =>
      let size := stop - start
      let fold (cs : Raw) : Raw := if s.folds then cs.map Char.toLower else cs
      if fold (s.part start stop) = fold (s.part r.position (r.position + size)) &&
          r.position + size ≤ s.chars.size then
        [{ r with position := r.position + size }]
      else []

/-- A match: where it starts, where it ends, and its groups. -/
structure Found where
  start : Nat
  stop : Nat
  groups : List (Nat × Nat × Nat)

/-- The longest match that starts at a position. -/
def matchAt? (p : Pattern) (s : Subject) (start : Nat) : Option Found :=
  let best := (p.ends s p.refers ⟨start, []⟩).foldl (fun (best : Option Reached) r =>
    match best with
    | none => some r
    | some b => if b.position < r.position then some r else best) none
  best.map fun r => ⟨start, r.position, r.groups⟩

/-- The first match that starts at a position or behind it. -/
def find? (p : Pattern) (s : Subject) (start : Nat) : Option Found :=
  (List.range' start (s.chars.size + 1 - start)).findSome? (p.matchAt? s)

/-- The text of a group of a match; the whole match has the number zero. -/
def Found.group (f : Found) (s : Subject) (number : Nat) : Raw :=
  if number = 0 then s.part f.start f.stop
  else
    match f.groups.lookup number with
    | some (start, stop) => s.part start stop
    | none => []

end Pattern

end TextChain.Tool
