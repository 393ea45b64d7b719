import TextChain.Tool.Raw
import TextChain.Tool.Tree

/-!
# Wildcards

Patterns of names: a star stands for any text, a question mark for a character, and brackets for a
character of a set. Characters in quotes stand for themselves.
-/

namespace TextChain.Tool.Shell

/-- A character of a word, and whether it may have a meaning in a pattern. -/
abbrev Marked := Char × Bool

def textOfMarked (cs : List Marked) : Raw :=
  cs.map Prod.fst

inductive Wild
  | char (c : Char)
  | anyText
  | oneOf (accepts : Char → Bool)

/-- The name of a class in brackets inside a set, and what is behind it. -/
def className? : List Marked → Option (Raw × List Marked)
  | (':', _) :: (']', _) :: rest => some ([], rest)
  | (c, _) :: rest => (className? rest).map fun (name, rest) => (c :: name, rest)
  | [] => none

/-- Reads the items of a set; none if it has no end. The first argument bounds their number. -/
def wildSet? : Nat → Bool → List Marked → Option ((Char → Bool) × List Marked)
  | 0, _, _ => none
  | _, _, [] => none
  | fuel + 1, first, (c, active) :: rest =>
    if c = ']' && active && !first then some (fun _ => false, rest)
    else
      let single (c : Char) (rest : List Marked) : Option ((Char → Bool) × List Marked) :=
        match rest with
        | ('-', true) :: (d, mark) :: after =>
          if d = ']' && mark then
            (wildSet? fuel false rest).map fun (more, after) => (fun a => a = c || more a, after)
          else
            (wildSet? fuel false after).map fun (more, after) =>
              (fun a => (c ≤ a && a ≤ d) || more a, after)
        | rest => (wildSet? fuel false rest).map fun (more, after) => (fun a => a = c || more a, after)
      match c, active, rest with
      | '[', true, (':', true) :: inner =>
        match className? inner with
        | some (name, after) =>
          match classOf? name with
          | some accepts =>
            (wildSet? fuel false after).map fun (more, after) =>
              (fun a => accepts a || more a, after)
          | none => single c rest
        | none => single c rest
      | _, _, _ => single c rest

def bracketSet? (cs : List Marked) : Option ((Char → Bool) × List Marked) :=
  match cs with
  | (c, true) :: rest =>
    if c = '!' || c = '^' then
      (wildSet? (rest.length + 1) true rest).map fun (accepts, after) => (fun a => !accepts a, after)
    else wildSet? (cs.length + 1) true cs
  | cs => wildSet? (cs.length + 1) true cs

/-- The items of a pattern. The first argument bounds the number of characters. -/
def wildItems : Nat → List Marked → List Wild
  | 0, _ => []
  | _, [] => []
  | fuel + 1, (c, active) :: rest =>
    if !active then .char c :: wildItems fuel rest
    else
      match c with
      | '*' => .anyText :: wildItems fuel rest
      | '?' => .oneOf (fun _ => true) :: wildItems fuel rest
      | '[' =>
        match bracketSet? rest with
        | some (accepts, after) => .oneOf accepts :: wildItems fuel after
        | none => .char '[' :: wildItems fuel rest
      | '\\' =>
        match rest with
        | (d, _) :: after => .char d :: wildItems fuel after
        | [] => [.char '\\']
      | c => .char c :: wildItems fuel rest

def wildOf (cs : List Marked) : List Wild :=
  wildItems (cs.length + 1) cs

/-- Whether a text can be divided so that its rest passes a test. -/
def someRest (test : Raw → Bool) : Raw → Bool
  | [] => test []
  | c :: cs => test (c :: cs) || someRest test cs

def wildMatches : List Wild → Raw → Bool
  | [], text => text = []
  | .char c :: rest, a :: text => c = a && wildMatches rest text
  | .oneOf accepts :: rest, a :: text => accepts a && wildMatches rest text
  | .anyText :: rest, text => someRest (wildMatches rest) text
  | _, [] => false

/-- The size of the part at the start or the end of a text that a pattern matches; 0 if there is
none. -/
def matchSize (fromEnd longest : Bool) (pattern : List Wild) (text : Raw) : Nat :=
  let sizes := List.range (text.length + 1)
  let sizes := if longest then sizes.reverse else sizes
  let part (n : Nat) : Raw := if fromEnd then text.drop (text.length - n) else text.take n
  (sizes.find? fun n => wildMatches pattern (part n)).getD 0

/-! ### Names of files -/

/-- Whether a character has a meaning in a pattern. -/
def isWildSign (c : Marked) : Bool :=
  c.2 && (c.1 = '*' || c.1 = '?' || c.1 = '[')

/-- The names in a directory that a pattern matches. A dot at the start of a name has to be written. -/
def matchingNames (t : Tree) (directory : Raw) (component : List Marked) : List Raw :=
  let path := if directory = [] then ['.'] else directory
  match t.resolve path with
  | .error _ => []
  | .ok names =>
    let found := [['.'], ['.', '.']] ++ (t.namesIn names).map String.toList
    let shown := found.filter fun name => name.head? ≠ some '.' || (component.map Prod.fst).head? = some '.'
    shown.filter (wildMatches (wildOf component))

/-- The paths that a pattern matches, which is given by its components. -/
def matchingPaths (t : Tree) (directory : Raw) : List (List Marked) → List Raw
  | [] => []
  | [component] =>
    if component.any isWildSign then (matchingNames t directory component).map (directory ++ ·)
    else
      let path := directory ++ textOfMarked component
      if component = [] || (t.find path).isOk then [path] else []
  | component :: rest =>
    let starts :=
      if component.any isWildSign then (matchingNames t directory component).map (directory ++ ·)
      else [directory ++ textOfMarked component]
    starts.flatMap fun start => matchingPaths t (start ++ ['/']) rest

def componentsOf (cs : List Marked) : List (List Marked) :=
  cs.splitOnP fun c => c.1 = '/'

/-- The words that a word stands for: the names of files that it matches, or else itself. -/
def expandNames (t : Tree) (cs : List Marked) : List Raw :=
  if !cs.any isWildSign then [textOfMarked cs]
  else
    match matchingPaths t [] (componentsOf cs) with
    | [] => [textOfMarked cs]
    | found => found

end TextChain.Tool.Shell
