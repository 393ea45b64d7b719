import TextChain.Tool.Shell.State
import TextChain.Tool.Shell.Wildcard

/-!
# Fields

A word whose values are put in is a list of glyphs. Values outside of quotes are divided into fields at
separators: blanks, of which several count as one, and other signs, each of which ends a field.
-/

namespace TextChain.Tool.Shell

/-- Where a character of a word comes from. -/
inductive Mark
  | plain
  | quoted
  /-- It is put in outside of quotes. -/
  | expanded
deriving DecidableEq

/-- A part of a word whose values are put in. -/
inductive Glyph
  | char (c : Char) (mark : Mark)
  /-- Makes a field even if it is empty. -/
  | presence
  /-- Stands between the values of all positional parameters. -/
  | boundary
deriving DecidableEq

def glyphsOf (mark : Mark) (cs : Raw) : List Glyph :=
  cs.map fun c => .char c mark

def boundGlyphs (mark : Mark) (values : List Raw) : List Glyph :=
  let each := values.map fun v =>
    if mark = .quoted then .presence :: glyphsOf mark v else glyphsOf mark v
  [Glyph.boundary].intercalate each

/-- The text of glyphs; values are joined by a text. -/
def textOfGlyphs (joint : Raw) (gs : List Glyph) : Raw :=
  gs.flatMap fun
    | .char c _ => [c]
    | .presence => []
    | .boundary => joint

/-- The characters of glyphs that may have a meaning in a pattern, and those that have none. -/
def markedOf (joint : Raw) (gs : List Glyph) : List Marked :=
  gs.flatMap fun
    | .char c mark => [(c, decide (mark ≠ .quoted))]
    | .presence => []
    | .boundary => joint.map (·, false)

/-- The glyphs without so many of the characters and boundaries at their start. -/
def dropGlyphs : Nat → List Glyph → List Glyph
  | n, .presence :: gs => .presence :: dropGlyphs n gs
  | 0, gs => gs
  | _, [] => []
  | n + 1, _ :: gs => dropGlyphs n gs

/-- The glyphs without the part at their start or their end that a pattern matches. A
boundary counts as a blank. -/
def trimGlyphs (fromEnd longest : Bool) (pattern : List Wild) (gs : List Glyph) : List Glyph :=
  let n := matchSize fromEnd longest pattern (textOfGlyphs [' '] gs)
  if fromEnd then (dropGlyphs n gs.reverse).reverse else dropGlyphs n gs

/-! ### Separators -/

inductive Part
  | text
  | blank
  | sign
deriving DecidableEq

/-- What a glyph does for the division into fields at some separators. -/
def Glyph.part (separators : Raw) : Glyph → Part
  | .char c .expanded =>
    if !separators.contains c then .text
    else if usualSeparators.contains c then .blank
    else .sign
  | _ => .text

inductive Place
  | start
  /-- Behind a blank that ended a field, where a sign still belongs to the end of that field. -/
  | behindBlank
  /-- In a field with these glyphs, the latest first. -/
  | inside (glyphs : List Glyph)

/-- The last field: all of the rest but separators at its end. If the rest is only one field, a sign at
its end goes, too. -/
def lastField (separators : Raw) (gs : List Glyph) : List Glyph :=
  let isText (g : Glyph) : Bool := g.part separators = .text
  let tail := gs.dropWhile isText
  if !tail.any isText && (tail.filter fun g => g.part separators = .sign).length ≤ 1 then
    gs.takeWhile isText
  else (gs.reverse.dropWhile fun g => g.part separators = .blank).reverse

/-- Divides glyphs into fields, at most as many as a limit says. -/
def divide (separators : Raw) : Option Nat → Place → List Glyph → List (List Glyph)
  | _, .inside gs, [] => [gs.reverse]
  | _, _, [] => []
  | left, place, g :: rest =>
    let fewer := left.map (· - 1)
    match g, g.part separators, place with
    | .boundary, _, .inside gs => gs.reverse :: divide separators fewer .start rest
    | .boundary, _, _ => divide separators left .start rest
    | _, .blank, .inside gs => gs.reverse :: divide separators fewer .behindBlank rest
    | _, .blank, place => divide separators left place rest
    | _, .sign, .behindBlank => divide separators left .start rest
    | _, .sign, .inside gs => gs.reverse :: divide separators fewer .start rest
    | g, .sign, .start =>
      if left = some 1 then [lastField separators (g :: rest)]
      else [] :: divide separators fewer .start rest
    | g, .text, .inside gs => divide separators left (.inside (g :: gs)) rest
    | g, .text, _ =>
      if left = some 1 then [lastField separators (g :: rest)]
      else divide separators left (.inside [g]) rest

/-- The words that glyphs stand for: fields, and names of files for patterns unless the option against
it is set. -/
def State.wordsOf (s : State) (gs : List Glyph) : List Raw :=
  (divide s.separators none .start gs).flatMap fun field =>
    if s.options.contains 'f' then [textOfGlyphs [] field]
    else expandNames s.tree (markedOf [] field)

/-- What joins the values of all positional parameters in a text. -/
def State.joint (s : State) : Raw :=
  s.separators.take 1

def State.plainOf (s : State) (gs : List Glyph) : Raw :=
  textOfGlyphs s.joint gs

end TextChain.Tool.Shell
