import TextChain.Text.Lines

/-!
# Marker lines

A marker line opens a block of a document: blanks, an optional quote, `>>`, blanks, and then the
extension that selects the chain of the block.

```text
">> markdown
    '>> css
```
-/

namespace TextChain

structure Marker where
  /-- The number of blanks in front of the marker. -/
  indent : Nat
  /-- The extension whose chain compiles the block. -/
  extension : String
deriving DecidableEq, Repr

namespace Marker

/-- The two quotes that may stand before the marker and that end its extension. -/
def isQuote (c : Char) : Bool :=
  c = '\'' || c = '"'

/-- Whether a character can belong to the extension of a marker. -/
def isTag (c : Char) : Bool :=
  !Text.isBlank c && !isQuote c

/-- The text without its first character, if that is a quote. -/
def dropQuote : List Char → List Char
  | [] => []
  | c :: cs => if isQuote c then cs else c :: cs

/-- The extension in what follows the indent and the quote of a marker line. -/
def extension? : List Char → Option (List Char)
  | '>' :: '>' :: cs =>
    match (cs.dropWhile Text.isBlank).takeWhile isTag with
    | [] => none
    | tag => some tag
  | _ => none

/-- Recognises a marker line. Its indent is the number of blanks in front. -/
def parse? (line : String) : Option Marker :=
  let blanks := line.toList.takeWhile Text.isBlank
  let rest := line.toList.dropWhile Text.isBlank
  (extension? (dropQuote rest)).map fun tag => ⟨blanks.length, String.ofList tag⟩

theorem parse?_eq (line : String) :
    parse? line = (extension? (dropQuote (line.toList.dropWhile Text.isBlank))).map fun tag =>
      ⟨Text.indentWidth line, String.ofList tag⟩ := rfl

/-- A marker is indented as much as its line. -/
theorem indent_eq_of_parse? {line : String} {m : Marker} (h : parse? line = some m) :
    m.indent = Text.indentWidth line := by
  rw [parse?_eq] at h
  obtain ⟨_, _, rfl⟩ := Option.map_eq_some_iff.1 h
  rfl

end Marker

end TextChain
