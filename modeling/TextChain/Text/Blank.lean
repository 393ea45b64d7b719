/-!
# Blank characters

A character is blank when it has the Unicode property White_Space. Trimming and indents go by
this class alone: the separators `U+001C` to `U+001F`, the zero width space and the byte order mark
are not blank.
-/

namespace TextChain.Text

/-- The code points with the property White_Space, as inclusive ranges in ascending order. -/
def blankRanges : List (Nat × Nat) :=
  [(0x09, 0x0D), (0x20, 0x20), (0x85, 0x85), (0xA0, 0xA0), (0x1680, 0x1680), (0x2000, 0x200A),
   (0x2028, 0x2029), (0x202F, 0x202F), (0x205F, 0x205F), (0x3000, 0x3000)]

/-- Whether a character has the property White_Space. -/
def isBlank (c : Char) : Bool :=
  blankRanges.any fun r => r.1 ≤ c.toNat && c.toNat ≤ r.2

def trimRight (cs : List Char) : List Char :=
  (cs.reverse.dropWhile isBlank).reverse

/-- Drops the blanks at both ends. -/
def trimChars (cs : List Char) : List Char :=
  trimRight (cs.dropWhile isBlank)

/-- A text without the blanks at its ends. -/
def trim (s : String) : String :=
  String.ofList (trimChars s.toList)

/-- Whether a text has no character but blanks. -/
def isBlankText (s : String) : Bool :=
  s.toList.all isBlank

/-- The number of blanks that a line starts with. A tab counts as one, like a space. -/
def indentWidth (line : String) : Nat :=
  (line.toList.takeWhile isBlank).length

@[simp]
theorem trim_empty : trim "" = "" := rfl

theorem isBlank_space : isBlank ' ' = true := by decide

end TextChain.Text
