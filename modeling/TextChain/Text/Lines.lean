import TextChain.Text.Blank

/-!
# Lines

A text is cut into lines at every line feed. `splitLines` also drops one carriage return at the end
of a line, so documents with either line ending have the same lines; `padTo` indents every line of a
text to at least a given width.
-/

namespace TextChain.Text

/-- The pieces of a text between the occurrences of a character; never the empty list. -/
def pieces (separator : Char) (s : String) : List String :=
  (s.toList.splitOn separator).map String.ofList

/-- The parts of a text with a line feed between each two of them. -/
def joinLines (lines : List String) : String :=
  "\n".intercalate lines

/-- A line without the carriage return that ends it, if one does. -/
def dropReturn (line : List Char) : List Char :=
  match line.getLast? with
  | some '\r' => line.dropLast
  | _ => line

/-- The lines of a document, which may end in `\n` or in `\r\n`. -/
def splitLines (text : String) : List String :=
  (text.toList.splitOn '\n').map fun line => String.ofList (dropReturn line)

/-- A line with as many spaces in front as it lacks to an indent of `base`. -/
def padLine (base : Nat) (line : String) : String :=
  let width := indentWidth line
  if width < base then String.ofList (List.replicate (base - width) ' ') ++ line else line

/-- Indents every line of a text to at least `base` characters. -/
def padTo (base : Nat) (text : String) : String :=
  if base = 0 then text else joinLines ((pieces '\n' text).map (padLine base))

/-- Joining the pieces that a line feed separates gives the text back. -/
theorem joinLines_pieces (text : String) : joinLines (pieces '\n' text) = text := by
  apply String.toList_inj.1
  rw [joinLines, pieces, String.toList_intercalate, List.map_map,
    show String.toList ∘ String.ofList = id from funext fun _ => String.toList_ofList, List.map_id]
  exact List.intercalate_splitOn '\n'

theorem padLine_of_le {base : Nat} {line : String} (h : base ≤ indentWidth line) :
    padLine base line = line :=
  if_neg (Nat.not_lt.2 h)

theorem padTo_zero (text : String) : padTo 0 text = text := rfl

/-- Padding a text pads its lines. No line is moved by an indent of zero, so there the text can stay as it
is. -/
theorem padTo_eq (base : Nat) (text : String) :
    padTo base text = joinLines ((pieces '\n' text).map (padLine base)) := by
  unfold padTo
  split
  next h =>
    rw [h, show padLine 0 = id from funext fun _ => padLine_of_le (Nat.zero_le _), List.map_id,
      joinLines_pieces]
  next => rfl

end TextChain.Text
