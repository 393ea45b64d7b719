import TextChain.Stage
import TextChain.Text.Blank

/-!
# Templates

A placeholder is a dotted key between double braces, with blanks around it. `Template.render` puts
the option at the end of the key's path in place of each placeholder, in one pass: what is put in is
not looked at again, and all other text stays as it is.
-/

namespace TextChain

namespace Template

/-- Whether a character can belong to a segment of a key. -/
def isKeyChar (c : Char) : Bool :=
  c.isAlphanum || c = '_' || c = '-'

inductive Part
  | char (c : Char)
  | placeholder (key : List String)
deriving DecidableEq, Repr

/-- Whether a text is a key: segments with a dot between each two, none of them empty. -/
def isKey (cs : List Char) : Bool :=
  (cs.splitOn '.').all fun segment => !segment.isEmpty && segment.all isKeyChar

def segments (cs : List Char) : List String :=
  (cs.splitOn '.').map String.ofList

/-- Reads a placeholder after its opening braces, up to and with its closing braces. -/
def placeholder? (cs : List Char) : Option (List String × List Char) :=
  let cs := cs.dropWhile Text.isBlank
  let isPart (c : Char) : Bool := isKeyChar c || c = '.'
  let key := cs.takeWhile isPart
  match (cs.dropWhile isPart).dropWhile Text.isBlank with
  | '\x7d' :: '\x7d' :: rest => if isKey key then some (segments key, rest) else none
  | _ => none

theorem length_dropWhile_le (p : Char → Bool) (cs : List Char) :
    (cs.dropWhile p).length ≤ cs.length :=
  (List.dropWhile_suffix p).length_le

theorem length_placeholder? {cs : List Char} {r : List String × List Char}
    (h : placeholder? cs = some r) : r.2.length ≤ cs.length := by
  simp only [placeholder?] at h
  split at h
  next rest heq =>
    split at h
    · cases h
      have h₁ := congrArg List.length heq
      have h₂ := length_dropWhile_le Text.isBlank cs
      have h₃ := length_dropWhile_le (fun c => isKeyChar c || decide (c = '.'))
        (cs.dropWhile Text.isBlank)
      have h₄ := length_dropWhile_le Text.isBlank
        ((cs.dropWhile Text.isBlank).dropWhile fun c => isKeyChar c || decide (c = '.'))
      simp only [List.length_cons] at h₁
      simp only
      omega
    · simp at h
  next => simp at h

/-- Cuts a template into parts, from left to right. -/
def parts (cs : List Char) : List Part :=
  match cs with
  | [] => []
  | '\x7b' :: '\x7b' :: cs =>
    match h : placeholder? cs with
    | some (key, rest) =>
      have : rest.length ≤ cs.length := length_placeholder? h
      .placeholder key :: parts rest
    | none => .char '\x7b' :: parts ('\x7b' :: cs)
  | c :: cs => .char c :: parts cs
termination_by cs.length
decreasing_by all_goals (simp only [List.length_cons]; omega)

/-- The text that stands for an option: a string stands for itself, nothing for null and for what is
missing, and any other value is written as JSON. -/
def valueText : Option Json → String
  | some (.string s) => s
  | some .null => ""
  | none => ""
  | some v => v.compact

def Part.text (options : Options) : Part → String
  | .char c => c.toString
  | .placeholder key => valueText (options.path? key)

/-- Fills in a template. -/
def render (source : String) (options : Options) : String :=
  String.join ((parts source.toList).map (Part.text options))

end Template

/-- The stage whose output is the renderer of its text as a template. -/
def Stage.template (name : String) (origin : Origin) : Stage where
  name := name
  origin := origin
  run := fun text _ => .ok (.deferred ⟨fun options => .ok (Template.render text options)⟩)

end TextChain
