import TextChain.Text.CaseTable

/-!
# Lower case

The lower case form of a text. It depends on single characters, except that a capital sigma takes its
final form at the end of a word.
-/

namespace TextChain.Text

def isCased (c : Char) : Bool :=
  casedRanges.any fun r => r.1 ≤ c.toNat && c.toNat ≤ r.2

/-- Whether a character does not count when the case of a neighbour is asked for. -/
def isCaseIgnorable (c : Char) : Bool :=
  caseIgnorableRanges.any fun r => r.1 ≤ c.toNat && c.toNat ≤ r.2

/-- Whether the nearest character that counts is a letter with a case. -/
def startsCased (cs : List Char) : Bool :=
  match cs.dropWhile isCaseIgnorable with
  | [] => false
  | c :: _ => isCased c

/-- The lower case form of a character by itself. -/
def lowerChar (c : Char) : Char :=
  let n := c.toNat
  match lowercaseRuns.find? fun (first, last, step, _) =>
      first ≤ n && n ≤ last && (n - first) % step = 0 with
  | some (_, _, _, distance) => Char.ofNat (n + distance).toNat
  | none => c

/-- The lower case form of a text after some characters, which stand in reverse order. -/
def lowerAfter (before : List Char) : List Char → List Char
  | [] => []
  | c :: cs =>
    let form :=
      if c = 'Σ' then if startsCased before && !startsCased cs then ['ς'] else ['σ']
      else if c = 'İ' then ['i', '\u0307']
      else [lowerChar c]
    form ++ lowerAfter (c :: before) cs

/-- The lower case form of a text. -/
def lowercase (s : String) : String :=
  String.ofList (lowerAfter [] s.toList)

end TextChain.Text
