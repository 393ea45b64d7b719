import TextChain.Text.Quoted

/-!
# Shielded texts

A text on its way to a terminal: the control characters that start a command for a terminal, or that
move its cursor back, are spelled out.
-/

namespace TextChain.Text

/-- Whether a terminal may take a character for a part of a command. -/
def isTerminalControl (c : Char) : Bool :=
  ['\x07', '\x08', '\x0c', '\x1b', '\x7f'].contains c

def shieldedChar (c : Char) : String :=
  if isTerminalControl c then
    "\\x" ++ String.ofList ((Nat.toDigits 16 (0x100 + c.toNat)).drop 1)
  else if 0x80 ≤ c.toNat && c.toNat ≤ 0x9F then "\\u\x7b" ++ hexText c.toNat ++ "\x7d"
  else c.toString

/-- A text as it is sent to a terminal. -/
def shielded (s : String) : String :=
  String.join (s.toList.map shieldedChar)

end TextChain.Text
