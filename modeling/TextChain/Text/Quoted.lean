import TextChain.Text.Unprintable

/-!
# Quoted texts

How a text is shown inside a description of a value: between quotes, with quotes, backslashes and
whatever cannot be shown spelled out. `list` shows texts between brackets.
-/

namespace TextChain.Text

def hexText (n : Nat) : String :=
  String.ofList (Nat.toDigits 16 n)

def quotedChar (c : Char) : String :=
  match c with
  | '\x00' => "\\0"
  | '\t' => "\\t"
  | '\n' => "\\n"
  | '\r' => "\\r"
  | '"' => "\\\""
  | '\\' => "\\\\"
  | c =>
    if isUnprintable c then "\\u\x7b" ++ hexText c.toNat ++ "\x7d" else c.toString

def quoted (s : String) : String :=
  "\"" ++ String.join (s.toList.map quotedChar) ++ "\""

def quotedList (items : List String) : String :=
  "[" ++ ", ".intercalate (items.map quoted) ++ "]"

end TextChain.Text
