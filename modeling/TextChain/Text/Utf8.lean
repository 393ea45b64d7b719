/-!
# UTF-8

Bytes and the characters they encode. `decode` tells where bytes stop being UTF-8; `decodeLossy` puts a
replacement character in place of each longest run of bytes that starts a character but does not
complete it.
-/

namespace TextChain.Text.Utf8

abbrev Bytes := List UInt8

def encode (s : String) : Bytes :=
  s.toUTF8.toList

/-- Where bytes stop being UTF-8. -/
inductive Fault
  /-- From this index on, so many bytes cannot be part of any character. -/
  | invalid (length index : Nat)
  /-- The bytes end inside the character that starts at this index. -/
  | incomplete (index : Nat)
deriving DecidableEq, Repr

def Fault.message : Fault → String
  | .invalid length index => s!"invalid utf-8 sequence of {length} bytes from index {index}"
  | .incomplete index => s!"incomplete utf-8 byte sequence from index {index}"

/-- How a character starts: the number of bytes that follow, the bits of the first byte that count,
and the range of the second byte. -/
def lead? (b : UInt8) : Option (Nat × Nat × Nat × Nat) :=
  let n := b.toNat
  if n < 0x80 then some (0, n, 0, 0)
  else if n < 0xC2 then none
  else if n < 0xE0 then some (1, n - 0xC0, 0x80, 0xBF)
  else if n = 0xE0 then some (2, 0, 0xA0, 0xBF)
  else if n = 0xED then some (2, 0xD, 0x80, 0x9F)
  else if n < 0xF0 then some (2, n - 0xE0, 0x80, 0xBF)
  else if n = 0xF0 then some (3, 0, 0x90, 0xBF)
  else if n < 0xF4 then some (3, n - 0xF0, 0x80, 0xBF)
  else if n = 0xF4 then some (3, 4, 0x80, 0x8F)
  else none

/-- What the first bytes of a sequence are. -/
inductive Start
  | char (c : Char) (length : Nat)
  /-- So many bytes that belong to no character. -/
  | invalid (length : Nat)
  /-- The start of a character that goes beyond the end. -/
  | incomplete

/-- Reads `missing` more bytes of a character whose next byte lies in a range. -/
def follow (bits taken : Nat) : Nat → Nat → Nat → Bytes → Start
  | 0, _, _, _ => .char (Char.ofNat bits) taken
  | _ + 1, _, _, [] => .incomplete
  | missing + 1, low, high, b :: rest =>
    if low ≤ b.toNat ∧ b.toNat ≤ high then
      follow (bits * 64 + (b.toNat - 0x80)) (taken + 1) missing 0x80 0xBF rest
    else .invalid taken

def start (b : UInt8) (rest : Bytes) : Start :=
  match lead? b with
  | none => .invalid 1
  | some (missing, bits, low, high) => follow bits 1 missing low high rest

def decodeFrom (index : Nat) (bytes : Bytes) : Except Fault (List Char) :=
  match bytes with
  | [] => .ok []
  | b :: rest =>
    match start b rest with
    | .char c length =>
      (decodeFrom (index + length) (rest.drop (length - 1))).map (c :: ·)
    | .invalid length => .error (.invalid length index)
    | .incomplete => .error (.incomplete index)
termination_by bytes.length
decreasing_by simp only [List.length_drop, List.length_cons]; omega

def decode (bytes : Bytes) : Except Fault String :=
  (decodeFrom 0 bytes).map String.ofList

/-- Decodes bytes with replacement characters. -/
def decodeLossyChars (bytes : Bytes) : List Char :=
  match bytes with
  | [] => []
  | b :: rest =>
    match start b rest with
    | .char c length => c :: decodeLossyChars (rest.drop (length - 1))
    | .invalid length => '\uFFFD' :: decodeLossyChars (rest.drop (length - 1))
    | .incomplete => ['\uFFFD']
termination_by bytes.length
decreasing_by all_goals (simp only [List.length_drop, List.length_cons]; omega)

/-- The text that bytes encode, with replacement characters where they encode none. -/
def decodeLossy (bytes : Bytes) : String :=
  String.ofList (decodeLossyChars bytes)

end TextChain.Text.Utf8
