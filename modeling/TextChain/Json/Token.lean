import TextChain.Dict

/-!
# JSON tokens

The words of a JSON text. Numbers and strings are kept as they are written: whether a number is in
range and whether the units of a string make up characters is decided where a value is wanted.
-/

namespace TextChain.Json

structure Numeral where
  /-- Whether it starts with a minus sign. -/
  negative : Bool
  whole : List Nat
  /-- The digits after the point; none without a point. -/
  fraction : List Nat
  /-- Whether the power of ten is negative, and its digits. -/
  power : Option (Bool × List Nat)
deriving DecidableEq, Repr

/-- A piece of a written string: a character, or a unit given by four hexadecimal digits. -/
inductive Piece
  | char (c : Char)
  | unit (code : Nat)
deriving DecidableEq, Repr

inductive Token
  | openArray
  | closeArray
  | openObject
  | closeObject
  | comma
  | colon
  | null
  | bool (value : Bool)
  | number (text : Numeral)
  | string (pieces : List Piece)
deriving DecidableEq, Repr

/-! ### Numbers -/

def digit? (c : Char) : Option Nat :=
  if '0' ≤ c ∧ c ≤ '9' then some (c.toNat - 48) else none

/-- The decimal digits that a text starts with, and the rest. -/
def digits : List Char → List Nat × List Char
  | [] => ([], [])
  | c :: cs =>
    match digit? c with
    | some d => ((digits cs).1.cons d, (digits cs).2)
    | none => ([], c :: cs)

theorem length_digits (cs : List Char) : (digits cs).2.length ≤ cs.length := by
  induction cs with
  | nil => simp [digits]
  | cons c cs ih =>
    unfold digits
    split
    · exact Nat.le_succ_of_le ih
    · exact Nat.le_refl _

/-- Reads the point and the digits after it, of which there is at least one. -/
def fraction? : List Char → Option (List Nat × List Char)
  | '.' :: cs =>
    match digits cs with
    | ([], _) => none
    | found => some found
  | cs => some ([], cs)

theorem length_fraction? {cs : List Char} {r : List Nat × List Char} (h : fraction? cs = some r) :
    r.2.length ≤ cs.length := by
  unfold fraction? at h
  split at h
  next cs =>
    have := length_digits cs
    split at h
    · exact absurd h (by simp)
    · cases h; exact Nat.le_succ_of_le this
  next => cases h; exact Nat.le_refl _

/-- The sign of a power of ten, and the rest. -/
def powerSign : List Char → Bool × List Char
  | '-' :: cs => (true, cs)
  | '+' :: cs => (false, cs)
  | cs => (false, cs)

theorem length_powerSign (cs : List Char) : (powerSign cs).2.length ≤ cs.length := by
  unfold powerSign
  split <;> simp

/-- Reads the power of ten, which has at least one digit. -/
def power? : List Char → Option (Option (Bool × List Nat) × List Char)
  | [] => some (none, [])
  | c :: cs =>
    if c = 'e' ∨ c = 'E' then
      match digits (powerSign cs).2 with
      | ([], _) => none
      | (ds, rest) => some (some ((powerSign cs).1, ds), rest)
    else some (none, c :: cs)

theorem length_power? {cs : List Char} {r : Option (Bool × List Nat) × List Char}
    (h : power? cs = some r) : r.2.length ≤ cs.length := by
  unfold power? at h
  split at h
  · cases h; exact Nat.le_refl _
  next c cs =>
    have h₁ := length_digits (powerSign cs).2
    have h₂ := length_powerSign cs
    split at h
    · split at h
      · exact absurd h (by simp)
      next heq => cases h; simp_all; omega
    · cases h; exact Nat.le_refl _

/-- The minus sign that a number may start with, and the rest. -/
def minus : List Char → Bool × List Char
  | '-' :: cs => (true, cs)
  | cs => (false, cs)

theorem length_minus (cs : List Char) : (minus cs).2.length ≤ cs.length := by
  unfold minus
  split <;> simp

/-- Whether digits can stand before the point: at least one, and no zero in front of others. -/
def isWhole : List Nat → Bool
  | [] => false
  | [_] => true
  | d :: _ => d ≠ 0

def numeral? (cs : List Char) : Option (Numeral × List Char) :=
  let (negative, rest) := minus cs
  let (whole, rest) := digits rest
  if isWhole whole then
    (fraction? rest).bind fun (fraction, rest) =>
      (power? rest).map fun (power, rest) => (⟨negative, whole, fraction, power⟩, rest)
  else none

theorem length_digits_lt {cs : List Char} (h : isWhole (digits cs).1 = true) :
    (digits cs).2.length < cs.length := by
  cases cs with
  | nil => simp [digits, isWhole] at h
  | cons c cs =>
    unfold digits at h ⊢
    split at h
    · exact Nat.lt_succ_of_le (length_digits cs)
    · simp [isWhole] at h

theorem length_numeral? {cs : List Char} {r : Numeral × List Char} (h : numeral? cs = some r) :
    r.2.length < cs.length := by
  simp only [numeral?] at h
  split at h
  next hw =>
    obtain ⟨f, hf, h⟩ := Option.bind_eq_some_iff.1 h
    obtain ⟨p, hp, rfl⟩ := Option.map_eq_some_iff.1 h
    have h₁ := length_minus cs
    have h₂ := length_digits_lt hw
    have h₃ := length_fraction? hf
    have h₄ := length_power? hp
    simp only at h₃ h₄ ⊢
    omega
  next => simp at h

/-! ### Strings -/

def hexDigit? (c : Char) : Option Nat :=
  if '0' ≤ c ∧ c ≤ '9' then some (c.toNat - 48)
  else if 'a' ≤ c ∧ c ≤ 'f' then some (c.toNat - 87)
  else if 'A' ≤ c ∧ c ≤ 'F' then some (c.toNat - 55)
  else none

/-- The unit of four hexadecimal digits. -/
def unit? (a b c d : Char) : Option Nat := do
  let a ← hexDigit? a
  let b ← hexDigit? b
  let c ← hexDigit? c
  let d ← hexDigit? d
  some (((a * 16 + b) * 16 + c) * 16 + d)

/-- The character that a backslash and this character stand for. -/
def escaped? : Char → Option Char
  | '"' => some '"'
  | '\\' => some '\\'
  | '/' => some '/'
  | 'b' => some '\x08'
  | 'f' => some '\x0c'
  | 'n' => some '\n'
  | 'r' => some '\r'
  | 't' => some '\t'
  | _ => none

/-- Reads a string up to its closing quote. -/
def string? : List Char → Option (List Piece × List Char)
  | [] => none
  | '"' :: cs => some ([], cs)
  | '\\' :: 'u' :: a :: b :: c :: d :: cs => do
    let code ← unit? a b c d
    let (pieces, rest) ← string? cs
    some (.unit code :: pieces, rest)
  | '\\' :: c :: cs => do
    let c ← escaped? c
    let (pieces, rest) ← string? cs
    some (.char c :: pieces, rest)
  | c :: cs =>
    if c < ' ' then none
    else do
      let (pieces, rest) ← string? cs
      some (.char c :: pieces, rest)

theorem length_string? {cs : List Char} {r : List Piece × List Char} (h : string? cs = some r) :
    r.2.length < cs.length := by
  fun_induction string? cs generalizing r with
  | case1 => simp at h
  | case2 cs => cases h; simp
  | case3 a b c d cs ih =>
    simp only [Option.bind_eq_bind, Option.bind_eq_some_iff] at h
    obtain ⟨_, _, p, hp, h⟩ := h
    cases h
    have := ih hp
    simp only [List.length_cons]
    omega
  | case4 c cs _ ih =>
    simp only [Option.bind_eq_bind, Option.bind_eq_some_iff] at h
    obtain ⟨_, _, p, hp, h⟩ := h
    cases h
    have := ih hp
    simp only [List.length_cons]
    omega
  | case5 => simp at h
  | case6 c cs _ _ _ _ ih =>
    simp only [Option.bind_eq_bind, Option.bind_eq_some_iff] at h
    obtain ⟨p, hp, h⟩ := h
    cases h
    have := ih hp
    simp only [List.length_cons]
    omega

/-! ### Texts -/

/-- Cuts a JSON text into tokens. Spaces, tabs, line feeds and carriage returns separate them. -/
def tokens? (cs : List Char) : Option (List Token) :=
  match cs with
  | [] => some []
  | ' ' :: cs | '\t' :: cs | '\n' :: cs | '\r' :: cs => tokens? cs
  | '[' :: cs => (tokens? cs).map (.openArray :: ·)
  | ']' :: cs => (tokens? cs).map (.closeArray :: ·)
  | '\x7b' :: cs => (tokens? cs).map (.openObject :: ·)
  | '\x7d' :: cs => (tokens? cs).map (.closeObject :: ·)
  | ',' :: cs => (tokens? cs).map (.comma :: ·)
  | ':' :: cs => (tokens? cs).map (.colon :: ·)
  | 'n' :: 'u' :: 'l' :: 'l' :: cs => (tokens? cs).map (.null :: ·)
  | 't' :: 'r' :: 'u' :: 'e' :: cs => (tokens? cs).map (.bool true :: ·)
  | 'f' :: 'a' :: 'l' :: 's' :: 'e' :: cs => (tokens? cs).map (.bool false :: ·)
  | '"' :: cs =>
    match h : string? cs with
    | some (pieces, rest) =>
      have : rest.length < cs.length := length_string? h
      (tokens? rest).map (.string pieces :: ·)
    | none => none
  | c :: cs =>
    match h : numeral? (c :: cs) with
    | some (text, rest) =>
      have : rest.length < (c :: cs).length := length_numeral? h
      (tokens? rest).map (.number text :: ·)
    | none => none
termination_by cs.length
decreasing_by all_goals simp_all +arith; try omega

end TextChain.Json
