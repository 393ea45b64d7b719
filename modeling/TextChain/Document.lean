import TextChain.Marker

/-!
# Documents

A document is cut into blocks, each opened by a marker line. A block owns the lines after its marker
up to a line that is indented less than the marker, another marker with the same indent, or the end;
a marker that is indented more opens a block inside it. At the top level only markers and blank lines
may stand. A blank line inside a block is an ordinary line of it: an empty line has indent zero, so
it closes every block with an indented marker.

`Document.ofLines` finds the blocks and `Document.lines` gives the lines back (`lines_ofLines`).
`Document.compile` compiles the blocks, inner blocks first, with whatever compiles one block.
-/

namespace TextChain

/-- A part of the body of a block. -/
inductive Node
  | line (text : String)
  | block (marker : Marker) (opening : String) (body : List Node)

namespace Node

mutual

/-- The source lines of a part. -/
def lines : Node → List String
  | .line text => [text]
  | .block _ opening body => opening :: linesOf body

/-- The source lines of the parts of a body. -/
def linesOf : List Node → List String
  | [] => []
  | node :: rest => node.lines ++ linesOf rest

end

/-- Reads the body of a block whose marker has the indent `base`: its parts, and the lines after it,
with the proof that they are no more than there were. -/
def scan (base : Nat) (source : List String) :
    { r : List Node × List String // r.2.length ≤ source.length } :=
  match source with
  | [] => ⟨([], []), Nat.le_refl _⟩
  | first :: rest =>
    if Text.indentWidth first < base then ⟨([], first :: rest), Nat.le_refl _⟩
    else
      match Marker.parse? first with
      | none =>
        let ⟨(body, after), h⟩ := scan base rest
        ⟨(.line first :: body, after), Nat.le_succ_of_le h⟩
      | some marker =>
        if base < marker.indent then
          let ⟨(inner, rest'), h⟩ := scan marker.indent rest
          have : rest'.length < rest.length + 1 := Nat.lt_succ_of_le h
          let ⟨(body, after), h'⟩ := scan base rest'
          ⟨(.block marker first inner :: body, after), Nat.le_succ_of_le (Nat.le_trans h' h)⟩
        else ⟨([], first :: rest), Nat.le_refl _⟩
termination_by source.length
decreasing_by all_goals (simp only [List.length_cons]; omega)

/-- The parts of the body of a block, read from the lines after its marker. -/
def body (base : Nat) (source : List String) : List Node :=
  (scan base source).1.1

def afterBody (base : Nat) (source : List String) : List String :=
  (scan base source).1.2

theorem length_afterBody (base : Nat) (source : List String) :
    (afterBody base source).length ≤ source.length :=
  (scan base source).2

/-- Reading a body divides the lines into those of its parts and those after it. -/
theorem linesOf_body (base : Nat) (source : List String) :
    linesOf (body base source) ++ afterBody base source = source := by
  unfold body afterBody
  fun_induction scan base source with
  | case1 => rfl
  | case2 => rfl
  | case3 line rest _ _ body after h heq ih => simp_all [linesOf, lines]
  | case4 line rest _ marker _ _ inner rest' h heq _ body after h' heq' ih₁ ih₂ =>
    simp_all [linesOf, lines]
  | case5 => rfl

end Node

/-- A part of a document at the top level. -/
inductive Document.Piece
  | blank (text : String)
  | block (marker : Marker) (opening : String) (body : List Node)
  /-- A line that belongs to no block, with its number counted from one. -/
  | stray (number : Nat) (text : String)

/-- A document as its top level parts. -/
structure Document where
  /-- The parts in the order of the source. -/
  pieces : List Document.Piece

namespace Document

/-- Reads the top level of a document of `total` lines from its remaining lines. -/
def readPieces (total : Nat) (source : List String) : List Piece :=
  match source with
  | [] => []
  | line :: rest =>
    match Marker.parse? line with
    | some marker =>
      have : (Node.afterBody marker.indent rest).length < rest.length + 1 :=
        Nat.lt_succ_of_le (Node.length_afterBody _ _)
      .block marker line (Node.body marker.indent rest) ::
        readPieces total (Node.afterBody marker.indent rest)
    | none =>
      if Text.isBlankText line then .blank line :: readPieces total rest
      else .stray (total - rest.length) line :: readPieces total rest
termination_by source.length

def ofLines (source : List String) : Document :=
  ⟨readPieces source.length source⟩

def ofText (text : String) : Document :=
  ofLines (Text.splitLines text)

/-- The source lines of a top level part. -/
def Piece.lines : Piece → List String
  | .blank text => [text]
  | .block _ opening body => opening :: Node.linesOf body
  | .stray _ text => [text]

def lines (d : Document) : List String :=
  d.pieces.flatMap Piece.lines

theorem flatMap_readPieces (total : Nat) (source : List String) :
    (readPieces total source).flatMap Piece.lines = source := by
  fun_induction readPieces total source with
  | case1 => rfl
  | case2 line rest marker _ _ ih =>
    rw [List.flatMap_cons, ih, Piece.lines, List.cons_append, Node.linesOf_body]
  | case3 line rest _ _ ih => rw [List.flatMap_cons, ih]; rfl
  | case4 line rest _ _ ih => rw [List.flatMap_cons, ih]; rfl

/-- No line is lost, repeated or moved. -/
theorem lines_ofLines (source : List String) : (ofLines source).lines = source :=
  flatMap_readPieces _ _

/-! ### Compiling -/

section Compiling

variable {μ : Type → Type} [Monad μ]

mutual

/-- Compiles a part of a body. `run` makes the text of a block from its extension and its body. -/
def compileNode (run : String → String → μ String) : Node → μ String
  | .line text => pure text
  | .block marker _ body => do
    let parts ← compileNodes run body
    let text ← run marker.extension (Text.joinLines parts)
    pure (Text.padTo marker.indent text)

/-- Compiles the parts of a body in order. -/
def compileNodes (run : String → String → μ String) : List Node → μ (List String)
  | [] => pure []
  | node :: rest => do
    let text ← compileNode run node
    let texts ← compileNodes run rest
    pure (text :: texts)

end

/-- Compiles a top level part; `reject` is told of a line that belongs to no block. -/
def compilePiece (run : String → String → μ String) (reject : Nat → String → μ String) :
    Piece → μ String
  | .blank text => pure text
  | .block marker opening body => compileNode run (.block marker opening body)
  | .stray number text => reject number text

/-- Compiles the top level parts in order. -/
def compilePieces (run : String → String → μ String) (reject : Nat → String → μ String) :
    List Piece → μ (List String)
  | [] => pure []
  | piece :: rest => do
    let text ← compilePiece run reject piece
    let texts ← compilePieces run reject rest
    pure (text :: texts)

/-- Compiles a document: the texts of its parts with a line feed between each two of them. -/
def compile (run : String → String → μ String) (reject : Nat → String → μ String) (d : Document) :
    μ String := do
  let texts ← compilePieces run reject d.pieces
  pure (Text.joinLines texts)

/-- The empty text has one blank line, so it is compiled to itself. -/
theorem compile_ofText_empty [LawfulMonad μ] (run : String → String → μ String)
    (reject : Nat → String → μ String) : (ofText "").compile run reject = pure "" := by
  have hlines : Text.splitLines "" = [""] := rfl
  have hmarker : Marker.parse? "" = none := rfl
  have hblank : Text.isBlankText "" = true := rfl
  have hpieces : (ofText "").pieces = [.blank ""] := by
    simp [ofText, hlines, ofLines, readPieces, hmarker, hblank]
  simp [compile, hpieces, compilePieces, compilePiece, Text.joinLines]

end Compiling

/-! ### Single blocks -/

/-- The block that a line of a document opens, and the number of its lines; the error is the line
itself, which is empty beyond the end of the document. -/
def blockAt (source : List String) (start : Nat) : Except String (Node × Nat) :=
  match source.drop start with
  | [] => .error ""
  | line :: rest =>
    match Marker.parse? line with
    | none => .error line
    | some marker =>
      let body := Node.body marker.indent rest
      .ok (.block marker line body, 1 + (Node.linesOf body).length)

end Document

end TextChain
