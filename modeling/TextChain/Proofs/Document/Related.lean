import TextChain.Proofs.Document.Layout

/-!
# Documents compiled in two ways

Compiling a document does nothing with the computations that make its blocks but run them in order and
use their texts. So when two ways to make blocks correspond, the documents compiled with them
correspond as well (`compile_related`), for every relation that returning a text and running one
computation after the other keep.
-/

namespace TextChain

/-- A relation between the computations of two monads that returning and sequencing keep. -/
structure Correspondence (μ ν : Type → Type) [Monad μ] [Monad ν] where
  /-- The computations correspond. -/
  rel : {α : Type} → μ α → ν α → Prop
  rel_pure : ∀ {α : Type} (a : α), rel (pure a : μ α) (pure a : ν α)
  rel_bind : ∀ {α β : Type} {x : μ α} {y : ν α} {f : α → μ β} {g : α → ν β},
    rel x y → (∀ a, rel (f a) (g a)) → rel (x >>= f) (y >>= g)

namespace Node

mutual

/-- The markers of the blocks in a part. -/
def markers : Node → List Marker
  | .line _ => []
  | .block marker _ body => marker :: markersOf body

/-- The markers of the blocks in the parts of a body. -/
def markersOf : List Node → List Marker
  | [] => []
  | node :: rest => node.markers ++ markersOf rest

end

end Node

namespace Document

variable {source : List String} {owner : Option Nat} {n e : Nat} {nodes : List Node}

/-- The markers of a layout stand in its lines. -/
lemma Layout.exists_markerAt? (h : Layout source owner n nodes e) {marker : Marker}
    (hmem : marker ∈ Node.markersOf nodes) : ∃ i, markerAt? source i = some marker := by
  induction h with
  | stop => simp [Node.markersOf] at hmem
  | line _ _ _ _ ih => exact ih (by simpa [Node.markersOf, Node.markers] using hmem)
  | @block _ n _ _ m opening _ _ hopening hm _ _ _ ih₁ ih₂ =>
    simp only [Node.markersOf, Node.markers, List.cons_append, List.mem_cons,
      List.mem_append] at hmem
    rcases hmem with rfl | hmem | hmem
    · exact ⟨n, by rw [markerAt?_of_getElem? hopening, hm]⟩
    · exact ih₁ hmem
    · exact ih₂ hmem

/-- A document whose stray lines are kept as they are is compiled like the body of a block. -/
lemma compilePieces_eq_compileNodes {μ : Type → Type} [Monad μ] [LawfulMonad μ]
    (run : String → String → μ String) (reject : Nat → String → μ String) (pieces : List Piece)
    (h : ∀ number text, .stray number text ∈ pieces → reject number text = pure text) :
    compilePieces run reject pieces = compileNodes run (pieces.map Piece.node) := by
  induction pieces with
  | nil => rfl
  | cons piece rest ih =>
    rw [compilePieces, List.map_cons, compileNodes,
      ih fun number text hmem => h number text (List.mem_cons_of_mem _ hmem)]
    cases piece with
    | blank text => rfl
    | block marker opening body => rfl
    | stray number text => rw [compilePiece, h number text List.mem_cons_self]; rfl

section Related

variable {μ ν : Type → Type} [Monad μ] [Monad ν] (c : Correspondence μ ν)
  {run : String → String → μ String} {run' : String → String → ν String}
  {reject : Nat → String → μ String} {reject' : Nat → String → ν String}

mutual

lemma compileNode_related (node : Node)
    (hrun : ∀ marker ∈ node.markers, ∀ body,
      c.rel (run marker.extension body) (run' marker.extension body)) :
    c.rel (compileNode run node) (compileNode run' node) := by
  match node with
  | .line text => exact c.rel_pure text
  | .block marker opening body =>
    rw [compileNode, compileNode]
    apply c.rel_bind
    · apply compileNodes_related body
      intro m hm
      exact hrun m (List.mem_cons_of_mem _ hm)
    · intro parts
      exact c.rel_bind (hrun marker List.mem_cons_self _) fun text => c.rel_pure _

lemma compileNodes_related (nodes : List Node)
    (hrun : ∀ marker ∈ Node.markersOf nodes, ∀ body,
      c.rel (run marker.extension body) (run' marker.extension body)) :
    c.rel (compileNodes run nodes) (compileNodes run' nodes) := by
  match nodes with
  | [] => exact c.rel_pure []
  | node :: rest =>
    rw [compileNodes, compileNodes]
    apply c.rel_bind
    · apply compileNode_related node
      intro m hm
      exact hrun m (List.mem_append_left _ hm)
    · intro text
      refine c.rel_bind (compileNodes_related rest ?_) fun texts => c.rel_pure _
      intro m hm
      exact hrun m (List.mem_append_right _ hm)

end

lemma compilePieces_related (pieces : List Piece)
    (hrun : ∀ marker ∈ Node.markersOf (pieces.map Piece.node), ∀ body,
      c.rel (run marker.extension body) (run' marker.extension body))
    (hreject : ∀ number text, .stray number text ∈ pieces →
      c.rel (reject number text) (reject' number text)) :
    c.rel (compilePieces run reject pieces) (compilePieces run' reject' pieces) := by
  induction pieces with
  | nil => exact c.rel_pure []
  | cons piece rest ih =>
    rw [compilePieces, compilePieces]
    refine c.rel_bind ?_ fun text => c.rel_bind (ih ?_ ?_) fun texts => c.rel_pure _
    · cases piece with
      | blank text => exact c.rel_pure text
      | block marker opening body =>
        exact compileNode_related c _ fun m hm => hrun m (List.mem_append_left _ hm)
      | stray number text => exact hreject number text List.mem_cons_self
    · exact fun m hm => hrun m (List.mem_append_right _ hm)
    · exact fun number text hmem => hreject number text (List.mem_cons_of_mem _ hmem)

/-- Documents whose blocks are made in two ways that correspond have compilations that correspond. -/
theorem compile_related (d : Document)
    (hrun : ∀ marker ∈ Node.markersOf d.topNodes, ∀ body,
      c.rel (run marker.extension body) (run' marker.extension body))
    (hreject : ∀ number text, .stray number text ∈ d.pieces →
      c.rel (reject number text) (reject' number text)) :
    c.rel (d.compile run reject) (d.compile run' reject') :=
  c.rel_bind (compilePieces_related c d.pieces hrun hreject) fun _ => c.rel_pure _

end Related

end Document

end TextChain
