import TextChain.Proofs.Document.Visit

/-!
# Padded blocks

Padding puts the spaces in front of a line that it lacks to a width, and does nothing else, so of two
paddings the larger one counts (`Text.PaddingLaws`). What a block is compiled to is padded to the indent
of its marker. This holds for every block of a document, for a block that stands in others is compiled
as the one that is opened by its marker line (`mem_blocksOf_iff`, `padding_indents_blocks`).
-/

namespace TextChain

/-- The laws of padding a text. -/
structure Text.PaddingLaws (text : String) : Prop where
  /-- The lines of a padded text are indented enough. -/
  indented : ∀ base, ∀ line ∈ pieces '\n' (padTo base text), base ≤ indentWidth line
  /-- They are the lines of the text, each with the spaces that it lacks in front. -/
  lines : ∀ base, pieces '\n' (padTo base text) =
    (pieces '\n' text).map fun line => spaces (base - indentWidth line) ++ line
  /-- Of two paddings one after the other the larger one counts. -/
  twice : ∀ a b, padTo b (padTo a text) = padTo (max a b) text
  /-- No line lacks spaces to an indent of zero. -/
  zero : padTo 0 text = text
  /-- A text stays as it is if no line lacks spaces. -/
  fixed : ∀ base, padTo base text = text ↔ ∀ line ∈ pieces '\n' text, base ≤ indentWidth line

lemma Text.paddingLaws (text : String) : PaddingLaws text where
  indented _ _ h := le_indentWidth_of_mem_pieces_padTo h
  lines base := (pieces_padTo base text).trans
    (List.map_congr_left fun line _ => padLine_eq_spaces_append base line)
  twice a b := padTo_padTo a b text
  zero := padTo_zero text
  fixed _ := padTo_eq_self_iff

/-! ### The blocks of a document -/

namespace Node

mutual

/-- The blocks in a part, with the part itself if it is one. -/
def blocks : Node → List Node
  | .line _ => []
  | .block marker opening body => .block marker opening body :: blocksOf body

/-- The blocks among the parts of a body, at any depth. -/
def blocksOf : List Node → List Node
  | [] => []
  | node :: rest => node.blocks ++ blocksOf rest

end

end Node

namespace Document

variable {source : List String} {owner : Option Nat} {j k n e e' consumed : Nat} {nodes nodes' : List Node}
  {m : Marker} {opening : String} {body : List Node} {block : Node}

/-- There is one way to lay out parts from a line on. -/
lemma Layout.unique (h : Layout source owner n nodes e) (h' : Layout source owner n nodes' e') :
    nodes = nodes' ∧ e = e' := by
  induction h generalizing nodes' e' with
  | stop hout =>
    cases h' with
    | stop => exact ⟨rfl, rfl⟩
    | line htext _ hin _ => exact absurd hin (hout _ htext)
    | block hopening _ hin _ _ => exact absurd hin (hout _ hopening)
  | line htext hm hin _ ih =>
    cases h' with
    | stop hout => exact absurd hin (hout _ htext)
    | line htext' _ _ hrest' =>
      cases htext.symm.trans htext'
      obtain ⟨rfl, rfl⟩ := ih hrest'
      exact ⟨rfl, rfl⟩
    | block hopening' hm' _ _ _ =>
      cases htext.symm.trans hopening'
      cases hm.symm.trans hm'
  | block hopening hm hin _ _ ih₁ ih₂ =>
    cases h' with
    | stop hout => exact absurd hin (hout _ hopening)
    | line htext' hm' _ _ =>
      cases hopening.symm.trans htext'
      cases hm.symm.trans hm'
    | block hopening' hm' _ hbody' hrest' =>
      cases hopening.symm.trans hopening'
      cases hm.symm.trans hm'
      obtain ⟨rfl, rfl⟩ := ih₁ hbody'
      obtain ⟨rfl, rfl⟩ := ih₂ hrest'
      exact ⟨rfl, rfl⟩

/-- The block that a marker line opens has the body that is laid out after it. -/
lemma blockAt_of_layout (hopening : source[n]? = some opening) (hm : Marker.parse? opening = some m)
    (hbody : Layout source (some n) (n + 1) body k) :
    ∃ consumed, blockAt source n = .ok (.block m opening body, consumed) := by
  obtain ⟨hlt, rfl⟩ := List.getElem?_eq_some_iff.1 hopening
  have hmarker : markerAt? source n = some m := by rw [markerAt?_of_getElem? hopening, hm]
  obtain ⟨k', hread, -⟩ := layout_body hmarker (Eq.refl (source.drop (n + 1)))
  obtain ⟨rfl, rfl⟩ := hbody.unique hread
  rw [blockAt, List.drop_eq_getElem_cons hlt]
  simp only [hm]
  exact ⟨_, rfl⟩

/-- What a line opens is a block with the marker of the line. -/
lemma exists_marker_of_blockAt (h : blockAt source j = .ok (block, consumed)) :
    ∃ m opening body, markerAt? source j = some m ∧ block = .block m opening body := by
  unfold blockAt at h
  split at h
  next => cases h
  next line rest hdrop =>
    split at h
    next => cases h
    next m hm =>
      cases h
      refine ⟨m, line, _, ?_, rfl⟩
      rw [markerAt?_of_getElem? (getElem?_of_drop_eq_cons hdrop), hm]

lemma Layout.mem_blocksOf_iff (h : Layout source owner n nodes e) :
    block ∈ Node.blocksOf nodes ↔
      ∃ j consumed, n ≤ j ∧ j < e ∧ blockAt source j = .ok (block, consumed) := by
  induction h with
  | stop =>
    simp only [Node.blocksOf, List.not_mem_nil, false_iff]
    rintro ⟨j, consumed, hle, hlt, -⟩
    omega
  | @line owner n e text rest htext hm _ hrest ih =>
    rw [Node.blocksOf, Node.blocks, List.nil_append, ih]
    constructor
    · rintro ⟨j, consumed, hle, hlt, hblock⟩
      exact ⟨j, consumed, by omega, hlt, hblock⟩
    · rintro ⟨j, consumed, hle, hlt, hblock⟩
      refine ⟨j, consumed, ?_, hlt, hblock⟩
      -- the line itself opens no block
      have hne : n ≠ j := by
        rintro rfl
        obtain ⟨m, _, _, hmarker, -⟩ := exists_marker_of_blockAt hblock
        rw [markerAt?_of_getElem? htext, hm] at hmarker
        cases hmarker
      omega
  | @block owner n k e m opening body rest hopening hm _ hbody hrest ih₁ ih₂ =>
    obtain ⟨consumed, hself⟩ := blockAt_of_layout hopening hm hbody
    have hnk : n < k := hbody.le
    have hke := hrest.le
    rw [Node.blocksOf, Node.blocks, List.cons_append, List.mem_cons, List.mem_append, ih₁, ih₂]
    constructor
    · rintro (rfl | ⟨j, consumed, hle, hlt, hblock⟩ | ⟨j, consumed, hle, hlt, hblock⟩)
      · exact ⟨n, consumed, le_rfl, by omega, hself⟩
      · exact ⟨j, consumed, by omega, by omega, hblock⟩
      · exact ⟨j, consumed, by omega, hlt, hblock⟩
    · rintro ⟨j, consumed', hle, hlt, hblock⟩
      rcases hle.eq_or_lt with rfl | hnj
      · cases hself.symm.trans hblock
        exact .inl rfl
      · rcases lt_or_ge j k with hjk | hkj
        · exact .inr (.inl ⟨j, consumed', hnj, hjk, hblock⟩)
        · exact .inr (.inr ⟨j, consumed', hkj, hlt, hblock⟩)

/-- A marker line opens a block. -/
lemma exists_blockAt (hm : markerAt? source j = some m) :
    ∃ opening body consumed, blockAt source j = .ok (.block m opening body, consumed) := by
  obtain ⟨opening, hopening, hparse⟩ := markerAt?_eq_some_iff.1 hm
  obtain ⟨k, hbody, -⟩ := layout_body hm (Eq.refl (source.drop (j + 1)))
  obtain ⟨consumed, hblock⟩ := blockAt_of_layout hopening hparse hbody
  exact ⟨opening, _, consumed, hblock⟩

/-- The blocks of a document, at any depth, are those that its marker lines open. -/
lemma mem_blocksOf_iff :
    block ∈ Node.blocksOf (ofLines source).topNodes ↔
      ∃ j m consumed, markerAt? source j = some m ∧ blockAt source j = .ok (block, consumed) := by
  rw [(layout_ofLines source).mem_blocksOf_iff]
  constructor
  · rintro ⟨j, consumed, -, -, hblock⟩
    obtain ⟨m, _, _, hm, -⟩ := exists_marker_of_blockAt hblock
    exact ⟨j, m, consumed, hm, hblock⟩
  · rintro ⟨j, m, consumed, hm, hblock⟩
    exact ⟨j, consumed, Nat.zero_le j, lt_length_of_markerAt? hm, hblock⟩

/-- Padding obeys its laws. The blocks of a document, at any depth, are those that its marker lines open,
and whatever registry compiles such a block, no line of what it is compiled to is indented less than the
marker. -/
theorem padding_indents_blocks :
    (∀ text, Text.PaddingLaws text) ∧
    (∀ text block, block ∈ Node.blocksOf (ofText text).topNodes ↔
      ∃ j m consumed, markerAt? (Text.splitLines text) j = some m ∧
        blockAt (Text.splitLines text) j = .ok (block, consumed)) ∧
    ∀ (setup : Setup) (options : Options) (depth : Nat) (source : List String) (j : Nat) (m : Marker),
      markerAt? source j = some m →
      ∃ block consumed, blockAt source j = .ok (block, consumed) ∧ ∀ s compiled t,
        perform (compileNode (Registry.runBlock (Registry.compileWithin setup options depth) options)
          block) s = (.ok compiled, t) →
        ∀ line ∈ Text.pieces '\n' compiled, m.indent ≤ Text.indentWidth line := by
  refine ⟨Text.paddingLaws, fun text block => mem_blocksOf_iff, ?_⟩
  intro setup options depth source j m hm
  obtain ⟨opening, body, consumed, hblock⟩ := exists_blockAt hm
  refine ⟨.block m opening body, consumed, hblock, ?_⟩
  intro s compiled t hcompile line hline
  obtain ⟨_, _, _, _, _, rfl⟩ := perform_compileNode_block hcompile
  exact Text.le_indentWidth_of_mem_pieces_padTo hline

/-- A page with an empty block inside a block. -/
def emptyInside : String := ">> html\n  >> css\n>> js"

/-- The empty block is compiled to the empty text, which is padded to a line of two spaces. -/
theorem padding_indents_blocks_emptyInside :
    ∃ block consumed, blockAt (Text.splitLines emptyInside) 1 = .ok (block, consumed) ∧
      (perform (compileNode (Registry.runBlock (Registry.compileWithin .standard .empty 1) .empty) block)
        .initial).1 = .ok "  " ∧
      ∀ line ∈ Text.pieces '\n' "  ", 2 ≤ Text.indentWidth line := by
  obtain ⟨block, consumed, hblock, hindented⟩ := padding_indents_blocks.2.2 .standard .empty 1
    (Text.splitLines emptyInside) 1 ⟨2, "css"⟩ (by decide +kernel)
  have hcompiled : (blockAt (Text.splitLines emptyInside) 1).map (fun r =>
      (perform (compileNode (Registry.runBlock (Registry.compileWithin .standard .empty 1) .empty) r.1)
        .initial).1) = .ok (.ok "  ") := by
    decide +kernel
  rw [hblock] at hcompiled
  have hok := Except.ok.inj hcompiled
  exact ⟨block, consumed, hblock, hok, hindented _ _ _ (Prod.ext hok rfl)⟩

end Document

end TextChain
