import TextChain.Proofs.Document.Calls

/-!
# The order in which a document is compiled

A document is compiled by visiting its marker lines one after the other, inner blocks first, and the
lines that it refuses where they stand (`compile_eq_visit`). Of two blocks the one comes first that is
nested in the other, or that ends before the other starts (`Precedes`).
-/

namespace TextChain

/-! ### The order of the visits -/

namespace Node

mutual

/-- The marker lines of a part that stands at the line `n`, inner blocks first. -/
def markerOrder (n : Nat) : Node → List Nat
  | .line _ => []
  | .block _ _ body => markerOrderOf (n + 1) body ++ [n]

/-- The marker lines of the parts of a body that stands at the line `n`. -/
def markerOrderOf (n : Nat) : List Node → List Nat
  | [] => []
  | node :: rest => node.markerOrder n ++ markerOrderOf (n + node.lines.length) rest

end

end Node

namespace Document

variable {source : List String} {owner : Option Nat} {i j k n e : Nat} {nodes : List Node}
  {m : Marker} {options : Options}

/-- The marker lines of a top level part that stands at the line `n`, inner blocks first; a line that is
refused stands for itself. -/
def Piece.visitOrder (n : Nat) : Piece → List Nat
  | .blank _ => []
  | .block marker opening body => Node.markerOrder n (.block marker opening body)
  | .stray _ _ => [n]

/-- The lines that are visited from the line `n` on. -/
def visitOrderOf (n : Nat) : List Piece → List Nat
  | [] => []
  | piece :: rest => piece.visitOrder n ++ visitOrderOf (n + piece.lines.length) rest

/-- The lines that are visited when a document is compiled. -/
def visitOrder (source : List String) : List Nat :=
  visitOrderOf 0 (ofLines source).pieces

/-- The block of the line `i` comes before that of `j`: it is nested in it, or it ends before the other
starts. -/
def Precedes (source : List String) (i j : Nat) : Prop :=
  OpenAt source j i ∨ i < j ∧ ¬ OpenAt source i j

lemma not_precedes_self (source : List String) (i : Nat) : ¬ Precedes source i i := by
  rintro (h | ⟨h, -⟩)
  · exact lt_irrefl i h.lt
  · exact lt_irrefl i h

lemma Precedes.asymm (h : Precedes source i j) : ¬ Precedes source j i := by
  rintro (h' | ⟨hlt', hclosed'⟩) <;> rcases h with h | ⟨hlt, hclosed⟩
  · exact lt_asymm h.lt h'.lt
  · exact hclosed h'
  · exact hclosed' h
  · exact lt_asymm hlt hlt'

lemma nodup_of_pairwise {order : List Nat} (h : order.Pairwise (Precedes source)) : order.Nodup := by
  refine h.imp ?_
  rintro i _ h rfl
  exact not_precedes_self source i h

/-- A block comes after all that is nested in it. -/
lemma Precedes.not_openAt (h : Precedes source i j) : ¬ OpenAt source i j := by
  rcases h with h | ⟨-, hclosed⟩
  · exact fun h' => lt_asymm h.lt h'.lt
  · exact hclosed

/-! ### Lines in the order of a layout -/

lemma Layout.eq_add_length (h : Layout source owner n nodes e) :
    e = n + (Node.linesOf nodes).length := by
  induction h with
  | stop => rfl
  | line _ _ _ _ ih => simp [Node.linesOf, Node.lines]; omega
  | block _ _ _ _ _ ih₁ ih₂ => simp [Node.linesOf, Node.lines]; omega

lemma Layout.length_lines_block (h : Layout source (some n) (n + 1) nodes k) (m : Marker)
    (opening : String) :
    n + (Node.block m opening nodes).lines.length = k := by
  have := h.eq_add_length
  simp only [Node.lines, List.length_cons]
  omega

lemma Layout.not_openAt (h : Layout source (some n) (n + 1) nodes k) (hki : k ≤ i) :
    ¬ OpenAt source n i := by
  intro hopen
  obtain ⟨line, hline, hin⟩ := (hopen.mono h.le hki).inScope
  exact h.not_inScope hline hin

/-- The lines of a block come before all lines after it, and its marker line comes last. -/
lemma pairwise_block {order order' : List Nat} (hbody : Layout source (some n) (n + 1) nodes k)
    (horder : order.Pairwise (Precedes source)) (hmem : ∀ i ∈ order, n + 1 ≤ i ∧ i < k)
    (horder' : order'.Pairwise (Precedes source)) (hmem' : ∀ i ∈ order', k ≤ i) :
    (order ++ [n] ++ order').Pairwise (Precedes source) := by
  have hnk : n < k := hbody.le
  rw [List.append_assoc, List.singleton_append, List.pairwise_append, List.pairwise_cons]
  refine ⟨horder, ⟨?_, horder'⟩, ?_⟩
  · intro j hj
    have hkj := hmem' j hj
    exact .inr ⟨by omega, hbody.not_openAt hkj⟩
  · intro i hi j hj
    obtain ⟨hni, hik⟩ := hmem i hi
    rcases List.mem_cons.1 hj with rfl | hj
    · exact .inl (hbody.openAt hni hik)
    · have hkj := hmem' j hj
      refine .inr ⟨by omega, fun hopen => ?_⟩
      have := hbody.lt_of_openAt hni hik hopen
      omega

lemma mem_block_iff {order order' : List Nat} {P : Nat → Prop} (hnk : n < k) (hke : k ≤ e) (hn : P n)
    (hmem : ∀ i, i ∈ order ↔ (n + 1 ≤ i ∧ i < k) ∧ P i)
    (hmem' : ∀ i, i ∈ order' ↔ (k ≤ i ∧ i < e) ∧ P i) (i : Nat) :
    i ∈ order ++ [n] ++ order' ↔ (n ≤ i ∧ i < e) ∧ P i := by
  rw [List.mem_append, List.mem_append, hmem, hmem', List.mem_singleton]
  rcases eq_or_ne i n with rfl | hne
  · have hlt : i < e := by omega
    simp [hn, hlt]
  · by_cases hi : P i
    · simp only [hi, and_true]
      omega
    · simp [hi, hne]

lemma mem_line_iff {order : List Nat} {P : Nat → Prop} (hn : ¬ P n)
    (hmem : ∀ i, i ∈ order ↔ (n + 1 ≤ i ∧ i < e) ∧ P i) (i : Nat) :
    i ∈ order ↔ (n ≤ i ∧ i < e) ∧ P i := by
  rw [hmem]
  rcases eq_or_ne i n with rfl | hne
  · simp [hn]
  · refine and_congr_left fun _ => ?_
    omega

/-- The marker lines of a layout, inner blocks first. -/
lemma Layout.markerOrder (h : Layout source owner n nodes e) :
    (Node.markerOrderOf n nodes).Pairwise (Precedes source) ∧
      ∀ i, i ∈ Node.markerOrderOf n nodes ↔ (n ≤ i ∧ i < e) ∧ (markerAt? source i).isSome := by
  induction h with
  | @stop owner n _ =>
    refine ⟨by simp [Node.markerOrderOf], fun i => ?_⟩
    simp only [Node.markerOrderOf, List.not_mem_nil, false_iff]
    omega
  | @line owner n e text rest htext hm _ hrest ih =>
    have hnone : markerAt? source n = none := by rw [markerAt?_of_getElem? htext, hm]
    simp only [Node.markerOrderOf, Node.markerOrder, Node.lines, List.nil_append,
      List.length_singleton]
    exact ⟨ih.1, mem_line_iff (by simp [hnone]) ih.2⟩
  | @block owner n k e m opening body rest hopening hm _ hbody hrest ih₁ ih₂ =>
    have hsome : (markerAt? source n).isSome := by simp [markerAt?_of_getElem? hopening, hm]
    rw [Node.markerOrderOf, Node.markerOrder, hbody.length_lines_block m opening]
    exact ⟨pairwise_block hbody ih₁.1 (fun i hi => ((ih₁.2 i).1 hi).1) ih₂.1
        (fun i hi => ((ih₂.2 i).1 hi).1.1),
      mem_block_iff hbody.le hrest.le hsome ih₁.2 ih₂.2⟩

/-- The lines that are visited: the marker lines, and the lines that belong to no block and are refused. -/
def Visited (source : List String) (i : Nat) : Prop :=
  (markerAt? source i).isSome ∨ ∃ line, Stray source i line

lemma Stray.not_openAt {line : String} (h : Stray source i line) (j : Nat) : ¬ OpenAt source j i :=
  owner?_eq_none_iff.1 h.top j

lemma Stray.markerAt?_eq_none {line : String} (h : Stray source i line) : markerAt? source i = none := by
  rw [markerAt?_of_getElem? h.getElem?_eq, h.no_marker]

/-- Inside a block only marker lines are visited. -/
lemma visited_iff_of_openAt (h : OpenAt source j i) :
    Visited source i ↔ (markerAt? source i).isSome :=
  or_iff_left fun ⟨_, hstray⟩ => hstray.not_openAt j h

lemma visitOrderOf_readPieces {rest : List String} (hreached : Reached source none n)
    (hn : n ≤ source.length) (hrest : source.drop n = rest) :
    (visitOrderOf n (readPieces source.length rest)).Pairwise (Precedes source) ∧
      ∀ i, i ∈ visitOrderOf n (readPieces source.length rest) ↔
        (n ≤ i ∧ i < source.length) ∧ Visited source i := by
  fun_induction readPieces source.length rest generalizing n with
  | case1 =>
    have hlen := List.drop_eq_nil_iff.1 hrest
    refine ⟨by simp [visitOrderOf], fun i => ?_⟩
    simp only [visitOrderOf, List.not_mem_nil, false_iff]
    omega
  | case2 first rest marker hm hlt ih =>
    have hfirst := getElem?_of_drop_eq_cons hrest
    have hmarker : markerAt? source n = some marker := by rw [markerAt?_of_getElem? hfirst, hm]
    obtain ⟨k, hbody, hdrop⟩ := layout_body hmarker (drop_succ_of_drop_eq_cons hrest)
    have hk := hbody.le_length (List.getElem?_eq_some_iff.1 hfirst).1
    obtain ⟨hpairwise, hmem⟩ := ih (hreached.after_block hfirst trivial hbody) hk hdrop
    obtain ⟨hpairwise', hmem'⟩ := hbody.markerOrder
    have hlength : n + (Piece.block marker first (Node.body marker.indent rest)).lines.length = k :=
      hbody.length_lines_block marker first
    rw [visitOrderOf, Piece.visitOrder, Node.markerOrder, hlength]
    refine ⟨pairwise_block hbody hpairwise' (fun i hi => ((hmem' i).1 hi).1) hpairwise
      (fun i hi => ((hmem i).1 hi).1.1), mem_block_iff hbody.le hk (.inl (by simp [hmarker])) ?_ hmem⟩
    intro i
    rw [hmem']
    exact and_congr_right fun hi => (visited_iff_of_openAt (hbody.openAt hi.1 hi.2)).symm
  | case3 first rest hm hblank ih =>
    have hfirst := getElem?_of_drop_eq_cons hrest
    obtain ⟨hpairwise, hmem⟩ := ih (hreached.after_line hfirst hm trivial)
      (List.getElem?_eq_some_iff.1 hfirst).1 (drop_succ_of_drop_eq_cons hrest)
    have hnot : ¬ Visited source n := by
      rintro (h | ⟨line, h⟩)
      · simp [markerAt?_of_getElem? hfirst, hm] at h
      · cases hfirst.symm.trans h.getElem?_eq
        exact h.not_blank hblank
    exact ⟨hpairwise, mem_line_iff hnot hmem⟩
  | case4 first rest hm hblank ih =>
    have hfirst := getElem?_of_drop_eq_cons hrest
    have hlt := (List.getElem?_eq_some_iff.1 hfirst).1
    obtain ⟨hpairwise, hmem⟩ := ih (hreached.after_line hfirst hm trivial) hlt
      (drop_succ_of_drop_eq_cons hrest)
    have hstray : Stray source n first := ⟨hfirst, hreached.owner?_eq hfirst trivial, hm, hblank⟩
    refine ⟨List.pairwise_cons.2 ⟨?_, hpairwise⟩, ?_⟩
    · intro i hi
      refine .inr ⟨((hmem i).1 hi).1.1, fun hopen => ?_⟩
      obtain ⟨m, hmarker⟩ := hopen.exists_marker
      rw [hstray.markerAt?_eq_none] at hmarker
      cases hmarker
    · -- the line is a block without a body
      have hnil : ∀ i, i ∈ ([] : List Nat) ↔ (n + 1 ≤ i ∧ i < n + 1) ∧ Visited source i := by
        intro i
        simp only [List.not_mem_nil, false_iff]
        omega
      exact mem_block_iff (Nat.lt_succ_self n) hlt (.inr ⟨first, hstray⟩) hnil hmem

lemma pairwise_visitOrder (source : List String) :
    (visitOrder source).Pairwise (Precedes source) :=
  (visitOrderOf_readPieces (reached_top source) (Nat.zero_le _) List.drop_zero).1

lemma mem_visitOrder_iff : i ∈ visitOrder source ↔ Visited source i := by
  have h := (visitOrderOf_readPieces (reached_top source) (Nat.zero_le _) List.drop_zero).2 i
  refine h.trans (and_iff_right_of_imp ?_)
  rintro (h | ⟨line, h⟩)
  · obtain ⟨m, hm⟩ := Option.isSome_iff_exists.1 h
    exact ⟨Nat.zero_le i, lt_length_of_markerAt? hm⟩
  · exact ⟨Nat.zero_le i, (List.getElem?_eq_some_iff.1 h.getElem?_eq).1⟩

/-- The marker lines in the order of their visits. -/
def postOrder (source : List String) : List Nat :=
  (visitOrder source).filter fun i => (markerAt? source i).isSome

lemma pairwise_postOrder (source : List String) : (postOrder source).Pairwise (Precedes source) :=
  (pairwise_visitOrder source).filter _

lemma mem_postOrder_iff : i ∈ postOrder source ↔ i ∈ markerLines source := by
  rw [postOrder, List.mem_filter, mem_visitOrder_iff, markerLines, List.mem_filter, List.mem_range]
  refine and_congr_left fun h => ?_
  obtain ⟨m, hm⟩ := Option.isSome_iff_exists.1 h
  exact iff_of_true (.inl h) (lt_length_of_markerAt? hm)

lemma perm_postOrder (source : List String) : (postOrder source).Perm (markerLines source) := by
  have hnodup : (postOrder source).Nodup := nodup_of_pairwise (pairwise_postOrder source)
  refine (List.perm_ext_iff_of_nodup hnodup ?_).2 fun i => mem_postOrder_iff
  exact List.nodup_range.filter _

/-! ### Visiting lines -/

section Visiting

variable {μ : Type → Type} {run : String → String → μ String} {reject : Nat → String → μ String}
  {out out' : Nat → String}

/-- Makes the text of the block of a marker line, where `out` gives the texts of the blocks in it. A
line that is no marker line is refused. -/
def visitLine (run : String → String → μ String) (reject : Nat → String → μ String)
    (source : List String) (out : Nat → String) (i : Nat) : μ String :=
  match markerAt? source i with
  | some m => run m.extension (bodyAt source out i)
  | none => reject (i + 1) (source[i]?.getD "")

lemma visitLine_of_markerAt? (h : markerAt? source i = some m) :
    visitLine run reject source out i = run m.extension (bodyAt source out i) := by
  rw [visitLine, h]

lemma Stray.visitLine_eq {line : String} (h : Stray source i line) :
    visitLine run reject source out i = reject (i + 1) line := by
  rw [visitLine, h.markerAt?_eq_none, h.getElem?_eq]
  rfl

variable [Monad μ]

/-- Visits lines one after the other and keeps what they give. -/
def visit (run : String → String → μ String) (reject : Nat → String → μ String)
    (source : List String) : List Nat → (Nat → String) → μ (Nat → String)
  | [], out => pure out
  | i :: rest, out => do
    let text ← visitLine run reject source out i
    visit run reject source rest (Function.update out i text)

/-- Visits that make the texts of lines in two ways that correspond are visits that correspond. -/
lemma visit_related {ν : Type → Type} [Monad ν] (c : Correspondence μ ν)
    {run' : String → String → ν String} {reject' : Nat → String → ν String}
    (hrun : ∀ ext body, c.rel (run ext body) (run' ext body))
    (hreject : ∀ number content, c.rel (reject number content) (reject' number content))
    (order : List Nat) (out : Nat → String) :
    c.rel (visit run reject source order out) (visit run' reject' source order out) := by
  induction order generalizing out with
  | nil => exact c.rel_pure out
  | cons i rest ih =>
    rw [visit, visit]
    refine c.rel_bind ?_ fun text => ih _
    rw [visitLine, visitLine]
    cases markerAt? source i with
    | some m => exact hrun _ _
    | none => exact hreject _ _

variable [LawfulMonad μ]

lemma visit_append (order order' : List Nat) (out : Nat → String) :
    visit run reject source (order ++ order') out =
      visit run reject source order out >>= visit run reject source order' := by
  induction order generalizing out with
  | nil => rw [List.nil_append, visit, pure_bind]
  | cons i rest ih => simp only [List.cons_append, visit, bind_assoc, ih]

/-- Visiting lines changes the texts of these lines only. -/
lemma visit_bind_congr {α : Type} {f g : (Nat → String) → μ α} {order : List Nat}
    (h : ∀ out', (∀ i ∉ order, out' i = out i) → f out' = g out') :
    visit run reject source order out >>= f = visit run reject source order out >>= g := by
  induction order generalizing out with
  | nil =>
    rw [visit, pure_bind, pure_bind]
    exact h out fun _ _ => rfl
  | cons i rest ih =>
    rw [visit, bind_assoc, bind_assoc]
    refine bind_congr fun text => ih fun out' hout' => h out' fun j hj => ?_
    rw [hout' j (List.not_mem_of_not_mem_cons hj),
      Function.update_of_ne (List.ne_of_not_mem_cons hj)]

/-- The texts of the lines of an owner. -/
def ownedTexts (source : List String) (owner : Option Nat) (n e : Nat) (out : Nat → String) :
    List String :=
  ((List.Ico n e).filter fun i => owner? source i = owner).map (partAt source out)

lemma ownedTexts_of_line {line : String} (hlt : n < e) (hline : source[n]? = some line)
    (hm : Marker.parse? line = none) (howner : owner? source n = owner) (out : Nat → String) :
    ownedTexts source owner n e out = line :: ownedTexts source owner (n + 1) e out := by
  rw [ownedTexts, List.Ico.eq_cons hlt, List.filter_cons_of_pos (by simpa using howner), List.map_cons,
    partAt, markerAt?_of_getElem? hline, hm, hline]
  rfl

/-- Compiling a block is visiting the lines in its body, and then its marker line. -/
lemma compileNode_block_eq_visit (opening : String) {body : List Node} {order order' : List Nat}
    {texts : μ (List String)} (hbody : Layout source (some n) (n + 1) body k)
    (hm : markerAt? source n = some m) (hk : k ≤ source.length) (hke : k ≤ e)
    (howner : owner? source n = owner) (hn : n ∉ order')
    (hparts : ∀ out, compileNodes run body =
      visit run reject source order out >>= fun out => pure (ownedTexts source (some n) (n + 1) k out))
    (htexts : ∀ out, texts =
      visit run reject source order' out >>= fun out => pure (ownedTexts source owner k e out))
    (out : Nat → String) :
    (do
      let text ← compileNode run (.block m opening body)
      let texts ← texts
      pure (text :: texts)) =
      visit run reject source (order ++ [n] ++ order') out >>= fun out =>
        pure (ownedTexts source owner n e out) := by
  rw [compileNode, hparts out, List.append_assoc, visit_append]
  simp only [bind_assoc, pure_bind, List.singleton_append, visit, visitLine_of_markerAt? hm]
  refine bind_congr fun out₁ => ?_
  rw [bodyAt_eq_of_layout hbody hk fun _ _ _ => rfl]
  refine bind_congr fun text => ?_
  rw [htexts (Function.update out₁ n text), bind_assoc]
  refine visit_bind_congr fun out₂ hout₂ => ?_
  rw [pure_bind, ownedTexts, ownedTexts, map_partAt_block hbody hke howner hm, hout₂ n hn,
    Function.update_self]

/-- Compiling the parts of a layout is visiting its marker lines. -/
lemma Layout.compileNodes_eq_visit (h : Layout source owner n nodes e)
    (hreached : Reached source owner n) (hn : n ≤ source.length) (out : Nat → String) :
    compileNodes run nodes =
      visit run reject source (Node.markerOrderOf n nodes) out >>= fun out =>
        pure (ownedTexts source owner n e out) := by
  induction h generalizing out with
  | stop => simp [compileNodes, Node.markerOrderOf, visit, ownedTexts]
  | @line owner n e text rest htext hm hin hrest ih =>
    rw [compileNodes, compileNode, pure_bind,
      ih (hreached.after_line htext hm hin) (List.getElem?_eq_some_iff.1 htext).1 out]
    simp only [bind_assoc, pure_bind,
      ownedTexts_of_line hrest.le htext hm (hreached.owner?_eq htext hin)]
    rfl
  | @block owner n k e m opening body rest hopening hm hin hbody hrest ih₁ ih₂ =>
    have hmarker : markerAt? source n = some m := by rw [markerAt?_of_getElem? hopening, hm]
    have hlt := (List.getElem?_eq_some_iff.1 hopening).1
    have hk := hbody.le_length hlt
    have hnot : n ∉ Node.markerOrderOf k rest := fun hmem => by
      have := ((hrest.markerOrder.2 n).1 hmem).1.1
      have : n < k := hbody.le
      omega
    rw [compileNodes, Node.markerOrderOf, Node.markerOrder, hbody.length_lines_block m opening]
    exact compileNode_block_eq_visit opening hbody hmarker hk hrest.le
      (hreached.owner?_eq hopening hin) hnot (ih₁ (reached_body source n) hlt)
      (ih₂ (hreached.after_block hopening hin hbody) hk) out

/-- Refusing a line ends the computation. -/
def Aborts (reject : Nat → String → μ String) : Prop :=
  ∀ {α : Type} (number : Nat) (content : String) (f g : String → μ α),
    reject number content >>= f = reject number content >>= g

lemma compilePieces_eq_visit {rest : List String} (hreject : Aborts reject)
    (hreached : Reached source none n) (hn : n ≤ source.length) (hrest : source.drop n = rest)
    (out : Nat → String) :
    compilePieces run reject (readPieces source.length rest) =
      visit run reject source (visitOrderOf n (readPieces source.length rest)) out >>= fun out =>
        pure (ownedTexts source none n source.length out) := by
  fun_induction readPieces source.length rest generalizing n out with
  | case1 =>
    have hlen := List.drop_eq_nil_iff.1 hrest
    simp [compilePieces, visitOrderOf, visit, ownedTexts, List.Ico.eq_nil_of_le hlen]
  | case2 first rest marker hm hlt ih =>
    have hfirst := getElem?_of_drop_eq_cons hrest
    have hmarker : markerAt? source n = some marker := by rw [markerAt?_of_getElem? hfirst, hm]
    obtain ⟨k, hbody, hdrop⟩ := layout_body hmarker (drop_succ_of_drop_eq_cons hrest)
    have hk := hbody.le_length (List.getElem?_eq_some_iff.1 hfirst).1
    have hafter := hreached.after_block hfirst trivial hbody
    have hnot : n ∉ visitOrderOf k
        (readPieces source.length (Node.afterBody marker.indent rest)) := fun hmem => by
      have := (((visitOrderOf_readPieces hafter hk hdrop).2 n).1 hmem).1.1
      have : n < k := hbody.le
      omega
    have hlength : n + (Piece.block marker first (Node.body marker.indent rest)).lines.length = k :=
      hbody.length_lines_block marker first
    rw [compilePieces, visitOrderOf, hlength]
    exact compileNode_block_eq_visit first hbody hmarker hk hk (hreached.owner?_eq hfirst trivial) hnot
      (hbody.compileNodes_eq_visit (reached_body source n) (List.getElem?_eq_some_iff.1 hfirst).1)
      (ih hafter hk hdrop) out
  | case3 first rest hm hblank ih =>
    have hfirst := getElem?_of_drop_eq_cons hrest
    have hlt := (List.getElem?_eq_some_iff.1 hfirst).1
    rw [compilePieces, compilePiece, pure_bind,
      ih (hreached.after_line hfirst hm trivial) hlt (drop_succ_of_drop_eq_cons hrest) out]
    simp only [bind_assoc, pure_bind,
      ownedTexts_of_line hlt hfirst hm (hreached.owner?_eq hfirst trivial)]
    rfl
  | case4 first rest hm hblank ih =>
    have hfirst := getElem?_of_drop_eq_cons hrest
    have hstray : Stray source n first :=
      ⟨hfirst, hreached.owner?_eq hfirst trivial, hm, hblank⟩
    have hlen := congrArg List.length hrest
    rw [List.length_drop, List.length_cons] at hlen
    have hnumber : source.length - rest.length = n + 1 := by omega
    rw [compilePieces, compilePiece, visitOrderOf, Piece.visitOrder, List.singleton_append, visit,
      hstray.visitLine_eq, bind_assoc, hnumber]
    exact hreject _ _ _ _

/-- Compiling a document is visiting its lines in their order, if refusing a line ends the computation.
Whatever makes the texts of blocks, it is given the blocks one after the other, each with the lines
that belong to it, where the texts of the blocks in it stand for their own lines. -/
theorem compile_eq_visit (hreject : Aborts reject) (source : List String) (out : Nat → String) :
    (ofLines source).compile run reject =
      visit run reject source (visitOrder source) out >>= fun out =>
        pure (Text.joinLines ((linesOwnedBy source none).map (partAt source out))) := by
  rw [Document.compile, ofLines,
    compilePieces_eq_visit hreject (reached_top source) (Nat.zero_le _) List.drop_zero out, bind_assoc]
  refine bind_congr fun out => ?_
  rw [pure_bind, ownedTexts, List.Ico.zero_bot]
  rfl

end Visiting

lemma aborts_throw {ε σ : Type} (e : Nat → String → ε) :
    Aborts fun number content => (throw (e number content) : ExceptT ε (StateM σ) String) :=
  fun _ _ _ _ => rfl

end Document

end TextChain
