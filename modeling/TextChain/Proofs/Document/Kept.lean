import TextChain.Proofs.Passthrough
import TextChain.Proofs.Registry.Growth

/-!
# Documents whose blocks hand their bodies on

When the pipeline of every block hands its text on, compiling a document takes away marker lines only:
`keptLines` lists the lines that stay, and `compileDocument_eq_keptLines` says that the document
becomes these lines.
-/

namespace TextChain

namespace Document

variable {source : List String} {owner : Option Nat} {i n e k : Nat} {nodes : List Node}
  {m : Marker} {options : Options}

/-- The line after a marker line with the indent `base` goes on with its block. -/
def HasBody (source : List String) (base i : Nat) : Prop :=
  ∃ line ∈ source[i + 1]?, Continues base line

instance (source : List String) (base i : Nat) : Decidable (HasBody source base i) :=
  inferInstanceAs (Decidable (∃ line ∈ source[i + 1]?, _))

/-- What a line leaves: a marker line leaves nothing if a line of its own block follows, else a line of
blanks; every other line leaves itself. -/
def keptAt (source : List String) (i : Nat) : List String :=
  match markerAt? source i with
  | some m => if HasBody source m.indent i then [] else [Text.spaces m.indent]
  | none => source[i]?.toList

/-- The lines that a document leaves. -/
def keptLines (source : List String) : List String :=
  (List.range source.length).flatMap (keptAt source)

/-- The texts of parts of which every block is made to its own body. -/
def bodyTexts (nodes : List Node) : List String :=
  Id.run (compileNodes (fun _ body => pure body) nodes)

lemma bodyTexts_line (text : String) (rest : List Node) :
    bodyTexts (.line text :: rest) = text :: bodyTexts rest := by
  simp [bodyTexts, compileNodes, compileNode]

lemma bodyTexts_block (m : Marker) (opening : String) (body rest : List Node) :
    bodyTexts (.block m opening body :: rest) =
      Text.padTo m.indent (Text.joinLines (bodyTexts body)) :: bodyTexts rest := by
  simp [bodyTexts, compileNodes, compileNode]

/-! ### The lines that stay -/

/-- The lines of the body of a block are indented at least as far as its marker, also those that its
inner blocks leave. -/
lemma le_indentWidth_of_mem_keptAt {line : String} (h : Layout source (some n) (n + 1) nodes k)
    (hm : markerAt? source n = some m) (hlt : n < i) (hik : i < k) (hline : line ∈ keptAt source i) :
    m.indent ≤ Text.indentWidth line := by
  obtain ⟨line', hline', hin⟩ := h.inScope hlt hik
  have hc := (inScope_some_iff hm).1 hin
  unfold keptAt at hline
  rw [markerAt?_of_getElem? hline'] at hline
  cases hmarker : Marker.parse? line' with
  | none =>
    rw [hmarker] at hline
    rw [hline'] at hline
    cases List.mem_singleton.1 hline
    exact hc.1
  | some inner =>
    rw [hmarker] at hline
    have hlt' := lt_indent_of_continues hc hmarker
    dsimp only at hline
    split_ifs at hline
    · cases hline
    · rw [List.mem_singleton.1 hline, Text.indentWidth_spaces]
      exact hlt'.le

/-- The lines that stay have no line feeds if the lines of the document have none. -/
lemma not_mem_of_mem_keptAt {line : String} (hclean : ∀ line ∈ source, '\n' ∉ line.toList)
    (hline : line ∈ keptAt source i) : '\n' ∉ line.toList := by
  unfold keptAt at hline
  split at hline
  · split_ifs at hline
    · cases hline
    · rw [List.mem_singleton.1 hline, Text.spaces, String.toList_ofList]
      exact fun hmem => absurd (List.eq_of_mem_replicate hmem) (by decide)
  · exact hclean line (List.mem_of_getElem? (Option.mem_toList.1 hline))

/-- The first line of a layout follows a marker line that has a body. -/
lemma keptAt_eq_nil (h : Layout source (some n) (n + 1) nodes k) (hm : markerAt? source n = some m)
    (hlt : n + 1 < k) : keptAt source n = [] := by
  obtain ⟨line, hline, hin⟩ := h.inScope le_rfl hlt
  have hbody : HasBody source m.indent n := ⟨line, hline, (inScope_some_iff hm).1 hin⟩
  simp [keptAt, hm, hbody]

/-- A marker line with an empty layout after it has no body. -/
lemma keptAt_eq_spaces (h : Layout source (some n) (n + 1) nodes (n + 1))
    (hm : markerAt? source n = some m) : keptAt source n = [Text.spaces m.indent] := by
  have hbody : ¬ HasBody source m.indent n := fun ⟨line, hline, hc⟩ =>
    h.not_inScope hline ((inScope_some_iff hm).2 hc)
  simp [keptAt, hm, hbody]

/-- The lines that a block leaves: the lines that its body leaves, or a line of blanks. -/
lemma padTo_joinLines_body (hclean : ∀ line ∈ source, '\n' ∉ line.toList)
    (hbody : Layout source (some n) (n + 1) nodes k) (hm : markerAt? source n = some m)
    {groups : List (List String)} (hne : ∀ g ∈ groups, g ≠ [])
    (hflatten : groups.flatten = (List.Ico (n + 1) k).flatMap (keptAt source))
    (hgroups : groups = [] ↔ k = n + 1) :
    (List.Ico n k).flatMap (keptAt source) ≠ [] ∧
      Text.padTo m.indent (Text.joinLines (groups.map Text.joinLines)) =
        Text.joinLines ((List.Ico n k).flatMap (keptAt source)) := by
  have hsplit : (List.Ico n k).flatMap (keptAt source) =
      keptAt source n ++ (List.Ico (n + 1) k).flatMap (keptAt source) := by
    rw [List.Ico.eq_cons hbody.le, List.flatMap_cons]
  rcases hbody.le.eq_or_lt with heq | hlt
  · -- the block is empty, and the empty text is padded
    subst heq
    rw [hsplit, keptAt_eq_spaces hbody hm, hgroups.2 rfl, List.Ico.self_empty, List.map_nil]
    refine ⟨by simp, ?_⟩
    rw [show Text.joinLines [] = "" from rfl, Text.padTo_empty]
    simp [Text.joinLines]
  · -- every line that stays is indented enough
    rw [hsplit, keptAt_eq_nil hbody hm hlt, List.nil_append, ← hflatten,
      Text.joinLines_map_joinLines groups hne]
    have hnil : groups.flatten ≠ [] := by
      obtain ⟨g, hg⟩ := List.exists_mem_of_ne_nil groups fun h => hlt.ne' (hgroups.1 h)
      exact fun h => hne g hg (List.flatten_eq_nil_iff.1 h g hg)
    have hkept : ∀ line ∈ groups.flatten, ∃ i, (n < i ∧ i < k) ∧ line ∈ keptAt source i := by
      intro line hline
      rw [hflatten] at hline
      obtain ⟨i, hi, hline⟩ := List.mem_flatMap.1 hline
      exact ⟨i, List.Ico.mem.1 hi, hline⟩
    refine ⟨hnil, Text.padTo_joinLines hnil ?_ ?_⟩
    · intro line hline
      obtain ⟨i, -, hline⟩ := hkept line hline
      exact not_mem_of_mem_keptAt hclean hline
    · intro line hline
      obtain ⟨i, ⟨hni, hik⟩, hline⟩ := hkept line hline
      exact le_indentWidth_of_mem_keptAt hbody hm hni hik hline

/-- The texts of the parts of a layout are made of the lines that stay. -/
lemma Layout.bodyTexts (hclean : ∀ line ∈ source, '\n' ∉ line.toList)
    (h : Layout source owner n nodes e) :
    ∃ groups : List (List String), (∀ g ∈ groups, g ≠ []) ∧ (groups = [] ↔ e = n) ∧
      bodyTexts nodes = groups.map Text.joinLines ∧
      groups.flatten = (List.Ico n e).flatMap (keptAt source) := by
  induction h with
  | stop => exact ⟨[], by simp, by simp, rfl, by simp⟩
  | @line owner n e text rest htext hm _ hrest ih =>
    obtain ⟨groups, hne, -, htexts, hflatten⟩ := ih
    have hkept : keptAt source n = [text] := by
      simp [keptAt, markerAt?_of_getElem? htext, hm, htext]
    have hle := hrest.le
    refine ⟨[text] :: groups, by simpa using hne, by simp; omega, ?_, ?_⟩
    · rw [bodyTexts_line, htexts]
      simp [Text.joinLines]
    · rw [List.Ico.eq_cons hrest.le, List.flatMap_cons, hkept, List.flatten_cons, hflatten]
  | @block owner n k e m opening body rest hopening hm _ hbody hrest ih₁ ih₂ =>
    obtain ⟨groups₁, hne₁, hnil₁, htexts₁, hflatten₁⟩ := ih₁
    obtain ⟨groups₂, hne₂, -, htexts₂, hflatten₂⟩ := ih₂
    have hmarker : markerAt? source n = some m := by rw [markerAt?_of_getElem? hopening, hm]
    have hnk : n < k := hbody.le
    have hke := hrest.le
    obtain ⟨hne, htext⟩ := padTo_joinLines_body hclean hbody hmarker hne₁ hflatten₁ hnil₁
    refine ⟨(List.Ico n k).flatMap (keptAt source) :: groups₂, ?_, by simp; omega, ?_, ?_⟩
    · exact List.forall_mem_cons.2 ⟨hne, hne₂⟩
    · rw [bodyTexts_block, htexts₁, htexts₂, htext, List.map_cons]
    · rw [List.flatten_cons, hflatten₂, ← List.flatMap_append,
        List.Ico.append_consecutive hnk.le hke]

/-- A document all of whose blocks are made to their own bodies is made to the lines that stay. -/
lemma compile_ofLines_eq_keptLines (hclean : ∀ line ∈ source, '\n' ∉ line.toList) :
    Id.run ((ofLines source).compile (fun _ body => pure body) fun _ text => pure text) =
      Text.joinLines (keptLines source) := by
  obtain ⟨groups, hne, -, htexts, hflatten⟩ := (layout_ofLines source).bodyTexts hclean
  rw [List.Ico.zero_bot] at hflatten
  rw [keptLines, ← hflatten, ← Text.joinLines_map_joinLines groups hne, ← htexts, Document.compile,
    compilePieces_eq_compileNodes _ _ _ fun _ _ _ => rfl]
  rfl

/-! ### Blocks that hand their bodies on -/

open Registry

variable {setup : Setup} {s t : Session} {ext : String}

/-- Actions that give one text whenever they succeed, on every session that has grown. -/
def handing (setup : Setup) (s : Session) : Correspondence Act Id where
  rel action a := ∀ t b u, Grows setup s t → perform action t = (.ok b, u) →
    b = Id.run a ∧ Grows setup s u
  rel_pure _ _ _ _ ht h := by
    cases h
    exact ⟨rfl, ht⟩
  rel_bind haction hnext t b u ht h := by
    obtain ⟨a, v, hfirst, hrest⟩ := exists_of_perform_bind_ok h
    obtain ⟨rfl, hv⟩ := haction t a v ht hfirst
    exact hnext _ v b u hv hrest

/-- Every pipeline that an extension has, or may come to have, hands texts on. -/
def HandsOnAt (setup : Setup) (r : Registry) (options : Options) (ext : String) : Prop :=
  ∃ spec, eventualTarget? setup r ext = some (.chain spec) ∧
    ∀ p, Serves setup r (Text.trim spec) p → p.HandsOn options

/-- A block that is given to a pipeline that hands texts on is made to its own body. -/
lemma runBlock_handing (depth : Nat) (h : HandsOnAt setup s.registry options ext) (body : String) :
    (handing setup s).rel (runBlock (compileWithin setup options depth) options ext body)
      (pure body) := by
  intro t forced u ht hrun
  obtain ⟨spec, htarget, hall⟩ := h
  obtain ⟨output, v, hcompile, hrender⟩ := exists_of_perform_bind_ok hrun
  rw [Act.perform_rendering] at hrender
  rw [← ht.eventualTarget?_eq] at htarget
  obtain ⟨p, hserves, hresult⟩ := exists_execute_of_compileWithin htarget hcompile
  have hgrows : Grows setup t _ := grows_compileWithin options depth ext body t
  rw [hcompile] at hgrows
  cases hforce : output.force options with
  | error e =>
    rw [hforce] at hrender
    cases hrender
  | ok forced' =>
    rw [hforce] at hrender
    cases hrender
    exact ⟨hall p (ht.serves hserves) body output forced hresult hforce, ht.trans hgrows⟩

/-- No line is lost, repeated or moved: a document that is accepted, and whose blocks all have
pipelines that hand texts on, becomes its own lines without the marker lines that have a body; the
other marker lines become lines of blanks. -/
theorem compileDocument_eq_keptLines (setup : Setup) (options : Options) (depth : Nat) (text : String)
    (s : Session)
    (hblocks : ∀ i ∈ markerLines (Text.splitLines text), ∀ m ∈ markerAt? (Text.splitLines text) i,
      HandsOnAt setup s.registry options m.extension)
    {result : String} {t : Session}
    (haccept : perform (compileDocument (compileWithin setup options depth) options text) s =
      (.ok result, t)) :
    result = Text.joinLines (keptLines (Text.splitLines text)) := by
  rw [← compile_ofLines_eq_keptLines fun _ => Text.not_mem_of_mem_splitLines]
  have h : (handing setup s).rel (compileDocument (compileWithin setup options depth) options text)
      ((ofText text).compile (fun _ body => pure body) fun _ text => pure text) := by
    rw [compileDocument_eq]
    apply Document.compile_related
    · intro marker hmem body
      obtain ⟨i, hi⟩ := (layout_ofLines _).exists_markerAt? hmem
      exact runBlock_handing depth (hblocks i (mem_markerLines_of_markerAt? hi) marker hi) body
    · intro number content _ t b u _ h
      cases h
  exact (h s result t (.refl s) haccept).1

/-! ### Built-in chains -/

lemma parse_builtInChain : ∀ entry ∈ builtInChains,
    Chain.parse (Text.trim entry.2) = .ok ⟨[entry.2], none, false⟩ ∧
      entry.2 ∈ StageTable.passthroughNames ∧
      eventualTarget? .standard .initial entry.1 = some (.chain entry.2) := by
  decide +kernel

lemma handsOnAt_builtIn (options : Options) (h : ext ∈ builtInChains.map Prod.fst) :
    HandsOnAt .standard .initial options ext := by
  obtain ⟨⟨_, spec⟩, hentry, rfl⟩ := List.mem_map.1 h
  obtain ⟨hchain, hname, htarget⟩ := parse_builtInChain _ hentry
  refine ⟨spec, htarget, ?_⟩
  rintro p ⟨before, linked, after, hlink, rfl⟩
  obtain ⟨hparse, hanswered, -⟩ := Chain.answered_of_link hlink
  have heq : linked.chain = ⟨[spec], none, false⟩ := Except.ok.inj (hparse.symm.trans hchain)
  apply Pipeline.handsOn_of_stages
  · intro stage hmem
    obtain ⟨before', name, hmem', hanswer⟩ := hanswered.pre.exists_answer hmem
    rw [heq, List.mem_singleton] at hmem'
    exact StageTable.handsOn_of_lookup hname (hmem' ▸ hanswer)
  · intro stage hmem
    obtain ⟨before', name, hmem', -⟩ := hanswered.post.exists_answer (Option.mem_toList.2 hmem)
    rw [heq] at hmem'
    cases hmem'

/-- A page with blocks inside blocks, an empty block, and blank lines. -/
def nestedPage : String :=
  ">> html\n<p>\n  >> css\n   b \x7b\x7d\n    >> js\n    >> txt\n    x\n</p>\n\n>> js\n"

/-- The lines that stay of a page with nested blocks. -/
theorem compileDocument_eq_keptLines_nestedPage :
    (perform (compileDocument (compileWithin .standard .empty 1) .empty nestedPage) .initial).1 =
      .ok (Text.joinLines (keptLines (Text.splitLines nestedPage))) := by
  have hmarkers : ∀ i ∈ markerLines (Text.splitLines nestedPage),
      ∀ m ∈ markerAt? (Text.splitLines nestedPage) i,
        m.extension ∈ builtInChains.map Prod.fst := by
    decide +kernel
  have haccept : (perform (compileDocument (compileWithin .standard .empty 1) .empty nestedPage)
      .initial).1.toOption.isSome = true := by
    decide +kernel
  rcases hperform : perform (compileDocument (compileWithin .standard .empty 1) .empty nestedPage)
    .initial with ⟨e | result, t⟩
  · rw [hperform] at haccept
    cases haccept
  · rw [compileDocument_eq_keptLines .standard .empty 1 nestedPage .initial
      (fun i hi m hm => handsOnAt_builtIn .empty (hmarkers i hi m hm)) hperform]

example : keptLines (Text.splitLines nestedPage) =
    ["<p>", "   b \x7b\x7d", "    ", "    x", "</p>", "", ""] := by
  decide +kernel

end Document

end TextChain
