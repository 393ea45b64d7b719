import TextChain.Chain
import TextChain.Proofs.Perform
import TextChain.Proofs.Text

/-!
# Chain texts

Reading a chain text finds the stages and the boundary in its trimmed pieces, and nothing else is
accepted (`parse_eq_ok_iff`). So exactly the well formed chains are read from some text, and writing a
chain gives a text from which the same chain is read (`parse_text_canonical`).
-/

namespace TextChain

namespace Chain

variable {c : Chain} {source spec name : String} {pieces pre : List String} {position : Nat}

/-- A piece of a chain text that names a stage. -/
def IsStagePiece (piece : String) : Prop :=
  piece ≠ "" ∧ piece ≠ boundary ∧ piece ≠ wildcard

/-- The stages of a chain before and after its boundary. -/
def segments (c : Chain) : List String × Option (List String) :=
  (c.pre, if c.forced then some c.post.toList else none)

/-- The pieces of a chain text with these stages before and after the boundary. -/
def segmentPieces : List String × Option (List String) → List String
  | (pre, none) => pre
  | (pre, some post) => pre ++ boundary :: post

/-! ### Reading pieces -/

/-- Stages after the boundary are read one by one. -/
lemma readPost_append (h : ∀ piece ∈ pieces, IsStagePiece piece) (position : Nat)
    (rest : List String) :
    readPost spec position (pieces ++ rest) =
      (readPost spec (position + pieces.length) rest).map (pieces ++ ·) := by
  induction pieces generalizing position with
  | nil =>
    rw [List.nil_append, List.length_nil, Nat.add_zero]
    cases readPost spec position rest <;> rfl
  | cons piece pieces ih =>
    obtain ⟨hne, hboundary, hwildcard⟩ := h piece List.mem_cons_self
    rw [List.cons_append, readPost, if_neg hne, if_neg hboundary, if_neg hwildcard,
      ih (fun piece hmem => h piece (List.mem_cons_of_mem _ hmem)) (position + 1), List.length_cons,
      Nat.add_right_comm, Nat.add_assoc]
    cases readPost spec (position + (pieces.length + 1)) rest <;> rfl

lemma readPost_of_isStagePiece (h : ∀ piece ∈ pieces, IsStagePiece piece) :
    readPost spec position pieces = .ok pieces := by
  have hread : readPost spec position (pieces ++ []) = _ := readPost_append h position []
  rwa [List.append_nil, readPost, Except.map, List.append_nil] at hread

lemma eq_of_readPost {posts : List String} (h : readPost spec position pieces = .ok posts) :
    pieces = posts ∧ ∀ piece ∈ posts, IsStagePiece piece := by
  induction pieces generalizing position posts with
  | nil =>
    cases h
    exact ⟨rfl, by simp⟩
  | cons piece rest ih =>
    rw [readPost] at h
    split_ifs at h with hne hboundary hwildcard
    obtain ⟨posts', hrest, rfl⟩ := except_map_eq_ok_iff.1 h
    obtain ⟨rfl, hall⟩ := ih hrest
    exact ⟨rfl, List.forall_mem_cons.2 ⟨⟨hne, hboundary, hwildcard⟩, hall⟩⟩

/-- Stages at the start of the pieces stand before the boundary. -/
lemma readPre_append (h : ∀ piece ∈ pre, IsStagePiece piece) (position : Nat) (rest : List String) :
    readPre spec position (pre ++ rest) =
      (readPre spec (position + pre.length) rest).map fun segments =>
        (pre ++ segments.1, segments.2) := by
  induction pre generalizing position with
  | nil =>
    rw [List.nil_append, List.length_nil, Nat.add_zero]
    cases readPre spec position rest <;> rfl
  | cons piece pre ih =>
    obtain ⟨hne, hboundary, hwildcard⟩ := h piece List.mem_cons_self
    rw [List.cons_append, readPre, if_neg hne, if_neg hboundary, if_neg hwildcard,
      ih (fun piece hmem => h piece (List.mem_cons_of_mem _ hmem)) (position + 1), List.length_cons,
      Nat.add_right_comm, Nat.add_assoc]
    cases readPre spec (position + (pre.length + 1)) rest <;> rfl

lemma readPre_segmentPieces {segments : List String × Option (List String)}
    (hpre : ∀ piece ∈ segments.1, IsStagePiece piece)
    (hpost : ∀ posts ∈ segments.2, ∀ piece ∈ posts, IsStagePiece piece) :
    readPre spec position (segmentPieces segments) = .ok segments := by
  obtain ⟨pre, _ | posts⟩ := segments
  · have h : readPre spec position (pre ++ []) = _ := readPre_append hpre position []
    rwa [List.append_nil, readPre, Except.map, List.append_nil] at h
  · rw [segmentPieces, readPre_append hpre, readPre, if_neg (by decide), if_pos rfl,
      readPost_of_isStagePiece (hpost posts rfl)]
    simp [Except.map]

lemma eq_of_readPre {segments : List String × Option (List String)}
    (h : readPre spec position pieces = .ok segments) :
    pieces = segmentPieces segments ∧ (∀ piece ∈ segments.1, IsStagePiece piece) ∧
      ∀ posts ∈ segments.2, ∀ piece ∈ posts, IsStagePiece piece := by
  induction pieces generalizing position segments with
  | nil =>
    cases h
    exact ⟨rfl, by simp, by simp⟩
  | cons piece rest ih =>
    rw [readPre] at h
    split_ifs at h with hne hboundary hwildcard
    · obtain ⟨posts, hposts, rfl⟩ := except_map_eq_ok_iff.1 h
      obtain ⟨rfl, hall⟩ := eq_of_readPost hposts
      subst hboundary
      exact ⟨rfl, by simp, by simpa using hall⟩
    · obtain ⟨⟨pre, post⟩, hrest, rfl⟩ := except_map_eq_ok_iff.1 h
      obtain ⟨rfl, hpre, hpost⟩ := ih hrest
      refine ⟨?_, List.forall_mem_cons.2 ⟨⟨hne, hboundary, hwildcard⟩, hpre⟩, hpost⟩
      cases post <;> rfl

/-! ### Reading chains -/

lemma ofSegments_eq_ok_iff {segments : List String × Option (List String)} :
    ofSegments spec segments = .ok c ↔ segments = c.segments ∧ (c.post.isSome → c.forced) := by
  obtain ⟨pre, post, forced⟩ := c
  rcases segments with ⟨pre', _ | (_ | ⟨stage, _ | ⟨stage', rest⟩⟩)⟩ <;> cases post <;>
    cases forced <;> simp [ofSegments, Chain.segments]

lemma segmentPieces_segments (h : c.post.isSome → c.forced) : segmentPieces c.segments = c.tokens := by
  obtain ⟨pre, post, forced⟩ := c
  cases forced <;> cases post <;> simp_all [segments, segmentPieces, tokens]

lemma forall_mem_stages_iff {P : String → Prop} (h : c.post.isSome → c.forced) :
    (∀ name ∈ c.stages, P name) ↔
      (∀ name ∈ c.segments.1, P name) ∧ ∀ posts ∈ c.segments.2, ∀ name ∈ posts, P name := by
  obtain ⟨pre, post, forced⟩ := c
  cases forced <;> cases post <;> simp_all [segments, stages, or_imp, forall_and]

/-- A chain text is read as a chain if its trimmed pieces are the stages and the boundary of the chain,
and no stage is one of the special pieces. -/
theorem parse_eq_ok_iff :
    parse source = .ok c ↔ Text.trim source ≠ "" ∧ piecesOf (Text.trim source) = c.tokens ∧
      (∀ name ∈ c.stages, IsStagePiece name) ∧ (c.post.isSome → c.forced) := by
  unfold parse
  dsimp only
  split_ifs with hempty
  · simp [hempty]
  rw [except_bind_eq_ok_iff]
  constructor
  · rintro ⟨segments, hread, hchain⟩
    obtain ⟨rfl, hpost⟩ := ofSegments_eq_ok_iff.1 hchain
    obtain ⟨hpieces, hnames⟩ := eq_of_readPre hread
    exact ⟨hempty, hpieces.trans (segmentPieces_segments hpost),
      (forall_mem_stages_iff hpost).2 hnames, hpost⟩
  · rintro ⟨-, hpieces, hnames, hpost⟩
    obtain ⟨hpre, hposts⟩ := (forall_mem_stages_iff hpost).1 hnames
    refine ⟨c.segments, ?_, ofSegments_eq_ok_iff.2 ⟨rfl, hpost⟩⟩
    rw [hpieces, ← segmentPieces_segments hpost]
    exact readPre_segmentPieces hpre hposts

lemma parse_trim (source : String) : parse (Text.trim source) = parse source := by
  unfold parse
  rw [Text.trim_trim]

lemma parse_of_wildcard (h : Text.trim source = wildcard) :
    parse source = .error (.wildcardInChain wildcard) := by
  rw [← parse_trim, h]
  rfl

/-! ### Well formed chains -/

lemma piecesOf_ne_nil (spec : String) : piecesOf spec ≠ [] := by
  simp [piecesOf, Text.pieces, List.splitOn_ne_nil]

lemma trimmed_of_mem_piecesOf {piece : String} (h : piece ∈ piecesOf spec) :
    Text.trim piece = piece ∧ delimiter ∉ piece.toList := by
  obtain ⟨raw, hraw, rfl⟩ := List.mem_map.1 h
  refine ⟨Text.trim_trim raw, ?_⟩
  rw [Text.trim, String.toList_ofList]
  exact fun hmem => Text.not_mem_of_mem_pieces hraw ((Text.trimChars_sublist _).subset hmem)

lemma mem_tokens_of_mem_stages (h : name ∈ c.stages) : name ∈ c.tokens := by
  rcases List.mem_append.1 h with h | h
  · exact List.mem_append_left _ (List.mem_append_left _ h)
  · exact List.mem_append_right _ h

lemma wellFormed_of_parse (h : parse source = .ok c) : c.WellFormed := by
  obtain ⟨-, hpieces, hnames, hpost⟩ := parse_eq_ok_iff.1 h
  refine ⟨?_, hpost, ?_⟩
  · intro name hmem
    obtain ⟨hne, hboundary, hwildcard⟩ := hnames name hmem
    have hpiece : name ∈ piecesOf (Text.trim source) := hpieces ▸ mem_tokens_of_mem_stages hmem
    obtain ⟨htrim, hdelimiter⟩ := trimmed_of_mem_piecesOf hpiece
    exact ⟨hne, htrim, hdelimiter, hboundary, hwildcard⟩
  · by_contra hnone
    obtain ⟨hpre, hforced⟩ := not_or.1 hnone
    have hlast : c.post = none := by
      cases hc : c.post with
      | none => rfl
      | some post => exact absurd (hpost (by simp [hc])) hforced
    refine piecesOf_ne_nil (Text.trim source) (hpieces.trans ?_)
    simp_all [tokens]

lemma WellFormed.isToken (h : c.WellFormed) {token : String} (hmem : token ∈ c.tokens) :
    token ≠ "" ∧ Text.trim token = token ∧ delimiter ∉ token.toList := by
  simp only [tokens, List.mem_append] at hmem
  rcases hmem with (hmem | hmem) | hmem
  · obtain ⟨hne, htrim, hdelimiter, -⟩ := h.names token (List.mem_append_left _ hmem)
    exact ⟨hne, htrim, hdelimiter⟩
  · split_ifs at hmem
    · obtain rfl := List.mem_singleton.1 hmem
      decide
    · cases hmem
  · obtain ⟨hne, htrim, hdelimiter, -⟩ := h.names token (List.mem_append_right _ hmem)
    exact ⟨hne, htrim, hdelimiter⟩

/-- A well formed chain is read from its canonical text. -/
lemma parse_text_of_wellFormed (h : c.WellFormed) : parse c.text = .ok c := by
  have hne : c.tokens ≠ [] := by
    rcases h.nonempty with hpre | hforced
    · simp [tokens, hpre]
    · simp [tokens, hforced]
  obtain ⟨htext, htrim⟩ : c.text ≠ "" ∧ Text.trim c.text = c.text :=
    Text.trim_intercalate _ hne fun token hmem => ⟨(h.isToken hmem).1, (h.isToken hmem).2.1⟩
  have hpieces : Text.pieces delimiter c.text = c.tokens :=
    Text.pieces_intercalate hne fun token hmem => (h.isToken hmem).2.2
  rw [parse_eq_ok_iff, htrim, piecesOf, hpieces]
  refine ⟨htext, ?_, ?_, h.forced_of_post⟩
  · exact (List.map_congr_left fun token hmem => (h.isToken hmem).2.1).trans (List.map_id _)
  · intro name hmem
    obtain ⟨hname, -, -, hboundary, hwildcard⟩ := h.names name hmem
    exact ⟨hname, hboundary, hwildcard⟩

/-- The canonical text of the chain that a text denotes. -/
def canonicalText (source : String) : Except ChainError String :=
  (parse source).map text

/-- Reading and writing are inverse to each other on well formed chains, and only such chains are read.
So the text that a chain is written to is a canonical form: writing what was read changes nothing the
second time, and two texts have the same canonical form exactly if they are read as the same chain. -/
theorem parse_text_canonical :
    (∀ source c, parse source = .ok c → c.WellFormed) ∧
    (∀ c : Chain, c.WellFormed → parse c.text = .ok c) ∧
    (∀ source written, canonicalText source = .ok written →
      canonicalText written = .ok written) ∧
    ∀ source source' c c', parse source = .ok c → parse source' = .ok c' →
      (c.text = c'.text ↔ c = c') := by
  refine ⟨fun _ _ => wellFormed_of_parse, fun _ => parse_text_of_wellFormed, ?_, ?_⟩
  · intro source written h
    obtain ⟨c, hparse, rfl⟩ := except_map_eq_ok_iff.1 h
    rw [canonicalText, parse_text_of_wellFormed (wellFormed_of_parse hparse)]
    rfl
  · intro source source' c c' hparse hparse'
    refine ⟨fun htext => ?_, congrArg text⟩
    have h := parse_text_of_wellFormed (wellFormed_of_parse hparse)
    rw [htext, parse_text_of_wellFormed (wellFormed_of_parse hparse')] at h
    exact (Except.ok.inj h).symm

example : canonicalText " a > b c >@> d" = .ok "a>b c>@>d" := by decide +kernel

end Chain

end TextChain
