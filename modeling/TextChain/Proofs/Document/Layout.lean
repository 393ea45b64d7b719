import TextChain.Proofs.Document.Ownership

/-!
# Where the parts of a document stand

`Layout source owner n nodes e` says that the parts `nodes` are read from the lines `n` up to `e` for
the marker line `owner`, or for the top level. Reading a body and reading a document give a layout
(`layout_body`, `layout_ofLines`), and facts about documents are proved by induction on it.
-/

namespace TextChain

namespace Document

variable {source : List String} {owner : Option Nat} {i j k n e : Nat} {nodes : List Node}
  {line : String} {m : Marker}

/-- A line can stand in the body of a marker line; at the top level every line can stand. -/
def InScope (source : List String) : Option Nat → String → Prop
  | none, _ => True
  | some j, line => ∃ m ∈ markerAt? source j, Continues m.indent line

/-- The parts that are read from the lines `n` up to `e`. -/
inductive Layout (source : List String) : Option Nat → Nat → List Node → Nat → Prop
  /-- The next line is out of scope, or there is none. -/
  | stop {owner : Option Nat} {n : Nat} (hout : ∀ line ∈ source[n]?, ¬ InScope source owner line) :
      Layout source owner n [] n
  | line {owner : Option Nat} {n e : Nat} {text : String} {rest : List Node}
      (htext : source[n]? = some text) (hm : Marker.parse? text = none)
      (hin : InScope source owner text) (hrest : Layout source owner (n + 1) rest e) :
      Layout source owner n (.line text :: rest) e
  /-- The next line opens a block, whose body ends before the line `k`. -/
  | block {owner : Option Nat} {n k e : Nat} {m : Marker} {opening : String} {body rest : List Node}
      (hopening : source[n]? = some opening) (hm : Marker.parse? opening = some m)
      (hin : InScope source owner opening) (hbody : Layout source (some n) (n + 1) body k)
      (hrest : Layout source owner k rest e) :
      Layout source owner n (.block m opening body :: rest) e

/-! ### The lines of a layout -/

lemma inScope_some_iff (hj : markerAt? source j = some m) :
    InScope source (some j) line ↔ Continues m.indent line := by
  simp [InScope, hj]

lemma OpenAt.inScope (h : OpenAt source j i) :
    ∃ line, source[i]? = some line ∧ InScope source (some j) line := by
  obtain ⟨m, hm, hlt, hall⟩ := h
  obtain ⟨line, hline, hc⟩ := hall i le_rfl hlt
  exact ⟨line, hline, m, hm, hc⟩

/-- What is in the scope of a marker line is in every scope that the marker line is in. -/
lemma InScope.trans {opening : String} (h : InScope source (some n) line)
    (hopening : source[n]? = some opening) (hin : InScope source owner opening) :
    InScope source owner line := by
  cases owner with
  | none => trivial
  | some j =>
    obtain ⟨m, hm, hc⟩ := h
    obtain ⟨m', hm', hc'⟩ := hin
    rw [markerAt?_of_getElem? hopening] at hm
    exact ⟨m', hm', hc.of_lt (lt_indent_of_continues hc' hm)⟩

lemma Layout.le (h : Layout source owner n nodes e) : n ≤ e := by
  induction h with
  | stop => exact le_rfl
  | line _ _ _ _ ih => omega
  | block _ _ _ _ _ ih₁ ih₂ => omega

/-- The lines of a layout are in the scope of its owner. -/
lemma Layout.inScope (h : Layout source owner n nodes e) (hle : n ≤ i) (hlt : i < e) :
    ∃ line, source[i]? = some line ∧ InScope source owner line := by
  induction h with
  | stop => omega
  | @line owner n e text rest htext _ hin _ ih =>
    rcases hle.eq_or_lt with rfl | hlt'
    · exact ⟨text, htext, hin⟩
    · exact ih hlt' hlt
  | @block owner n k e m opening body rest hopening _ hin _ _ ih₁ ih₂ =>
    rcases hle.eq_or_lt with rfl | hlt'
    · exact ⟨opening, hopening, hin⟩
    rcases lt_or_ge i k with hik | hki
    · obtain ⟨line, hline, hscope⟩ := ih₁ hlt' hik
      exact ⟨line, hline, hscope.trans hopening hin⟩
    · exact ih₂ hki hlt

/-- The line after a layout is not in the scope of its owner. -/
lemma Layout.not_inScope (h : Layout source owner n nodes e) (hline : source[e]? = some line) :
    ¬ InScope source owner line := by
  induction h with
  | stop hout => exact hout line hline
  | line _ _ _ _ ih => exact ih hline
  | block _ _ _ _ _ _ ih => exact ih hline

lemma Layout.le_length (h : Layout source owner n nodes e) (hn : n ≤ source.length) :
    e ≤ source.length := by
  rcases h.le.eq_or_lt with rfl | hlt
  · exact hn
  · obtain ⟨_, hline, -⟩ := h.inScope (i := e - 1) (by omega) (by omega)
    have := (List.getElem?_eq_some_iff.1 hline).1
    omega

/-! ### Reading gives a layout -/

lemma getElem?_of_drop_eq_cons {first : String} {rest : List String}
    (h : source.drop n = first :: rest) : source[n]? = some first := by
  rw [← List.head?_drop, h, List.head?_cons]

lemma drop_succ_of_drop_eq_cons {first : String} {rest : List String}
    (h : source.drop n = first :: rest) : source.drop (n + 1) = rest := by
  rw [← List.tail_drop, h, List.tail_cons]

/-- The body of a block is laid out from any line on, and stops where reading it stops. -/
lemma layout_body {rest : List String} (hj : markerAt? source j = some m)
    (hrest : source.drop n = rest) :
    ∃ e, Layout source (some j) n (Node.body m.indent rest) e ∧
      source.drop e = Node.afterBody m.indent rest := by
  unfold Node.body Node.afterBody
  obtain ⟨base, hbase⟩ : ∃ base, base = m.indent := ⟨_, rfl⟩
  rw [← hbase]
  fun_induction Node.scan base rest generalizing n j m with
  | case1 =>
    have hnone : source[n]? = none := by rw [← List.head?_drop, hrest, List.head?_nil]
    exact ⟨n, .stop (by simp [hnone]), hrest⟩
  | case2 base first rest hlt =>
    have hfirst := getElem?_of_drop_eq_cons hrest
    refine ⟨n, .stop ?_, hrest⟩
    intro line hline
    cases hfirst.symm.trans hline
    rw [inScope_some_iff hj, ← hbase]
    intro hc
    have := hc.1
    omega
  | case3 base first rest hle hm body after hlen heq ih =>
    have hfirst := getElem?_of_drop_eq_cons hrest
    obtain ⟨e, hlayout, hdrop⟩ := ih hj (drop_succ_of_drop_eq_cons hrest) hbase
    rw [heq] at hlayout hdrop
    refine ⟨e, .line hfirst hm ?_ hlayout, hdrop⟩
    rw [inScope_some_iff hj, ← hbase]
    exact ⟨by omega, by simp [hm]⟩
  | case4 base first rest hle marker hm hlt inner rest' hlen heq hlt' body after hlen' heq' ih₁ ih₂ =>
    have hfirst := getElem?_of_drop_eq_cons hrest
    have hmarker : markerAt? source n = some marker := by rw [markerAt?_of_getElem? hfirst, hm]
    obtain ⟨k, hinner, hdrop⟩ := ih₁ hmarker (drop_succ_of_drop_eq_cons hrest) rfl
    rw [heq] at hinner hdrop
    obtain ⟨e, hlayout, hdrop'⟩ := ih₂ hj hdrop hbase
    rw [heq'] at hlayout hdrop'
    refine ⟨e, .block hfirst hm ?_ hinner hlayout, hdrop'⟩
    rw [inScope_some_iff hj, ← hbase]
    refine ⟨by omega, ?_⟩
    rw [hm, Option.map_some, ne_eq, Option.some_inj]
    omega
  | case5 base first rest hle marker hm hlt =>
    have hfirst := getElem?_of_drop_eq_cons hrest
    refine ⟨n, .stop ?_, hrest⟩
    intro line hline
    cases hfirst.symm.trans hline
    rw [inScope_some_iff hj, ← hbase]
    intro hc
    exact hlt (lt_indent_of_continues hc hm)

/-- A part of a document as a part of a body. -/
def Piece.node : Piece → Node
  | .blank text => .line text
  | .block marker opening body => .block marker opening body
  | .stray _ text => .line text

/-- The top level of a document is laid out up to its end. -/
lemma layout_readPieces (total : Nat) {rest : List String} (hn : n ≤ source.length)
    (hrest : source.drop n = rest) :
    Layout source none n ((readPieces total rest).map Piece.node) source.length := by
  fun_induction readPieces total rest generalizing n with
  | case1 =>
    obtain rfl : n = source.length := le_antisymm hn (List.drop_eq_nil_iff.1 hrest)
    exact .stop (by simp)
  | case2 first rest marker hm hlt ih =>
    have hfirst := getElem?_of_drop_eq_cons hrest
    have hmarker : markerAt? source n = some marker := by rw [markerAt?_of_getElem? hfirst, hm]
    obtain ⟨k, hbody, hdrop⟩ := layout_body hmarker (drop_succ_of_drop_eq_cons hrest)
    have hk := hbody.le_length (List.getElem?_eq_some_iff.1 hfirst).1
    exact .block hfirst hm trivial hbody (ih hk hdrop)
  | case3 first rest hm hblank ih =>
    have hfirst := getElem?_of_drop_eq_cons hrest
    exact .line hfirst hm trivial
      (ih (List.getElem?_eq_some_iff.1 hfirst).1 (drop_succ_of_drop_eq_cons hrest))
  | case4 first rest hm hblank ih =>
    have hfirst := getElem?_of_drop_eq_cons hrest
    exact .line hfirst hm trivial
      (ih (List.getElem?_eq_some_iff.1 hfirst).1 (drop_succ_of_drop_eq_cons hrest))

/-- The parts of a document, read as the parts of a body. -/
def topNodes (d : Document) : List Node :=
  d.pieces.map Piece.node

/-- A document is laid out from its first line to its end. -/
lemma layout_ofLines (source : List String) :
    Layout source none 0 (ofLines source).topNodes source.length :=
  layout_readPieces _ (Nat.zero_le _) List.drop_zero

/-! ### Owners in a layout -/

/-- The state of a reader at the line `n`: the block of the owner is open up to there, and no block
that was opened since is open any more. -/
structure Reached (source : List String) (owner : Option Nat) (n : Nat) : Prop where
  /-- The owner opened before, and every line since is in its scope. -/
  owner_open : ∀ j, owner = some j →
    j < n ∧ ∀ i, j < i → i < n → ∃ line, source[i]? = some line ∧ InScope source owner line
  /-- Of the blocks that were opened after the owner none is open. -/
  inner_closed : ∀ j, (∀ j', owner = some j' → j' < j) → j < n → ¬ OpenAt source j n

lemma reached_top (source : List String) : Reached source none 0 where
  owner_open := nofun
  inner_closed _ _ hlt := absurd hlt (Nat.not_lt_zero _)

lemma reached_body (source : List String) (n : Nat) : Reached source (some n) (n + 1) where
  owner_open j hj := by
    cases hj
    exact ⟨Nat.lt_succ_self n, fun i hlt hle => absurd hle (by omega)⟩
  inner_closed j hj hlt := by
    have := hj n rfl
    omega

/-- A line in the scope of a marker line that is open so far is a line at which it is open. -/
lemma Reached.openAt (h : Reached source (some j) n) (hline : source[n]? = some line)
    (hin : InScope source (some j) line) : OpenAt source j n := by
  obtain ⟨hlt, hall⟩ := h.owner_open j rfl
  obtain ⟨m, hm, hc⟩ := hin
  refine ⟨m, hm, hlt, ?_⟩
  intro i hle hji
  rcases hle.eq_or_lt with rfl | hi
  · exact ⟨line, hline, hc⟩
  · obtain ⟨line', hline', hin'⟩ := hall i hji hi
    exact ⟨line', hline', (inScope_some_iff hm).1 hin'⟩

/-- The next line belongs to the owner that the reader reads for. -/
lemma Reached.owner?_eq (h : Reached source owner n) (hline : source[n]? = some line)
    (hin : InScope source owner line) : owner? source n = owner := by
  cases owner with
  | none =>
    rw [owner?_eq_none_iff]
    intro j hj
    exact h.inner_closed j nofun hj.lt hj
  | some j =>
    rw [owner?_eq_some_iff]
    refine ⟨h.openAt hline hin, ?_⟩
    intro j' hj'
    by_contra hlt
    refine h.inner_closed j' ?_ hj'.lt hj'
    rintro _ ⟨⟩
    exact not_le.1 hlt

/-- Reading a line that is no marker. -/
lemma Reached.after_line (h : Reached source owner n) (hline : source[n]? = some line)
    (hm : Marker.parse? line = none) (hin : InScope source owner line) :
    Reached source owner (n + 1) where
  owner_open j hj := by
    obtain ⟨hlt, hall⟩ := h.owner_open j hj
    refine ⟨by omega, ?_⟩
    intro i hji hi
    rcases (Nat.lt_succ_iff.1 hi).eq_or_lt with rfl | hi'
    · exact ⟨line, hline, hin⟩
    · exact hall i hji hi'
  inner_closed j hj hlt hopen := by
    rcases (Nat.lt_succ_iff.1 hlt).eq_or_lt with rfl | hlt'
    · obtain ⟨m, hmarker⟩ := hopen.exists_marker
      rw [markerAt?_of_getElem? hline, hm] at hmarker
      cases hmarker
    · exact h.inner_closed j hj hlt' (hopen.mono hlt' (Nat.le_succ n))

/-- Reading a block up to the end of its body. -/
lemma Reached.after_block {opening : String} (h : Reached source owner n)
    (hopening : source[n]? = some opening) (hin : InScope source owner opening)
    (hbody : Layout source (some n) (n + 1) nodes k) : Reached source owner k where
  owner_open j hj := by
    obtain ⟨hlt, hall⟩ := h.owner_open j hj
    have := hbody.le
    refine ⟨by omega, ?_⟩
    intro i hji hi
    rcases lt_trichotomy i n with hin' | rfl | hni
    · exact hall i hji hin'
    · exact ⟨opening, hopening, hin⟩
    · obtain ⟨line, hline, hscope⟩ := hbody.inScope hni hi
      exact ⟨line, hline, hscope.trans hopening hin⟩
  inner_closed j hj hlt hopen := by
    obtain ⟨line, hline, hscope⟩ := hopen.inScope
    rcases lt_trichotomy j n with hjn | rfl | hnj
    · have := hbody.le
      exact h.inner_closed j hj hjn (hopen.mono hjn (by omega))
    · exact hbody.not_inScope hline hscope
    · obtain ⟨opening', hopening', hin'⟩ := hbody.inScope hnj hlt
      exact hbody.not_inScope hline (hscope.trans hopening' hin')

/-! ### The lines of an owner -/

/-- A block is open at every line of its body. -/
lemma Layout.openAt (h : Layout source (some n) (n + 1) nodes k) (hlt : n < i) (hik : i < k) :
    OpenAt source n i := by
  obtain ⟨_, _, m, hm, _⟩ := h.inScope hlt hik
  refine ⟨m, hm, hlt, ?_⟩
  intro j hji hnj
  obtain ⟨line, hline, hin⟩ := h.inScope hnj (hji.trans_lt hik)
  exact ⟨line, hline, (inScope_some_iff hm).1 hin⟩

/-- A line belongs to no block that was open before the block around it was opened. -/
lemma owner?_ne_of_openAt (h : OpenAt source n i) : owner? source i ≠ owner? source n := by
  intro heq
  cases hn : owner? source n with
  | none => exact owner?_eq_none_iff.1 (heq.trans hn) n h
  | some j =>
    have hlt := (owner?_eq_some_iff.1 hn).1.lt
    have hle := (owner?_eq_some_iff.1 (heq.trans hn)).2 n h
    omega

/-- Of a block, the owner of its marker line owns the marker line only. -/
lemma filter_owner?_block (hbody : Layout source (some n) (n + 1) nodes k)
    (howner : owner? source n = owner) :
    (List.Ico n k).filter (fun i => owner? source i = owner) = [n] := by
  rw [List.Ico.eq_cons hbody.le, List.filter_cons_of_pos (by simpa using howner)]
  congr 1
  rw [List.filter_eq_nil_iff]
  intro i hi
  obtain ⟨hlt, hik⟩ := List.Ico.mem.1 hi
  rw [decide_eq_true_eq, ← howner]
  exact owner?_ne_of_openAt (hbody.openAt hlt hik)

/-- The lines that belong to a marker line stand in its body. -/
lemma linesOwnedBy_some (hbody : Layout source (some n) (n + 1) nodes k)
    (hk : k ≤ source.length) :
    linesOwnedBy source (some n) =
      (List.Ico (n + 1) k).filter fun i => owner? source i = some n := by
  have hle := hbody.le
  have hbefore : (List.Ico 0 (n + 1)).filter (fun i => owner? source i = some n) = [] := by
    rw [List.filter_eq_nil_iff]
    intro i hi
    rw [decide_eq_true_eq, owner?_eq_some_iff]
    intro h
    have := (List.Ico.mem.1 hi).2
    have := h.1.lt
    omega
  have hafter : (List.Ico k source.length).filter (fun i => owner? source i = some n) = [] := by
    rw [List.filter_eq_nil_iff]
    intro i hi
    rw [decide_eq_true_eq, owner?_eq_some_iff]
    intro h
    obtain ⟨line, hline, hscope⟩ := (h.1.mono hle (List.Ico.mem.1 hi).1).inScope
    exact hbody.not_inScope hline hscope
  rw [linesOwnedBy, ← List.Ico.zero_bot, ← List.Ico.append_consecutive (Nat.zero_le _) hk,
    ← List.Ico.append_consecutive (Nat.zero_le _) hle, List.filter_append, List.filter_append,
    hbefore, hafter, List.nil_append, List.append_nil]

/-- A block that is opened in a layout is closed where the layout ends. -/
lemma Layout.lt_of_openAt (h : Layout source owner n nodes e) (hn : n ≤ j) (hj : j < e)
    (hopen : OpenAt source j i) : i < e := by
  by_contra hge
  obtain ⟨line, hline, hscope⟩ := (hopen.mono hj (not_lt.1 hge)).inScope
  obtain ⟨opening, hopening, hin⟩ := h.inScope hn hj
  exact h.not_inScope hline (hscope.trans hopening hin)

end Document

end TextChain
