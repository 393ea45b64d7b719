import TextChain.Proofs.Registry.Growth

/-!
# The blocks that a document compiles

A document gives each of its blocks to the registry. `blockCalls` lists these calls in their order, and
`compileDocument_of_ownership` says what they are by the rule of `owner?`: one call for each marker
line, with the lines that belong to it as the body, where the blocks that belong to it stand for their
own lines.
-/

namespace TextChain

/-- A block that was given to the registry, and what came of it. -/
structure BlockCall where
  extension : String
  body : String
  /-- What compiling the body gave. -/
  result : Except EngineError Output

/-- The text of the block, forced with the options. -/
def BlockCall.forced (call : BlockCall) (options : Options) : Except EngineError String :=
  call.result.bind fun output => (output.force options).mapError .stage

/-- Actions on sessions that keep a list of the blocks that they compile. -/
abbrev Watched (α : Type) := ExceptT EngineError (StateM (Session × List BlockCall)) α

namespace Registry

variable {compile : String → String → Act Output} {options : Options} {s t : Session}
  {calls : List BlockCall}

def watchBlock (compile : String → String → Act Output) (options : Options) (ext text : String) :
    Watched String := do
  let (session, calls) ← MonadState.get
  let (result, after) := perform (compile ext text) session
  let call : BlockCall := ⟨ext, text, result⟩
  set (after, calls ++ [call])
  MonadExcept.ofExcept (call.forced options)

def watchDocument (compile : String → String → Act Output) (options : Options) (text : String) :
    Watched String :=
  (Document.ofText text).compile (watchBlock compile options) fun number content =>
    throw (.malformedMarker number content)

/-- The calls for blocks that compiling a document makes. -/
def blockCalls (compile : String → String → Act Output) (options : Options) (text : String)
    (s : Session) : List BlockCall :=
  (perform (watchDocument compile options text) (s, [])).2.2

/-! ### Watching changes nothing -/

lemma perform_watchBlock (ext text : String) (s : Session) (calls : List BlockCall) :
    perform (watchBlock compile options ext text) (s, calls) =
      let call : BlockCall := ⟨ext, text, (perform (compile ext text) s).1⟩
      (call.forced options, ((perform (compile ext text) s).2, calls ++ [call])) := by
  rw [watchBlock, perform_bind_of_ok (perform_get (s, calls))]
  exact (perform_bind_of_ok (perform_set _ _) _).trans (perform_ofExcept _ _)

/-- The call that is kept when a block is compiled. -/
lemma exists_call_of_watchBlock {ext text forced : String} {w w' : Session × List BlockCall}
    (h : perform (watchBlock compile options ext text) w = (.ok forced, w')) :
    ∃ call : BlockCall, call.extension = ext ∧ call.body = text ∧
      call.forced options = .ok forced ∧ w'.2 = w.2 ++ [call] := by
  obtain ⟨s, calls⟩ := w
  rw [perform_watchBlock] at h
  obtain ⟨hforced, rfl⟩ := Prod.mk.inj h
  exact ⟨_, rfl, rfl, hforced, rfl⟩

lemma perform_runBlock (ext text : String) (s : Session) :
    perform (runBlock compile options ext text) s =
      (BlockCall.forced ⟨ext, text, (perform (compile ext text) s).1⟩ options,
        (perform (compile ext text) s).2) := by
  rw [runBlock, perform_bind]
  rcases perform (compile ext text) s with ⟨e | output, t⟩
  · rfl
  · exact Act.perform_rendering _ _

/-- A watched action and the action itself. -/
def watching : Correspondence Watched Act where
  rel watched action := ∀ s calls,
    perform action s = ((perform watched (s, calls)).1, (perform watched (s, calls)).2.1)
  rel_pure _ _ _ := rfl
  rel_bind {_ _ watched action next next'} haction hnext s calls := by
    have h := haction s calls
    rcases hperform : perform watched (s, calls) with ⟨e | a, t, calls'⟩
    · rw [hperform] at h
      rw [perform_bind_of_error hperform, perform_bind_of_error h]
    · rw [hperform] at h
      rw [perform_bind_of_ok hperform, perform_bind_of_ok h]
      exact hnext a t calls'

/-- Compiling a document gives what it gives when its calls are kept. -/
theorem perform_compileDocument_eq_watch (text : String) (s : Session) :
    perform (compileDocument compile options text) s =
      ((perform (watchDocument compile options text) (s, [])).1,
        (perform (watchDocument compile options text) (s, [])).2.1) := by
  have h : watching.rel (watchDocument compile options text)
      (compileDocument compile options text) := by
    rw [compileDocument_eq]
    apply Document.compile_related watching
    · intro marker _ body s calls
      rw [perform_watchBlock, perform_runBlock]
    · intro number content _ s calls
      rfl
  exact h s []

end Registry

namespace Document

open Registry

variable {compile : String → String → Act Output} {options : Options} {source : List String}
  {owner : Option Nat} {n e j : Nat} {nodes : List Node} {out out' : Nat → String}
  {call : BlockCall} {w w' : Session × List BlockCall}

/-- What a line adds to the text of its owner: a marker line adds the padded text of its block. -/
def partAt (source : List String) (out : Nat → String) (i : Nat) : String :=
  match markerAt? source i with
  | some m => Text.padTo m.indent (out i)
  | none => source[i]?.getD ""

/-- The body of the block of a marker line. -/
def bodyAt (source : List String) (out : Nat → String) (j : Nat) : String :=
  Text.joinLines ((linesOwnedBy source (some j)).map (partAt source out))

/-- The call was made for the block of the marker line `j`, where `out` gives the texts of blocks. -/
structure MadeFor (source : List String) (options : Options) (out : Nat → String) (call : BlockCall)
    (j : Nat) : Prop where
  extension : (markerAt? source j).map Marker.extension = some call.extension
  body : call.body = bodyAt source out j
  forced : call.forced options = .ok (out j)

lemma partAt_congr {i : Nat} (h : out i = out' i) :
    partAt source out i = partAt source out' i := by
  unfold partAt
  rw [h]

/-- The body of a block depends on the texts of the blocks in it only. -/
lemma bodyAt_congr (h : ∀ k, OpenAt source j k → out k = out' k) :
    bodyAt source out j = bodyAt source out' j := by
  rw [bodyAt, bodyAt]
  congr 1
  refine List.map_congr_left fun k hk => partAt_congr ?_
  have howner := (List.mem_filter.1 hk).2
  rw [decide_eq_true_eq, owner?_eq_some_iff] at howner
  exact h k howner.1

/-- Of the texts of blocks, a call depends on those from its marker line up to the end of its body. -/
lemma MadeFor.congr (h : MadeFor source options out call j) (hclosed : ∀ i, OpenAt source j i → i < e)
    (hj : j < e) (hout : ∀ i, j ≤ i → i < e → out i = out' i) :
    MadeFor source options out' call j where
  extension := h.extension
  body := h.body.trans (bodyAt_congr fun i hopen => hout i hopen.lt.le (hclosed i hopen))
  forced := hout j le_rfl hj ▸ h.forced

/-- The body of a block, from the part of the document that it is read from. -/
lemma bodyAt_eq_of_layout {k : Nat} (hbody : Layout source (some n) (n + 1) nodes k)
    (hk : k ≤ source.length) (hout : ∀ i, n < i → i < k → out i = out' i) :
    bodyAt source out n = Text.joinLines
      (((List.Ico (n + 1) k).filter fun i => owner? source i = some n).map (partAt source out')) := by
  rw [bodyAt, linesOwnedBy_some hbody hk]
  congr 1
  refine List.map_congr_left fun i hi => partAt_congr ?_
  obtain ⟨hni, hik⟩ := List.Ico.mem.1 (List.mem_of_mem_filter hi)
  exact hout i hni hik

/-- The first part of a body and the other parts, when compiling them succeeds. -/
lemma perform_compileNodes_cons {run : String → String → Watched String} {node : Node}
    {rest : List Node} {texts : List String}
    (h : perform (compileNodes run (node :: rest)) w = (.ok texts, w')) :
    ∃ text texts' v, perform (compileNode run node) w = (.ok text, v) ∧
      perform (compileNodes run rest) v = (.ok texts', w') ∧ texts = text :: texts' := by
  obtain ⟨text, v, hnode, h⟩ := exists_of_perform_bind_ok (by rwa [compileNodes] at h)
  obtain ⟨texts', _, hrest, h⟩ := exists_of_perform_bind_ok h
  cases h
  exact ⟨text, texts', v, hnode, hrest, rfl⟩

/-- The body of a block and the call for it, when compiling the block succeeds. -/
lemma perform_compileNode_block {ε σ : Type} {run : String → String → ExceptT ε (StateM σ) String}
    {u u' : σ} {m : Marker} {opening text : String} {body : List Node}
    (h : perform (compileNode run (.block m opening body)) u = (.ok text, u')) :
    ∃ parts text' v, perform (compileNodes run body) u = (.ok parts, v) ∧
      perform (run m.extension (Text.joinLines parts)) v = (.ok text', u') ∧
      text = Text.padTo m.indent text' := by
  obtain ⟨parts, v, hbody, h⟩ := exists_of_perform_bind_ok (by rwa [compileNode] at h)
  obtain ⟨text', _, hrun, h⟩ := exists_of_perform_bind_ok h
  cases h
  exact ⟨parts, text', v, hbody, hrun, rfl⟩

/-- The calls for the inner blocks of a block come before the call for the block. -/
lemma perm_markerLines_block {k : Nat} {order₁ order₂ : List Nat} (hnk : n < k) (hke : k ≤ e)
    (hm : (markerAt? source n).isSome)
    (h₁ : order₁.Perm ((List.Ico (n + 1) k).filter fun i => (markerAt? source i).isSome))
    (h₂ : order₂.Perm ((List.Ico k e).filter fun i => (markerAt? source i).isSome)) :
    (order₁ ++ n :: order₂).Perm ((List.Ico n e).filter fun i => (markerAt? source i).isSome) := by
  rw [← List.Ico.append_consecutive hnk.le hke, List.Ico.eq_cons hnk, List.filter_append,
    List.filter_cons_of_pos (by simpa using hm)]
  exact List.perm_middle.trans ((h₁.append h₂).cons n)

/-- Of the lines of a block, the owner of its marker line has the text of the block. -/
lemma map_partAt_block {k : Nat} {m : Marker} (hbody : Layout source (some n) (n + 1) nodes k)
    (hke : k ≤ e) (howner : owner? source n = owner) (hm : markerAt? source n = some m) :
    ((List.Ico n e).filter fun i => owner? source i = owner).map (partAt source out) =
      Text.padTo m.indent (out n) ::
        ((List.Ico k e).filter fun i => owner? source i = owner).map (partAt source out) := by
  have hnk : n < k := hbody.le
  rw [← List.Ico.append_consecutive hnk.le hke, List.filter_append, filter_owner?_block hbody howner,
    List.map_append]
  simp [partAt, hm]

/-- The calls that the parts of a layout make when all of them succeed, and the texts of the parts. Of
the texts of blocks only those in the layout are chosen anew. -/
lemma Layout.calls (h : Layout source owner n nodes e) (hreached : Reached source owner n)
    (hn : n ≤ source.length) {texts : List String}
    (hrun : perform (compileNodes (watchBlock compile options) nodes) w = (.ok texts, w'))
    (out₀ : Nat → String) :
    ∃ (out : Nat → String) (order : List Nat) (made : List BlockCall),
      (∀ i, i < n ∨ e ≤ i → out i = out₀ i) ∧
      order.Perm ((List.Ico n e).filter fun i => (markerAt? source i).isSome) ∧
      w'.2 = w.2 ++ made ∧
      List.Forall₂ (fun call j => (n ≤ j ∧ j < e) ∧ MadeFor source options out call j) made order ∧
      texts = ((List.Ico n e).filter fun i => owner? source i = owner).map (partAt source out) := by
  induction h generalizing w w' texts out₀ with
  | stop hout =>
    cases hrun
    exact ⟨out₀, [], [], fun _ _ => rfl, by simp, by simp, .nil, by simp⟩
  | @line owner n e text rest htext hm hin hrest ih =>
    obtain ⟨_, texts', v, hnode, hrun, rfl⟩ := perform_compileNodes_cons hrun
    cases hnode
    have hlt := (List.getElem?_eq_some_iff.1 htext).1
    obtain ⟨out, order, made, hout, horder, hmade, hall, rfl⟩ :=
      ih (hreached.after_line htext hm hin) hlt hrun out₀
    have hmarker : markerAt? source n = none := by rw [markerAt?_of_getElem? htext, hm]
    refine ⟨out, order, made, fun i hi => hout i (by omega), ?_, hmade, ?_, ?_⟩
    · rwa [List.Ico.eq_cons hrest.le, List.filter_cons_of_neg (by simp [hmarker])]
    · exact hall.imp fun _ _ h => ⟨⟨by omega, h.1.2⟩, h.2⟩
    · rw [List.Ico.eq_cons hrest.le,
        List.filter_cons_of_pos (by simpa using hreached.owner?_eq htext hin), List.map_cons]
      simp [partAt, hmarker, htext]
  | @block owner n k e m opening body rest hopening hm hin hbody hrest ih₁ ih₂ =>
    obtain ⟨_, texts', v, hnode, hrun', rfl⟩ := perform_compileNodes_cons hrun
    obtain ⟨parts, text, u, hparts, hblock, rfl⟩ := perform_compileNode_block hnode
    obtain ⟨call, hext, hcallBody, hforced, hcall⟩ := exists_call_of_watchBlock hblock
    have hmarker : markerAt? source n = some m := by rw [markerAt?_of_getElem? hopening, hm]
    have hlt := (List.getElem?_eq_some_iff.1 hopening).1
    have hk := hbody.le_length hlt
    have hnk : n < k := hbody.le
    have hke := hrest.le
    obtain ⟨out₁, order₁, made₁, hout₁, horder₁, hmade₁, hall₁, rfl⟩ :=
      ih₁ (reached_body source n) hlt hparts out₀
    obtain ⟨out, order₂, made₂, hout₂, horder₂, hmade₂, hall₂, rfl⟩ :=
      ih₂ (hreached.after_block hopening hin hbody) hk hrun' (Function.update out₁ n text)
    -- the texts of the blocks in the body are those that compiling the body chose
    have hinner : ∀ i, n < i → i < k → out₁ i = out i := by
      intro i hni hik
      rw [hout₂ i (.inl hik), Function.update_of_ne (by omega)]
    have htext : out n = text := by rw [hout₂ n (.inl hnk), Function.update_self]
    refine ⟨out, order₁ ++ n :: order₂, made₁ ++ call :: made₂, ?_, ?_, ?_, ?_, ?_⟩
    · intro i hi
      rw [hout₂ i (by omega), Function.update_of_ne (by omega), hout₁ i (by omega)]
    · exact perm_markerLines_block hnk hke (by simp [hmarker]) horder₁ horder₂
    · rw [hmade₂, hcall, hmade₁, List.append_assoc, List.append_assoc, List.singleton_append]
    · refine List.rel_append (hall₁.imp fun _ j h => ?_) (.cons ⟨⟨le_rfl, by omega⟩, ?_⟩ ?_)
      · obtain ⟨⟨hnj, hjk⟩, hmadeFor⟩ := h
        exact ⟨⟨by omega, by omega⟩, hmadeFor.congr (fun _ => hbody.lt_of_openAt hnj hjk) hjk
          fun i hji hik => hinner i (by omega) hik⟩
      · exact ⟨by rw [hmarker, hext]; rfl,
          hcallBody.trans (bodyAt_eq_of_layout hbody hk fun i hni hik => (hinner i hni hik).symm).symm,
          htext ▸ hforced⟩
      · exact hall₂.imp fun _ _ h => ⟨⟨by omega, h.1.2⟩, h.2⟩
    · rw [map_partAt_block hbody hke (hreached.owner?_eq hopening hin) hmarker, htext]

/-! ### Whole documents -/

/-- A line that belongs to no block and is neither a marker nor blank. -/
structure Stray (source : List String) (i : Nat) (line : String) : Prop where
  getElem?_eq : source[i]? = some line
  top : owner? source i = none
  no_marker : Marker.parse? line = none
  not_blank : Text.isBlankText line ≠ true

lemma stray_of_mem_readPieces {number : Nat} {text : String} {rest : List String}
    (hreached : Reached source none n) (hn : n ≤ source.length) (hrest : source.drop n = rest)
    (hmem : .stray number text ∈ readPieces source.length rest) :
    Stray source (number - 1) text := by
  fun_induction readPieces source.length rest generalizing n with
  | case1 => cases hmem
  | case2 first rest marker hm hlt ih =>
    have hfirst := getElem?_of_drop_eq_cons hrest
    have hmarker : markerAt? source n = some marker := by rw [markerAt?_of_getElem? hfirst, hm]
    obtain ⟨k, hbody, hdrop⟩ := layout_body hmarker (drop_succ_of_drop_eq_cons hrest)
    have hk := hbody.le_length (List.getElem?_eq_some_iff.1 hfirst).1
    exact ih (hreached.after_block hfirst trivial hbody) hk hdrop (by simpa using hmem)
  | case3 first rest hm hblank ih =>
    have hfirst := getElem?_of_drop_eq_cons hrest
    exact ih (hreached.after_line hfirst hm trivial) (List.getElem?_eq_some_iff.1 hfirst).1
      (drop_succ_of_drop_eq_cons hrest) (by simpa using hmem)
  | case4 first rest hm hblank ih =>
    have hfirst := getElem?_of_drop_eq_cons hrest
    rcases List.mem_cons.1 hmem with heq | hmem
    · have hlen := congrArg List.length hrest
      rw [List.length_drop, List.length_cons] at hlen
      obtain ⟨rfl, rfl⟩ := Piece.stray.inj heq
      rw [show source.length - rest.length - 1 = n by omega]
      exact ⟨hfirst, hreached.owner?_eq hfirst trivial, hm, hblank⟩
    · exact ih (hreached.after_line hfirst hm trivial) (List.getElem?_eq_some_iff.1 hfirst).1
        (drop_succ_of_drop_eq_cons hrest) hmem

/-- The lines that a document refuses are strays. -/
lemma stray_of_mem_pieces {number : Nat} {text : String}
    (h : .stray number text ∈ (ofLines source).pieces) : Stray source (number - 1) text :=
  stray_of_mem_readPieces (reached_top source) (Nat.zero_le _) List.drop_zero h

/-- Watched actions that fail only with the error of a call that they keep. -/
def failingWithCall (options : Options) : Correspondence Watched Watched where
  rel watched _ := ∀ w, ∃ made, (perform watched w).2.2 = w.2 ++ made ∧
    ∀ e, (perform watched w).1 = .error e → ∃ call ∈ made, call.forced options = .error e
  rel_pure _ w := ⟨[], by simp, by simp⟩
  rel_bind {_ _ watched _ next _} hwatched hnext w := by
    obtain ⟨made, hmade, herror⟩ := hwatched w
    rcases hperform : perform watched w with ⟨e | a, v⟩
    · rw [hperform] at hmade herror
      rw [perform_bind_of_error hperform]
      refine ⟨made, hmade, ?_⟩
      intro e' he
      cases he
      exact herror e rfl
    · rw [hperform] at hmade
      rw [perform_bind_of_ok hperform]
      obtain ⟨made', hmade', herror'⟩ := hnext a v
      refine ⟨made ++ made', by rw [hmade', hmade, List.append_assoc], ?_⟩
      intro e he
      obtain ⟨call, hcall, hforced⟩ := herror' e he
      exact ⟨call, List.mem_append_right _ hcall, hforced⟩

/-- A document without stray lines fails only if one of its blocks does. -/
lemma exists_call_of_error {text : String} {e : EngineError}
    (htop : ∀ i line, ¬ Stray (Text.splitLines text) i line)
    (h : (perform (watchDocument compile options text) w).1 = .error e) :
    ∃ call ∈ (perform (watchDocument compile options text) w).2.2,
      call.forced options = .error e := by
  have hrel : (failingWithCall options).rel (watchDocument compile options text)
      (watchDocument compile options text) := by
    apply compile_related
    · rintro marker _ body ⟨s, calls⟩
      rw [perform_watchBlock]
      exact ⟨[_], rfl, fun e he => ⟨_, List.mem_singleton_self _, he⟩⟩
    · intro number content hmem
      exact absurd (stray_of_mem_pieces hmem) (htop _ _)
  obtain ⟨made, hmade, herror⟩ := hrel w
  obtain ⟨call, hcall, hforced⟩ := herror e h
  exact ⟨call, hmade ▸ List.mem_append_right _ hcall, hforced⟩

/-- Watched actions that do the same as long as the targets of some extensions are what they are. -/
def agreeing (setup : Setup) (s : Session) : Correspondence Watched Watched where
  rel watched watched' := ∀ t calls, Grows setup s t →
    perform watched (t, calls) = perform watched' (t, calls) ∧
      Grows setup s (perform watched (t, calls)).2.1
  rel_pure _ t calls ht := ⟨rfl, ht⟩
  rel_bind {_ _ watched watched' next next'} hwatched hnext t calls ht := by
    obtain ⟨heq, hgrows⟩ := hwatched t calls ht
    rcases hperform : perform watched (t, calls) with ⟨e | a, u, calls'⟩
    · rw [hperform] at heq hgrows
      rw [perform_bind_of_error hperform, perform_bind_of_error heq.symm]
      exact ⟨rfl, hgrows⟩
    · rw [hperform] at heq hgrows
      rw [perform_bind_of_ok hperform, perform_bind_of_ok heq.symm]
      exact hnext a u calls' hgrows

/-- A document none of whose blocks is a document is compiled in the same way however deep documents
may be nested. -/
lemma perform_watchDocument_eq {setup : Setup} {text : String} {s : Session} (depth depth' : Nat)
    (hplain : ∀ i ∈ markerLines (Text.splitLines text),
      ∀ m ∈ markerAt? (Text.splitLines text) i,
        eventualTarget? setup s.registry m.extension ≠ some .wildcard) :
    perform (watchDocument (compileWithin setup options depth) options text) (s, []) =
      perform (watchDocument (compileWithin setup options depth') options text) (s, []) := by
  have h : (agreeing setup s).rel
      (watchDocument (compileWithin setup options depth) options text)
      (watchDocument (compileWithin setup options depth') options text) := by
    apply compile_related
    · intro marker hmem body t calls ht
      obtain ⟨i, hi⟩ := (layout_ofLines _).exists_markerAt? hmem
      have htarget := hplain i (mem_markerLines_of_markerAt? hi) marker hi
      rw [← ht.eventualTarget?_eq] at htarget
      rw [perform_watchBlock, perform_watchBlock,
        perform_compileWithin_of_ne_wildcard options depth depth' body htarget]
      exact ⟨rfl, ht.trans (grows_compileWithin options depth' _ body t)⟩
    · intro number content _ t calls ht
      exact ⟨rfl, ht⟩
  exact (h s [] (.refl s)).1

/-- The calls of a document and its text, by the rule of owners: every marker line is compiled once,
its body is made of the lines and the blocks that belong to it, and the text is made of those at the
top level. Keeping the calls changes nothing, and as no block is a document itself, these are all
calls, however deep documents may be nested. -/
theorem compileDocument_of_ownership (setup : Setup) (options : Options) (depth : Nat) (text : String)
    (s : Session)
    (htop : ∀ i ∈ linesOwnedBy (Text.splitLines text) none, ∃ line ∈ (Text.splitLines text)[i]?,
      (Marker.parse? line).isSome ∨ Text.isBlankText line = true)
    (hplain : ∀ i ∈ markerLines (Text.splitLines text),
      ∀ m ∈ markerAt? (Text.splitLines text) i,
        eventualTarget? setup s.registry m.extension ≠ some .wildcard)
    (hok : ∀ call ∈ blockCalls (compileWithin setup options depth) options text s,
      ∃ forced, call.forced options = .ok forced) :
    (∃ (order : List Nat) (out : Nat → String),
      order.Perm (markerLines (Text.splitLines text)) ∧
      List.Forall₂ (MadeFor (Text.splitLines text) options out)
        (blockCalls (compileWithin setup options depth) options text s) order ∧
      (perform (compileDocument (compileWithin setup options depth) options text) s).1 =
        .ok (Text.joinLines
          ((linesOwnedBy (Text.splitLines text) none).map (partAt (Text.splitLines text) out)))) ∧
    perform (compileDocument (compileWithin setup options depth) options text) s =
      ((perform (watchDocument (compileWithin setup options depth) options text) (s, [])).1,
        (perform (watchDocument (compileWithin setup options depth) options text) (s, [])).2.1) ∧
    ∀ depth', perform (watchDocument (compileWithin setup options depth') options text) (s, []) =
      perform (watchDocument (compileWithin setup options depth) options text) (s, []) := by
  refine ⟨?_, perform_compileDocument_eq_watch text s, fun depth' =>
    perform_watchDocument_eq depth' depth hplain⟩
  have hstray : ∀ i line, ¬ Stray (Text.splitLines text) i line := by
    intro i line h
    have hlt := (List.getElem?_eq_some_iff.1 h.getElem?_eq).1
    obtain ⟨line', hline', hkind⟩ :=
      htop i (List.mem_filter.2 ⟨List.mem_range.2 hlt, by simpa using h.top⟩)
    cases h.getElem?_eq.symm.trans hline'
    rcases hkind with hmarker | hblank
    · simp [h.no_marker] at hmarker
    · exact h.not_blank hblank
  rw [perform_compileDocument_eq_watch]
  rcases hwatch : perform (watchDocument (compileWithin setup options depth) options text) (s, [])
    with ⟨e | result, w⟩
  · obtain ⟨call, hcall, herror⟩ := exists_call_of_error hstray (congrArg Prod.fst hwatch)
    obtain ⟨forced, hforced⟩ := hok call hcall
    rw [hforced] at herror
    cases herror
  · have hrun := hwatch
    rw [watchDocument, ofText, Document.compile, compilePieces_eq_compileNodes _ _ _
      fun number line hmem => absurd (stray_of_mem_pieces hmem) (hstray _ _)] at hrun
    obtain ⟨texts, v, hrun, hjoin⟩ := exists_of_perform_bind_ok hrun
    cases hjoin
    obtain ⟨out, order, made, -, horder, hmade, hall, rfl⟩ :=
      (layout_ofLines _).calls (reached_top _) (Nat.zero_le _) hrun fun _ => ""
    rw [List.Ico.zero_bot] at horder ⊢
    refine ⟨order, out, horder, ?_, rfl⟩
    rw [blockCalls, hwatch, hmade]
    exact hall.imp fun _ _ h => h.2

/-- A page with a block inside a block, a line after it, a blank line and a second block. -/
def samplePage : String := ">> html\n<p>\n  >> css\n  b \x7b\x7d\n</p>\n\n>> js\nx"

/-- The rule of owners on a page with nested blocks. -/
theorem compileDocument_of_ownership_samplePage :
    ∃ (order : List Nat) (out : Nat → String),
      order.Perm (markerLines (Text.splitLines samplePage)) ∧
      List.Forall₂ (MadeFor (Text.splitLines samplePage) .empty out)
        (blockCalls (compileWithin .standard .empty 1) .empty samplePage .initial) order ∧
      (perform (compileDocument (compileWithin .standard .empty 1) .empty samplePage) .initial).1 =
        .ok (Text.joinLines ((linesOwnedBy (Text.splitLines samplePage) none).map
          (partAt (Text.splitLines samplePage) out))) := by
  have hforced : ∀ call ∈ blockCalls (compileWithin .standard .empty 1) .empty samplePage .initial,
      (call.forced .empty).toOption.isSome = true := by
    decide +kernel
  refine (compileDocument_of_ownership .standard .empty 1 samplePage .initial (by decide +kernel)
    (by decide +kernel) fun call hcall => ?_).1
  exact exists_ok_of_isSome_toOption (hforced call hcall)

end Document

end TextChain
