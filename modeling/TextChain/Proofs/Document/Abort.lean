import TextChain.Proofs.Document.Visit

/-!
# Where compiling a document stops

The blocks of a document are compiled in the order in which they end, inner blocks first, up to the
first error: an error of a block, of forcing what it was compiled to, or of a line that belongs to no
block. Nothing is compiled after it (`compileDocument_in_postOrder`).
-/

namespace TextChain

open Registry

/-- The second session is what the calls, one after the other, make of the first, and their results are
those that are kept. -/
def Replays (compile : String → String → Act Output) : Session → List BlockCall → Session → Prop
  | s, [], t => t = s
  | s, call :: calls, t =>
    call.result = (perform (compile call.extension call.body) s).1 ∧
      Replays compile (perform (compile call.extension call.body) s).2 calls t

namespace Document

variable {source : List String} {options : Options} {compile : String → String → Act Output}
  {order before : List Nat} {made : List BlockCall} {out out' : Nat → String} {i j : Nat}
  {s : Session}

/-- The marker lines in the order in which their blocks end: a block comes before another exactly if it
is nested in it, or ends before it starts. -/
structure PostOrder (source : List String) (order : List Nat) : Prop where
  perm : order.Perm (markerLines source)
  before_iff : ∀ i ∈ markerLines source, ∀ j ∈ markerLines source,
    order.idxOf i < order.idxOf j ↔ Precedes source i j

/-- The call is for the block of the marker line `j`, where `out` gives the texts of the blocks in it. -/
structure CallFor (source : List String) (out : Nat → String) (call : BlockCall) (j : Nat) : Prop where
  extension : (markerAt? source j).map Marker.extension = some call.extension
  body : call.body = bodyAt source out j

/-- How compiling a document ends, where `order` has its marker lines and `calls` are those made. -/
inductive Ending (source : List String) (options : Options) (order : List Nat) (out : Nat → String)
    (calls : List BlockCall) : Except EngineError String → Prop
  /-- All blocks are made, and no line is refused. -/
  | finished (hmade : List.Forall₂ (MadeFor source options out) calls order)
      (htop : ∀ i line, ¬ Stray source i line) :
      Ending source options order out calls
        (.ok (Text.joinLines ((linesOwnedBy source none).map (partAt source out))))
  /-- The blocks up to the marker line `j` are compiled, and the last of them fails. The lines that would
  be refused come later. -/
  | failed {before after : List Nat} {j : Nat} {made : List BlockCall} {call : BlockCall}
      {e : EngineError} (horder : order = before ++ j :: after) (hcalls : calls = made ++ [call])
      (hmade : List.Forall₂ (MadeFor source options out) made before)
      (hcall : CallFor source out call j) (herror : call.forced options = .error e)
      (hlater : ∀ i line, Stray source i line → j < i) :
      Ending source options order out calls (.error e)
  /-- The blocks before the line `i` are made, and this line is the first that is refused. -/
  | refused {before after : List Nat} {i : Nat} {line : String} (horder : order = before ++ after)
      (hmade : List.Forall₂ (MadeFor source options out) calls before)
      (hbefore : ∀ j ∈ before, j < i) (hafter : ∀ j ∈ after, i < j) (hline : Stray source i line)
      (hfirst : ∀ i' line', Stray source i' line' → i ≤ i') :
      Ending source options order out calls (.error (.malformedMarker (i + 1) line))

/-! ### Visits that keep the calls -/

/-- How visiting lines ends: all blocks are made, or the visits end with the line `i`. -/
def VisitEnding (source : List String) (options : Options) (order : List Nat) (out : Nat → String)
    (made : List BlockCall) (result : Except EngineError (Nat → String)) : Prop :=
  (result = .ok out ∧ List.Forall₂ (MadeFor source options out) made order) ∨
    ∃ before i after, order = before ++ i :: after ∧
      ((∃ line, Stray source i line ∧ result = .error (.malformedMarker (i + 1) line) ∧
          List.Forall₂ (MadeFor source options out) made before) ∨
        ∃ made' call e, made = made' ++ [call] ∧
          List.Forall₂ (MadeFor source options out) made' before ∧ CallFor source out call i ∧
          call.forced options = .error e ∧ result = .error e)

lemma VisitEnding.cons {call : BlockCall} {result : Except EngineError (Nat → String)}
    (h : VisitEnding source options order out made result) (hcall : MadeFor source options out call i) :
    VisitEnding source options (i :: order) out (call :: made) result := by
  rcases h with ⟨hresult, hmade⟩ | ⟨before, j, after, rfl, hend⟩
  · exact .inl ⟨hresult, .cons hcall hmade⟩
  refine .inr ⟨i :: before, j, after, rfl, ?_⟩
  rcases hend with ⟨line, hstray, hresult, hmade⟩ | ⟨made', call', e, rfl, hmade, hrest⟩
  · exact .inl ⟨line, hstray, hresult, .cons hcall hmade⟩
  · exact .inr ⟨call :: made', call', e, rfl, .cons hcall hmade, hrest⟩

/-- Visiting lines keeps the calls for their blocks up to the first error. -/
lemma perform_visit (compile : String → String → Act Output) (options : Options)
    (horder : order.Pairwise (Precedes source)) (hvisited : ∀ i ∈ order, Visited source i)
    (out : Nat → String) (s : Session) (calls : List BlockCall) :
    ∃ out' made t result,
      perform (visit (watchBlock compile options)
        (fun number content => throw (.malformedMarker number content)) source order out) (s, calls) =
          (result, (t, calls ++ made)) ∧
      Replays compile s made t ∧ (∀ i ∉ order, out' i = out i) ∧
      VisitEnding source options order out' made result := by
  induction order generalizing out s calls with
  | nil => exact ⟨out, [], s, .ok out, by simp [visit], rfl, fun _ _ => rfl, .inl ⟨rfl, .nil⟩⟩
  | cons i rest ih =>
    obtain ⟨hfirst, hrest⟩ := List.pairwise_cons.1 horder
    rw [visit]
    rcases hvisited i List.mem_cons_self with hmarker | ⟨line, hstray⟩
    · obtain ⟨m, hm⟩ := Option.isSome_iff_exists.1 hmarker
      rw [visitLine_of_markerAt? hm]
      obtain ⟨call, hcall⟩ : ∃ call : BlockCall, call = ⟨m.extension, bodyAt source out i,
        (perform (compile m.extension (bodyAt source out i)) s).1⟩ := ⟨_, rfl⟩
      have hblock : perform (watchBlock compile options m.extension (bodyAt source out i)) (s, calls) =
          (call.forced options,
            ((perform (compile m.extension (bodyAt source out i)) s).2, calls ++ [call])) :=
        hcall ▸ perform_watchBlock _ _ s calls
      have hext : (markerAt? source i).map Marker.extension = some call.extension := by
        rw [hm, hcall]
        rfl
      cases hforced : call.forced options with
      | error e =>
        rw [hforced] at hblock
        refine ⟨out, [call], _, .error e, perform_bind_of_error hblock _, ?_, fun _ _ => rfl, ?_⟩
        · rw [hcall]
          exact ⟨rfl, rfl⟩
        · exact .inr ⟨[], i, rest, rfl,
            .inr ⟨[], call, e, rfl, .nil, ⟨hext, by rw [hcall]⟩, hforced, rfl⟩⟩
      | ok text =>
        rw [hforced] at hblock
        obtain ⟨out', made, t, result, hrun, hreplays, hout', hend⟩ :=
          ih hrest (fun j hj => hvisited j (List.mem_cons_of_mem _ hj)) (Function.update out i text)
            (perform (compile m.extension (bodyAt source out i)) s).2 (calls ++ [call])
        have hkept : ∀ j ∉ i :: rest, out' j = out j := fun j hj => by
          rw [hout' j (List.not_mem_of_not_mem_cons hj),
            Function.update_of_ne (List.ne_of_not_mem_cons hj)]
        refine ⟨out', call :: made, t, result, ?_, ?_, hkept, hend.cons ⟨hext, ?_, ?_⟩⟩
        · rw [perform_bind_of_ok hblock, hrun, List.append_assoc, List.singleton_append]
        · rw [hcall]
          exact ⟨rfl, hreplays⟩
        · -- the blocks in a block are not visited after it
          rw [hcall]
          refine bodyAt_congr fun k hopen => (hkept k fun hk => ?_).symm
          rcases List.mem_cons.1 hk with rfl | hk
          · exact lt_irrefl k hopen.lt
          · exact (hfirst k hk).not_openAt hopen
        · rw [hforced, hout' i fun hi => not_precedes_self source i (hfirst i hi),
            Function.update_self]
    · rw [hstray.visitLine_eq]
      refine ⟨out, [], s, .error (.malformedMarker (i + 1) line), ?_, rfl, fun _ _ => rfl, ?_⟩
      · rw [perform_bind_of_error (perform_throw _ _), List.append_nil]
      · exact .inr ⟨[], i, rest, rfl, .inl ⟨line, hstray, rfl, .nil⟩⟩

/-! ### Marker lines and refused lines -/

lemma Precedes.lt_of_markerAt?_eq_none (h : Precedes source i j) (hj : markerAt? source j = none) :
    i < j := by
  rcases h with hopen | ⟨hlt, -⟩
  · obtain ⟨m, hm⟩ := hopen.exists_marker
    rw [hj] at hm
    cases hm
  · exact hlt

lemma Precedes.lt_of_stray {line : String} (h : Precedes source i j) (hi : Stray source i line) :
    i < j := by
  rcases h with hopen | ⟨hlt, -⟩
  · exact absurd hopen (hi.not_openAt j)
  · exact hlt

lemma isSome_markerAt?_of_made (h : List.Forall₂ (MadeFor source options out) made order) :
    ∀ i ∈ order, (markerAt? source i).isSome := by
  induction h with
  | nil => simp
  | @cons call i calls rest hcall _ ih =>
    refine List.forall_mem_cons.2 ⟨?_, ih⟩
    rw [← Option.isSome_map, hcall.extension]
    rfl

lemma postOrder_spec (source : List String) : PostOrder source (postOrder source) where
  perm := perm_postOrder source
  before_iff i hi j hj := by
    have hbefore : ∀ {i j}, i ∈ markerLines source → j ∈ markerLines source →
        (postOrder source).idxOf i < (postOrder source).idxOf j → Precedes source i j := by
      intro i j hi hj hlt
      have h := List.pairwise_iff_getElem.1 (pairwise_postOrder source) _ _
        (List.idxOf_lt_length_of_mem (mem_postOrder_iff.2 hi))
        (List.idxOf_lt_length_of_mem (mem_postOrder_iff.2 hj)) hlt
      rwa [List.getElem_idxOf, List.getElem_idxOf] at h
    refine ⟨hbefore hi hj, fun h => ?_⟩
    rcases lt_trichotomy ((postOrder source).idxOf i) ((postOrder source).idxOf j) with
      hlt | heq | hgt
    · exact hlt
    · rw [(List.idxOf_inj (mem_postOrder_iff.2 hi)).1 heq] at h
      exact absurd h (not_precedes_self source j)
    · exact absurd (hbefore hj hi hgt) h.asymm

/-! ### The first error -/

/-- Where visiting the lines of a document ends is where compiling it ends. -/
lemma VisitEnding.ending {result : Except EngineError (Nat → String)}
    (h : VisitEnding source options (visitOrder source) out made result) :
    Ending source options (postOrder source) out made
      (result.map fun out => Text.joinLines ((linesOwnedBy source none).map (partAt source out))) := by
  have hpairwise := pairwise_visitOrder source
  rcases h with ⟨rfl, hmade⟩ | ⟨before, i, after, horder, hend⟩
  · have hmarkers := isSome_markerAt?_of_made hmade
    refine .finished ?_ fun i line hstray => ?_
    · rwa [postOrder, List.filter_eq_self.2 hmarkers]
    · have h := hmarkers i (mem_visitOrder_iff.2 (.inr ⟨line, hstray⟩))
      simp [hstray.markerAt?_eq_none] at h
  rw [horder, List.pairwise_append, List.pairwise_cons] at hpairwise
  obtain ⟨-, ⟨hafter, -⟩, hbefore⟩ := hpairwise
  -- of the lines that are refused none comes before the line at which the visits end
  have hstrays : (∀ j ∈ before, (markerAt? source j).isSome) → ∀ j line, Stray source j line →
      j = i ∨ Precedes source i j := by
    intro hmarkers j line hstray
    have hmem : j ∈ visitOrder source := mem_visitOrder_iff.2 (.inr ⟨line, hstray⟩)
    rw [horder, List.mem_append, List.mem_cons] at hmem
    rcases hmem with hmem | rfl | hmem
    · have h := hmarkers j hmem
      simp [hstray.markerAt?_eq_none] at h
    · exact .inl rfl
    · exact .inr (hafter j hmem)
  rcases hend with ⟨line, hstray, rfl, hmade⟩ | ⟨made', call, e, rfl, hmade, hcall, herror, rfl⟩
  · have hmarkers := isSome_markerAt?_of_made hmade
    have hpost : postOrder source =
        before ++ after.filter fun i => (markerAt? source i).isSome := by
      rw [postOrder, horder, List.filter_append, List.filter_eq_self.2 hmarkers,
        List.filter_cons_of_neg (by simp [hstray.markerAt?_eq_none])]
    refine .refused hpost hmade ?_ ?_ hstray ?_
    · exact fun j hj => (hbefore j hj i List.mem_cons_self).lt_of_markerAt?_eq_none
        hstray.markerAt?_eq_none
    · exact fun j hj => (hafter j (List.mem_of_mem_filter hj)).lt_of_stray hstray
    · intro j line' hstray'
      rcases hstrays hmarkers j line' hstray' with rfl | h
      · exact le_rfl
      · exact (h.lt_of_stray hstray).le
  · have hmarkers := isSome_markerAt?_of_made hmade
    have hmarker : (markerAt? source i).isSome := by
      rw [← Option.isSome_map, hcall.extension]
      rfl
    have hpost : postOrder source =
        before ++ i :: after.filter fun i => (markerAt? source i).isSome := by
      rw [postOrder, horder, List.filter_append, List.filter_eq_self.2 hmarkers,
        List.filter_cons_of_pos (by simpa using hmarker)]
    refine .failed hpost rfl hmade hcall herror ?_
    intro j line hstray
    rcases hstrays hmarkers j line hstray with rfl | h
    · simp [hstray.markerAt?_eq_none] at hmarker
    · exact h.lt_of_markerAt?_eq_none hstray.markerAt?_eq_none

lemma ending_compileDocument (compile : String → String → Act Output) (options : Options)
    (text : String) (s : Session) :
    ∃ out, Replays compile s (blockCalls compile options text s)
        (perform (compileDocument compile options text) s).2 ∧
      Ending (Text.splitLines text) options (postOrder (Text.splitLines text)) out
        (blockCalls compile options text s) (perform (compileDocument compile options text) s).1 := by
  obtain ⟨out, made, t, result, hvisit, hreplays, -, hend⟩ :=
    perform_visit compile options (pairwise_visitOrder (Text.splitLines text))
      (fun i hi => mem_visitOrder_iff.1 hi) (fun _ => "") s []
  have hwatch : perform (watchDocument compile options text) (s, []) =
      (result.map fun out => Text.joinLines
        ((linesOwnedBy (Text.splitLines text) none).map (partAt (Text.splitLines text) out)),
        (t, made)) := by
    rw [watchDocument, ofText, compile_eq_visit (aborts_throw _) _ fun _ => "", perform_bind_pure, hvisit]
    rfl
  rw [perform_compileDocument_eq_watch, blockCalls, hwatch]
  exact ⟨out, hreplays, hend.ending⟩

/-- The blocks of a document are compiled in the order in which they end, inner blocks first, and the
first error ends everything. All that happens to the session are the calls for these blocks: each is
for the next marker line in the order, with the body that its lines and the blocks in it give. The
document fails exactly with the error of the last call, or with the first line that is refused, and in
either case no later block was compiled. If no block is a document itself, these are all calls, however
deep documents may be nested. -/
theorem compileDocument_in_postOrder (setup : Setup) (options : Options) (depth : Nat) (text : String)
    (s : Session)
    (hplain : ∀ i ∈ markerLines (Text.splitLines text),
      ∀ m ∈ markerAt? (Text.splitLines text) i,
        eventualTarget? setup s.registry m.extension ≠ some .wildcard) :
    (∃ order out, PostOrder (Text.splitLines text) order ∧
      Replays (compileWithin setup options depth) s
        (blockCalls (compileWithin setup options depth) options text s)
        (perform (compileDocument (compileWithin setup options depth) options text) s).2 ∧
      Ending (Text.splitLines text) options order out
        (blockCalls (compileWithin setup options depth) options text s)
        (perform (compileDocument (compileWithin setup options depth) options text) s).1) ∧
    ∀ depth', perform (watchDocument (compileWithin setup options depth') options text) (s, []) =
      perform (watchDocument (compileWithin setup options depth) options text) (s, []) := by
  obtain ⟨out, hreplays, hend⟩ :=
    ending_compileDocument (compileWithin setup options depth) options text s
  exact ⟨⟨_, out, postOrder_spec _, hreplays, hend⟩,
    fun depth' => perform_watchDocument_eq depth' depth hplain⟩

/-- A page with a block of an unknown extension after the first block in another one. -/
def failingPage : String := ">> html\n  >> css\n  a\n  >> nope\n  b\n>> js\nx"

/-- Of the four blocks of the page, the two inner ones are compiled, and the second of them fails. -/
theorem compileDocument_in_postOrder_failingPage :
    postOrder (Text.splitLines failingPage) = [1, 3, 0, 5] ∧
      (blockCalls (compileWithin .standard .empty 1) .empty failingPage .initial).length = 2 ∧
      (perform (compileDocument (compileWithin .standard .empty 1) .empty failingPage) .initial).1 =
        .error (.unknownExtension "nope") ∧
      ∃ order out, PostOrder (Text.splitLines failingPage) order ∧
        Replays (compileWithin .standard .empty 1) .initial
          (blockCalls (compileWithin .standard .empty 1) .empty failingPage .initial)
          (perform (compileDocument (compileWithin .standard .empty 1) .empty failingPage) .initial).2 ∧
        Ending (Text.splitLines failingPage) .empty order out
          (blockCalls (compileWithin .standard .empty 1) .empty failingPage .initial)
          (perform (compileDocument (compileWithin .standard .empty 1) .empty failingPage) .initial).1 :=
  ⟨by decide +kernel, by decide +kernel, by decide +kernel,
    (compileDocument_in_postOrder .standard .empty 1 failingPage .initial (by decide +kernel)).1⟩

end Document

end TextChain
