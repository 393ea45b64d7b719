import TextChain.Proofs.Document.Coverage
import TextChain.Proofs.Registry.Refusal

/-!
# Documents one after the other

A marker line without an indent ends every block before it, just as the end of a document does. So when
such a line starts the second of two texts, the document that they make together is compiled by compiling
the first and then the second (`compileDocument_append`).
-/

namespace TextChain

open Registry

namespace Text

lemma splitLines_append (a b : String) :
    splitLines (a ++ "\n" ++ b) = splitLines a ++ splitLines b := by
  have hchars : (a ++ "\n" ++ b).toList = a.toList ++ '\n' :: b.toList := by simp
  rw [splitLines, hchars, List.splitOn_append_cons_self, List.map_append]
  rfl

lemma splitLines_ne_nil (text : String) : splitLines text ≠ [] := by
  simp [splitLines]

end Text

/-- The first line is a marker without an indent. -/
def Document.StartsBlock (source : List String) : Prop :=
  ∃ m ∈ markerAt? source 0, m.indent = 0

instance (source : List String) : Decidable (Document.StartsBlock source) :=
  inferInstanceAs (Decidable (∃ m ∈ Document.markerAt? source 0, m.indent = 0))

/-! ### Reading the lines of both -/

variable {xs ys : List String}

namespace Node

/-- No body goes on past a marker without an indent. -/
lemma scan_of_startsBlock (h : Document.StartsBlock ys) (base : Nat) :
    (scan base ys).1 = ([], ys) := by
  obtain ⟨m, hm, hindent⟩ := h
  cases ys with
  | nil => cases hm
  | cons first rest =>
    have hfirst : Marker.parse? first = some m := by simpa [Document.markerAt?] using hm
    have hwidth : Text.indentWidth first = 0 := by
      rw [← Marker.indent_eq_of_parse? hfirst, hindent]
    rw [scan]
    by_cases hbase : 0 < base
    · simp [hwidth, hbase]
    · simp [hwidth, hbase, hfirst, hindent]

/-- The body of a block that is open at the end of the first lines ends there. -/
lemma scan_append (h : Document.StartsBlock ys) (base : Nat) (xs : List String) :
    (scan base (xs ++ ys)).1 = ((scan base xs).1.1, (scan base xs).1.2 ++ ys) := by
  fun_induction scan base xs with
  | case1 base => exact scan_of_startsBlock h base
  | case2 base first rest hlt =>
    rw [List.cons_append, scan]
    simp [hlt]
  | case3 base first rest hle hm body after hlen heq ih =>
    rw [heq] at ih
    rw [List.cons_append, scan]
    simp [hle, hm, ih]
  | case4 base first rest hle marker hm hlt inner rest' hlen heq hlt' body after hlen' heq' ih₁ ih₂ =>
    rw [heq] at ih₁
    rw [heq'] at ih₂
    rcases hinner : scan marker.indent (rest ++ ys) with ⟨⟨inner', between⟩, hlen₁⟩
    rw [hinner] at ih₁
    cases ih₁
    rcases hrest : scan base (rest' ++ ys) with ⟨⟨body', after'⟩, hlen₂⟩
    rw [hrest] at ih₂
    cases ih₂
    rw [List.cons_append, scan]
    simp only [hle, hm, hlt, if_true, if_false]
    -- What is scanned second stands behind the first scan, so `simp` cannot rewrite the first one.
    rw [hinner]
    dsimp only
    rw [hrest]
  | case5 base first rest hle marker hm hlt =>
    rw [List.cons_append, scan]
    simp [hle, hm, hlt]

lemma body_append (h : Document.StartsBlock ys) (base : Nat) (xs : List String) :
    body base (xs ++ ys) = body base xs := by
  rw [body, scan_append h]
  rfl

lemma afterBody_append (h : Document.StartsBlock ys) (base : Nat) (xs : List String) :
    afterBody base (xs ++ ys) = afterBody base xs ++ ys := by
  rw [afterBody, scan_append h]
  rfl

end Node

namespace Document

/-- The lines that are refused keep their numbers when lines are added at the end. -/
lemma readPieces_append (h : StartsBlock ys) (total : Nat) (xs : List String) :
    readPieces (total + ys.length) (xs ++ ys) =
      readPieces total xs ++ readPieces (total + ys.length) ys := by
  fun_induction readPieces total xs with
  | case1 => rfl
  | case2 first rest marker hm hlt ih =>
    rw [List.cons_append, readPieces, hm]
    simp only [Node.body_append h, Node.afterBody_append h, ih, List.cons_append]
  | case3 first rest hm hblank ih =>
    rw [List.cons_append, readPieces, hm]
    simp only [hblank, if_true, ih, List.cons_append]
  | case4 first rest hm hblank ih =>
    have hnumber : total + ys.length - (rest ++ ys).length = total - rest.length := by
      rw [List.length_append, Nat.add_sub_add_right]
    rw [List.cons_append, readPieces, hm]
    simp only [hblank, ih, hnumber, List.cons_append]
    rfl

/-- A document that starts with a marker without an indent refuses no line: this marker covers all. -/
lemma not_stray_of_startsBlock (h : StartsBlock ys) (i : Nat) (line : String) : ¬ Stray ys i line := by
  rw [stray_iff_uncovered]
  intro huncovered
  obtain ⟨m, hm, hindent⟩ := h
  have hlt := (List.getElem?_eq_some_iff.1 huncovered.getElem?_eq).1
  rcases Nat.eq_zero_or_pos i with rfl | hpos
  · rw [markerAt?_of_getElem? huncovered.getElem?_eq, huncovered.no_marker] at hm
    cases hm
  · refine huncovered.not_covered 0 ⟨m, hm, hpos, ?_⟩
    intro k hki _
    exact ⟨_, List.getElem?_eq_getElem (hki.trans_lt hlt), by omega⟩

/-- The number of lines matters for the numbers of refused lines only. -/
lemma readPieces_eq_of_not_stray {total : Nat}
    (h : ∀ number text, .stray number text ∉ readPieces total ys) (total' : Nat) :
    readPieces total' ys = readPieces total ys := by
  fun_induction readPieces total ys with
  | case1 => rw [readPieces]
  | case2 first rest marker hm hlt ih =>
    rw [readPieces, hm]
    simp only [ih fun number text hmem => h number text (List.mem_cons_of_mem _ hmem)]
  | case3 first rest hm hblank ih =>
    rw [readPieces, hm]
    simp only [hblank, if_true, ih fun number text hmem => h number text (List.mem_cons_of_mem _ hmem)]
  | case4 first rest hm hblank ih => exact absurd List.mem_cons_self (h _ _)

lemma pieces_append (h : StartsBlock ys) (xs : List String) :
    (ofLines (xs ++ ys)).pieces = (ofLines xs).pieces ++ (ofLines ys).pieces := by
  have hstray : ∀ number text, .stray number text ∉ readPieces ys.length ys :=
    fun number text hmem => not_stray_of_startsBlock h _ _ (stray_of_mem_pieces hmem)
  rw [ofLines, List.length_append, readPieces_append h, readPieces_eq_of_not_stray hstray]
  rfl

lemma pieces_ne_nil {source : List String} (h : source ≠ []) : (ofLines source).pieces ≠ [] := by
  intro hnil
  have hlines := lines_ofLines source
  rw [lines, hnil] at hlines
  exact h hlines.symm

/-! ### Compiling both -/

section Compiling

variable {μ : Type → Type} [Monad μ] [LawfulMonad μ] {run : String → String → μ String}
  {reject : Nat → String → μ String}

lemma compilePieces_append (ps qs : List Piece) :
    compilePieces run reject (ps ++ qs) = (do
      let texts ← compilePieces run reject ps
      let texts' ← compilePieces run reject qs
      pure (texts ++ texts')) := by
  induction ps with
  | nil => simp [compilePieces]
  | cons piece rest ih => simp [compilePieces, ih]

/-- Two documents, one after the other, are compiled one after the other, whatever compiles a block. -/
theorem compile_append (hxs : xs ≠ []) (hys : StartsBlock ys) :
    (ofLines (xs ++ ys)).compile run reject = (do
      let text ← (ofLines xs).compile run reject
      let text' ← (ofLines ys).compile run reject
      pure (text ++ "\n" ++ text')) := by
  have hne : ys ≠ [] := by
    rintro rfl
    obtain ⟨m, hm, -⟩ := hys
    cases hm
  obtain ⟨p, ps, hp⟩ := List.exists_cons_of_ne_nil (pieces_ne_nil hxs)
  obtain ⟨q, qs, hq⟩ := List.exists_cons_of_ne_nil (pieces_ne_nil hne)
  simp only [Document.compile, pieces_append hys, compilePieces_append, hp, hq, compilePieces,
    bind_assoc, pure_bind, Text.joinLines_append (List.cons_ne_nil _ _) (List.cons_ne_nil _ _)]

end Compiling

variable {compile : String → String → Act Output} {options : Options} {a b : String}

lemma watchDocument_append (hb : StartsBlock (Text.splitLines b)) :
    watchDocument compile options (a ++ "\n" ++ b) = (do
      let text ← watchDocument compile options a
      let text' ← watchDocument compile options b
      pure (text ++ "\n" ++ text')) := by
  rw [watchDocument, ofText, Text.splitLines_append, compile_append (Text.splitLines_ne_nil a) hb]
  rfl

/-- Watched actions that do not depend on the calls that were kept before. -/
def appending : Correspondence Watched Watched where
  rel watched _ := ∀ s calls, perform watched (s, calls) =
    ((perform watched (s, [])).1, (perform watched (s, [])).2.1,
      calls ++ (perform watched (s, [])).2.2)
  rel_pure _ s calls := by simp
  rel_bind {_ _ watched _ next _} hwatched hnext s calls := by
    have h := hwatched s calls
    rcases hperform : perform watched (s, []) with ⟨e | x, t, made⟩ <;> rw [hperform] at h
    · rw [perform_bind_of_error h, perform_bind_of_error hperform]
    · rw [perform_bind_of_ok h, perform_bind_of_ok hperform, hnext x t (calls ++ made),
        hnext x t made, List.append_assoc]

lemma perform_watchDocument_from (text : String) (s : Session) (calls : List BlockCall) :
    perform (watchDocument compile options text) (s, calls) =
      ((perform (watchDocument compile options text) (s, [])).1,
        (perform (watchDocument compile options text) (s, [])).2.1,
        calls ++ blockCalls compile options text s) := by
  have h : appending.rel (watchDocument compile options text)
      (watchDocument compile options text) := by
    apply compile_related appending
    · intro marker _ body s calls
      rw [perform_watchBlock, perform_watchBlock]
      rfl
    · intro number content _ s calls
      simp
  exact h s calls

/-- Compiling two texts as one document compiles the second text from where the first one ends, whatever
compiles a block; if the first text fails, nothing of the second one is compiled. -/
lemma perform_compileDocument_append (compile : String → String → Act Output) (options : Options)
    (a : String) (hb : StartsBlock (Text.splitLines b)) (s : Session) :
    (∀ e t, perform (compileDocument compile options a) s = (.error e, t) →
      perform (compileDocument compile options (a ++ "\n" ++ b)) s = (.error e, t) ∧
      blockCalls compile options (a ++ "\n" ++ b) s = blockCalls compile options a s) ∧
    ∀ text t, perform (compileDocument compile options a) s = (.ok text, t) →
      perform (compileDocument compile options (a ++ "\n" ++ b)) s =
        ((perform (compileDocument compile options b) t).1.map fun text' => text ++ "\n" ++ text',
          (perform (compileDocument compile options b) t).2) ∧
      blockCalls compile options (a ++ "\n" ++ b) s =
        blockCalls compile options a s ++ blockCalls compile options b t := by
  simp only [perform_compileDocument_eq_watch, blockCalls, watchDocument_append hb]
  rcases hwatch : perform (watchDocument compile options a) (s, []) with ⟨e | text, t, calls⟩
  · rw [perform_bind_of_error hwatch]
    constructor
    · intro e' t' h
      cases h
      exact ⟨rfl, rfl⟩
    · intro text t' h
      cases h
  · rw [perform_bind_of_ok hwatch, perform_bind_pure, perform_watchDocument_from]
    constructor
    · intro e t' h
      cases h
    · intro text' t' h
      cases h
      exact ⟨rfl, rfl⟩

/-- A document that starts with a marker without an indent, and none of whose blocks is a document itself,
reports no refused line. -/
lemma ne_malformedMarker_of_startsBlock {setup : Setup} {depth : Nat} {s : Session}
    (hb : StartsBlock (Text.splitLines b))
    (hplain : ∀ i ∈ markerLines (Text.splitLines b), ∀ m ∈ markerAt? (Text.splitLines b) i,
      eventualTarget? setup s.registry m.extension ≠ some .wildcard)
    (number : Nat) (content : String) :
    (perform (compileDocument (compileWithin setup options depth) options b) s).1 ≠
      .error (.malformedMarker number content) := by
  intro h
  obtain ⟨out, hreplays, hend⟩ :=
    ending_compileDocument (compileWithin setup options depth) options b s
  rw [h] at hend
  rcases hend.malformedMarker with hrefused | ⟨made, call, hcalls, hcall⟩
  · exact not_stray_of_startsBlock hb (number - 1) content
      ⟨hrefused.getElem?_eq, hrefused.top, hrefused.no_marker, by simp [hrefused.not_blank]⟩
  -- Otherwise the last call reports the line, so its block is a document.
  · obtain ⟨i, m, hm, hext⟩ := hend.exists_markerAt? call (by rw [hcalls]; simp)
    rw [hcalls] at hreplays
    obtain ⟨u, hbefore, hsame, -⟩ := hreplays.exists_session
    have hrun : ((Task.mk depth call.extension call.body u).run setup options).1 =
        .error (.malformedMarker number content) :=
      hsame.symm.trans hcall
    obtain ⟨hwildcard, -⟩ := Task.refusedIn_or_opens hrun
    have hgrows : Grows setup s u := hbefore.grows (grows_compileWithin options depth)
    rw [hgrows.eventualTarget?_eq, ← hext] at hwildcard
    exact hplain i (mem_markerLines_of_markerAt? hm) m hm hwildcard

end Document

/-- The error in a text that starts after the line `n` of another one. -/
def EngineError.after (n : Nat) : EngineError → EngineError
  | .malformedMarker line content => .malformedMarker (n + line) content
  | e => e

lemma EngineError.mapError_after {α : Type} {result : Except EngineError α}
    (h : ∀ number content, result ≠ .error (.malformedMarker number content)) (n : Nat) :
    result.mapError (.after n) = result := by
  rcases result with e | a
  · cases e with
    | malformedMarker number content => exact absurd rfl (h number content)
    | _ => rfl
  · rfl

namespace Document

/-- If the second of two texts starts with a marker without an indent, and none of its blocks is a document
itself, then the document that the two texts make together is compiled by compiling the first text and
then, unless that fails, the second one from the session that the first one left. The calls for blocks, the
session, the text and the error are those of the two compilations; the lines of the second text count on
from those of the first one, although no line of it can be refused. -/
theorem compileDocument_append (setup : Setup) (options : Options) (depth : Nat) (a b : String)
    (s : Session) (hstart : StartsBlock (Text.splitLines b))
    (hplain : ∀ i ∈ markerLines (Text.splitLines b), ∀ m ∈ markerAt? (Text.splitLines b) i,
      eventualTarget? setup s.registry m.extension ≠ some .wildcard) :
    (∀ e t, perform (compileDocument (compileWithin setup options depth) options a) s = (.error e, t) →
      perform (compileDocument (compileWithin setup options depth) options (a ++ "\n" ++ b)) s =
        (.error e, t) ∧
      blockCalls (compileWithin setup options depth) options (a ++ "\n" ++ b) s =
        blockCalls (compileWithin setup options depth) options a s) ∧
    ∀ text t, perform (compileDocument (compileWithin setup options depth) options a) s = (.ok text, t) →
      perform (compileDocument (compileWithin setup options depth) options (a ++ "\n" ++ b)) s =
        (((perform (compileDocument (compileWithin setup options depth) options b) t).1.map fun text' =>
            text ++ "\n" ++ text').mapError (.after (Text.splitLines a).length),
          (perform (compileDocument (compileWithin setup options depth) options b) t).2) ∧
      blockCalls (compileWithin setup options depth) options (a ++ "\n" ++ b) s =
        blockCalls (compileWithin setup options depth) options a s ++
          blockCalls (compileWithin setup options depth) options b t ∧
      ∀ number content,
        (perform (compileDocument (compileWithin setup options depth) options b) t).1 ≠
          .error (.malformedMarker number content) := by
  obtain ⟨hfails, hcontinues⟩ :=
    perform_compileDocument_append (compileWithin setup options depth) options a hstart s
  refine ⟨hfails, ?_⟩
  intro text t ha
  obtain ⟨hboth, hcalls⟩ := hcontinues text t ha
  have hgrows : Grows setup s
      (perform (compileDocument (compileWithin setup options depth) options a) s).2 :=
    grows_compileDocument options (grows_compileWithin options depth) a s
  rw [ha] at hgrows
  have hnever : ∀ number content,
      (perform (compileDocument (compileWithin setup options depth) options b) t).1 ≠
        .error (.malformedMarker number content) := by
    refine ne_malformedMarker_of_startsBlock hstart ?_
    intro i hi m hm
    rw [hgrows.eventualTarget?_eq]
    exact hplain i hi m hm
  refine ⟨?_, hcalls, hnever⟩
  rw [hboth, EngineError.mapError_after]
  intro number content h
  exact hnever number content (except_map_eq_error_iff.1 h)

/-- A page that ends in a block inside a block. -/
def openPage : String := ">> html\n<p>\n  >> css\n  b"

/-- A page that starts with a marker without an indent. -/
def nextPage : String := ">> js\ny"

/-- The two blocks of the first page are compiled, and then that of the second page. -/
theorem compileDocument_append_pages :
    (blockCalls (compileWithin .standard .empty 1) .empty (openPage ++ "\n" ++ nextPage)
      .initial).map BlockCall.extension = ["css", "html", "js"] ∧
    ∃ text t, perform (compileDocument (compileWithin .standard .empty 1) .empty openPage) .initial =
        (.ok text, t) ∧
      perform (compileDocument (compileWithin .standard .empty 1) .empty (openPage ++ "\n" ++ nextPage))
          .initial =
        (((perform (compileDocument (compileWithin .standard .empty 1) .empty nextPage) t).1.map
            fun text' => text ++ "\n" ++ text').mapError (.after 4),
          (perform (compileDocument (compileWithin .standard .empty 1) .empty nextPage) t).2) := by
  have hok : (perform (compileDocument (compileWithin .standard .empty 1) .empty openPage)
      .initial).1.toOption.isSome = true := by
    decide +kernel
  obtain ⟨text, hopen⟩ := exists_perform_eq_ok hok
  have hlines : (Text.splitLines openPage).length = 4 := by decide +kernel
  obtain ⟨hboth, -⟩ := (compileDocument_append .standard .empty 1 openPage nextPage .initial
    (by decide +kernel) (by decide +kernel)).2 text _ hopen
  rw [hlines] at hboth
  exact ⟨by decide +kernel, text, _, hopen, hboth⟩

end Document

end TextChain
