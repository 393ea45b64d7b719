import TextChain.Proofs.Registry.Nesting
import TextChain.Proofs.Registry.Operations
import TextChain.Proofs.Registry.Within

/-!
# Where refused lines stand

A line that is refused is reported with its number in the document that refuses it. This is the text
that is compiled or, if blocks are documents again, the body of such a block, whose lines are counted
from its own beginning (`malformedMarker_within`).
-/

namespace TextChain

open Registry Document

variable {setup : Setup} {options : Options} {s t : Session} {spec ext text content : String}
  {target : Target} {task inner : Task} {error : EngineError} {number : Nat}

namespace Registry

/-! ### Errors of other kinds -/

lemma ofLink_ne_malformedMarker (reason : LinkError) :
    EngineError.ofLink reason ≠ .malformedMarker number content := by
  cases reason <;> simp [EngineError.ofLink]

lemma error_of_pipelineFor (h : (perform (pipelineFor setup spec) s).1 = .error error) :
    ∃ reason, error = .ofLink reason := by
  rcases hpipeline : perform (pipelineFor setup spec) s with ⟨result, t⟩
  rw [hpipeline] at h
  cases h
  cases asking_of_pipelineFor hpipeline with
  | refused _ _ => exact ⟨_, rfl⟩

lemma error_of_establish (h : (perform (establish setup ext target) s).1 = .error error) :
    ∃ reason, error = .ofLink reason := by
  cases target with
  | wildcard => cases h
  | chain spec =>
    rw [perform_establish_chain] at h
    rcases hpipeline : perform (pipelineFor setup spec) s with ⟨reason | cached, t⟩ <;>
      rw [hpipeline] at h <;> cases h
    exact error_of_pipelineFor (congrArg Prod.fst hpipeline)

/-- Settling the target of an extension fails if it has none, or if its chain cannot be linked. -/
lemma error_of_ensure (h : (perform (ensure setup ext) s).1 = .error error) :
    error = .unknownExtension ext ∨ ∃ reason, error = .ofLink reason := by
  rcases hensure : perform (ensure setup ext) s with ⟨result, t⟩
  rw [hensure] at h
  cases h
  cases settling_of_ensure hensure with
  | unknown _ htarget =>
    unfold conventionalTarget at htarget
    split at htarget <;> cases htarget
    exact .inl rfl
  | refused _ _ _ _ hmade => exact .inr (error_of_establish (congrArg Prod.fst hmade))

/-- Executing a chain fails if it cannot be linked, or if its pipeline fails. -/
lemma error_of_execute (h : (perform (execute setup spec text options) s).1 = .error error) :
    (∃ reason, error = .ofLink reason) ∨ ∃ reason, error = .run reason := by
  rcases error_of_perform_bind h with hget | ⟨cached, t, -, hrun⟩
  · exact .inl (error_of_pipelineFor hget)
  · rw [Act.perform_running] at hrun
    cases hresult : (cached.pipeline.execute text options).result with
    | ok output =>
      rw [hresult] at hrun
      cases hrun
    | error reason =>
      rw [hresult] at hrun
      cases hrun
      exact .inr ⟨reason, rfl⟩

end Registry

/-! ### Refused lines -/

/-- The line with this number, counted from one, is refused in a text with these lines: it belongs to no
block, and is neither blank nor a marker. -/
structure RefusedIn (source : List String) (number : Nat) (content : String) : Prop where
  pos : 1 ≤ number
  le_length : number ≤ source.length
  getElem?_eq : source[number - 1]? = some content
  top : owner? source (number - 1) = none
  no_marker : Marker.parse? content = none
  not_blank : Text.isBlankText content = false

namespace Document

lemma Stray.refusedIn {source : List String} {i : Nat} (h : Stray source i content) :
    RefusedIn source (i + 1) content where
  pos := Nat.succ_pos i
  le_length := (List.getElem?_eq_some_iff.1 h.getElem?_eq).1
  getElem?_eq := h.getElem?_eq
  top := h.top
  no_marker := h.no_marker
  not_blank := by simpa using h.not_blank

/-- A document that reports a refused line refuses this line itself, or its last call reports it. -/
lemma Ending.malformedMarker {source : List String} {order : List Nat} {out : Nat → String}
    {calls : List BlockCall}
    (h : Ending source options order out calls (.error (.malformedMarker number content))) :
    RefusedIn source number content ∨ ∃ made call, calls = made ++ [call] ∧
      call.result = .error (.malformedMarker number content) := by
  cases h with
  | @failed before after j made call _ _ hcalls _ _ herror _ =>
    refine .inr ⟨made, call, hcalls, ?_⟩
    cases hresult : call.result with
    | error reason =>
      rw [BlockCall.forced, hresult] at herror
      exact congrArg _ (Except.error.inj herror)
    | ok output =>
      rw [BlockCall.forced, hresult] at herror
      cases hforced : output.force options <;> simp [Except.bind, Except.mapError, hforced] at herror
  | refused _ _ _ _ hline _ => exact .inl hline.refusedIn

end Document

namespace Task

/-- Only documents report refused lines: their own, and those that their blocks report. -/
lemma refusedIn_or_opens
    (h : (task.run setup options).1 = .error (.malformedMarker number content)) :
    eventualTarget? setup task.session.registry task.extension = some .wildcard ∧
      (RefusedIn (Text.splitLines task.text) number content ∨
        ∃ inner, Opens setup options task inner ∧
          (inner.run setup options).1 = .error (.malformedMarker number content)) := by
  obtain ⟨depth, ext, text, s⟩ := task
  rcases hensure : perform (ensure setup (Text.trim ext)) s with ⟨reason | target, t⟩
  · rw [run, compileWithin.eq_def, perform_bind_of_error hensure] at h
    cases h
    rcases error_of_ensure (congrArg Prod.fst hensure) with herror | ⟨reason, herror⟩
    · cases herror
    · exact absurd herror.symm (ofLink_ne_malformedMarker reason)
  cases target with
  | chain spec =>
    rw [run, compileWithin.eq_def, perform_bind_of_ok hensure] at h
    rcases error_of_execute h with ⟨reason, herror⟩ | ⟨reason, herror⟩
    · exact absurd herror.symm (ofLink_ne_malformedMarker reason)
    · cases herror
  | wildcard =>
    refine ⟨eventualTarget?_of_ensure hensure, ?_⟩
    cases depth with
    | zero =>
      rw [run, compileWithin, perform_bind_of_ok hensure] at h
      cases h
    | succ depth =>
      rw [run_of_document hensure] at h
      obtain ⟨out, hreplays, hend⟩ :=
        ending_compileDocument (compileWithin setup options depth) options text t
      cases hresult : (perform (compileDocument (compileWithin setup options depth) options text) t).1 with
      | ok output =>
        rw [hresult] at h
        cases h
      | error reason =>
        rw [hresult] at h hend
        cases h
        -- The document is aborted by its last call, so this call reports what the document reports.
        refine hend.malformedMarker.imp_right ?_
        rintro ⟨made, call, hcalls, hcall⟩
        rw [hcalls] at hreplays
        obtain ⟨u, hbefore, hsame, -⟩ := hreplays.exists_session
        exact ⟨_, .block hensure hcalls hbefore, hsame.symm.trans hcall⟩

/-- A refused line stands in a document that is compiled in the course of the task. -/
lemma exists_within_of_malformedMarker
    (h : (task.run setup options).1 = .error (.malformedMarker number content)) :
    ∃ document, Within setup options task document ∧
      eventualTarget? setup document.session.registry document.extension = some .wildcard ∧
      RefusedIn (Text.splitLines document.text) number content := by
  induction hdepth : task.depth using Nat.strong_induction_on generalizing task with
  | _ depth ih =>
    obtain ⟨hwildcard, hrefused | ⟨inner, hopens, hinner⟩⟩ := refusedIn_or_opens h
    · exact ⟨task, .refl, hwildcard, hrefused⟩
    · have hlt : inner.depth < depth := by
        rw [← hdepth, hopens.depth_eq]
        exact Nat.lt_succ_self _
      obtain ⟨document, hwithin, hdocument⟩ := ih inner.depth hlt hinner rfl
      exact ⟨document, .head hopens hwithin, hdocument⟩

end Task

namespace Registry

/-- If compiling a text reports a refused line, then this line stands, with its number, in the text or in
the body of a block that is a document itself and is compiled in its course: it belongs to no block there,
and is neither blank nor a marker. The line stands in the text if none of its blocks is a document. -/
theorem malformedMarker_within (setup : Setup) (options : Options) (ext text : String) (s : Session)
    (number : Nat) (content : String)
    (h : (perform (compile setup ext text options) s).1 =
      .error (.malformedMarker number content)) :
    (∃ document, Task.Within setup options ⟨setup.nesting, ext, text, s⟩ document ∧
      eventualTarget? setup document.session.registry document.extension = some .wildcard ∧
      RefusedIn (Text.splitLines document.text) number content) ∧
    ((∀ i m, markerAt? (Text.splitLines text) i = some m →
        eventualTarget? setup s.registry m.extension ≠ some .wildcard) →
      RefusedIn (Text.splitLines text) number content) := by
  have hrun : ((Task.mk setup.nesting ext text s).run setup options).1 =
      .error (.malformedMarker number content) := h
  refine ⟨Task.exists_within_of_malformedMarker hrun, ?_⟩
  intro hplain
  obtain ⟨-, hrefused | ⟨inner, hopens, hinner⟩⟩ := Task.refusedIn_or_opens hrun
  · exact hrefused
  -- A block that reports a refused line is a document, also seen from the session before the compilation.
  · obtain ⟨i, m, hm, hext⟩ := hopens.exists_markerAt?
    obtain ⟨hwildcard, -⟩ := Task.refusedIn_or_opens hinner
    rw [hopens.grows.eventualTarget?_eq, ← hext] at hwildcard
    exact absurd hwildcard (hplain i m hm)

/-- The standard setup, where documents may be nested once in blocks of documents. -/
def nestedSetup : Setup :=
  { Setup.standard with nesting := 2 }

/-- The session in which the extension `page` is mapped to the wildcard. -/
def pageSession : Session :=
  Session.initial.after nestedSetup [.add "page" (some "*")]

/-- A page with a block that is a page; the only line of this block is refused. -/
def strayInside : String := ">> page\nstray"

/-- A page with a line after its block that is refused. -/
def strayAfter : String := "  >> css\n  a\nb"

lemma error_strayInside : (perform (compile nestedSetup "page" strayInside .empty) pageSession).1 =
    .error (.malformedMarker 1 "stray") :=
  (except_map_eq_error_iff (f := fun _ => ())).1 (by decide +kernel)

/-- The line that is refused is the second line of the text, but the first one of the inner page. -/
theorem malformedMarker_not_in_text :
    ¬ ∀ (setup : Setup) (ops : List Operation) (ext text : String) (options : Options) (number : Nat)
        (content : String),
      (Session.initial.after setup ops).registry.target? ext = some .wildcard →
      (perform (compile setup ext text options) (Session.initial.after setup ops)).1 =
        .error (.malformedMarker number content) →
      1 ≤ number ∧ number ≤ (Text.splitLines text).length ∧
        (Text.splitLines text)[number - 1]? = some content ∧
        Text.isBlankText content = false ∧ Marker.parse? content = none := by
  intro h
  obtain ⟨-, -, hline, -⟩ := h nestedSetup [.add "page" (some "*")] "page" strayInside .empty 1 "stray"
    (by decide +kernel) error_strayInside
  exact absurd hline (by decide +kernel)

/-- In one page the refused line is in a block that is a page, in the other it is in the text. -/
theorem malformedMarker_within_strays :
    (∃ document, Task.Within nestedSetup .empty ⟨2, "page", strayInside, pageSession⟩ document ∧
        eventualTarget? nestedSetup document.session.registry document.extension = some .wildcard ∧
        RefusedIn (Text.splitLines document.text) 1 "stray") ∧
      RefusedIn (Text.splitLines strayAfter) 3 "b" := by
  have hafter : (perform (compile nestedSetup "page" strayAfter .empty) pageSession).1 =
      .error (.malformedMarker 3 "b") :=
    (except_map_eq_error_iff (f := fun _ => ())).1 (by decide +kernel)
  refine ⟨(malformedMarker_within nestedSetup .empty "page" strayInside pageSession 1 "stray"
    error_strayInside).1, ?_⟩
  refine (malformedMarker_within nestedSetup .empty "page" strayAfter pageSession 3 "b" hafter).2 ?_
  intro i m hm
  have hplain : ∀ i ∈ markerLines (Text.splitLines strayAfter),
      ∀ m ∈ markerAt? (Text.splitLines strayAfter) i,
        eventualTarget? nestedSetup pageSession.registry m.extension ≠ some .wildcard := by
    decide +kernel
  exact hplain i (mem_markerLines_of_markerAt? hm) m hm

end Registry

end TextChain
