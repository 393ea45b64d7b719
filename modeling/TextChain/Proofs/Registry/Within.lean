import TextChain.Proofs.Document.Abort

/-!
# Compilations inside compilations

Compiling a document compiles the bodies of its blocks, and such a body may be a document again.
`Task.Opens` says that one compilation starts another one for a block of its document, and `Task.Within`
that it comes to start it, however deep. What compiling a text does to a registry, and why it fails, is
traced along these relations to the compilation that does it.
-/

namespace TextChain

open Registry Document

/-! ### Calls that are replayed -/

variable {compile : String → String → Act Output} {s t : Session} {calls earlier later : List BlockCall}
  {call : BlockCall}

/-- A call among others starts from the session that the calls before it leave. -/
lemma Replays.exists_session (h : Replays compile s (earlier ++ call :: later) t) :
    ∃ u, Replays compile s earlier u ∧
      call.result = (perform (compile call.extension call.body) u).1 ∧
      Replays compile (perform (compile call.extension call.body) u).2 later t := by
  induction earlier generalizing s with
  | nil => exact ⟨s, rfl, h.1, h.2⟩
  | cons first rest ih =>
    obtain ⟨u, hbefore, hresult, hafter⟩ := ih h.2
    exact ⟨u, ⟨h.1, hbefore⟩, hresult, hafter⟩

/-- What becomes true of the session in the course of some calls becomes true in one of them. -/
lemma Replays.exists_change {P : Session → Prop} (h : Replays compile s calls t) (hs : ¬ P s)
    (ht : P t) :
    ∃ earlier call later u, calls = earlier ++ call :: later ∧ Replays compile s earlier u ∧ ¬ P u ∧
      P (perform (compile call.extension call.body) u).2 := by
  induction calls generalizing s with
  | nil =>
    cases h
    exact absurd ht hs
  | cons first rest ih =>
    by_cases hfirst : P (perform (compile first.extension first.body) s).2
    · exact ⟨[], first, rest, s, rfl, rfl, hs, hfirst⟩
    · obtain ⟨earlier, call, later, u, rfl, hbefore, hu, hcall⟩ := ih h.2 hfirst
      exact ⟨first :: earlier, call, later, u, rfl, ⟨h.1, hbefore⟩, hu, hcall⟩

lemma Replays.grows {setup : Setup} (h : Replays compile s calls t)
    (hcompile : ∀ ext text s, Grows setup s (perform (compile ext text) s).2) : Grows setup s t := by
  induction calls generalizing s with
  | nil =>
    cases h
    exact .refl _
  | cons call rest ih => exact (hcompile _ _ s).trans (ih h.2)

namespace Document

variable {source : List String} {options : Options} {order : List Nat} {out : Nat → String}

lemma exists_markerAt?_of_made (h : List.Forall₂ (MadeFor source options out) calls order) :
    ∀ call ∈ calls, ∃ i m, markerAt? source i = some m ∧ m.extension = call.extension := by
  induction h with
  | nil => simp
  | @cons call j calls rest hcall _ ih =>
    obtain ⟨m, hm, hext⟩ := Option.map_eq_some_iff.1 hcall.extension
    exact List.forall_mem_cons.2 ⟨⟨j, m, hm, hext⟩, ih⟩

lemma Ending.exists_markerAt? {result : Except EngineError String}
    (h : Ending source options order out calls result) :
    ∀ call ∈ calls, ∃ i m, markerAt? source i = some m ∧ m.extension = call.extension := by
  cases h with
  | finished hmade _ => exact exists_markerAt?_of_made hmade
  | @failed before after j made last e _ hcalls hmade hlast _ _ =>
    obtain ⟨m, hm, hext⟩ := Option.map_eq_some_iff.1 hlast.extension
    rw [hcalls]
    exact List.forall_mem_append.2
      ⟨exists_markerAt?_of_made hmade, List.forall_mem_singleton.2 ⟨j, m, hm, hext⟩⟩
  | refused _ hmade _ _ _ _ => exact exists_markerAt?_of_made hmade

end Document

/-! ### Tasks -/

/-- A text that is to be compiled with an extension, from a session. -/
structure Task where
  /-- How deep documents may be nested in its blocks. -/
  depth : Nat
  extension : String
  text : String
  /-- The session from which it is compiled. -/
  session : Session

namespace Task

variable {setup : Setup} {options : Options} {task inner : Task}

def run (setup : Setup) (options : Options) (task : Task) : Except EngineError Output × Session :=
  perform (compileWithin setup options task.depth task.extension task.text) task.session

/-- Compiling the first text as a document compiles the second text for one of its blocks. -/
inductive Opens (setup : Setup) (options : Options) : Task → Task → Prop
  | block {depth : Nat} {ext text : String} {s t u : Session} {earlier later : List BlockCall}
      {call : BlockCall} (hdocument : perform (ensure setup (Text.trim ext)) s = (.ok .wildcard, t))
      (hcalls : blockCalls (compileWithin setup options depth) options text t =
        earlier ++ call :: later)
      (hreplays : Replays (compileWithin setup options depth) t earlier u) :
      Opens setup options ⟨depth + 1, ext, text, s⟩ ⟨depth, call.extension, call.body, u⟩

/-- Compiling the first text comes to compile the second text, which may be the first itself. -/
def Within (setup : Setup) (options : Options) : Task → Task → Prop :=
  Relation.ReflTransGen (Opens setup options)

/-- A compilation is opened for the block of a marker line, and has its extension. -/
lemma Opens.exists_markerAt? (h : Opens setup options task inner) :
    ∃ i m, markerAt? (Text.splitLines task.text) i = some m ∧ m.extension = inner.extension := by
  cases h with
  | @block depth ext text s t u earlier later call hdocument hcalls hreplays =>
    obtain ⟨out, -, hend⟩ :=
      ending_compileDocument (compileWithin setup options depth) options text t
    exact hend.exists_markerAt? call (hcalls ▸ List.mem_append_right _ List.mem_cons_self)

lemma Opens.depth_eq (h : Opens setup options task inner) : task.depth = inner.depth + 1 := by
  cases h
  rfl

lemma Opens.grows (h : Opens setup options task inner) : Grows setup task.session inner.session := by
  cases h with
  | @block depth ext text s t u earlier later call hdocument hcalls hreplays =>
    have hensure : Grows setup s _ := grows_ensure (Text.trim ext) s
    rw [hdocument] at hensure
    exact hensure.trans (hreplays.grows (grows_compileWithin options depth))

/-! ### Runs -/

/-- Compiling a document is compiling its blocks. -/
lemma run_of_document {depth : Nat} {ext text : String} {s t : Session}
    (hdocument : perform (ensure setup (Text.trim ext)) s = (.ok .wildcard, t)) :
    run setup options ⟨depth + 1, ext, text, s⟩ =
      ((perform (compileDocument (compileWithin setup options depth) options text) t).1.map .text,
        (perform (compileDocument (compileWithin setup options depth) options text) t).2) := by
  rw [run, compileWithin, perform_bind_of_ok hdocument]
  exact perform_bind_pure _ _ _

/-- What becomes true of the session while a text is compiled, and not by settling the target of its
extension or by executing a pipeline, becomes true while one of its blocks is compiled. -/
lemma exists_opens_of_change {P : Session → Prop} (hs : ¬ P task.session)
    (ht : P (task.run setup options).2)
    (hensure : ¬ P (perform (ensure setup (Text.trim task.extension)) task.session).2)
    (hexecute : ∀ spec s, ¬ P s → ¬ P (perform (execute setup spec task.text options) s).2) :
    ∃ inner, Opens setup options task inner ∧ ¬ P inner.session ∧ P (inner.run setup options).2 := by
  obtain ⟨depth, ext, text, s⟩ := task
  rcases hperform : perform (ensure setup (Text.trim ext)) s with ⟨e | target, t⟩ <;>
    rw [hperform] at hensure
  · rw [run, compileWithin.eq_def, perform_bind_of_error hperform] at ht
    exact absurd ht hensure
  cases target with
  | chain spec =>
    rw [run, compileWithin.eq_def, perform_bind_of_ok hperform] at ht
    exact absurd ht (hexecute spec t hensure)
  | wildcard =>
    cases depth with
    | zero =>
      rw [run, compileWithin, perform_bind_of_ok hperform] at ht
      exact absurd ht hensure
    | succ depth =>
      -- The session of a document is the one that its calls leave, whether it is finished or aborted.
      rw [run_of_document hperform] at ht
      obtain ⟨_, hreplays, -⟩ :=
        ending_compileDocument (compileWithin setup options depth) options text t
      obtain ⟨earlier, call, later, u, hcalls, hbefore, hu, hcall⟩ :=
        hreplays.exists_change hensure ht
      exact ⟨_, .block hperform hcalls hbefore, hu, hcall⟩

end Task

end TextChain
