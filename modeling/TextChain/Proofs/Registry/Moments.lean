import TextChain.Proofs.Document.Abort
import TextChain.Proofs.Registry.Invariant

/-!
# The moments of a run

Two kinds of moments matter to the pipelines that a registry keeps: those at which the pipeline of a
chain text is asked for, and those at which an extension is removed. `Session.moments` lists those of a
run of operations in their order, with the blocks of documents and the blocks in them. Between two such
moments no lookup is made and the pipelines stay as they are (`passes_after`).
-/

namespace TextChain

open Registry

variable {setup : Setup} {options : Options} {spec ext text : String} {target : Target} {m : Moment}
  {ms ms' : List Moment} {s t u : Session}

/-- A moment of a run. -/
inductive Moment
  /-- The pipeline of a chain text is asked for. -/
  | asked (spec : String) (session : Session)
  | removed (ext : String) (session : Session)

namespace Moment

def session : Moment → Session
  | .asked _ session => session
  | .removed _ session => session

def after (setup : Setup) : Moment → Session
  | .asked spec session => (perform (pipelineFor setup spec) session).2
  | .removed ext session => { session with registry := session.registry.remove ext }

def lookups (setup : Setup) (m : Moment) : List Lookup :=
  (m.after setup).lookups.drop m.session.lookups.length

end Moment

/-! ### Moments one after the other -/

/-- From the first session to the second no lookup is made, and the pipelines stay as they are. -/
structure Steady (s t : Session) : Prop where
  lookups : t.lookups = s.lookups
  pipelines : t.registry.pipelines = s.registry.pipelines

/-- From the first session to the second nothing happens to lookups and pipelines but at the moments, in
their order. -/
def Passes (setup : Setup) : Session → List Moment → Session → Prop
  | s, [], t => Steady s t
  | s, m :: rest, t => Steady s m.session ∧ Passes setup (m.after setup) rest t

lemma Steady.refl (s : Session) : Steady s s := ⟨rfl, rfl⟩

lemma Steady.trans (h : Steady s t) (h' : Steady t u) : Steady s u :=
  ⟨h'.lookups.trans h.lookups, h'.pipelines.trans h.pipelines⟩

lemma Steady.passes (h : Steady s t) (h' : Passes setup t ms u) : Passes setup s ms u := by
  cases ms with
  | nil => exact h.trans h'
  | cons m rest => exact ⟨h.trans h'.1, h'.2⟩

lemma Passes.append (h : Passes setup s ms t) (h' : Passes setup t ms' u) :
    Passes setup s (ms ++ ms') u := by
  induction ms generalizing s with
  | nil => exact Steady.passes h h'
  | cons m rest ih => exact ⟨h.1, ih h.2⟩

lemma Passes.steady (h : Passes setup s ms t) (h' : Steady t u) : Passes setup s ms u := by
  rw [← List.append_nil ms]
  exact h.append h'

lemma Passes.exists_between (h : Passes setup s (ms ++ ms') u) :
    ∃ t, Passes setup s ms t ∧ Passes setup t ms' u := by
  induction ms generalizing s with
  | nil => exact ⟨s, .refl s, h⟩
  | cons m rest ih =>
    obtain ⟨t, hbefore, hafter⟩ := ih h.2
    exact ⟨t, ⟨h.1, hbefore⟩, hafter⟩

lemma Passes.single (m : Moment) : Passes setup m.session [m] (m.after setup) :=
  ⟨.refl _, .refl _⟩

namespace Moment

/-- The lookups of a moment are added to those made before. -/
lemma lookups_after (setup : Setup) (m : Moment) :
    (m.after setup).lookups = m.session.lookups ++ m.lookups setup := by
  have hprefix : m.session.lookups <+: (m.after setup).lookups := by
    cases m with
    | removed ext s =>
      dsimp only [after, session]
      exact List.prefix_rfl
    | asked spec s =>
      rw [after]
      rcases h : perform (pipelineFor setup spec) s with ⟨result, t⟩
      cases asking_of_pipelineFor h with
      | hit _ => exact List.prefix_rfl
      | refused _ hlink => exact prefix_of_link hlink
      | made _ hlink => exact prefix_of_link hlink
  exact (List.prefix_iff_eq_append.1 hprefix).symm

end Moment

lemma Passes.lookups_eq (h : Passes setup s ms t) :
    t.lookups = s.lookups ++ ms.flatMap (Moment.lookups setup) := by
  induction ms generalizing s with
  | nil => exact (Steady.lookups h).trans (List.append_nil _).symm
  | cons m rest ih =>
    rw [ih h.2, m.lookups_after, h.1.lookups, List.flatMap_cons, List.append_assoc]

/-! ### The moments of an operation -/

namespace Registry

def momentsOfTarget : Target → Session → List Moment
  | .chain spec, s => [.asked spec s]
  | .wildcard, _ => []

/-- The moments at which the target of an extension is settled. -/
def momentsOfEnsure (setup : Setup) (ext : String) (s : Session) : List Moment :=
  match s.registry.mapping.find? ext with
  | some _ => []
  | none =>
    match conventionalTarget setup ext with
    | .ok target => momentsOfTarget target s
    | .error _ => []

/-- The moments of calls for blocks, if `moments` gives those of each call. -/
def momentsOfCalls (compile : String → String → Act Output)
    (moments : String → String → Session → List Moment) : List BlockCall → Session → List Moment
  | [], _ => []
  | call :: rest, s =>
    moments call.extension call.body s ++
      momentsOfCalls compile moments rest (perform (compile call.extension call.body) s).2

def momentsOfCompile (setup : Setup) (options : Options) (depth : Nat) (ext text : String)
    (s : Session) : List Moment :=
  momentsOfEnsure setup (Text.trim ext) s ++
    match perform (ensure setup (Text.trim ext)) s with
    | (.error _, _) => []
    | (.ok (.chain spec), t) => [.asked (Text.trim spec) t]
    | (.ok .wildcard, t) =>
      match depth with
      | 0 => []
      | depth + 1 =>
        momentsOfCalls (compileWithin setup options depth) (momentsOfCompile setup options depth)
          (blockCalls (compileWithin setup options depth) options text t) t

end Registry

def Operation.moments (setup : Setup) : Operation → Session → List Moment
  | .add ext value, s =>
    match newTarget setup (Text.trim ext) value with
    | .ok target => momentsOfTarget target s
    | .error _ => []
  | .remove ext, s => [.removed ext s]
  | .get spec, s => [.asked (Text.trim spec) s]
  | .compile ext text options, s => momentsOfCompile setup options setup.nesting ext text s
  | .has _, _ => []
  | .mappingFor _, _ => []
  | .extensions, _ => []

def Session.moments (setup : Setup) : Session → List Operation → List Moment
  | _, [] => []
  | s, op :: ops => op.moments setup s ++ Session.moments setup (perform (op.act setup) s).2 ops

/-! ### Nothing happens between the moments -/

namespace Registry

lemma passes_establish (setup : Setup) (ext : String) (target : Target) (s : Session) :
    Passes setup s (momentsOfTarget target s) (perform (establish setup ext target) s).2 := by
  cases target with
  | wildcard => exact ⟨rfl, rfl⟩
  | chain spec =>
    refine (Passes.single (.asked spec s)).steady ?_
    rw [perform_establish_chain, Moment.after]
    rcases perform (pipelineFor setup spec) s with ⟨e | cached, t⟩
    · exact .refl t
    · exact ⟨rfl, rfl⟩

lemma passes_ensure (setup : Setup) (ext : String) (s : Session) :
    Passes setup s (momentsOfEnsure setup ext s) (perform (ensure setup ext) s).2 := by
  unfold momentsOfEnsure
  rcases h : perform (ensure setup ext) s with ⟨result, t⟩
  cases settling_of_ensure h with
  | mapped hmapped =>
    rw [hmapped]
    exact Steady.refl s
  | unknown hfree htarget =>
    rw [hfree, htarget]
    exact Steady.refl s
  | @refused target _ _ hfree htarget _ _ hmade =>
    have hpasses := passes_establish setup ext target s
    rw [hfree, htarget]
    rwa [hmade] at hpasses
  | @adopted target _ _ hfree htarget _ _ _ hmade =>
    have hpasses := passes_establish setup ext target s
    rw [hfree, htarget]
    rwa [hmade] at hpasses

lemma passes_execute (setup : Setup) (spec text : String) (options : Options) (s : Session) :
    Passes setup s [.asked (Text.trim spec) s] (perform (execute setup spec text options) s).2 := by
  refine (Passes.single (.asked (Text.trim spec) s)).steady ?_
  rw [Moment.after]
  rcases hget : perform (pipelineFor setup (Text.trim spec)) s with ⟨e | cached, t⟩
  · rw [execute, get, perform_bind_of_error hget]
    exact .refl t
  · rw [execute, get, perform_bind_of_ok hget, Act.perform_running]
    exact ⟨rfl, rfl⟩

lemma passes_calls {compile : String → String → Act Output}
    {moments : String → String → Session → List Moment} {calls : List BlockCall}
    (h : Replays compile s calls t)
    (hcompile : ∀ ext text s, Passes setup s (moments ext text s) (perform (compile ext text) s).2) :
    Passes setup s (momentsOfCalls compile moments calls s) t := by
  induction calls generalizing s with
  | nil =>
    cases h
    exact .refl _
  | cons call rest ih => exact (hcompile _ _ s).append (ih h.2)

lemma passes_compileWithin (setup : Setup) (options : Options) (depth : Nat) (ext text : String)
    (s : Session) :
    Passes setup s (momentsOfCompile setup options depth ext text s)
      (perform (compileWithin setup options depth ext text) s).2 := by
  -- The moments are listed along the recursion of `compileWithin`: first those of settling the target,
  -- then, for a document, those of its calls, which are made at a smaller depth.
  induction depth using Nat.strong_induction_on generalizing ext text s with
  | _ depth ih =>
    have hensure := passes_ensure setup (Text.trim ext) s
    rw [momentsOfCompile.eq_def, compileWithin.eq_def]
    rcases htarget : perform (ensure setup (Text.trim ext)) s with ⟨e | target, t⟩ <;>
      rw [htarget] at hensure <;> refine hensure.append ?_
    · rw [perform_bind_of_error htarget]
      exact .refl t
    · rw [perform_bind_of_ok htarget]
      cases target with
      | chain spec => exact passes_execute setup spec text options t
      | wildcard =>
        cases depth with
        | zero => exact .refl t
        | succ depth =>
          obtain ⟨-, hreplays, -⟩ :=
            Document.ending_compileDocument (compileWithin setup options depth) options text t
          dsimp only
          rw [perform_bind_pure]
          exact passes_calls hreplays (ih depth (Nat.lt_succ_self depth))

lemma passes_act (op : Operation) (s : Session) :
    Passes setup s (op.moments setup s) (perform (op.act setup) s).2 := by
  cases op with
  | add ext value =>
    rw [Operation.act, perform_bind_pure, Operation.moments]
    cases htarget : newTarget setup (Text.trim ext) value with
    | error e =>
      rw [perform_add_of_error htarget]
      exact .refl s
    | ok target =>
      rw [perform_add_of_ok htarget]
      exact passes_establish setup _ target s
  | remove ext => exact Passes.single (.removed ext s)
  | get spec =>
    rw [Operation.act, perform_bind_pure]
    exact Passes.single (.asked (Text.trim spec) s)
  | compile ext text options =>
    rw [Operation.act, perform_bind_pure]
    exact passes_compileWithin setup options setup.nesting ext text s
  | has ext => exact Steady.refl s
  | mappingFor ext => exact Steady.refl s
  | extensions => exact Steady.refl s

/-- Nothing happens to lookups and pipelines but at the moments of a run. -/
theorem passes_after (setup : Setup) (ops : List Operation) (s : Session) :
    Passes setup s (s.moments setup ops) (s.after setup ops) := by
  induction ops generalizing s with
  | nil => exact Steady.refl s
  | cons op ops ih => exact (passes_act op s).append (ih _)

end Registry

end TextChain
