import TextChain.Proofs.Registry.Moments

/-!
# One pipeline for each chain

The pipeline of a chain text is made once and is then given to everyone who asks for it, without another
lookup, until the last extension that is mapped to the chain text is removed (`pipeline_shared`).
-/

namespace TextChain

open Registry

variable {setup : Setup} {spec spec' ext : String} {op : Operation} {m : Moment} {ms : List Moment}
  {s t : Session} {cached : CachedPipeline} {r : Registry}

namespace Registry

/-- The extension is mapped to the chain text, and no other extension is. -/
def LastReference (r : Registry) (ext spec : String) : Prop :=
  r.mapping.find? ext = some (.chain spec) ∧
    ∀ e, e ≠ ext → r.mapping.find? e ≠ some (.chain spec)

lemma lastReference_iff : r.LastReference ext spec ↔ r.mapping.find? ext = some (.chain spec) ∧
    ({ r with mapping := r.mapping.erase ext } : Registry).refersTo spec = false := by
  refine and_congr_right fun _ => ?_
  rw [← Bool.not_eq_true, refersTo_iff, not_exists]
  refine forall_congr' fun e => ?_
  rw [Dict.find?_erase]
  split_ifs with heq
  · simp [heq]
  · simp [Ne.symm heq]

instance (r : Registry) (ext spec : String) : Decidable (r.LastReference ext spec) :=
  decidable_of_iff _ lastReference_iff.symm

/-! ### Removing an extension -/

/-- The pipeline of a chain text is dropped with the last extension that is mapped to it. -/
lemma find?_pipelines_remove_of_last (h : r.LastReference (Text.trim ext) spec) :
    (r.remove ext).pipelines.find? spec = none := by
  obtain ⟨hmapped, hfree⟩ := lastReference_iff.1 h
  rw [remove, pipelines_restore, unmap, hmapped]
  simp [release, hfree, Dict.find?_erase]

lemma find?_pipelines_remove_of_not_last (h : ¬ r.LastReference (Text.trim ext) spec) :
    (r.remove ext).pipelines.find? spec = r.pipelines.find? spec := by
  rw [remove, pipelines_restore, unmap]
  cases hmapped : r.mapping.find? (Text.trim ext) with
  | none => rfl
  | some target =>
    cases target with
    | wildcard => rfl
    | chain spec' =>
      by_cases heq : spec' = spec
      · subst heq
        have hrefers : ({ r with mapping := r.mapping.erase (Text.trim ext) } : Registry).refersTo
            spec' = true := by
          simpa [lastReference_iff, hmapped] using h
        simp [release, hrefers]
      · dsimp only
        unfold release
        split_ifs
        · rfl
        · rw [Dict.find?_erase, if_neg heq]

end Registry

/-! ### Pipelines that stay -/

/-- The pipeline of the chain text is dropped at the moment. -/
def Moment.Drops (spec : String) : Moment → Prop
  | .asked _ _ => False
  | .removed ext s => s.registry.LastReference (Text.trim ext) spec

instance (spec : String) : (m : Moment) → Decidable (m.Drops spec)
  | .asked _ _ => inferInstanceAs (Decidable False)
  | .removed ext s => inferInstanceAs (Decidable (s.registry.LastReference (Text.trim ext) spec))

/-- Asking for a pipeline replaces none. -/
lemma Registry.find?_pipelines_pipelineFor (hcached : s.registry.pipelines.find? spec = some cached) :
    (perform (pipelineFor setup spec') s).2.registry.pipelines.find? spec = some cached := by
  rcases h : perform (pipelineFor setup spec') s with ⟨result, t⟩
  cases asking_of_pipelineFor h with
  | hit _ => exact hcached
  | refused _ _ => exact hcached
  | made hmiss _ =>
    -- A pipeline is only made where there is none.
    have hne : spec' ≠ spec := by
      rintro rfl
      rw [hmiss] at hcached
      cases hcached
    rwa [keep, Dict.find?_insert, if_neg hne]

lemma Moment.find?_pipelines_after (hdrops : ¬ m.Drops spec)
    (hcached : m.session.registry.pipelines.find? spec = some cached) :
    (m.after setup).registry.pipelines.find? spec = some cached := by
  cases m with
  | asked spec' s => exact find?_pipelines_pipelineFor hcached
  | removed ext s => exact (find?_pipelines_remove_of_not_last hdrops).trans hcached

/-- A pipeline that is not dropped at some moment stays the same. -/
lemma Passes.find?_pipelines (h : Passes setup s ms t) (hdrops : ∀ m ∈ ms, ¬ m.Drops spec)
    (hcached : s.registry.pipelines.find? spec = some cached) :
    t.registry.pipelines.find? spec = some cached := by
  induction ms generalizing s with
  | nil => rwa [Steady.pipelines h]
  | cons m rest ih =>
    obtain ⟨hm, hrest⟩ := List.forall_mem_cons.1 hdrops
    refine ih h.2 hrest (m.find?_pipelines_after hm ?_)
    rwa [h.1.pipelines]

/-- Once a pipeline was given, it is given again without a lookup until it is dropped. -/
lemma Passes.shared {before between after : List Moment} {u v : Session}
    (h : Passes setup s (before ++ .asked spec u :: (between ++ .asked spec v :: after)) t)
    (hcached : (perform (pipelineFor setup spec) u).1 = .ok cached)
    (hdrops : ∀ m ∈ between, ¬ m.Drops spec) :
    perform (pipelineFor setup spec) v = (.ok cached, v) := by
  -- `v` need not be the session `w` that `between` leaves, but it has the same pipelines.
  obtain ⟨_, -, -, hafter⟩ := h.exists_between
  obtain ⟨w, hbetween, hv, -⟩ := hafter.exists_between
  have hu : (Moment.after setup (.asked spec u)).registry.pipelines.find? spec = some cached :=
    find?_of_pipelineFor (Prod.ext hcached rfl)
  refine perform_pipelineFor_of_cached ?_
  rw [show v.registry.pipelines = w.registry.pipelines from hv.pipelines]
  exact hbetween.find?_pipelines hdrops hu

/-! ### Lookups -/

namespace Moment

/-- The names of the stages of the chain text that is asked for. -/
def names : Moment → List String
  | .asked spec _ => Chain.namesIn spec
  | .removed _ _ => []

/-- At a moment only the stages of the chain text that is asked for are looked up, in their order. -/
lemma exists_asked (setup : Setup) (m : Moment) :
    ∃ asked, asked <+: m.names ∧ m.lookups setup = Chain.lookupsFor setup.settings asked := by
  have h := m.lookups_after setup
  cases m with
  | removed ext s =>
    dsimp only [after, session] at h
    exact ⟨[], List.prefix_rfl, List.self_eq_append_right.1 h⟩
  | asked spec s =>
    dsimp only [after, session] at h
    obtain ⟨asked, hasked, hlookups⟩ :=
      Chain.lookups_of_link setup.resolver setup.settings spec s.lookups
    rw [← Setup.link] at hlookups
    rcases hpipeline : perform (pipelineFor setup spec) s with ⟨result, t⟩
    rw [hpipeline] at h
    cases asking_of_pipelineFor hpipeline with
    | hit _ => exact ⟨[], List.nil_prefix, List.self_eq_append_right.1 h⟩
    | refused _ hlink =>
      rw [hlink] at hlookups
      exact ⟨asked, hasked, List.append_cancel_left (h.symm.trans hlookups)⟩
    | made _ hlink =>
      rw [hlink] at hlookups
      exact ⟨asked, hasked, List.append_cancel_left (h.symm.trans hlookups)⟩

end Moment

/-! ### Operations -/

/-- The operation gives the pipeline of the chain text: it maps an extension to it, or asks for it with
any blanks at its ends. -/
def Operation.AsksFor (setup : Setup) (spec : String) : Operation → Prop
  | .add ext value => newTarget setup (Text.trim ext) value = .ok (.chain spec)
  | .get text => Text.trim text = spec
  | _ => False

def Reply.pipeline? {π : Type} : Reply π → Option π
  | .added made => made
  | .pipeline made => some made
  | _ => none

namespace Registry

lemma act_of_asksFor (hop : op.AsksFor setup spec)
    (h : perform (pipelineFor setup spec) s = (.ok cached, t)) :
    ∃ reply u, perform (op.act setup) s = (.ok reply, u) ∧ reply.pipeline? = some cached ∧
      Steady t u := by
  cases op with
  | add ext value =>
    refine ⟨.added (some cached), { t with registry := t.registry.assign (Text.trim ext) (.chain spec) },
      ?_, rfl, rfl, rfl⟩
    rw [Operation.act, perform_bind_pure, perform_add_of_ok hop, perform_establish_chain, h]
    rfl
  | get text =>
    refine ⟨.pipeline cached, t, ?_, rfl, .refl t⟩
    rw [Operation.act, perform_bind_pure, get, show Text.trim text = spec from hop, h]
    rfl
  | _ => exact hop.elim

lemma act_of_asksFor_of_error {e : EngineError} (hop : op.AsksFor setup spec)
    (h : (perform (pipelineFor setup spec) s).1 = .error e) :
    (perform (op.act setup) s).1 = .error e := by
  cases op with
  | add ext value =>
    rw [Operation.act, perform_bind_pure, perform_add_of_ok hop, perform_establish_chain]
    rcases hpipeline : perform (pipelineFor setup spec) s with ⟨e' | cached, t⟩ <;>
      rw [hpipeline] at h <;> cases h
    rfl
  | get text =>
    rw [Operation.act, perform_bind_pure, get, show Text.trim text = spec from hop, h]
    rfl
  | _ => exact hop.elim

lemma find?_pipelines_act (hop : ∀ ext, op ≠ .remove ext)
    (hcached : s.registry.pipelines.find? spec = some cached) :
    (perform (op.act setup) s).2.registry.pipelines.find? spec = some cached := by
  cases op with
  | add ext value =>
    rw [Operation.act, perform_bind_pure]
    cases htarget : newTarget setup (Text.trim ext) value with
    | error e =>
      rw [perform_add_of_error htarget]
      exact hcached
    | ok target =>
      rw [perform_add_of_ok htarget]
      cases target with
      | wildcard => exact hcached
      | chain spec' =>
        have h : (perform (pipelineFor setup spec') s).2.registry.pipelines.find? spec = some cached :=
          find?_pipelines_pipelineFor hcached
        rw [perform_establish_chain]
        rcases hpipeline : perform (pipelineFor setup spec') s with ⟨e | cached', t⟩ <;>
          rwa [hpipeline] at h
  | remove ext => exact absurd rfl (hop ext)
  | has ext => exact hcached
  | mappingFor ext => exact hcached
  | extensions => exact hcached
  | get text =>
    rw [Operation.act, perform_bind_pure]
    exact find?_pipelines_pipelineFor hcached
  | compile ext text options =>
    rw [Operation.act, perform_bind_pure]
    exact (grows_compileWithin options setup.nesting ext text s).find?_pipelines hcached

/-- How the pipeline of a chain text is shared by those who ask for it in runs from a session. -/
structure Shared (setup : Setup) (spec : String) (s : Session) : Prop where
  /-- It is dropped only when the last extension that is mapped to the chain text is removed. -/
  dropped : ∀ (op : Operation) (cached : CachedPipeline),
    s.registry.pipelines.find? spec = some cached →
    (perform (op.act setup) s).2.registry.pipelines.find? spec = some cached ∨
      (perform (op.act setup) s).2.registry.pipelines.find? spec = none ∧
        ∃ ext, op = .remove ext ∧ s.registry.LastReference (Text.trim ext) spec
  /-- Until it is dropped, all operations that give it give the same pipeline. -/
  given : ∀ (first last : Operation) (ops : List Operation) (reply : Reply CachedPipeline),
    first.AsksFor setup spec → last.AsksFor setup spec →
    (perform (first.act setup) s).1 = .ok reply →
    (∀ m ∈ (s.after setup [first]).moments setup ops, ¬ m.Drops spec) →
    ∃ cached reply', reply.pipeline? = some cached ∧
      (perform (last.act setup) (s.after setup (first :: ops))).1 = .ok reply' ∧
      reply'.pipeline? = some cached
  /-- After it was made, it is given to everyone who asks for it without a lookup until it is dropped. -/
  asked : ∀ (ops : List Operation) (before between after : List Moment) (u v : Session)
    (cached : CachedPipeline),
    s.moments setup ops =
      before ++ Moment.asked spec u :: (between ++ Moment.asked spec v :: after) →
    (perform (pipelineFor setup spec) u).1 = .ok cached → (∀ m ∈ between, ¬ m.Drops spec) →
    perform (pipelineFor setup spec) v = (.ok cached, v)
  /-- All lookups are made when pipelines are asked for, and are lookups of the stages of their chain
  texts, in the order of the stages. -/
  lookups : ∀ ops : List Operation,
    (s.after setup ops).lookups = s.lookups ++ (s.moments setup ops).flatMap (Moment.lookups setup) ∧
      ∀ m ∈ s.moments setup ops, ∃ names, names <+: m.names ∧
        m.lookups setup = Chain.lookupsFor setup.settings names

lemma dropped_of_act (op : Operation) (hcached : s.registry.pipelines.find? spec = some cached) :
    (perform (op.act setup) s).2.registry.pipelines.find? spec = some cached ∨
      (perform (op.act setup) s).2.registry.pipelines.find? spec = none ∧
        ∃ ext, op = .remove ext ∧ s.registry.LastReference (Text.trim ext) spec := by
  by_cases hremove : ∃ ext, op = .remove ext
  · obtain ⟨ext, rfl⟩ := hremove
    rw [perform_act_remove]
    dsimp only
    by_cases hlast : s.registry.LastReference (Text.trim ext) spec
    · exact .inr ⟨find?_pipelines_remove_of_last hlast, ext, rfl, hlast⟩
    · exact .inl ((find?_pipelines_remove_of_not_last hlast).trans hcached)
  · exact .inl (find?_pipelines_act (not_exists.1 hremove) hcached)

/-- The pipeline that an operation gave is given again after other operations that do not drop it. -/
lemma given_again {first last : Operation} {ops : List Operation} {reply : Reply CachedPipeline}
    (hfirst : first.AsksFor setup spec) (hlast : last.AsksFor setup spec)
    (hreply : (perform (first.act setup) s).1 = .ok reply)
    (hdrops : ∀ m ∈ (s.after setup [first]).moments setup ops, ¬ m.Drops spec) :
    ∃ cached reply', reply.pipeline? = some cached ∧
      (perform (last.act setup) (s.after setup (first :: ops))).1 = .ok reply' ∧
      reply'.pipeline? = some cached := by
  rcases hpipeline : perform (pipelineFor setup spec) s with ⟨e | cached, u⟩
  · have herror := act_of_asksFor_of_error hfirst (congrArg Prod.fst hpipeline)
    rw [hreply] at herror
    cases herror
  · obtain ⟨_, t, hact, hgiven, hsteady⟩ := act_of_asksFor hfirst hpipeline
    have ht : s.after setup [first] = t := congrArg Prod.snd hact
    rw [hact] at hreply
    cases hreply
    have hcached : (s.after setup [first]).registry.pipelines.find? spec = some cached := by
      rw [ht, hsteady.pipelines]
      exact find?_of_pipelineFor hpipeline
    have hkept := (passes_after setup ops _).find?_pipelines hdrops hcached
    obtain ⟨reply', _, hact', hgiven', -⟩ :=
      act_of_asksFor hlast (perform_pipelineFor_of_cached hkept)
    exact ⟨cached, reply', hgiven, congrArg Prod.fst hact', hgiven'⟩

/-- The pipeline of a chain text is made once and shared, whatever is done from whatever session. -/
theorem pipeline_shared (setup : Setup) (spec : String) (s : Session) : Shared setup spec s where
  dropped op _ hcached := dropped_of_act op hcached
  given _ _ _ _ hfirst hlast hreply hdrops := given_again hfirst hlast hreply hdrops
  asked ops before between after u v cached hmoments hcached hdrops := by
    have h := passes_after setup ops s
    rw [hmoments] at h
    exact h.shared hcached hdrops
  lookups ops := ⟨(passes_after setup ops s).lookups_eq, fun m _ => m.exists_asked setup⟩

def mapFirst : Operation :=
  .add "a" (some " html > text ")

/-- Operations that map another extension to the same chain and remove the first one. -/
def mapSecond : List Operation :=
  [.get "js", .add "b" (some "html > text"), .remove "a", .compile "b" "x" .empty]

/-- The pipeline of the first extension is given again as long as the second one has its chain. When the
second one is removed as well, the pipeline is dropped, and another one is made afterwards. -/
theorem pipeline_shared_mapSecond :
    (∃ cached reply reply', (perform (mapFirst.act .standard) .initial).1 = .ok reply ∧
      reply.pipeline? = some cached ∧
      (perform (Operation.act .standard (.get "html > text "))
        (Session.initial.after .standard (mapFirst :: mapSecond))).1 = .ok reply' ∧
      reply'.pipeline? = some cached ∧ cached.serial = 0) ∧
    ((perform (pipelineFor .standard "html > text")
      (Session.initial.after .standard (mapFirst :: mapSecond ++ [Operation.remove "b"]))).1.map
        CachedPipeline.serial).toOption = some 2 := by
  refine ⟨?_, by decide +kernel⟩
  have hserial : ((perform (mapFirst.act .standard) .initial).1.toOption.bind fun reply =>
      reply.pipeline?.map CachedPipeline.serial) = some 0 := by decide +kernel
  cases hreply : (perform (mapFirst.act .standard) .initial).1 with
  | error e =>
    rw [hreply] at hserial
    cases hserial
  | ok reply =>
    obtain ⟨cached, reply', hgiven, hact, hgiven'⟩ :=
      (pipeline_shared .standard "html > text" .initial).given mapFirst (.get "html > text ") mapSecond
        reply (show newTarget _ _ _ = _ by decide +kernel) (show Text.trim _ = _ by decide +kernel)
        hreply (by decide +kernel)
    rw [hreply] at hserial
    refine ⟨cached, reply, reply', rfl, hgiven, hact, hgiven', ?_⟩
    simpa [Except.toOption, hgiven] using hserial

end Registry

end TextChain
