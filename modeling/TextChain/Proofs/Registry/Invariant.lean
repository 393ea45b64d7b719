import TextChain.Proofs.Linking
import TextChain.Proofs.Registry.Operations

/-!
# What every registry keeps

However a registry is used, its built-in extensions stay mapped, the chains that it maps extensions to
have pipelines, and its pipelines are those of their chain texts (`Consistent`). So the only lookups
that compiling a text makes are those for extensions that are not mapped, or that are built in and have
their own chain (`consistent_after`).
-/

namespace TextChain

namespace Registry

variable {setup : Setup} {s t : Session} {spec ext : String} {target : Target}
  {cached : CachedPipeline} {linked : LinkedChain} {lookups lookups' : List Lookup} {options : Options}

/-- The stages of a pipeline are answers that the resolver gave, in these lookups, to the names of the
stages of a chain text. -/
structure MadeOf (setup : Setup) (lookups : List Lookup) (spec : String) (p : Pipeline) : Prop where
  trimmed : Text.trim spec = spec
  /-- The chain of the pipeline is the chain that the text denotes. -/
  parsed : Chain.parse spec = .ok p.linked.chain
  /-- The lookups of the names stand among the lookups, and the stages are the answers to them. -/
  answered : ∃ before, before ++ Chain.lookupsFor setup.settings p.linked.chain.stages <+: lookups ∧
    Chain.Answered setup.resolver setup.settings before p.linked

/-- What is true of a registry however it is used. -/
structure Consistent (setup : Setup) (s : Session) : Prop where
  /-- The built-in extensions are mapped. -/
  builtIn : ∀ ext ∈ builtInChains.map Prod.fst, s.registry.mapping.contains ext = true
  /-- A chain that an extension is mapped to has a pipeline, or is the extension's built-in chain. -/
  ready : ∀ ext spec, s.registry.mapping.find? ext = some (.chain spec) →
    (s.registry.pipelines.find? spec).isSome ∨ builtInChain? ext = some spec
  /-- The pipelines are made of the stages of their chain texts. -/
  made : ∀ spec cached, s.registry.pipelines.find? spec = some cached →
    MadeOf setup s.lookups spec cached.pipeline

/-- Later lookups do not matter. -/
lemma MadeOf.mono {p : Pipeline} (h : MadeOf setup lookups spec p) (hle : lookups <+: lookups') :
    MadeOf setup lookups' spec p where
  trimmed := h.trimmed
  parsed := h.parsed
  answered := by
    obtain ⟨before, hbefore, hanswered⟩ := h.answered
    exact ⟨before, hbefore.trans hle, hanswered⟩

lemma madeOf_of_link {before : List Lookup} (htrim : Text.trim spec = spec)
    (hlink : setup.link spec before = (.ok linked, lookups)) :
    MadeOf setup lookups spec ⟨linked, setup.mode⟩ := by
  obtain ⟨hparse, hanswered, rfl⟩ := Chain.answered_of_link hlink
  exact ⟨htrim, hparse, before, List.prefix_rfl, hanswered⟩

/-! ### The first registry -/

lemma find?_mapping_initial (ext : String) :
    initial.mapping.find? ext = (builtInChain? ext).map .chain := by
  simp only [initial, builtInChain?, builtInChains, List.foldl, Dict.find?_insert, Dict.find?_empty,
    Entries.find?]
  split_ifs <;> subst_vars <;> simp_all

lemma isSome_builtInChain? :
    ∀ ext ∈ builtInChains.map Prod.fst, (builtInChain? ext).isSome = true := by
  decide

lemma consistent_initial (setup : Setup) : Consistent setup .initial where
  builtIn := by decide
  ready ext spec h := by
    rw [Session.initial, find?_mapping_initial] at h
    obtain ⟨_, hchain, heq⟩ := Option.map_eq_some_iff.1 h
    cases heq
    exact .inr hchain
  made spec cached h := by cases h

/-! ### Changes -/

lemma prefix_of_link {result : Except LinkError LinkedChain}
    (hlink : setup.link spec s.lookups = (result, lookups)) : s.lookups <+: lookups := by
  have hle := Chain.prefix_link setup.resolver setup.settings spec s.lookups
  rwa [← Setup.link, hlink] at hle

lemma consistent_assign (hs : Consistent setup s) (hready : s.registry.Ready target) (ext : String) :
    Consistent setup { s with registry := s.registry.assign ext target } where
  builtIn ext' hmem := by
    have h := hs.builtIn ext' hmem
    simp only [Dict.contains, assign, Dict.find?_insert] at h ⊢
    split_ifs
    · rfl
    · exact h
  ready ext' spec h := by
    simp only [assign, Dict.find?_insert] at h
    split_ifs at h
    · exact .inl (hready spec (Option.some.inj h))
    · exact hs.ready ext' spec h
  made := hs.made

lemma Growth.consistent (h : Growth setup s t) (hs : Consistent setup s) : Consistent setup t := by
  cases h with
  | refuse hlink =>
    exact ⟨hs.builtIn, hs.ready,
      fun spec cached h => (hs.made spec cached h).mono (prefix_of_link hlink)⟩
  | make htrim hmiss hlink =>
    refine ⟨hs.builtIn, ?_, ?_⟩
    · intro ext spec h
      refine (hs.ready ext spec h).imp_left ?_
      intro hready
      simp only [keep, Dict.find?_insert]
      split_ifs
      · rfl
      · exact hready
    · intro spec cached h
      simp only [keep, Dict.find?_insert] at h
      split_ifs at h with heq
      · cases h
        exact heq ▸ madeOf_of_link htrim hlink
      · exact (hs.made spec cached h).mono (prefix_of_link hlink)
  | adopt _ _ hready => exact consistent_assign hs hready _
  | call _ => exact ⟨hs.builtIn, hs.ready, hs.made⟩

lemma Grows.consistent (h : Grows setup s t) (hs : Consistent setup s) : Consistent setup t := by
  induction h with
  | refl => exact hs
  | tail _ hstep ih => exact hstep.consistent ih

/-- Removing an extension drops no pipeline of a chain that another extension is mapped to, and what
the extension is mapped to afterwards is its built-in chain. -/
lemma consistent_remove (hs : Consistent setup s) (ext : String) :
    Consistent setup { s with registry := s.registry.remove ext } where
  builtIn ext' hmem := by
    have h := hs.builtIn ext' hmem
    rw [Dict.contains] at h
    rw [Dict.contains, find?_mapping_remove]
    by_cases heq : Text.trim ext = ext'
    · rw [if_pos heq, Option.isSome_map]
      exact isSome_builtInChain? ext' hmem
    · rw [if_neg heq]
      exact h
  ready ext' spec h := by
    rw [find?_mapping_remove] at h
    by_cases heq : Text.trim ext = ext'
    · rw [if_pos heq] at h
      obtain ⟨_, hchain, hspec⟩ := Option.map_eq_some_iff.1 h
      cases hspec
      exact .inr hchain
    · rw [if_neg heq] at h
      refine (hs.ready ext' spec h).imp_left ?_
      intro hready
      rcases pipelines_remove (r := s.registry) ext with hsame | ⟨dropped, hfree, hdrop⟩
      · rw [hsame]
        exact hready
      · have hne : dropped ≠ spec := fun hspec => hfree ext' heq (hspec ▸ h)
        rw [hdrop, Dict.find?_erase, if_neg hne]
        exact hready
  made spec cached h := hs.made spec cached (find?_of_pipelines_remove ext h)

lemma Change.consistent (h : Change setup s t) (hs : Consistent setup s) : Consistent setup t := by
  cases h with
  | grow h => exact h.consistent hs
  | map ext h hready => exact consistent_assign (h.consistent hs) hready ext
  | unmap ext => exact consistent_remove hs ext

lemma consistent_after_of (ops : List Operation) (hs : Consistent setup s) :
    Consistent setup (s.after setup ops) := by
  induction ops generalizing s with
  | nil => exact hs
  | cons op ops ih => exact ih ((change_act op s).consistent hs)

/-! ### Compiling with a pipeline that is ready -/

/-- Compiling a text whose extension has a chain with a pipeline runs the pipeline and does nothing
else. -/
lemma perform_compile_of_cached (htarget : s.registry.target? ext = some (.chain spec))
    (hcached : s.registry.pipelines.find? (Text.trim spec) = some cached) (text : String)
    (options : Options) :
    perform (compile setup ext text options) s =
      ((cached.pipeline.execute text options).result.mapError .run,
        { s with calls := s.calls ++ (cached.pipeline.execute text options).calls }) := by
  rw [compile, compileWithin.eq_def, perform_bind_of_ok (perform_ensure_of_mapped htarget)]
  exact (perform_bind_of_ok (perform_pipelineFor_of_cached hcached) _).trans
    (Act.perform_running _ _)

/-- However a registry is used, it stays consistent. So an extension that is mapped to a chain other
than its built-in one is compiled without asking the resolver, and only a run of stages can make that
fail: the chain text has no fault, and all its stages were found before. -/
theorem consistent_after (setup : Setup) (ops : List Operation) :
    Consistent setup (Session.initial.after setup ops) ∧
    ∀ ext spec text options,
      (Session.initial.after setup ops).registry.target? ext = some (.chain spec) →
      builtInChain? (Text.trim ext) ≠ some spec →
      (perform (compile setup ext text options) (Session.initial.after setup ops)).2.lookups =
          (Session.initial.after setup ops).lookups ∧
        ∀ error, (perform (compile setup ext text options) (Session.initial.after setup ops)).1 =
          .error error → ∃ reason, error = .run reason := by
  have hs := consistent_after_of ops (consistent_initial setup)
  refine ⟨hs, ?_⟩
  intro ext spec text options htarget hown
  obtain ⟨cached, hcached⟩ :=
    Option.isSome_iff_exists.1 ((hs.ready _ spec htarget).resolve_right hown)
  have htrim := (hs.made spec cached hcached).trimmed
  rw [perform_compile_of_cached htarget (htrim.symm ▸ hcached) text options]
  refine ⟨rfl, ?_⟩
  intro error h
  cases hresult : (cached.pipeline.execute text options).result with
  | ok output =>
    rw [hresult] at h
    cases h
  | error reason =>
    rw [hresult] at h
    cases h
    exact ⟨reason, rfl⟩

/-- The extension with a chain of its own is compiled without a lookup. -/
theorem consistent_after_sampleOperations :
    Consistent .standard (Session.initial.after .standard sampleOperations) ∧
      (perform (compile .standard "md" "x" .empty)
          (Session.initial.after .standard sampleOperations)).2.lookups =
        (Session.initial.after .standard sampleOperations).lookups :=
  ⟨(consistent_after .standard sampleOperations).1,
    ((consistent_after .standard sampleOperations).2 "md" "html > text" "x" .empty
      (by decide +kernel) (by decide +kernel)).1⟩

end Registry

end TextChain
