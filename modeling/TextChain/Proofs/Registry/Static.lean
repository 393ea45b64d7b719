import TextChain.Proofs.Chain
import TextChain.Proofs.Registry.Invariant

/-!
# Errors that show before a stage is asked for

Adding an extension with a mapping value and asking for a pipeline fail with a configuration error if and
only if the request itself is malformed, whatever the registry maps and keeps. Otherwise they can only
fail because the resolver refuses a stage (`configuration_errors_static`).
-/

namespace TextChain

namespace Registry

variable {setup : Setup} {s t : Session} {spec ext : String} {α : Type} {action : Act α}
  {malformed : Prop}

/-- What comes of a request for the pipeline of a chain text, which is malformed or not. -/
inductive Outcome (setup : Setup) (s : Session) (malformed : Prop) (spec : String) :
    Except EngineError α → Session → Prop
  | granted {a : α} {t : Session} (hwell : ¬ malformed) : Outcome setup s malformed spec (.ok a) t
  /-- The request is malformed, and nothing is done. -/
  | rejected {error : EngineError} (hmalformed : malformed)
      (hkind : (∃ reason, error = .config reason) ∨ ∃ fault, error = .chain fault) :
      Outcome setup s malformed spec (.error error) s
  | refused {chain : Chain} {answered : List String} {name : String} {reason : StageError}
      (hwell : ¬ malformed) (hparse : Chain.parse spec = .ok chain)
      (hrefusal : Chain.FirstRefusal setup.resolver setup.settings s.lookups chain.stages answered name
        reason) :
      Outcome setup s malformed spec (.error (.unresolved name reason))
        { s with lookups := s.lookups ++ Chain.lookupsFor setup.settings (answered ++ [name]) }

/-- How a request for the pipeline of a chain text fails. -/
structure FailsStatically (setup : Setup) (s : Session) (action : Act α) (malformed : Prop)
    (spec : String) : Prop where
  /-- It fails with a configuration error if and only if it is malformed. -/
  configuration_iff :
    (∃ error t, perform action s = (.error error, t) ∧ error.isConfiguration = true) ↔ malformed
  /-- Then nothing is done. -/
  unchanged : ∀ error t, perform action s = (.error error, t) → error.isConfiguration = true →
    t = s ∧ ((∃ reason, error = .config reason) ∨ ∃ fault, error = .chain fault)
  /-- Otherwise it fails because of the first stage that the resolver refuses, and the lookups are those of
  the stages up to this one. -/
  refused : ∀ error t, perform action s = (.error error, t) → error.isConfiguration = false →
    ∃ chain answered name reason, Chain.parse spec = .ok chain ∧
      Chain.FirstRefusal setup.resolver setup.settings s.lookups chain.stages answered name reason ∧
      error = .unresolved name reason ∧
      t = { s with lookups := s.lookups ++ Chain.lookupsFor setup.settings (answered ++ [name]) }

lemma isConfiguration_of_kind {error : EngineError}
    (h : (∃ reason, error = .config reason) ∨ ∃ fault, error = .chain fault) :
    error.isConfiguration = true := by
  rcases h with ⟨reason, rfl⟩ | ⟨fault, rfl⟩ <;> rfl

lemma Outcome.failsStatically
    (h : Outcome setup s malformed spec (perform action s).1 (perform action s).2) :
    FailsStatically setup s action malformed spec := by
  rcases hperform : perform action s with ⟨result, t⟩
  rw [hperform] at h
  cases h with
  | granted hwell => exact ⟨by simp [hperform, hwell], by simp [hperform], by simp [hperform]⟩
  | rejected hmalformed hkind =>
    have hconfiguration := isConfiguration_of_kind hkind
    refine ⟨?_, ?_, ?_⟩
    · simp [hperform, hconfiguration, hmalformed]
    · intro error t h _
      rw [hperform] at h
      cases h
      exact ⟨rfl, hkind⟩
    · intro error t h hfalse
      rw [hperform] at h
      cases h
      rw [hconfiguration] at hfalse
      cases hfalse
  | refused hwell hparse hrefusal =>
    refine ⟨?_, ?_, ?_⟩
    · simp [hperform, EngineError.isConfiguration, hwell]
    · intro error t h hconfiguration
      rw [hperform] at h
      cases h
      cases hconfiguration
    · intro error t h _
      rw [hperform] at h
      cases h
      exact ⟨_, _, _, _, hparse, hrefusal, rfl, rfl⟩

/-! ### Requests -/

/-- In a consistent registry a pipeline is refused for a malformed chain text, also if it is looked for
among the pipelines first. -/
lemma outcome_pipelineFor (hs : Consistent setup s) (spec : String) :
    Outcome setup s (∃ fault, Chain.parse spec = .error fault) spec
      (perform (pipelineFor setup (Text.trim spec)) s).1
      (perform (pipelineFor setup (Text.trim spec)) s).2 := by
  have hwell {chain : Chain} (hparse : Chain.parse (Text.trim spec) = .ok chain) :
      ¬ ∃ fault, Chain.parse spec = .error fault := by
    rintro ⟨fault, hfault⟩
    rw [Chain.parse_trim, hfault] at hparse
    cases hparse
  rcases h : perform (pipelineFor setup (Text.trim spec)) s with ⟨result, t⟩
  cases asking_of_pipelineFor h with
  | hit hcached => exact .granted (hwell (hs.made _ _ hcached).parsed)
  | made _ hlink => exact .granted (hwell (Chain.answered_of_link hlink).1)
  | refused _ hlink =>
    cases Chain.refusal_of_link hlink with
    | fault hparse =>
      rw [Chain.parse_trim] at hparse
      exact .rejected ⟨_, hparse⟩ (.inr ⟨_, rfl⟩)
    | stage hparse hrefusal =>
      exact .refused (hwell hparse) ((Chain.parse_trim spec).symm.trans hparse) hrefusal

lemma outcome_add (hs : Consistent setup s) (ext value : String) :
    Outcome setup s
      (Text.trim ext = "" ∨ Text.trim value ≠ Chain.wildcard ∧ ∃ fault, Chain.parse value = .error fault)
      value (perform (add setup ext (some value)) s).1 (perform (add setup ext (some value)) s).2 := by
  by_cases hext : Text.trim ext = ""
  · have hnew : newTarget setup (Text.trim ext) (some value) =
        .error (.config "extension must not be empty") := by simp [newTarget, hext]
    rw [perform_add_of_error hnew]
    exact .rejected (.inl hext) (.inl ⟨_, rfl⟩)
  have hnew : newTarget setup (Text.trim ext) (some value) = .ok (.parse value) := by
    simp [newTarget, hext]
  rw [perform_add_of_ok hnew]
  by_cases hvalue : Text.trim value = Chain.wildcard
  · rw [show Target.parse value = .wildcard by simp [Target.parse, hvalue]]
    exact .granted (by simp [hext, hvalue])
  · rw [show Target.parse value = .chain (Text.trim value) by simp [Target.parse, hvalue],
      perform_establish_chain]
    have houtcome := outcome_pipelineFor hs value
    have hmalformed : (Text.trim ext = "" ∨ Text.trim value ≠ Chain.wildcard ∧
        ∃ fault, Chain.parse value = .error fault) ↔ ∃ fault, Chain.parse value = .error fault := by
      simp [hext, hvalue]
    rw [hmalformed]
    -- Mapping the extension fails exactly as asking for the pipeline does.
    rcases hpipeline : perform (pipelineFor setup (Text.trim value)) s with ⟨error | cached, t⟩ <;>
      rw [hpipeline] at houtcome
    · cases houtcome with
      | rejected hfault hkind => exact .rejected hfault hkind
      | refused hwell hparse hrefusal => exact .refused hwell hparse hrefusal
    · cases houtcome with
      | granted hwell => exact .granted hwell

/-- However a registry was used, adding an extension with a mapping value fails with a configuration error
if and only if the extension is empty, or the value is not the wildcard and has a fault; asking for a
pipeline does so if and only if the chain text has a fault, which the wildcard always has. Then nothing
is looked up and nothing changes. If they fail otherwise, the resolver refused a stage of the chain. -/
theorem configuration_errors_static (setup : Setup) (ops : List Operation) :
    (∀ ext value, FailsStatically setup (Session.initial.after setup ops) (add setup ext (some value))
      (Text.trim ext = "" ∨ Text.trim value ≠ Chain.wildcard ∧ ∃ fault, Chain.parse value = .error fault)
      value) ∧
    (∀ spec, FailsStatically setup (Session.initial.after setup ops) (get setup spec)
      (∃ fault, Chain.parse spec = .error fault) spec) ∧
    ∀ spec, Text.trim spec = Chain.wildcard → ∃ fault, Chain.parse spec = .error fault := by
  have hs := consistent_after_of ops (consistent_initial setup)
  refine ⟨?_, ?_, ?_⟩
  · intro ext value
    exact (outcome_add hs ext value).failsStatically
  · intro spec
    exact (outcome_pipelineFor hs spec).failsStatically
  · intro spec hspec
    exact ⟨_, Chain.parse_of_wildcard hspec⟩

/-- An extension cannot be added with a chain text that has a fault, and there is no pipeline of the
wildcard. The second stage of a chain is not found, and the third one is not looked for. -/
theorem configuration_errors_static_sampleOperations :
    (∃ error, perform (add .standard "md" (some "html >> text"))
        (Session.initial.after .standard sampleOperations) =
          (.error error, Session.initial.after .standard sampleOperations) ∧
        error.isConfiguration = true) ∧
    (∃ error t, perform (get .standard " * ") (Session.initial.after .standard sampleOperations) =
      (.error error, t) ∧ error.isConfiguration = true) ∧
    ∃ answered t, perform (get .standard "html > nope > js")
        (Session.initial.after .standard sampleOperations) =
          (.error (.unresolved "nope" (.unknown "nope")), t) ∧
      answered ++ ["nope"] <+: ["html", "nope", "js"] ∧
      t.lookups = (Session.initial.after .standard sampleOperations).lookups ++
        Chain.lookupsFor .default (answered ++ ["nope"]) := by
  obtain ⟨hadd, hget, hwildcard⟩ := configuration_errors_static .standard sampleOperations
  refine ⟨?_, (hget " * ").configuration_iff.2 (hwildcard " * " (by decide +kernel)), ?_⟩
  · have hfault : Chain.parse "html >> text" = .error (.emptyStage "html >> text" 1) := by
      decide +kernel
    obtain ⟨error, t, hperform, hconfiguration⟩ := (hadd "md" "html >> text").configuration_iff.2
      (.inr ⟨by decide +kernel, _, hfault⟩)
    obtain ⟨rfl, -⟩ := (hadd "md" "html >> text").unchanged error t hperform hconfiguration
    exact ⟨error, hperform, hconfiguration⟩
  · have herror : (perform (get .standard "html > nope > js")
        (Session.initial.after .standard sampleOperations)).1 =
          .error (.unresolved "nope" (.unknown "nope")) :=
      (except_map_eq_error_iff (f := fun _ => ())).1 (by decide +kernel)
    have hchain : Chain.parse "html > nope > js" = .ok ⟨["html", "nope", "js"], none, false⟩ := by
      decide +kernel
    obtain ⟨chain, answered, name, reason, hparse, hrefusal, heq, hsession⟩ :=
      (hget "html > nope > js").refused _ _ (Prod.ext herror rfl) rfl
    rw [hchain] at hparse
    cases hparse
    cases heq
    refine ⟨answered, _, Prod.ext herror rfl, hrefusal.starts, ?_⟩
    rw [hsession]
    rfl

end Registry

end TextChain
