import TextChain.Proofs.Perform
import TextChain.Resolver

/-!
# Linking chains

Linking a chain text asks the resolver for the stages of the chain in their order. If it succeeds, the
stages are the answers, position by position (`answered_of_link`). If it fails, the chain text has a fault
or the resolver refused a stage, and no later stage was asked for (`refusal_of_link`). So the lookups that
it makes are those of its first stages (`lookups_of_link`); they are added to those made before
(`prefix_link`). The result for a resolver whose answers depend on the name alone does not depend on the
lookups made before (`link_congr`).
-/

namespace TextChain

/-- The answers of a resolver do not depend on the lookups that came before. -/
def Resolver.Stateless (resolver : Resolver) : Prop :=
  ∀ before before' lookup, resolver.answer before lookup = resolver.answer before' lookup

namespace Chain

variable {resolver : Resolver} {settings : ResolverSettings} {before after : List Lookup}
  {name spec : String} {names : List String} {stages : List Stage} {linked : LinkedChain}

/-- The lookups of names, one after the other. -/
def lookupsFor (settings : ResolverSettings) (names : List String) : List Lookup :=
  names.map fun name => ⟨name, settings⟩

/-- After the lookups `before`, a resolver that is asked for names one after the other answers with
these stages. -/
inductive Answers (resolver : Resolver) (settings : ResolverSettings) :
    List Lookup → List String → List Stage → Prop
  | nil {before : List Lookup} : Answers resolver settings before [] []
  | cons {before : List Lookup} {name : String} {names : List String} {stage : Stage}
      {stages : List Stage} (hanswer : resolver.answer before ⟨name, settings⟩ = .ok stage)
      (hrest : Answers resolver settings (before ++ [⟨name, settings⟩]) names stages) :
      Answers resolver settings before (name :: names) (stage :: stages)

/-- The stages of a linked chain are the answers to the names of its chain. -/
structure Answered (resolver : Resolver) (settings : ResolverSettings) (before : List Lookup)
    (linked : LinkedChain) : Prop where
  pre : Answers resolver settings before linked.chain.pre linked.pre
  post : Answers resolver settings (before ++ lookupsFor settings linked.chain.pre)
    linked.chain.post.toList linked.post.toList

/-- Every stage that was answered is the answer to some lookup. -/
lemma Answers.exists_answer (h : Answers resolver settings before names stages) {stage : Stage}
    (hmem : stage ∈ stages) :
    ∃ before' name, name ∈ names ∧ resolver.answer before' ⟨name, settings⟩ = .ok stage := by
  induction h with
  | nil => cases hmem
  | @cons before name names stage' stages hanswer _ ih =>
    rcases List.mem_cons.1 hmem with rfl | hmem
    · exact ⟨before, name, List.mem_cons_self, hanswer⟩
    · obtain ⟨before', name', hname, hstage⟩ := ih hmem
      exact ⟨before', name', List.mem_cons_of_mem _ hname, hstage⟩

/-! ### Asking for stages -/

lemma perform_resolveStage (name : String) (before : List Lookup) :
    perform (resolveStage resolver settings name) before =
      ((resolver.answer before ⟨name, settings⟩).mapError (.resolution name),
        before ++ [⟨name, settings⟩]) := by
  rw [resolveStage, perform_bind_of_ok (perform_get before)]
  refine (perform_bind_of_ok (perform_set before _) _).trans ?_
  cases resolver.answer before ⟨name, settings⟩ <;> rfl

lemma answer_of_resolveStage {stage : Stage}
    (h : perform (resolveStage resolver settings name) before = (.ok stage, after)) :
    resolver.answer before ⟨name, settings⟩ = .ok stage ∧ after = before ++ [⟨name, settings⟩] := by
  rw [perform_resolveStage] at h
  obtain ⟨hresult, rfl⟩ := Prod.mk.inj h
  cases hanswer : resolver.answer before ⟨name, settings⟩ with
  | error e =>
    rw [hanswer] at hresult
    cases hresult
  | ok stage' =>
    rw [hanswer] at hresult
    exact ⟨congrArg _ (Except.ok.inj hresult), rfl⟩

lemma answers_of_resolveAll
    (h : perform (resolveAll resolver settings names) before = (.ok stages, after)) :
    Answers resolver settings before names stages ∧ after = before ++ lookupsFor settings names := by
  induction names generalizing before stages with
  | nil =>
    cases h
    exact ⟨.nil, (List.append_nil _).symm⟩
  | cons name names ih =>
    obtain ⟨stage, _, hstage, h⟩ := exists_of_perform_bind_ok h
    obtain ⟨stages', _, hstages, h⟩ := exists_of_perform_bind_ok h
    cases h
    obtain ⟨hanswer, rfl⟩ := answer_of_resolveStage hstage
    obtain ⟨hrest, rfl⟩ := ih hstages
    exact ⟨.cons hanswer hrest, by simp [lookupsFor]⟩

lemma answers_of_resolvePost {post : Option String} {stage : Option Stage}
    (h : perform (resolvePost resolver settings post) before = (.ok stage, after)) :
    Answers resolver settings before post.toList stage.toList ∧
      after = before ++ lookupsFor settings post.toList := by
  cases post with
  | none =>
    cases h
    exact ⟨.nil, (List.append_nil _).symm⟩
  | some name =>
    obtain ⟨stage', _, hstage, h⟩ := exists_of_perform_bind_ok h
    cases h
    obtain ⟨hanswer, rfl⟩ := answer_of_resolveStage hstage
    exact ⟨.cons hanswer .nil, rfl⟩

/-- A chain text that is linked has no fault, and its stages are the answers of the resolver. -/
theorem answered_of_link
    (h : perform (link resolver settings spec) before = (.ok linked, after)) :
    parse spec = .ok linked.chain ∧ Answered resolver settings before linked ∧
      after = before ++ lookupsFor settings linked.chain.stages := by
  unfold link at h
  cases hparse : parse spec with
  | error fault =>
    rw [validate, hparse] at h
    cases h
  | ok chain =>
    rw [validate, hparse] at h
    obtain ⟨pre, _, hall, h⟩ := exists_of_perform_bind_ok h
    obtain ⟨post, _, hlast, h⟩ := exists_of_perform_bind_ok h
    cases h
    obtain ⟨hpre, rfl⟩ := answers_of_resolveAll hall
    obtain ⟨hpost, rfl⟩ := answers_of_resolvePost hlast
    exact ⟨rfl, ⟨hpre, hpost⟩, by simp [Chain.stages, lookupsFor]⟩

/-! ### Stages that are refused -/

/-- Of names that are asked for one after the other, the resolver refuses this one after it answered those
in front of it. -/
structure FirstRefusal (resolver : Resolver) (settings : ResolverSettings) (before : List Lookup)
    (names answered : List String) (name : String) (reason : StageError) : Prop where
  starts : answered ++ [name] <+: names
  answers : ∃ stages, Answers resolver settings before answered stages
  refused : resolver.answer (before ++ lookupsFor settings answered) ⟨name, settings⟩ = .error reason

variable {answered : List String} {reason : StageError} {error : LinkError}

lemma FirstRefusal.cons {first : String} {stage : Stage}
    (hanswer : resolver.answer before ⟨first, settings⟩ = .ok stage)
    (h : FirstRefusal resolver settings (before ++ [⟨first, settings⟩]) names answered name reason) :
    FirstRefusal resolver settings before (first :: names) (first :: answered) name reason where
  starts := List.cons_prefix_cons.2 ⟨rfl, h.starts⟩
  answers := by
    obtain ⟨stages, hstages⟩ := h.answers
    exact ⟨stage :: stages, .cons hanswer hstages⟩
  refused := by simpa [lookupsFor] using h.refused

lemma refused_of_resolveStage
    (h : perform (resolveStage resolver settings name) before = (.error error, after)) :
    ∃ reason, resolver.answer before ⟨name, settings⟩ = .error reason ∧
      error = .resolution name reason ∧ after = before ++ [⟨name, settings⟩] := by
  rw [perform_resolveStage] at h
  obtain ⟨hresult, rfl⟩ := Prod.mk.inj h
  cases hanswer : resolver.answer before ⟨name, settings⟩ with
  | ok stage =>
    rw [hanswer] at hresult
    cases hresult
  | error reason =>
    rw [hanswer] at hresult
    exact ⟨reason, rfl, (Except.error.inj hresult).symm, rfl⟩

lemma firstRefusal_of_resolveAll
    (h : perform (resolveAll resolver settings names) before = (.error error, after)) :
    ∃ answered name reason, FirstRefusal resolver settings before names answered name reason ∧
      error = .resolution name reason ∧ after = before ++ lookupsFor settings (answered ++ [name]) := by
  induction names generalizing before with
  | nil => cases h
  | cons name names ih =>
    rcases hstage : perform (resolveStage resolver settings name) before with ⟨e | stage, between⟩
    · rw [resolveAll, perform_bind_of_error hstage] at h
      cases h
      obtain ⟨reason, hrefused, rfl, rfl⟩ := refused_of_resolveStage hstage
      refine ⟨[], name, reason, ⟨List.prefix_append [name] names, ⟨[], .nil⟩, ?_⟩, rfl, rfl⟩
      rwa [lookupsFor, List.map_nil, List.append_nil]
    · obtain ⟨hanswer, rfl⟩ := answer_of_resolveStage hstage
      rw [resolveAll, perform_bind_of_ok hstage] at h
      obtain ⟨answered, refused, reason, hrefusal, rfl, rfl⟩ := ih (perform_eq_error_of_bind_pure h)
      exact ⟨name :: answered, refused, reason, hrefusal.cons hanswer, rfl, by simp [lookupsFor]⟩

/-- Why a chain text is not linked, and the lookups made by then. -/
inductive LinkRefusal (resolver : Resolver) (settings : ResolverSettings) (spec : String)
    (before : List Lookup) : LinkError → List Lookup → Prop
  /-- The chain text has a fault, and no stage is asked for. -/
  | fault {fault : ChainError} (hparse : parse spec = .error fault) :
      LinkRefusal resolver settings spec before (.chain fault) before
  /-- A stage is refused, and no later one is asked for. -/
  | stage {chain : Chain} {answered : List String} {name : String} {reason : StageError}
      (hparse : parse spec = .ok chain)
      (hrefusal : FirstRefusal resolver settings before chain.stages answered name reason) :
      LinkRefusal resolver settings spec before (.resolution name reason)
        (before ++ lookupsFor settings (answered ++ [name]))

/-- A chain text that is not linked has a fault, or the resolver refused one of its stages. -/
theorem refusal_of_link (h : perform (link resolver settings spec) before = (.error error, after)) :
    LinkRefusal resolver settings spec before error after := by
  unfold link at h
  cases hparse : parse spec with
  | error fault =>
    rw [validate, hparse] at h
    cases h
    exact .fault hparse
  | ok chain =>
    rw [validate, hparse] at h
    dsimp only [Except.mapError] at h
    rcases hpre : perform (resolveAll resolver settings chain.pre) before with ⟨e | pre, between⟩
    · rw [perform_bind_of_error hpre] at h
      cases h
      obtain ⟨answered, name, reason, hrefusal, rfl, rfl⟩ := firstRefusal_of_resolveAll hpre
      exact .stage hparse ⟨hrefusal.starts.trans (List.prefix_append _ _), hrefusal.answers,
        hrefusal.refused⟩
    · obtain ⟨hanswers, rfl⟩ := answers_of_resolveAll hpre
      rw [perform_bind_of_ok hpre] at h
      have hpost := perform_eq_error_of_bind_pure h
      -- Only a stage after the boundary can be refused now.
      cases hlast : chain.post with
      | none =>
        rw [hlast] at hpost
        cases hpost
      | some name =>
        rw [hlast, resolvePost] at hpost
        obtain ⟨reason, hrefused, rfl, rfl⟩ :=
          refused_of_resolveStage (perform_eq_error_of_bind_pure hpost)
        have hrefusal : FirstRefusal resolver settings before chain.stages chain.pre name reason :=
          ⟨by simp [stages, hlast], ⟨pre, hanswers⟩, hrefused⟩
        have hlookups : before ++ lookupsFor settings chain.pre ++ [⟨name, settings⟩] =
            before ++ lookupsFor settings (chain.pre ++ [name]) := by simp [lookupsFor]
        rw [hlookups]
        exact .stage hparse hrefusal

/-! ### The lookups of a chain text -/

/-- The names of the stages of a chain text; a chain text with a fault has none. -/
def namesIn (spec : String) : List String :=
  match parse spec with
  | .ok chain => chain.stages
  | .error _ => []

/-- Linking a chain text asks for its stages in their order, possibly not for all of them, and for
nothing else. -/
theorem lookups_of_link (resolver : Resolver) (settings : ResolverSettings) (spec : String)
    (before : List Lookup) :
    ∃ asked, asked <+: namesIn spec ∧
      (perform (link resolver settings spec) before).2 = before ++ lookupsFor settings asked := by
  rcases h : perform (link resolver settings spec) before with ⟨error | linked, after⟩
  · cases refusal_of_link h with
    | fault _ => exact ⟨[], List.nil_prefix, (List.append_nil _).symm⟩
    | stage hparse hrefusal =>
      refine ⟨_, ?_, rfl⟩
      rw [namesIn, hparse]
      exact hrefusal.starts
  · obtain ⟨hparse, -, rfl⟩ := answered_of_link h
    refine ⟨linked.chain.stages, ?_, rfl⟩
    rw [namesIn, hparse]

/-! ### What linking is made of -/

/-- A property of computations that asking for stages and putting computations together keep. -/
structure Kept (resolver : Resolver) (settings : ResolverSettings)
    (P : {α : Type} → Linking α → Prop) : Prop where
  pure : ∀ {α : Type} (a : α), P (pure a)
  throw : ∀ {α : Type} (e : LinkError), P (throw e : Linking α)
  bind : ∀ {α β : Type} {x : Linking α} {f : α → Linking β}, P x → (∀ a, P (f a)) → P (x >>= f)
  stage : ∀ name, P (resolveStage resolver settings name)

variable {P : {α : Type} → Linking α → Prop}

lemma Kept.resolveAll (h : Kept resolver settings P) (names : List String) :
    P (resolveAll resolver settings names) := by
  induction names with
  | nil => exact h.pure []
  | cons name names ih => exact h.bind (h.stage name) fun _ => h.bind ih fun _ => h.pure _

lemma Kept.link (h : Kept resolver settings P) (spec : String) :
    P (link resolver settings spec) := by
  unfold Chain.link
  cases validate spec with
  | error e => exact h.throw e
  | ok chain =>
    refine h.bind (h.resolveAll chain.pre) fun pre => h.bind ?_ fun post => h.pure _
    cases chain.post with
    | none => exact h.pure none
    | some name => exact h.bind (h.stage name) fun _ => h.pure _

/-- Linking only adds lookups. -/
theorem prefix_link (resolver : Resolver) (settings : ResolverSettings) (spec : String)
    (before : List Lookup) : before <+: (perform (link resolver settings spec) before).2 := by
  have h : Kept resolver settings fun x => ∀ before, before <+: (perform x before).2 :=
    { pure := fun _ before => List.prefix_rfl
      throw := fun _ before => List.prefix_rfl
      bind := fun {_ _ x f} hx hf before => by
        have hbefore := hx before
        rcases hperform : perform x before with ⟨e | a, between⟩
        · rw [perform_bind_of_error hperform]
          rwa [hperform] at hbefore
        · rw [perform_bind_of_ok hperform]
          rw [hperform] at hbefore
          exact hbefore.trans (hf a between)
      stage := fun name before => by
        rw [perform_resolveStage]
        exact List.prefix_append _ _ }
  exact h.link spec before

/-- If the answers depend on the name alone, so does what linking gives. -/
theorem link_congr (hresolver : resolver.Stateless) (spec : String) (before before' : List Lookup) :
    (perform (link resolver settings spec) before).1 =
      (perform (link resolver settings spec) before').1 := by
  have h : Kept resolver settings fun x => ∀ before before',
      (perform x before).1 = (perform x before').1 :=
    { pure := fun _ _ _ => rfl
      throw := fun _ _ _ => rfl
      bind := fun {_ _ x f} hx hf before before' => by
        have heq := hx before before'
        rcases hperform : perform x before with ⟨e | a, between⟩ <;>
          rcases hperform' : perform x before' with ⟨e' | a', between'⟩ <;>
          rw [hperform, hperform'] at heq <;> cases heq
        · rw [perform_bind_of_error hperform, perform_bind_of_error hperform']
        · rw [perform_bind_of_ok hperform, perform_bind_of_ok hperform']
          exact hf a between between'
      stage := fun name before before' => by
        rw [perform_resolveStage, perform_resolveStage, hresolver before before'] }
  exact h.link spec before before'

end Chain

end TextChain
