import TextChain.Proofs.Registry.Frame
import TextChain.Proofs.Registry.Sharing

/-!
# Pipelines to which no extension refers

As long as no pipeline is asked for by its chain text, every pipeline is made for an extension that is
mapped to its chain text. Removing the last such extension drops the pipeline, but mapping this
extension to another target does not, and then the pipeline is an orphan. There is no other way to make
one (`orphaned_by_add`).
-/

namespace TextChain

open Registry

variable {setup : Setup} {options : Options} {spec spec' ext : String} {target : Target} {op : Operation}
  {s t : Session} {r : Registry} {P : Session → Prop}

namespace Registry

/-- If a chain text has a pipeline, some extension is mapped to it. -/
def Backed (r : Registry) (spec : String) : Prop :=
  spec ∈ r.cachedChains → ∃ ext, r.mapping.find? ext = some (.chain spec)

/-- A chain text has a pipeline, but no extension is mapped to it. -/
structure Orphaned (r : Registry) (spec : String) : Prop where
  cached : spec ∈ r.cachedChains
  unreferenced : ∀ ext, r.mapping.find? ext ≠ some (.chain spec)

lemma backed_or_orphaned (r : Registry) (spec : String) : r.Backed spec ∨ r.Orphaned spec := by
  by_cases h : ∃ ext, r.mapping.find? ext = some (.chain spec)
  · exact .inl fun _ => h
  · by_cases hcached : spec ∈ r.cachedChains
    · exact .inr ⟨hcached, not_exists.1 h⟩
    · exact .inl fun hmem => absurd hmem hcached

/-- An extension that is not the only one with a chain text leaves another one. -/
lemma exists_other_reference (hmapped : ∃ e, r.mapping.find? e = some (.chain spec))
    (hlast : ¬ r.LastReference ext spec) : ∃ e, e ≠ ext ∧ r.mapping.find? e = some (.chain spec) := by
  by_contra hother
  push Not at hother
  obtain ⟨e, he⟩ := hmapped
  have heq : e = ext := by
    by_contra hne
    exact hother e hne he
  exact hlast ⟨heq ▸ he, hother⟩

/-- Such an extension can be mapped to another target, and the chain text is still referred to. -/
lemma exists_reference_assign (hmapped : ∃ e, r.mapping.find? e = some (.chain spec))
    (hlast : ¬ r.LastReference ext spec) (target : Target) :
    ∃ e, (r.assign ext target).mapping.find? e = some (.chain spec) := by
  obtain ⟨e, hne, he⟩ := exists_other_reference hmapped hlast
  refine ⟨e, ?_⟩
  rwa [assign, Dict.find?_insert, if_neg hne.symm]

/-! ### Mapping extensions -/

lemma mem_cachedChains_of_pipelineFor
    (h : spec ∈ (perform (pipelineFor setup spec') s).2.registry.cachedChains) :
    spec ∈ s.registry.cachedChains ∨ spec' = spec := by
  rcases hpipeline : perform (pipelineFor setup spec') s with ⟨result, t⟩
  rw [hpipeline] at h
  cases asking_of_pipelineFor hpipeline with
  | hit _ => exact .inl h
  | refused _ _ => exact .inl h
  | made _ _ =>
    rw [mem_cachedChains_iff, keep, Dict.find?_insert] at h
    split_ifs at h with heq
    · exact .inr heq
    · exact .inl (mem_cachedChains_iff.2 h)

/-- Mapping an extension to a target can leave a pipeline behind only if no other extension was mapped
to its chain text. -/
lemma backed_or_last_establish (setup : Setup) (ext : String) (target : Target)
    (hs : s.registry.Backed spec) :
    (perform (establish setup ext target) s).2.registry.Backed spec ∨
      s.registry.LastReference ext spec := by
  by_cases hlast : s.registry.LastReference ext spec
  · exact .inr hlast
  refine .inl ?_
  cases target with
  | wildcard => exact fun hcached => exists_reference_assign (hs hcached) hlast .wildcard
  | chain spec' =>
    have hmem : spec ∈ (perform (pipelineFor setup spec') s).2.registry.cachedChains →
        spec ∈ s.registry.cachedChains ∨ spec' = spec :=
      mem_cachedChains_of_pipelineFor
    have hmapping : (perform (pipelineFor setup spec') s).2.registry.mapping = s.registry.mapping :=
      mapping_pipelineFor s
    rw [perform_establish_chain]
    rcases hpipeline : perform (pipelineFor setup spec') s with ⟨e | cached, t⟩
    · have hregistry := registry_pipelineFor_of_error (congrArg Prod.fst hpipeline)
      rw [hpipeline] at hregistry
      rw [hregistry]
      exact hs
    · rw [hpipeline] at hmem hmapping
      dsimp only [assign] at hmapping ⊢
      intro hcached
      -- A pipeline that was there keeps another extension; the one just made has this extension.
      rcases hmem hcached with hbefore | rfl
      · rw [hmapping]
        exact exists_reference_assign (hs hbefore) hlast (.chain spec')
      · exact ⟨ext, by simp [Dict.find?_insert]⟩

lemma backed_ensure (setup : Setup) (ext : String) (hs : s.registry.Backed spec) :
    (perform (ensure setup ext) s).2.registry.Backed spec := by
  -- An extension that is not mapped is not the last one with any chain text.
  have hfreed (target : Target) (hfree : s.registry.mapping.find? ext = none) :
      (perform (establish setup ext target) s).2.registry.Backed spec := by
    refine (backed_or_last_establish setup ext target hs).resolve_right ?_
    rintro ⟨hmapped, -⟩
    rw [hfree] at hmapped
    cases hmapped
  rcases h : perform (ensure setup ext) s with ⟨result, t⟩
  cases settling_of_ensure h with
  | mapped _ => exact hs
  | unknown _ _ => exact hs
  | @refused target _ _ hfree _ _ _ hmade =>
    have hbacked := hfreed target hfree
    rwa [hmade] at hbacked
  | @adopted target _ _ hfree _ _ _ _ hmade =>
    have hbacked := hfreed target hfree
    rwa [hmade] at hbacked

lemma backed_remove (hr : r.Backed spec) : (r.remove ext).Backed spec := by
  intro hcached
  obtain ⟨cached, hfind⟩ := Option.isSome_iff_exists.1 (mem_cachedChains_iff.1 hcached)
  have hlast : ¬ r.LastReference (Text.trim ext) spec := by
    intro hlast
    rw [find?_pipelines_remove_of_last hlast] at hfind
    cases hfind
  have hbefore : spec ∈ r.cachedChains := by
    rw [mem_cachedChains_iff, find?_of_pipelines_remove ext hfind]
    rfl
  obtain ⟨e, hne, he⟩ := exists_other_reference (hr hbefore) hlast
  refine ⟨e, ?_⟩
  rwa [find?_mapping_remove, if_neg hne.symm]

/-! ### Compiling -/

lemma trim_of_builtInChain? (h : builtInChain? ext = some spec) : Text.trim spec = spec := by
  have htrim : ∀ entry ∈ builtInChains, Text.trim entry.2 = entry.2 := by decide +kernel
  have hmem : (ext, spec) ∈ builtInChains := Entries.mem_of_find? h
  exact htrim (ext, spec) hmem

lemma Consistent.trim_of_mapped (hs : Consistent setup s)
    (h : s.registry.mapping.find? ext = some (.chain spec)) : Text.trim spec = spec := by
  rcases hs.ready ext spec h with hready | hbuiltIn
  · obtain ⟨cached, hcached⟩ := Option.isSome_iff_exists.1 hready
    exact (hs.made spec cached hcached).trimmed
  · exact trim_of_builtInChain? hbuiltIn

lemma backed_execute (htrim : Text.trim spec' = spec')
    (hmapped : s.registry.mapping.find? ext = some (.chain spec')) (hs : s.registry.Backed spec)
    (text : String) (options : Options) :
    (perform (execute setup spec' text options) s).2.registry.Backed spec := by
  intro hcached
  have hpipelines := (passes_execute setup spec' text options s).2.pipelines
  rw [Moment.after, htrim] at hpipelines
  rw [mem_cachedChains_iff, hpipelines, ← mem_cachedChains_iff] at hcached
  rw [mapping_execute]
  rcases mem_cachedChains_of_pipelineFor hcached with hbefore | rfl
  · exact hs hbefore
  · exact ⟨ext, hmapped⟩

/-- Actions that keep a property of sessions; whatever they are compared with. -/
def preserving (P : Session → Prop) : Correspondence Act Act where
  rel action _ := ∀ s, P s → P (perform action s).2
  rel_pure _ _ hs := hs
  rel_bind {_ _ action _ next _} haction hnext s hs := by
    have h := haction s hs
    rcases hperform : perform action s with ⟨e | a, t⟩
    · rw [perform_bind_of_error hperform]
      rwa [hperform] at h
    · rw [perform_bind_of_ok hperform]
      rw [hperform] at h
      exact hnext a t h

/-- Compiling a text makes no orphan. -/
theorem backed_compileWithin (setup : Setup) (options : Options) (spec : String) (depth : Nat)
    (ext text : String) :
    (preserving fun s => Consistent setup s ∧ s.registry.Backed spec).rel
      (compileWithin setup options depth ext text) (compileWithin setup options depth ext text) := by
  -- Consistency is carried along: `execute` trims the chain text, and only a consistent session says
  -- that the text to which the extension is mapped is trimmed already.
  induction depth using Nat.strong_induction_on generalizing ext text with
  | _ depth ih =>
    intro s ⟨hconsistent, hs⟩
    have hensured : Grows setup s _ := grows_ensure (Text.trim ext) s
    have hbacked := backed_ensure setup (Text.trim ext) hs
    rw [compileWithin.eq_def]
    rcases htarget : perform (ensure setup (Text.trim ext)) s with ⟨e | target, t⟩ <;>
      rw [htarget] at hensured hbacked <;> replace hconsistent := hensured.consistent hconsistent
    · rw [perform_bind_of_error htarget]
      exact ⟨hconsistent, hbacked⟩
    · rw [perform_bind_of_ok htarget]
      have hmapped := find?_mapping_of_ensure htarget
      cases target with
      | chain spec' =>
        exact ⟨(grows_execute spec' text options t).consistent hconsistent,
          backed_execute (hconsistent.trim_of_mapped hmapped) hmapped hbacked text options⟩
      | wildcard =>
        cases depth with
        | zero => exact ⟨hconsistent, hbacked⟩
        | succ depth =>
          dsimp only
          rw [perform_bind_pure]
          refine compileDocument_related _ options (ih depth (Nat.lt_succ_self depth)) ?_
            (fun _ _ hs => hs) text t ⟨hconsistent, hbacked⟩
          intro result s hs
          rwa [Act.perform_rendering]

/-! ### Runs -/

/-- An operation other than asking for a pipeline can only make an orphan by mapping the last extension
of a chain text to another target. -/
theorem backed_or_last_act (hget : ∀ text, op ≠ .get text) (hconsistent : Consistent setup s)
    (hs : s.registry.Backed spec) :
    (perform (op.act setup) s).2.registry.Backed spec ∨
      ∃ ext value, op = .add ext value ∧ s.registry.LastReference (Text.trim ext) spec := by
  cases op with
  | add ext value =>
    rw [Operation.act, perform_bind_pure]
    cases htarget : newTarget setup (Text.trim ext) value with
    | error e =>
      rw [perform_add_of_error htarget]
      exact .inl hs
    | ok target =>
      rw [perform_add_of_ok htarget]
      exact (backed_or_last_establish setup _ target hs).imp_right fun hlast => ⟨ext, value, rfl, hlast⟩
  | remove ext =>
    rw [perform_act_remove]
    dsimp only
    exact .inl (backed_remove hs)
  | has ext => exact .inl hs
  | mappingFor ext => exact .inl hs
  | extensions => exact .inl hs
  | get text => exact absurd rfl (hget text)
  | compile ext text options =>
    rw [Operation.act, perform_bind_pure]
    exact .inl (backed_compileWithin setup options spec setup.nesting ext text s ⟨hconsistent, hs⟩).2

lemma backed_or_last_after (ops : List Operation) (hget : ∀ text, .get text ∉ ops)
    (hconsistent : Consistent setup s) (hs : s.registry.Backed spec) :
    (s.after setup ops).registry.Backed spec ∨
      ∃ (before : List Operation) (ext : String) (value : Option String) (after : List Operation),
        ops = before ++ Operation.add ext value :: after ∧
        (s.after setup before).registry.LastReference (Text.trim ext) spec ∧
        (s.after setup (before ++ [.add ext value])).registry.Orphaned spec := by
  induction ops generalizing s with
  | nil => exact .inl hs
  | cons op ops ih =>
    have hop : ∀ text, op ≠ .get text := fun text heq => hget text (heq ▸ List.mem_cons_self)
    rw [Session.after_cons]
    -- The orphan is found at the operation that makes it, although later ones may end it again.
    rcases backed_or_orphaned (perform (op.act setup) s).2.registry spec with hbacked | horphaned
    · refine (ih (fun text hmem => hget text (List.mem_cons_of_mem _ hmem))
        ((change_act op s).consistent hconsistent) hbacked).imp_right ?_
      rintro ⟨before, ext, value, after, rfl, hlast, horphaned⟩
      exact ⟨op :: before, ext, value, after, rfl, hlast, horphaned⟩
    · rcases backed_or_last_act hop hconsistent hs with hbacked | ⟨ext, value, rfl, hlast⟩
      · obtain ⟨e, he⟩ := hbacked horphaned.cached
        exact absurd he (horphaned.unreferenced e)
      · refine .inr ⟨[], ext, value, ops, rfl, hlast, ?_⟩
        rw [List.nil_append, Session.after_singleton]
        exact horphaned

/-- As long as no pipeline is asked for by its chain text, every pipeline is that of an extension, unless
the last extension with its chain text was mapped to another target by `add`, which left the pipeline
behind. -/
theorem orphaned_by_add (setup : Setup) (ops : List Operation) (hget : ∀ text, .get text ∉ ops)
    (spec : String) (hcached : spec ∈ (Session.initial.after setup ops).registry.cachedChains) :
    (∃ ext, (Session.initial.after setup ops).registry.mapping.find? ext = some (.chain spec)) ∨
      ∃ (before : List Operation) (ext : String) (value : Option String) (after : List Operation),
        ops = before ++ Operation.add ext value :: after ∧
        (Session.initial.after setup before).registry.LastReference (Text.trim ext) spec ∧
        (Session.initial.after setup (before ++ [.add ext value])).registry.Orphaned spec := by
  have hinitial : Session.initial.registry.Backed spec := by
    intro hmem
    cases hmem
  exact (backed_or_last_after ops hget (consistent_initial setup) hinitial).imp_left
    fun hbacked => hbacked hcached

/-- Operations that map an extension to a chain and then to another one. -/
def remapping : List Operation :=
  [.add "md" (some "html > text"), .add "md" (some "text")]

lemma orphaned_remapping :
    (Session.initial.after .standard remapping).registry.Orphaned "html > text" where
  cached := by decide +kernel
  unreferenced := by
    have hfree : (Session.initial.after .standard remapping).registry.refersTo "html > text" = false := by
      decide +kernel
    intro ext h
    rw [refersTo_iff.2 ⟨ext, h⟩] at hfree
    cases hfree

/-- The pipeline of the first chain is left behind when the extension is mapped to the second one. -/
theorem orphaned_by_add_remapping :
    "html > text" ∈ (Session.initial.after .standard remapping).registry.cachedChains ∧
    ∃ (before : List Operation) (ext : String) (value : Option String) (after : List Operation),
      remapping = before ++ Operation.add ext value :: after ∧
      (Session.initial.after .standard before).registry.LastReference (Text.trim ext) "html > text" ∧
      (Session.initial.after .standard (before ++ [.add ext value])).registry.Orphaned "html > text" := by
  have hcached := orphaned_remapping.cached
  refine ⟨hcached, ?_⟩
  refine (orphaned_by_add .standard remapping (by simp [remapping]) "html > text" hcached).resolve_left ?_
  rintro ⟨ext, h⟩
  exact orphaned_remapping.unreferenced ext h

/-- So adding, removing and compiling may leave a pipeline without an extension. -/
theorem not_all_backed :
    ¬ ∀ (setup : Setup) (ops : List Operation),
      (∀ op ∈ ops, (∃ ext value, op = .add ext value) ∨ (∃ ext, op = .remove ext) ∨
        ∃ ext text options, op = .compile ext text options) →
      ∀ spec ∈ (Session.initial.after setup ops).registry.cachedChains,
        ∃ ext, (Session.initial.after setup ops).registry.mapping.find? ext = some (.chain spec) := by
  intro h
  obtain ⟨ext, hmapped⟩ := h .standard remapping (by simp [remapping]) _ orphaned_remapping.cached
  exact orphaned_remapping.unreferenced ext hmapped

end Registry

end TextChain
