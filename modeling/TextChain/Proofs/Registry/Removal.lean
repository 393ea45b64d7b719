import TextChain.Proofs.Registry.Sharing

/-!
# What removing an extension does

Removing an extension maps it to its built-in chain or leaves it without a mapping, and drops the
pipeline of its former chain text if no other extension is mapped to it. Nothing else changes
(`removed_exactly`). So removing an extension undoes that it was added, except that the pipeline is kept
if and only if another extension is mapped to its chain text.
-/

namespace TextChain

namespace Registry

variable {setup : Setup} {s t : Session} {spec ext e : String} {target : Target}
  {made : Option CachedPipeline} {cached : CachedPipeline} {r : Registry}

/-- The second session is the first one after an extension was removed. -/
structure Removed (ext : String) (s t : Session) : Prop where
  /-- A built-in extension has its built-in chain again, and any other extension is not mapped. -/
  mapping_self : t.registry.mapping.find? ext = (builtInChain? ext).map .chain
  mapping_other : ∀ e, e ≠ ext → t.registry.mapping.find? e = s.registry.mapping.find? e
  pipeline_other : ∀ e spec cached, e ≠ ext → s.registry.mapping.find? e = some (.chain spec) →
    s.registry.pipelines.find? spec = some cached → t.registry.pipelines.find? spec = some cached
  /-- Only the pipeline of the former chain text of the extension may be dropped. -/
  pipeline_kept : ∀ spec, s.registry.mapping.find? ext ≠ some (.chain spec) →
    t.registry.pipelines.find? spec = s.registry.pipelines.find? spec
  pipeline_dropped_iff : ∀ spec cached, s.registry.mapping.find? ext = some (.chain spec) →
    s.registry.pipelines.find? spec = some cached →
    (t.registry.pipelines.find? spec = none ↔
      ∀ e, e ≠ ext → s.registry.mapping.find? e ≠ some (.chain spec))
  lookups_eq : t.lookups = s.lookups
  calls_eq : t.calls = s.calls

lemma removed_remove (ext : String) (s : Session) :
    Removed (Text.trim ext) s { s with registry := s.registry.remove ext } where
  mapping_self := by simp [find?_mapping_remove]
  mapping_other e hne := by
    dsimp only
    rw [find?_mapping_remove, if_neg hne.symm]
  pipeline_other e spec cached hne hmapped hcached := by
    have hlast : ¬ s.registry.LastReference (Text.trim ext) spec := fun hlast => hlast.2 e hne hmapped
    dsimp only
    rw [find?_pipelines_remove_of_not_last hlast, hcached]
  pipeline_kept spec hmapped := by
    have hlast : ¬ s.registry.LastReference (Text.trim ext) spec := fun hlast => hmapped hlast.1
    dsimp only
    rw [find?_pipelines_remove_of_not_last hlast]
  pipeline_dropped_iff spec cached hmapped hcached := by
    dsimp only
    constructor
    · intro hdropped e hne he
      have hlast : ¬ s.registry.LastReference (Text.trim ext) spec := fun hlast => hlast.2 e hne he
      rw [find?_pipelines_remove_of_not_last hlast, hcached] at hdropped
      cases hdropped
    · intro hfree
      exact find?_pipelines_remove_of_last ⟨hmapped, hfree⟩
  lookups_eq := rfl
  calls_eq := rfl

/-! ### Removing what was added -/

lemma newTarget_of_trimmed (setup : Setup) (hne : ext ≠ "") (htrim : Text.trim spec = spec)
    (hchain : spec ≠ Chain.wildcard) : newTarget setup ext (some spec) = .ok (.chain spec) := by
  simp [newTarget, hne, Target.parse, htrim, hchain]

/-- An extension that was added has the pipeline of its chain text. -/
lemma find?_pipelines_add {value : Option String} (h : perform (add setup ext value) s = (.ok made, t))
    (htarget : newTarget setup (Text.trim ext) value = .ok (.chain spec)) :
    ∃ cached, t.registry.pipelines.find? spec = some cached := by
  rw [perform_add_of_ok htarget, perform_establish_chain] at h
  rcases hpipeline : perform (pipelineFor setup spec) s with ⟨error | cached, u⟩ <;>
    rw [hpipeline] at h <;> cases h
  have hcached : u.registry.pipelines.find? spec = some cached := find?_of_pipelineFor hpipeline
  exact ⟨cached, hcached⟩

/-- Removing an extension that was not mapped before it was added brings the mapping back. -/
lemma mapping_remove_of_added (hbuiltIn : builtInChain? (Text.trim ext) = none)
    (hfree : s.registry.target? ext = none)
    (hmapping : t.registry.mapping = s.registry.mapping.insert (Text.trim ext) target) :
    (t.registry.remove ext).mapping = s.registry.mapping := by
  apply Dict.ext_find?
  intro e
  rw [find?_mapping_remove, hmapping, Dict.find?_insert]
  split_ifs with heq
  · rw [← heq, hbuiltIn]
    exact hfree.symm
  · rfl

lemma mem_cachedChains_remove_iff (hmapped : r.mapping.find? (Text.trim ext) = some (.chain spec))
    (hcached : r.pipelines.find? spec = some cached) :
    spec ∈ (r.remove ext).cachedChains ↔
      ∃ e, e ≠ Text.trim ext ∧ r.mapping.find? e = some (.chain spec) := by
  rw [mem_cachedChains_iff]
  by_cases hlast : r.LastReference (Text.trim ext) spec
  · rw [find?_pipelines_remove_of_last hlast]
    simpa using hlast.2
  · rw [find?_pipelines_remove_of_not_last hlast, hcached]
    simpa [LastReference, hmapped] using hlast

/-- Removing an extension resets it to its built-in chain, or unmaps it, and drops the pipeline that no
other extension refers to; it asks for no stage and changes nothing else. If an extension that is not
mapped is added with a chain text and then removed, the mapping is the same as before, and the chain text
has a pipeline if and only if another extension is mapped to it. -/
theorem removed_exactly (setup : Setup) (s : Session) (ext : String) :
    (∃ t, perform (Operation.act setup (.remove ext)) s = (.ok .removed, t) ∧
      Removed (Text.trim ext) s t) ∧
    ∀ spec made t, builtInChain? (Text.trim ext) = none → s.registry.target? ext = none →
      Text.trim spec = spec → spec ≠ Chain.wildcard →
      perform (add setup ext (some spec)) s = (.ok made, t) →
      (t.registry.remove ext).mapping = s.registry.mapping ∧
        (spec ∈ (t.registry.remove ext).cachedChains ↔
          ∃ e, e ≠ Text.trim ext ∧ s.registry.mapping.find? e = some (.chain spec)) := by
  refine ⟨⟨_, perform_act_remove setup ext s, removed_remove ext s⟩, ?_⟩
  intro spec made t hbuiltIn hfree htrim hchain hadd
  obtain ⟨target, htarget, hmapping⟩ := mapping_add_of_ok hadd
  obtain rfl : target = .chain spec := Except.ok.inj
    (htarget.symm.trans (newTarget_of_trimmed setup (ne_empty_of_newTarget htarget) htrim hchain))
  obtain ⟨cached, hcached⟩ := find?_pipelines_add hadd htarget
  have hmapped : t.registry.mapping.find? (Text.trim ext) = some (.chain spec) := by
    rw [hmapping, Dict.find?_insert, if_pos rfl]
  refine ⟨mapping_remove_of_added hbuiltIn hfree hmapping, ?_⟩
  rw [mem_cachedChains_remove_iff hmapped hcached]
  refine exists_congr fun e => and_congr_right fun hne => ?_
  rw [hmapping, Dict.find?_insert, if_neg hne.symm]

/-- Operations that map two extensions to one chain text, the first of them built in. -/
def aliasing : List Operation :=
  [.add "css" (some "html > text"), .add "md" (some "html > text")]

/-- The built-in extension is reset, and the other one keeps the pipeline. An extension with the chain
text of `html` can be added and removed, and the pipeline stays. -/
theorem removed_exactly_aliasing :
    (∃ t, perform (Operation.act .standard (.remove " css "))
        (Session.initial.after .standard aliasing) = (.ok .removed, t) ∧
      t.registry.mapping.find? "css" = some (.chain "css") ∧
      t.registry.mapping.find? "md" = some (.chain "html > text") ∧
      ∃ cached, t.registry.pipelines.find? "html > text" = some cached ∧ cached.serial = 0) ∧
    ∃ made t, perform (add .standard "note" (some "html")) (Session.initial.after .standard aliasing) =
        (.ok made, t) ∧
      (t.registry.remove "note").mapping = (Session.initial.after .standard aliasing).registry.mapping ∧
      "html" ∈ (t.registry.remove "note").cachedChains := by
  constructor
  · obtain ⟨⟨t, hact, hremoved⟩, -⟩ :=
      removed_exactly .standard (Session.initial.after .standard aliasing) " css "
    have hmapped : (Session.initial.after .standard aliasing).registry.mapping.find? "md" =
        some (.chain "html > text") := by decide +kernel
    have hserial : ((Session.initial.after .standard aliasing).registry.pipelines.find?
        "html > text").map CachedPipeline.serial = some 0 := by decide +kernel
    obtain ⟨cached, hcached, hfirst⟩ := Option.map_eq_some_iff.1 hserial
    have htrim : Text.trim " css " = "css" := by decide +kernel
    rw [htrim] at hremoved
    refine ⟨t, hact, hremoved.mapping_self, ?_, cached, ?_, hfirst⟩
    · exact (hremoved.mapping_other "md" (by simp)).trans hmapped
    · exact hremoved.pipeline_other "md" _ cached (by simp) hmapped hcached
  · obtain ⟨-, hadded⟩ := removed_exactly .standard (Session.initial.after .standard aliasing) "note"
    have hok : (perform (add .standard "note" (some "html"))
        (Session.initial.after .standard aliasing)).1.toOption.isSome = true := by decide +kernel
    obtain ⟨made, hadd⟩ := exists_perform_eq_ok hok
    obtain ⟨hmapping, hcached⟩ := hadded "html" made _ (by decide +kernel) (by decide +kernel)
      (by decide +kernel) (by decide) hadd
    exact ⟨made, _, hadd, hmapping, hcached.2 ⟨"html", by decide +kernel, by decide +kernel⟩⟩

end Registry

end TextChain
