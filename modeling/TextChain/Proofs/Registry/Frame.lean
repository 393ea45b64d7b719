import TextChain.Proofs.Markerless
import TextChain.Proofs.Registry.Operations
import TextChain.Proofs.Registry.Within

/-!
# What a registry keeps when an operation fails

Adding an extension and asking for a pipeline leave the registry as it is if they fail. Compiling a text
leaves in any case what is there: it only maps extensions that were not mapped, each to its conventional
target, namely the extension itself and those of marker lines whose blocks it compiles
(`failed_or_extended`).
-/

namespace TextChain

open Registry Document

variable {setup : Setup} {options : Options} {s t : Session} {spec ext e : String} {target : Target}
  {task inner : Task}

namespace Registry

/-! ### Failing -/

lemma registry_pipelineFor_of_error {error : EngineError}
    (h : (perform (pipelineFor setup spec) s).1 = .error error) :
    (perform (pipelineFor setup spec) s).2.registry = s.registry := by
  rcases hpipeline : perform (pipelineFor setup spec) s with ⟨result, t⟩
  rw [hpipeline] at h
  cases h
  cases asking_of_pipelineFor hpipeline with
  | refused _ _ => rfl

lemma registry_establish_of_error {error : EngineError}
    (h : (perform (establish setup ext target) s).1 = .error error) :
    (perform (establish setup ext target) s).2.registry = s.registry := by
  cases target with
  | wildcard => cases h
  | chain spec =>
    rw [perform_establish_chain] at h ⊢
    rcases hpipeline : perform (pipelineFor setup spec) s with ⟨reason | cached, t⟩
    · have hregistry := registry_pipelineFor_of_error (congrArg Prod.fst hpipeline)
      rwa [hpipeline] at hregistry
    · rw [hpipeline] at h
      cases h

lemma registry_add_of_error {value : Option String} {error : EngineError}
    (h : (perform (add setup ext value) s).1 = .error error) :
    (perform (add setup ext value) s).2.registry = s.registry := by
  cases htarget : newTarget setup (Text.trim ext) value with
  | error reason => rw [perform_add_of_error htarget]
  | ok target =>
    rw [perform_add_of_ok htarget] at h ⊢
    exact registry_establish_of_error h

/-! ### Mapping by the way -/

lemma mapping_execute (spec text : String) (options : Options) (s : Session) :
    (perform (execute setup spec text options) s).2.registry.mapping = s.registry.mapping := by
  have hmapping : (perform (get setup spec) s).2.registry.mapping = s.registry.mapping :=
    mapping_pipelineFor s
  rcases hget : perform (get setup spec) s with ⟨error | cached, t⟩ <;> rw [hget] at hmapping
  · rwa [execute, perform_bind_of_error hget]
  · rwa [execute, perform_bind_of_ok hget, Act.perform_running]

lemma find?_mapping_ensure_of_ne (hne : ext ≠ e) (s : Session) :
    (perform (ensure setup ext) s).2.registry.mapping.find? e = s.registry.mapping.find? e := by
  rcases h : perform (ensure setup ext) s with ⟨result, t⟩
  cases settling_of_ensure h with
  | mapped _ => rfl
  | unknown _ _ => rfl
  | refused _ _ _ hmapping _ => rw [← hmapping]
  | adopted _ _ _ hmapping _ _ => simp [assign, Dict.find?_insert, hne, ← hmapping]

end Registry

/-- The extension is that of a marker line of a document whose block is compiled in the course of the
task. -/
def Task.Meets (setup : Setup) (options : Options) (task : Task) (ext : String) : Prop :=
  ∃ document block, task.Within setup options document ∧ document.Opens setup options block ∧
    block.extension = ext ∧
    ∃ i m, markerAt? (Text.splitLines document.text) i = some m ∧ m.extension = ext

/-- The session differs from that of the task only by what compiling the text adds. -/
structure Task.Extends (setup : Setup) (options : Options) (task : Task) (t : Session) : Prop where
  /-- What was mapped is mapped to the same. -/
  mapping_kept : ∀ ext target, task.session.registry.mapping.find? ext = some target →
    t.registry.mapping.find? ext = some target
  /-- The pipelines are still there, and the same. -/
  pipelines_kept : ∀ spec cached, task.session.registry.pipelines.find? spec = some cached →
    t.registry.pipelines.find? spec = some cached
  /-- What comes to be mapped has its conventional target, and is met in the course of the task. -/
  mapping_new : ∀ ext target, task.session.registry.mapping.find? ext = none →
    t.registry.mapping.find? ext = some target →
    conventionalTarget setup ext = .ok target ∧
      (ext = Text.trim task.extension ∨ task.Meets setup options ext)

namespace Task

lemma Opens.trim_extension (h : Opens setup options task inner) :
    Text.trim inner.extension = inner.extension := by
  obtain ⟨i, m, hm, hext⟩ := h.exists_markerAt?
  obtain ⟨line, -, hparse⟩ := markerAt?_eq_some_iff.1 hm
  rw [← hext]
  exact Marker.trim_extension hparse

/-- An extension that comes to be mapped is that of a text that is compiled in the course of the task. -/
lemma exists_within_of_mapped (hfree : task.session.registry.mapping.find? ext = none)
    (hmapped : (task.run setup options).2.registry.mapping.find? ext ≠ none) :
    ∃ inner, Within setup options task inner ∧ Text.trim inner.extension = ext := by
  induction hdepth : task.depth using Nat.strong_induction_on generalizing task with
  | _ depth ih =>
    by_cases hext : Text.trim task.extension = ext
    · exact ⟨task, .refl, hext⟩
    -- Settling the target of the text's own extension leaves `ext` free, so one of its blocks maps it.
    obtain ⟨inner, hopens, hfree', hmapped'⟩ := exists_opens_of_change
      (P := fun s => s.registry.mapping.find? ext ≠ none) (not_not.2 hfree) hmapped
      (by rw [find?_mapping_ensure_of_ne hext]; exact not_not.2 hfree)
      (by intro spec s hs; rwa [mapping_execute])
    have hlt : inner.depth < depth := by
      rw [← hdepth, hopens.depth_eq]
      exact Nat.lt_succ_self _
    obtain ⟨innermost, hwithin, hext'⟩ := ih inner.depth hlt (not_not.1 hfree') hmapped' rfl
    exact ⟨innermost, .head hopens hwithin, hext'⟩

lemma Within.meets (h : Within setup options task inner) (hext : Text.trim inner.extension = ext) :
    ext = Text.trim task.extension ∨ task.Meets setup options ext := by
  rcases Relation.ReflTransGen.cases_tail h with rfl | ⟨document, hwithin, hopens⟩
  · exact .inl hext.symm
  · rw [hopens.trim_extension] at hext
    obtain ⟨i, m, hm, heq⟩ := hopens.exists_markerAt?
    exact .inr ⟨document, inner, hwithin, hopens, hext, i, m, hm, heq.trans hext⟩

lemma extends_run (setup : Setup) (options : Options) (task : Task) :
    task.Extends setup options (task.run setup options).2 := by
  have hgrows : Grows setup task.session (task.run setup options).2 :=
    grows_compileWithin options task.depth task.extension task.text task.session
  constructor
  · intro ext target hmapped
    exact hgrows.find?_mapping hmapped
  · intro spec cached hcached
    exact hgrows.find?_pipelines hcached
  · intro ext target hfree hmapped
    refine ⟨hgrows.conventionalTarget_eq hmapped hfree, ?_⟩
    have hne : (task.run setup options).2.registry.mapping.find? ext ≠ none := by
      simp [hmapped]
    obtain ⟨inner, hwithin, hext⟩ := exists_within_of_mapped hfree hne
    exact hwithin.meets hext

end Task

namespace Registry

/-- Adding an extension or asking for a pipeline leaves the registry as it is if this fails. Compiling a
text, whether it fails or not, drops and changes nothing; it maps extensions that were not mapped to
their conventional targets, and these are the extension of the text and those of marker lines that it
meets. -/
theorem failed_or_extended (setup : Setup) (s : Session) :
    (∀ ext value error, (perform (add setup ext value) s).1 = .error error →
      (perform (add setup ext value) s).2.registry = s.registry) ∧
    (∀ spec error, (perform (get setup spec) s).1 = .error error →
      (perform (get setup spec) s).2.registry = s.registry) ∧
    ∀ ext text options, (Task.mk setup.nesting ext text s).Extends setup options
      (perform (compile setup ext text options) s).2 := by
  refine ⟨?_, ?_, ?_⟩
  · intro ext value error h
    exact registry_add_of_error h
  · intro spec error h
    exact registry_pipelineFor_of_error h
  · intro ext text options
    exact Task.extends_run setup options ⟨setup.nesting, ext, text, s⟩

/-- The standard setup, where every extension has the chain of its own name. -/
def namedSetup : Setup :=
  { Setup.standard with conventions := some }

/-- A page whose second block cannot be compiled. -/
def halfKnownPage : String := ">> text\nx\n>> nope\ny"

/-- A stage that is not found, and a chain text with a fault. The page cannot be compiled, but the
extension of its first block is mapped then. -/
theorem failed_or_extended_halfKnownPage :
    (perform (add namedSetup "md" (some "text > nope")) .initial).2.registry = .initial ∧
      (perform (get namedSetup "text >") .initial).2.registry = .initial ∧
      (perform (compile namedSetup "*" halfKnownPage .empty) .initial).1.toOption.isNone ∧
      initial.mapping.find? "text" = none ∧
      (perform (compile namedSetup "*" halfKnownPage .empty) .initial).2.registry.mapping.find? "text" =
        some (.chain "text") ∧
      conventionalTarget namedSetup "text" = .ok (.chain "text") ∧
      ("text" = Text.trim "*" ∨
        (Task.mk 1 "*" halfKnownPage .initial).Meets namedSetup .empty "text") := by
  obtain ⟨hadd, hget, hcompile⟩ := failed_or_extended namedSetup .initial
  have hfree : initial.mapping.find? "text" = none := by decide +kernel
  have hmapped : (perform (compile namedSetup "*" halfKnownPage .empty) .initial).2.registry.mapping.find?
      "text" = some (.chain "text") := by decide +kernel
  obtain ⟨htarget, hmeets⟩ :=
    (hcompile "*" halfKnownPage .empty).mapping_new "text" _ hfree hmapped
  exact ⟨hadd "md" _ (.unresolved "nope" (.unknown "nope")) rfl,
    hget "text >" (.chain (.emptyStage "text >" 1)) rfl, by decide +kernel, hfree, hmapped, htarget,
    hmeets⟩

end Registry

end TextChain
