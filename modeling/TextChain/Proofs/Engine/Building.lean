import TextChain.Engine
import TextChain.Proofs.Registry.Operations

/-!
# Building an engine

Building an engine adds the configured extensions to a new registry, in the order of their keys, so what
it leaves is what a run of operations leaves (`session_of_build`). An extension is mapped to the value of
the last key that stands for it (`target?_of_build`).
-/

namespace TextChain

open Registry

variable {setup : Setup} {s t : Session} {b : Builder} {engine : Engine} {ext : String}
  {target : Target} {value : Option String} {made : Option CachedPipeline}
  {settings : List (String × String)}

/-! ### Adding the configured extensions -/

/-- The operations that add extensions one after the other. -/
def Builder.additions (settings : List (String × String)) : List Operation :=
  settings.map fun setting => .add setting.1 (some setting.2)

lemma session_addAll (h : perform (Builder.addAll setup settings) s = (.ok ⟨⟩, t)) :
    t = s.after setup (Builder.additions settings) := by
  induction settings generalizing s with
  | nil =>
    cases h
    rfl
  | cons setting settings ih =>
    obtain ⟨made, u, hadd, hrest⟩ := exists_of_perform_bind_ok h
    have hnext : (perform (Operation.act setup (.add setting.1 (some setting.2))) s).2 = u := by
      rw [Operation.act, perform_bind_pure, hadd]
    rw [ih hrest, Builder.additions, Builder.additions, List.map_cons, Session.after_cons, hnext]

lemma mapping_addAll (h : perform (Builder.addAll setup settings) s = (.ok ⟨⟩, t)) :
    t.registry.mapping = s.registry.mapping.insertMany
      (settings.map fun setting => (Text.trim setting.1, Target.parse setting.2)) := by
  induction settings generalizing s with
  | nil =>
    cases h
    rfl
  | cons setting settings ih =>
    obtain ⟨made, u, hadd, hrest⟩ := exists_of_perform_bind_ok h
    obtain ⟨target, htarget, hmapping⟩ := mapping_add_of_ok hadd
    rw [ih hrest, hmapping, newTarget_some htarget, List.map_cons, Dict.insertMany_cons]

lemma perform_build_eq_ok (h : perform b.build s = (.ok engine, t)) :
    engine = ⟨b.config, b.setup⟩ ∧
      perform (Builder.addAll b.setup b.config.mappings.entries) s = (.ok ⟨⟩, t) := by
  obtain ⟨_, u, hall, hdone⟩ := exists_of_perform_bind_ok h
  cases hdone
  exact ⟨rfl, hall⟩

/-- Building an engine is adding its configured extensions. -/
theorem session_of_build (h : perform b.build s = (.ok engine, t)) :
    t = s.after b.setup (Builder.additions b.config.mappings.entries) :=
  session_addAll (perform_build_eq_ok h).2

/-- The entries of the keys that stand for an extension, in ascending order. -/
def settingsFor (mappings : Dict String) (ext : String) : List (String × String) :=
  mappings.entries.filter fun entry => Text.trim entry.1 = ext

/-- In a new engine an extension has the target of the last entry that stands for it; if there is none,
it has what it has in every registry. -/
theorem target?_of_build (h : perform b.build .initial = (.ok engine, t)) (ext : String) :
    t.registry.target? ext =
      ((settingsFor b.config.mappings (Text.trim ext)).getLast?.map fun entry =>
        Target.parse entry.2).or (Registry.initial.target? ext) := by
  obtain ⟨-, hall⟩ := perform_build_eq_ok h
  rw [target?, target?, settingsFor, mapping_addAll hall, Dict.find?_insertMany, List.filter_map,
    List.getLast?_map, Option.map_map, Session.initial]
  simp only [Function.comp_def]

end TextChain
