import TextChain.Proofs.Engine.Mappings
import TextChain.Proofs.Registry.Invariant
import TextChain.Proofs.Registry.Uncached

/-!
# Building an engine from tables in any order

The tables of a configuration may be read in any order (`Config.Tables`). The mappings are sorted before they
are added, and the order of the other tables does not show, so the engine is always the same
(`Builder.buildFrom_eq_build`). If it cannot be built, the error is that of the least mapping which a new
registry refuses, and nothing was done for the mappings after it; if it can, the chain texts that have a
pipeline are those of the mappings (`Builder.build_from_any_order`).
-/

namespace TextChain

open Registry

/-! ### Tables in any order -/

namespace Dict

variable {α β : Type} {d : Dict α} {entries : List (String × α)}

lemma insert_comm (d : Dict α) {k k' : String} (hne : k ≠ k') (v v' : α) :
    (d.insert k v).insert k' v' = (d.insert k' v').insert k v := by
  apply ext_find?
  intro key
  simp only [find?_insert]
  split_ifs with hk' hk
  · exact absurd (hk.trans hk'.symm) hne
  all_goals rfl

lemma fst_ne_of_mem_entries {x y : String × α} (hx : x ∈ d.entries) (hy : y ∈ d.entries) (hne : x ≠ y) :
    x.1 ≠ y.1 := by
  intro heq
  have hvalue := (mem_entries_iff.1 hx).symm.trans (heq ▸ mem_entries_iff.1 hy)
  exact hne (Prod.ext heq (Option.some_inj.1 hvalue))

/-- The order of entries does not matter where entries of different keys may be exchanged. -/
lemma foldl_of_perm {f : β → String × α → β} (h : entries.Perm d.entries)
    (hcomm : ∀ x y z, x.1 ≠ y.1 → f (f z x) y = f (f z y) x) (init : β) :
    entries.foldl f init = d.entries.foldl f init := by
  refine h.foldl_eq' ?_ init
  intro x hx y hy z
  by_cases hxy : x = y
  · rw [hxy]
  · exact hcomm x y z (fst_ne_of_mem_entries (h.mem_iff.1 hx) (h.mem_iff.1 hy) hxy)

end Dict

/-- The tables of a configuration, each of them in some order. -/
structure Config.Tables (c : Config) where
  mappings : List (String × String)
  defaults : List (String × String)
  commands : List (String × Command)
  mappings_perm : mappings.Perm c.mappings.entries
  defaults_perm : defaults.Perm c.defaults.entries
  commands_perm : commands.Perm c.commands.entries

namespace Builder

variable {b : Builder}

/-- Entries in ascending order of their keys; entries of the same key would be in the order of their values. -/
def sorted (entries : List (String × String)) : List (String × String) :=
  entries.mergeSort fun x y => decide (toLex x ≤ toLex y)

def setupFrom (b : Builder) (tables : b.config.Tables) : Setup where
  resolver :=
    match b.resolver with
    | some resolver => resolver
    | none => (withCommands b.programs b.table tables.commands).toResolver
  settings := b.config.resolverSettings
  conventions := Conventions.chain? ⟨Dict.empty.insertMany tables.defaults, b.config.fallback⟩
  mode := b.config.mode
  nesting := nestingLimit

def buildFrom (b : Builder) (tables : b.config.Tables) : Act Engine := do
  addAll (b.setupFrom tables) (sorted tables.mappings)
  pure ⟨b.config, b.setupFrom tables⟩

lemma toLex_le_of_ascending {d : Dict String} :
    d.entries.Pairwise fun x y => decide (toLex x ≤ toLex y) = true := by
  refine d.ascending.imp ?_
  intro x y hlt
  exact decide_eq_true (Prod.Lex.le_iff.2 (.inl hlt))

lemma sorted_of_perm {d : Dict String} {entries : List (String × String)} (h : entries.Perm d.entries) :
    sorted entries = d.entries := by
  refine List.Perm.eq_of_pairwise ?_ (List.pairwise_mergeSort ?_ ?_ entries) toLex_le_of_ascending
    ((List.mergeSort_perm entries _).trans h)
  · intro x y _ _ hxy hyx
    exact toLex_inj.1 (le_antisymm (of_decide_eq_true hxy) (of_decide_eq_true hyx))
  · intro x y z hxy hyz
    exact decide_eq_true (le_trans (of_decide_eq_true hxy) (of_decide_eq_true hyz))
  · intro x y
    simpa using le_total (toLex x) (toLex y)

lemma setupFrom_eq_setup (tables : b.config.Tables) : b.setupFrom tables = b.setup := by
  have hdefaults : Dict.empty.insertMany tables.defaults =
      Dict.empty.insertMany b.config.defaults.entries :=
    Dict.foldl_of_perm tables.defaults_perm (fun x y z hne => z.insert_comm hne x.2 y.2) _
  have hcommands : withCommands b.programs b.table tables.commands =
      withCommands b.programs b.table b.config.commands.entries :=
    Dict.foldl_of_perm tables.commands_perm
      (fun x y z hne => congrArg StageTable.mk (z.stages.insert_comm hne _ _)) _
  rw [setupFrom, hdefaults, hcommands]
  rfl

/-- The order in which the tables are read does not matter. -/
theorem buildFrom_eq_build (tables : b.config.Tables) : b.buildFrom tables = b.build := by
  rw [buildFrom, setupFrom_eq_setup, sorted_of_perm tables.mappings_perm]
  rfl

end Builder

/-! ### Entries that are refused -/

namespace Registry

variable {setup : Setup} {s t : Session} {p : Plain.Session} {spec ext value : String}
  {made : Option CachedPipeline} {cached : CachedPipeline} {error : EngineError}

/-- The error with which adding an entry fails, if it does. -/
def refusal? (setup : Setup) (s : Session) (entry : String × String) : Option EngineError :=
  match (perform (add setup entry.1 (some entry.2)) s).1 with
  | .ok _ => none
  | .error error => some error

lemma refusal?_of_error (h : perform (add setup ext (some value)) s = (.error error, t)) :
    refusal? setup s (ext, value) = some error := by
  rw [refusal?, h]

lemma refusal?_of_ok (h : perform (add setup ext (some value)) s = (.ok made, t)) :
    refusal? setup s (ext, value) = none := by
  rw [refusal?, h]

/-- Which pipelines are kept does not decide whether one can be made. -/
lemma pipelineFor_result_of_mirrors (hresolver : setup.resolver.Stateless) (h : Mirrors setup s p)
    (spec : String) (before : List Lookup) :
    (perform (pipelineFor setup spec) s).1.map CachedPipeline.pipeline =
      ((setup.link spec before).1.map fun linked => ⟨linked, setup.mode⟩).mapError .ofLink := by
  have hlink : (setup.link spec p.lookups).1 = (setup.link spec before).1 :=
    Chain.link_congr hresolver spec p.lookups before
  rw [← (simulates_pipelineFor hresolver spec s p h).1, perform_plain_pipelineFor, hlink]

/-- Whether an entry is refused, and why, does not depend on what was added before. -/
lemma refusal?_of_mirrors (hresolver : setup.resolver.Stateless) (h : Mirrors setup s p)
    (entry : String × String) : refusal? setup s entry = refusal? setup .initial entry := by
  unfold refusal?
  cases htarget : newTarget setup (Text.trim entry.1) (some entry.2) with
  | error e => rw [perform_add_of_error htarget, perform_add_of_error htarget]
  | ok target =>
    rw [perform_add_of_ok htarget, perform_add_of_ok htarget]
    cases target with
    | wildcard => rfl
    | chain spec =>
      have hsame := (pipelineFor_result_of_mirrors hresolver h spec []).trans
        (pipelineFor_result_of_mirrors hresolver (mirrors_initial setup) spec []).symm
      rw [perform_establish_chain, perform_establish_chain]
      rcases hs : perform (pipelineFor setup spec) s with ⟨e | cached, t⟩ <;>
        rcases hi : perform (pipelineFor setup spec) .initial with ⟨e' | cached', t'⟩ <;>
        rw [hs, hi] at hsame
      · exact congrArg some (Except.error.inj hsame)
      · cases hsame
      · cases hsame

/-! ### Pipelines of entries -/

lemma isSome_pipelines_of_pipelineFor (h : perform (pipelineFor setup spec) s = (.ok cached, t))
    (spec' : String) :
    (t.registry.pipelines.find? spec').isSome ↔
      (s.registry.pipelines.find? spec').isSome ∨ spec = spec' := by
  cases asking_of_pipelineFor h with
  | hit hcached =>
    refine (or_iff_left_of_imp ?_).symm
    rintro rfl
    simp [hcached]
  | made _ _ =>
    simp only [keep, Dict.find?_insert]
    by_cases heq : spec = spec' <;> simp [heq]

/-- Adding an extension makes the pipeline of its chain text and no other. -/
lemma mem_cachedChains_of_add (h : perform (add setup ext (some value)) s = (.ok made, t)) (spec : String) :
    spec ∈ t.registry.cachedChains ↔
      spec ∈ s.registry.cachedChains ∨ Target.parse value = .chain spec := by
  rw [mem_cachedChains_iff, mem_cachedChains_iff]
  obtain ⟨target, htarget, -⟩ := mapping_add_of_ok h
  rw [perform_add_of_ok htarget] at h
  rw [← newTarget_some htarget]
  cases target with
  | wildcard =>
    cases h
    simp
  | chain spec' =>
    rw [perform_establish_chain] at h
    rcases hpipeline : perform (pipelineFor setup spec') s with ⟨e | cached, u⟩ <;>
      rw [hpipeline] at h <;> cases h
    simpa [assign] using isSome_pipelines_of_pipelineFor hpipeline spec

end Registry

/-! ### What becomes of a build -/

namespace Builder

variable {setup : Setup} {s t : Session} {p : Plain.Session} {settings : List (String × String)}
  {error : EngineError} {b : Builder} {engine : Engine} {ext : String}

/-- Adding entries stops at the first that a new registry refuses. -/
lemma exists_refused_of_addAll (hresolver : setup.resolver.Stateless) (hs : Mirrors setup s p)
    (h : perform (addAll setup settings) s = (.error error, t)) :
    ∃ earlier entry later u, settings = earlier ++ entry :: later ∧
      (∀ other ∈ earlier, refusal? setup .initial other = none) ∧
      refusal? setup .initial entry = some error ∧
      perform (addAll setup earlier) s = (.ok ⟨⟩, u) ∧
      perform (Registry.add setup entry.1 (some entry.2)) u = (.error error, t) := by
  -- every session on the way mirrors one without a cache, and so it refuses what a new registry refuses
  induction settings generalizing s p with
  | nil => cases h
  | cons entry rest ih =>
    rcases hadd : perform (Registry.add setup entry.1 (some entry.2)) s with ⟨e | made, u⟩
    · rw [addAll, perform_bind_of_error hadd] at h
      cases h
      refine ⟨[], entry, rest, s, rfl, by simp, ?_, rfl, hadd⟩
      rw [← refusal?_of_mirrors hresolver hs, refusal?_of_error hadd]
    · have hmirrors := (simulates_add hresolver entry.1 (some entry.2) s p hs).2
      rw [hadd] at hmirrors
      rw [addAll, perform_bind_of_ok hadd] at h
      obtain ⟨earlier, refused, later, v, rfl, hearlier, hrefused, hall, hlast⟩ := ih hmirrors h
      refine ⟨entry :: earlier, refused, later, v, rfl, ?_, hrefused, ?_, hlast⟩
      · intro other hother
        rcases List.mem_cons.1 hother with rfl | hother
        · rw [← refusal?_of_mirrors hresolver hs, refusal?_of_ok hadd]
        · exact hearlier other hother
      · rw [addAll, perform_bind_of_ok hadd, hall]

lemma mem_cachedChains_of_addAll (h : perform (addAll setup settings) s = (.ok ⟨⟩, t)) (spec : String) :
    spec ∈ t.registry.cachedChains ↔
      spec ∈ s.registry.cachedChains ∨ ∃ entry ∈ settings, Target.parse entry.2 = .chain spec := by
  induction settings generalizing s with
  | nil =>
    cases h
    simp
  | cons entry rest ih =>
    obtain ⟨made, u, hadd, hrest⟩ := exists_of_perform_bind_ok h
    rw [ih hrest, mem_cachedChains_of_add hadd]
    simp [or_assoc]

/-- The least entry, by its key and then by its value, that a new registry refuses. -/
structure LeastRefused (setup : Setup) (mappings : Dict String) (entry : String × String)
    (error : EngineError) : Prop where
  mem : entry ∈ mappings.entries
  refused : refusal? setup .initial entry = some error
  least : ∀ other ∈ mappings.entries, (refusal? setup .initial other).isSome → toLex entry ≤ toLex other

lemma leastRefused_of_append {mappings : Dict String} {earlier later : List (String × String)}
    {entry : String × String} (hentries : mappings.entries = earlier ++ entry :: later)
    (hearlier : ∀ other ∈ earlier, refusal? setup .initial other = none)
    (hrefused : refusal? setup .initial entry = some error) :
    LeastRefused setup mappings entry error := by
  refine ⟨by simp [hentries], hrefused, ?_⟩
  intro other hother hsome
  have hsorted := toLex_le_of_ascending (d := mappings)
  rw [hentries, List.pairwise_append, List.pairwise_cons] at hsorted
  rw [hentries, List.mem_append, List.mem_cons] at hother
  rcases hother with hother | rfl | hother
  · simp [hearlier other hother] at hsome
  · exact le_rfl
  · exact of_decide_eq_true (hsorted.2.1.1 other hother)

lemma getLast?_of_greatestKey {mappings : Dict String} {key value : String}
    (hkey : GreatestKey mappings ext key) (hvalue : mappings.find? key = some value) :
    (settingsFor mappings ext).getLast? = some (key, value) := by
  have hmem : (key, value) ∈ settingsFor mappings ext := mem_settingsFor_iff.2 ⟨hvalue, hkey.trim_eq⟩
  obtain ⟨⟨key', value'⟩, hlast⟩ :=
    Option.ne_none_iff_exists'.1 (mt List.getLast?_eq_none_iff.1 (List.ne_nil_of_mem hmem))
  obtain ⟨hkey', hvalue'⟩ := greatestKey_of_getLast? hlast
  have heq : key = key' := by
    rcases hkey.greatest key' hkey'.mem hkey'.trim_eq with heq | hlt
    · exact heq.symm
    · rcases hkey'.greatest key hkey.mem hkey.trim_eq with heq | hlt'
      · exact heq
      · exact absurd hlt' (lt_asymm hlt)
  subst heq
  rw [hlast, Option.some_inj.1 (hvalue.symm.trans hvalue')]

lemma target?_of_build_of_trimmed (h : perform b.build .initial = (.ok engine, t))
    (hext : Text.trim ext = ext) :
    (∀ key value, GreatestKey b.config.mappings ext key → b.config.mappings.find? key = some value →
      t.registry.target? ext = some (.parse value)) ∧
    ((∀ key ∈ b.config.mappings.keys, Text.trim key ≠ ext) →
      t.registry.target? ext = (builtInChain? ext).map .chain) := by
  have htarget := target?_of_build h ext
  rw [hext] at htarget
  constructor
  · intro key value hkey hvalue
    rw [htarget, getLast?_of_greatestKey hkey hvalue]
    rfl
  · intro hnone
    have hnil : settingsFor b.config.mappings ext = [] := by
      refine List.filter_eq_nil_iff.2 fun entry hentry => ?_
      have hkey := hnone entry.1 (List.mem_map_of_mem hentry)
      simpa using hkey
    rw [htarget, hnil, target?, hext, find?_mapping_initial]
    rfl

/-- In whatever order the tables of a configuration are read, the same lookups are made and the same engine
is built, or building fails with the same error. If the answers of the resolver depend on the name alone,
this is the error of the least mapping that a new registry refuses, after all lesser ones were added and
nothing else was done. In an engine that is built, an extension has the target of the greatest key that
stands for it, or else its built-in chain, and the pipelines are those of the chain texts that are mapping
values. -/
theorem build_from_any_order (b : Builder) (hresolver : ∀ resolver ∈ b.resolver, resolver.Stateless) :
    (∀ tables tables' : b.config.Tables,
      b.buildFrom tables = b.build ∧ b.buildFrom tables' = b.buildFrom tables) ∧
    (∀ error t, perform b.build .initial = (.error error, t) →
      ∃ entry, LeastRefused b.setup b.config.mappings entry error ∧
        ∃ earlier later u, b.config.mappings.entries = earlier ++ entry :: later ∧
          perform (addAll b.setup earlier) .initial = (.ok ⟨⟩, u) ∧
          perform (Registry.add b.setup entry.1 (some entry.2)) u = (.error error, t)) ∧
    ∀ engine t, perform b.build .initial = (.ok engine, t) →
      (∀ ext, Text.trim ext = ext →
        (∀ key value, GreatestKey b.config.mappings ext key →
          b.config.mappings.find? key = some value → t.registry.target? ext = some (.parse value)) ∧
        ((∀ key ∈ b.config.mappings.keys, Text.trim key ≠ ext) →
          t.registry.target? ext = (builtInChain? ext).map .chain)) ∧
      ∀ spec, spec ∈ t.registry.cachedChains ↔
        ∃ entry ∈ b.config.mappings.entries, Target.parse entry.2 = .chain spec := by
  have hstateless : b.setup.resolver.Stateless := by
    cases hcustom : b.resolver with
    | some resolver =>
      simp only [setup, effectiveResolver, hcustom]
      exact hresolver resolver hcustom
    | none =>
      simp only [setup, effectiveResolver, hcustom]
      exact fun _ _ _ => rfl
  refine ⟨?_, ?_, ?_⟩
  · intro tables tables'
    rw [buildFrom_eq_build, buildFrom_eq_build]
    exact ⟨rfl, rfl⟩
  · intro error t h
    obtain ⟨earlier, entry, later, u, hentries, hearlier, hrefused, hall, hlast⟩ :=
      exists_refused_of_addAll hstateless (mirrors_initial b.setup) (perform_eq_error_of_bind_pure h)
    exact ⟨entry, leastRefused_of_append hentries hearlier hrefused, earlier, later, u, hentries, hall,
      hlast⟩
  · intro engine t h
    refine ⟨fun ext hext => target?_of_build_of_trimmed h hext, ?_⟩
    intro spec
    rw [mem_cachedChains_of_addAll (perform_build_eq_ok h).2]
    refine or_iff_right ?_
    rw [mem_cachedChains_iff]
    simp [Session.initial, Registry.initial, Dict.find?_empty]

/-- A configuration with a stage that is not found and, for a greater extension, an empty chain text. -/
def twoFaults : Builder where
  config := ((Config.default.withMapping "page" "").withMapping "md" "html > nope").withMapping "a " "text"
  table := .builtIn
  resolver := some StageTable.builtIn.toResolver
  programs := .usual

/-- Its tables, with the empty chain text in front. -/
def twoFaultsBackwards : twoFaults.config.Tables where
  mappings := [("page", ""), ("md", "html > nope"), ("a ", "text")]
  defaults := []
  commands := []
  mappings_perm := by decide +kernel
  defaults_perm := List.Perm.refl []
  commands_perm := List.Perm.refl []

/-- The fault of the lesser extension is reported. -/
theorem build_from_any_order_twoFaults :
    (∀ resolver ∈ twoFaults.resolver, resolver.Stateless) ∧
      (perform (twoFaults.buildFrom twoFaultsBackwards) .initial).2.lookups =
        Chain.lookupsFor .default ["text", "html", "nope"] ∧
      ∃ entry, LeastRefused twoFaults.setup twoFaults.config.mappings entry
        (.unresolved "nope" (.unknown "nope")) := by
  have hresolver : ∀ resolver ∈ twoFaults.resolver, resolver.Stateless := by
    rintro resolver hmem
    cases hmem
    exact fun _ _ _ => rfl
  obtain ⟨horder, hfailure, -⟩ := build_from_any_order twoFaults hresolver
  have herror : (perform twoFaults.build .initial).1 = .error (.unresolved "nope" (.unknown "nope")) :=
    (except_map_eq_error_iff (f := fun _ => ())).1 (by decide +kernel)
  obtain ⟨entry, hentry, -⟩ := hfailure _ _ (Prod.ext herror rfl)
  refine ⟨hresolver, ?_, entry, hentry⟩
  rw [(horder twoFaultsBackwards twoFaultsBackwards).1]
  decide +kernel

end Builder

end TextChain
