import TextChain.Proofs.Document.Related
import TextChain.Proofs.Perform
import TextChain.Proofs.Text
import TextChain.Registry
import TextChain.Stage.Table

/-!
# How a session grows

Except for `add` and `remove`, which set and drop mappings, all that the operations of a registry do to
a session is a sequence of four elementary changes (`Growth`): a chain text is refused, a pipeline is
made and kept, an extension that is not mapped gets its conventional target, and stages are run.
-/

namespace TextChain

/-- What linking a chain text gives after the lookups made before, and the lookups after it. -/
def Setup.link (setup : Setup) (spec : String) (before : List Lookup) :
    Except LinkError LinkedChain × List Lookup :=
  perform (Chain.link setup.resolver setup.settings spec) before

/-- The setup with the built-in stages and the built-in chains only. -/
def Setup.standard : Setup where
  resolver := StageTable.builtIn.toResolver
  settings := .default
  conventions := builtInChain?
  mode := .strict
  nesting := 1

/-! ### Actions on sessions -/

namespace Act

variable {α : Type}

lemma perform_linking (link : Chain.Linking α) (s : Session) :
    perform (linking link) s =
      ((perform link s.lookups).1.mapError .ofLink,
        { s with lookups := (perform link s.lookups).2 }) := by
  rw [linking, perform_bind_of_ok (perform_get s),
    show perform link s.lookups = link.run.run s.lookups from rfl]
  rcases link.run.run s.lookups with ⟨_ | _, lookups⟩ <;> rfl

lemma perform_running (run : Traced RunError α) (s : Session) :
    perform (running run) s =
      (run.result.mapError .run, { s with calls := s.calls ++ run.calls }) := by
  rw [running, perform_bind_of_ok (perform_modify _ s)]
  cases run.result <;> rfl

lemma perform_rendering (text : Except StageError α) (s : Session) :
    perform (rendering text) s = (text.mapError .stage, s) := by
  cases text <;> rfl

end Act

namespace Registry

variable {setup : Setup} {s t : Session} {spec ext : String} {target : Target}
  {cached : CachedPipeline} {linked : LinkedChain} {lookups : List Lookup}

def keep (r : Registry) (spec : String) (pipeline : Pipeline) : Registry :=
  { r with pipelines := r.pipelines.insert spec ⟨r.made, pipeline⟩, made := r.made + 1 }

def assign (r : Registry) (ext : String) (target : Target) : Registry :=
  { r with mapping := r.mapping.insert ext target }

/-- The pipeline of a target is made, if the target is a chain. -/
def Ready (r : Registry) (target : Target) : Prop :=
  ∀ spec, target = .chain spec → (r.pipelines.find? spec).isSome

/-! ### Elementary changes -/

/-- One elementary change of a session. -/
inductive Growth (setup : Setup) (s : Session) : Session → Prop
  | refuse {spec : String} {e : LinkError} {lookups : List Lookup}
      (hlink : setup.link spec s.lookups = (.error e, lookups)) :
      Growth setup s { s with lookups := lookups }
  /-- The pipeline of a chain text that has none is made and kept. -/
  | make {spec : String} {linked : LinkedChain} {lookups : List Lookup}
      (htrim : Text.trim spec = spec) (hmiss : s.registry.pipelines.find? spec = none)
      (hlink : setup.link spec s.lookups = (.ok linked, lookups)) :
      Growth setup s
        { s with lookups := lookups, registry := s.registry.keep spec ⟨linked, setup.mode⟩ }
  /-- An extension that is not mapped is mapped to its conventional target. -/
  | adopt {ext : String} {target : Target} (hfree : s.registry.mapping.find? ext = none)
      (htarget : conventionalTarget setup ext = .ok target) (hready : s.registry.Ready target) :
      Growth setup s { s with registry := s.registry.assign ext target }
  | call (calls : List Call) : Growth setup s { s with calls := s.calls ++ calls }

/-- Any number of elementary changes, one after the other. -/
def Grows (setup : Setup) : Session → Session → Prop :=
  Relation.ReflTransGen (Growth setup)

lemma Grows.refl (s : Session) : Grows setup s s := Relation.ReflTransGen.refl

lemma Growth.grows (h : Growth setup s t) : Grows setup s t := Relation.ReflTransGen.single h

lemma Grows.trans {u : Session} (h : Grows setup s t) (h' : Grows setup t u) : Grows setup s u :=
  Relation.ReflTransGen.trans h h'

/-! ### Pipelines -/

lemma perform_pipelineFor_of_cached (h : s.registry.pipelines.find? spec = some cached) :
    perform (pipelineFor setup spec) s = (.ok cached, s) := by
  rw [pipelineFor, perform_bind_of_ok (perform_get s), h]
  rfl

lemma perform_pipelineFor_of_refused {e : LinkError}
    (hmiss : s.registry.pipelines.find? spec = none)
    (hlink : setup.link spec s.lookups = (.error e, lookups)) :
    perform (pipelineFor setup spec) s = (.error (.ofLink e), { s with lookups := lookups }) := by
  rw [pipelineFor, perform_bind_of_ok (perform_get s), hmiss]
  rw [Setup.link] at hlink
  refine perform_bind_of_error ?_ _
  rw [Act.perform_linking, hlink]
  rfl

lemma perform_pipelineFor_of_linked (hmiss : s.registry.pipelines.find? spec = none)
    (hlink : setup.link spec s.lookups = (.ok linked, lookups)) :
    perform (pipelineFor setup spec) s =
      (.ok ⟨s.registry.made, linked, setup.mode⟩,
        { s with lookups := lookups, registry := s.registry.keep spec ⟨linked, setup.mode⟩ }) := by
  rw [pipelineFor, perform_bind_of_ok (perform_get s), hmiss]
  rw [Setup.link] at hlink
  have hlinking : perform (Act.linking (Chain.link setup.resolver setup.settings spec)) s =
      (.ok linked, { s with lookups := lookups }) := by
    rw [Act.perform_linking, hlink]
    rfl
  exact perform_bind_of_ok hlinking _

/-- What asking for the pipeline of a chain text comes to, with the session that it leaves. -/
inductive Asking (setup : Setup) (spec : String) (s : Session) :
    Except EngineError CachedPipeline → Session → Prop
  /-- The chain text has a pipeline. -/
  | hit {cached : CachedPipeline} (hcached : s.registry.pipelines.find? spec = some cached) :
      Asking setup spec s (.ok cached) s
  /-- The chain text has no pipeline and is refused. -/
  | refused {e : LinkError} {lookups : List Lookup} (hmiss : s.registry.pipelines.find? spec = none)
      (hlink : setup.link spec s.lookups = (.error e, lookups)) :
      Asking setup spec s (.error (.ofLink e)) { s with lookups := lookups }
  /-- The chain text has no pipeline, and one is made. -/
  | made {linked : LinkedChain} {lookups : List Lookup}
      (hmiss : s.registry.pipelines.find? spec = none)
      (hlink : setup.link spec s.lookups = (.ok linked, lookups)) :
      Asking setup spec s (.ok ⟨s.registry.made, linked, setup.mode⟩)
        { s with lookups := lookups, registry := s.registry.keep spec ⟨linked, setup.mode⟩ }

lemma asking_of_pipelineFor {result : Except EngineError CachedPipeline}
    (h : perform (pipelineFor setup spec) s = (result, t)) : Asking setup spec s result t := by
  cases hfind : s.registry.pipelines.find? spec with
  | some cached =>
    rw [perform_pipelineFor_of_cached hfind] at h
    cases h
    exact .hit hfind
  | none =>
    rcases hlink : setup.link spec s.lookups with ⟨e | linked, lookups⟩
    · rw [perform_pipelineFor_of_refused hfind hlink] at h
      cases h
      exact .refused hfind hlink
    · rw [perform_pipelineFor_of_linked hfind hlink] at h
      cases h
      exact .made hfind hlink

/-- Asking for a pipeline changes the session only by making the pipeline. -/
lemma grows_pipelineFor (htrim : Text.trim spec = spec) (s : Session) :
    Grows setup s (perform (pipelineFor setup spec) s).2 := by
  rcases h : perform (pipelineFor setup spec) s with ⟨result, t⟩
  cases asking_of_pipelineFor h with
  | hit _ => exact .refl s
  | refused _ hlink => exact (Growth.refuse hlink).grows
  | made hmiss hlink => exact (Growth.make htrim hmiss hlink).grows

/-- A pipeline that was asked for is kept. -/
lemma find?_of_pipelineFor (h : perform (pipelineFor setup spec) s = (.ok cached, t)) :
    t.registry.pipelines.find? spec = some cached := by
  cases asking_of_pipelineFor h with
  | hit hcached => exact hcached
  | made _ _ => simp [keep, Dict.find?_insert]

/-- Asking for a pipeline changes no mapping. -/
lemma mapping_pipelineFor (s : Session) :
    (perform (pipelineFor setup spec) s).2.registry.mapping = s.registry.mapping := by
  rcases h : perform (pipelineFor setup spec) s with ⟨result, t⟩
  cases asking_of_pipelineFor h with
  | hit _ => rfl
  | refused _ _ => rfl
  | made _ _ => rfl

/-! ### Targets -/

lemma trim_of_parse (value : String) (h : Target.parse value = .chain spec) :
    Text.trim spec = spec := by
  simp only [Target.parse] at h
  split at h
  · cases h
  · cases h
    exact Text.trim_trim value

lemma trim_of_conventionalTarget (h : conventionalTarget setup ext = .ok (.chain spec)) :
    Text.trim spec = spec := by
  unfold conventionalTarget at h
  split at h
  · exact trim_of_parse _ (Except.ok.inj h)
  · cases h

/-- Mapping an extension to a chain makes the pipeline first. -/
lemma perform_establish_chain (setup : Setup) (ext spec : String) (s : Session) :
    perform (establish setup ext (.chain spec)) s =
      match perform (pipelineFor setup spec) s with
      | (.ok cached, t) =>
        (.ok (some cached), { t with registry := t.registry.assign ext (.chain spec) })
      | (.error e, t) => (.error e, t) := by
  rcases h : perform (pipelineFor setup spec) s with ⟨e | cached, t⟩
  · exact perform_bind_of_error h _
  · exact perform_bind_of_ok h _

/-- If the pipeline of its target cannot be made, an extension is not mapped. -/
lemma perform_establish (setup : Setup)
    (htrim : ∀ spec, target = .chain spec → Text.trim spec = spec) (ext : String) (s : Session) :
    ∃ t, Grows setup s t ∧ t.registry.mapping = s.registry.mapping ∧
      ((∃ e, perform (establish setup ext target) s = (.error e, t)) ∨
        t.registry.Ready target ∧ ∃ made, perform (establish setup ext target) s =
          (.ok made, { t with registry := t.registry.assign ext target })) := by
  cases target with
  | wildcard => exact ⟨s, .refl s, rfl, .inr ⟨nofun, none, rfl⟩⟩
  | chain spec =>
    refine ⟨_, grows_pipelineFor (htrim spec rfl) s, mapping_pipelineFor s, ?_⟩
    rw [perform_establish_chain]
    rcases h : perform (pipelineFor setup spec) s with ⟨e | cached, t⟩
    · exact .inl ⟨e, rfl⟩
    · refine .inr ⟨?_, some cached, rfl⟩
      intro spec' heq
      cases heq
      simp [find?_of_pipelineFor h]

/-- What an extension is mapped to, or will be mapped to when it is first needed. -/
def eventualTarget? (setup : Setup) (r : Registry) (ext : String) : Option Target :=
  (r.mapping.find? (Text.trim ext)).or ((conventionalTarget setup (Text.trim ext)).toOption)

lemma perform_ensure_of_mapped (h : s.registry.mapping.find? ext = some target) :
    perform (ensure setup ext) s = (.ok target, s) := by
  rw [ensure, perform_bind_of_ok (perform_get s), h]
  rfl

/-- The target of an extension that is not mapped and has no conventional target. -/
lemma perform_ensure_of_unknown {e : EngineError} (hfree : s.registry.mapping.find? ext = none)
    (htarget : conventionalTarget setup ext = .error e) :
    perform (ensure setup ext) s = (.error e, s) := by
  rw [ensure, perform_bind_of_ok (perform_get s), hfree]
  exact perform_bind_of_error ((perform_ofExcept _ s).trans (by rw [htarget])) _

/-- The target of an extension that is not mapped and has a conventional target. -/
lemma perform_ensure_of_free (hfree : s.registry.mapping.find? ext = none)
    (htarget : conventionalTarget setup ext = .ok target) :
    perform (ensure setup ext) s =
      match perform (establish setup ext target) s with
      | (.ok _, t) => (.ok target, t)
      | (.error e, t) => (.error e, t) := by
  rw [ensure, perform_bind_of_ok (perform_get s), hfree]
  refine (perform_bind_of_ok ((perform_ofExcept _ s).trans (by rw [htarget])) _).trans ?_
  rw [perform_bind]
  rcases perform (establish setup ext target) s with ⟨_ | _, _⟩ <;> rfl

/-- What settling the target of an extension comes to, with the session that it leaves. -/
inductive Settling (setup : Setup) (ext : String) (s : Session) : Except EngineError Target → Session → Prop
  | mapped {target : Target} (hmapped : s.registry.mapping.find? ext = some target) :
      Settling setup ext s (.ok target) s
  /-- The extension is not mapped and has no conventional target. -/
  | unknown {e : EngineError} (hfree : s.registry.mapping.find? ext = none)
      (htarget : conventionalTarget setup ext = .error e) : Settling setup ext s (.error e) s
  /-- The extension is not mapped, and the pipeline of its conventional target cannot be made. -/
  | refused {target : Target} {e : EngineError} {t : Session}
      (hfree : s.registry.mapping.find? ext = none)
      (htarget : conventionalTarget setup ext = .ok target) (hgrows : Grows setup s t)
      (hmapping : t.registry.mapping = s.registry.mapping)
      (hmade : perform (establish setup ext target) s = (.error e, t)) : Settling setup ext s (.error e) t
  /-- The extension is not mapped, and comes to be mapped to its conventional target. -/
  | adopted {target : Target} {made : Option CachedPipeline} {t : Session}
      (hfree : s.registry.mapping.find? ext = none)
      (htarget : conventionalTarget setup ext = .ok target) (hgrows : Grows setup s t)
      (hmapping : t.registry.mapping = s.registry.mapping) (hready : t.registry.Ready target)
      (hmade : perform (establish setup ext target) s =
        (.ok made, { t with registry := t.registry.assign ext target })) :
      Settling setup ext s (.ok target) { t with registry := t.registry.assign ext target }

lemma settling_of_ensure {result : Except EngineError Target}
    (h : perform (ensure setup ext) s = (result, t)) : Settling setup ext s result t := by
  cases hfind : s.registry.mapping.find? ext with
  | some target =>
    rw [perform_ensure_of_mapped hfind] at h
    cases h
    exact .mapped hfind
  | none =>
    cases htarget : conventionalTarget setup ext with
    | error e =>
      rw [perform_ensure_of_unknown hfind htarget] at h
      cases h
      exact .unknown hfind htarget
    | ok target =>
      obtain ⟨u, hgrows, hmapping, ⟨e, hmade⟩ | ⟨hready, made, hmade⟩⟩ := perform_establish setup
        (fun spec heq => trim_of_conventionalTarget (htarget.trans (congrArg _ heq))) ext s <;>
        rw [perform_ensure_of_free hfind htarget, hmade] at h <;> cases h
      · exact .refused hfind htarget hgrows hmapping hmade
      · exact .adopted hfind htarget hgrows hmapping hready hmade

lemma grows_ensure (ext : String) (s : Session) :
    Grows setup s (perform (ensure setup ext) s).2 := by
  rcases h : perform (ensure setup ext) s with ⟨result, t⟩
  cases settling_of_ensure h with
  | mapped _ => exact .refl s
  | unknown _ _ => exact .refl s
  | refused _ _ hgrows _ _ => exact hgrows
  | adopted hfree htarget hgrows hmapping hready _ =>
    exact hgrows.trans (Growth.adopt (hmapping ▸ hfree) htarget hready).grows

/-- An extension is mapped to the target that it is found to have. -/
lemma find?_mapping_of_ensure (h : perform (ensure setup ext) s = (.ok target, t)) :
    t.registry.mapping.find? ext = some target := by
  cases settling_of_ensure h with
  | mapped hmapped => exact hmapped
  | adopted _ _ _ _ _ _ => simp [assign, Dict.find?_insert]

/-- The target that an extension is found to have is the one that it has or gets. -/
lemma eventualTarget?_of_ensure (h : perform (ensure setup (Text.trim ext)) s = (.ok target, t)) :
    eventualTarget? setup s.registry ext = some target := by
  unfold eventualTarget?
  cases settling_of_ensure h with
  | mapped hmapped => simp [hmapped]
  | adopted hfree htarget _ _ _ _ => simp [hfree, htarget, Except.toOption]

/-- An extension that is mapped to the wildcard, or will be, is found to have this target. -/
lemma exists_ensure_of_wildcard (h : eventualTarget? setup s.registry ext = some .wildcard) :
    ∃ t, perform (ensure setup (Text.trim ext)) s = (.ok .wildcard, t) := by
  unfold eventualTarget? at h
  cases hfind : s.registry.mapping.find? (Text.trim ext) with
  | some target =>
    rw [hfind] at h
    cases h
    exact ⟨s, perform_ensure_of_mapped hfind⟩
  | none =>
    rw [hfind, Option.none_or] at h
    rcases htarget : conventionalTarget setup (Text.trim ext) with e | target
    · rw [htarget] at h
      cases h
    · rw [htarget] at h
      cases h
      exact ⟨_, perform_ensure_of_free hfind htarget⟩

/-! ### Compiling -/

lemma grows_get (spec : String) (s : Session) : Grows setup s (perform (get setup spec) s).2 :=
  grows_pipelineFor (Text.trim_trim spec) s

lemma grows_execute (spec text : String) (options : Options) (s : Session) :
    Grows setup s (perform (execute setup spec text options) s).2 := by
  have hget : Grows setup s _ := grows_get spec s
  rcases h : perform (get setup spec) s with ⟨e | cached, t⟩
  · rw [execute, perform_bind_of_error h]
    rwa [h] at hget
  · rw [execute, perform_bind_of_ok h, Act.perform_running]
    rw [h] at hget
    exact hget.trans (Growth.call _).grows

/-- Actions that grow a session; whatever they are compared with. -/
def growing (setup : Setup) : Correspondence Act Act where
  rel action _ := ∀ s, Grows setup s (perform action s).2
  rel_pure _ s := .refl s
  rel_bind {_ _ action _ next _} haction hnext s := by
    have h := haction s
    rcases hperform : perform action s with ⟨e | a, t⟩
    · rw [perform_bind_of_error hperform]
      rwa [hperform] at h
    · rw [perform_bind_of_ok hperform]
      rw [hperform] at h
      exact h.trans (hnext a t)

/-- Compiling a document corresponds to itself if compiling its blocks does, and if rendering and failing
do. -/
lemma compileDocument_related (c : Correspondence Act Act) {compile : String → String → Act Output}
    (options : Options) (hcompile : ∀ ext text, c.rel (compile ext text) (compile ext text))
    (hrendering : ∀ text, c.rel (Act.rendering text : Act String) (Act.rendering text))
    (hthrow : ∀ e, c.rel (throw e : Act String) (throw e)) (text : String) :
    c.rel (compileDocument compile options text) (compileDocument compile options text) := by
  rw [compileDocument_eq]
  apply Document.compile_related
  · intro marker _ body
    exact c.rel_bind (hcompile _ _) fun output => hrendering _
  · intro number content _
    exact hthrow _

lemma grows_compileDocument {compile : String → String → Act Output} (options : Options)
    (hcompile : ∀ ext text, (growing setup).rel (compile ext text) (compile ext text))
    (text : String) :
    (growing setup).rel (compileDocument compile options text)
      (compileDocument compile options text) := by
  refine compileDocument_related _ options hcompile ?_ (fun _ s => .refl s) text
  intro result s
  rw [Act.perform_rendering]
  exact .refl s

/-- Compiling a text, a document with documents in its blocks included, only grows the session. -/
theorem grows_compileWithin (options : Options) (depth : Nat) (ext text : String) :
    (growing setup).rel (compileWithin setup options depth ext text)
      (compileWithin setup options depth ext text) := by
  induction depth generalizing ext text with
  | zero =>
    rw [compileWithin]
    refine (growing setup).rel_bind (grows_ensure _) ?_
    intro target
    cases target with
    | chain spec => exact grows_execute spec text options
    | wildcard => exact fun s => .refl s
  | succ depth ih =>
    rw [compileWithin]
    refine (growing setup).rel_bind (grows_ensure _) ?_
    intro target
    cases target with
    | chain spec => exact grows_execute spec text options
    | wildcard =>
      exact (growing setup).rel_bind (grows_compileDocument options ih text)
        fun _ => (growing setup).rel_pure _

/-! ### What growing keeps -/

/-- Growing a session settles targets, but does not change which they are. -/
lemma Growth.eventualTarget?_eq (h : Growth setup s t) (ext : String) :
    eventualTarget? setup t.registry ext = eventualTarget? setup s.registry ext := by
  cases h with
  | refuse _ => rfl
  | make _ _ _ => rfl
  | @adopt ext' target hfree htarget _ =>
    simp only [eventualTarget?, assign, Dict.find?_insert]
    split_ifs with heq
    · rw [← heq, hfree, htarget]
      rfl
    · rfl
  | call _ => rfl

lemma Grows.eventualTarget?_eq (h : Grows setup s t) (ext : String) :
    eventualTarget? setup t.registry ext = eventualTarget? setup s.registry ext := by
  induction h with
  | refl => rfl
  | tail _ hstep ih => exact (hstep.eventualTarget?_eq ext).trans ih

/-- Growing a session leaves the extensions mapped as they are. -/
lemma Growth.find?_mapping (h : Growth setup s t) (hmapped : s.registry.mapping.find? ext = some target) :
    t.registry.mapping.find? ext = some target := by
  cases h with
  | refuse _ => exact hmapped
  | make _ _ _ => exact hmapped
  | @adopt ext' target' hfree _ _ =>
    have hne : ext' ≠ ext := by
      rintro rfl
      rw [hfree] at hmapped
      cases hmapped
    rwa [assign, Dict.find?_insert, if_neg hne]
  | call _ => exact hmapped

lemma Grows.find?_mapping (h : Grows setup s t) (hmapped : s.registry.mapping.find? ext = some target) :
    t.registry.mapping.find? ext = some target := by
  induction h with
  | refl => exact hmapped
  | tail _ hstep ih => exact hstep.find?_mapping ih

/-- An extension that comes to be mapped has its conventional target. -/
lemma Grows.conventionalTarget_eq (h : Grows setup s t)
    (hmapped : t.registry.mapping.find? ext = some target)
    (hfree : s.registry.mapping.find? ext = none) : conventionalTarget setup ext = .ok target := by
  induction h with
  | refl =>
    rw [hfree] at hmapped
    cases hmapped
  | tail _ hstep ih =>
    cases hstep with
    | refuse _ => exact ih hmapped
    | make _ _ _ => exact ih hmapped
    | @adopt ext' target' _ htarget _ =>
      rw [assign, Dict.find?_insert] at hmapped
      split_ifs at hmapped with heq
      · cases hmapped
        exact heq ▸ htarget
      · exact ih hmapped
    | call _ => exact ih hmapped

/-- Growing a session leaves the pipelines as they are. -/
lemma Growth.find?_pipelines (h : Growth setup s t)
    (hcached : s.registry.pipelines.find? spec = some cached) :
    t.registry.pipelines.find? spec = some cached := by
  cases h with
  | refuse _ => exact hcached
  | @make spec' _ _ _ hmiss _ =>
    have hne : spec' ≠ spec := by
      rintro rfl
      rw [hmiss] at hcached
      cases hcached
    rwa [keep, Dict.find?_insert, if_neg hne]
  | adopt _ _ _ => exact hcached
  | call _ => exact hcached

lemma Grows.find?_pipelines (h : Grows setup s t)
    (hcached : s.registry.pipelines.find? spec = some cached) :
    t.registry.pipelines.find? spec = some cached := by
  induction h with
  | refl => exact hcached
  | tail _ hstep ih => exact hstep.find?_pipelines ih

/-- A pipeline that a registry has for a chain text or, as long as it has none, may come to have. -/
def Serves (setup : Setup) (r : Registry) (spec : String) (p : Pipeline) : Prop :=
  match r.pipelines.find? spec with
  | some cached => cached.pipeline = p
  | none => ∃ before linked after,
      setup.link spec before = (.ok linked, after) ∧ p = ⟨linked, setup.mode⟩

/-- Growing a session does not bring pipelines that it could not bring before. -/
lemma Growth.serves {p : Pipeline} (h : Growth setup s t) (hserves : Serves setup t.registry spec p) :
    Serves setup s.registry spec p := by
  cases h with
  | refuse _ => exact hserves
  | @make spec' linked lookups _ hmiss hlink =>
    unfold Serves at hserves ⊢
    simp only [keep, Dict.find?_insert] at hserves
    split_ifs at hserves with heq
    · subst heq
      rw [hmiss]
      exact ⟨s.lookups, linked, lookups, hlink, hserves.symm⟩
    · exact hserves
  | adopt _ _ _ => exact hserves
  | call _ => exact hserves

lemma Grows.serves {p : Pipeline} (h : Grows setup s t) (hserves : Serves setup t.registry spec p) :
    Serves setup s.registry spec p := by
  induction h with
  | refl => exact hserves
  | tail _ hstep ih => exact ih (hstep.serves hserves)

lemma serves_of_pipelineFor (h : perform (pipelineFor setup spec) s = (.ok cached, t)) :
    Serves setup s.registry spec cached.pipeline := by
  unfold Serves
  cases asking_of_pipelineFor h with
  | hit hcached => rw [hcached]
  | made hmiss hlink =>
    rw [hmiss]
    exact ⟨_, _, _, hlink, rfl⟩

/-! ### Compiling with a chain -/

/-- An extension whose target is no wildcard is compiled without opening a document. -/
lemma perform_compileWithin_of_ne_wildcard (options : Options) (depth depth' : Nat) (text : String)
    (h : eventualTarget? setup s.registry ext ≠ some .wildcard) :
    perform (compileWithin setup options depth ext text) s =
      perform (compileWithin setup options depth' ext text) s := by
  rcases hensure : perform (ensure setup (Text.trim ext)) s with ⟨e | target, t⟩
  · rw [compileWithin.eq_def, perform_bind_of_error hensure, compileWithin.eq_def,
      perform_bind_of_error hensure]
  · rw [compileWithin.eq_def, perform_bind_of_ok hensure, compileWithin.eq_def,
      perform_bind_of_ok hensure]
    cases target with
    | chain spec => rfl
    | wildcard => exact absurd (eventualTarget?_of_ensure hensure) h

/-- A text whose extension has a chain is run through a pipeline of that chain. -/
lemma exists_execute_of_compileWithin {options : Options} {depth : Nat} {text : String}
    {output : Output} (htarget : eventualTarget? setup s.registry ext = some (.chain spec))
    (h : perform (compileWithin setup options depth ext text) s = (.ok output, t)) :
    ∃ p, Serves setup s.registry (Text.trim spec) p ∧ (p.execute text options).result = .ok output := by
  rw [compileWithin.eq_def] at h
  obtain ⟨target, u, hensure, h⟩ := exists_of_perform_bind_ok h
  rw [eventualTarget?_of_ensure hensure] at htarget
  cases htarget
  obtain ⟨cached, v, hget, h⟩ := exists_of_perform_bind_ok h
  have hgrows : Grows setup s _ := grows_ensure (Text.trim ext) s
  rw [hensure] at hgrows
  refine ⟨cached.pipeline, hgrows.serves (serves_of_pipelineFor hget), ?_⟩
  rw [Act.perform_running] at h
  cases hresult : (cached.pipeline.execute text options).result with
  | error e => rw [hresult] at h; cases h
  | ok output' => rw [hresult] at h; cases h; rfl

end Registry

end TextChain
