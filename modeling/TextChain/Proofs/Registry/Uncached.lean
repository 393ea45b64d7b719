import TextChain.Proofs.Linking
import TextChain.Proofs.Registry.Operations

/-!
# A registry without pipelines

The plain registry keeps nothing but the mapping and links a chain whenever it is used. If the answers
of the resolver depend on the name alone, no operation shows whether a registry keeps its pipelines or
is plain (`observe_eq_plain`): replies, mapping and stage calls are the same, and only the lookups
differ.
-/

namespace TextChain

/-! ### The plain registry -/

namespace Plain

/-- The mapping with what happened so far. -/
structure Session where
  mapping : Dict Target
  /-- The names that the resolver was asked for, in order. -/
  lookups : List Lookup
  /-- The stages that were started, in order. -/
  calls : List Call

def Session.initial : Session := ⟨Registry.initial.mapping, [], []⟩

/-- An operation: it may fail, and it leaves a session behind in either case. -/
abbrev Act (α : Type) := ExceptT EngineError (StateM Session) α

def pipelineFor (setup : Setup) (spec : String) : Act Pipeline := do
  let session ← get
  let (result, lookups) := setup.link spec session.lookups
  set { session with lookups := lookups }
  match result with
  | .ok linked => pure ⟨linked, setup.mode⟩
  | .error e => throw (.ofLink e)

def establish (setup : Setup) (ext : String) (target : Target) : Act (Option Pipeline) := do
  let made ← match target with
    | .wildcard => pure none
    | .chain spec => do
      let p ← pipelineFor setup spec
      pure (some p)
  modify fun session => { session with mapping := session.mapping.insert ext target }
  pure made

/-- Maps an extension to a mapping value, or to its conventional target. -/
def add (setup : Setup) (ext : String) (value : Option String) : Act (Option Pipeline) := do
  let target ← MonadExcept.ofExcept (Registry.newTarget setup (Text.trim ext) value)
  establish setup (Text.trim ext) target

/-- The mapping after an extension was removed. -/
def unmapped (mapping : Dict Target) (ext : String) : Dict Target :=
  match builtInChain? ext with
  | some spec => mapping.insert ext (.chain spec)
  | none => mapping.erase ext

/-- Removes the mapping of an extension. A built-in extension goes back to its built-in chain. -/
def remove (ext : String) : Act Unit :=
  modify fun session => { session with mapping := unmapped session.mapping (Text.trim ext) }

/-- The target of an extension; one that is not mapped is mapped to its conventional target. -/
def ensure (setup : Setup) (ext : String) : Act Target := do
  let session ← MonadState.get
  match session.mapping.find? ext with
  | some target => pure target
  | none =>
    let target ← MonadExcept.ofExcept (Registry.conventionalTarget setup ext)
    let _ ← establish setup ext target
    pure target

def execute (setup : Setup) (spec text : String) (options : Options) : Act Output := do
  let p ← pipelineFor setup (Text.trim spec)
  modify fun session => { session with calls := session.calls ++ (p.execute text options).calls }
  MonadExcept.ofExcept ((p.execute text options).result.mapError .run)

def runBlock (compile : String → String → Act Output) (options : Options) (ext text : String) :
    Act String := do
  let output ← compile ext text
  MonadExcept.ofExcept ((output.force options).mapError .stage)

/-- Compiles a text with what its extension is mapped to; documents may be nested in blocks of
documents at most `depth` deep. -/
def compileWithin (setup : Setup) (options : Options) : Nat → String → String → Act Output
  | depth, ext, text => do
    match ← ensure setup (Text.trim ext) with
    | .chain spec => execute setup spec text options
    | .wildcard =>
      match depth with
      | 0 => throw .tooDeep
      | depth + 1 => do
        let text ← (Document.ofText text).compile
          (runBlock (compileWithin setup options depth) options)
          fun number content => throw (.malformedMarker number content)
        pure (.text text)

def act (setup : Setup) : Operation → Act (Reply Pipeline)
  | .add ext value => do
    let made ← add setup ext value
    pure (.added made)
  | .remove ext => do
    remove ext
    pure .removed
  | .has ext => do
    let session ← MonadState.get
    pure (.has (session.mapping.contains (Text.trim ext)))
  | .mappingFor ext => do
    let session ← MonadState.get
    pure (.mapping (session.mapping.find? (Text.trim ext)))
  | .extensions => do
    let session ← MonadState.get
    pure (.extensions session.mapping.keys)
  | .get spec => do
    let p ← pipelineFor setup (Text.trim spec)
    pure (.pipeline p)
  | .compile ext text options => do
    let output ← compileWithin setup options setup.nesting ext text
    pure (.output output)

end Plain

/-! ### What can be observed -/

/-- What can be observed of an operation: its reply, with a pipeline for what it does and not for when
it was made, and the mapping and the stage calls after it. -/
structure Observation where
  /-- The reply, or why there is none. -/
  reply : Except EngineError (Reply Pipeline)
  mapping : Dict Target
  /-- The stages that were started so far. -/
  calls : List Call

/-- What can be observed of operations, one after the other. -/
def observe (setup : Setup) : Session → List Operation → List Observation
  | _, [] => []
  | s, op :: ops =>
    let t := (perform (op.act setup) s).2
    ⟨(perform (op.act setup) s).1.map (Reply.map CachedPipeline.pipeline), t.registry.mapping,
      t.calls⟩ :: observe setup t ops

def Plain.observe (setup : Setup) : Plain.Session → List Operation → List Observation
  | _, [] => []
  | p, op :: ops =>
    let q := (perform (Plain.act setup op) p).2
    ⟨(perform (Plain.act setup op) p).1, q.mapping, q.calls⟩ :: Plain.observe setup q ops

/-! ### Simulation -/

namespace Registry

variable {setup : Setup} {s : Session} {p : Plain.Session} {spec ext : String} {target : Target}
  {α β γ δ : Type}

/-- A plain session does what a session does: the mapping and the calls are the same, and every
pipeline that is kept is the one that linking its chain text gives at any time. -/
structure Mirrors (setup : Setup) (s : Session) (p : Plain.Session) : Prop where
  mapping : p.mapping = s.registry.mapping
  calls : p.calls = s.calls
  linked : ∀ spec cached, s.registry.pipelines.find? spec = some cached → ∀ before,
    (setup.link spec before).1 = .ok cached.pipeline.linked
  mode : ∀ spec cached, s.registry.pipelines.find? spec = some cached →
    cached.pipeline.mode = setup.mode

/-- From sessions that mirror each other, the plain action gives what the action gives, up to `f`, and
the sessions mirror each other again. -/
def Simulates (setup : Setup) (f : α → β) (action : Act α) (plain : Plain.Act β) : Prop :=
  ∀ s p, Mirrors setup s p → (perform plain p).1 = (perform action s).1.map f ∧
    Mirrors setup (perform action s).2 (perform plain p).2

lemma mirrors_initial (setup : Setup) : Mirrors setup .initial .initial where
  mapping := rfl
  calls := rfl
  linked := nofun
  mode := nofun

lemma simulates_pure (f : α → β) (a : α) : Simulates setup f (pure a) (pure (f a)) :=
  fun _ _ h => ⟨rfl, h⟩

lemma simulates_throw (f : α → β) (error : EngineError) :
    Simulates setup f (throw error) (throw error) :=
  fun _ _ h => ⟨rfl, h⟩

lemma simulates_ofExcept (result : Except EngineError α) :
    Simulates setup id (MonadExcept.ofExcept result) (MonadExcept.ofExcept result) := by
  intro s p h
  rw [perform_ofExcept, perform_ofExcept]
  exact ⟨by cases result <;> rfl, h⟩

lemma Simulates.bind {f : α → β} {g : γ → δ} {action : Act α} {plain : Plain.Act β}
    {next : α → Act γ} {next' : β → Plain.Act δ} (h : Simulates setup f action plain)
    (hnext : ∀ a, Simulates setup g (next a) (next' (f a))) :
    Simulates setup g (action >>= next) (plain >>= next') := by
  intro s p hsp
  obtain ⟨hresult, hmirrors⟩ := h s p hsp
  rcases haction : perform action s with ⟨e | a, t⟩ <;>
    rcases hplain : perform plain p with ⟨e' | b, q⟩ <;>
    rw [haction, hplain] at hresult hmirrors <;> cases hresult
  · rw [perform_bind_of_error haction, perform_bind_of_error hplain]
    exact ⟨rfl, hmirrors⟩
  · rw [perform_bind_of_ok haction, perform_bind_of_ok hplain]
    exact hnext a t q hmirrors

/-- Actions that do the same, up to what is seen of sessions. -/
def simulating (setup : Setup) : Correspondence Act Plain.Act where
  rel action plain := Simulates setup id action plain
  rel_pure a := simulates_pure id a
  rel_bind h hnext := h.bind hnext

/-! ### Operations -/

lemma perform_plain_pipelineFor (spec : String) (p : Plain.Session) :
    perform (Plain.pipelineFor setup spec) p =
      ((((setup.link spec p.lookups).1.map fun linked => ⟨linked, setup.mode⟩).mapError .ofLink),
        { p with lookups := (setup.link spec p.lookups).2 }) := by
  rw [Plain.pipelineFor, perform_bind_of_ok (perform_get p)]
  rcases setup.link spec p.lookups with ⟨_ | _, _⟩ <;> rfl

section Stateless

variable (hresolver : setup.resolver.Stateless)

include hresolver

/-- Linking gives the same whatever was looked up before. -/
lemma link_eq_of_stateless {before : List Lookup} {result : Except LinkError LinkedChain}
    {lookups : List Lookup} (h : setup.link spec before = (result, lookups))
    (before' : List Lookup) : (setup.link spec before').1 = result :=
  (Chain.link_congr hresolver spec before' before).trans (congrArg Prod.fst h)

/-- A pipeline that is kept is what the plain registry makes anew. -/
lemma simulates_pipelineFor (spec : String) :
    Simulates setup CachedPipeline.pipeline (pipelineFor setup spec) (Plain.pipelineFor setup spec) := by
  intro s p h
  rw [perform_plain_pipelineFor]
  cases hfind : s.registry.pipelines.find? spec with
  | some cached =>
    rw [perform_pipelineFor_of_cached hfind, h.linked spec cached hfind, ← h.mode spec cached hfind]
    exact ⟨rfl, h.mapping, h.calls, h.linked, h.mode⟩
  | none =>
    rcases hlink : setup.link spec s.lookups with ⟨e | linked, lookups⟩
    · rw [perform_pipelineFor_of_refused hfind hlink, link_eq_of_stateless hresolver hlink]
      exact ⟨rfl, h.mapping, h.calls, h.linked, h.mode⟩
    · rw [perform_pipelineFor_of_linked hfind hlink, link_eq_of_stateless hresolver hlink]
      refine ⟨rfl, h.mapping, h.calls, ?_, ?_⟩
      · intro spec' cached hcached
        simp only [keep, Dict.find?_insert] at hcached
        split_ifs at hcached with heq
        · cases hcached
          exact heq ▸ link_eq_of_stateless hresolver hlink
        · exact h.linked spec' cached hcached
      · intro spec' cached hcached
        simp only [keep, Dict.find?_insert] at hcached
        split_ifs at hcached
        · cases hcached
          rfl
        · exact h.mode spec' cached hcached

lemma simulates_establish (ext : String) (target : Target) :
    Simulates setup (Option.map CachedPipeline.pipeline) (establish setup ext target)
      (Plain.establish setup ext target) := by
  have hassign : ∀ made : Option CachedPipeline, Simulates setup (Option.map CachedPipeline.pipeline)
      (do
        Act.modifyRegistry fun r => { r with mapping := r.mapping.insert ext target }
        pure made)
      (do
        modify fun session : Plain.Session =>
          { session with mapping := session.mapping.insert ext target }
        pure (made.map CachedPipeline.pipeline)) := by
    intro made s p h
    exact ⟨rfl, congrArg (·.insert ext target) h.mapping, h.calls, h.linked, h.mode⟩
  cases target with
  | wildcard => exact (simulates_pure (Option.map CachedPipeline.pipeline) none).bind hassign
  | chain spec =>
    exact (simulates_pipelineFor hresolver spec).bind fun cached =>
      (simulates_pure (Option.map CachedPipeline.pipeline) (some cached)).bind hassign

lemma simulates_add (ext : String) (value : Option String) :
    Simulates setup (Option.map CachedPipeline.pipeline) (add setup ext value)
      (Plain.add setup ext value) := by
  have hadd : Simulates setup (Option.map CachedPipeline.pipeline)
      (MonadExcept.ofExcept (newTarget setup (Text.trim ext) value) >>=
        establish setup (Text.trim ext)) (Plain.add setup ext value) :=
    (simulates_ofExcept _).bind fun target => simulates_establish hresolver _ target
  intro s p h
  have heq : perform (add setup ext value) s = perform
      (MonadExcept.ofExcept (newTarget setup (Text.trim ext) value) >>=
        establish setup (Text.trim ext)) s := by
    rw [perform_bind, perform_ofExcept]
    cases htarget : newTarget setup (Text.trim ext) value with
    | error error => exact perform_add_of_error htarget s
    | ok target => exact perform_add_of_ok htarget s
  rw [heq]
  exact hadd s p h

lemma simulates_ensure (ext : String) :
    Simulates setup id (ensure setup ext) (Plain.ensure setup ext) := by
  intro s p h
  rw [ensure, perform_bind_of_ok (perform_get s), Plain.ensure, perform_bind_of_ok (perform_get p),
    h.mapping]
  cases s.registry.mapping.find? ext with
  | some target => exact simulates_pure id target s p h
  | none =>
    refine (simulates_ofExcept _).bind ?_ s p h
    intro target
    exact (simulates_establish hresolver ext target).bind fun _ => simulates_pure id target

lemma simulates_execute (spec text : String) (options : Options) :
    Simulates setup id (execute setup spec text options) (Plain.execute setup spec text options) := by
  refine (simulates_pipelineFor hresolver (Text.trim spec)).bind ?_
  intro cached s p h
  rw [Act.perform_running, perform_bind_of_ok (perform_modify _ p), perform_ofExcept]
  refine ⟨?_, h.mapping, congrArg (· ++ _) h.calls, h.linked, h.mode⟩
  cases (cached.pipeline.execute text options).result <;> rfl

/-- Documents are compiled in the same way, with documents in their blocks included. -/
lemma simulates_compileWithin (options : Options) (depth : Nat) (ext text : String) :
    Simulates setup id (compileWithin setup options depth ext text)
      (Plain.compileWithin setup options depth ext text) := by
  induction depth generalizing ext text with
  | zero =>
    rw [compileWithin, Plain.compileWithin]
    refine (simulates_ensure hresolver _).bind ?_
    intro target
    cases target with
    | chain spec => exact simulates_execute hresolver spec text options
    | wildcard => exact simulates_throw id .tooDeep
  | succ depth ih =>
    rw [compileWithin, Plain.compileWithin]
    refine (simulates_ensure hresolver _).bind ?_
    intro target
    cases target with
    | chain spec => exact simulates_execute hresolver spec text options
    | wildcard =>
      refine Simulates.bind (f := id) ?_ fun text => simulates_pure id (Output.text text)
      rw [compileDocument_eq]
      apply Document.compile_related (simulating setup)
      · intro marker _ body
        refine (ih marker.extension body).bind ?_
        intro output s p h
        rw [Act.perform_rendering, perform_ofExcept, id]
        exact ⟨by cases output.force options <;> rfl, h⟩
      · intro number content _
        exact simulates_throw id _

end Stateless

/-- Removing an extension drops pipelines, but those that are left are still the right ones. -/
lemma mirrors_remove (h : Mirrors setup s p) (ext : String) :
    Mirrors setup { s with registry := s.registry.remove ext }
      { p with mapping := Plain.unmapped p.mapping (Text.trim ext) } where
  mapping := by
    apply Dict.ext_find?
    intro e
    rw [find?_mapping_remove, Plain.unmapped, h.mapping]
    cases hchain : builtInChain? (Text.trim ext) with
    | some spec =>
      simp only [Dict.find?_insert]
      split_ifs with heq
      · rw [← heq, hchain]
        rfl
      · rfl
    | none =>
      simp only [Dict.find?_erase]
      split_ifs with heq
      · rw [← heq, hchain]
        rfl
      · rfl
  calls := h.calls
  linked spec cached hcached := h.linked spec cached (find?_of_pipelines_remove ext hcached)
  mode spec cached hcached := h.mode spec cached (find?_of_pipelines_remove ext hcached)

/-- Every operation does the same in the plain registry. -/
theorem simulates_act (hresolver : setup.resolver.Stateless) (op : Operation) :
    Simulates setup (Reply.map CachedPipeline.pipeline) (op.act setup) (Plain.act setup op) := by
  cases op with
  | add ext value =>
    exact (simulates_add hresolver ext value).bind fun made => simulates_pure _ (Reply.added made)
  | remove ext => exact fun s p h => ⟨rfl, mirrors_remove h ext⟩
  | has ext =>
    exact fun s p h =>
      ⟨congrArg (fun m => Except.ok (Reply.has (Dict.contains m (Text.trim ext)))) h.mapping, h⟩
  | mappingFor ext =>
    exact fun s p h =>
      ⟨congrArg (fun m => Except.ok (Reply.mapping (Dict.find? m (Text.trim ext)))) h.mapping, h⟩
  | extensions =>
    exact fun s p h => ⟨congrArg (fun m => Except.ok (Reply.extensions (Dict.keys m))) h.mapping, h⟩
  | get spec =>
    exact (simulates_pipelineFor hresolver _).bind fun cached => simulates_pure _ (Reply.pipeline cached)
  | compile ext text options =>
    exact (simulates_compileWithin hresolver options _ ext text).bind fun output =>
      simulates_pure _ (Reply.output output)

lemma observe_eq_of_mirrors (hresolver : setup.resolver.Stateless) (ops : List Operation)
    (h : Mirrors setup s p) : observe setup s ops = Plain.observe setup p ops := by
  induction ops generalizing s p with
  | nil => rfl
  | cons op ops ih =>
    obtain ⟨hreply, hmirrors⟩ := simulates_act hresolver op s p h
    rw [observe, Plain.observe, ih hmirrors, hreply, hmirrors.mapping, hmirrors.calls]

/-- Nobody can see that a registry keeps its pipelines: if the answers of the resolver depend on the
name alone, all operations, one after the other, give the same replies as if every chain were linked
anew whenever it is used, and the mapping and the stage calls are the same after each of them. -/
theorem observe_eq_plain (setup : Setup) (hresolver : setup.resolver.Stateless)
    (ops : List Operation) :
    observe setup .initial ops = Plain.observe setup .initial ops :=
  observe_eq_of_mirrors hresolver ops (mirrors_initial setup)

/-- The stage table of the built-in stages gives answers that depend on the name alone. -/
theorem observe_eq_plain_sampleOperations :
    Setup.standard.resolver.Stateless ∧
      observe .standard .initial sampleOperations =
        Plain.observe .standard .initial sampleOperations :=
  ⟨fun _ _ _ => rfl, observe_eq_plain .standard (fun _ _ _ => rfl) sampleOperations⟩

end Registry

end TextChain
