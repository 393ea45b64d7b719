import TextChain.Proofs.Registry.Growth

/-!
# Runs of operations

A registry is used by any number of operations, one after the other; an operation that fails is
followed by the next all the same. Whatever an operation is, it grows the session, or grows it and then
maps an extension to a target that is ready, or removes an extension (`change_act`).
-/

namespace TextChain

inductive Operation
  /-- Maps an extension to a mapping value, or to its conventional target. -/
  | add (ext : String) (value : Option String)
  | remove (ext : String)
  | has (ext : String)
  | mappingFor (ext : String)
  | extensions
  | get (spec : String)
  | compile (ext text : String) (options : Options)

/-- What an operation gives, where `π` is the type of pipelines. -/
inductive Reply (π : Type)
  /-- The pipeline of the new target, if it is a chain. -/
  | added (made : Option π)
  /-- Nothing but that the operation is done. -/
  | removed
  | has (mapped : Bool)
  | mapping (target : Option Target)
  | extensions (names : List String)
  | pipeline (made : π)
  | output (made : Output)

def Reply.map {π ρ : Type} (f : π → ρ) : Reply π → Reply ρ
  | .added made => .added (made.map f)
  | .removed => .removed
  | .has mapped => .has mapped
  | .mapping target => .mapping target
  | .extensions names => .extensions names
  | .pipeline made => .pipeline (f made)
  | .output made => .output made

def Operation.act (setup : Setup) : Operation → Act (Reply CachedPipeline)
  | .add ext value => do
    let made ← Registry.add setup ext value
    pure (.added made)
  | .remove ext => do
    Act.modifyRegistry fun r => r.remove ext
    pure .removed
  | .has ext => do
    let session ← MonadState.get
    pure (.has (session.registry.has ext))
  | .mappingFor ext => do
    let session ← MonadState.get
    pure (.mapping (session.registry.target? ext))
  | .extensions => do
    let session ← MonadState.get
    pure (.extensions session.registry.extensions)
  | .get spec => do
    let cached ← Registry.get setup spec
    pure (.pipeline cached)
  | .compile ext text options => do
    let output ← Registry.compile setup ext text options
    pure (.output output)

/-- The session after operations that are done one after the other. -/
def Session.after (setup : Setup) (s : Session) (ops : List Operation) : Session :=
  ops.foldl (fun s op => (perform (op.act setup) s).2) s

lemma Session.after_cons (setup : Setup) (s : Session) (op : Operation) (ops : List Operation) :
    s.after setup (op :: ops) = (perform (op.act setup) s).2.after setup ops := rfl

lemma Session.after_singleton (setup : Setup) (s : Session) (op : Operation) :
    s.after setup [op] = (perform (op.act setup) s).2 := rfl

/-- Removing an extension always succeeds. -/
lemma perform_act_remove (setup : Setup) (ext : String) (s : Session) :
    perform (Operation.act setup (.remove ext)) s =
      (.ok .removed, { s with registry := s.registry.remove ext }) := rfl

/-- Operations after which one extension has a chain of its own, a chain text with a fault was refused,
a document was compiled, and a built-in extension was reset. -/
def sampleOperations : List Operation :=
  [.add "md" (some " html > text "), .get "text >", .add "page" (some "*"),
    .compile "page" ">> js\nx" .empty, .add "css" (some "html"), .remove "css"]

namespace Registry

variable {setup : Setup} {s t : Session} {spec ext e : String} {target : Target}
  {cached : CachedPipeline} {r : Registry}

/-! ### Removing an extension -/

lemma refersTo_iff : r.refersTo spec = true ↔ ∃ e, r.mapping.find? e = some (.chain spec) := by
  simp only [refersTo, List.any_eq_true, decide_eq_true_eq, Dict.values, List.mem_map]
  constructor
  · rintro ⟨_, ⟨⟨e, target⟩, hmem, rfl⟩, htarget⟩
    refine ⟨e, Dict.mem_entries_iff.1 ?_⟩
    cases target with
    | chain spec' =>
      cases htarget
      exact hmem
    | wildcard => cases htarget
  · rintro ⟨e, h⟩
    exact ⟨.chain spec, ⟨(e, .chain spec), Dict.mem_entries_iff.2 h, rfl⟩, rfl⟩

lemma mem_cachedChains_iff : spec ∈ r.cachedChains ↔ (r.pipelines.find? spec).isSome = true :=
  Dict.mem_keys_iff

lemma mapping_release (spec : String) : (r.release spec).mapping = r.mapping := by
  unfold release
  split <;> rfl

/-- Dropping a pipeline to which an extension is mapped drops nothing. -/
lemma pipelines_release (spec : String) :
    (r.release spec).pipelines = r.pipelines ∨
      (∀ e, r.mapping.find? e ≠ some (.chain spec)) ∧
        (r.release spec).pipelines = r.pipelines.erase spec := by
  unfold release
  split_ifs with h
  · exact .inl rfl
  · exact .inr ⟨fun e he => h (refersTo_iff.2 ⟨e, he⟩), rfl⟩

lemma mapping_unmap (ext : String) : (r.unmap ext).mapping = r.mapping.erase ext := by
  unfold unmap
  split
  · exact mapping_release _
  · rfl

/-- Removing an extension drops at most one pipeline, and none that an extension is still mapped to. -/
lemma pipelines_unmap (ext : String) :
    (r.unmap ext).pipelines = r.pipelines ∨
      ∃ spec, (∀ e, (r.mapping.erase ext).find? e ≠ some (.chain spec)) ∧
        (r.unmap ext).pipelines = r.pipelines.erase spec := by
  unfold unmap
  split
  next spec _ =>
    rcases pipelines_release (r := { r with mapping := r.mapping.erase ext }) spec with
      h | ⟨hfree, h⟩
    · exact .inl h
    · exact .inr ⟨spec, hfree, h⟩
  next => exact .inl rfl

lemma pipelines_restore (ext : String) : (r.restore ext).pipelines = r.pipelines := by
  unfold restore
  split <;> rfl

lemma find?_mapping_restore (ext e : String) :
    (r.restore ext).mapping.find? e =
      if ext = e then ((builtInChain? e).map Target.chain).or (r.mapping.find? e)
      else r.mapping.find? e := by
  unfold restore
  cases hchain : builtInChain? ext with
  | none =>
    dsimp only
    split_ifs with heq
    · rw [← heq, hchain]
      rfl
    · rfl
  | some spec =>
    dsimp only
    rw [Dict.find?_insert]
    split_ifs with heq
    · rw [← heq, hchain]
      rfl
    · rfl

theorem find?_mapping_remove (ext e : String) :
    (r.remove ext).mapping.find? e =
      if Text.trim ext = e then (builtInChain? e).map .chain else r.mapping.find? e := by
  rw [remove, find?_mapping_restore, mapping_unmap, Dict.find?_erase]
  split_ifs <;> simp

theorem pipelines_remove (ext : String) :
    (r.remove ext).pipelines = r.pipelines ∨
      ∃ spec, (∀ e, Text.trim ext ≠ e → r.mapping.find? e ≠ some (.chain spec)) ∧
        (r.remove ext).pipelines = r.pipelines.erase spec := by
  rw [remove, pipelines_restore]
  refine (pipelines_unmap (Text.trim ext)).imp_right ?_
  rintro ⟨spec, hfree, h⟩
  refine ⟨spec, fun e hne he => hfree e ?_, h⟩
  rw [Dict.find?_erase, if_neg hne, he]

/-- No pipeline is made when an extension is removed. -/
lemma find?_of_pipelines_remove (ext : String)
    (h : (r.remove ext).pipelines.find? spec = some cached) :
    r.pipelines.find? spec = some cached := by
  rcases pipelines_remove (r := r) ext with heq | ⟨spec', -, heq⟩
  · rw [heq] at h
    exact h
  · rw [heq, Dict.find?_erase] at h
    split_ifs at h
    exact h

/-! ### Changes -/

/-- What an operation may do to a session. -/
inductive Change (setup : Setup) (s : Session) : Session → Prop
  | grow {t : Session} (h : Grows setup s t) : Change setup s t
  /-- The session grows, and then an extension is mapped to a target that is ready. -/
  | map {t : Session} {target : Target} (ext : String) (h : Grows setup s t)
      (hready : t.registry.Ready target) :
      Change setup s { t with registry := t.registry.assign ext target }
  | unmap (ext : String) : Change setup s { s with registry := s.registry.remove ext }

lemma change_establish (htrim : ∀ spec, target = .chain spec → Text.trim spec = spec) (ext : String)
    (s : Session) : Change setup s (perform (establish setup ext target) s).2 := by
  obtain ⟨t, hgrows, -, ⟨e, h⟩ | ⟨hready, made, h⟩⟩ := perform_establish setup htrim ext s
  · rw [h]
    exact .grow hgrows
  · rw [h]
    exact .map ext hgrows hready

/-- The target that an extension is to be mapped to: that of the mapping value, or the conventional
target if no value is given. -/
def newTarget (setup : Setup) (ext : String) (value : Option String) : Except EngineError Target :=
  if ext = "" then .error (.config "extension must not be empty")
  else
    match value with
    | some value => .ok (.parse value)
    | none => conventionalTarget setup ext

lemma trim_of_newTarget {value : Option String} (h : newTarget setup ext value = .ok (.chain spec)) :
    Text.trim spec = spec := by
  unfold newTarget at h
  split_ifs at h
  cases value with
  | some value => exact trim_of_parse value (Except.ok.inj h)
  | none => exact trim_of_conventionalTarget h

lemma perform_add_of_error {value : Option String} {error : EngineError}
    (h : newTarget setup (Text.trim ext) value = .error error) (s : Session) :
    perform (add setup ext value) s = (.error error, s) := by
  unfold add newTarget at *
  dsimp only
  split_ifs at h ⊢
  · cases h
    exact perform_throw _ s
  · cases value with
    | some value => cases h
    | none => exact perform_bind_of_error ((perform_ofExcept _ s).trans (congrArg (·, s) h)) _

lemma perform_add_of_ok {value : Option String}
    (h : newTarget setup (Text.trim ext) value = .ok target) (s : Session) :
    perform (add setup ext value) s = perform (establish setup (Text.trim ext) target) s := by
  unfold add newTarget at *
  dsimp only
  split_ifs at h ⊢
  cases value with
  | some value =>
    rw [← Except.ok.inj h]
    exact perform_bind_of_ok (perform_pure _ s) _
  | none => exact perform_bind_of_ok ((perform_ofExcept _ s).trans (congrArg (·, s) h)) _

lemma mapping_establish_of_ok {made : Option CachedPipeline}
    (h : perform (establish setup ext target) s = (.ok made, t)) :
    t.registry.mapping = s.registry.mapping.insert ext target := by
  cases target with
  | wildcard =>
    cases h
    rfl
  | chain spec =>
    have hmapping : (perform (pipelineFor setup spec) s).2.registry.mapping = s.registry.mapping :=
      mapping_pipelineFor s
    rw [perform_establish_chain] at h
    rcases hpipeline : perform (pipelineFor setup spec) s with ⟨e | cached, u⟩ <;>
      rw [hpipeline] at h hmapping <;> cases h
    exact congrArg (Dict.insert · ext (.chain spec)) hmapping

lemma mapping_add_of_ok {value : Option String} {made : Option CachedPipeline}
    (h : perform (add setup ext value) s = (.ok made, t)) :
    ∃ target, newTarget setup (Text.trim ext) value = .ok target ∧
      t.registry.mapping = s.registry.mapping.insert (Text.trim ext) target := by
  cases htarget : newTarget setup (Text.trim ext) value with
  | error e =>
    rw [perform_add_of_error htarget] at h
    cases h
  | ok target =>
    rw [perform_add_of_ok htarget] at h
    exact ⟨target, rfl, mapping_establish_of_ok h⟩

lemma ne_empty_of_newTarget {value : Option String} (h : newTarget setup ext value = .ok target) :
    ext ≠ "" := by
  rintro rfl
  cases h

lemma newTarget_some {value : String} (h : newTarget setup ext (some value) = .ok target) :
    target = .parse value := by
  have hne := ne_empty_of_newTarget h
  rw [newTarget, if_neg hne] at h
  exact (Except.ok.inj h).symm

lemma change_add (ext : String) (value : Option String) (s : Session) :
    Change setup s (perform (add setup ext value) s).2 := by
  cases htarget : newTarget setup (Text.trim ext) value with
  | error error =>
    rw [perform_add_of_error htarget]
    exact .grow (.refl s)
  | ok target =>
    rw [perform_add_of_ok htarget]
    exact change_establish (fun spec heq => trim_of_newTarget (heq ▸ htarget)) _ s

theorem change_act (op : Operation) (s : Session) :
    Change setup s (perform (op.act setup) s).2 := by
  cases op with
  | add ext value =>
    rw [Operation.act, perform_bind_pure]
    exact change_add ext value s
  | remove ext => exact .unmap ext
  | has ext => exact .grow (.refl s)
  | mappingFor ext => exact .grow (.refl s)
  | extensions => exact .grow (.refl s)
  | get spec =>
    rw [Operation.act, perform_bind_pure]
    exact .grow (grows_get spec s)
  | compile ext text options =>
    rw [Operation.act, perform_bind_pure]
    exact .grow (grows_compileWithin options setup.nesting ext text s)

end Registry

end TextChain
