import TextChain.Proofs.Registry.Growth

/-!
# Recorded runs

A recorded run compiles a text and keeps what it went through: the pipelines that it executed and the
texts that it took for documents. Recording changes nothing, and no stage is called but by a pipeline
that is recorded (`recording_compileWithin`).
-/

namespace TextChain

/-- What a run goes through. -/
inductive Event
  /-- The pipeline of a chain was executed on a text. -/
  | executed (spec text : String) (run : Traced RunError Output)
  /-- A text was taken for a document. -/
  | opened (text : String)

namespace Event

def calls : Event → List Call
  | .executed _ _ run => run.calls
  | .opened _ => []

/-- The output of a pipeline, forced with the options. -/
def forced? (options : Options) : Event → Option String
  | .executed _ _ run => run.result.toOption.bind fun output => (output.force options).toOption
  | .opened _ => none

def isExecution : Event → Bool
  | .executed _ _ _ => true
  | .opened _ => false

end Event

/-- Actions on sessions that keep what they go through. -/
abbrev Recorded (α : Type) := ExceptT EngineError (StateM (Session × List Event)) α

namespace Recorded

variable {α : Type}

/-- Does an action that goes through nothing. -/
def ofAct (action : Act α) : Recorded α := do
  let (session, events) ← MonadState.get
  let (result, after) := perform action session
  set (after, events)
  MonadExcept.ofExcept result

def record (event : Event) : Recorded Unit :=
  modify fun (session, events) => (session, events ++ [event])

lemma perform_ofAct (action : Act α) (s : Session) (events : List Event) :
    perform (ofAct action) (s, events) = ((perform action s).1, ((perform action s).2, events)) := by
  rw [ofAct, perform_bind_of_ok (perform_get (s, events))]
  exact (perform_bind_of_ok (perform_set _ _) _).trans (perform_ofExcept _ _)

@[simp] lemma perform_record (event : Event) (s : Session) (events : List Event) :
    perform (record event) (s, events) = (.ok (), (s, events ++ [event])) := rfl

end Recorded

namespace Registry

open Recorded

variable {setup : Setup} {options : Options} {s : Session} {α β : Type}

def recordRun (spec text : String) (run : Traced RunError Output) : Recorded Output := do
  record (.executed spec text run)
  ofAct (Act.running run)

def recordExecute (setup : Setup) (spec text : String) (options : Options) : Recorded Output := do
  let cached ← ofAct (get setup spec)
  recordRun spec text (cached.pipeline.execute text options)

def recordBlock (compile : String → String → Recorded Output) (options : Options)
    (ext text : String) : Recorded String := do
  let output ← compile ext text
  ofAct (Act.rendering (output.force options))

def recordDocument (compile : String → String → Recorded Output) (options : Options)
    (text : String) : Recorded String :=
  (Document.ofText text).compile (recordBlock compile options) fun number content =>
    throw (.malformedMarker number content)

def recordWildcard (compile : String → String → Recorded Output) (options : Options)
    (text : String) : Recorded Output := do
  let text ← recordDocument compile options text
  pure (.text text)

/-- Compiles a text as `compileWithin` does, and keeps what it goes through. -/
def recordWithin (setup : Setup) (options : Options) : Nat → String → String → Recorded Output
  | depth, ext, text => do
    match ← ofAct (ensure setup (Text.trim ext)) with
    | .chain spec => recordExecute setup spec text options
    | .wildcard =>
      match depth with
      | 0 => throw .tooDeep
      | depth + 1 => do
        record (.opened text)
        recordWildcard (recordWithin setup options depth) options text

/-- What compiling a text goes through. -/
def events (setup : Setup) (options : Options) (depth : Nat) (ext text : String) (s : Session) :
    List Event :=
  (perform (recordWithin setup options depth ext text) (s, [])).2.2

/-! ### Quiet actions -/

/-- An action that calls no stage and does not find documents nested too deeply. -/
structure Quiet (action : Act α) : Prop where
  calls : ∀ s, (perform action s).2.calls = s.calls
  ne_tooDeep : ∀ s, (perform action s).1 ≠ .error .tooDeep

lemma quiet_pure (a : α) : Quiet (pure a : Act α) :=
  ⟨fun _ => rfl, nofun⟩

lemma quiet_get : Quiet (MonadState.get : Act Session) :=
  ⟨fun _ => rfl, nofun⟩

lemma quiet_modifyRegistry (f : Registry → Registry) : Quiet (Act.modifyRegistry f) :=
  ⟨fun _ => rfl, nofun⟩

lemma Quiet.bind {action : Act α} {next : α → Act β} (h : Quiet action) (h' : ∀ a, Quiet (next a)) :
    Quiet (action >>= next) := by
  refine ⟨fun s => ?_, fun s => ?_⟩ <;> rcases hperform : perform action s with ⟨e | a, t⟩
  · rw [perform_bind_of_error hperform]
    simpa [hperform] using h.calls s
  · rw [perform_bind_of_ok hperform, (h' a).calls t]
    simpa [hperform] using h.calls s
  · rw [perform_bind_of_error hperform]
    simpa [hperform] using h.ne_tooDeep s
  · rw [perform_bind_of_ok hperform]
    exact (h' a).ne_tooDeep t

lemma quiet_linking (link : Chain.Linking α) : Quiet (Act.linking link) := by
  refine ⟨fun s => by rw [Act.perform_linking], fun s => ?_⟩
  rw [Act.perform_linking]
  rcases (perform link s.lookups).1 with (_ | _) | _ <;> simp [Except.mapError, EngineError.ofLink]

lemma quiet_conventionalTarget (setup : Setup) (ext : String) :
    Quiet (MonadExcept.ofExcept (conventionalTarget setup ext) : Act Target) := by
  refine ⟨fun s => by rw [perform_ofExcept], fun s => ?_⟩
  rw [perform_ofExcept, conventionalTarget]
  cases setup.conventions ext <;> simp

lemma quiet_pipelineFor (setup : Setup) (spec : String) : Quiet (pipelineFor setup spec) := by
  rw [pipelineFor]
  refine quiet_get.bind fun session => ?_
  cases session.registry.pipelines.find? spec with
  | some cached => exact quiet_pure cached
  | none =>
    exact (quiet_linking _).bind fun linked => (quiet_modifyRegistry _).bind fun _ => quiet_pure _

lemma quiet_establish (setup : Setup) (ext : String) (target : Target) :
    Quiet (establish setup ext target) := by
  have hassign : ∀ made : Option CachedPipeline, Quiet (do
      Act.modifyRegistry fun r => { r with mapping := r.mapping.insert ext target }
      pure made) :=
    fun made => (quiet_modifyRegistry _).bind fun _ => quiet_pure made
  cases target with
  | chain spec =>
    exact (quiet_pipelineFor setup spec).bind fun cached => (quiet_pure (some cached)).bind hassign
  | wildcard => exact (quiet_pure none).bind hassign

lemma quiet_ensure (setup : Setup) (ext : String) : Quiet (ensure setup ext) := by
  rw [ensure]
  refine quiet_get.bind fun session => ?_
  cases session.registry.mapping.find? ext with
  | some target => exact quiet_pure target
  | none =>
    exact (quiet_conventionalTarget setup ext).bind fun target =>
      (quiet_establish setup ext target).bind fun _ => quiet_pure target

/-! ### Recording changes nothing -/

/-- A recorded action and the action itself: the stages that are called are those of the pipelines that
the recorded action keeps. -/
def recording : Correspondence Recorded Act where
  rel recorded action := ∀ s events, ∃ made,
    perform recorded (s, events) = ((perform action s).1, ((perform action s).2, events ++ made)) ∧
      (perform action s).2.calls = s.calls ++ made.flatMap Event.calls
  rel_pure _ s events := ⟨[], by simp, by simp⟩
  rel_bind {_ _ recorded action next next'} haction hnext s events := by
    obtain ⟨made, hperform, hcalls⟩ := haction s events
    rcases h : perform action s with ⟨e | a, t⟩
    · rw [h] at hperform hcalls
      rw [perform_bind_of_error hperform, perform_bind_of_error h]
      exact ⟨made, rfl, hcalls⟩
    · rw [h] at hperform hcalls
      rw [perform_bind_of_ok hperform, perform_bind_of_ok h]
      obtain ⟨made', hperform', hcalls'⟩ := hnext a t (events ++ made)
      refine ⟨made ++ made', by rw [hperform', List.append_assoc], ?_⟩
      rw [hcalls', hcalls, List.flatMap_append, List.append_assoc]

lemma recording_ofAct {action : Act α} (h : ∀ s, (perform action s).2.calls = s.calls) :
    recording.rel (ofAct action) action :=
  fun s events => ⟨[], by rw [perform_ofAct, List.append_nil], by simp [h s]⟩

lemma perform_recordRun (spec text : String) (run : Traced RunError Output) (s : Session)
    (events : List Event) :
    perform (recordRun spec text run) (s, events) =
      (run.result.mapError .run,
        ({ s with calls := s.calls ++ run.calls }, events ++ [.executed spec text run])) := by
  rw [recordRun, perform_bind_of_ok (perform_record _ _ _), perform_ofAct, Act.perform_running]

lemma recording_run (spec text : String) (run : Traced RunError Output) :
    recording.rel (recordRun spec text run) (Act.running run) := by
  intro s events
  refine ⟨[.executed spec text run], ?_, ?_⟩
  · rw [perform_recordRun, Act.perform_running]
  · rw [Act.perform_running]
    simp [Event.calls]

lemma recording_execute (setup : Setup) (spec text : String) (options : Options) :
    recording.rel (recordExecute setup spec text options) (execute setup spec text options) :=
  recording.rel_bind (recording_ofAct (quiet_pipelineFor setup _).calls) fun _ =>
    recording_run spec text _

lemma recording_block {compile : String → String → Recorded Output}
    {compile' : String → String → Act Output}
    (h : ∀ ext text, recording.rel (compile ext text) (compile' ext text)) (ext text : String) :
    recording.rel (recordBlock compile options ext text) (runBlock compile' options ext text) :=
  recording.rel_bind (h ext text) fun _ =>
    recording_ofAct fun s => by rw [Act.perform_rendering]

lemma recording_throw (e : EngineError) : recording.rel (throw e : Recorded α) (throw e) :=
  fun _ _ => ⟨[], by simp, by simp⟩

lemma recording_document {compile : String → String → Recorded Output}
    {compile' : String → String → Act Output}
    (options : Options) (h : ∀ ext text, recording.rel (compile ext text) (compile' ext text))
    (text : String) :
    recording.rel (recordDocument compile options text) (compileDocument compile' options text) := by
  rw [compileDocument_eq]
  exact Document.compile_related recording _ (fun _ _ _ => recording_block h _ _)
    fun _ _ _ => recording_throw _

lemma recording_wildcard {compile : String → String → Recorded Output}
    {compile' : String → String → Act Output} (options : Options)
    (h : ∀ ext text, recording.rel (compile ext text) (compile' ext text)) (text : String) :
    recording.rel (recordWildcard compile options text)
      (do
        let text ← compileDocument compile' options text
        pure (Output.text text)) :=
  recording.rel_bind (recording_document options h text) fun text =>
    recording.rel_pure (Output.text text)

lemma recording_opened {recorded : Recorded α} {action : Act α} (h : recording.rel recorded action)
    (text : String) :
    recording.rel (do record (.opened text); recorded) action := by
  intro s events
  obtain ⟨made, hperform, hcalls⟩ := h s (events ++ [.opened text])
  rw [List.append_assoc] at hperform
  exact ⟨.opened text :: made, (perform_bind_of_ok (perform_record _ _ _) _).trans hperform, hcalls⟩

/-- A recorded run gives what the run gives and leaves the session that it leaves, and all stages that
are called are called by the pipelines that it keeps. -/
theorem recording_compileWithin (setup : Setup) (options : Options) (depth : Nat) (ext text : String) :
    recording.rel (recordWithin setup options depth ext text)
      (compileWithin setup options depth ext text) := by
  induction depth generalizing ext text with
  | zero =>
    rw [recordWithin, compileWithin]
    refine recording.rel_bind (recording_ofAct (quiet_ensure setup _).calls) ?_
    intro target
    cases target with
    | chain spec => exact recording_execute setup spec text options
    | wildcard => exact recording_throw _
  | succ depth ih =>
    rw [recordWithin, compileWithin]
    refine recording.rel_bind (recording_ofAct (quiet_ensure setup _).calls) ?_
    intro target
    cases target with
    | chain spec => exact recording_execute setup spec text options
    | wildcard => exact recording_opened (recording_wildcard options ih text) text

lemma perform_recordWithin (setup : Setup) (options : Options) (depth : Nat) (ext text : String)
    (s : Session) :
    perform (recordWithin setup options depth ext text) (s, []) =
        ((perform (compileWithin setup options depth ext text) s).1,
          ((perform (compileWithin setup options depth ext text) s).2,
            events setup options depth ext text s)) ∧
      (perform (compileWithin setup options depth ext text) s).2.calls =
        s.calls ++ (events setup options depth ext text s).flatMap Event.calls := by
  obtain ⟨made, hperform, hcalls⟩ := recording_compileWithin setup options depth ext text s []
  have hmade : events setup options depth ext text s = made := by
    rw [events, hperform, List.nil_append]
  rw [hmade]
  exact ⟨hperform, hcalls⟩

end Registry

end TextChain
