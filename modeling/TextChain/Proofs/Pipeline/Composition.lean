import TextChain.Proofs.Pipeline.Running
import TextChain.Stage.Template

/-!
# Runs of stages compose

A run without stages gives its text, a run of one stage is the call of that stage, and a run of stages
goes on with further stages on the text that it made. These laws determine every run (`run_composes`).
They also fix what is called on what, and whose name a refused renderer is reported under.
-/

namespace TextChain

namespace ForceMode

variable {mode : ForceMode} {options : Options} {text name : String} {stage : Stage}
  {stages stages' rest : List Stage}

/-- How the run of some stages goes on with further stages, which start with a text. All that is asked of a
renderer is one text, for the options of the run. -/
structure Continues (mode : ForceMode) (options : Options) (stages : List Stage)
    (first : Traced RunError Output) (next : String → Traced RunError Output)
    (whole : Traced RunError Output) : Prop where
  /-- After a failure nothing more is called. -/
  failed : ∀ e, first.result = .error e → whole = ⟨first.calls, .error e⟩
  text : ∀ text, first.result = .ok (.text text) →
    whole = ⟨first.calls ++ (next text).calls, (next text).result⟩
  /-- In auto mode the text of a renderer is handed on. -/
  rendered : mode = .auto → ∀ renderer text, first.result = .ok (.deferred renderer) →
    renderer.render options = .ok text →
    whole = ⟨first.calls ++ (next text).calls, (next text).result⟩
  /-- In auto mode a renderer that fails ends the run. -/
  unrendered : mode = .auto → ∀ renderer reason, first.result = .ok (.deferred renderer) →
    renderer.render options = .error reason → whole = ⟨first.calls, .error (.render reason)⟩
  /-- In strict mode a renderer ends the run, under the name of the stage that made it. -/
  refused : mode = .strict → ∀ renderer, first.result = .ok (.deferred renderer) →
    ∃ last ∈ stages.getLast?, whole = ⟨first.calls, .error (.deferredBetween last.name)⟩

/-- The laws of running stages one after the other. -/
structure Composes (mode : ForceMode) (options : Options)
    (run : String → List Stage → Traced RunError Output) : Prop where
  nil : ∀ text, run text [] = ⟨[], .ok (.text text)⟩
  singleton : ∀ text stage, run text [stage] =
    ⟨[⟨stage.name, stage.origin, text⟩], (stage.run text options).mapError (.stage stage.name)⟩
  append : ∀ text stages stages', stages' ≠ [] →
    Continues mode options stages (run text stages) (fun text => run text stages')
      (run text (stages ++ stages'))

/-- The calls of a run: the first stages in their order, each on what the stage before it made. -/
structure Follows (mode : ForceMode) (options : Options) (text : String) (stages : List Stage)
    (calls : List Call) : Prop where
  /-- A run calls the stages that the list starts with. -/
  inOrder : calls.map (fun call => (call.stage, call.origin)) <+:
    stages.map fun stage => (stage.name, stage.origin)
  /-- The first call has the text of the run. -/
  first : ∀ call ∈ calls.head?, call.input = text
  /-- Every other call has the forced output of the call before it. -/
  fed : ∀ (i : Nat) stage call next, stages[i]? = some stage → calls[i]? = some call →
    calls[i + 1]? = some next → ∃ output, stage.run call.input options = .ok output ∧
      output.force options = .ok next.input ∧ (mode = .strict → output = .text next.input)

/-! ### One stage of a run -/

/-- Output that is handed over is forced to text, and in strict mode it is text already. -/
lemma handOver_eq_ok {output : Output} (h : mode.handOver options stage output = .ok text) :
    output.force options = .ok text ∧ (mode = .strict → output = .text text) := by
  cases mode with
  | strict =>
    cases output with
    | text value =>
      cases h
      exact ⟨rfl, fun _ => rfl⟩
    | deferred renderer => cases h
  | auto =>
    rw [handOver_auto] at h
    refine ⟨?_, nofun⟩
    cases hforce : output.force options with
    | error reason =>
      rw [hforce] at h
      cases h
    | ok forced =>
      rw [hforce] at h
      cases h
      rfl

/-- Output is refused under the name of the stage that made it. -/
lemma name_of_handOver_eq_deferredBetween {output : Output}
    (h : mode.handOver options stage output = .error (.deferredBetween name)) :
    name = stage.name := by
  cases mode with
  | strict =>
    cases output with
    | text value => cases h
    | deferred renderer =>
      cases h
      rfl
  | auto =>
    rw [handOver_auto] at h
    exact absurd h (mapError_ne_error nofun _)

lemma runAfter_eq_run (previous : Stage) (output : Output) (hne : stages ≠ []) :
    mode.runAfter options previous output stages =
      Traced.ofExcept (mode.handOver options previous output) >>= fun text =>
        mode.run options text stages := by
  obtain ⟨stage, rest, rfl⟩ := List.exists_cons_of_ne_nil hne
  rfl

/-- What the first stage of a run does, and how the run goes on. -/
inductive Turn (mode : ForceMode) (options : Options) (text : String) (stage : Stage)
    (rest : List Stage) : Traced RunError Output → Prop
  | failed {reason : StageError} (h : stage.run text options = .error reason) :
    Turn mode options text stage rest
      ⟨[⟨stage.name, stage.origin, text⟩], .error (.stage stage.name reason)⟩
  /-- There is no stage after it. -/
  | last {output : Output} (h : stage.run text options = .ok output) (hrest : rest = []) :
    Turn mode options text stage rest ⟨[⟨stage.name, stage.origin, text⟩], .ok output⟩
  /-- What it makes cannot be handed on. -/
  | stopped {output : Output} {e : RunError} (h : stage.run text options = .ok output)
    (hrest : rest ≠ []) (hover : mode.handOver options stage output = .error e) :
    Turn mode options text stage rest ⟨[⟨stage.name, stage.origin, text⟩], .error e⟩
  /-- The other stages run on what it makes. -/
  | onward {output : Output} {handed : String} (h : stage.run text options = .ok output)
    (hrest : rest ≠ []) (hover : mode.handOver options stage output = .ok handed) :
    Turn mode options text stage rest
      ⟨⟨stage.name, stage.origin, text⟩ :: (mode.run options handed rest).calls,
        (mode.run options handed rest).result⟩

lemma turn_of_run {whole : Traced RunError Output}
    (h : mode.run options text (stage :: rest) = whole) : Turn mode options text stage rest whole := by
  rw [← h, run]
  cases hrun : stage.run text options with
  | error reason =>
    have hcall : (stage.call text options).result = .error (.stage stage.name reason) := by
      rw [Stage.call, hrun]
      rfl
    rw [Traced.bind_of_error hcall]
    exact .failed hrun
  | ok output =>
    have hcall : (stage.call text options).result = .ok output := by
      rw [Stage.call, hrun]
      rfl
    rw [Traced.bind_of_ok hcall]
    by_cases hrest : rest = []
    · subst hrest
      exact .last hrun rfl
    · rw [runAfter_eq_run stage output hrest]
      cases hover : mode.handOver options stage output with
      | error e =>
        rw [Traced.bind_of_error rfl]
        exact .stopped hrun hrest hover
      | ok handed =>
        rw [Traced.bind_of_ok rfl]
        exact .onward hrun hrest hover

/-! ### The calls of a run -/

lemma follows_singleton : Follows mode options text (stage :: rest)
    [⟨stage.name, stage.origin, text⟩] where
  inOrder := by simp
  first := by simp
  fed := by simp

lemma Follows.cons {output : Output} {handed : String} {calls : List Call}
    (hrun : stage.run text options = .ok output)
    (hover : mode.handOver options stage output = .ok handed)
    (h : Follows mode options handed rest calls) :
    Follows mode options text (stage :: rest) (⟨stage.name, stage.origin, text⟩ :: calls) where
  inOrder := by
    rw [List.map_cons, List.map_cons]
    exact List.cons_prefix_cons.2 ⟨rfl, h.inOrder⟩
  first := by simp
  fed i stage' call next hstage hcall hnext := by
    cases i with
    | zero =>
      cases hstage
      cases hcall
      have hinput : next.input = handed := h.first next (by simpa [List.head?_eq_getElem?] using hnext)
      rw [hinput]
      exact ⟨output, hrun, handOver_eq_ok hover⟩
    | succ i => exact h.fed i stage' call next hstage hcall hnext

lemma follows_run (mode : ForceMode) (options : Options) (text : String) (stages : List Stage) :
    Follows mode options text stages (mode.run options text stages).calls := by
  induction stages generalizing text with
  | nil => exact ⟨List.nil_prefix, nofun, nofun⟩
  | cons stage rest ih =>
    generalize hrun : mode.run options text (stage :: rest) = whole
    cases turn_of_run hrun with
    | failed h => exact follows_singleton
    | last h hrest => exact follows_singleton
    | stopped h hrest hover => exact follows_singleton
    | onward h hrest hover => exact (ih _).cons h hover

/-- A renderer is refused after the last call of the run, under the name of the stage called there, and
only if there is a stage after it. -/
lemma getLast?_of_deferredBetween
    (h : (mode.run options text stages).result = .error (.deferredBetween name)) :
    ∃ call ∈ (mode.run options text stages).calls.getLast?, call.stage = name ∧
      (mode.run options text stages).calls.length < stages.length := by
  induction stages generalizing text with
  | nil => cases h
  | cons stage rest ih =>
    generalize hrun : mode.run options text (stage :: rest) = whole at h ⊢
    cases turn_of_run hrun with
    | failed => cases h
    | last => cases h
    | stopped _ hrest hover =>
      cases h
      obtain rfl := name_of_handOver_eq_deferredBetween hover
      exact ⟨_, rfl, rfl, by simpa using List.length_pos_iff.2 hrest⟩
    | onward =>
      obtain ⟨call, hlast, hname, hlt⟩ := ih h
      refine ⟨call, ?_, hname, Nat.succ_lt_succ hlt⟩
      rw [List.getLast?_cons, Option.mem_def.1 hlast]
      rfl

/-! ### The name of the stage before -/

/-- The text that is handed to the next stage when no more than a name is known of the stage before. -/
def handOverFrom (mode : ForceMode) (options : Options) (previous : String) :
    Output → Except RunError String
  | .text text => .ok text
  | .deferred renderer =>
    match mode with
    | .strict => .error (.deferredBetween previous)
    | .auto => (renderer.render options).mapError .render

/-- The run of the stages after some output that knows the stage before by its name. Before the first
stage there is no such name, and `unnamed` stands for it. -/
def runFrom (unnamed : String) (mode : ForceMode) (options : Options) (output : Output)
    (previous : Option String) : List Stage → Traced RunError Output
  | [] => pure output
  | stage :: rest => do
    let text ← Traced.ofExcept (mode.handOverFrom options (previous.getD unnamed) output)
    let output ← stage.call text options
    runFrom unnamed mode options output (some stage.name) rest

lemma handOverFrom_name (previous : Stage) (output : Output) :
    mode.handOverFrom options previous.name output = mode.handOver options previous output := by
  cases output <;> rfl

lemma runFrom_eq_runAfter (unnamed : String) (previous : Stage) (output : Output)
    (stages : List Stage) :
    runFrom unnamed mode options output (some previous.name) stages =
      mode.runAfter options previous output stages := by
  induction stages generalizing previous output with
  | nil => rfl
  | cons stage rest ih =>
    simp only [runFrom, runAfter, Option.getD_some, handOverFrom_name, ih]

/-- The name that stands for a missing stage is never used. -/
lemma runFrom_eq_run (unnamed text : String) (stages : List Stage) :
    runFrom unnamed mode options (.text text) none stages = mode.run options text stages := by
  cases stages with
  | nil => rfl
  | cons stage rest =>
    rw [runFrom, handOverFrom, Traced.bind_of_ok rfl, run]
    simp only [runFrom_eq_runAfter]
    rfl

/-! ### The laws -/

lemma continues_run (text : String) (stages : List Stage) (hne : stages' ≠ []) :
    Continues mode options stages (mode.run options text stages)
      (fun text => mode.run options text stages') (mode.run options text (stages ++ stages')) := by
  rw [run_append text stages hne]
  refine ⟨fun e h => ?_, fun value h => ?_, ?_, ?_, ?_⟩
  · rw [Traced.bind_of_error h]
  · rw [Traced.bind_of_ok h, handOn_text, Traced.bind_of_ok rfl]
    rfl
  · rintro rfl renderer value h hrender
    rw [Traced.bind_of_ok h, handOn_auto, Output.force, hrender, Traced.bind_of_ok rfl]
    rfl
  · rintro rfl renderer reason h hrender
    rw [Traced.bind_of_ok h, handOn_auto, Output.force, hrender, Traced.bind_of_error rfl]
    exact congrArg (Traced.mk · _) (List.append_nil _)
  · rintro rfl renderer h
    obtain ⟨last, hlast⟩ := exists_getLast?_of_deferred h
    refine ⟨last, hlast, ?_⟩
    rw [Traced.bind_of_ok h, handOn, hlast]
    exact congrArg (Traced.mk · _) (List.append_nil _)

lemma composes_run (mode : ForceMode) (options : Options) : Composes mode options (mode.run options) where
  nil _ := rfl
  singleton text stage := run_singleton text stage
  append text stages _ hne := continues_run text stages hne

/-- There is one way to go on after a run. -/
lemma Continues.unique {first whole whole' : Traced RunError Output}
    {next : String → Traced RunError Output}
    (h : Continues mode options stages first next whole)
    (h' : Continues mode options stages first next whole') : whole = whole' := by
  cases hresult : first.result with
  | error e => rw [h.failed e hresult, h'.failed e hresult]
  | ok output =>
    cases output with
    | text value => rw [h.text value hresult, h'.text value hresult]
    | deferred renderer =>
      cases mode with
      | strict =>
        obtain ⟨last, hlast, rfl⟩ := h.refused rfl renderer hresult
        obtain ⟨last', hlast', rfl⟩ := h'.refused rfl renderer hresult
        rw [Option.mem_unique hlast hlast']
      | auto =>
        cases hrender : renderer.render options with
        | error reason =>
          rw [h.unrendered rfl renderer reason hresult hrender,
            h'.unrendered rfl renderer reason hresult hrender]
        | ok value =>
          rw [h.rendered rfl renderer value hresult hrender,
            h'.rendered rfl renderer value hresult hrender]

/-- The laws leave no choice, because every list is put together from single stages. -/
lemma Composes.unique {f g : String → List Stage → Traced RunError Output}
    (hf : Composes mode options f) (hg : Composes mode options g) : f = g := by
  funext text stages
  induction stages generalizing text with
  | nil => rw [hf.nil, hg.nil]
  | cons stage rest ih =>
    by_cases hrest : rest = []
    · rw [hrest, hf.singleton, hg.singleton]
    · have hcontinues := hf.append text [stage] rest hrest
      rw [hf.singleton, ← hg.singleton] at hcontinues
      simp only [ih] at hcontinues
      exact hcontinues.unique (hg.append text [stage] rest hrest)

/-- Running stages obeys the laws of composition, and nothing else does. A run calls the first stages in
their order, each on the forced output of the one before. A renderer that is refused is reported under
the name of the stage called last, which has a stage after it; the name that would stand for a missing
stage is never used. -/
theorem run_composes (mode : ForceMode) (options : Options) :
    Composes mode options (mode.run options) ∧
    (∀ f, Composes mode options f → f = mode.run options) ∧
    ∀ text stages,
      Follows mode options text stages (mode.run options text stages).calls ∧
      (∀ unnamed, runFrom unnamed mode options (.text text) none stages =
        mode.run options text stages) ∧
      ∀ name, (mode.run options text stages).result = .error (.deferredBetween name) →
        ∃ call ∈ (mode.run options text stages).calls.getLast?, call.stage = name ∧
          (mode.run options text stages).calls.length < stages.length := by
  refine ⟨composes_run mode options, fun f hf => hf.unique (composes_run mode options), ?_⟩
  intro text stages
  refine ⟨follows_run mode options text stages, ?_, fun name h => getLast?_of_deferredBetween h⟩
  exact fun unnamed => runFrom_eq_run unnamed text stages

/-- A template in front of another stage is refused under its own name. -/
theorem run_composes_template :
    ∃ call ∈ (strict.run .empty "x"
        [.passthrough "text" .builtIn, .template "page" .supplied,
          .passthrough "html" .builtIn]).calls.getLast?,
      call.stage = "page" ∧
        (strict.run .empty "x"
          [.passthrough "text" .builtIn, .template "page" .supplied,
            .passthrough "html" .builtIn]).calls.length < 3 :=
  ((run_composes .strict .empty).2.2 "x"
    [.passthrough "text" .builtIn, .template "page" .supplied,
      .passthrough "html" .builtIn]).2.2 "page" rfl

end ForceMode

end TextChain
