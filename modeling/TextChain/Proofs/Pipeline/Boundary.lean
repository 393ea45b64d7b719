import TextChain.Proofs.Pipeline.Running
import TextChain.Stage.Template

/-!
# The boundary

A boundary before the last stage of a chain only turns what the chain makes into a renderer, as long as
the stages hand on text; a boundary at the end freezes the text with the options of the run
(`execute_bounded`).
-/

namespace TextChain

namespace Pipeline

variable {mode : ForceMode} {options : Options} {text : String} {names : List String} {name : String}
  {stages : List Stage} {last : Stage}

/-- The pipeline of a chain without a boundary. -/
def plain (mode : ForceMode) (names : List String) (stages : List Stage) : Pipeline :=
  ⟨⟨⟨names, none, false⟩, stages, none⟩, mode⟩

/-- The pipeline of a chain with a boundary after the stages, and possibly one stage after that. -/
def bounded (mode : ForceMode) (names : List String) (stages : List Stage)
    (last : Option (String × Stage)) : Pipeline :=
  ⟨⟨⟨names, last.map Prod.fst, true⟩, stages, last.map Prod.snd⟩, mode⟩

/-- The second run makes the calls of the first, fails with its error, and gives what it makes as a
renderer. -/
def SameAsRenderer (run run' : Traced RunError Output) : Prop :=
  run'.calls = run.calls ∧ run'.result = run.result.map fun output => .deferred output.toRenderer

/-- The second run makes the calls of the first and fails with its error. What the first makes is forced
with the options of the run, and the second gives a renderer that has this text for all options. -/
structure Frozen (options : Options) (run run' : Traced RunError Output) : Prop where
  calls : run'.calls = run.calls
  failed : ∀ e, run.result = .error e → run'.result = .error e
  refused : ∀ output reason, run.result = .ok output → output.force options = .error reason →
    run'.result = .error (.render reason)
  frozen : ∀ output forced, run.result = .ok output → output.force options = .ok forced →
    ∃ renderer, run'.result = .ok (.deferred renderer) ∧
      ∀ options', renderer.render options' = .ok forced

/-! ### The steps of the two kinds of pipelines -/

lemma execute_plain (mode : ForceMode) (names : List String) (stages : List Stage) :
    (plain mode names stages).execute text options = mode.run options text stages :=
  bind_pure (mode.run options text stages)

lemma execute_plain_concat :
    (plain mode names (stages ++ [last])).execute text options =
      (do
        let output ← mode.run options text stages
        let text ← Traced.ofExcept (mode.handOn options stages output)
        last.call text options) := by
  simp only [execute_plain, ForceMode.run_append text stages (List.cons_ne_nil last []),
    ForceMode.run_singleton]

lemma execute_bounded_none :
    (bounded mode names stages none).execute text options =
      (do
        let output ← mode.run options text stages
        let text ← Traced.ofExcept ((output.force options).mapError .render)
        pure (.deferred (.const text))) :=
  rfl

lemma execute_bounded_some :
    (bounded mode names stages (some (name, last))).execute text options =
      (do
        let output ← mode.run options text stages
        let text ← Traced.ofExcept ((output.force options).mapError .render)
        let output ← last.call text options
        pure (.deferred output.toRenderer)) :=
  rfl

/-! ### Boundary before the last stage -/

lemma sameAsRenderer_bind (run : Traced RunError Output) :
    SameAsRenderer run (run >>= fun output => pure (.deferred output.toRenderer)) := by
  cases hresult : run.result with
  | error e =>
    rw [Traced.bind_of_error hresult]
    exact ⟨rfl, by rw [hresult]; rfl⟩
  | ok output =>
    rw [Traced.bind_of_ok hresult]
    exact ⟨List.append_nil _, by rw [hresult]; rfl⟩

/-- If forcing the output of the stages is what handing it on is, the boundary makes a renderer and
nothing else. -/
lemma sameAsRenderer_of_handOn (names' : List String)
    (h : ∀ output, (mode.run options text stages).result = .ok output →
      mode.handOn options stages output = (output.force options).mapError .render) :
    SameAsRenderer ((plain mode names' (stages ++ [last])).execute text options)
      ((bounded mode names stages (some (name, last))).execute text options) := by
  have heq : (bounded mode names stages (some (name, last))).execute text options =
      (plain mode names' (stages ++ [last])).execute text options >>= fun output =>
        pure (.deferred output.toRenderer) := by
    rw [execute_bounded_some, execute_plain_concat, bind_assoc]
    refine Traced.bind_congr_of_ok fun output houtput => ?_
    rw [h output houtput, bind_assoc]
  rw [heq]
  exact sameAsRenderer_bind _

/-- In strict mode a renderer is not handed on to the last stage. -/
lemma execute_plain_of_deferred {renderer : Renderer}
    (h : (ForceMode.strict.run options text stages).result = .ok (.deferred renderer)) :
    ∃ previous ∈ stages.getLast?, (plain .strict names (stages ++ [last])).execute text options =
      ⟨(ForceMode.strict.run options text stages).calls, .error (.deferredBetween previous.name)⟩ := by
  obtain ⟨previous, hprevious⟩ := ForceMode.exists_getLast?_of_deferred h
  refine ⟨previous, hprevious, ?_⟩
  have hhand : ForceMode.strict.handOn options stages (.deferred renderer) =
      .error (.deferredBetween previous.name) := by
    rw [ForceMode.handOn, hprevious]
    rfl
  rw [execute_plain_concat, Traced.bind_of_ok h, hhand]
  simp [Traced.bind_def, Traced.bind, Traced.ofExcept]

/-- A renderer before the boundary is forced, and the last stage runs on its text. -/
lemma execute_bounded_of_deferred {renderer : Renderer}
    (h : (mode.run options text stages).result = .ok (.deferred renderer)) :
    (bounded mode names stages (some (name, last))).execute text options =
      match renderer.render options with
      | .error reason => ⟨(mode.run options text stages).calls, .error (.render reason)⟩
      | .ok forced =>
        ⟨(mode.run options text stages).calls ++ (last.call forced options).calls,
          (last.call forced options).result.map fun output => .deferred output.toRenderer⟩ := by
  rw [execute_bounded_some, Traced.bind_of_ok h, Output.force]
  cases renderer.render options with
  | error reason =>
    rw [Traced.bind_of_error rfl]
    exact congrArg (Traced.mk · _) (List.append_nil _)
  | ok forced =>
    obtain ⟨hcalls, hresult⟩ := sameAsRenderer_bind (last.call forced options)
    rw [Traced.bind_of_ok rfl, hcalls, hresult]
    rfl

/-! ### Boundary at the end -/

lemma frozen_bind (options : Options) (run : Traced RunError Output) :
    Frozen options run (do
      let output ← run
      let text ← Traced.ofExcept ((output.force options).mapError .render)
      pure (.deferred (.const text))) where
  calls := by
    cases h : run.result with
    | error e => rw [Traced.bind_of_error h]
    | ok output =>
      rw [Traced.bind_of_ok h]
      cases output.force options <;> exact List.append_nil _
  failed e h := by rw [Traced.bind_of_error h]
  refused output reason h hreason := by
    rw [Traced.bind_of_ok h, hreason]
    rfl
  frozen output forced h hforced := by
    rw [Traced.bind_of_ok h, hforced]
    exact ⟨.const forced, rfl, fun _ => rfl⟩

lemma frozen_bounded_none (mode : ForceMode) (names : List String) :
    Frozen options ((plain mode names stages).execute text options)
      ((bounded mode names stages none).execute text options) := by
  rw [execute_plain, execute_bounded_none]
  exact frozen_bind options _

/-- What a boundary does. Before the last stage it turns the output into a renderer and nothing else in
auto mode; in strict mode as well, unless the stages before it made a renderer, which is refused without
the boundary and forced with it. At the end it freezes the text of the output, in either mode. -/
theorem execute_bounded (options : Options) (text : String) (names : List String) (name : String)
    (stages : List Stage) (last : Stage) :
    SameAsRenderer ((plain .auto (names ++ [name]) (stages ++ [last])).execute text options)
      ((bounded .auto names stages (some (name, last))).execute text options) ∧
    (∀ mode, Frozen options ((plain mode names stages).execute text options)
      ((bounded mode names stages none).execute text options)) ∧
    ((∀ renderer, ((plain .strict names stages).execute text options).result ≠
        .ok (.deferred renderer)) →
      SameAsRenderer ((plain .strict (names ++ [name]) (stages ++ [last])).execute text options)
        ((bounded .strict names stages (some (name, last))).execute text options)) ∧
    ∀ renderer, ((plain .strict names stages).execute text options).result =
        .ok (.deferred renderer) →
      (∃ previous ∈ stages.getLast?,
        (plain .strict (names ++ [name]) (stages ++ [last])).execute text options =
          ⟨((plain .strict names stages).execute text options).calls,
            .error (.deferredBetween previous.name)⟩) ∧
      (bounded .strict names stages (some (name, last))).execute text options =
        match renderer.render options with
        | .error reason =>
          ⟨((plain .strict names stages).execute text options).calls, .error (.render reason)⟩
        | .ok forced =>
          ⟨((plain .strict names stages).execute text options).calls ++
              (last.call forced options).calls,
            (last.call forced options).result.map fun output => .deferred output.toRenderer⟩ := by
  rw [execute_plain .strict names stages]
  refine ⟨?_, fun mode => frozen_bounded_none mode names, ?_, ?_⟩
  · exact sameAsRenderer_of_handOn _ fun output _ => ForceMode.handOn_auto options stages output
  · intro htext
    refine sameAsRenderer_of_handOn _ fun output houtput => ?_
    cases output with
    | text value => exact ForceMode.handOn_text .strict options stages value
    | deferred renderer => exact absurd houtput (htext renderer)
  · intro renderer h
    exact ⟨execute_plain_of_deferred h, execute_bounded_of_deferred h⟩

/-- A template that is handed to another stage in strict mode is refused. -/
theorem execute_bounded_template :
    ∃ previous ∈ [Stage.template "template" .builtIn].getLast?,
      (plain .strict ["template", "html"]
          [.template "template" .builtIn, .passthrough "html" .builtIn]).execute "x" .empty =
        ⟨[⟨"template", .builtIn, "x"⟩], .error (.deferredBetween previous.name)⟩ :=
  ((execute_bounded .empty "x" ["template"] "html" [.template "template" .builtIn]
    (.passthrough "html" .builtIn)).2.2.2 _ rfl).1

end Pipeline

end TextChain
