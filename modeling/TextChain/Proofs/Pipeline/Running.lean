import Mathlib
import TextChain.Pipeline

/-!
# Running stages one after the other

A run of stages can be cut anywhere: the stages in front run first, what they made is handed on as
text, and the other stages run on that text (`run_append`).
-/

namespace TextChain

/-! ### Traced runs in two parts -/

namespace Traced

variable {ε α β : Type} {run : Traced ε α} {next next' : α → Traced ε β} {e : ε}

/-- After a run, only what it made matters. -/
lemma bind_congr_of_ok (h : ∀ a, run.result = .ok a → next a = next' a) :
    run >>= next = run >>= next' := by
  cases hresult : run.result with
  | error e => rw [bind_of_error hresult, bind_of_error hresult]
  | ok a => rw [bind_of_ok hresult, bind_of_ok hresult, h a hresult]

/-- A run starts with the calls of its first part. -/
lemma prefix_bind (run : Traced ε α) (next : α → Traced ε β) : run.calls <+: (run >>= next).calls := by
  cases hresult : run.result with
  | error e => rw [bind_of_error hresult]
  | ok a =>
    rw [bind_of_ok hresult]
    exact List.prefix_append _ _

/-- A run that fails does so in its first part, or in the second one. -/
lemma error_of_bind (h : (run >>= next).result = .error e) :
    run >>= next = ⟨run.calls, .error e⟩ ∧ run.result = .error e ∨
      ∃ a, run.result = .ok a ∧ (next a).result = .error e := by
  cases hresult : run.result with
  | error e' =>
    rw [bind_of_error hresult] at h ⊢
    cases h
    exact .inl ⟨rfl, rfl⟩
  | ok a =>
    rw [bind_of_ok hresult] at h
    exact .inr ⟨a, rfl, h⟩

end Traced

/-- An error that is made from another one is none that is never made so. -/
lemma mapError_ne_error {ε ε' α : Type} {f : ε → ε'} {e : ε'} (hne : ∀ reason, f reason ≠ e)
    (result : Except ε α) : result.mapError f ≠ .error e := by
  cases result with
  | error reason => exact fun h => hne reason (Except.error.inj h)
  | ok a => nofun

/-! ### Handing output on -/

namespace ForceMode

variable {mode : ForceMode} {options : Options} {text : String} {stages stages' : List Stage}

/-- The text that stages hand to the stages after them. Where there are no stages in front, the output
is the text that the run starts with. -/
def handOn (mode : ForceMode) (options : Options) (stages : List Stage) (output : Output) :
    Except RunError String :=
  match stages.getLast? with
  | some last => mode.handOver options last output
  | none => (output.force options).mapError .render

lemma handOver_auto (options : Options) (previous : Stage) (output : Output) :
    auto.handOver options previous output = (output.force options).mapError .render := by
  cases output <;> rfl

lemma handOn_auto (options : Options) (stages : List Stage) (output : Output) :
    auto.handOn options stages output = (output.force options).mapError .render := by
  unfold handOn
  cases stages.getLast? with
  | none => rfl
  | some last => exact handOver_auto options last output

lemma handOn_text (mode : ForceMode) (options : Options) (stages : List Stage) (text : String) :
    mode.handOn options stages (.text text) = .ok text := by
  unfold handOn
  cases stages.getLast? <;> rfl

lemma runAfter_append (previous : Stage) (output : Output) (stages stages' : List Stage) :
    mode.runAfter options previous output (stages ++ stages') =
      mode.runAfter options previous output stages >>= fun output =>
        mode.runAfter options (stages.getLast?.getD previous) output stages' := by
  induction stages generalizing previous output with
  | nil => rw [List.nil_append, runAfter, pure_bind]; rfl
  | cons stage rest ih =>
    rw [List.cons_append, runAfter, runAfter, bind_assoc]
    congr 1
    funext text
    rw [bind_assoc]
    congr 1
    funext output
    rw [ih, List.getLast?_cons, Option.getD_some]

/-- Running stages and then others is handing the text of the first to the run of the others. -/
theorem run_append (text : String) (stages : List Stage) (hne : stages' ≠ []) :
    mode.run options text (stages ++ stages') =
      (do
        let output ← mode.run options text stages
        let text ← Traced.ofExcept (mode.handOn options stages output)
        mode.run options text stages') := by
  obtain ⟨next, rest, rfl⟩ := List.exists_cons_of_ne_nil hne
  cases stages with
  | nil => rfl
  | cons stage stages =>
    rw [List.cons_append, run, run, bind_assoc]
    congr 1
    funext output
    rw [runAfter_append]
    congr 1
    funext output
    rw [handOn, List.getLast?_cons]
    rfl

lemma run_singleton (text : String) (stage : Stage) :
    mode.run options text [stage] = stage.call text options := by
  rw [run]
  exact bind_pure (stage.call text options)

/-- A renderer is made by the last of the stages. -/
lemma exists_getLast?_of_deferred {renderer : Renderer}
    (h : (mode.run options text stages).result = .ok (.deferred renderer)) :
    ∃ last, stages.getLast? = some last := by
  cases stages with
  | nil => cases h
  | cons stage rest => exact ⟨_, List.getLast?_cons⟩

end ForceMode

end TextChain
