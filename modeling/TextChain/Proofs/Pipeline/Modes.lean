import TextChain.Proofs.Pipeline.Composition

/-!
# Strict mode and auto mode

Strict mode only stops earlier: a pipeline that does not meet a renderer between two stages does the same in
both modes, and one that does stops there, after calls that auto mode makes as well
(`execute_auto_of_strict`).
-/

namespace TextChain

variable {options : Options} {text name : String}

/-! ### Runs of which one stops earlier -/

namespace Traced

variable {α β : Type} {run run' : Traced RunError α} {next next' : α → Traced RunError β}

/-- The second run does what the first one does, unless the first one refuses a renderer. Then it starts
with the calls of the first. -/
def Extends (run run' : Traced RunError α) : Prop :=
  run' = run ∨ (∃ name, run.result = .error (.deferredBetween name)) ∧ run.calls <+: run'.calls

lemma Extends.refl (run : Traced RunError α) : Extends run run :=
  .inl rfl

lemma Extends.prefix_calls (h : Extends run run') : run.calls <+: run'.calls := by
  rcases h with rfl | ⟨-, hcalls⟩
  · exact List.prefix_rfl
  · exact hcalls

/-- Runs that go on in related ways stay related. -/
lemma Extends.bind (h : Extends run run') (hnext : ∀ a, Extends (next a) (next' a)) :
    Extends (run >>= next) (run' >>= next') := by
  rcases h with rfl | ⟨⟨name, hname⟩, hcalls⟩
  · cases hresult : run'.result with
    | error e => exact .inl (by rw [bind_of_error hresult, bind_of_error hresult])
    | ok a =>
      rw [bind_of_ok hresult, bind_of_ok hresult]
      rcases hnext a with hnext | ⟨hname, hcalls⟩
      · exact .inl (by rw [hnext])
      · exact .inr ⟨hname, (List.prefix_append_right_inj _).2 hcalls⟩
  · rw [bind_of_error hname]
    exact .inr ⟨⟨name, rfl⟩, hcalls.trans (prefix_bind run' next')⟩

end Traced

open Traced (Extends)

/-! ### Runs of stages -/

namespace ForceMode

/-- The modes differ only in what they do with a renderer. -/
lemma extends_handOver (previous : Stage) (output : Output) :
    Extends (.ofExcept (strict.handOver options previous output))
      (.ofExcept (auto.handOver options previous output)) := by
  cases output with
  | text value => exact .refl _
  | deferred renderer => exact .inr ⟨⟨previous.name, rfl⟩, List.nil_prefix⟩

lemma extends_runAfter (previous : Stage) (output : Output) (stages : List Stage) :
    Extends (strict.runAfter options previous output stages)
      (auto.runAfter options previous output stages) := by
  induction stages generalizing previous output with
  | nil => exact .refl _
  | cons stage rest ih =>
    refine (extends_handOver previous output).bind fun text => ?_
    exact (Extends.refl (stage.call text options)).bind fun output => ih stage output

lemma extends_run (text : String) (stages : List Stage) :
    Extends (strict.run options text stages) (auto.run options text stages) := by
  cases stages with
  | nil => exact .refl _
  | cons stage rest =>
    exact (Extends.refl (stage.call text options)).bind fun output =>
      extends_runAfter stage output rest

end ForceMode

/-! ### Pipelines -/

/-- A stage that fails is not refused. -/
lemma Stage.result_call_ne_deferredBetween (stage : Stage) :
    (stage.call text options).result ≠ .error (.deferredBetween name) :=
  mapError_ne_error nofun _

namespace Pipeline

lemma extends_execute (linked : LinkedChain) (text : String) (options : Options) :
    Extends ((⟨linked, .strict⟩ : Pipeline).execute text options)
      ((⟨linked, .auto⟩ : Pipeline).execute text options) :=
  (ForceMode.extends_run text linked.pre).bind fun _ => .refl _

lemma result_runPost_ne_deferredBetween (post : Option Stage) :
    (runPost options text post).result ≠ .error (.deferredBetween name) := by
  cases post with
  | none => nofun
  | some stage => exact stage.result_call_ne_deferredBetween

/-- A pipeline refuses a renderer only in the run of the stages before the boundary. -/
lemma execute_of_deferredBetween {p : Pipeline}
    (h : (p.execute text options).result = .error (.deferredBetween name)) :
    p.execute text options =
        ⟨(p.mode.run options text p.linked.pre).calls, .error (.deferredBetween name)⟩ ∧
      (p.mode.run options text p.linked.pre).result = .error (.deferredBetween name) := by
  rcases Traced.error_of_bind h with hrun | ⟨output, -, h⟩
  · exact hrun
  · exfalso
    split_ifs at h with hforced
    · -- what follows is forcing the output, the last stage, and wrapping its output
      rcases Traced.error_of_bind h with ⟨-, h⟩ | ⟨forced, -, h⟩
      · exact mapError_ne_error nofun _ h
      · rcases Traced.error_of_bind h with ⟨-, h⟩ | ⟨output, -, h⟩
        · exact result_runPost_ne_deferredBetween p.linked.post h
        · cases h
    · cases h

/-- Auto mode extends strict mode. If strict mode does not refuse a renderer between two stages, then both
modes make the same calls and end in the same way. If it does, it has called a stage, the last of which is
the one that the refusal names, and auto mode starts with the same calls. -/
theorem execute_auto_of_strict (linked : LinkedChain) (text : String) (options : Options) :
    ((∀ name, ((⟨linked, .strict⟩ : Pipeline).execute text options).result ≠
        .error (.deferredBetween name)) →
      (⟨linked, .auto⟩ : Pipeline).execute text options =
        (⟨linked, .strict⟩ : Pipeline).execute text options) ∧
    ∀ name, ((⟨linked, .strict⟩ : Pipeline).execute text options).result =
        .error (.deferredBetween name) →
      ((⟨linked, .strict⟩ : Pipeline).execute text options).calls ≠ [] ∧
      ((⟨linked, .strict⟩ : Pipeline).execute text options).calls <+:
        ((⟨linked, .auto⟩ : Pipeline).execute text options).calls ∧
      ∃ call ∈ ((⟨linked, .strict⟩ : Pipeline).execute text options).calls.getLast?,
        call.stage = name := by
  have hextends := extends_execute linked text options
  constructor
  · intro hnone
    rcases hextends with heq | ⟨⟨name, hname⟩, -⟩
    · exact heq
    · exact absurd hname (hnone name)
  · intro name hname
    obtain ⟨hexecute, hrun⟩ := execute_of_deferredBetween hname
    obtain ⟨call, hlast, hcall, -⟩ := ForceMode.getLast?_of_deferredBetween hrun
    have hmem : call ∈ ((⟨linked, .strict⟩ : Pipeline).execute text options).calls.getLast? := by
      rw [hexecute]
      exact hlast
    exact ⟨List.ne_nil_of_mem (List.mem_of_getLast? hmem), hextends.prefix_calls, call, hmem, hcall⟩

/-- The chain `text > page > html`, in which a template stands between two stages that hand texts on. -/
def templateBetween : LinkedChain :=
  ⟨⟨["text", "page", "html"], none, false⟩,
    [.passthrough "text" .builtIn, .template "page" .supplied, .passthrough "html" .builtIn], none⟩

/-- Strict mode refuses the template, under its name, and auto mode calls the stage after it too. -/
theorem execute_auto_of_strict_templateBetween :
    ((⟨templateBetween, .strict⟩ : Pipeline).execute "x" .empty).result =
        .error (.deferredBetween "page") ∧
      ((⟨templateBetween, .strict⟩ : Pipeline).execute "x" .empty).calls ≠ [] ∧
      ((⟨templateBetween, .strict⟩ : Pipeline).execute "x" .empty).calls <+:
        ((⟨templateBetween, .auto⟩ : Pipeline).execute "x" .empty).calls ∧
      ∃ call ∈ ((⟨templateBetween, .strict⟩ : Pipeline).execute "x" .empty).calls.getLast?,
        call.stage = "page" :=
  ⟨rfl, (execute_auto_of_strict templateBetween "x" .empty).2 "page" rfl⟩

end Pipeline

end TextChain
