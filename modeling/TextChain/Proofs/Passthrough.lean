import TextChain.Proofs.Linking
import TextChain.Pipeline
import TextChain.Stage.Table

/-!
# Pipelines that hand texts on

A pipeline of stages that all hand their text on hands its text on as well, in either mode and with or
without a boundary. The built-in chains have such pipelines.
-/

namespace TextChain

variable {options : Options} {text name : String} {stages : List Stage} {stage : Stage}

/-- Whatever a stage is given, it hands on. -/
def Stage.HandsOn (stage : Stage) : Prop :=
  ∀ text options, stage.run text options = .ok (.text text)

/-- Whatever a pipeline makes of a text is, forced with the options, the text again. -/
def Pipeline.HandsOn (p : Pipeline) (options : Options) : Prop :=
  ∀ text output forced, (p.execute text options).result = .ok output →
    output.force options = .ok forced → forced = text

lemma Stage.handsOn_passthrough (name : String) (origin : Origin) :
    (Stage.passthrough name origin).HandsOn :=
  fun _ _ => rfl

lemma Stage.HandsOn.result_call (h : stage.HandsOn) (text : String) (options : Options) :
    (stage.call text options).result = .ok (.text text) := by
  rw [Stage.call, h text options]
  rfl

/-! ### Runs of stages -/

lemma ForceMode.result_runAfter (mode : ForceMode) (h : ∀ stage ∈ stages, stage.HandsOn)
    (previous : Stage) :
    (mode.runAfter options previous (.text text) stages).result = .ok (.text text) := by
  induction stages generalizing previous with
  | nil => rfl
  | cons stage rest ih =>
    have hcall := (h stage List.mem_cons_self).result_call text options
    rw [runAfter, Traced.bind_of_ok rfl, Traced.bind_of_ok hcall]
    exact ih (fun stage hmem => h stage (List.mem_cons_of_mem _ hmem)) stage

lemma ForceMode.result_run (mode : ForceMode) (text : String) (options : Options)
    (h : ∀ stage ∈ stages, stage.HandsOn) :
    (mode.run options text stages).result = .ok (.text text) := by
  cases stages with
  | nil => rfl
  | cons stage rest =>
    have hcall := (h stage List.mem_cons_self).result_call text options
    rw [run, Traced.bind_of_ok hcall]
    exact mode.result_runAfter (fun stage hmem => h stage (List.mem_cons_of_mem _ hmem)) stage

lemma Pipeline.result_runPost {post : Option Stage} (h : ∀ stage ∈ post, stage.HandsOn) :
    (runPost options text post).result = .ok (.text text) := by
  cases post with
  | none => rfl
  | some stage => exact (h stage rfl).result_call text options

/-- A pipeline whose stages all hand their text on. -/
theorem Pipeline.handsOn_of_stages (p : Pipeline) (options : Options)
    (hpre : ∀ stage ∈ p.linked.pre, stage.HandsOn)
    (hpost : ∀ stage ∈ p.linked.post, stage.HandsOn) : p.HandsOn options := by
  intro text output forced hresult hforce
  have hrun := p.mode.result_run text options hpre
  rw [execute, Traced.bind_of_ok hrun] at hresult
  cases hboundary : p.linked.chain.forced with
  | false =>
    rw [hboundary] at hresult
    cases hresult
    cases hforce
    rfl
  | true =>
    rw [hboundary, if_pos rfl, Traced.bind_of_ok rfl,
      Traced.bind_of_ok (result_runPost hpost)] at hresult
    cases hresult
    cases hforce
    rfl

/-! ### Built-in stages -/

lemma StageTable.find?_builtIn (h : name ∈ passthroughNames) :
    builtIn.find? name = some (.passthrough name .builtIn) := by
  simp only [passthroughNames, List.mem_cons, List.not_mem_nil, or_false] at h
  rcases h with rfl | rfl | rfl | rfl <;>
    simp [builtIn, passthroughNames, insert, find?_insertAs, Stage.passthrough, Stage.template]

lemma StageTable.handsOn_of_lookup {before : List Lookup} {settings : ResolverSettings}
    (h : name ∈ passthroughNames)
    (hanswer : builtIn.toResolver.answer before ⟨name, settings⟩ = .ok stage) : stage.HandsOn := by
  simp only [toResolver, lookup, find?_builtIn h] at hanswer
  cases hanswer
  exact Stage.handsOn_passthrough name .builtIn

end TextChain
