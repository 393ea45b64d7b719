import TextChain.Proofs.Chain.Lookups
import TextChain.Proofs.Pipeline.Modes
import TextChain.Stage.Table

/-!
# The names in errors

An error of a run names the stage that was called last, by the name that this stage gives itself. A chain
names its stages by the names under which the table has them. These are the same names unless the stage
was entered under another name than its own (`execute_error_names_stage`).
-/

namespace TextChain

/-! ### Tables and their entries -/

namespace StageTable

/-- One way to enter a stage into a table. -/
inductive Entry
  /-- The stage is entered under its own name. -/
  | own (stage : Stage)
  /-- The stage is entered under a name that is given with it. -/
  | under (name : String) (stage : Stage)

namespace Entry

def stage : Entry → Stage
  | own stage => stage
  | under _ stage => stage

/-- The name under which it is entered. -/
def key : Entry → String
  | own stage => stage.name
  | under name _ => name

/-- The stage is entered under another name than its own. -/
def IsAlias (entry : Entry) : Prop :=
  entry.stage.name ≠ entry.key

end Entry

variable {entries : List Entry} {name : String} {stage : Stage} {l : Lookup}

/-- Enters a stage in one of the two ways. -/
def enter (table : StageTable) : Entry → StageTable
  | .own stage => table.insert stage
  | .under name stage => table.insertAs name stage

def ofEntries (entries : List Entry) : StageTable :=
  entries.foldl enter empty

/-- The last entry under a name. -/
def lastUnder? (entries : List Entry) (name : String) : Option Entry :=
  (entries.filter fun entry => entry.key = name).getLast?

lemma enter_eq_insertAs (table : StageTable) (entry : Entry) :
    table.enter entry = table.insertAs entry.key entry.stage := by
  cases entry <;> rfl

/-- A name stands for the stage that was last entered under it. -/
lemma find?_ofEntries (entries : List Entry) (name : String) :
    (ofEntries entries).find? name = (lastUnder? entries name).map Entry.stage := by
  induction entries using List.reverseRecOn with
  | nil => rfl
  | append_singleton entries entry ih =>
    rw [ofEntries, List.foldl_append, List.foldl_cons, List.foldl_nil, ← ofEntries, enter_eq_insertAs,
      find?_insertAs, ih, lastUnder?, lastUnder?, List.filter_append]
    by_cases hkey : entry.key = name
    · rw [if_pos hkey, List.filter_cons_of_pos (by simpa using hkey), List.filter_nil,
        List.getLast?_concat, Option.map_some]
    · rw [if_neg hkey, List.filter_cons_of_neg (by simpa using hkey), List.filter_nil, List.append_nil]

lemma key_of_lastUnder? {entry : Entry} (h : lastUnder? entries name = some entry) :
    entry.key = name := by
  have hmem := List.mem_of_getLast? h
  simpa using (List.mem_filter.1 hmem).2

lemma find?_of_lookup {table : StageTable} (h : table.lookup l = .ok stage) :
    table.find? l.name = some stage := by
  unfold lookup at h
  split at h
  next stage' hfind =>
    cases h
    exact hfind
  next =>
    split_ifs at h

end StageTable

open StageTable (Entry ofEntries lastUnder?)

/-- A stage of a chain that is linked over a table is that of the last entry under its name. -/
lemma LinkedChain.exists_entry {entries : List Entry} {settings : ResolverSettings} {spec : String}
    {before after : List Lookup} {linked : LinkedChain} {k : Nat} {stage : Stage}
    (hlink : perform (Chain.link (ofEntries entries).toResolver settings spec) before =
      (.ok linked, after))
    (hstage : (linked.pre ++ linked.post.toList)[k]? = some stage) :
    ∃ token entry, linked.chain.stages[k]? = some token ∧ lastUnder? entries token = some entry ∧
      entry.stage = stage := by
  obtain ⟨-, hanswered, -⟩ := Chain.answered_of_link hlink
  have hanswer := hanswered.getElem? k
  rw [hstage, Option.map_some] at hanswer
  obtain ⟨token, htoken, hlookup⟩ := Option.map_eq_some_iff.1 hanswer.symm
  have hfind := StageTable.find?_of_lookup hlookup
  rw [StageTable.find?_ofEntries] at hfind
  obtain ⟨entry, hentry, rfl⟩ := Option.map_eq_some_iff.1 hfind
  exact ⟨token, entry, htoken, hentry, rfl⟩

/-! ### Stages and errors -/

/-- The stage name in an error. An error of a renderer has none. -/
def RunError.stage? : RunError → Option String
  | .stage name _ => some name
  | .deferredBetween name => some name
  | .render _ => none

lemma RunError.stage?_of_render {α : Type} {result : Except StageError α} {e : RunError}
    (h : result.mapError .render = .error e) : e.stage? = none := by
  cases result with
  | error reason =>
    cases h
    rfl
  | ok a => cases h

/-- What the stage made of the input is why a run fails with the error. -/
inductive Stage.Causes (stage : Stage) (input : String) (options : Options) : RunError → Prop
  | failed {reason : StageError} (h : stage.run input options = .error reason) :
      Causes stage input options (.stage stage.name reason)
  /-- The stage made a renderer, which cannot be handed on. -/
  | deferred {renderer : Renderer} (h : stage.run input options = .ok (.deferred renderer)) :
      Causes stage input options (.deferredBetween stage.name)

/-- The last call is that of the stage at the position `k`, on this input. -/
structure StopsAt (stages : List Stage) (calls : List Call) (k : Nat) (stage : Stage) (input : String) :
    Prop where
  getElem?_eq : stages[k]? = some stage
  length_eq : calls.length = k + 1
  last_call : calls[k]? = some ⟨stage.name, stage.origin, input⟩

variable {mode : ForceMode} {options : Options} {text input name : String} {stage : Stage}
  {stages rest : List Stage} {calls : List Call} {k : Nat} {e : RunError} {output : Output}

lemma Stage.Causes.stage?_eq (h : stage.Causes input options e) : e.stage? = some stage.name := by
  cases h <;> rfl

lemma Stage.causes_of_call (h : (stage.call text options).result = .error e) :
    stage.Causes text options e := by
  rw [Stage.call] at h
  cases hrun : stage.run text options with
  | error reason =>
    rw [hrun] at h
    cases h
    exact .failed hrun
  | ok output =>
    rw [hrun] at h
    cases h

lemma StopsAt.singleton (stage : Stage) (rest : List Stage) (input : String) :
    StopsAt (stage :: rest) [⟨stage.name, stage.origin, input⟩] 0 stage input :=
  ⟨rfl, rfl, rfl⟩

lemma StopsAt.cons (h : StopsAt stages calls k stage input) (first : Stage) (call : Call) :
    StopsAt (first :: stages) (call :: calls) (k + 1) stage input :=
  ⟨h.getElem?_eq, congrArg (· + 1) h.length_eq, h.last_call⟩

lemma StopsAt.append (h : StopsAt stages calls k stage input) (rest : List Stage) :
    StopsAt (stages ++ rest) calls k stage input where
  getElem?_eq := by
    rw [List.getElem?_append_left (List.getElem?_eq_some_iff.1 h.getElem?_eq).1]
    exact h.getElem?_eq
  length_eq := h.length_eq
  last_call := h.last_call

/-! ### Runs that fail -/

namespace ForceMode

/-- Handing over fails under the name of a stage only if a renderer is refused. -/
lemma causes_of_handOver (hrun : stage.run text options = .ok output)
    (hover : mode.handOver options stage output = .error e) (hname : e.stage? = some name) :
    stage.Causes text options e := by
  cases output with
  | text value => cases hover
  | deferred renderer =>
    cases mode with
    | strict =>
      cases hover
      exact .deferred hrun
    | auto =>
      rw [handOver_auto] at hover
      rw [RunError.stage?_of_render hover] at hname
      cases hname

/-- A run that fails under the name of a stage was stopped by this stage. -/
lemma exists_stopsAt (h : (mode.run options text stages).result = .error e)
    (hname : e.stage? = some name) :
    ∃ k stage input, StopsAt stages (mode.run options text stages).calls k stage input ∧
      stage.Causes input options e := by
  induction stages generalizing text with
  | nil => cases h
  | cons stage rest ih =>
    generalize hrun : mode.run options text (stage :: rest) = whole at h ⊢
    cases turn_of_run hrun with
    | failed hfail =>
      cases h
      exact ⟨0, stage, text, .singleton stage rest text, .failed hfail⟩
    | last => cases h
    | stopped hok _ hover =>
      cases h
      exact ⟨0, stage, text, .singleton stage rest text, causes_of_handOver hok hover hname⟩
    | onward =>
      obtain ⟨k, stage', input, hstops, hcauses⟩ := ih h
      exact ⟨k + 1, stage', input, hstops.cons _ _, hcauses⟩

/-- A run that succeeds calls all of its stages. -/
lemma length_calls_of_ok (h : (mode.run options text stages).result = .ok output) :
    (mode.run options text stages).calls.length = stages.length := by
  induction stages generalizing text with
  | nil => rfl
  | cons stage rest ih =>
    generalize hrun : mode.run options text (stage :: rest) = whole at h ⊢
    cases turn_of_run hrun with
    | failed => cases h
    | last _ hrest => rw [hrest]; rfl
    | stopped => cases h
    | onward => exact congrArg (· + 1) (ih h)

end ForceMode

namespace Pipeline

/-- The stage after the boundary is called behind all stages before it. -/
lemma stopsAt_post (hok : (mode.run options text stages).result = .ok output) (last : Stage) :
    StopsAt (stages ++ [last])
      ((mode.run options text stages).calls ++ [⟨last.name, last.origin, input⟩]) stages.length last
      input := by
  have hlength := ForceMode.length_calls_of_ok hok
  refine ⟨List.getElem?_concat_length, ?_, ?_⟩
  · rw [List.length_append, hlength, List.length_singleton]
  · rw [← hlength]
    exact List.getElem?_concat_length

/-- A pipeline that fails under the name of a stage was stopped by this stage. -/
lemma exists_stopsAt {p : Pipeline} (h : (p.execute text options).result = .error e)
    (hname : e.stage? = some name) :
    ∃ k stage input,
      StopsAt (p.linked.pre ++ p.linked.post.toList) (p.execute text options).calls k stage input ∧
        stage.Causes input options e := by
  rcases Traced.error_of_bind h with ⟨hexecute, hrun⟩ | ⟨output, hok, h'⟩
  · obtain ⟨k, stage, input, hstops, hcauses⟩ := ForceMode.exists_stopsAt hrun hname
    refine ⟨k, stage, input, ?_, hcauses⟩
    rw [execute, hexecute]
    exact hstops.append _
  · rw [execute, Traced.bind_of_ok hok]
    split_ifs at h' ⊢
    · -- forcing names no stage, so the stage after the boundary is the one that fails
      rcases Traced.error_of_bind h' with ⟨-, hforce⟩ | ⟨forced, hforced, h'⟩
      · rw [RunError.stage?_of_render hforce] at hname
        cases hname
      · rw [Traced.bind_of_ok hforced]
        rcases Traced.error_of_bind h' with ⟨hpost, hcall⟩ | ⟨_, -, h'⟩
        · rw [hpost]
          cases hlast : p.linked.post with
          | none =>
            rw [hlast] at hcall
            cases hcall
          | some last =>
            rw [hlast] at hcall
            exact ⟨p.linked.pre.length, last, forced, stopsAt_post hok last,
              Stage.causes_of_call hcall⟩
        · cases h'
    · cases h'

/-- An error that names a stage is about the stage that was called last: it failed, or it made a renderer
although another stage follows. This is the stage that was last entered into the table under the name that
the chain has at this position. The error has the name that the stage gives itself, which is the one in the
chain unless that entry is an alias. -/
theorem execute_error_names_stage (entries : List Entry) (settings : ResolverSettings) (spec : String)
    (before after : List Lookup) (linked : LinkedChain)
    (hlink : perform (Chain.link (ofEntries entries).toResolver settings spec) before =
      (.ok linked, after))
    (mode : ForceMode) (text : String) (options : Options) (e : RunError) (name : String)
    (hfail : ((⟨linked, mode⟩ : Pipeline).execute text options).result = .error e)
    (hname : e.stage? = some name) :
    ∃ k token entry input,
      linked.chain.stages[k]? = some token ∧ lastUnder? entries token = some entry ∧
      StopsAt (linked.pre ++ linked.post.toList) ((⟨linked, mode⟩ : Pipeline).execute text options).calls
        k entry.stage input ∧
      entry.stage.Causes input options e ∧
      (e = .deferredBetween name → k + 1 < linked.pre.length) ∧
      name = entry.stage.name ∧ (name = token ↔ ¬ entry.IsAlias) := by
  obtain ⟨k, stage, input, hstops, hcauses⟩ := exists_stopsAt hfail hname
  obtain ⟨token, entry, htoken, hentry, rfl⟩ := LinkedChain.exists_entry hlink hstops.getElem?_eq
  obtain rfl : entry.stage.name = name := Option.some_inj.1 (hcauses.stage?_eq.symm.trans hname)
  refine ⟨k, token, entry, input, htoken, hentry, hstops, hcauses, ?_, rfl, ?_⟩
  · rintro rfl
    obtain ⟨hexecute, hrun⟩ := execute_of_deferredBetween hfail
    obtain ⟨_, -, -, hlt⟩ := ForceMode.getLast?_of_deferredBetween hrun
    have hlength := hstops.length_eq
    rw [hexecute] at hlength
    exact hlength ▸ hlt
  · obtain rfl := StageTable.key_of_lastUnder? hentry
    exact not_ne_iff.symm

def broken : Stage where
  name := "broken"
  origin := .supplied
  run := fun _ _ => .error (.failed "broken" "no")

/-- A template that is found as `page`, and a stage that fails and is found as `check`. -/
def aliases : List Entry :=
  [.own (.passthrough "text" .builtIn), .under "page" (.template "template" .builtIn),
    .under "check" broken]

/-- The chain `text > page > text` with its stages in the table of these entries. -/
def pageInside : LinkedChain :=
  ⟨⟨["text", "page", "text"], none, false⟩,
    [.passthrough "text" .builtIn, .template "template" .builtIn, .passthrough "text" .builtIn], none⟩

lemma link_pageInside :
    perform (Chain.link (ofEntries aliases).toResolver .default "text > page > text") [] =
      (.ok pageInside, Chain.lookupsFor .default ["text", "page", "text"]) := by
  have hparse : Chain.parse "text > page > text" = .ok pageInside.chain := by decide +kernel
  rw [Chain.link, Chain.validate, hparse]
  rfl

/-- The template that the chain names `page` is refused as `template`. -/
theorem execute_error_names_stage_pageInside :
    perform (Chain.link (ofEntries aliases).toResolver .default "text > page > text") [] =
        (.ok pageInside, Chain.lookupsFor .default ["text", "page", "text"]) ∧
      ((⟨pageInside, .strict⟩ : Pipeline).execute "x" .empty).result =
        .error (.deferredBetween "template") ∧
      ∃ k token entry input,
        pageInside.chain.stages[k]? = some token ∧ lastUnder? aliases token = some entry ∧
        StopsAt (pageInside.pre ++ pageInside.post.toList)
          ((⟨pageInside, .strict⟩ : Pipeline).execute "x" .empty).calls k entry.stage input ∧
        entry.stage.Causes input .empty (.deferredBetween "template") ∧
        k + 1 < pageInside.pre.length ∧
        "template" = entry.stage.name ∧ ("template" = token ↔ ¬ entry.IsAlias) := by
  obtain ⟨k, token, entry, input, htoken, hentry, hstops, hcauses, hfollowed, hname, halias⟩ :=
    execute_error_names_stage aliases .default "text > page > text" [] _ pageInside link_pageInside
      .strict "x" .empty (.deferredBetween "template") "template" rfl rfl
  exact ⟨link_pageInside, rfl, k, token, entry, input, htoken, hentry, hstops, hcauses, hfollowed rfl,
    hname, halias⟩

/-- The chain `check` with its stage in the same table. -/
def checkOnly : LinkedChain :=
  ⟨⟨["check"], none, false⟩, [broken], none⟩

/-- So an error need not have the name that the chain has at the position of the stage called last: the
stage that is found as `check` fails as `broken`. -/
theorem not_named_as_in_chain :
    ¬ ∀ (entries : List Entry) (settings : ResolverSettings) (spec : String)
        (before after : List Lookup) (linked : LinkedChain),
      perform (Chain.link (ofEntries entries).toResolver settings spec) before = (.ok linked, after) →
      ∀ (mode : ForceMode) (text : String) (options : Options) (e : RunError) (name : String),
        ((⟨linked, mode⟩ : Pipeline).execute text options).result = .error e → e.stage? = some name →
        ∃ k, ((⟨linked, mode⟩ : Pipeline).execute text options).calls.length = k + 1 ∧
          linked.chain.stages[k]? = some name := by
  intro h
  have hparse : Chain.parse "check" = .ok checkOnly.chain := by decide +kernel
  have hlink : perform (Chain.link (ofEntries aliases).toResolver .default "check") [] =
      (.ok checkOnly, Chain.lookupsFor .default ["check"]) := by
    rw [Chain.link, Chain.validate, hparse]
    rfl
  obtain ⟨k, hlength, hname⟩ := h aliases .default "check" [] _ checkOnly hlink .strict "x" .empty
    (.stage "broken" (.failed "broken" "no")) "broken" rfl rfl
  obtain rfl : 0 = k := Nat.succ.inj hlength
  exact absurd hname (by decide)

end Pipeline

end TextChain
