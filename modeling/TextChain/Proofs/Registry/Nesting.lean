import TextChain.Proofs.Document.Visit
import TextChain.Proofs.Markerless
import TextChain.Proofs.Registry.Recorded

/-!
# Documents in blocks of documents

A block whose extension is mapped to the wildcard is a document again: its body, with the texts of the
blocks in it, is read anew. As long as no pipeline makes a marker line, the body has none, for the
markers in it were replaced and padding makes no new ones. So documents are nested at most two deep,
and every pipeline is executed for a marker line of the text (`compileWithin_of_markerless`).
-/

namespace TextChain

/-! ### Nested blocks -/

namespace Node

mutual

/-- How many blocks are opened inside each other in a part. -/
def height : Node → Nat
  | .line _ => 0
  | .block _ _ body => heightOf body + 1

/-- How many blocks are opened inside each other in the parts of a body. -/
def heightOf : List Node → Nat
  | [] => 0
  | node :: rest => max node.height (heightOf rest)

end

mutual

lemma height_le (n : Nat) (node : Node) : node.height ≤ (node.markerOrder n).length := by
  match node with
  | .line text => exact le_rfl
  | .block marker opening body =>
    rw [height, markerOrder, List.length_append]
    exact Nat.succ_le_succ (heightOf_le (n + 1) body)

lemma heightOf_le (n : Nat) (nodes : List Node) :
    heightOf nodes ≤ (markerOrderOf n nodes).length := by
  match nodes with
  | [] => exact le_rfl
  | node :: rest =>
    rw [heightOf, markerOrderOf, List.length_append]
    have := height_le n node
    have := heightOf_le (n + node.lines.length) rest
    omega

end

end Node

namespace Document

/-- Blocks are opened inside each other at most as often as there are marker lines. -/
lemma heightOf_topNodes_le (text : String) :
    Node.heightOf (ofText text).topNodes ≤ (markerLines (Text.splitLines text)).length := by
  obtain ⟨hpairwise, hmem⟩ := (layout_ofLines (Text.splitLines text)).markerOrder
  refine (Node.heightOf_le 0 _).trans ((nodup_of_pairwise hpairwise).subperm fun i hi => ?_).length_le
  obtain ⟨⟨-, hlt⟩, hmarker⟩ := (hmem i).1 hi
  exact List.mem_filter.2 ⟨List.mem_range.2 hlt, hmarker⟩

end Document

/-! ### Outputs -/

/-- No line of the output is a marker, if it is forced with the options. -/
def Output.Markerless (options : Options) (output : Output) : Prop :=
  ∀ forced, output.force options = .ok forced → Text.Markerless forced

/-- No line of what a pipeline made is a marker, if it is forced with the options. -/
def Event.Markerless (options : Options) (event : Event) : Prop :=
  ∀ forced ∈ event.forced? options, Text.Markerless forced

instance (options : Options) (event : Event) : Decidable (event.Markerless options) :=
  inferInstanceAs (Decidable (∀ forced ∈ event.forced? options, Text.Markerless forced))

namespace Registry

open Recorded Document

variable {setup : Setup} {options : Options} {bound bound' : Nat} {α β : Type} {ext text : String}
  {source : List String} {out : Nat → String}

/-! ### Tame actions -/

/-- From this state the two actions do the same, and the first, which goes through the events `made`,
does not find documents nested too deeply. -/
structure Settled (bound : Nat) (post : α → Prop) (run run' : Recorded α)
    (w : Session × List Event) (made : List Event) : Prop where
  same : perform run' w = perform run w
  length_le : made.length ≤ bound
  opened : ∀ text, .opened text ∈ made → Text.Markerless text
  ne_tooDeep : (perform run w).1 ≠ .error .tooDeep
  post : ∀ a, (perform run w).1 = .ok a → post a

/-- The two actions do the same and give something with the property `post`, as long as no pipeline
makes marker lines, and the first goes through at most `bound` events. -/
def Tame (options : Options) (bound : Nat) (post : α → Prop) (run run' : Recorded α) : Prop :=
  ∀ w, ∃ made, (perform run w).2.2 = w.2 ++ made ∧
    ((∀ event ∈ made, event.Markerless options) → Settled bound post run run' w made)

/-- An action that keeps all events that were kept before. -/
def Growing (run : Recorded α) : Prop :=
  ∀ w, ∃ made, (perform run w).2.2 = w.2 ++ made

lemma growing_of_recording {run : Recorded α} {action : Act α} (h : recording.rel run action) :
    Growing run := by
  rintro ⟨s, events⟩
  obtain ⟨made, hperform, -⟩ := h s events
  exact ⟨made, by rw [hperform]⟩

lemma growing_pure (a : α) : Growing (pure a : Recorded α) :=
  fun w => ⟨[], by simp⟩

lemma growing_ofAct (action : Act α) : Growing (ofAct action) :=
  fun ⟨s, events⟩ => ⟨[], by rw [perform_ofAct, List.append_nil]⟩

lemma tame_pure {post : α → Prop} {a : α} (h : post a) :
    Tame options 0 post (pure a) (pure a) :=
  fun w => ⟨[], by simp, fun _ => ⟨rfl, le_rfl, by simp, by simp, by simpa using h⟩⟩

lemma tame_throw (post : α → Prop) {e : EngineError} (h : e ≠ .tooDeep) :
    Tame options 0 post (throw e) (throw e) :=
  fun w => ⟨[], by simp, fun _ => ⟨rfl, le_rfl, by simp, by simpa using h, by simp⟩⟩

lemma tame_ofAct {post : α → Prop} {action : Act α}
    (hdeep : ∀ s, (perform action s).1 ≠ .error .tooDeep)
    (hpost : ∀ s a, (perform action s).1 = .ok a → post a) :
    Tame options 0 post (ofAct action) (ofAct action) := by
  rintro ⟨s, events⟩
  refine ⟨[], by simp [perform_ofAct], fun _ => ⟨rfl, le_rfl, by simp, ?_, ?_⟩⟩
  · rw [perform_ofAct]
    exact hdeep s
  · rw [perform_ofAct]
    exact hpost s

lemma Tame.bind {post : α → Prop} {post' : β → Prop} {run run' : Recorded α}
    {next next' : α → Recorded β} (hrun : Tame options bound post run run')
    (hgrowing : ∀ a, Growing (next a))
    (hnext : ∀ a, post a → Tame options bound' post' (next a) (next' a)) :
    Tame options (bound + bound') post' (run >>= next) (run' >>= next') := by
  intro w
  obtain ⟨made, hmade, hsettled⟩ := hrun w
  rcases hperform : perform run w with ⟨e | a, v⟩
  · rw [hperform] at hmade
    refine ⟨made, by rw [perform_bind_of_error hperform, hmade], fun hclean => ?_⟩
    obtain ⟨hsame, hlength, hopened, hdeep, -⟩ := hsettled hclean
    rw [hperform] at hsame hdeep
    refine ⟨?_, by omega, hopened, ?_, ?_⟩
    · rw [perform_bind_of_error hperform, perform_bind_of_error hsame]
    · rw [perform_bind_of_error hperform]
      simpa using hdeep
    · rw [perform_bind_of_error hperform]
      simp
  · obtain ⟨made', hmade'⟩ := hgrowing a v
    rw [hperform] at hmade
    refine ⟨made ++ made', ?_, fun hclean => ?_⟩
    · rw [perform_bind_of_ok hperform, hmade', hmade, List.append_assoc]
    obtain ⟨hsame, hlength, hopened, -, hpost⟩ :=
      hsettled fun event hevent => hclean event (List.mem_append_left _ hevent)
    rw [hperform] at hsame hpost
    obtain ⟨made'', hmade'', hsettled'⟩ := hnext a (hpost a rfl) v
    -- what the second part goes through does not depend on what is known of its argument
    obtain rfl : made'' = made' := List.append_cancel_left (hmade''.symm.trans hmade')
    obtain ⟨hsame', hlength', hopened', hdeep', hpost'⟩ :=
      hsettled' fun event hevent => hclean event (List.mem_append_right _ hevent)
    refine ⟨?_, by rw [List.length_append]; omega, ?_, ?_, ?_⟩
    · rw [perform_bind_of_ok hperform, perform_bind_of_ok hsame, hsame']
    · intro text hmem
      exact (List.mem_append.1 hmem).elim (hopened text) (hopened' text)
    · rwa [perform_bind_of_ok hperform]
    · rwa [perform_bind_of_ok hperform]

/-! ### Executions -/

lemma tame_run (spec text : String) (run : Traced RunError Output) :
    Tame options 1 (Output.Markerless options) (recordRun spec text run)
      (recordRun spec text run) := by
  rintro ⟨s, events⟩
  refine ⟨[.executed spec text run], by rw [perform_recordRun], fun hclean => ?_⟩
  refine ⟨rfl, le_rfl, by simp, ?_, ?_⟩
  · rw [perform_recordRun]
    cases run.result <;> simp [Except.mapError]
  · rw [perform_recordRun]
    intro output houtput forced hforced
    refine hclean _ (List.mem_singleton_self _) forced ?_
    cases hresult : run.result with
    | error e => simp [hresult, Except.mapError] at houtput
    | ok output' =>
      obtain rfl : output' = output := by simpa [hresult, Except.mapError] using houtput
      simp [Event.forced?, hresult, hforced, Except.toOption]

lemma tame_execute (setup : Setup) (options : Options) (spec text : String) :
    Tame options 1 (Output.Markerless options) (recordExecute setup spec text options)
      (recordExecute setup spec text options) := by
  have hget : Tame options 0 (fun _ => True) (ofAct (get setup spec)) (ofAct (get setup spec)) :=
    tame_ofAct (quiet_pipelineFor setup _).ne_tooDeep fun _ _ _ => trivial
  exact hget.bind (fun cached => growing_of_recording (recording_run spec text _)) fun cached _ =>
    tame_run spec text _

/-! ### Documents -/

/-- The lines of an owner are markerless, if the texts of the blocks are. -/
lemma markerless_parts (hsource : ∀ line ∈ source, '\n' ∉ line.toList)
    (hout : ∀ i, Text.Markerless (out i)) (lines : List Nat) :
    Text.Markerless (Text.joinLines (lines.map (partAt source out))) := by
  refine Text.markerless_joinLines fun part hpart => ?_
  obtain ⟨i, -, rfl⟩ := List.mem_map.1 hpart
  cases hm : markerAt? source i with
  | some m =>
    rw [partAt, hm]
    exact Text.markerless_padTo (hout i) _
  | none =>
    rw [partAt, hm]
    cases hline : source[i]? with
    | none => exact Text.markerless_empty
    | some line =>
      rw [markerAt?_of_getElem? hline] at hm
      exact Text.markerless_of_line hm (hsource line (List.mem_of_getElem? hline))

section Blocks

variable {run run' : String → String → Recorded String} {plain : String → String → Act String}

/-- Visiting lines goes through at most one event for each marker line. -/
lemma tame_visit (hsource : ∀ line ∈ source, '\n' ∉ line.toList)
    (hrecording : ∀ ext body, recording.rel (run ext body) (plain ext body))
    (hrun : ∀ i, ∀ m ∈ markerAt? source i, ∀ body, Text.Markerless body →
      Tame options 1 Text.Markerless (run m.extension body) (run' m.extension body))
    (order : List Nat) (hout : ∀ i, Text.Markerless (out i)) :
    Tame options (order.filter fun i => (markerAt? source i).isSome).length
      (fun out => ∀ i, Text.Markerless (out i))
      (visit run (fun number content => throw (.malformedMarker number content)) source order out)
      (visit run' (fun number content => throw (.malformedMarker number content)) source order
        out) := by
  have hgrowing : ∀ order out, Growing (visit run
      (fun number content => throw (.malformedMarker number content)) source order out) :=
    fun order out => growing_of_recording
      (visit_related recording hrecording (fun _ _ => recording_throw _) order out)
  induction order generalizing out with
  | nil => exact tame_pure hout
  | cons i rest ih =>
    rw [visit, visit]
    cases hm : markerAt? source i with
    | some m =>
      rw [List.filter_cons_of_pos (by simp [hm]), List.length_cons, Nat.add_comm,
        visitLine_of_markerAt? hm, visitLine_of_markerAt? hm]
      refine (hrun i m hm _ (markerless_parts hsource hout _)).bind (fun text => hgrowing _ _) ?_
      intro text htext
      exact ih (Function.forall_update_iff out (fun _ => Text.Markerless) |>.2
        ⟨htext, fun j _ => hout j⟩)
    | none =>
      rw [List.filter_cons_of_neg (by simp [hm]), ← Nat.zero_add (List.length _), visitLine,
        visitLine, hm]
      exact (tame_throw (fun _ => False) (by simp)).bind (fun text => hgrowing _ _) fun _ h => h.elim

end Blocks

variable {compile compile' : String → String → Recorded Output}
  {plain : String → String → Act Output}

lemma tame_block
    (h : Tame options bound (Output.Markerless options) (compile ext text) (compile' ext text)) :
    Tame options bound Text.Markerless (recordBlock compile options ext text)
      (recordBlock compile' options ext text) := by
  refine h.bind (fun output => growing_ofAct _) fun output houtput => tame_ofAct ?_ ?_
  · intro s
    rw [Act.perform_rendering]
    cases output.force options <;> simp [Except.mapError]
  · intro s forced
    rw [Act.perform_rendering]
    intro hforced
    refine houtput forced ?_
    cases h : output.force options <;> simp_all [Except.mapError]

/-- Compiling a document goes through at most one event for each marker line, if compiling a block
does and markerless texts are made of markerless texts. -/
lemma tame_document (text : String)
    (hrecording : ∀ ext body, recording.rel (compile ext body) (plain ext body))
    (hcompile : ∀ i, ∀ m ∈ markerAt? (Text.splitLines text) i, ∀ body, Text.Markerless body →
      Tame options 1 (Output.Markerless options) (compile m.extension body)
        (compile' m.extension body)) :
    Tame options (markerLines (Text.splitLines text)).length Text.Markerless
      (recordDocument compile options text) (recordDocument compile' options text) := by
  have hclean : ∀ line ∈ Text.splitLines text, '\n' ∉ line.toList :=
    fun _ => Text.not_mem_of_mem_splitLines
  have hvisit := tame_visit hclean (fun ext body => recording_block hrecording ext body)
    (fun i m hm body hbody => tame_block (hcompile i m hm body hbody))
    (visitOrder (Text.splitLines text)) (fun _ => Text.markerless_empty)
  rw [recordDocument, recordDocument, ofText, compile_eq_visit (aborts_throw _) _ fun _ => "",
    compile_eq_visit (aborts_throw _) _ fun _ => "", ← (perm_postOrder _).length_eq]
  exact hvisit.bind (fun out => growing_pure _) fun out hout =>
    tame_pure (markerless_parts hclean hout _)

/-! ### Compiling -/

lemma markerLines_of_markerless (h : Text.Markerless text) :
    markerLines (Text.splitLines text) = [] := by
  rw [markerLines, List.filter_eq_nil_iff]
  intro i _
  simp [h.markerAt?_eq_none i]

lemma output_text_markerless (h : Text.Markerless text) : (Output.text text).Markerless options := by
  rintro _ ⟨⟩
  exact h

lemma tame_wildcard (setup : Setup) (options : Options) (depth depth' : Nat) (text : String)
    (hcompile : ∀ i, ∀ m ∈ markerAt? (Text.splitLines text) i, ∀ body, Text.Markerless body →
      Tame options 1 (Output.Markerless options) (recordWithin setup options depth m.extension body)
        (recordWithin setup options depth' m.extension body)) :
    Tame options (markerLines (Text.splitLines text)).length (Output.Markerless options)
      (recordWildcard (recordWithin setup options depth) options text)
      (recordWildcard (recordWithin setup options depth') options text) :=
  (tame_document text (recording_compileWithin setup options depth) hcompile).bind
    (fun _ => growing_pure _) fun _ htext => tame_pure (output_text_markerless htext)

/-- A markerless text is compiled with one event: its pipeline is executed, or it is taken for a
document, which then has no blocks. -/
lemma tame_recordWithin (setup : Setup) (options : Options) (depth depth' : Nat) (ext : String)
    (htext : Text.Markerless text) :
    Tame options 1 (Output.Markerless options) (recordWithin setup options (depth + 1) ext text)
      (recordWithin setup options (depth' + 1) ext text) := by
  have hensure : Tame options 0 (fun _ => True) (ofAct (ensure setup (Text.trim ext)))
      (ofAct (ensure setup (Text.trim ext))) :=
    tame_ofAct (quiet_ensure setup _).ne_tooDeep fun _ _ _ => trivial
  have hopened : Tame options 1 (fun _ => True) (record (.opened text)) (record (.opened text)) := by
    rintro ⟨s, events⟩
    refine ⟨[.opened text], rfl, fun _ => ⟨rfl, le_rfl, ?_, by simp, by simp⟩⟩
    intro text' hmem
    cases List.mem_singleton.1 hmem
    exact htext
  have hwildcard := recording_wildcard options (recording_compileWithin setup options depth) text
  rw [recordWithin, recordWithin]
  show Tame options (0 + 1) _ _ _
  refine hensure.bind (fun target => ?_) fun target _ => ?_
  · cases target with
    | chain spec => exact growing_of_recording (recording_execute setup spec text options)
    | wildcard => exact growing_of_recording (recording_opened hwildcard text)
  · cases target with
    | chain spec => exact tame_execute setup options spec text
    | wildcard =>
      have hdocument := tame_wildcard setup options depth depth' text fun i m hm => by
        rw [htext.markerAt?_eq_none i] at hm
        cases hm
      rw [markerLines_of_markerless htext] at hdocument
      exact hopened.bind (fun _ => growing_of_recording hwildcard) fun _ _ => hdocument

/-! ### Documents in documents -/

variable {s t : Session}

lemma perform_recordWithin_of_wildcard
    (hensure : perform (ensure setup (Text.trim ext)) s = (.ok .wildcard, t)) (depth : Nat) :
    perform (recordWithin setup options (depth + 1) ext text) (s, []) =
      perform (recordWildcard (recordWithin setup options depth) options text)
        (t, [.opened text]) := by
  rw [recordWithin, perform_bind_of_ok (by rw [perform_ofAct, hensure])]
  exact perform_bind_of_ok (perform_record _ _ _) _

/-- After the text itself, compiling it goes through what compiling its blocks goes through, and this
does not depend on how deep documents may be nested. -/
lemma exists_settled (hensure : perform (ensure setup (Text.trim ext)) s = (.ok .wildcard, t))
    (depth depth' : Nat)
    (hclean : ∀ event ∈ events setup options (depth + 2) ext text s, event.Markerless options) :
    ∃ made, events setup options (depth + 2) ext text s = .opened text :: made ∧
      Settled (markerLines (Text.splitLines text)).length (Output.Markerless options)
        (recordWildcard (recordWithin setup options (depth + 1)) options text)
        (recordWildcard (recordWithin setup options (depth' + 1)) options text)
        (t, [.opened text]) made := by
  obtain ⟨made, hmade, hsettled⟩ :=
    tame_wildcard setup options (depth + 1) (depth' + 1) text
      (fun _ m _ _ hbody => tame_recordWithin setup options depth depth' m.extension hbody)
      (t, [.opened text])
  have hevents : events setup options (depth + 2) ext text s = .opened text :: made := by
    rw [events, perform_recordWithin_of_wildcard hensure, hmade]
    rfl
  refine ⟨made, hevents, hsettled fun event hevent => hclean event ?_⟩
  rw [hevents]
  exact List.mem_cons_of_mem _ hevent

/-- Compiling a text as a document comes to an end. -/
structure Bounded (setup : Setup) (options : Options) (depth : Nat) (ext text : String)
    (s : Session) : Prop where
  /-- Documents are not found to be nested too deeply. -/
  ne_tooDeep : (perform (compileWithin setup options depth ext text) s).1 ≠ .error .tooDeep
  /-- Documents are nested in blocks of documents at most two deep: the run is the same for every limit
  that allows this. -/
  same : ∀ depth', 2 ≤ depth' →
    perform (compileWithin setup options depth' ext text) s =
        perform (compileWithin setup options depth ext text) s ∧
      events setup options depth' ext text s = events setup options depth ext text s
  /-- In each of these documents blocks are nested at most as deep as the text has lines. -/
  height_le : ∀ nested, .opened nested ∈ events setup options depth ext text s →
    Node.heightOf (ofText nested).topNodes ≤ (Text.splitLines text).length
  /-- There are no more executions of pipelines than marker lines. -/
  executions_le : ((events setup options depth ext text s).filter Event.isExecution).length ≤
    (markerLines (Text.splitLines text)).length
  /-- The events are those of the run itself. -/
  recorded : perform (recordWithin setup options depth ext text) (s, []) =
    ((perform (compileWithin setup options depth ext text) s).1,
      ((perform (compileWithin setup options depth ext text) s).2,
        events setup options depth ext text s))
  /-- All stages that are called are called by the executions. -/
  calls_eq : (perform (compileWithin setup options depth ext text) s).2.calls =
    s.calls ++ (events setup options depth ext text s).flatMap Event.calls

/-- Whatever the extensions of its blocks are mapped to, compiling a text whose extension is mapped to
the wildcard comes to an end if no line of what the pipelines make in this run is a marker: the text is
a document, and so are some of its blocks, but these have no blocks any more. Every pipeline is executed
for a marker line of the text. -/
theorem compileWithin_of_markerless (setup : Setup) (options : Options) (depth : Nat)
    (ext text : String) (s : Session) (hdepth : 2 ≤ depth)
    (hwildcard : eventualTarget? setup s.registry ext = some .wildcard)
    (hclean : ∀ event ∈ events setup options depth ext text s, event.Markerless options) :
    Bounded setup options depth ext text s := by
  obtain ⟨t, hensure⟩ := exists_ensure_of_wildcard hwildcard
  obtain ⟨depth, rfl⟩ := Nat.exists_eq_add_of_le' hdepth
  obtain ⟨made, hmade, hsettled⟩ := exists_settled hensure depth depth hclean
  obtain ⟨hrecorded, hcalls⟩ := perform_recordWithin setup options (depth + 2) ext text s
  refine ⟨?_, ?_, ?_, ?_, hrecorded, hcalls⟩
  · have hdeep := hsettled.ne_tooDeep
    rwa [← perform_recordWithin_of_wildcard hensure, hrecorded] at hdeep
  · intro depth' hdepth'
    obtain ⟨depth', rfl⟩ := Nat.exists_eq_add_of_le' hdepth'
    obtain ⟨_, -, hsame, -⟩ := exists_settled hensure depth depth' hclean
    rw [← perform_recordWithin_of_wildcard hensure, ← perform_recordWithin_of_wildcard hensure,
      (perform_recordWithin setup options (depth' + 2) ext text s).1, hrecorded] at hsame
    obtain ⟨hresult, hsession⟩ := Prod.mk.inj hsame
    obtain ⟨hsession, hevents⟩ := Prod.mk.inj hsession
    exact ⟨Prod.ext hresult hsession, hevents⟩
  · intro nested hmem
    rw [hmade, List.mem_cons] at hmem
    refine (heightOf_topNodes_le nested).trans ?_
    rcases hmem with heq | hmem
    · cases heq
      exact (List.length_filter_le _ _).trans_eq List.length_range
    · rw [markerLines_of_markerless (hsettled.opened nested hmem)]
      exact Nat.zero_le _
  · rw [hmade, List.filter_cons_of_neg (by simp [Event.isExecution])]
    exact (List.length_filter_le _ _).trans hsettled.length_le

/-- The standard setup, where an extension `page` is mapped to the wildcard. -/
def pagedSetup : Setup :=
  { Setup.standard with
    conventions := fun ext => if ext = "page" then some "*" else builtInChain? ext }

/-- A page with two blocks that are pages: an empty one, and one with a block in it. -/
def pageOfPages : String := ">> css\ny\n>> page\n\n>> page\n  >> html\n  x"

/-- Of the four blocks two are given to pipelines; the pages have no blocks when they are compiled. -/
theorem compileWithin_of_markerless_pageOfPages :
    (markerLines (Text.splitLines pageOfPages)).length = 4 ∧
      ((events pagedSetup .empty 2 "page" pageOfPages .initial).filter Event.isExecution).length = 2 ∧
      Bounded pagedSetup .empty 2 "page" pageOfPages .initial :=
  ⟨by decide +kernel, by decide +kernel,
    compileWithin_of_markerless pagedSetup .empty 2 "page" pageOfPages .initial le_rfl
      (by decide +kernel) (by decide +kernel)⟩

end Registry

end TextChain
