import TextChain.Proofs.Registry.Recorded
import TextChain.Proofs.Registry.Within

/-!
# Blocks whose extension cannot be mapped

A document fails if it has a block whose extension is not mapped and cannot come to be mapped. But the
extension is asked for only when the block is compiled, and that is after all blocks in it: these have been
compiled by then, with whatever stages they run (`compileDocument_of_unmappable`, `not_refused_first`).
-/

namespace TextChain

namespace Registry

variable {setup : Setup} {s t : Session} {ext text : String} {options : Options} {depth : Nat}

/-- The extension is not mapped, and it has no conventional chain, or one that has no pipeline and is refused
whatever was looked up before. -/
def Unmappable (setup : Setup) (r : Registry) (ext : String) : Prop :=
  r.mapping.find? (Text.trim ext) = none ∧
    ∀ target, conventionalTarget setup (Text.trim ext) = .ok target →
      ∃ spec, target = .chain spec ∧ r.pipelines.find? spec = none ∧
        ∀ before, ∃ e, (setup.link spec before).1 = .error e

lemma Unmappable.not_ready {r : Registry} {target : Target} (h : Unmappable setup r ext)
    (htarget : conventionalTarget setup (Text.trim ext) = .ok target) : ¬ r.Ready target := by
  obtain ⟨spec, rfl, hmiss, -⟩ := h.2 target htarget
  intro hready
  have hcached := hready spec rfl
  simp [hmiss] at hcached

lemma Growth.unmappable (h : Growth setup s t) (hs : Unmappable setup s.registry ext) :
    Unmappable setup t.registry ext := by
  cases h with
  | refuse _ => exact hs
  | @make spec' linked lookups _ _ hlink =>
    refine ⟨hs.1, fun target htarget => ?_⟩
    obtain ⟨spec, rfl, hmiss, hrefused⟩ := hs.2 target htarget
    refine ⟨spec, rfl, ?_, hrefused⟩
    have hne : spec' ≠ spec := by
      rintro rfl
      obtain ⟨e, he⟩ := hrefused s.lookups
      rw [hlink] at he
      cases he
    rwa [keep, Dict.find?_insert, if_neg hne]
  | @adopt ext' target _ htarget hready =>
    refine ⟨?_, hs.2⟩
    have hne : ext' ≠ Text.trim ext := by
      rintro rfl
      exact hs.not_ready htarget hready
    rw [assign, Dict.find?_insert, if_neg hne]
    exact hs.1
  | call _ => exact hs

lemma Grows.unmappable (h : Grows setup s t) (hs : Unmappable setup s.registry ext) :
    Unmappable setup t.registry ext := by
  induction h with
  | refl => exact hs
  | tail _ hstep ih => exact hstep.unmappable ih

/-- An extension that cannot be mapped is refused, and no stage is run. -/
lemma Unmappable.exists_ensure (h : Unmappable setup s.registry ext) :
    ∃ e t, perform (ensure setup (Text.trim ext)) s = (.error e, t) ∧ t.calls = s.calls := by
  have hquiet : (perform (ensure setup (Text.trim ext)) s).2.calls = s.calls :=
    (quiet_ensure setup _).calls s
  rcases hensure : perform (ensure setup (Text.trim ext)) s with ⟨e | target, t⟩
  · rw [hensure] at hquiet
    exact ⟨e, t, rfl, hquiet⟩
  · cases settling_of_ensure hensure with
    | mapped hmapped =>
      rw [h.1] at hmapped
      cases hmapped
    | adopted _ htarget hgrows _ hready _ => exact absurd hready ((hgrows.unmappable h).not_ready htarget)

lemma perform_compileWithin_of_ensure {e : EngineError}
    (h : perform (ensure setup (Text.trim ext)) s = (.error e, t)) (options : Options) (depth : Nat)
    (text : String) : perform (compileWithin setup options depth ext text) s = (.error e, t) := by
  rw [compileWithin.eq_def]
  exact perform_bind_of_error h _

end Registry

namespace Document

open Registry

variable {setup : Setup} {s t : Session} {options : Options} {depth j : Nat} {text : String} {m : Marker}
  {source : List String} {out : Nat → String} {made : List BlockCall} {call : BlockCall} {order : List Nat}

lemma MadeFor.callFor (h : MadeFor source options out call j) : CallFor source out call j :=
  ⟨h.extension, h.body⟩

/-- The call for a block whose extension cannot be mapped fails when the extension is asked for. -/
lemma CallFor.exists_ensure (hcall : CallFor source out call j) (hm : markerAt? source j = some m)
    (hfree : Unmappable setup s.registry m.extension) (options : Options) (depth : Nat) :
    ∃ e t, perform (ensure setup (Text.trim m.extension)) s = (.error e, t) ∧ t.calls = s.calls ∧
      perform (compileWithin setup options depth call.extension call.body) s = (.error e, t) := by
  have hext : m.extension = call.extension := by simpa [hm] using hcall.extension
  obtain ⟨e, t, hensure, hstages⟩ := hfree.exists_ensure
  refine ⟨e, t, hensure, hstages, ?_⟩
  rw [← hext]
  exact perform_compileWithin_of_ensure hensure options depth call.body

/-- No block of an extension that cannot be mapped is made. -/
lemma not_mem_of_made (hm : markerAt? source j = some m) (hfree : Unmappable setup s.registry m.extension)
    (hreplays : Replays (compileWithin setup options depth) s made t)
    (hmade : List.Forall₂ (MadeFor source options out) made order) : j ∉ order := by
  intro hj
  induction hmade generalizing s with
  | nil => cases hj
  | @cons call i calls rest hcall _ ih =>
    have hgrows : Grows setup s (perform (compileWithin setup options depth call.extension call.body) s).2 :=
      grows_compileWithin options depth call.extension call.body s
    rcases List.mem_cons.1 hj with rfl | hj
    · obtain ⟨e, t, -, -, hcompile⟩ := hcall.callFor.exists_ensure hm hfree options depth
      have hresult := hreplays.1
      rw [hcompile] at hresult
      have hforced := hcall.forced
      rw [BlockCall.forced, hresult] at hforced
      cases hforced
    · exact ih (hgrows.unmappable hfree) hreplays.2 hj

/-- How compiling a document fails if the extension of its marker line `j` cannot be mapped. -/
inductive Blocked (setup : Setup) (options : Options) (depth : Nat) (source : List String) (s : Session)
    (j : Nat) (m : Marker) (order : List Nat) (out : Nat → String) (calls : List BlockCall) :
    Except EngineError String → Session → Prop
  /-- An error comes before the block of `j` is compiled. -/
  | before {done rest : List Nat} {e : EngineError} {t : Session} (horder : order = done ++ rest)
      (hj : j ∈ rest) (hcalls : List.Forall₂ (CallFor source out) calls done) :
      Blocked setup options depth source s j m order out calls (.error e) t
  /-- The blocks in that of `j` are all made, and then its extension is refused. -/
  | after {earlier later : List Nat} {made : List BlockCall} {call : BlockCall} {e : EngineError}
      {u t : Session} (horder : order = earlier ++ j :: later) (hcalls : calls = made ++ [call])
      (hmade : List.Forall₂ (MadeFor source options out) made earlier)
      (hinner : ∀ i ∈ markerLines source, OpenAt source j i → i ∈ earlier)
      (hreplays : Replays (compileWithin setup options depth) s made u)
      (hrefused : perform (ensure setup (Text.trim m.extension)) u = (.error e, t))
      (hstages : t.calls = u.calls) :
      Blocked setup options depth source s j m order out calls (.error e) t

/-- The blocks in a block stand in front of it. -/
lemma PostOrder.mem_of_openAt {i : Nat} {earlier later : List Nat}
    (h : PostOrder source (earlier ++ j :: later)) (hi : i ∈ markerLines source) (hopen : OpenAt source j i) :
    i ∈ earlier := by
  have hj : j ∈ markerLines source := h.perm.mem_iff.1 (by simp)
  have hlt := (h.before_iff i hi j hj).2 (.inl hopen)
  have hle : (earlier ++ j :: later).idxOf j < earlier.length + 1 := by
    rw [← List.mem_take_iff_idxOf_lt (by simp)]
    simp [List.take_append]
  have hmem : i ∈ (earlier ++ j :: later).take earlier.length :=
    (List.mem_take_iff_idxOf_lt (h.perm.mem_iff.2 hi)).2 (hlt.trans_le (Nat.le_of_lt_succ hle))
  rwa [List.take_left' rfl] at hmem

/-- If the calls end with that for the block of `j`, the call fails when the extension is asked for. -/
lemma blocked_of_last {earlier later : List Nat} {e : EngineError}
    (hm : markerAt? source j = some m) (hfree : Unmappable setup s.registry m.extension)
    (hpost : PostOrder source (earlier ++ j :: later))
    (hmade : List.Forall₂ (MadeFor source options out) made earlier) (hcall : CallFor source out call j)
    (herror : call.forced options = .error e)
    (hreplays : Replays (compileWithin setup options depth) s (made ++ [call]) t) :
    Blocked setup options depth source s j m (earlier ++ j :: later) out (made ++ [call]) (.error e) t := by
  obtain ⟨u, hbefore, hresult, hlast⟩ := hreplays.exists_session
  have hgrows : Grows setup s u := hbefore.grows (grows_compileWithin options depth)
  obtain ⟨e', v, hensure, hstages, hcompile⟩ :=
    hcall.exists_ensure hm (hgrows.unmappable hfree) options depth
  rw [hcompile] at hresult hlast
  rw [BlockCall.forced, hresult] at herror
  cases herror
  cases hlast
  exact .after rfl rfl hmade (fun i hi hopen => hpost.mem_of_openAt hi hopen) hbefore hensure hstages

/-- A document that has a marker line whose extension cannot be mapped fails. The blocks are compiled in the
order in which they end. If no other error comes first, all blocks in that of the marker line are made, and
only then is its extension asked for; it is refused, and no stage of its block or of a later one is run. -/
theorem compileDocument_of_unmappable (setup : Setup) (options : Options) (depth : Nat) (text : String)
    (s : Session) (j : Nat) (m : Marker) (hm : markerAt? (Text.splitLines text) j = some m)
    (hfree : Unmappable setup s.registry m.extension) :
    ∃ order out, PostOrder (Text.splitLines text) order ∧
      Blocked setup options depth (Text.splitLines text) s j m order out
        (blockCalls (compileWithin setup options depth) options text s)
        (perform (compileDocument (compileWithin setup options depth) options text) s).1
        (perform (compileDocument (compileWithin setup options depth) options text) s).2 := by
  obtain ⟨out, hreplays, hend⟩ :=
    ending_compileDocument (compileWithin setup options depth) options text s
  have hpost := postOrder_spec (Text.splitLines text)
  have hj : j ∈ postOrder (Text.splitLines text) := mem_postOrder_iff.2 (mem_markerLines_of_markerAt? hm)
  refine ⟨_, out, hpost, ?_⟩
  rcases hcompile : perform (compileDocument (compileWithin setup options depth) options text) s with
    ⟨result, t⟩
  rw [hcompile] at hreplays hend
  cases hend with
  | finished hmade _ => exact absurd hj (not_mem_of_made hm hfree hreplays hmade)
  | @refused before after i line horder hmade _ _ _ _ =>
    rw [horder, List.mem_append] at hj
    exact .before horder (hj.resolve_left (not_mem_of_made hm hfree hreplays hmade))
      (hmade.imp fun _ _ h => h.callFor)
  | @failed before after k made call e horder hcalls hmade hcall herror _ =>
    rw [hcalls] at hreplays ⊢
    obtain ⟨u, hbefore, -, -⟩ := hreplays.exists_session
    have hnot := not_mem_of_made hm hfree hbefore hmade
    rw [horder, List.mem_append, List.mem_cons] at hj
    -- the block that failed is that of `j` or one in front of it
    rcases hj.resolve_left hnot with rfl | hj
    · rw [horder] at hpost ⊢
      exact blocked_of_last hm hfree hpost hmade hcall herror hreplays
    · have hcalls : List.Forall₂ (CallFor (Text.splitLines text) out) (made ++ [call]) (before ++ [k]) :=
        List.rel_append (hmade.imp fun _ _ h => h.callFor) (.cons hcall .nil)
      exact .before (by simp [horder]) hj hcalls

/-- A page with a block inside a block of an unknown extension. -/
def unknownOutside : String := ">> nope\n  >> txt\n  x"

lemma unmappable_nope : Unmappable .standard Session.initial.registry "nope" := by
  constructor
  · decide +kernel
  · intro target htarget
    have hunknown : conventionalTarget .standard (Text.trim "nope") = .error (.unknownExtension "nope") :=
      rfl
    rw [hunknown] at htarget
    cases htarget

lemma calls_unknownOutside :
    (perform (compileDocument (compileWithin .standard .empty 1) .empty unknownOutside) .initial).2.calls =
      [⟨"text", .builtIn, "  x"⟩] := by
  decide +kernel

/-- The inner block is compiled before the extension of the outer one is refused. -/
theorem compileDocument_of_unmappable_unknownOutside :
    Unmappable .standard Session.initial.registry "nope" ∧
      (perform (compileDocument (compileWithin .standard .empty 1) .empty unknownOutside) .initial).2.calls =
        [⟨"text", .builtIn, "  x"⟩] ∧
      ∃ order out, PostOrder (Text.splitLines unknownOutside) order ∧
        Blocked .standard .empty 1 (Text.splitLines unknownOutside) .initial 0 ⟨0, "nope"⟩ order out
          (blockCalls (compileWithin .standard .empty 1) .empty unknownOutside .initial)
          (perform (compileDocument (compileWithin .standard .empty 1) .empty unknownOutside) .initial).1
          (perform (compileDocument (compileWithin .standard .empty 1) .empty unknownOutside) .initial).2 :=
  ⟨unmappable_nope, calls_unknownOutside,
    compileDocument_of_unmappable .standard .empty 1 unknownOutside .initial 0 ⟨0, "nope"⟩
      (by decide +kernel) unmappable_nope⟩

/-- So even if all blocks of a document are in that of such a marker line, stages may be run. -/
theorem not_refused_first :
    ¬ ∀ (setup : Setup) (options : Options) (depth : Nat) (text : String) (s : Session) (j : Nat)
        (m : Marker), markerAt? (Text.splitLines text) j = some m →
      Unmappable setup s.registry m.extension →
      (∀ i ∈ markerLines (Text.splitLines text), i = j ∨ OpenAt (Text.splitLines text) j i) →
      (perform (compileDocument (compileWithin setup options depth) options text) s).2.calls = s.calls := by
  intro h
  have hcalls := h .standard .empty 1 unknownOutside .initial 0 ⟨0, "nope"⟩ (by decide +kernel)
    unmappable_nope (by decide +kernel)
  rw [calls_unknownOutside] at hcalls
  cases hcalls

end Document

end TextChain
