import TextChain.Proofs.Registry.Operations
import TextChain.Proofs.Registry.Within

/-!
# Which documents are refused

A marker line covers the lines after it up to the first that is indented less than the marker. Whether a
document is refused can be read off its lines alone: a line that is neither blank nor a marker has to be
covered by some marker line. The first line for which this fails is the one that is reported
(`compileWithin_refuses_uncovered`).
-/

namespace TextChain

open Registry

namespace Document

variable {source : List String} {i j k : Nat} {line content : String} {m : Marker}

/-- No line after the marker line `j` up to the line `i` is indented less than the marker. -/
def Covers (source : List String) (j i : Nat) : Prop :=
  ∃ m ∈ markerAt? source j, j < i ∧
    ∀ k ≤ i, j < k → ∃ line ∈ source[k]?, m.indent ≤ Text.indentWidth line

instance (source : List String) (j i : Nat) : Decidable (Covers source j i) :=
  inferInstanceAs (Decidable (∃ m ∈ markerAt? source j, _))

/-- A line that no marker line covers, and that is neither blank nor a marker. -/
structure Uncovered (source : List String) (i : Nat) (line : String) : Prop where
  getElem?_eq : source[i]? = some line
  not_blank : Text.isBlankText line = false
  no_marker : Marker.parse? line = none
  not_covered : ∀ j, ¬ Covers source j i

/-! ### Covered lines and open blocks -/

lemma Covers.lt (h : Covers source j i) : j < i := by
  obtain ⟨_, _, hlt, _⟩ := h
  exact hlt

lemma OpenAt.covers (h : OpenAt source j i) : Covers source j i := by
  obtain ⟨m, hm, hlt, hall⟩ := h
  refine ⟨m, hm, hlt, ?_⟩
  intro k hki hjk
  obtain ⟨line, hline, hle, -⟩ := hall k hki hjk
  exact ⟨line, hline, hle⟩

/-- The block of a marker line that covers a line is open there, or it was closed by a marker line with
the same indent, which then covers the line as well. -/
lemma Covers.openAt_or (h : Covers source j i) (hi : markerAt? source i = none) :
    OpenAt source j i ∨ ∃ k, j < k ∧ Covers source k i := by
  obtain ⟨m, hm, hlt, hall⟩ := h
  by_cases hcontinues : ∀ k ≤ i, j < k → ∃ line ∈ source[k]?, Continues m.indent line
  · exact .inl ⟨m, hm, hlt, hcontinues⟩
  push Not at hcontinues
  obtain ⟨k, hki, hjk, hcloses⟩ := hcontinues
  obtain ⟨line, hline, hle⟩ := hall k hki hjk
  -- The line `k` is indented enough, so what closes the block is that it is a sibling marker.
  have hsibling : (Marker.parse? line).map Marker.indent = some m.indent := by
    by_contra hne
    exact hcloses line hline ⟨hle, hne⟩
  obtain ⟨m', hm', hindent⟩ := Option.map_eq_some_iff.1 hsibling
  have hmarker : markerAt? source k = some m' := by rw [markerAt?_of_getElem? hline, hm']
  have hne : k ≠ i := by
    rintro rfl
    simp [hmarker] at hi
  refine .inr ⟨k, hjk, m', hmarker, by omega, ?_⟩
  intro n hni hkn
  rw [hindent]
  exact hall n hni (hjk.trans hkn)

/-- If a marker line covers a line that is no marker, then some block is open at this line. -/
lemma Covers.exists_openAt (h : Covers source j i) (hi : markerAt? source i = none) :
    ∃ j', OpenAt source j' i := by
  induction hn : i - j using Nat.strong_induction_on generalizing j with
  | _ n ih =>
    rcases h.openAt_or hi with hopen | ⟨k, hjk, hcovers⟩
    · exact ⟨j, hopen⟩
    · have hki := hcovers.lt
      exact ih (i - k) (by omega) hcovers rfl

/-- The lines that a document refuses are those that are not covered. -/
lemma stray_iff_uncovered : Stray source i line ↔ Uncovered source i line := by
  constructor
  · intro h
    refine ⟨h.getElem?_eq, by simpa using h.not_blank, h.no_marker, ?_⟩
    intro j hcovers
    obtain ⟨j', hopen⟩ := hcovers.exists_openAt h.markerAt?_eq_none
    exact h.not_openAt j' hopen
  · intro h
    refine ⟨h.getElem?_eq, ?_, h.no_marker, by simp [h.not_blank]⟩
    rw [owner?_eq_none_iff]
    intro j hopen
    exact h.not_covered j hopen.covers

/-- A line that is indented less than a marker before it ends what the marker line covers. -/
lemma not_covers_of_outdent (hm : markerAt? source j = some m) (hline : source[k]? = some line)
    (hlt : Text.indentWidth line < m.indent) (hjk : j < k) (hki : k ≤ i) : ¬ Covers source j i := by
  rintro ⟨m', hm', -, hall⟩
  cases hm.symm.trans hm'
  obtain ⟨line', hline', hle⟩ := hall k hki hjk
  cases hline.symm.trans hline'
  exact absurd hlt (not_lt.2 hle)

/-! ### Refused documents -/

variable {options : Options} {order : List Nat} {out : Nat → String} {calls : List BlockCall}
  {result : Except EngineError String} {e : EngineError}

/-- The first line that is not covered. -/
def FirstUncovered (source : List String) (i : Nat) (line : String) : Prop :=
  Uncovered source i line ∧ ∀ i' line', Uncovered source i' line' → i ≤ i'

lemma exists_firstUncovered (h : Uncovered source i line) : ∃ i line, FirstUncovered source i line := by
  classical
  have hex : ∃ i, ∃ line, Uncovered source i line := ⟨i, line, h⟩
  obtain ⟨line, hline⟩ := Nat.find_spec hex
  exact ⟨Nat.find hex, line, hline, fun i' line' h' => Nat.find_min' hex ⟨line', h'⟩⟩

/-- A document all of whose blocks are made fails with the first line that is not covered, and only with
such a line. -/
lemma Ending.error_iff (h : Ending source options order out calls result)
    (hok : ∀ call ∈ calls, ∃ forced, call.forced options = .ok forced) :
    result = .error e ↔ ∃ i line, FirstUncovered source i line ∧ e = .malformedMarker (i + 1) line := by
  cases h with
  | finished _ htop =>
    refine iff_of_false nofun ?_
    rintro ⟨i, line, ⟨huncovered, -⟩, -⟩
    exact htop i line (stray_iff_uncovered.2 huncovered)
  | @failed _ _ _ made call _ _ hcalls _ _ herror _ =>
    have hmem : call ∈ calls := by rw [hcalls]; simp
    obtain ⟨forced, hforced⟩ := hok call hmem
    rw [hforced] at herror
    cases herror
  | @refused before after i line _ _ _ _ hline hfirst =>
    have hthis : FirstUncovered source i line := by
      refine ⟨stray_iff_uncovered.1 hline, ?_⟩
      intro i' line' h'
      exact hfirst i' line' (stray_iff_uncovered.2 h')
    constructor
    · intro heq
      cases heq
      exact ⟨i, line, hthis, rfl⟩
    · rintro ⟨i', line', ⟨huncovered, hleast⟩, rfl⟩
      obtain rfl : i = i' := le_antisymm (hthis.2 _ _ huncovered) (hleast _ _ hthis.1)
      cases hthis.1.getElem?_eq.symm.trans huncovered.getElem?_eq
      rfl

/-- Compiling a text as a document whose blocks all are made fails exactly if some line is not covered,
and it reports the first such line with its number. In particular no line is reported at which a block is
open, and as an empty line ends what a marker with an indent covers, the lines after it need a marker of
their own. -/
theorem compileWithin_refuses_uncovered (setup : Setup) (options : Options) (depth : Nat)
    (ext text : String) (s : Session) (hdocument : s.registry.target? ext = some .wildcard)
    (hok : ∀ call ∈ blockCalls (compileWithin setup options depth) options text s,
      ∃ forced, call.forced options = .ok forced) :
    ((∃ e, (perform (compileWithin setup options (depth + 1) ext text) s).1 = .error e) ↔
      ∃ i line, Uncovered (Text.splitLines text) i line) ∧
    (∀ e, (perform (compileWithin setup options (depth + 1) ext text) s).1 = .error e ↔
      ∃ i line, FirstUncovered (Text.splitLines text) i line ∧ e = .malformedMarker (i + 1) line) ∧
    (∀ j i content, OpenAt (Text.splitLines text) j i ∨ Covers (Text.splitLines text) j i →
      (perform (compileWithin setup options (depth + 1) ext text) s).1 ≠
        .error (.malformedMarker (i + 1) content)) ∧
    ∀ j k i m, markerAt? (Text.splitLines text) j = some m → 0 < m.indent →
      (Text.splitLines text)[k]? = some "" → j < k → k ≤ i →
      ¬ OpenAt (Text.splitLines text) j i ∧ ¬ Covers (Text.splitLines text) j i := by
  have hrun : Task.run setup options ⟨depth + 1, ext, text, s⟩ = _ :=
    Task.run_of_document (perform_ensure_of_mapped hdocument)
  obtain ⟨out, -, hend⟩ :=
    ending_compileDocument (compileWithin setup options depth) options text s
  have hiff : ∀ e, (perform (compileWithin setup options (depth + 1) ext text) s).1 = .error e ↔
      ∃ i line, FirstUncovered (Text.splitLines text) i line ∧ e = .malformedMarker (i + 1) line := by
    intro e
    rw [← hend.error_iff hok, ← except_map_eq_error_iff (f := Output.text)]
    exact iff_of_eq (congrArg (·.1 = .error e) hrun)
  refine ⟨?_, hiff, ?_, ?_⟩
  · constructor
    · rintro ⟨e, he⟩
      obtain ⟨i, line, hfirst, -⟩ := (hiff e).1 he
      exact ⟨i, line, hfirst.1⟩
    · rintro ⟨i, line, huncovered⟩
      obtain ⟨i, line, hfirst⟩ := exists_firstUncovered huncovered
      exact ⟨_, (hiff _).2 ⟨i, line, hfirst, rfl⟩⟩
  · intro j i content hcovered herror
    obtain ⟨i', line, hfirst, heq⟩ := (hiff _).1 herror
    cases heq
    exact hfirst.1.not_covered j (hcovered.elim OpenAt.covers id)
  · intro j k i m hm hindent hempty hjk hki
    have hcovers : ¬ Covers (Text.splitLines text) j i :=
      not_covers_of_outdent hm hempty hindent hjk hki
    exact ⟨fun hopen => hcovers hopen.covers, hcovers⟩

/-- A page with a block inside a block, an empty line that ends both, and a line after it. -/
def emptyLinePage : String := "  >> html\n  <p>\n    >> css\n    b\n\n  </p>"

/-- The line after the empty line is refused, although it is indented like the block before. -/
theorem compileWithin_refuses_uncovered_emptyLinePage :
    (perform (compileWithin .standard .empty 1 "page" emptyLinePage)
        (Session.initial.after .standard [.add "page" (some "*")])).1 =
      .error (.malformedMarker 6 "  </p>") ∧
    (∃ i line, Uncovered (Text.splitLines emptyLinePage) i line) ∧
    ∃ i line, FirstUncovered (Text.splitLines emptyLinePage) i line ∧
      EngineError.malformedMarker 6 "  </p>" = .malformedMarker (i + 1) line := by
  have hforced : ∀ call ∈ blockCalls (compileWithin .standard .empty 0) .empty emptyLinePage
      (Session.initial.after .standard [.add "page" (some "*")]),
      (call.forced .empty).toOption.isSome = true := by
    decide +kernel
  have herror : (perform (compileWithin .standard .empty 1 "page" emptyLinePage)
      (Session.initial.after .standard [.add "page" (some "*")])).1 =
        .error (.malformedMarker 6 "  </p>") :=
    (except_map_eq_error_iff (f := fun _ => ())).1 (by decide +kernel)
  obtain ⟨hfails, hfirst, -⟩ := compileWithin_refuses_uncovered .standard .empty 0 "page" emptyLinePage
    (Session.initial.after .standard [.add "page" (some "*")]) (by decide +kernel) fun call hcall =>
      exists_ok_of_isSome_toOption (hforced call hcall)
  exact ⟨herror, hfails.1 ⟨_, herror⟩, (hfirst _).1 herror⟩

end Document

end TextChain
