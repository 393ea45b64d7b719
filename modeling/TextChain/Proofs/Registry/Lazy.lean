import TextChain.Proofs.Marker
import TextChain.Proofs.Registry.Frame

/-!
# Extensions that are mapped when they are needed

Compiling a text maps its extension to the conventional target if it is not mapped. This is the same as
adding the extension before, in all that happens and is left behind, whether the target is a chain or
the wildcard (`unmapped_as_added`). So nothing changes if every extension is added by hand before a text or
the body of a block is compiled with it.
-/

namespace TextChain

open Registry Document

variable {setup : Setup} {options : Options} {s t : Session} {ext : String} {α : Type}

namespace Registry

/-- An action does what it does after the extension was added. If the extension cannot be added, the
action fails in the same way, and the registry stays as it is. -/
structure AsAdded (setup : Setup) (ext : String) (action : Act α) (s : Session) : Prop where
  perform_eq : perform action s = perform (do
    let _ ← add setup ext none
    action) s
  refused : ∀ error t, perform (add setup ext none) s = (.error error, t) →
    perform action s = (.error error, t) ∧ t.registry = s.registry

/-! ### Settling a target -/

/-- Settling the target of an extension that is not mapped is adding the extension. -/
lemma perform_ensure_eq_add (hne : Text.trim ext ≠ "") (hfree : s.registry.target? ext = none) :
    perform (ensure setup (Text.trim ext)) s = perform (do
      let _ ← add setup ext none
      ensure setup (Text.trim ext)) s := by
  have hnew : newTarget setup (Text.trim ext) none = conventionalTarget setup (Text.trim ext) := by
    simp [newTarget, hne]
  cases htarget : conventionalTarget setup (Text.trim ext) with
  | error error =>
    have hadd := perform_add_of_error (hnew.trans htarget) s
    rw [perform_ensure_of_unknown hfree htarget, perform_bind_of_error hadd]
  | ok target =>
    have hadd := perform_add_of_ok (hnew.trans htarget) s
    rw [perform_ensure_of_free hfree htarget]
    rcases hmade : perform (establish setup (Text.trim ext) target) s with ⟨error | made, t⟩
    · rw [hmade] at hadd
      rw [perform_bind_of_error hadd]
    · rw [hmade] at hadd
      -- After the extension was added, its target is found in the mapping.
      have hmapped : t.registry.mapping.find? (Text.trim ext) = some target := by
        rw [mapping_establish_of_ok hmade, Dict.find?_insert, if_pos rfl]
      rw [perform_bind_of_ok hadd, perform_ensure_of_mapped hmapped]

lemma asAdded_ensure (hne : Text.trim ext ≠ "") (hfree : s.registry.target? ext = none)
    (next : Target → Act α) : AsAdded setup ext (ensure setup (Text.trim ext) >>= next) s := by
  have hperform : perform (ensure setup (Text.trim ext) >>= next) s = perform (do
      let _ ← add setup ext none
      ensure setup (Text.trim ext) >>= next) s := by
    rw [← bind_assoc, perform_bind, perform_ensure_eq_add hne hfree, ← perform_bind]
  refine ⟨hperform, ?_⟩
  intro error t hadd
  have hregistry := registry_add_of_error (congrArg Prod.fst hadd)
  rw [hadd] at hregistry
  exact ⟨hperform.trans (perform_bind_of_error hadd _), hregistry⟩

/-- A text is compiled with an extension that is not mapped as if the extension had been added. -/
lemma asAdded_compileWithin (hne : Text.trim ext ≠ "") (hfree : s.registry.target? ext = none)
    (depth : Nat) (text : String) :
    AsAdded setup ext (compileWithin setup options depth ext text) s := by
  rw [compileWithin.eq_def]
  exact asAdded_ensure hne hfree _

/-! ### Adding every extension by hand -/

def addMissing (setup : Setup) (ext : String) : Act Unit := do
  let session ← MonadState.get
  if session.registry.has ext then pure ()
  else
    let _ ← add setup ext none
    pure ()

def mappedTarget (ext : String) : Act Target := do
  let session ← MonadState.get
  match session.registry.target? ext with
  | some target => pure target
  | none => throw (.unknownExtension ext)

/-- Compiles a text with what its extension is mapped to. Its extension, and those of the blocks of
documents, are added before they are needed. -/
def compileAdding (setup : Setup) (options : Options) : Nat → String → String → Act Output
  | depth, ext, text => do
    addMissing setup ext
    match ← mappedTarget ext with
    | .chain spec => execute setup spec text options
    | .wildcard =>
      match depth with
      | 0 => throw .tooDeep
      | depth + 1 => do
        let text ← compileDocument (compileAdding setup options depth) options text
        pure (.text text)

lemma perform_mappedTarget {target : Target} (h : s.registry.target? ext = some target) :
    perform (mappedTarget ext) s = (.ok target, s) := by
  rw [mappedTarget, perform_bind_of_ok (perform_get s), h]
  rfl

lemma has_eq_isSome (r : Registry) (ext : String) : r.has ext = (r.target? ext).isSome :=
  rfl

lemma perform_addMissing_of_mapped {target : Target} (h : s.registry.target? ext = some target) :
    perform (addMissing setup ext) s = (.ok (), s) := by
  have hhas : s.registry.has ext = true := by rw [has_eq_isSome, h, Option.isSome_some]
  rw [addMissing, perform_bind_of_ok (perform_get s), if_pos hhas]
  rfl

lemma perform_addMissing_of_free (setup : Setup) (h : s.registry.target? ext = none) :
    perform (addMissing setup ext) s =
      ((perform (add setup ext none) s).1.map fun _ => (), (perform (add setup ext none) s).2) := by
  have hhas : ¬ s.registry.has ext = true := by simp [has_eq_isSome, h]
  rw [addMissing, perform_bind_of_ok (perform_get s), if_neg hhas]
  exact perform_bind_pure _ _ s

/-- The target of an extension that was added by hand is the one that is settled otherwise. -/
lemma perform_added_target (hne : Text.trim ext ≠ "") (s : Session) :
    perform (do
      addMissing setup ext
      mappedTarget ext) s = perform (ensure setup (Text.trim ext)) s := by
  cases hfind : s.registry.target? ext with
  | some target =>
    rw [perform_bind_of_ok (perform_addMissing_of_mapped hfind), perform_mappedTarget hfind,
      perform_ensure_of_mapped hfind]
  | none =>
    have hmissing := perform_addMissing_of_free setup hfind
    rw [perform_ensure_eq_add hne hfind]
    rcases hadd : perform (add setup ext none) s with ⟨error | made, t⟩ <;> rw [hadd] at hmissing
    · rw [perform_bind_of_error hmissing, perform_bind_of_error hadd]
    · obtain ⟨target, -, hmapping⟩ := mapping_add_of_ok hadd
      have hmapped : t.registry.target? ext = some target := by
        rw [target?, hmapping, Dict.find?_insert, if_pos rfl]
      rw [perform_bind_of_ok hmissing, perform_bind_of_ok hadd, perform_mappedTarget hmapped,
        perform_ensure_of_mapped hmapped]

/-- Actions that do the same from every session. -/
def agreeing : Correspondence Act Act where
  rel action action' := ∀ s, perform action s = perform action' s
  rel_pure _ _ := rfl
  rel_bind {_ _ action action' next next'} haction hnext s := by
    rcases h : perform action s with ⟨error | a, t⟩
    · rw [perform_bind_of_error h, perform_bind_of_error ((haction s).symm.trans h)]
    · rw [perform_bind_of_ok h, perform_bind_of_ok ((haction s).symm.trans h), hnext a t]

lemma perform_compileAdding (setup : Setup) (options : Options) (depth : Nat) (text : String)
    (hne : Text.trim ext ≠ "") (s : Session) :
    perform (compileAdding setup options depth ext text) s =
      perform (compileWithin setup options depth ext text) s := by
  induction depth using Nat.strong_induction_on generalizing ext text s with
  | _ depth ih =>
    rw [compileAdding.eq_def, compileWithin.eq_def]
    dsimp only
    rw [← bind_assoc]
    refine agreeing.rel_bind (perform_added_target hne) ?_ s
    intro target
    cases target with
    | chain spec => exact fun s => rfl
    | wildcard =>
      cases depth with
      | zero => exact fun s => rfl
      | succ depth =>
        refine agreeing.rel_bind ?_ fun _ => agreeing.rel_pure _
        rw [compileDocument_eq, compileDocument_eq]
        apply Document.compile_related
        · intro marker hmem body
          -- The extension of a marker is never empty, so it can be added.
          obtain ⟨i, hi⟩ := (layout_ofLines _).exists_markerAt? hmem
          obtain ⟨line, -, hparse⟩ := markerAt?_eq_some_iff.1 hi
          have hmarker : Text.trim marker.extension ≠ "" := by
            rw [Marker.trim_extension hparse]
            exact Marker.extension_ne_empty hparse
          refine agreeing.rel_bind ?_ fun output s => rfl
          exact ih depth (Nat.lt_succ_self depth) body hmarker
        · exact fun number content _ s => rfl

/-! ### Lazy and explicit mapping -/

/-- A text whose extension is not mapped is compiled as if the extension had been added to the registry
before, and if it cannot be added, this is why compiling fails. The same is true of every block whose
extension is not mapped when the block is compiled for a document. So a registry whose extensions are all
added by hand before they are needed does the same. -/
theorem unmapped_as_added (setup : Setup) (options : Options) :
    (∀ s ext text, Text.trim ext ≠ "" → s.registry.target? ext = none →
      AsAdded setup ext (compile setup ext text options) s) ∧
    (∀ document block : Task, document.Opens setup options block →
      block.session.registry.target? block.extension = none →
      AsAdded setup block.extension
        (compileWithin setup options block.depth block.extension block.text) block.session) ∧
    ∀ s ext text, Text.trim ext ≠ "" →
      perform (compileAdding setup options setup.nesting ext text) s =
        perform (compile setup ext text options) s := by
  refine ⟨?_, ?_, ?_⟩
  · intro s ext text hne hfree
    exact asAdded_compileWithin hne hfree setup.nesting text
  · intro document block hopens hfree
    obtain ⟨i, m, hm, hext⟩ := hopens.exists_markerAt?
    obtain ⟨line, -, hparse⟩ := markerAt?_eq_some_iff.1 hm
    have hne : Text.trim block.extension ≠ "" := by
      rw [hopens.trim_extension, ← hext]
      exact Marker.extension_ne_empty hparse
    exact asAdded_compileWithin hne hfree block.depth block.text
  · intro s ext text hne
    exact perform_compileAdding setup options setup.nesting text hne s

/-- The standard setup, where pages are documents and all other extensions have the chain of their own
name. -/
def pagesSetup : Setup :=
  { Setup.standard with conventions := fun ext => some (if ext = "page" then "*" else ext) }

def smallPage : String := ">> text\nx"

/-- The block of the page is compiled when its extension is not mapped yet. -/
lemma exists_opens_smallPage : ∃ block : Task,
    (Task.mk 1 "page" smallPage .initial).Opens pagesSetup .empty block ∧ block.extension = "text" ∧
      block.session.registry.target? block.extension = none := by
  have hdocument : perform (ensure pagesSetup (Text.trim "page")) .initial =
      (.ok .wildcard, (perform (ensure pagesSetup (Text.trim "page")) .initial).2) :=
    Prod.ext (by decide +kernel) rfl
  generalize hsession : (perform (ensure pagesSetup (Text.trim "page")) .initial).2 = t at hdocument
  have hfree : t.registry.target? "text" = none := by
    rw [← hsession]
    decide +kernel
  have hext : (blockCalls (compileWithin pagesSetup .empty 0) .empty smallPage t).map
      BlockCall.extension = ["text"] := by
    rw [← hsession]
    decide +kernel
  obtain ⟨call, later, hcalls, hcall, -⟩ := List.map_eq_cons_iff.1 hext
  have hfirst : blockCalls (compileWithin pagesSetup .empty 0) .empty smallPage t =
      [] ++ call :: later := hcalls
  exact ⟨_, .block hdocument hfirst rfl, hcall, hcall.symm ▸ hfree⟩

/-- Neither the page nor its block is mapped before. An extension whose stage is not found cannot be
added, and compiling a text with it fails. -/
theorem unmapped_as_added_smallPage :
    (initial.target? "page" = none ∧
      perform (compile pagesSetup "page" smallPage .empty) .initial = perform (do
        let _ ← add pagesSetup "page" none
        compile pagesSetup "page" smallPage .empty) .initial ∧
      (perform (compile pagesSetup "page" smallPage .empty) .initial).1.toOption.isSome = true) ∧
    (∃ t, perform (compile pagesSetup "nope" "x" .empty) .initial =
        (.error (.unresolved "nope" (.unknown "nope")), t) ∧ t.registry = initial) ∧
    (∃ block : Task, (Task.mk 1 "page" smallPage .initial).Opens pagesSetup .empty block ∧
      block.session.registry.target? block.extension = none ∧
      AsAdded pagesSetup block.extension
        (compileWithin pagesSetup .empty block.depth block.extension block.text) block.session) ∧
    perform (compileAdding pagesSetup .empty 1 "page" smallPage) .initial =
      perform (compile pagesSetup "page" smallPage .empty) .initial := by
  obtain ⟨hcompile, hblock, hadding⟩ := unmapped_as_added pagesSetup .empty
  have hpage : initial.target? "page" = none := by decide +kernel
  have hnope : initial.target? "nope" = none := by decide +kernel
  have hrefused : (perform (add pagesSetup "nope" none) .initial).1 =
      .error (.unresolved "nope" (.unknown "nope")) := rfl
  obtain ⟨block, hopens, -, hfree⟩ := exists_opens_smallPage
  refine ⟨⟨hpage, ?_, by decide +kernel⟩, ⟨(perform (add pagesSetup "nope" none) .initial).2, ?_⟩,
    ⟨block, hopens, hfree, ?_⟩, ?_⟩
  · exact (hcompile .initial "page" smallPage (by decide +kernel) hpage).perform_eq
  · exact (hcompile .initial "nope" "x" (by decide +kernel) hnope).refused _ _ (Prod.ext hrefused rfl)
  · exact hblock _ block hopens hfree
  · exact hadding .initial "page" smallPage (by decide +kernel)

end Registry

end TextChain
