import TextChain.CommandLine
import TextChain.Proofs.Engine.Building
import TextChain.Proofs.Registry.Invariant
import TextChain.Proofs.Registry.Frame

/-!
# Which extensions are mapped

Adding an extension drops the blanks at its ends and refuses an empty one. Compiling a text drops the
blanks as well but refuses nothing, so the empty extension is mapped if the configuration has a default
chain for it. However an engine is used, it maps no other extension with a blank at an end and no empty
one (`mapped_extension_trimmed`).
-/

namespace TextChain

open Registry Document

/-! ### Operations of an engine -/

namespace Engine

inductive Operation
  | registry (op : TextChain.Operation)
  /-- Compiles a file by the extension of its name. `contents` is what reading the file gave. -/
  | compileFile (path : String) (contents : Except String String) (options : Options)

/-- The session that an operation leaves, whether it fails or not. -/
def Operation.next (e : Engine) (s : Session) : Operation → Session
  | .registry op => (perform (op.act e.setup) s).2
  | .compileFile path contents options => (perform (e.compileFile path contents options) s).2

def after (e : Engine) (s : Session) (ops : List Operation) : Session :=
  ops.foldl (Operation.next e) s

/-- The operation compiles a text whose extension has nothing but blanks. -/
inductive Operation.CompilesBlank : Operation → Prop
  | compile {ext text : String} {options : Options} (hblank : Text.trim ext = "") :
      CompilesBlank (.registry (.compile ext text options))
  | compileFile {path ext text : String} {options : Options} (hext : Path.extension? path = some ext)
      (hblank : Text.trim ext = "") : CompilesBlank (.compileFile path (.ok text) options)

variable {e : Engine} {s : Session}

lemma after_cons (op : Operation) (ops : List Operation) :
    e.after s (op :: ops) = e.after (op.next e s) ops := rfl

/-- Compiling a file does nothing, or compiles its text. -/
lemma next_compileFile (path : String) (contents : Except String String) (options : Options) :
    Operation.next e s (.compileFile path contents options) = s ∨
      ∃ ext text, Path.extension? path = some ext ∧ contents = .ok text ∧
        Operation.next e s (.compileFile path contents options) =
          (perform (Registry.compile e.setup ext text options) s).2 := by
  rw [Operation.next, compileFile]
  cases hext : Path.extension? path with
  | none => exact .inl rfl
  | some ext =>
    cases contents with
    | error reason => exact .inl rfl
    | ok text => exact .inr ⟨ext, text, rfl, rfl, rfl⟩

lemma change_next (op : Operation) : Change e.setup s (op.next e s) := by
  cases op with
  | registry op => exact change_act op s
  | compileFile path contents options =>
    rcases next_compileFile (e := e) (s := s) path contents options with heq | ⟨ext, text, -, -, heq⟩
    · rw [heq]
      exact .grow (.refl s)
    · rw [heq]
      exact .grow (grows_compileWithin options e.setup.nesting ext text s)

end Engine

variable {setup : Setup} {options : Options} {s t : Session} {ext : String} {target : Target}
  {blank : Prop} {m : Dict Target}

/-! ### Extensions without blanks -/

/-- The extensions that are mapped have no blanks at their ends. If the empty extension is one of them,
then `blank` holds and it has its conventional target. -/
structure Tidy (setup : Setup) (blank : Prop) (m : Dict Target) : Prop where
  trim_eq : ∀ ext target, m.find? ext = some target → Text.trim ext = ext
  of_empty : ∀ target, m.find? "" = some target →
    blank ∧ conventionalTarget setup "" = .ok target

lemma Tidy.mono {blank' : Prop} (h : Tidy setup blank m) (himp : blank → blank') :
    Tidy setup blank' m where
  trim_eq := h.trim_eq
  of_empty target hmapped := (h.of_empty target hmapped).imp_left himp

lemma Tidy.insert (h : Tidy setup blank m) (htrim : Text.trim ext = ext) (hne : ext ≠ "")
    (target : Target) : Tidy setup blank (m.insert ext target) where
  trim_eq ext' target' hmapped := by
    rw [Dict.find?_insert] at hmapped
    split_ifs at hmapped with heq
    · exact heq ▸ htrim
    · exact h.trim_eq ext' target' hmapped
  of_empty target' hmapped := by
    rw [Dict.find?_insert, if_neg hne] at hmapped
    exact h.of_empty target' hmapped

lemma trim_and_ne_empty_of_builtInChain? {spec : String} (h : builtInChain? ext = some spec) :
    Text.trim ext = ext ∧ ext ≠ "" := by
  have hall : ∀ entry ∈ builtInChains, Text.trim entry.1 = entry.1 ∧ entry.1 ≠ "" := by decide +kernel
  exact hall (ext, spec) (Entries.mem_of_find? h)

lemma tidy_initial (setup : Setup) : Tidy setup False initial.mapping where
  trim_eq ext target hmapped := by
    rw [find?_mapping_initial] at hmapped
    obtain ⟨spec, hchain, -⟩ := Option.map_eq_some_iff.1 hmapped
    exact (trim_and_ne_empty_of_builtInChain? hchain).1
  of_empty target hmapped := by
    rw [find?_mapping_initial] at hmapped
    cases hmapped

/-! ### Markers -/

lemma Task.Meets.trim_and_ne_empty {task : Task} (h : task.Meets setup options ext) :
    Text.trim ext = ext ∧ ext ≠ "" := by
  obtain ⟨_, _, _, _, _, i, marker, hmarker, rfl⟩ := h
  obtain ⟨line, -, hparse⟩ := markerAt?_eq_some_iff.1 hmarker
  exact ⟨Marker.trim_extension hparse, Marker.extension_ne_empty hparse⟩

/-! ### What an operation does -/

lemma Tidy.add (h : Tidy setup blank s.registry.mapping) (ext : String) (value : Option String) :
    Tidy setup blank (perform (Registry.add setup ext value) s).2.registry.mapping := by
  rcases hadd : perform (Registry.add setup ext value) s with ⟨e | made, t⟩
  · have hregistry := registry_add_of_error (congrArg Prod.fst hadd)
    rw [hadd] at hregistry
    rwa [hregistry]
  · obtain ⟨target, htarget, hmapping⟩ := mapping_add_of_ok hadd
    rw [hmapping]
    exact h.insert (Text.trim_trim ext) (ne_empty_of_newTarget htarget) target

lemma Tidy.remove {r : Registry} (h : Tidy setup blank r.mapping) (ext : String) :
    Tidy setup blank (r.remove ext).mapping where
  trim_eq ext' target hmapped := by
    rw [find?_mapping_remove] at hmapped
    split_ifs at hmapped
    · obtain ⟨spec, hchain, -⟩ := Option.map_eq_some_iff.1 hmapped
      exact (trim_and_ne_empty_of_builtInChain? hchain).1
    · exact h.trim_eq ext' target hmapped
  of_empty target hmapped := by
    rw [find?_mapping_remove] at hmapped
    split_ifs at hmapped
    · obtain ⟨spec, hchain, -⟩ := Option.map_eq_some_iff.1 hmapped
      exact absurd rfl (trim_and_ne_empty_of_builtInChain? hchain).2
    · exact h.of_empty target hmapped

/-- Compiling a text maps its own extension and those of marker lines, and only the former can be
empty. -/
lemma Tidy.compile (h : Tidy setup blank s.registry.mapping) (ext text : String) (options : Options) :
    Tidy setup (blank ∨ Text.trim ext = "")
      (perform (Registry.compile setup ext text options) s).2.registry.mapping := by
  have hextends : Task.Extends setup options ⟨setup.nesting, ext, text, s⟩
      (perform (Registry.compile setup ext text options) s).2 :=
    Task.extends_run setup options ⟨setup.nesting, ext, text, s⟩
  constructor
  · intro ext' target hmapped
    cases hfind : s.registry.mapping.find? ext' with
    | some target' => exact h.trim_eq ext' target' hfind
    | none =>
      obtain ⟨-, rfl | hmeets⟩ := hextends.mapping_new ext' target hfind hmapped
      · exact Text.trim_trim ext
      · exact hmeets.trim_and_ne_empty.1
  · intro target hmapped
    cases hfind : s.registry.mapping.find? "" with
    | some target' =>
      cases (hextends.mapping_kept "" target' hfind).symm.trans hmapped
      exact (h.of_empty target hfind).imp_left .inl
    | none =>
      obtain ⟨htarget, hempty | hmeets⟩ := hextends.mapping_new "" target hfind hmapped
      · exact ⟨.inr hempty.symm, htarget⟩
      · exact absurd rfl hmeets.trim_and_ne_empty.2

/-- An operation keeps the extensions tidy, unless it compiles a text with a blank extension. -/
theorem Tidy.next {e : Engine} (h : Tidy e.setup blank s.registry.mapping) (op : Engine.Operation) :
    Tidy e.setup (blank ∨ op.CompilesBlank) (op.next e s).registry.mapping := by
  cases op with
  | registry op =>
    cases op with
    | add ext value =>
      rw [Engine.Operation.next, Operation.act, perform_bind_pure]
      dsimp only
      exact (h.add ext value).mono .inl
    | remove ext =>
      rw [Engine.Operation.next, perform_act_remove]
      exact (h.remove ext).mono .inl
    | has ext => exact h.mono .inl
    | mappingFor ext => exact h.mono .inl
    | extensions => exact h.mono .inl
    | get spec =>
      have hmapping : (perform (Registry.get e.setup spec) s).2.registry.mapping = s.registry.mapping :=
        mapping_pipelineFor s
      rw [Engine.Operation.next, Operation.act, perform_bind_pure, hmapping]
      exact h.mono .inl
    | compile ext text options =>
      rw [Engine.Operation.next, Operation.act, perform_bind_pure]
      dsimp only
      exact (h.compile ext text options).mono (Or.imp_right .compile)
  | compileFile path contents options =>
    rcases Engine.next_compileFile (e := e) (s := s) path contents options with
      heq | ⟨ext, text, hext, rfl, heq⟩
    · rw [heq]
      exact h.mono .inl
    · rw [heq]
      exact (h.compile ext text options).mono (Or.imp_right (.compileFile hext))

/-! ### Runs -/

lemma Tidy.after {e : Engine} (h : Tidy e.setup blank s.registry.mapping) (ops : List Engine.Operation) :
    Tidy e.setup (blank ∨ ∃ op ∈ ops, op.CompilesBlank) (e.after s ops).registry.mapping := by
  induction ops generalizing s blank with
  | nil => exact h.mono .inl
  | cons op ops ih =>
    rw [Engine.after_cons]
    refine (ih (h.next op)).mono ?_
    rintro ((hblank | hop) | ⟨op', hmem, hop'⟩)
    · exact .inl hblank
    · exact .inr ⟨op, List.mem_cons_self, hop⟩
    · exact .inr ⟨op', List.mem_cons_of_mem _ hmem, hop'⟩

lemma consistent_engine_after {e : Engine} (ops : List Engine.Operation) (hs : Consistent e.setup s) :
    Consistent e.setup (e.after s ops) := by
  induction ops generalizing s with
  | nil => exact hs
  | cons op ops ih => exact ih ((Engine.change_next op).consistent hs)

lemma tidy_additions (settings : List (String × String)) (h : Tidy setup blank s.registry.mapping) :
    Tidy setup blank (s.after setup (Builder.additions settings)).registry.mapping := by
  induction settings generalizing s with
  | nil => exact h
  | cons setting settings ih =>
    rw [Builder.additions, List.map_cons, Session.after_cons, Operation.act, perform_bind_pure]
    dsimp only
    exact ih (h.add setting.1 (some setting.2))

/-! ### The empty extension -/

lemma Config.find?_overrides (c : Config) (ext : String) :
    c.conventions.overrides.find? ext = c.defaults.find? ext := by
  unfold conventions Conventions.withOverrides
  exact Dict.find?_ofList_entries c.defaults ext

lemma Config.chain?_empty (c : Config) :
    c.conventions.chain? "" = (c.defaults.find? "").or (if c.fallback then some "" else none) := by
  unfold Conventions.chain?
  rw [c.find?_overrides]
  cases c.defaults.find? "" <;> rfl

/-- No extension is mapped to a chain text without a stage. -/
lemma Registry.Consistent.find?_mapping_ne_empty (hs : Consistent setup s) (ext : String) :
    s.registry.mapping.find? ext ≠ some (.chain "") := by
  intro hmapped
  rcases hs.ready ext "" hmapped with hready | hbuiltIn
  · obtain ⟨cached, hcached⟩ := Option.isSome_iff_exists.1 hready
    have hparsed := (hs.made "" cached hcached).parsed
    cases hparsed
  · have hall : ∀ entry ∈ builtInChains, entry.2 ≠ "" := by decide +kernel
    exact hall (ext, "") (Entries.mem_of_find? hbuiltIn) rfl

/-- The empty extension has no chain but one that is configured for it: its own name is no chain. -/
lemma exists_default_of_empty {b : Builder} (hs : Consistent b.setup s)
    (hmapped : s.registry.mapping.find? "" = some target)
    (htarget : conventionalTarget b.setup "" = .ok target) :
    ∃ spec, b.config.defaults.find? "" = some spec ∧ target = .parse spec := by
  have hconventions : b.setup.conventions "" = _ := b.config.chain?_empty
  rw [conventionalTarget, hconventions] at htarget
  cases hdefault : b.config.defaults.find? "" with
  | some spec =>
    rw [hdefault, Option.some_or] at htarget
    exact ⟨spec, rfl, (Except.ok.inj htarget).symm⟩
  | none =>
    -- The fallback would make the empty extension its own chain.
    rw [hdefault, Option.none_or] at htarget
    split_ifs at htarget
    cases htarget
    exact absurd hmapped (hs.find?_mapping_ne_empty "")

/-- However an engine is built and used, the extensions that it maps have no blanks at their ends. The
empty extension is mapped only if it has a default chain in the configuration and a text with a blank
extension was compiled; then it is mapped to this chain. -/
theorem mapped_extension_trimmed (b : Builder) (engine : Engine) (t : Session)
    (hbuild : perform b.build .initial = (.ok engine, t)) (ops : List Engine.Operation) (ext : String)
    (target : Target) (hmapped : (engine.after t ops).registry.mapping.find? ext = some target) :
    Text.trim ext = ext ∧
      (ext = "" → (∃ spec, b.config.defaults.find? "" = some spec ∧ target = .parse spec) ∧
        ∃ op ∈ ops, op.CompilesBlank) := by
  obtain ⟨rfl, -⟩ := perform_build_eq_ok hbuild
  have hsession := session_of_build hbuild
  have htidy : Tidy b.setup False t.registry.mapping := by
    rw [hsession]
    exact tidy_additions _ (tidy_initial b.setup)
  have hconsistent : Consistent b.setup t := by
    rw [hsession]
    exact consistent_after_of _ (consistent_initial b.setup)
  have hafter := htidy.after (e := ⟨b.config, b.setup⟩) ops
  refine ⟨hafter.trim_eq ext target hmapped, ?_⟩
  rintro rfl
  obtain ⟨hblank, htarget⟩ := hafter.of_empty target hmapped
  exact ⟨exists_default_of_empty (consistent_engine_after (e := ⟨b.config, b.setup⟩) ops hconsistent)
    hmapped htarget, hblank.resolve_left id⟩

def emptyDefault : Builder := { Builder.initial with config := Config.default.withDefault "" "text" }

def compileEmpty : Engine.Operation := .registry (.compile "" "x" .empty)

lemma exists_build_emptyDefault :
    ∃ engine, perform emptyDefault.build .initial =
        (.ok engine, (perform emptyDefault.build .initial).2) ∧
      (engine.after (perform emptyDefault.build .initial).2 [compileEmpty]).registry.mapping.find? "" =
        some (.chain "text") := by
  have hok : (perform emptyDefault.build .initial).1.toOption.isSome = true := by decide +kernel
  obtain ⟨engine, hbuild⟩ := exists_perform_eq_ok hok
  refine ⟨engine, hbuild, ?_⟩
  obtain ⟨rfl, -⟩ := perform_build_eq_ok hbuild
  decide +kernel

/-- Compiling a text with the empty extension maps it to its default chain. -/
theorem mapped_extension_trimmed_emptyDefault :
    (∃ spec, emptyDefault.config.defaults.find? "" = some spec ∧ Target.chain "text" = .parse spec) ∧
      ∃ op ∈ [compileEmpty], op.CompilesBlank := by
  obtain ⟨engine, hbuild, hmapped⟩ := exists_build_emptyDefault
  exact (mapped_extension_trimmed emptyDefault engine _ hbuild [compileEmpty] "" _ hmapped).2 rfl

/-- So an extension that is mapped may be empty. -/
theorem not_all_extensions_nonempty :
    ¬ ∀ (b : Builder) (engine : Engine) (t : Session), perform b.build .initial = (.ok engine, t) →
      ∀ (ops : List Engine.Operation) (ext : String),
        (engine.after t ops).registry.mapping.contains ext = true → ext ≠ "" ∧ Text.trim ext = ext := by
  intro h
  obtain ⟨engine, hbuild, hmapped⟩ := exists_build_emptyDefault
  have hcontains : (engine.after (perform emptyDefault.build .initial).2
      [compileEmpty]).registry.mapping.contains "" = true := by
    rw [Dict.contains, hmapped]
    rfl
  exact (h emptyDefault engine _ hbuild [compileEmpty] "" hcontains).1 rfl

end TextChain
