import TextChain.CommandLine
import TextChain.Proofs.Engine.Building

/-!
# Which setting of an extension prevails

The mappings of a configuration are kept by their keys as they were written, but the blanks at the ends
of a key do not count when it is mapped. Building an engine maps the keys in ascending order. So of the
keys that stand for one extension the greatest one prevails, and this need not be the key that was set
last (`last_setting_or_greater_key`).
-/

namespace TextChain

open Registry

/-- The configuration with extensions that are mapped one after the other. -/
def Config.withMappings (c : Config) (settings : List (String × String)) : Config :=
  settings.foldl (fun c setting => c.withMapping setting.1 setting.2) c

lemma Config.mappings_withMappings (c : Config) (settings : List (String × String)) :
    (c.withMappings settings).mappings = c.mappings.insertMany settings := by
  induction settings generalizing c with
  | nil => rfl
  | cons setting settings ih =>
    rw [withMappings, List.foldl_cons, ← withMappings, ih, Dict.insertMany_cons]
    rfl

/-- The mappings of a command line are set after those of the configuration. -/
lemma CommandLine.Arguments.mappings_configure (a : Arguments) (config : Config) :
    (a.configure config).mappings = (config.withMappings a.mappings).mappings := rfl

/-! ### Keys that stand for one extension -/

/-- The greatest of the keys that are an extension with blanks at its ends. -/
structure GreatestKey (mappings : Dict String) (ext key : String) : Prop where
  mem : key ∈ mappings.keys
  trim_eq : Text.trim key = ext
  greatest : ∀ other ∈ mappings.keys, Text.trim other = ext → other = key ∨ other < key

variable {mappings : Dict String} {ext key value : String}
  {before after settings : List (String × String)}

lemma mem_keys_iff_find? : key ∈ mappings.keys ↔ ∃ value, mappings.find? key = some value := by
  rw [Dict.mem_keys_iff, Dict.contains, Option.isSome_iff_exists]

lemma mem_settingsFor_iff :
    (key, value) ∈ settingsFor mappings ext ↔
      mappings.find? key = some value ∧ Text.trim key = ext := by
  rw [settingsFor, List.mem_filter, Dict.mem_entries_iff, decide_eq_true_eq]

/-- The last of the entries that stand for an extension has the greatest key. -/
lemma greatestKey_of_getLast? (h : (settingsFor mappings ext).getLast? = some (key, value)) :
    GreatestKey mappings ext key ∧ mappings.find? key = some value := by
  obtain ⟨earlier, hsettings⟩ := List.getLast?_eq_some_iff.1 h
  have hmem : (key, value) ∈ settingsFor mappings ext := by rw [hsettings]; simp
  obtain ⟨hfind, htrim⟩ := mem_settingsFor_iff.1 hmem
  have hascending : Ascending (settingsFor mappings ext) := mappings.ascending.filter _
  rw [hsettings, Ascending, List.pairwise_append] at hascending
  obtain ⟨-, -, hless⟩ := hascending
  refine ⟨⟨mem_keys_iff_find?.2 ⟨value, hfind⟩, htrim, ?_⟩, hfind⟩
  intro other hother htrim'
  obtain ⟨value', hvalue'⟩ := mem_keys_iff_find?.1 hother
  have hmem' := mem_settingsFor_iff.2 ⟨hvalue', htrim'⟩
  rw [hsettings, List.mem_append, List.mem_singleton] at hmem'
  rcases hmem' with hmem' | heq
  · exact .inr (hless _ hmem' _ (List.mem_singleton_self _))
  · exact .inl (congrArg Prod.fst heq)

/-- A key has the value that it was set to last. -/
lemma find?_withMappings_of_last (config : Config)
    (hsettings : settings = before ++ (key, value) :: after)
    (hlast : ∀ setting ∈ after, setting.1 ≠ key) :
    (config.withMappings settings).mappings.find? key = some value := by
  have hnone : (after.filter fun setting => setting.1 = key) = [] :=
    List.filter_eq_nil_iff.2 fun setting hmem => by simpa using hlast setting hmem
  rw [Config.mappings_withMappings, Dict.find?_insertMany, hsettings, List.filter_append,
    List.filter_cons_of_pos (by simp), hnone, List.getLast?_append]
  rfl

/-- If an engine is built from a configuration to which mappings were added, by a program or on a command
line, then an extension that they set has the value of the greatest key that stands for it. This is the
key that was set last for the extension, with the value that it was set to, or a greater key. -/
theorem last_setting_or_greater_key (b : Builder) (config : Config) (settings : List (String × String))
    (hconfig : b.config.mappings = (config.withMappings settings).mappings) (engine : Engine) (t : Session)
    (hbuild : perform b.build .initial = (.ok engine, t)) (before after : List (String × String))
    (key value : String) (hsettings : settings = before ++ (key, value) :: after)
    (hlast : ∀ setting ∈ after, Text.trim setting.1 ≠ Text.trim key) :
    ∃ key' value', GreatestKey b.config.mappings (Text.trim key) key' ∧
      b.config.mappings.find? key' = some value' ∧
      t.registry.target? key = some (.parse value') ∧
      (key' = key ∧ value' = value ∨ key < key') := by
  have hfind : b.config.mappings.find? key = some value := by
    rw [hconfig]
    refine find?_withMappings_of_last config hsettings ?_
    rintro setting hmem rfl
    exact hlast setting hmem rfl
  have hmem : (key, value) ∈ settingsFor b.config.mappings (Text.trim key) :=
    mem_settingsFor_iff.2 ⟨hfind, rfl⟩
  obtain ⟨⟨key', value'⟩, hprevails⟩ :=
    Option.ne_none_iff_exists'.1 (mt List.getLast?_eq_none_iff.1 (List.ne_nil_of_mem hmem))
  obtain ⟨hgreatest, hfind'⟩ := greatestKey_of_getLast? hprevails
  refine ⟨key', value', hgreatest, hfind', ?_, ?_⟩
  · rw [target?_of_build hbuild, hprevails]
    rfl
  · refine (hgreatest.greatest key (mem_keys_iff_find?.2 ⟨value, hfind⟩) rfl).imp_left ?_
    rintro rfl
    exact ⟨rfl, Option.some_inj.1 (hfind'.symm.trans hfind)⟩

/-- A configuration with a blank after an extension. -/
def paddedConfig : Config := Config.default.withMapping "md " "html"

def mapMd : CommandLine.Arguments := ⟨"page.md", none, [("md", "text")], [], false, none, none⟩

/-- The builder that the command line leads to. -/
def paddedBuilder : Builder := { Builder.initial with config := mapMd.configure paddedConfig }

lemma target?_paddedBuilder :
    (perform paddedBuilder.build .initial).2.registry.target? "md" = some (.chain "html") := by
  decide +kernel

lemma exists_build_paddedBuilder :
    ∃ engine, perform paddedBuilder.build .initial =
      (.ok engine, (perform paddedBuilder.build .initial).2) :=
  exists_perform_eq_ok (by decide +kernel)

/-- The greater key of the configuration prevails over that of the command line. -/
theorem last_setting_or_greater_key_paddedConfig :
    ∃ key' value', GreatestKey paddedBuilder.config.mappings "md" key' ∧
      paddedBuilder.config.mappings.find? key' = some value' ∧
      Target.chain "html" = .parse value' ∧ (key' = "md" ∧ value' = "text" ∨ "md" < key') := by
  obtain ⟨engine, hbuild⟩ := exists_build_paddedBuilder
  obtain ⟨key', value', hgreatest, hfind, htarget, hkey⟩ :=
    last_setting_or_greater_key paddedBuilder paddedConfig mapMd.mappings
      (mapMd.mappings_configure paddedConfig) engine _ hbuild [] [] "md" "text" rfl (by simp)
  rw [target?_paddedBuilder] at htarget
  exact ⟨key', value', hgreatest, hfind, Option.some_inj.1 htarget, hkey⟩

/-- So the last setting of an extension does not always prevail. -/
theorem not_last_setting_prevails :
    ¬ ∀ (b : Builder) (config : Config) (settings : List (String × String)) (engine : Engine)
        (t : Session), b.config.mappings = (config.withMappings settings).mappings →
      perform b.build .initial = (.ok engine, t) →
      ∀ before key value after, settings = before ++ (key, value) :: after →
        (∀ setting ∈ after, Text.trim setting.1 ≠ Text.trim key) →
        t.registry.target? key = some (.parse value) := by
  intro h
  obtain ⟨engine, hbuild⟩ := exists_build_paddedBuilder
  have htarget := h paddedBuilder paddedConfig mapMd.mappings engine _
    (mapMd.mappings_configure paddedConfig) hbuild [] "md" "text" [] rfl (by simp)
  rw [target?_paddedBuilder] at htarget
  exact absurd htarget (by decide +kernel)

end TextChain
