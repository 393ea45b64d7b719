import TextChain.Proofs.Template.Cut

/-!
# Filling in templates

Filling in a template puts the value of each placeholder in its place and keeps the literals between them
(`render_eq_filled`). A value is found by following the key of the placeholder into nested objects
(`Value`).
-/

namespace TextChain

namespace Template

variable {options : Options} {cs : List Char} {c : Char} {keys : List String} {v w : Json}

/-! ### Values -/

/-- Following keys into nested objects leads from one value to another. -/
inductive Leads : Json → List String → Json → Prop
  /-- Without keys nothing is followed. -/
  | stop (v : Json) : Leads v [] v
  /-- The first key names a member of an object. -/
  | step {members : List (String × Json)} {key : String} {keys : List String} {v w : Json}
    (hmember : Entries.find? key members = some v) (hrest : Leads v keys w) :
    Leads (.object members) (key :: keys) w

/-- The text that takes the place of a placeholder with this key. -/
inductive Value (options : Options) (key : List String) : String → Prop
  /-- A string stands for itself. -/
  | string {s : String} (h : Leads options.toJson key (.string s)) : Value options key s
  /-- Nothing stands for null. -/
  | null (h : Leads options.toJson key .null) : Value options key ""
  /-- Nothing stands for what is missing. -/
  | missing (h : ∀ v, ¬ Leads options.toJson key v) : Value options key ""
  /-- Any other value is written as JSON. -/
  | other {v : Json} (h : Leads options.toJson key v) (hnull : v ≠ .null)
    (hstring : ∀ s, v ≠ .string s) : Value options key v.compact

/-- What is put in place of a placeholder. -/
def Placeholder.value (p : Placeholder) (options : Options) : String :=
  valueText (options.path? p.key)

lemma leads_iff : Leads v keys w ↔ v.path? keys = some w := by
  constructor
  · intro h
    induction h with
    | stop v => rfl
    | step hmember hrest ih =>
      rw [Json.path?, List.foldlM_cons, Json.member?, hmember]
      exact ih
  · intro h
    induction keys generalizing v with
    | nil =>
      obtain rfl : v = w := Option.some.inj h
      exact .stop v
    | cons key keys ih =>
      rw [Json.path?, List.foldlM_cons] at h
      obtain ⟨u, hmember, hrest⟩ := Option.bind_eq_some_iff.1 h
      cases v with
      | object members => exact .step hmember (ih hrest)
      | null | bool _ | number _ | string _ | array _ => cases hmember

/-- The first key is looked up in the options as in an object. -/
lemma path?_toJson (hne : keys ≠ []) : options.toJson.path? keys = options.path? keys := by
  obtain ⟨key, keys, rfl⟩ := List.exists_cons_of_ne_nil hne
  rfl

/-- There is exactly one value for a placeholder. -/
lemma value_iff (p : Placeholder) (options : Options) (text : String) :
    Value options p.key text ↔ text = p.value options := by
  have hpath : ∀ v, Leads options.toJson p.key v ↔ options.path? p.key = some v := fun v => by
    rw [leads_iff, path?_toJson p.key_ne_nil]
  rw [Placeholder.value]
  constructor
  · intro h
    cases h with
    | string h => rw [(hpath _).1 h]; rfl
    | null h => rw [(hpath _).1 h]; rfl
    | missing h =>
      have hnone : options.path? p.key = none :=
        Option.eq_none_iff_forall_ne_some.2 fun v hv => h v ((hpath v).2 hv)
      rw [hnone]
      rfl
    | @other v h hnull hstring =>
      rw [(hpath v).1 h]
      cases v with
      | null => exact absurd rfl hnull
      | string s => exact absurd rfl (hstring s)
      | bool _ | number _ | array _ | object _ => rfl
  · rintro rfl
    cases hvalue : options.path? p.key with
    | none => exact .missing fun v hv => by simp [(hpath v).1 hv] at hvalue
    | some v =>
      have hleads := (hpath v).2 hvalue
      cases v with
      | null => exact .null hleads
      | string s => exact .string hleads
      | bool _ | number _ | array _ | object _ => exact .other hleads nofun nofun

/-! ### Cutting from left to right -/

lemma parts_placeholder (p : Placeholder) (rest : List Char) :
    parts (p.text.toList ++ rest) = .placeholder p.key :: parts rest := by
  rw [p.toList_text, List.cons_append, List.cons_append, parts]
  have hread := placeholder?_append p rest
  split
  next key rest' h =>
    obtain ⟨rfl, rfl⟩ : p.key = key ∧ rest = rest' := by simpa using hread.symm.trans h
    rfl
  next h => simp [hread] at h

/-- A character at which no placeholder begins stays. -/
lemma parts_char (h : ∀ (p : Placeholder) rest, c :: cs ≠ p.text.toList ++ rest) :
    parts (c :: cs) = .char c :: parts cs := by
  rw [parts.eq_def]
  split
  next heq => cases heq
  next cs' heq =>
    obtain ⟨rfl, rfl⟩ := List.cons.inj heq
    split
    next key rest hread =>
      obtain ⟨p, -, rfl⟩ := exists_of_placeholder? hread
      exact absurd (by rw [p.toList_text]; rfl) (h p rest)
    next => rfl
  next heq =>
    obtain ⟨rfl, rfl⟩ := List.cons.inj heq
    rfl

/-- A placeholder is cut out wherever it stands: what is in front of it cannot be cut across it. -/
lemma parts_append (front : List Char) (p : Placeholder) (back : List Char) :
    parts (front ++ (p.text.toList ++ back)) = parts front ++ .placeholder p.key :: parts back := by
  induction hlength : front.length using Nat.strong_induction_on generalizing front with
  | _ n ih =>
    cases front with
    | nil => rw [List.nil_append, parts_placeholder, parts, List.nil_append]
    | cons c front =>
      by_cases hstart : ∃ (q : Placeholder) (rest : List Char), c :: front = q.text.toList ++ rest
      · obtain ⟨q, rest, heq⟩ := hstart
        have hlt : rest.length < n := by
          rw [← hlength, heq, q.toList_text]
          simp only [List.length_append, List.length_cons]
          omega
        rw [heq, List.append_assoc, parts_placeholder, parts_placeholder, ih _ hlt rest rfl]
        rfl
      · have hfront : ∀ (q : Placeholder) rest, c :: front ≠ q.text.toList ++ rest :=
          fun q rest heq => hstart ⟨q, rest, heq⟩
        have hwhole : ∀ (q : Placeholder) rest,
            c :: (front ++ (p.text.toList ++ back)) ≠ q.text.toList ++ rest := by
          intro q rest heq
          obtain ⟨between, hbetween⟩ := Placeholder.prefix_of_later (List.cons_ne_nil c front) heq.symm
          exact hfront q between hbetween.symm
        rw [List.cons_append, parts_char hwhole, parts_char hfront,
          ih front.length (by rw [← hlength]; exact Nat.lt_succ_self _) front rfl]
        rfl

/-- A text without placeholders is kept character by character. -/
lemma parts_of_free (h : ∀ front (p : Placeholder) back, cs ≠ front ++ (p.text.toList ++ back)) :
    parts cs = cs.map Part.char := by
  induction cs with
  | nil => rw [parts]; rfl
  | cons c cs ih =>
    rw [parts_char fun p rest => h [] p rest, List.map_cons, ih]
    intro front p back heq
    exact h (c :: front) p back (by rw [heq]; rfl)

/-! ### Filling in -/

/-- What is in front of a placeholder and what follows it is filled in on its own. -/
lemma render_append (before : String) (p : Placeholder) (after : String) (options : Options) :
    render (before ++ p.text ++ after) options =
      render before options ++ p.value options ++ render after options := by
  simp only [render, String.toList_append, parts_append, List.map_append,
    List.map_cons, String.join_append, String.join_cons, String.append_assoc]
  rfl

/-! ### Filling in along a cut -/

/-- The text with the values of the placeholders in their places. -/
def Cut.filled (options : Options) : Cut → String
  | .last literal => literal
  | .next literal p rest => literal ++ p.value options ++ rest.filled options

lemma join_map_toString (cs : List Char) : String.join (cs.map Char.toString) = String.ofList cs := by
  apply String.toList_inj.1
  rw [String.toList_join, String.toList_ofList, List.flatMap_map]
  simp [Char.toString_eq_singleton, String.toList_singleton]

/-- A text without placeholders stays as it is. -/
lemma render_of_isEmpty {source : String} (h : IsEmpty (Occurrence source)) (options : Options) :
    render source options = source := by
  have hparts : parts source.toList = source.toList.map Part.char := by
    refine parts_of_free fun front p back heq => h.false ⟨String.ofList front, p, String.ofList back, ?_⟩
    rw [← String.toList_inj, heq]
    simp only [String.toList_append, String.toList_ofList, List.append_assoc]
  have htext : (Part.text options ∘ Part.char) = Char.toString := rfl
  rw [render, hparts, List.map_map, htext, join_map_toString, String.ofList_toList]

lemma Cut.HasFreeLiterals.render_source {cut : Cut} (h : cut.HasFreeLiterals) (options : Options) :
    render cut.source options = cut.filled options := by
  induction cut with
  | last literal => exact render_of_isEmpty h options
  | next literal p rest ih =>
    obtain ⟨hliteral, hrest⟩ := h
    rw [source, filled, render_append, render_of_isEmpty hliteral, ih hrest]

/-- Filling in a template is one exact pass. Placeholders in a text do not overlap, so exactly one cut of
the text has all of them, and filling in keeps its literals and puts in the values, each as it is found in
the options. So a text without placeholders stays as it is, and what stands on the two sides of a
placeholder is filled in on its own. -/
theorem render_eq_filled (source : String) (options : Options) :
    (∀ o o' : Occurrence source, o = o' ∨ o.stop ≤ o'.start ∨ o'.stop ≤ o.start) ∧
    (∃ cut : Cut, cut.source = source ∧ cut.Complete ∧ render source options = cut.filled options ∧
      ∀ cut' : Cut, cut'.source = source → cut'.Complete → cut' = cut) ∧
    (∀ (p : Placeholder) value, Value options p.key value ↔ value = p.value options) ∧
    (IsEmpty (Occurrence source) → render source options = source) ∧
    ∀ before p after, render (before ++ Placeholder.text p ++ after) options =
      render before options ++ p.value options ++ render after options := by
  refine ⟨Occurrence.eq_or_apart, ?_, fun p value => value_iff p options value,
    fun h => render_of_isEmpty h options, fun before p after => render_append before p after options⟩
  obtain ⟨cut, rfl, hfree⟩ := Cut.exists_hasFreeLiterals source
  refine ⟨cut, rfl, hfree.complete, hfree.render_source options, fun cut' hsource hcomplete => ?_⟩
  exact hcomplete.hasFreeLiterals.unique hfree hsource

/-- The inner braces of a run of braces belong to the placeholder, and a value is not filled in again. -/
example : render "\x7b\x7b\x7b\x7b a \x7d\x7d\x7d\x7d"
    (Options.empty.insert "a" (.string "\x7b\x7ba\x7d\x7d")) =
      "\x7b\x7b\x7b\x7ba\x7d\x7d\x7d\x7d" := by cbv

end Template

end TextChain
