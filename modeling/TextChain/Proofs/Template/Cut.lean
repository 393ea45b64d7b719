import TextChain.Proofs.Template.Placeholder

/-!
# Cutting a text at its placeholders

The places where placeholders stand in a text do not overlap (`Occurrence.eq_or_apart`). So a text can be
cut into literals at all of them, and in one way only: the literals of such a cut are the ones without
placeholders in them (`Cut.HasFreeLiterals.unique`).
-/

namespace TextChain

namespace Template

/-! ### Occurrences -/

/-- A place where a placeholder stands in a text. -/
@[ext]
structure Occurrence (source : String) where
  /-- The text in front of the placeholder. -/
  front : String
  placeholder : Placeholder
  /-- The text behind the placeholder. -/
  back : String
  source_eq : front ++ placeholder.text ++ back = source

namespace Occurrence

variable {source : String} {o o' : Occurrence source}

/-- The position of the first character of the placeholder. -/
def start (o : Occurrence source) : Nat :=
  o.front.length

/-- The position behind the last character of the placeholder. -/
def stop (o : Occurrence source) : Nat :=
  o.front.length + o.placeholder.text.length

/-- A place in front of this one, as a place of the whole text. -/
def inFront (o : Occurrence source) (earlier : Occurrence o.front) : Occurrence source where
  front := earlier.front
  placeholder := earlier.placeholder
  back := earlier.back ++ o.placeholder.text ++ o.back
  source_eq := by
    have hfront := congrArg (· ++ o.placeholder.text ++ o.back) earlier.source_eq
    simpa only [String.append_assoc] using hfront.trans o.source_eq

/-- A place behind this one, as a place of the whole text. -/
def inBack (o : Occurrence source) (later : Occurrence o.back) : Occurrence source where
  front := o.front ++ o.placeholder.text ++ later.front
  placeholder := later.placeholder
  back := later.back
  source_eq := by
    have hback := congrArg (o.front ++ o.placeholder.text ++ ·) later.source_eq
    simpa only [String.append_assoc] using hback.trans o.source_eq

lemma toList_source (o : Occurrence source) :
    source.toList = o.front.toList ++ (o.placeholder.text.toList ++ o.back.toList) := by
  simpa only [String.toList_append, List.append_assoc] using (congrArg String.toList o.source_eq).symm

lemma start_lt_stop (o : Occurrence source) : o.start < o.stop := by
  rw [start, stop, ← String.length_toList (s := o.placeholder.text), o.placeholder.toList_text,
    List.length_cons]
  omega

lemma stop_le_length (o : Occurrence source) : o.stop ≤ source.length := by
  have hlength := congrArg String.length o.source_eq
  rw [String.length_append, String.length_append] at hlength
  rw [stop]
  omega

/-- Of two places the text in front of the earlier one is in front of the later one. -/
lemma prefix_front_of_le (h : o.start ≤ o'.start) : o.front.toList <+: o'.front.toList := by
  refine List.prefix_of_prefix_length_le ⟨_, o.toList_source.symm⟩ ⟨_, o'.toList_source.symm⟩ ?_
  rwa [String.length_toList, String.length_toList]

lemma eq_of_start_eq (h : o.start = o'.start) : o = o' := by
  have hfront : o.front.toList = o'.front.toList :=
    (prefix_front_of_le h.le).eq_of_length (by rwa [String.length_toList, String.length_toList])
  have hsource := o.toList_source.symm.trans o'.toList_source
  rw [hfront] at hsource
  obtain ⟨hplaceholder, hback⟩ := Placeholder.eq_of_append (List.append_cancel_left hsource)
  exact Occurrence.ext (String.toList_inj.1 hfront) hplaceholder (String.toList_inj.1 hback)

/-- A place that begins later has all of the earlier placeholder in front of it. -/
lemma exists_between (h : o.start < o'.start) :
    ∃ between, o.front ++ o.placeholder.text ++ between = o'.front := by
  obtain ⟨gap, hgap⟩ := prefix_front_of_le h.le
  have hne : gap ≠ [] := by
    rintro rfl
    rw [List.append_nil, String.toList_inj] at hgap
    rw [start, start, hgap] at h
    exact absurd h (Nat.lt_irrefl _)
  have hsource := o.toList_source.symm.trans o'.toList_source
  rw [← hgap, List.append_assoc] at hsource
  obtain ⟨between, hbetween⟩ := Placeholder.prefix_of_later hne (List.append_cancel_left hsource)
  refine ⟨String.ofList between, String.toList_inj.1 ?_⟩
  rw [String.toList_append, String.toList_append, String.toList_ofList, List.append_assoc, hbetween,
    hgap]

/-- The earlier of two places is a place in front of the later one. -/
lemma exists_inFront (h : o.start < o'.start) : ∃ earlier, o'.inFront earlier = o := by
  obtain ⟨between, hbetween⟩ := exists_between h
  exact ⟨⟨o.front, o.placeholder, between, hbetween⟩, eq_of_start_eq rfl⟩

/-- The later of two places is a place behind the earlier one. -/
lemma exists_inBack (h : o.start < o'.start) : ∃ later, o.inBack later = o' := by
  obtain ⟨between, hbetween⟩ := exists_between h
  have hback : between ++ o'.placeholder.text ++ o'.back = o.back := by
    have hsource := o'.source_eq.trans o.source_eq.symm
    rw [← hbetween, String.append_assoc, String.append_assoc, String.append_right_inj,
      ← String.append_assoc] at hsource
    exact hsource
  exact ⟨⟨between, o'.placeholder, o'.back, hback⟩, eq_of_start_eq (congrArg String.length hbetween)⟩

lemma stop_le_start (h : o.start < o'.start) : o.stop ≤ o'.start := by
  obtain ⟨between, hbetween⟩ := exists_between h
  rw [stop, start, ← hbetween, String.length_append, String.length_append]
  exact Nat.le_add_right _ _

/-- Two placeholders in a text are at the same place or do not overlap. -/
lemma eq_or_apart (o o' : Occurrence source) : o = o' ∨ o.stop ≤ o'.start ∨ o'.stop ≤ o.start := by
  rcases Nat.lt_trichotomy o.start o'.start with h | h | h
  · exact .inr (.inl (stop_le_start h))
  · exact .inl (eq_of_start_eq h)
  · exact .inr (.inr (stop_le_start h))

lemma start_inFront_lt (o : Occurrence source) (earlier : Occurrence o.front) :
    (o.inFront earlier).start < o.start :=
  earlier.start_lt_stop.trans_le earlier.stop_le_length

lemma start_lt_inBack (o : Occurrence source) (later : Occurrence o.back) :
    o.start < (o.inBack later).start := by
  have hlt := o.start_lt_stop
  rw [start, start, inBack, String.length_append, String.length_append]
  rw [start, stop] at hlt
  omega

lemma inBack_injective (o : Occurrence source) : Function.Injective o.inBack := by
  intro later later' h
  obtain ⟨hfront, hplaceholder, hback⟩ := Occurrence.ext_iff.1 h
  exact Occurrence.ext ((String.append_right_inj _).1 hfront) hplaceholder hback

/-- In a text with a placeholder there is a first one. -/
lemma exists_first (h : Nonempty (Occurrence source)) :
    ∃ o : Occurrence source, IsEmpty (Occurrence o.front) := by
  refine ⟨Function.argmin start, ⟨fun earlier => ?_⟩⟩
  exact absurd (start_inFront_lt _ earlier) (Nat.not_lt.2 (Function.argmin_le start _))

end Occurrence

/-! ### Cuts -/

/-- A text as literals with a placeholder between each two. -/
inductive Cut
  | last (literal : String)
  /-- A literal, the placeholder after it, and the rest. -/
  | next (literal : String) (p : Placeholder) (rest : Cut)

namespace Cut

def source : Cut → String
  | .last literal => literal
  | .next literal p rest => literal ++ p.text ++ rest.source

def first (literal : String) (p : Placeholder) (rest : Cut) :
    Occurrence (next literal p rest).source :=
  ⟨literal, p, rest.source, rfl⟩

/-- The places at which the text was cut. -/
def occurrences : (cut : Cut) → List (Occurrence cut.source)
  | .last _ => []
  | .next literal p rest => first literal p rest :: rest.occurrences.map (first literal p rest).inBack

/-- The text was cut at all its placeholders. -/
def Complete (cut : Cut) : Prop :=
  ∀ o : Occurrence cut.source, o ∈ cut.occurrences

/-- No literal has a placeholder in it. -/
def HasFreeLiterals : Cut → Prop
  | .last literal => IsEmpty (Occurrence literal)
  | .next literal _ rest => IsEmpty (Occurrence literal) ∧ rest.HasFreeLiterals

variable {cut cut' rest : Cut} {literal : String} {p : Placeholder}

lemma start_first_le {o : Occurrence (next literal p rest).source}
    (h : o ∈ (next literal p rest).occurrences) : (first literal p rest).start ≤ o.start := by
  rcases List.mem_cons.1 h with rfl | h
  · exact Nat.le_refl _
  · obtain ⟨later, -, rfl⟩ := List.mem_map.1 h
    exact (Occurrence.start_lt_inBack _ later).le

lemma Complete.hasFreeLiterals (h : cut.Complete) : cut.HasFreeLiterals := by
  induction cut with
  | last literal => exact ⟨fun o => List.not_mem_nil (h o)⟩
  | next literal p rest ih =>
    refine ⟨⟨fun earlier => ?_⟩, ih fun later => ?_⟩
    · have hle := start_first_le (h ((first literal p rest).inFront earlier))
      exact absurd (Occurrence.start_inFront_lt (first literal p rest) earlier) (Nat.not_lt.2 hle)
    · rcases List.mem_cons.1 (h ((first literal p rest).inBack later)) with heq | hmem
      · have hlt := Occurrence.start_lt_inBack (first literal p rest) later
        rw [heq] at hlt
        exact absurd hlt (Nat.lt_irrefl _)
      · obtain ⟨later', hmem', heq⟩ := List.mem_map.1 hmem
        exact Occurrence.inBack_injective _ heq ▸ hmem'

lemma HasFreeLiterals.complete (h : cut.HasFreeLiterals) : cut.Complete := by
  induction cut with
  | last literal => exact fun o => (h.false o).elim
  | next literal p rest ih =>
    obtain ⟨hliteral, hrest⟩ := h
    intro o
    rcases Nat.lt_trichotomy o.start (first literal p rest).start with hlt | heq | hlt
    · obtain ⟨earlier, -⟩ := Occurrence.exists_inFront hlt
      exact (hliteral.false earlier).elim
    · rw [Occurrence.eq_of_start_eq heq]
      exact List.mem_cons_self
    · obtain ⟨later, rfl⟩ := Occurrence.exists_inBack hlt
      exact List.mem_cons_of_mem _ (List.mem_map_of_mem (ih hrest later))

/-- A text is cut in one way only. -/
lemma HasFreeLiterals.unique (h : cut.HasFreeLiterals) (h' : cut'.HasFreeLiterals)
    (hsource : cut.source = cut'.source) : cut = cut' := by
  induction cut generalizing cut' with
  | last literal =>
    cases cut' with
    | last literal' => exact congrArg Cut.last hsource
    | next literal' p' rest' => exact (h.false ⟨literal', p', rest'.source, hsource.symm⟩).elim
  | next literal p rest ih =>
    obtain ⟨hliteral, hrest⟩ := h
    cases cut' with
    | last literal' => exact (h'.false ⟨literal, p, rest.source, hsource⟩).elim
    | next literal' p' rest' =>
      obtain ⟨hliteral', hrest'⟩ := h'
      let o : Occurrence (next literal' p' rest').source := ⟨literal, p, rest.source, hsource⟩
      rcases Nat.lt_trichotomy o.start (first literal' p' rest').start with hlt | heq | hlt
      · obtain ⟨earlier, -⟩ := Occurrence.exists_inFront hlt
        exact (hliteral'.false earlier).elim
      · obtain ⟨hfront, hplaceholder, hback⟩ :
            literal = literal' ∧ p = p' ∧ rest.source = rest'.source :=
          Occurrence.ext_iff.1 (Occurrence.eq_of_start_eq heq)
        rw [hfront, hplaceholder, ih hrest hrest' hback]
      · obtain ⟨earlier, -⟩ := Occurrence.exists_inFront hlt
        exact (hliteral.false earlier).elim

/-- Every text can be cut at all its placeholders. -/
lemma exists_hasFreeLiterals (source : String) :
    ∃ cut : Cut, cut.source = source ∧ cut.HasFreeLiterals := by
  induction hlength : source.length using Nat.strong_induction_on generalizing source with
  | _ n ih =>
    by_cases hfree : IsEmpty (Occurrence source)
    · exact ⟨.last source, rfl, hfree⟩
    · obtain ⟨o, hfront⟩ := Occurrence.exists_first (not_isEmpty_iff.1 hfree)
      have hlt : o.back.length < n := by
        have hlength' := congrArg String.length o.source_eq
        have hpositive := o.start_lt_stop
        rw [String.length_append, String.length_append] at hlength'
        rw [Occurrence.start, Occurrence.stop] at hpositive
        omega
      obtain ⟨rest, hrest, hfree'⟩ := ih _ hlt o.back rfl
      exact ⟨.next o.front o.placeholder rest, by rw [Cut.source, hrest, o.source_eq], hfront, hfree'⟩

end Cut

end Template

end TextChain
