import TextChain.Proofs.Linking

/-!
# The lookups of a chain, one by one

A resolver that is asked for names one after the other gives an answer at each position, which may depend on
the lookups in front of it (`Chain.answerAt?`). Linking a chain text asks for the stages of the chain at
their positions, each with the same settings, and no further than the first that is refused. The stages of
the linked chain are the answers, position by position (`Chain.link_position_by_position`).
-/

namespace TextChain

namespace Chain

variable {resolver : Resolver} {settings : ResolverSettings} {before : List Lookup}
  {name : String} {names answered : List String} {stages : List Stage} {reason : StageError} {i k : Nat}

/-- The answer to the lookup at the position `i` of a resolver that is asked for names one after the other,
where `before` are the lookups made so far. -/
def answerAt? (resolver : Resolver) (settings : ResolverSettings) (before : List Lookup)
    (names : List String) (i : Nat) : Option (Except StageError Stage) :=
  names[i]?.map fun name =>
    resolver.answer (before ++ lookupsFor settings (names.take i)) ⟨name, settings⟩

@[simp] lemma answerAt?_cons_zero (name : String) (names : List String) :
    answerAt? resolver settings before (name :: names) 0 =
      some (resolver.answer before ⟨name, settings⟩) := by
  simp [answerAt?, lookupsFor]

@[simp] lemma answerAt?_cons_succ (name : String) (names : List String) (i : Nat) :
    answerAt? resolver settings before (name :: names) (i + 1) =
      answerAt? resolver settings (before ++ [⟨name, settings⟩]) names i := by
  simp [answerAt?, lookupsFor]

/-! ### Answers and positions -/

/-- Stages that answer names are the answers at the positions of the names. -/
lemma Answers.map_getElem? (h : Answers resolver settings before names stages) (i : Nat) :
    stages[i]?.map .ok = answerAt? resolver settings before names i := by
  induction h generalizing i with
  | nil => simp [answerAt?]
  | cons hanswer _ ih =>
    cases i with
    | zero => simp [hanswer]
    | succ i => simpa using ih i

lemma Answers.length_eq (h : Answers resolver settings before names stages) :
    stages.length = names.length := by
  induction h with
  | nil => rfl
  | cons _ _ ih => simp [ih]

lemma Answers.append {names' : List String} {stages' : List Stage}
    (h : Answers resolver settings before names stages)
    (h' : Answers resolver settings (before ++ lookupsFor settings names) names' stages') :
    Answers resolver settings before (names ++ names') (stages ++ stages') := by
  induction h with
  | nil => simpa [lookupsFor] using h'
  | cons hanswer _ ih =>
    refine .cons hanswer (ih ?_)
    simpa [lookupsFor] using h'

/-- Of names that are asked for one after the other, the one at the position `i` is the first that the
resolver refuses. -/
structure RefusedAt (resolver : Resolver) (settings : ResolverSettings) (before : List Lookup)
    (names : List String) (i : Nat) (reason : StageError) : Prop where
  earlier : ∀ k < i, ∃ stage, answerAt? resolver settings before names k = some (.ok stage)
  refused : answerAt? resolver settings before names i = some (.error reason)

/-- There is only one first refusal. -/
lemma RefusedAt.unique {reason' : StageError} (h : RefusedAt resolver settings before names i reason)
    (h' : RefusedAt resolver settings before names k reason') : i = k ∧ reason = reason' := by
  rcases lt_trichotomy i k with hlt | rfl | hlt
  · obtain ⟨stage, hstage⟩ := h'.earlier i hlt
    simp [h.refused] at hstage
  · have heq := h.refused.symm.trans h'.refused
    simpa using heq
  · obtain ⟨stage, hstage⟩ := h.earlier k hlt
    simp [h'.refused] at hstage

lemma FirstRefusal.refusedAt
    (h : FirstRefusal resolver settings before names answered name reason) :
    RefusedAt resolver settings before names answered.length reason ∧
      answered ++ [name] = names.take (answered.length + 1) := by
  obtain ⟨rest, rfl⟩ := h.starts
  obtain ⟨stages, hstages⟩ := h.answers
  refine ⟨⟨?_, ?_⟩, ?_⟩
  · intro k hk
    have hstage := hstages.map_getElem? k
    have hlength := hstages.length_eq
    rw [List.getElem?_eq_getElem (by omega), Option.map_some] at hstage
    refine ⟨stages[k], ?_⟩
    rw [hstage]
    simp [answerAt?, List.take_append_of_le_length hk.le, List.getElem?_append_left hk]
  · simp [answerAt?, h.refused]
  · exact (List.take_left' (by simp)).symm

/-! ### Linking -/

/-- Linking a chain text ends with the first stage that the resolver refuses, or with an answer for every
stage. -/
lemma link_cases {spec : String} {chain : Chain} (resolver : Resolver) (settings : ResolverSettings)
    (before : List Lookup) (hparse : parse spec = .ok chain) :
    (∃ i name reason, chain.stages[i]? = some name ∧
      RefusedAt resolver settings before chain.stages i reason ∧
      perform (link resolver settings spec) before =
        (.error (.resolution name reason),
          before ++ lookupsFor settings (chain.stages.take (i + 1)))) ∨
    ∃ linked, linked.chain = chain ∧ Answered resolver settings before linked ∧
      perform (link resolver settings spec) before =
        (.ok linked, before ++ lookupsFor settings chain.stages) := by
  rcases hlink : perform (link resolver settings spec) before with ⟨error | linked, after⟩
  · cases refusal_of_link hlink with
    | fault hfault =>
      rw [hparse] at hfault
      cases hfault
    | @stage chain' answered name reason hparse' hrefusal =>
      rw [hparse] at hparse'
      cases hparse'
      obtain ⟨hrefused, htake⟩ := hrefusal.refusedAt
      have hname : chain.stages[answered.length]? = some name := by
        rw [← List.getElem?_take_of_lt (Nat.lt_succ_self _), ← htake, List.getElem?_concat_length]
      rw [htake]
      exact .inl ⟨answered.length, name, reason, hname, hrefused, rfl⟩
  · obtain ⟨hparse', hanswered, rfl⟩ := answered_of_link hlink
    rw [hparse] at hparse'
    cases hparse'
    exact .inr ⟨linked, rfl, hanswered, rfl⟩

lemma Answered.getElem? {linked : LinkedChain} (h : Answered resolver settings before linked) (i : Nat) :
    (linked.pre ++ linked.post.toList)[i]?.map .ok =
      answerAt? resolver settings before linked.chain.stages i :=
  (h.pre.append h.post).map_getElem? i

/-- If the resolver refuses a stage of a chain text, linking it ends with the first refusal. -/
lemma link_of_refusedAt {spec : String} {chain : Chain} (hparse : parse spec = .ok chain)
    (hname : chain.stages[i]? = some name)
    (h : RefusedAt resolver settings before chain.stages i reason) :
    perform (link resolver settings spec) before =
      (.error (.resolution name reason),
        before ++ lookupsFor settings (chain.stages.take (i + 1))) := by
  rcases link_cases resolver settings before hparse with
    ⟨k, name', reason', hname', hrefused, hlink⟩ | ⟨linked, rfl, hanswered, -⟩
  · obtain ⟨rfl, rfl⟩ := h.unique hrefused
    rw [hname] at hname'
    cases hname'
    exact hlink
  · have hstage := hanswered.getElem? i
    rw [h.refused] at hstage
    simp at hstage

/-- If the resolver refuses no stage of a chain text, the chain is linked with its answers. -/
lemma link_of_answered {spec : String} {chain : Chain} (hparse : parse spec = .ok chain)
    (h : ∀ i < chain.stages.length,
      ∃ stage, answerAt? resolver settings before chain.stages i = some (.ok stage)) :
    ∃ linked, linked.chain = chain ∧ Answered resolver settings before linked ∧
      perform (link resolver settings spec) before =
        (.ok linked, before ++ lookupsFor settings chain.stages) := by
  refine (link_cases resolver settings before hparse).resolve_left ?_
  rintro ⟨i, name, reason, hname, hrefused, -⟩
  obtain ⟨stage, hstage⟩ := h i (List.getElem?_eq_some_iff.1 hname).1
  simp [hrefused.refused] at hstage

/-- Linking a chain text with a fault asks for nothing. Otherwise the stages of the chain are asked for at
their positions, all with the same settings, up to the first refusal, and this is then the error; if
nothing is refused, the linked chain has as many stages in front of the boundary and after it as its chain
text, and the stage at each position is the answer to the lookup at this position. -/
theorem link_position_by_position (resolver : Resolver) (settings : ResolverSettings) (spec : String)
    (before : List Lookup) :
    (∀ fault, parse spec = .error fault →
      perform (link resolver settings spec) before = (.error (.chain fault), before)) ∧
    ∀ chain, parse spec = .ok chain →
      (∀ i name reason, chain.stages[i]? = some name →
        RefusedAt resolver settings before chain.stages i reason →
        perform (link resolver settings spec) before =
          (.error (.resolution name reason),
            before ++ lookupsFor settings (chain.stages.take (i + 1)))) ∧
      ((∀ i < chain.stages.length,
          ∃ stage, answerAt? resolver settings before chain.stages i = some (.ok stage)) →
        ∃ linked, perform (link resolver settings spec) before =
            (.ok linked, before ++ lookupsFor settings chain.stages) ∧
          linked.chain = chain ∧ linked.pre.length = chain.pre.length ∧
          linked.post.isSome = chain.post.isSome ∧
          ∀ i, (linked.pre ++ linked.post.toList)[i]?.map .ok =
            answerAt? resolver settings before chain.stages i) := by
  refine ⟨?_, ?_⟩
  · intro fault hfault
    rw [link, validate, hfault]
    exact perform_throw _ _
  intro chain hparse
  refine ⟨fun i name reason hname h => link_of_refusedAt hparse hname h, ?_⟩
  intro h
  obtain ⟨linked, rfl, hanswered, hlink⟩ := link_of_answered hparse h
  refine ⟨linked, hlink, rfl, hanswered.pre.length_eq, ?_, ?_⟩
  · have hlength := hanswered.post.length_eq
    cases hpost : linked.post <;> cases hlast : linked.chain.post <;> simp_all
  · exact hanswered.getElem?

/-- The resolver that gives out every stage once. -/
def onceOnly : Resolver :=
  ⟨fun before lookup =>
    if lookup ∈ before then .error (.unknown lookup.name) else .ok (.passthrough lookup.name .supplied)⟩

/-- The same name is asked for twice and refused the second time; the stage after it is not asked for. -/
theorem link_position_by_position_onceOnly :
    perform (link onceOnly .default "a > b > a > @ > c") [] =
      (.error (.resolution "a" (.unknown "a")), lookupsFor .default ["a", "b", "a"]) := by
  have hparse : parse "a > b > a > @ > c" = .ok ⟨["a", "b", "a"], some "c", true⟩ := by decide +kernel
  refine ((link_position_by_position onceOnly .default "a > b > a > @ > c" []).2 _ hparse).1 2 "a" _ rfl
    ⟨?_, rfl⟩
  intro k hk
  interval_cases k <;> exact ⟨_, rfl⟩

end Chain

end TextChain
