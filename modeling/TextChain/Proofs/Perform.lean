import Mathlib

/-!
# Performing actions

`perform action s` is what an action gives on a state, together with the state it leaves behind; an
action that fails leaves a state as well. The lemmas compute it one step of an action at a time.
-/

namespace TextChain

variable {ε σ α β : Type}

/-- What an action gives on a state, and the state that it leaves. -/
def perform (action : ExceptT ε (StateM σ) α) (s : σ) : Except ε α × σ :=
  action.run.run s

@[simp] lemma perform_pure (a : α) (s : σ) :
    perform (pure a : ExceptT ε (StateM σ) α) s = (.ok a, s) := rfl

@[simp] lemma perform_throw (e : ε) (s : σ) :
    perform (throw e : ExceptT ε (StateM σ) α) s = (.error e, s) := rfl

@[simp] lemma perform_get (s : σ) :
    perform (get : ExceptT ε (StateM σ) σ) s = (.ok s, s) := rfl

@[simp] lemma perform_set (s t : σ) :
    perform (set t : ExceptT ε (StateM σ) PUnit) s = (.ok ⟨⟩, t) := rfl

@[simp] lemma perform_modify (f : σ → σ) (s : σ) :
    perform (modify f : ExceptT ε (StateM σ) PUnit) s = (.ok ⟨⟩, f s) := rfl

@[simp] lemma perform_ofExcept (result : Except ε α) (s : σ) :
    perform (MonadExcept.ofExcept result : ExceptT ε (StateM σ) α) s = (result, s) := by
  cases result <;> rfl

lemma perform_bind (action : ExceptT ε (StateM σ) α)
    (next : α → ExceptT ε (StateM σ) β) (s : σ) :
    perform (action >>= next) s =
      match perform action s with
      | (.ok a, t) => perform (next a) t
      | (.error e, t) => (.error e, t) := by
  simp only [perform, ExceptT.run_bind, StateT.run_bind]
  rcases StateT.run (ExceptT.run action) s with ⟨_ | _, t⟩ <;> rfl

lemma perform_bind_of_ok {action : ExceptT ε (StateM σ) α} {s t : σ} {a : α}
    (h : perform action s = (.ok a, t)) (next : α → ExceptT ε (StateM σ) β) :
    perform (action >>= next) s = perform (next a) t := by
  rw [perform_bind, h]

lemma perform_bind_of_error {action : ExceptT ε (StateM σ) α} {s t : σ} {e : ε}
    (h : perform action s = (.error e, t)) (next : α → ExceptT ε (StateM σ) β) :
    perform (action >>= next) s = (.error e, t) := by
  rw [perform_bind, h]

/-- Changing what an action gives does not change what it leaves. -/
lemma perform_bind_pure (action : ExceptT ε (StateM σ) α) (f : α → β) (s : σ) :
    perform (action >>= fun a => pure (f a)) s =
      ((perform action s).1.map f, (perform action s).2) := by
  rw [perform_bind]
  rcases perform action s with ⟨_ | _, _⟩ <;> rfl

/-- A sequence that succeeds has a first part that does. -/
lemma exists_of_perform_bind_ok {action : ExceptT ε (StateM σ) α}
    {next : α → ExceptT ε (StateM σ) β} {s u : σ} {b : β}
    (h : perform (action >>= next) s = (.ok b, u)) :
    ∃ a t, perform action s = (.ok a, t) ∧ perform (next a) t = (.ok b, u) := by
  rw [perform_bind] at h
  rcases haction : perform action s with ⟨e | a, t⟩
  · rw [haction] at h
    cases h
  · rw [haction] at h
    exact ⟨a, t, rfl, h⟩

/-- A sequence that fails has a first part that does, or a second one. -/
lemma error_of_perform_bind {action : ExceptT ε (StateM σ) α} {next : α → ExceptT ε (StateM σ) β}
    {s : σ} {e : ε} (h : (perform (action >>= next) s).1 = .error e) :
    (perform action s).1 = .error e ∨
      ∃ a t, perform action s = (.ok a, t) ∧ (perform (next a) t).1 = .error e := by
  rw [perform_bind] at h
  rcases haction : perform action s with ⟨e' | a, t⟩
  · rw [haction] at h
    cases h
    exact .inl rfl
  · rw [haction] at h
    exact .inr ⟨a, t, rfl, h⟩

/-! ### Results -/

lemma except_map_eq_ok_iff {f : α → β} {result : Except ε α} {b : β} :
    result.map f = .ok b ↔ ∃ a, result = .ok a ∧ f a = b := by
  cases result <;> simp [Except.map]

lemma except_map_eq_error_iff {f : α → β} {result : Except ε α} {e : ε} :
    result.map f = .error e ↔ result = .error e := by
  cases result <;> simp [Except.map]

/-- Changing what an action gives does not change how it fails. -/
lemma perform_eq_error_of_bind_pure {action : ExceptT ε (StateM σ) α} {f : α → β} {s t : σ} {e : ε}
    (h : perform (action >>= fun a => pure (f a)) s = (.error e, t)) :
    perform action s = (.error e, t) := by
  rw [perform_bind_pure] at h
  obtain ⟨hresult, ht⟩ := Prod.mk.inj h
  exact Prod.ext (except_map_eq_error_iff.1 hresult) ht

lemma exists_ok_of_isSome_toOption {result : Except ε α} (h : result.toOption.isSome = true) :
    ∃ a, result = .ok a := by
  cases result with
  | error e => simp [Except.toOption] at h
  | ok a => exact ⟨a, rfl⟩

lemma exists_perform_eq_ok {action : ExceptT ε (StateM σ) α} {s : σ}
    (h : (perform action s).1.toOption.isSome = true) :
    ∃ a, perform action s = (.ok a, (perform action s).2) := by
  obtain ⟨a, ha⟩ := exists_ok_of_isSome_toOption h
  exact ⟨a, Prod.ext ha rfl⟩

lemma except_bind_eq_ok_iff {f : α → Except ε β} {result : Except ε α} {b : β} :
    result.bind f = .ok b ↔ ∃ a, result = .ok a ∧ f a = .ok b := by
  cases result <;> simp [Except.bind]

end TextChain
