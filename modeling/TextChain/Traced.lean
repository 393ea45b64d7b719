import TextChain.Stage

/-!
# Traced runs

A traced run is what running stages leaves behind: the calls it made, in order, and how it ended.
After a failure nothing more is called.
-/

namespace TextChain

/-- The calls of a run and its result. -/
structure Traced (ε α : Type) where
  /-- The stages that were started, in order. -/
  calls : List Call
  result : Except ε α

namespace Traced

variable {ε α β : Type}

/-- The run that ends at once. -/
def ofExcept (result : Except ε α) : Traced ε α := ⟨[], result⟩

/-- Goes on after a run that did not fail. -/
protected def bind (run : Traced ε α) (next : α → Traced ε β) : Traced ε β :=
  match run.result with
  | .ok a => ⟨run.calls ++ (next a).calls, (next a).result⟩
  | .error e => ⟨run.calls, .error e⟩

instance : Monad (Traced ε) where
  pure a := ofExcept (.ok a)
  bind := Traced.bind

theorem pure_def (a : α) : (pure a : Traced ε α) = ⟨[], .ok a⟩ := rfl

theorem bind_def (run : Traced ε α) (next : α → Traced ε β) : run >>= next = run.bind next := rfl

theorem bind_of_ok {run : Traced ε α} {a : α} (h : run.result = .ok a) (next : α → Traced ε β) :
    run >>= next = ⟨run.calls ++ (next a).calls, (next a).result⟩ := by
  simp only [bind_def, Traced.bind, h]

theorem bind_of_error {run : Traced ε α} {e : ε} (h : run.result = .error e)
    (next : α → Traced ε β) : run >>= next = ⟨run.calls, .error e⟩ := by
  simp only [bind_def, Traced.bind, h]

instance : LawfulMonad (Traced ε) :=
  LawfulMonad.mk' (Traced ε)
    (fun ⟨calls, result⟩ => by cases result <;> simp [Functor.map, Traced.bind, ofExcept])
    (fun _ _ => by simp [bind_def, pure_def, Traced.bind])
    (fun ⟨calls, result⟩ f g => by
      cases result with
      | error e => rfl
      | ok a =>
        simp only [bind_def, Traced.bind]
        cases (f a).result <;> simp)

end Traced

end TextChain
