import Mathlib.Logic.Basic

/-!
Where a computation that may throw comes to: a result in a state of which one thing holds, or an error in a
state of which another does. The rules follow the computation step by step, and what may hold of a state
after an error is the same all along it.
-/
namespace Sarm.Outcomes

variable {ε σ α β : Type}

/-- From `s` on there is a result with `Done`, or an error with `Fails`. -/
def Ends (x : EStateM ε σ α) (s : σ) (Done : α → σ → Prop) (Fails : ε → σ → Prop) : Prop :=
  match x s with
  | .ok a s' => Done a s'
  | .error e s' => Fails e s'

variable {s : σ} {Done Done' : α → σ → Prop} {After : β → σ → Prop} {Fails Fails' : ε → σ → Prop}

theorem Ends.pure {a : α} (done : Done a s) : Ends (pure a : EStateM ε σ α) s Done Fails := done

theorem Ends.throw {e : ε} (fails : Fails e s) : Ends (throw e : EStateM ε σ α) s Done Fails := fails

theorem Ends.modify {f : σ → σ} {Done : PUnit → σ → Prop} (done : Done .unit (f s)) :
    Ends (modify f : EStateM ε σ PUnit) s Done Fails := done

theorem Ends.bind {x : EStateM ε σ α} {k : α → EStateM ε σ β} (first : Ends x s Done Fails)
    (rest : ∀ a s', Done a s' → Ends (k a) s' After Fails) : Ends (x >>= k) s After Fails := by
  rw [Ends] at first ⊢
  change match EStateM.bind x k s with | .ok a s' => After a s' | .error e s' => Fails e s'
  rw [EStateM.bind]
  cases reply : x s with
  | ok a s' =>
    rw [reply] at first
    exact rest a s' first
  | error e s' =>
    rw [reply] at first
    exact first

/-- What holds after an error of the first step is more than what has to. -/
theorem Ends.bind' {x : EStateM ε σ α} {k : α → EStateM ε σ β} (first : Ends x s Done Fails')
    (fails : ∀ e s', Fails' e s' → Fails e s') (rest : ∀ a s', Done a s' → Ends (k a) s' After Fails) :
    Ends (x >>= k) s After Fails := by
  have same : Ends x s Done Fails := by
    rw [Ends] at first ⊢
    cases reply : x s with
    | ok a s' =>
      rw [reply] at first
      exact first
    | error e s' =>
      rw [reply] at first
      exact fails e s' first
  exact same.bind rest

/-- A step whose result and state are known. -/
theorem Ends.step {x : EStateM ε σ α} {k : α → EStateM ε σ β} {a : α} {t : σ} (reply : x s = .ok a t)
    (rest : Ends (k a) t After Fails) : Ends (x >>= k) s After Fails := by
  have first : Ends x s (fun b s' => b = a ∧ s' = t) Fails := by rw [Ends,reply]; exact ⟨rfl,rfl⟩
  refine first.bind ?_
  rintro _ _ ⟨rfl,rfl⟩
  exact rest

/-- A step that is known to throw. -/
theorem Ends.stop {x : EStateM ε σ α} {k : α → EStateM ε σ β} {e : ε} {t : σ} (reply : x s = .error e t)
    (fails : Fails e t) : Ends (x >>= k) s After Fails := by
  have first : Ends x s (fun _ _ => False) Fails := by rw [Ends,reply]; exact fails
  exact first.bind fun _ _ none => none.elim

theorem Ends.mono {x : EStateM ε σ α} (ends : Ends x s Done Fails) (done : ∀ a s', Done a s' → Done' a s')
    (fails : ∀ e s', Fails e s' → Fails' e s') : Ends x s Done' Fails' := by
  rw [Ends] at ends ⊢
  cases reply : x s with
  | ok a s' =>
    rw [reply] at ends
    exact done a s' ends
  | error e s' =>
    rw [reply] at ends
    exact fails e s' ends

/-- Two things that hold where it comes to. -/
theorem Ends.and {x : EStateM ε σ α} (first : Ends x s Done Fails) (second : Ends x s Done' Fails') :
    Ends x s (fun a s' => Done a s' ∧ Done' a s') (fun e s' => Fails e s' ∧ Fails' e s') := by
  rw [Ends] at first second ⊢
  cases reply : x s with
  | ok a s' =>
    rw [reply] at first second
    exact ⟨first,second⟩
  | error e s' =>
    rw [reply] at first second
    exact ⟨first,second⟩

/-- A run that has a result. -/
theorem Ends.ok {x : EStateM ε σ α} {a : α} {s' : σ} (ends : Ends x s Done Fails) (reply : x s = .ok a s') :
    Done a s' := by
  rw [Ends,reply] at ends
  exact ends

theorem Ends.error {x : EStateM ε σ α} {e : ε} {s' : σ} (ends : Ends x s Done Fails) (reply : x s = .error e s') :
    Fails e s' := by
  rw [Ends,reply] at ends
  exact ends

end Sarm.Outcomes
