import Mathlib.Logic.Function.Iterate

/-!
A function simulated by another that makes fewer steps. A step of the one is a step
of the other or none of its own, and those of its own come to an end: what two runs
of it have in the end is the same if they start with the same state of the other.
-/
namespace Sarm.Simulation
universe u v

/-- Every step of `f` before the end is one of `g` or none, and takes from a size. Both stay
    where they are in the end. -/
structure Simulates {σ : Type u} {τ : Type v} (f : σ → σ) (g : τ → τ) where
  Rel : σ → τ → Prop
  Over : σ → Prop
  size : σ → Nat
  step : ∀ {s : σ} {t : τ}, Rel s t → ¬ Over s → Rel (f s) t ∨ Rel (f s) (g t)
  smaller : ∀ {s : σ} {t : τ}, Rel s t → ¬ Over s → size (f s) < size s
  stays : ∀ {s : σ}, Over s → f s = s
  fixed : ∀ {s : σ} {t : τ}, Rel s t → Over s → g t = t

variable {σ : Type u} {τ : Type v} {f : σ → σ} {g : τ → τ} (S : Simulates f g)

/-- Every state of a run belongs to one of the run of `g`. -/
theorem Simulates.run {s : σ} {t : τ} (related : S.Rel s t) (n : Nat) : ∃ m, S.Rel (f^[n] s) (g^[m] t) := by
  induction n with
  | zero => exact ⟨0,related⟩
  | succ n ih =>
    obtain ⟨m,here⟩ := ih
    rw [Function.iterate_succ_apply']
    by_cases ended : S.Over (f^[n] s)
    · rw [S.stays ended]
      exact ⟨m,here⟩
    · rcases S.step here ended with stutter | step
      · exact ⟨m,stutter⟩
      · refine ⟨m + 1,?_⟩
        rw [Function.iterate_succ_apply']
        exact step

/-- Every run comes to its end. -/
theorem Simulates.ends {s : σ} {t : τ} (related : S.Rel s t) : ∃ n, S.Over (f^[n] s) := by
  induction size : S.size s using Nat.strongRecOn generalizing s t with
  | ind bound ih =>
    by_cases ended : S.Over s
    · exact ⟨0,ended⟩
    · have smaller := S.smaller related ended
      rw [size] at smaller
      obtain ⟨n,later⟩ : ∃ n, S.Over (f^[n] (f s)) := by
        rcases S.step related ended with stutter | step
        · exact ih _ smaller stutter rfl
        · exact ih _ smaller step rfl
      exact ⟨n + 1,later⟩

/-- There is one end of a run. -/
theorem fixed_once {t : τ} {m m' : Nat} (fixed : g (g^[m] t) = g^[m] t) (fixed' : g (g^[m'] t) = g^[m'] t) :
    g^[m] t = g^[m'] t := by
  have later : ∀ {m m' : Nat}, m ≤ m' → g (g^[m] t) = g^[m] t → g^[m'] t = g^[m] t := by
    intro m m' le fixed
    obtain ⟨k,rfl⟩ := Nat.exists_eq_add_of_le le
    rw [Nat.add_comm,Function.iterate_add_apply]
    exact Function.iterate_fixed fixed k
  rcases Nat.le_total m m' with le | le
  · exact (later le fixed).symm
  · exact later le fixed'

/-- Two runs that start with the same state of `g` end with the same one. -/
theorem Simulates.agree {s s' : σ} {t : τ} (related : S.Rel s t) (related' : S.Rel s' t) {n n' : Nat}
    (ended : S.Over (f^[n] s)) (ended' : S.Over (f^[n'] s')) : ∃ t', S.Rel (f^[n] s) t' ∧ S.Rel (f^[n'] s') t' := by
  obtain ⟨m,here⟩ := S.run related n
  obtain ⟨m',here'⟩ := S.run related' n'
  refine ⟨g^[m] t,here,?_⟩
  rw [fixed_once (S.fixed here ended) (S.fixed here' ended')]
  exact here'

end Sarm.Simulation
