import Sarm.Programs

/-!
Programs against two machines: one that does what the other one does, as long as its calls go well, serves
every run of a program with the same results.
-/
namespace Sarm.Programs

variable {σ τ τ' C : Type} {R : C → Type} {α β : Type}

/-! ### Calls in their order -/

/-- A call of `last` is made only right behind one of `first`; `just` says that one of these has just been made. -/
def Program.Behind (first last : C → Prop) : Prop → Program σ C R α → Prop
  | _, .done _ => True
  | just, .call _ c next => (last c → just) ∧ ∀ r, (next r).Behind first last (first c)

section
variable {first last : C → Prop} {p : Program σ C R α}

theorem behind_mono {just just' : Prop} (behind : p.Behind first last just) (weaker : just → just') :
    p.Behind first last just' := by
  cases p with
  | done a => trivial
  | call s c next => exact ⟨fun here => weaker (behind.1 here),behind.2⟩

theorem behind_bind {just : Prop} {f : α → Program σ C R β} (front : p.Behind first last just)
    (back : ∀ a, (f a).Behind first last False) : (p.bind f).Behind first last just := by
  induction p generalizing just with
  | done a => exact behind_mono (back a) False.elim
  | call s c next ih => exact ⟨front.1,fun r => ih r (front.2 r)⟩

theorem repeated_behind {step : σ → Program σ C R σ} (behind : ∀ s, (step s).Behind first last False) :
    ∀ (n : Nat) (s : σ), (repeated step n s).Behind first last False := by
  intro n
  induction n with
  | zero => exact fun s => trivial
  | succ n ih => exact fun s => behind_bind (behind s) ih

/-- The last of so many steps. -/
theorem run_repeated (serve : τ → (c : C) → τ × R c) (step : σ → Program σ C R σ) : ∀ (n : Nat) (s : σ) (t : τ),
    (repeated step (n+1) s).run serve t =
      (step ((repeated step n s).run serve t).2).run serve ((repeated step n s).run serve t).1 := by
  have first (n : Nat) (s : σ) (t : τ) : (repeated step (n+1) s).run serve t =
      (repeated step n ((step s).run serve t).2).run serve ((step s).run serve t).1 := run_bind serve _ _ t
  intro n
  induction n with
  | zero => exact first 0
  | succ n ih =>
    intro s t
    rw [first,ih,first]

end

/-! ### What calls do to a machine -/

section
variable {serve : τ → (c : C) → τ × R c} {serve' : τ' → (c : C) → τ' × R c} {first last : C → Prop}
  {Ready : τ → Prop}

/-- What every call keeps of a machine, a run keeps. -/
theorem run_keeps {I : τ → τ → Prop} (refl : ∀ t, I t t) (trans : ∀ {t t' t''}, I t t' → I t' t'' → I t t'')
    (step : ∀ t c, (last c → Ready t) → I t (serve t c).1) (ready : ∀ t c, first c → Ready (serve t c).1)
    {p : Program σ C R α} {just : Prop} (behind : p.Behind first last just) (t : τ) (start : just → Ready t) :
    I t (p.run serve t).1 := by
  induction p generalizing just t with
  | done a => exact refl t
  | call s c next ih =>
    have here := step t c fun closing => start (behind.1 closing)
    exact trans here (ih _ (behind.2 _) _ (ready t c))

/-- Both machines, side by side; the results are those of the first one. -/
def beside (serve : τ → (c : C) → τ × R c) (serve' : τ' → (c : C) → τ' × R c) (t : τ × τ') (c : C) : (τ × τ') × R c :=
  (((serve t.1 c).1,(serve' t.2 c).1),(serve t.1 c).2)

/-- A machine that does what another one does when a call goes well does so over every run whose calls go well. -/
theorem run_refines {Rel : τ → τ' → Prop} {Well : τ × τ' → C → Prop}
    (step : ∀ t t' c, Rel t t' → (last c → Ready t) → Well (t,t') c →
      (serve' t' c).2 = (serve t c).2 ∧ Rel (serve t c).1 (serve' t' c).1)
    (ready : ∀ t c, first c → Ready (serve t c).1) {p : Program σ C R α} {just : Prop}
    (behind : p.Behind first last just) {t : τ} {t' : τ'} (related : Rel t t') (start : just → Ready t)
    (well : ∀ made ∈ p.calls (beside serve serve') (t,t'), Well made.machine made.call) :
    (p.run serve' t').2 = (p.run serve t).2 ∧ Rel (p.run serve t).1 (p.run serve' t').1 := by
  induction p generalizing just t t' with
  | done a => exact ⟨rfl,related⟩
  | call s c next ih =>
    rw [Program.calls,List.forall_mem_cons] at well
    obtain ⟨same,later⟩ := step t t' c related (fun closing => start (behind.1 closing)) well.1
    rw [run_call,run_call,same]
    exact ih _ (behind.2 _) later (ready t c) well.2

end

end Sarm.Programs
