/-!
Programs that make calls. With a call a program shows the state it leaves behind, and it
goes on with whatever the call returns. What a program does whatever its calls return is
a triple, and holds of every run against a machine that serves the calls.
-/
namespace Sarm.Programs

/-- A program whose calls are of `C`; a call `c` returns an `R c`. -/
inductive Program (σ C : Type) (R : C → Type) (α : Type) where
  | done (a : α)
  | call (s : σ) (c : C) (next : R c → Program σ C R α)

/-- A call that is made, by a program in a state, of a machine in a state. -/
structure Made (σ τ C : Type) where
  caller : σ
  machine : τ
  call : C

variable {σ τ C : Type} {R : C → Type} {α β : Type}

/-- One program behind another. -/
def Program.bind : Program σ C R α → (α → Program σ C R β) → Program σ C R β
  | .done a, f => f a
  | .call s c next, f => .call s c fun r => (next r).bind f

/-! ### Runs -/

section
variable (serve : τ → (c : C) → τ × R c)

def Program.run : Program σ C R α → τ → τ × α
  | .done a, t => (t,a)
  | .call _ c next, t => (next (serve t c).2).run (serve t c).1

/-- The calls of a run. -/
def Program.calls : Program σ C R α → τ → List (Made σ τ C)
  | .done _, _ => []
  | .call s c next, t => ⟨s,t,c⟩ :: (next (serve t c).2).calls (serve t c).1

theorem run_call (s : σ) (c : C) (next : R c → Program σ C R α) (t : τ) :
    (Program.call s c next).run serve t = (next (serve t c).2).run serve (serve t c).1 := rfl

@[simp]
theorem run_bind (p : Program σ C R α) (f : α → Program σ C R β) (t : τ) :
    (p.bind f).run serve t = (f (p.run serve t).2).run serve (p.run serve t).1 := by
  induction p generalizing t with
  | done a => rfl
  | call s c next ih => exact ih _ _

end

/-! ### Triples -/

/-- Every call is of `P` and the result is of `Q`, whatever the calls return. -/
def Program.Meets (P : σ → C → Prop) (Q : α → Prop) : Program σ C R α → Prop
  | .done a => Q a
  | .call s c next => P s c ∧ ∀ r, (next r).Meets P Q

variable {P : σ → C → Prop} {Q Q' : α → Prop} {S : β → Prop} {p : Program σ C R α}

theorem meets_bind {f : α → Program σ C R β} (first : p.Meets P Q) (behind : ∀ a, Q a → (f a).Meets P S) :
    (p.bind f).Meets P S := by
  induction p with
  | done a => exact behind a first
  | call s c next ih => exact ⟨first.1,fun r => ih r (first.2 r)⟩

theorem meets_mono (meets : p.Meets P Q) (weaker : ∀ a, Q a → Q' a) : p.Meets P Q' := by
  induction p with
  | done a => exact weaker a meets
  | call s c next ih => exact ⟨meets.1,fun r => ih r (meets.2 r)⟩

theorem meets_calls (serve : τ → (c : C) → τ × R c) (meets : p.Meets P Q) (t : τ) :
    ∀ made ∈ p.calls serve t, P made.caller made.call := by
  induction p generalizing t with
  | done a => exact fun _ none => nomatch none
  | call s c next ih =>
    rw [Program.calls,List.forall_mem_cons]
    exact ⟨meets.1,ih _ (meets.2 _) _⟩

/-- A property of a state that every step keeps. -/
def Kept (P : σ → C → Prop) (I : σ → Prop) (step : σ → Program σ C R σ) : Prop := ∀ s, I s → (step s).Meets P I

/-! ### Repeated steps -/

section
variable (serve : τ → (c : C) → τ × R c) (step : σ → Program σ C R σ)

/-- So many steps. -/
def repeated : Nat → σ → Program σ C R σ
  | 0, s => .done s
  | n+1, s => (step s).bind (repeated n)

variable {serve step}

theorem repeated_meets {I : σ → Prop} (kept : Kept P I step) :
    ∀ (n : Nat) (s : σ), I s → (repeated step n s).Meets P I := by
  intro n
  induction n with
  | zero => exact fun s holds => holds
  | succ n ih => exact fun s holds => meets_bind (kept s holds) fun next still => ih next still

end

end Sarm.Programs
