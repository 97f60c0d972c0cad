import Mathlib.Logic.Function.Iterate
import Mathlib.Logic.Relation

/-!
Runs of a system whose states carry a log of what has happened. Actions only add
to the log, so a condition on events that holds of the log at the end held of it
all along, and an invariant kept by every action whose events meet the condition
holds after every run whose events do.
-/
namespace Sarm.Trace
universe u v

/-- Actions on states with a log that only grows. -/
structure Logged (σ : Type u) (ε : Type v) where
  act : σ → σ → Prop
  log : σ → List ε
  grows : ∀ {s t : σ}, act s t → log s <+: log t

variable {σ : Type u} {ε : Type v} (L : Logged σ ε)

/-- Any number of actions. -/
def Logged.Path : σ → σ → Prop := Relation.ReflTransGen L.act

/-- Every event of a log meets a condition. -/
def Meets (Ok : ε → Prop) (log : List ε) : Prop := ∀ e ∈ log, Ok e

instance (Ok : ε → Prop) [DecidablePred Ok] (log : List ε) : Decidable (Meets Ok log) :=
  inferInstanceAs (Decidable (∀ e ∈ log, Ok e))

theorem Meets.of_prefix {Ok : ε → Prop} {log log' : List ε} (shorter : log <+: log') (meets : Meets Ok log') :
    Meets Ok log :=
  fun e member => meets e (shorter.subset member)

theorem Meets.append {Ok : ε → Prop} {log : List ε} {e : ε} (meets : Meets Ok (log ++ [e])) : Ok e :=
  meets e (by simp)

theorem Meets.snoc {Ok : ε → Prop} {log : List ε} {e : ε} (meets : Meets Ok log) (last : Ok e) :
    Meets Ok (log ++ [e]) := by
  intro e' member
  rcases List.mem_append.mp member with before | here
  · exact meets e' before
  · rw [List.mem_singleton.mp here]
    exact last

/-- An invariant kept by the actions whose events meet a condition. -/
def Logged.Keeps (Ok : ε → Prop) (Inv : σ → Prop) : Prop :=
  ∀ {s t : σ}, L.act s t → Meets Ok (L.log t) → Inv s → Inv t

variable {L}

theorem path_grows {s t : σ} (path : L.Path s t) : L.log s <+: L.log t := by
  induction path with
  | refl => exact List.prefix_rfl
  | tail _ action ih => exact ih.trans (L.grows action)

theorem path_keeps {Ok : ε → Prop} {Inv : σ → Prop} (keeps : L.Keeps Ok Inv) {s t : σ} (path : L.Path s t)
    (meets : Meets Ok (L.log t)) (start : Inv s) : Inv t := by
  induction path with
  | refl => exact start
  | tail _ action ih => exact keeps action meets (ih (meets.of_prefix (L.grows action)))

/-- A run of a function each step of which is a path. -/
theorem run_path {f : σ → σ} (steps : ∀ s, L.Path s (f s)) (s : σ) : ∀ n, L.Path s (f^[n] s) := by
  intro n
  induction n with
  | zero => exact .refl
  | succ n ih =>
    rw [Function.iterate_succ_apply']
    exact ih.trans (steps _)

theorem run_keeps {f : σ → σ} (steps : ∀ s, L.Path s (f s)) {Ok : ε → Prop} {Inv : σ → Prop}
    (keeps : L.Keeps Ok Inv) {s : σ} (start : Inv s) (n : Nat) (meets : Meets Ok (L.log (f^[n] s))) : Inv (f^[n] s) :=
  path_keeps keeps (run_path steps s n) meets start

/-! ### Events and what came before them -/

/-- Every event has a property that may refer to the log before it. -/
def Always (P : List ε → ε → Prop) (log : List ε) : Prop :=
  ∀ (before : List ε) (e : ε) (after : List ε), log = before ++ e :: after → P before e

theorem split_at {log : List ε} {k : Nat} (inside : k < log.length) : log = log.take k ++ log[k] :: log.drop (k+1) := by
  rw [← List.drop_eq_getElem_cons inside,List.take_append_drop]

/-- An event of a log in two parts is in one of them. -/
theorem split_append {log new before after : List ε} {e : ε} (split : log ++ new = before ++ e :: after) :
    (∃ rest, log = before ++ e :: rest ∧ after = rest ++ new) ∨ ∃ first, before = log ++ first ∧
    new = first ++ e :: after := by
  rcases List.append_eq_append_iff.mp split with ⟨first,old,late⟩ | ⟨rest,old,late⟩
  · exact .inr ⟨first,old,late⟩
  · cases rest with
    | nil => exact .inr ⟨[],by simpa using old.symm,by simpa using late.symm⟩
    | cons first rest =>
      obtain ⟨rfl,whole⟩ := List.cons.inj late
      exact .inl ⟨rest,old,whole⟩

theorem always_iff {P : List ε → ε → Prop} {log : List ε} :
    Always P log ↔ ∀ k, (inside : k < log.length) → P (log.take k) log[k] := by
  constructor
  · intro always k inside
    exact always (log.take k) log[k] (log.drop (k+1)) (split_at inside)
  · rintro always before e after rfl
    simpa using always before.length (by simp)

instance (P : List ε → ε → Prop) [∀ before e, Decidable (P before e)] (log : List ε) : Decidable (Always P log) :=
  decidable_of_iff _ always_iff.symm

theorem always_nil (P : List ε → ε → Prop) : Always P [] := by
  intro before e after split
  simp at split

theorem always_snoc {P : List ε → ε → Prop} {log : List ε} {e : ε} :
    Always P (log ++ [e]) ↔ Always P log ∧ P log e := by
  constructor
  · intro always
    refine ⟨?_,always log e [] rfl⟩
    rintro before e' after rfl
    exact always before e' (after ++ [e]) (by simp)
  · rintro ⟨always,last⟩ before e' after split
    rcases List.eq_nil_or_concat after with rfl | ⟨rest,e'',rfl⟩
    · obtain ⟨rfl,same⟩ := List.append_inj' split rfl
      cases same
      exact last
    · have shorter : log = before ++ e' :: rest := by
        have same : log ++ [e] = (before ++ e' :: rest) ++ [e''] := by simpa using split
        exact (List.append_inj' same rfl).1
      exact always before e' rest shorter

end Sarm.Trace
