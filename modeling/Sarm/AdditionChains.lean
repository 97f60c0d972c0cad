import Mathlib.Algebra.Group.Defs
import Mathlib.Algebra.Group.Basic
import Mathlib.Logic.Function.Basic
import Mathlib.Tactic.Ring

/-!
Powers by a program of squarings and multiplications in numbered slots: whatever the slots hold
stands for a power, and its exponent is found by running the program on exponents.
-/
namespace Sarm.AdditionChains

/-- `dst` becomes the square of `src`, is squared until there have been `squarings` of them, and is
    multiplied by a slot. -/
structure Step where
  dst : Nat
  src : Nat
  squarings : Nat
  factor : Option Nat
deriving DecidableEq

variable {α : Type}

def square (mul : α → α → α) (dst : Nat) (slots : Nat → α) : Nat → α :=
  Function.update slots dst (mul (slots dst) (slots dst))

/-- The first squaring moves to `dst`, the rest are in place. -/
def step (mul : α → α → α) (slots : Nat → α) (s : Step) : Nat → α :=
  let slots := Function.update slots s.dst (mul (slots s.src) (slots s.src))
  let slots := (square mul s.dst)^[s.squarings - 1] slots
  match s.factor with
  | none => slots
  | some k => Function.update slots s.dst (mul (slots s.dst) (slots k))

def run (mul : α → α → α) (slots : Nat → α) (steps : List Step) : Nat → α := steps.foldl (step mul) slots

/-! ### Exponents -/

/-- The exponents that are known after a step. -/
def exponent (e : Nat → Option Nat) (s : Step) : Nat → Option Nat :=
  let e := Function.update e s.dst ((e s.src).map (· * 2^(s.squarings - 1 + 1)))
  match s.factor with
  | none => e
  | some k => Function.update e s.dst ((e s.dst).bind fun i => (e k).map (i + ·))

theorem doubled (count : Nat) : ((· * 2^count) ∘ (· * 2) : Nat → Nat) = (· * 2^(count + 1)) := by
  funext i
  rw [Function.comp,pow_succ]
  ring

def exponents (e : Nat → Option Nat) (steps : List Step) : Nat → Option Nat := steps.foldl exponent e

section
variable {M : Type} [Monoid M] (holds : α → M → Prop) (x : M)

/-- What is in the slots with a known exponent. -/
def Tracks (slots : Nat → α) (e : Nat → Option Nat) : Prop := ∀ i n, e i = some n → holds (slots i) (x^n)

variable {holds x} {mul : α → α → α} {slots : Nat → α} {e : Nat → Option Nat}

theorem Tracks.update (tracks : Tracks holds x slots e) {dst : Nat} {a : α} {k : Option Nat}
    (held : ∀ n, k = some n → holds a (x^n)) :
    Tracks holds x (Function.update slots dst a) (Function.update e dst k) := by
  intro i n known
  by_cases same : i = dst
  · subst same
    rw [Function.update_self] at known ⊢
    exact held n known
  · rw [Function.update_of_ne same] at known ⊢
    exact tracks i n known

theorem Tracks.squares (closed : ∀ a b u v, holds a u → holds b v → holds (mul a b) (u * v)) {dst : Nat}
    {k : Option Nat} (count : Nat) :
    ∀ slots : Nat → α, Tracks holds x slots (Function.update e dst k) →
      Tracks holds x ((square mul dst)^[count] slots) (Function.update e dst (k.map (· * 2^count))) := by
  induction count generalizing k with
  | zero =>
    intro slots tracks
    simpa using tracks
  | succ count ih =>
    intro slots tracks
    rw [Function.iterate_succ_apply]
    have squared : Tracks holds x (square mul dst slots) (Function.update e dst (k.map (· * 2))) := by
      rw [← Function.update_idem (a := dst) k (k.map (· * 2)) e]
      refine tracks.update fun n known => ?_
      obtain ⟨i,rfl,rfl⟩ := Option.map_eq_some_iff.mp known
      have held := tracks dst i (Function.update_self ..)
      rw [Nat.mul_two,pow_add]
      exact closed _ _ _ _ held held
    have rest := ih _ squared
    rwa [Option.map_map,doubled] at rest

/-- What a step leaves is known if what it reads is. -/
theorem Tracks.step (closed : ∀ a b u v, holds a u → holds b v → holds (mul a b) (u * v))
    (tracks : Tracks holds x slots e) (s : Step) :
    Tracks holds x (step mul slots s) (exponent e s) := by
  have first : Tracks holds x (Function.update slots s.dst (mul (slots s.src) (slots s.src)))
      (Function.update e s.dst ((e s.src).map (· * 2))) := by
    refine tracks.update fun n known => ?_
    obtain ⟨i,same,rfl⟩ := Option.map_eq_some_iff.mp known
    have held := tracks s.src i same
    rw [Nat.mul_two,pow_add]
    exact closed _ _ _ _ held held
  have squared := first.squares closed (s.squarings - 1)
  rw [Option.map_map,doubled] at squared
  rw [AdditionChains.step,exponent]
  cases s.factor with
  | none => exact squared
  | some k =>
    refine squared.update fun n known => ?_
    obtain ⟨i,same,known⟩ := Option.bind_eq_some_iff.mp known
    obtain ⟨j,same',rfl⟩ := Option.map_eq_some_iff.mp known
    rw [pow_add]
    exact closed _ _ _ _ (squared _ i same) (squared _ j same')

theorem Tracks.run (closed : ∀ a b u v, holds a u → holds b v → holds (mul a b) (u * v))
    (tracks : Tracks holds x slots e) (steps : List Step) :
    Tracks holds x (run mul slots steps) (exponents e steps) := by
  induction steps generalizing slots e with
  | nil => exact tracks
  | cons s steps ih => exact ih (tracks.step closed s)

end

end Sarm.AdditionChains
