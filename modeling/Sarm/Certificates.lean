import Mathlib.NumberTheory.LucasPrimality
import Mathlib.Algebra.BigOperators.Group.List.Lemmas
import Mathlib.Data.List.Prime

/-!
Certificates of primes: for each number a witness whose order is one less than the number, and the
prime factors of that order, which come before it.
-/
namespace Sarm.Certificates

/-- `a^e` modulo `m`, for an exponent of at most `n` bits. -/
def power (m a : Nat) : Nat → Nat → Nat
  | 0,_ => 1 % m
  | n+1,e =>
    let half := power m a n (e / 2)
    if e % 2 = 1 then half * half % m * a % m else half * half % m

theorem power_cast (m a : Nat) {n e : Nat} (fits : e < 2^n) : (power m a n e : ZMod m) = (a : ZMod m)^e := by
  induction n generalizing e with
  | zero =>
    obtain rfl : e = 0 := by simpa using fits
    simp [power]
  | succ n ih =>
    have half := ih (e := e / 2) (by rw [pow_succ] at fits; omega)
    have parts := Nat.div_add_mod e 2
    rw [power]
    split
    · next odd =>
      rw [odd] at parts
      rw [ZMod.natCast_mod,Nat.cast_mul,ZMod.natCast_mod,Nat.cast_mul,half,← pow_add,← pow_succ,← two_mul,parts]
    · next even =>
      rw [ZMod.natCast_mod,Nat.cast_mul,half,← pow_add,← two_mul]
      congr 1
      omega

theorem power_lt {m : Nat} (positive : 0 < m) (a n e : Nat) : power m a n e < m := by
  cases n with
  | zero => exact Nat.mod_lt _ positive
  | succ n =>
    rw [power]
    split <;> exact Nat.mod_lt _ positive

theorem power_eq_one {m : Nat} (large : 1 < m) (a : Nat) {n e : Nat} (fits : e < 2^n) :
    power m a n e = 1 ↔ (a : ZMod m)^e = 1 := by
  have small := power_lt (by omega : 0 < m) a n e
  have same : ((power m a n e : Nat) : ZMod m) = ((1 : Nat) : ZMod m) ↔ power m a n e = 1 := by
    rw [ZMod.natCast_eq_natCast_iff,Nat.ModEq,Nat.mod_eq_of_lt small,Nat.mod_eq_of_lt large]
  rw [← power_cast m a fits,← same,Nat.cast_one]

/-- A number, a witness, and what the number less one is the product of. -/
structure Step where
  number : Nat
  witness : Nat
  factors : List Nat

/-- The order of the witness is the number less one. -/
def Step.Shows (known : List Nat) (s : Step) : Prop :=
  1 < s.number ∧ s.number < 2^256 ∧ s.factors.prod + 1 = s.number ∧ power s.number s.witness 256 (s.number - 1) = 1 ∧
    ∀ q ∈ s.factors, q ∈ known ∧ power s.number s.witness 256 ((s.number - 1) / q) ≠ 1

/-- The steps, in their order. -/
def Certified : List Nat → List Step → Prop
  | _,[] => True
  | known,s :: rest => s.Shows known ∧ Certified (s.number :: known) rest

instance (known : List Nat) (s : Step) : Decidable (s.Shows known) := inferInstanceAs (Decidable (_ ∧ _))

instance decidableCertified : (known : List Nat) → (steps : List Step) → Decidable (Certified known steps)
  | _,[] => inferInstanceAs (Decidable True)
  | known,s :: rest =>
    have := decidableCertified (s.number :: known) rest
    inferInstanceAs (Decidable (_ ∧ _))

theorem Step.Shows.prime {known : List Nat} {s : Step} (shows' : s.Shows known) (primes : ∀ q ∈ known, q.Prime) :
    s.number.Prime := by
  obtain ⟨large,fits,product,whole,parts⟩ := shows'
  refine lucas_primality s.number (s.witness : ZMod s.number)
    ((power_eq_one large _ (by omega)).mp whole) fun q prime divides => ?_
  rw [← product,Nat.add_sub_cancel] at divides
  obtain ⟨q',member,divides⟩ := (Prime.dvd_prod_iff prime.prime).mp divides
  obtain rfl : q = q' := (Nat.prime_dvd_prime_iff_eq prime (primes q' (parts q' member).1)).mp divides
  have smaller := Nat.div_le_self (s.number - 1) q
  exact mt (power_eq_one large _ (by omega)).mpr (parts q member).2

/-- Every number of a certificate is a prime. -/
theorem Certified.prime {known : List Nat} {steps : List Step} (certified : Certified known steps)
    (primes : ∀ q ∈ known, q.Prime) :
    ∀ s ∈ steps, s.number.Prime := by
  induction steps generalizing known with
  | nil => nofun
  | cons s rest ih =>
    have first := certified.1.prime primes
    exact List.forall_mem_cons.mpr ⟨first,ih certified.2 (List.forall_mem_cons.mpr ⟨first,primes⟩)⟩

end Sarm.Certificates
