import Mathlib.FieldTheory.Finite.Basic
import Mathlib.FieldTheory.IsAlgClosed.AlgebraicClosure
import Mathlib.Tactic.NormNum.Prime
import Sarm.Certificates
import Sarm.Montgomery
import Sarm.X25519

/-!
What X25519 computes: the first coordinate of a multiple, in the group of the curve. A coordinate of the field belongs to a
point over some extension, on the curve or on its twist, and the ladder is one for both.
-/
namespace Sarm.X25519
open Sarm.Memory Sarm.Limbs Sarm.Certificates Sarm.Montgomery WeierstrassCurve

/-! ### The field -/

/-- The prime factors that are small. -/
def factors : List Nat :=
  [2,3,5,7,13,19,31,43,47,103,107,127,223,353,991,2437,3727,4153,57467,65147,75707,132049,430751,569003]

theorem factors_prime : ∀ q ∈ factors, q.Prime := by
  simp only [factors,List.forall_mem_cons,List.not_mem_nil,false_imp_iff,implies_true,and_true]
  norm_num

def primeSteps : List Step :=
  [⟨1923133,2,[2,2,3,43,3727]⟩,
   ⟨31757755568855353,10,[2,2,2,3,31,107,223,4153,430751]⟩,
   ⟨2773320623,5,[2,2437,569003]⟩,
   ⟨72106336199,7,[2,13,2773320623]⟩,
   ⟨8574133,2,[2,2,3,7,103,991]⟩,
   ⟨1919519569386763,2,[2,3,7,19,47,47,127,8574133]⟩,
   ⟨75445702479781427272750846543864801,7,[2,2,2,2,2,3,3,5,5,75707,72106336199,1919519569386763]⟩,
   ⟨74058212732561358302231226437062788676166966415465897661863160754340907,2,
     [2,3,353,57467,132049,1923133,31757755568855353,75445702479781427272750846543864801]⟩,
   ⟨prime,2,[2,2,3,65147,74058212732561358302231226437062788676166966415465897661863160754340907]⟩]

theorem prime_certified : prime.Prime := by
  have certified : Certified factors primeSteps := by decide +kernel
  exact certified.prime factors_prime _ (List.getLast_mem (List.cons_ne_nil _ _))

local instance : Fact prime.Prime := ⟨prime_certified⟩

/-- The power that the code takes is the inverse. -/
theorem pow_inverse (z : ZMod prime) : z^(prime - 2) = z⁻¹ := by
  by_cases zero : z = 0
  · rw [zero,inv_zero,zero_pow (by decide)]
  · refine eq_inv_of_mul_eq_one_left ?_
    rw [← pow_succ]
    exact ZMod.pow_card_sub_one_eq_one zero

/-! ### The ladder -/

section
variable {K : Type} [Field K] [Algebra (ZMod prime) K]

/-- The points over an extension. -/
abbrev Point (K : Type) [Field K] : Type := (curve (486662 : K)).toAffine.Point

theorem regular : Regular (486662 : K) := by
  have apart {m n : Nat} (different : (m : ZMod prime) ≠ n) : (m : K) ≠ n := by
    intro same
    refine different ((algebraMap (ZMod prime) K).injective ?_)
    rw [map_natCast,map_natCast,same]
  constructor
  · exact_mod_cast apart (m := 2) (n := 0) (by decide)
  · exact_mod_cast apart (m := 486662^2) (n := 4) (by decide)

/-- A quotient of the field, as one of the extension. -/
def Quotient (x z : ZMod prime) (P : Point K) : Prop := Represents (algebraMap _ K x) (algebraMap _ K z) P

variable [DecidableEq K]

/-- Two multiples that are next to each other. -/
structure Climbs (P : Point K) (m : Nat) (p : Points) : Prop where
  low : Quotient p.x_2 p.z_2 (m • P)
  high : Quotient p.x_3 p.z_3 ((m + 1) • P)

variable {x_1 : ZMod prime} {y : K} {on : (curve (486662 : K)).toAffine.Nonsingular (algebraMap _ K x_1) y} {k m : Nat}

theorem Quotient.doubled {p : Points} {P : Point K} (low : Quotient p.x_2 p.z_2 P) :
    Quotient (formulas x_1 p).x_2 (formulas x_1 p).z_2 (P + P) := by
  have quarter : 4 * (121665 : K) = 486662 - 2 := by norm_num
  have twice := low.double regular quarter
  have same : algebraMap (ZMod prime) K a24 = 121665 := map_ofNat _ _
  simp only [Quotient,formulas,map_mul,map_add,map_sub,map_pow,same]
  exact twice

theorem Quotient.added {p : Points} {P Q : Point K} {y : K}
    {on : (curve (486662 : K)).toAffine.Nonsingular (algebraMap _ K x_1) y} (nonzero : x_1 ≠ 0)
    (difference : Q - P = .some _ y on) (low : Quotient p.x_2 p.z_2 P) (high : Quotient p.x_3 p.z_3 Q) :
    Quotient (formulas x_1 p).x_3 (formulas x_1 p).z_3 (P + Q) := by
  have apart : algebraMap (ZMod prime) K x_1 ≠ 0 := (map_ne_zero _).mpr nonzero
  have sum := low.add regular on apart difference high
  simp only [Quotient,formulas,map_mul,map_add,map_sub,map_pow]
  exact sum

/-- A step takes `m` to `2m` or `2m + 1`. -/
theorem Climbs.step {s : Points × Bool} (nonzero : x_1 ≠ 0)
    (climbs : Climbs (.some _ y on : Point K) m (cswap s.2 s.1)) (t : Nat) :
    let s' := ladderStep x_1 k s t
    Climbs (.some _ y on : Point K) (2 * m + (k.testBit t).toNat) (cswap s'.2 s'.1) := by
  intro s'
  obtain ⟨low,high⟩ := climbs
  have swapped (b : Bool) : cswap (s.2 ^^ b) s.1 = cswap b (cswap s.2 s.1) := by
    cases s.2 <;> cases b <;> rfl
  have stepped : s' = (formulas x_1 (cswap (k.testBit t) (cswap s.2 s.1)),k.testBit t) := by
    rw [← swapped]
    rfl
  rw [stepped]
  generalize cswap s.2 s.1 = p at low high
  generalize hP : (Affine.Point.some _ y on : Point K) = P at low high ⊢
  cases k.testBit t with
  | false =>
    refine ⟨?_,?_⟩
    · have twice : Quotient (formulas x_1 p).x_2 (formulas x_1 p).z_2 (m • P + m • P) := low.doubled
      rw [← two_nsmul,← mul_nsmul'] at twice
      exact twice
    · have more : (m + 1) • P - m • P = .some _ y on := by rw [succ_nsmul,add_sub_cancel_left,hP]
      have sum := low.added nonzero more high
      rw [← add_nsmul,← add_assoc,← two_mul] at sum
      exact sum
  | true =>
    have less : m • P - (m + 1) • P = -P := by
      rw [succ_nsmul]
      abel
    rw [← hP,Affine.Point.neg_some,hP] at less
    refine ⟨?_,?_⟩
    · have sum : Quotient (formulas x_1 (cswap true p)).x_3 (formulas x_1 (cswap true p)).z_3 ((m + 1) • P + m • P) :=
        Quotient.added nonzero less high low
      rw [← add_nsmul,Nat.add_right_comm,← two_mul] at sum
      exact sum
    · have twice : Quotient (formulas x_1 (cswap true p)).x_2 (formulas x_1 (cswap true p)).z_2
          ((m + 1) • P + (m + 1) • P) := Quotient.doubled high
      rw [← two_nsmul,← mul_nsmul',Nat.mul_add] at twice
      exact twice

/-- The steps from bit `n` on. -/
theorem Climbs.run (nonzero : x_1 ≠ 0) : ∀ (n : Nat) {m : Nat} {s : Points × Bool},
    Climbs (.some _ y on : Point K) m (cswap s.2 s.1) →
      let s' := (List.range n).reverse.foldl (ladderStep x_1 k) s
      Climbs (.some _ y on : Point K) (m * 2^n + k % 2^n) (cswap s'.2 s'.1) := by
  intro n
  induction n with
  | zero =>
    intro m s climbs
    rw [pow_zero,mul_one,Nat.mod_one]
    exact climbs
  | succ n ih =>
    intro m s climbs s'
    have rest := ih (climbs.step (k := k) nonzero n)
    have total : (2 * m + (k.testBit n).toNat) * 2^n + k % 2^n = m * 2^(n+1) + k % 2^(n+1) := by
      rw [Nat.mod_pow_succ,Nat.toNat_testBit]
      ring
    rw [total] at rest
    have same : s' = (List.range n).reverse.foldl (ladderStep x_1 k) (ladderStep x_1 k s n) := foldl_descending _ _ _
    rw [same]
    exact rest

/-- For the coordinate zero the quotients are zero. -/
theorem ladder_zero (n : Nat) {s : Points × Bool} (flat : s.1.x_2 * s.1.z_2 = 0 ∧ s.1.x_3 * s.1.z_3 = 0) :
    let s' := (List.range n).reverse.foldl (ladderStep 0 k) s
    s'.1.x_2 * s'.1.z_2 = 0 ∧ s'.1.x_3 * s'.1.z_3 = 0 := by
  induction n generalizing s with
  | zero => exact flat
  | succ n ih =>
    rw [foldl_descending]
    refine ih ?_
    have swapped (b : Bool) : (cswap b s.1).x_2 * (cswap b s.1).z_2 = 0 := by
      cases b with
      | false => exact flat.1
      | true => exact flat.2
    have first := swapped (s.2 ^^ k.testBit n)
    rw [ladderStep]
    generalize cswap (s.2 ^^ k.testBit n) s.1 = p at first
    simp only [formulas]
    refine ⟨?_,by rw [zero_mul,mul_zero]⟩
    linear_combination (4 * (p.x_2^2 - p.z_2^2)^2 * ((p.x_2 + p.z_2)^2 + 4 * a24 * p.x_2 * p.z_2)) * first

/-- The result of the ladder. -/
theorem ladder_multiple (y : K) (on : (curve (486662 : K)).toAffine.Nonsingular (algebraMap _ K x_1) y) (n k : Nat) :
    let s := (List.range n).reverse.foldl (ladderStep x_1 k) (⟨1,0,x_1,1⟩,false)
    let p := cswap s.2 s.1
    algebraMap _ K (p.x_2 * p.z_2^(prime - 2)) = coordinate ((k % 2^n) • (.some _ y on : Point K)) := by
  intro s p
  rw [pow_inverse,← div_eq_mul_inv,map_div₀]
  by_cases nonzero : x_1 = 0
  · subst nonzero
    have flat := @ladder_zero k n (⟨1,0,0,1⟩,false) ⟨mul_zero _,zero_mul _⟩
    have none : p.x_2 * p.z_2 = 0 := by
      rcases flat with ⟨low,high⟩
      simp only [p]
      cases s.2 with
      | false => exact low
      | true => exact high
    rw [coordinate_origin on (map_zero _),div_eq_zero_iff,map_eq_zero,map_eq_zero]
    exact mul_eq_zero.mp none
  · have start : Climbs (.some _ y on : Point K) 0 ⟨1,0,x_1,1⟩ := by
      refine ⟨?_,?_⟩
      · rw [zero_nsmul]
        exact ⟨(map_ne_zero _).mpr one_ne_zero,map_zero _⟩
      · rw [zero_add,one_nsmul]
        exact ⟨(map_ne_zero _).mpr one_ne_zero,by rw [map_one,mul_one]⟩
    have climbs := Climbs.run (k := k) nonzero n (s := (⟨1,0,x_1,1⟩,false)) start
    rw [zero_mul,zero_add] at climbs
    exact climbs.low.quotient

end

/-! ### The octets -/

theorem x25519_changes (m : Mem) (x0 x1 x2 : Nat) : ChangesOnly [(x0,32)] m (x25519 m x0 x1 x2) := tobytes_changes m x0 _

/-- What the code leaves at `x0`. -/
theorem x25519_octets (m : Mem) (x0 x1 x2 : Nat) :
    slice (x25519 m x0 x1 x2) x0 32 = rfcX25519 (slice m x1 32) (slice m x2 32) := by
  have point := frombytes_holds m x2
  rw [← decodeUCoordinate_mod] at point
  obtain ⟨top,clear⟩ := clamped_bits m x1
  have read : ∀ i, 2 ≤ i → i < 254 →
      bitOf (clamped m x1) i = ((decodeScalar25519 (slice m x1 32)).testBit i).toNat := by
    intro i _ inside
    rw [bitOf_eq,decodeScalar25519_testBit m x1 (by omega)]
  have first := initial_stands point
  rw [← top] at first
  obtain ⟨s,same,stands⟩ :=
    mainLoop_stands point read 252 _ (⟨1,0,decodeUCoordinate (slice m x2 32),1⟩,false) (Nat.le_refl _)
    (by rwa [Bool.false_xor])
  obtain ⟨x,z⟩ := @doubleLoop_holds (decodeUCoordinate (slice m x2 32)) 3 _ _ _ stands.nqx stands.nqz
  have quotient := x.loosen.mul (recip_holds z).loosen
  rw [rfcX25519,same,foldl_clear clear]
  exact encoded (tobytes_value m x0 quotient)

theorem decodeScalar25519_lt (m : Mem) (x1 : Nat) : decodeScalar25519 (slice m x1 32) < 2^255 := by
  have seven : ∀ octet : UInt8, (octet &&& 0x7f ||| 0x40).toNat.testBit 7 = false := by
    intro octet
    rw [UInt8.toNat_or,UInt8.toNat_and,Nat.testBit_or,Nat.testBit_and]
    have masked : (0x7f : UInt8).toNat.testBit 7 = false := by decide
    have raised : (0x40 : UInt8).toNat.testBit 7 = false := by decide
    rw [masked,raised,Bool.and_false,Bool.or_false]
  refine Nat.lt_pow_two_of_testBit _ fun i high => ?_
  by_cases last : i = 255
  · subst last
    rw [decodeScalar25519_testBit m x1 (by decide)]
    exact seven _
  · have outside : 32 ≤ i / 8 := by omega
    rw [decodeScalar25519,leValue_testBit,List.getD_eq_getElem?_getD,List.getElem?_eq_none (by simpa using outside)]
    exact Nat.zero_testBit _

theorem leValue_encode (c : ZMod prime) : leValue (encodeUCoordinate c.val) = c.val := by
  have small : c.val < 256^32 := (ZMod.val_lt c).trans (by decide)
  rw [encodeUCoordinate,leValue_digits,Nat.mod_eq_of_lt small]

/-- A coordinate that has been written is read back. -/
theorem decode_encode (c : ZMod prime) : decodeUCoordinate (encodeUCoordinate c.val) = c.val := by
  have width : (encodeUCoordinate c.val).length = 32 := by simp [encodeUCoordinate]
  have held : slice (ofBytes (encodeUCoordinate c.val)) 0 32 = encodeUCoordinate c.val := by
    rw [← width]
    exact slice_ofBytes _
  have small : c.val < 2^255 := (ZMod.val_lt c).trans (by decide)
  rw [← held,decodeUCoordinate_mod,held,leValue_encode,Nat.mod_eq_of_lt small]

/-- Scalars are multiples of eight. -/
theorem decodeScalar25519_eight (m : Mem) (x1 : Nat) : ∃ h, decodeScalar25519 (slice m x1 32) = 8 * h := by
  obtain ⟨_,⟨zero,one⟩,two⟩ := clamped_bits m x1
  refine exists_eq_mul_right_of_dvd (Nat.dvd_of_mod_eq_zero ?_)
  refine Nat.eq_of_testBit_eq fun i => ?_
  rw [show 8 = 2^3 from rfl,Nat.testBit_mod_two_pow,Nat.zero_testBit]
  by_cases low : i < 3
  · interval_cases i
    · rw [zero,Bool.and_false]
    · rw [one,Bool.and_false]
    · rw [two,Bool.and_false]
  · rw [decide_eq_false low,Bool.false_and]

/-! ### What it computes -/

section
variable {K : Type} [Field K] [DecidableEq K] [Algebra (ZMod prime) K] (m : Mem) (x0 x1 x2 : Nat)

theorem multiple_octets {P : Point K} (read : (decodeUCoordinate (slice m x2 32) : Nat) = coordinate P) :
    ∃ c : ZMod prime, slice (x25519 m x0 x1 x2) x0 32 = encodeUCoordinate c.val ∧
      algebraMap _ K c = coordinate (decodeScalar25519 (slice m x1 32) • P) := by
  -- Over the coordinate zero there is a point as well.
  obtain ⟨y,on⟩ : ∃ y, (curve (486662 : K)).toAffine.Nonsingular
      (algebraMap _ K (decodeUCoordinate (slice m x2 32) : ZMod prime)) y := by
    rw [map_natCast,read]
    cases P with
    | zero => exact ⟨0,nonsingular regular (by simp [coordinate])⟩
    | some x y on => exact ⟨y,on⟩
  have multiple := ladder_multiple y on 255 (decodeScalar25519 (slice m x1 32))
  obtain ⟨h,eight⟩ := decodeScalar25519_eight m x1
  have even : Even (decodeScalar25519 (slice m x1 32)) := ⟨4 * h,by omega⟩
  rw [Nat.mod_eq_of_lt (decodeScalar25519_lt m x1),coordinate_again on (by rw [map_natCast,read]) even] at multiple
  exact ⟨_,x25519_octets m x0 x1 x2,multiple⟩

/-- The code multiplies: whatever point over whatever extension has the coordinate that is read, what is written, and nothing
    else is, is the coordinate of its multiple by the scalar; for a point of small order it is zero whatever the scalar is. -/
theorem x25519_multiplies (P : Point K) (read : (decodeUCoordinate (slice m x2 32) : Nat) = coordinate P) :
    (∃ c : ZMod prime, slice (x25519 m x0 x1 x2) x0 32 = encodeUCoordinate c.val ∧
      algebraMap _ K c = coordinate (decodeScalar25519 (slice m x1 32) • P)) ∧
    ChangesOnly [(x0,32)] m (x25519 m x0 x1 x2) ∧
    (8 • P = 0 → slice (x25519 m x0 x1 x2) x0 32 = List.replicate 32 0) := by
  obtain ⟨c,written,multiple⟩ := multiple_octets m x0 x1 x2 read
  refine ⟨⟨c,written,multiple⟩,x25519_changes m x0 x1 x2,fun small => ?_⟩
  obtain ⟨h,eight⟩ := decodeScalar25519_eight m x1
  rw [eight,mul_nsmul,small,smul_zero] at multiple
  have zero : c = 0 := (map_eq_zero _).mp multiple
  rw [written,zero]
  decide

/-- The base point. -/
theorem nine_nonsingular : (curve (486662 : ZMod prime)).toAffine.Nonsingular 9
    14781619447589544791020593568409986887264606134616475288964881837755586237401 := by
  refine nonsingular regular ?_
  decide +kernel

theorem x25519_multiplies_nine :
    let m := ofBytes (9 :: List.replicate 31 0)
    (∃ c : ZMod prime, slice (x25519 m 64 32 0) 64 32 = encodeUCoordinate c.val ∧
      algebraMap (ZMod prime) (ZMod prime) c =
        coordinate (decodeScalar25519 (slice m 32 32) • (.some _ _ nine_nonsingular : Point (ZMod prime)))) ∧
    ChangesOnly [(64,32)] m (x25519 m 64 32 0) ∧
    (8 • (.some _ _ nine_nonsingular : Point (ZMod prime)) = 0 → slice (x25519 m 64 32 0) 64 32 = List.replicate 32 0) :=
  x25519_multiplies (ofBytes (9 :: List.replicate 31 0)) 64 32 0 (.some _ _ nine_nonsingular : Point (ZMod prime))
    (by decide +kernel)

end

/-! ### Two parties -/

theorem rfcX25519_written (k u : List UInt8) : ∃ c : ZMod prime, rfcX25519 k u = encodeUCoordinate c.val := ⟨_,rfl⟩

theorem rfcX25519_length (k u : List UInt8) : (rfcX25519 k u).length = 32 := by
  obtain ⟨c,written⟩ := rfcX25519_written k u
  rw [written]
  simp [encodeUCoordinate]

theorem slices_placed {k u : List UInt8} (scalar : k.length = 32) (point : u.length = 32) :
    slice (ofBytes (k ++ u)) 0 32 = k ∧ slice (ofBytes (k ++ u)) 32 32 = u := by
  have whole := slice_ofBytes (k ++ u)
  rw [List.length_append,slice_add,scalar,point,Nat.zero_add] at whole
  exact List.append_inj whole (by rw [slice_length,scalar])

section
open Classical

/-- Each coordinate is that of a point over the closure of the field. -/
theorem closure_point (c : Nat) :
    ∃ P : Point (AlgebraicClosure (ZMod prime)), (c : AlgebraicClosure (ZMod prime)) = coordinate P := by
  obtain ⟨y,square⟩ := IsAlgClosed.exists_pow_nat_eq
    ((c : AlgebraicClosure (ZMod prime))^3 + 486662 * (c : AlgebraicClosure (ZMod prime))^2 + c) two_pos
  exact ⟨.some _ y (nonsingular regular square),rfl⟩

theorem rfcX25519_multiple {k u : List UInt8} (scalar : k.length = 32) (point : u.length = 32)
    {P : Point (AlgebraicClosure (ZMod prime))} (read : (decodeUCoordinate u : Nat) = coordinate P) :
    (decodeUCoordinate (rfcX25519 k u) : Nat) = coordinate (decodeScalar25519 k • P) := by
  obtain ⟨placed,placed'⟩ := slices_placed scalar point
  have octets := x25519_octets (ofBytes (k ++ u)) 64 0 32
  rw [placed,placed'] at octets
  obtain ⟨c,written,multiple⟩ := multiple_octets (ofBytes (k ++ u)) 64 0 32 (by rwa [placed'])
  rw [← octets,written,decode_encode]
  rw [placed] at multiple
  rw [← multiple,← map_natCast (algebraMap (ZMod prime) _),ZMod.natCast_zmod_val]

theorem rfcX25519_comm {a b u : List UInt8} (scalar : a.length = 32) (scalar' : b.length = 32) (point : u.length = 32) :
    rfcX25519 a (rfcX25519 b u) = rfcX25519 b (rfcX25519 a u) := by
  obtain ⟨P,read⟩ := closure_point (decodeUCoordinate u)
  have left := rfcX25519_multiple scalar (rfcX25519_length b u) (rfcX25519_multiple scalar' point read)
  have right := rfcX25519_multiple scalar' (rfcX25519_length a u) (rfcX25519_multiple scalar point read)
  obtain ⟨c,written⟩ := rfcX25519_written a (rfcX25519 b u)
  obtain ⟨c',written'⟩ := rfcX25519_written b (rfcX25519 a u)
  rw [smul_comm,← left,written,written',decode_encode,decode_encode] at right
  have same := CharP.natCast_injOn_Iio (AlgebraicClosure (ZMod prime)) prime (ZMod.val_lt c) (ZMod.val_lt c') right.symm
  rw [written,written',same]

end

/-- Two parties with memories of their own: each takes a multiple of the coordinate that both start from, and from that of
    the other both come to the same octets. -/
theorem x25519_agrees {m m' : Mem} {x0 x1 x2 y0 y1 y2 : Nat} (start : slice m x2 32 = slice m' y2 32) {n n' : Mem}
    {z0 z1 z2 t0 t1 t2 : Nat} (scalar : slice n z1 32 = slice m x1 32) (scalar' : slice n' t1 32 = slice m' y1 32)
    (sent : slice n z2 32 = slice (x25519 m' y0 y1 y2) y0 32) (sent' : slice n' t2 32 = slice (x25519 m x0 x1 x2) x0 32) :
    slice (x25519 n z0 z1 z2) z0 32 = slice (x25519 n' t0 t1 t2) t0 32 := by
  rw [x25519_octets,x25519_octets,scalar,scalar',sent,sent',x25519_octets,x25519_octets,start]
  exact rfcX25519_comm (slice_length ..) (slice_length ..) (slice_length ..)

theorem x25519_agrees_nine :
    let run (m : Mem) := slice (x25519 m 64 0 32) 64 32
    let held (k : UInt8) (u : List UInt8) : Mem := ofBytes (List.replicate 32 k ++ u)
    let nine : List UInt8 := 9 :: List.replicate 31 0
    run (held 1 (run (held 2 nine))) = run (held 2 (run (held 1 nine))) := by
  intro run held nine
  have first (k : UInt8) {u : List UInt8} (point : u.length = 32) :=
    slices_placed (List.length_replicate (n := 32) (a := k)) point
  have width (m : Mem) : (run m).length = 32 := slice_length ..
  have start : slice (held 1 nine) 32 32 = slice (held 2 nine) 32 32 := (first 1 rfl).2.trans (first 2 rfl).2.symm
  have scalar : slice (held 1 (run (held 2 nine))) 0 32 = slice (held 1 nine) 0 32 :=
    (first 1 (width _)).1.trans (first 1 rfl).1.symm
  have scalar' : slice (held 2 (run (held 1 nine))) 0 32 = slice (held 2 nine) 0 32 :=
    (first 2 (width _)).1.trans (first 2 rfl).1.symm
  have sent : slice (held 1 (run (held 2 nine))) 32 32 = run (held 2 nine) := (first 1 (width _)).2
  have sent' : slice (held 2 (run (held 1 nine))) 32 32 = run (held 1 nine) := (first 2 (width _)).2
  exact x25519_agrees start scalar scalar' sent sent'

end Sarm.X25519
