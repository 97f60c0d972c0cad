import Mathlib.FieldTheory.Finite.Basic
import Sarm.AdditionChains
import Sarm.P256Primes
import Sarm.Reductions

/-!
The scalars of P-256: products with Barrett's reduction and with Montgomery's, and inversion by a
fixed addition chain.
-/
namespace Sarm.P256
open Sarm.Memory Sarm.Words Sarm.Limbs Sarm.Reductions Sarm.AdditionChains

/-! ### The code -/

def p256_n : List Limb := [0xf3b9cac2fc632551,0xbce6faada7179e84,0xffffffffffffffff,0xffffffff00000000]

/-- The reciprocal of the order, as a multiple of `2^512`. -/
def p256_mu_n : List Limb :=
  [0x012ffd85eedf9bfe,0x43190552df1a6c21,0xfffffffeffffffff,0x00000000ffffffff,0x0000000000000001]

/-- `R^2 mod n`. -/
def p256_scalar_rr_n : List Limb := [0x83244c95be79eea2,0x4699799c49bd6fa6,0x2845b2392b6bec59,0x66e12d94f3d95620]

def p256_scalar_n0inv : Limb := 0xccd1c8aaee00bc4f

/-- The order as long as the limbs with one more on top. -/
def wideN : List Limb := p256_n ++ [0]

def reduceScalar (a : List Limb) : List Limb := reduceOnce p256_n (reduceOnce p256_n a)

def p256_scalar_reduce (m : Mem) (x0 x1 : Nat) : Mem := storeLimbs m x0 (reduceScalar (limbs m x1 4))

/-- The limbs of the product with the estimated quotient taken off, and whether the limb above them
    borrows; it starts a subtraction of its own. -/
def lessQuotient (t : List Limb) : List Limb × Bool :=
  let q2 := mulBuffer (t.drop 3) p256_mu_n
  let q3p := mulBuffer (q2.drop 5) p256_n
  ((subChain t (q3p.take 8) true).1,!(subChain [0] (q3p.drop 8) true).2)

/-- `p256_scalar_reduce_wide`. -/
def reduceWide (t : List Limb) : List Limb :=
  let (difference,borrow) := lessQuotient t
  let r := difference.take 5
  let r := if borrow then (addChain r wideN false).1 else r
  (reduceOnce wideN (reduceOnce wideN r)).take 4

def p256_scalar_mul (m : Mem) (x0 x1 x2 : Nat) : Mem :=
  storeLimbs m x0 (reduceWide (mulBuffer (limbs m x1 4) (limbs m x2 4)))

/-- The product with `ext` on top, four rounds and the subtraction. -/
def montMul (a b : List Limb) : List Limb := montgomery p256_n p256_scalar_n0inv (product a b ++ [0])

def p256_scalar_mont_mul (m : Mem) (x0 x1 x2 : Nat) : Mem := storeLimbs m x0 (montMul (limbs m x1 4) (limbs m x2 4))

/-- Four bytes for each step, and a `dst` of `0xFF` at the end. -/
def p256_scalar_inv_chain : List UInt8 :=
  [1,0,1,0, 2,1,1,0, 3,2,1,0, 4,3,1,0, 5,4,1,0, 6,3,4,3, 7,6,8,6, 8,7,16,7,
   9,8,32,0xFF, 9,9,32,8, 9,9,32,8, 9,9,1,0, 9,9,5,3, 9,9,5,2, 9,9,4,1, 9,9,6,4,
   9,9,2,0, 9,9,2,0, 9,9,2,0, 9,9,3,1, 9,9,3,1, 9,9,2,0, 9,9,5,2, 9,9,4,0,
   9,9,5,3, 9,9,6,3, 9,9,2,0, 9,9,5,0, 9,9,6,3, 9,9,5,2, 9,9,4,2, 9,9,5,2,
   9,9,3,0, 9,9,2,0, 9,9,3,1, 9,9,5,0, 9,9,7,5, 9,9,5,1, 9,9,5,1, 9,9,3,0,
   9,9,3,0, 9,9,2,0, 9,9,2,0, 9,9,6,3, 0xFF,0xFF,0xFF,0xFF]

/-- What `.Lsi_step` does with the bytes. -/
def decodeChain : List UInt8 → List Step
  | dst :: src :: nsq :: mul :: rest =>
    if dst = 0xFF then []
    else ⟨dst.toNat,src.toNat,nsq.toNat,if mul = 0xFF then none else some mul.toNat⟩ :: decodeChain rest
  | _ => []

/-- The answer in Montgomery's form is in slot 9. -/
def invLimbs (slots : Nat → List Limb) (a : List Limb) : List Limb :=
  let slots := Function.update slots 0 (montMul (reduceScalar a) p256_scalar_rr_n)
  montMul (run montMul slots (decodeChain p256_scalar_inv_chain) 9) [1,0,0,0]

/-- The slots are in a frame of the stack, where something is left from earlier calls. -/
def p256_scalar_inv (m stack : Mem) (x0 x1 : Nat) : Mem :=
  storeLimbs m x0 (invLimbs (fun i => limbs stack (96 + 32 * i) 4) (limbs m x1 4))

/-! ### Constants -/

theorem p256_n_value : value p256_n = order := by decide

theorem wideN_value : value wideN = order := by decide

theorem p256_mu_n_value : value p256_mu_n = 2^192 * 2^320 / order := by
  rw [← pow_add,show 192 + 320 = 256 + 256 from rfl,pow_add]
  decide

theorem order_pos : 0 < order := by decide

theorem order_large : 2^255 ≤ order ∧ order < 2^256 := by decide

/-- Four limbs below the order. -/
structure Scalar (a : List Limb) : Prop where
  length : a.length = 4
  small : value a < order

/-! ### Barrett's reduction -/

theorem reduceScalar_spec {a : List Limb} (length : a.length = 4) : Scalar (reduceScalar a) ∧
    value (reduceScalar a) = value a % order := by
  have inside := value_lt a
  rw [length] at inside
  have large := order_large.1
  obtain ⟨width,same⟩ := reduceTwice_mod (m := p256_n) length (by rw [p256_n_value]; omega)
  rw [p256_n_value] at same
  exact ⟨⟨width,same.trans_lt (Nat.mod_lt _ order_pos)⟩,same⟩

theorem wide_lt {t : List Limb} (length : t.length = 8) : value t < 2^192 * 2^320 := by
  have inside := value_lt t
  have parts : 64 * t.length = 192 + 320 := by rw [length]
  rwa [parts,Nat.pow_add] at inside

/-- The quotient is an estimate from below, so that nothing is borrowed. -/
theorem lessQuotient_spec {t : List Limb} (length : t.length = 8) : (lessQuotient t).1.length = 8 ∧
    value (lessQuotient t).1 = value t - estimate (2^192) (2^320) order (value t) * order ∧
        (lessQuotient t).2 = false := by
  have inside := value_lt t
  rw [length] at inside
  have bounds := estimate_bounds (n := order) (Nat.two_pow_pos 192) (Nat.two_pow_pos 320) (by decide) (wide_lt length)
  have upper := @value_drop 64 t 3 (by omega)
  have count : (t.drop 3).length = 5 := by rw [List.length_drop,length]
  obtain ⟨width,number⟩ := mulBuffer_spec (by decide) (t.drop 3) p256_mu_n
  rw [count,show p256_mu_n.length = 5 from rfl] at width
  rw [upper,p256_mu_n_value] at number
  have quotient := @value_drop 64 (mulBuffer (t.drop 3) p256_mu_n) 5 (by omega)
  have count' : ((mulBuffer (t.drop 3) p256_mu_n).drop 5).length = 5 := by rw [List.length_drop,width]
  rw [number] at quotient
  obtain ⟨width',number'⟩ := mulBuffer_spec (by decide) ((mulBuffer (t.drop 3) p256_mu_n).drop 5) p256_n
  rw [count',show p256_n.length = 4 from rfl] at width'
  rw [quotient,p256_n_value,← estimate] at number'
  rw [lessQuotient]
  dsimp only
  generalize mulBuffer ((mulBuffer (t.drop 3) p256_mu_n).drop 5) p256_n = q3p at *
  generalize estimate (2^192) (2^320) order (value t) * order = multiple at *
  have low : value (q3p.take 8) = multiple := by
    rw [value_take (by omega) (by rw [number']; omega),number']
  have high : value (q3p.drop 8) = 0 := by
    rw [value_drop (by omega),number',Nat.div_eq_of_lt (by omega)]
  have same : t.length = (q3p.take 8).length := by rw [List.length_take,length]; omega
  have same' : [(0 : Limb)].length = (q3p.drop 8).length := by rw [List.length_drop]; simp; omega
  refine ⟨(subChain_length same true).trans length,?_,?_⟩
  · rw [subChain_exact same (by omega),low]
  · rw [(subChain_carry same').mpr (by omega)]
    rfl

theorem reduceWide_spec {t : List Limb} (length : t.length = 8) : Scalar (reduceWide t) ∧
    value (reduceWide t) = value t % order := by
  have inside := value_lt t
  rw [length] at inside
  have bounds := estimate_bounds (n := order) (Nat.two_pow_pos 192) (Nat.two_pow_pos 320) (by decide) (wide_lt length)
  obtain ⟨width,difference,borrow⟩ := lessQuotient_spec length
  have below := order_large.2
  generalize estimate (2^192) (2^320) order (value t) = q at *
  rw [Nat.add_mul] at bounds
  have same := @value_take 64 (lessQuotient t).1 5 (by omega) (by omega)
  have count : ((lessQuotient t).1.take 5).length = wideN.length := by rw [List.length_take,width]; rfl
  rw [reduceWide]
  generalize lessQuotient t = pair at *
  obtain ⟨limbs,borrowed⟩ := pair
  dsimp only at *
  rw [borrow,if_neg Bool.false_ne_true]
  obtain ⟨width',reduced⟩ := reduceTwice_mod count (by rw [wideN_value]; omega)
  have residue : value t % order = value limbs % order := by
    rw [difference]
    conv_lhs => rw [← Nat.sub_add_cancel bounds.1,Nat.add_mul_mod_self_right]
  rw [wideN_value,same,← residue] at reduced
  have canonical := reduced.trans_lt (Nat.mod_lt _ order_pos)
  obtain ⟨four,narrow⟩ := value_narrow (n := p256_n) width' (by rw [p256_n_value]; exact canonical)
  rw [show p256_n.length = 4 from rfl] at four narrow
  exact ⟨⟨four,narrow.trans_lt canonical⟩,narrow.trans reduced⟩

/-! ### Montgomery's form -/

theorem chosen : (0xf3b9cac2fc632551 : Limb) * p256_scalar_n0inv = -1 := by decide

theorem montMul_spec {a b : List Limb} (first : Scalar a) (second : Scalar b) :
    Scalar (montMul a b) ∧ (2^256 * value (montMul a b) : ZMod order) = value a * value b := by
  have some : a ≠ [] := List.ne_nil_of_length_pos (by rw [first.length]; decide)
  have some' : b ≠ [] := List.ne_nil_of_length_pos (by rw [second.length]; decide)
  obtain ⟨count,same⟩ := @product_spec 64 (by decide) a b some
  have length : (product a b ++ [0]).length = 2 * p256_n.length + 1 := by
    rw [List.length_append,count some',first.length,second.length]
    rfl
  have below : value (product a b ++ [0]) < value p256_n * 2^(64 * p256_n.length) := by
    rw [value_wide,same,p256_n_value,show 64 * p256_n.length = 256 from rfl]
    exact Nat.mul_lt_mul'' first.small (second.small.trans order_large.2)
  obtain ⟨width,small,divided⟩ := montgomery_spec (by decide) chosen length below
  rw [← p256_n] at width small divided
  rw [← montMul] at width small divided
  rw [p256_n_value] at small divided
  refine ⟨⟨width,small⟩,?_⟩
  rw [value_wide,same,show 64 * p256_n.length = 256 from rfl] at divided
  have cast := (ZMod.natCast_eq_natCast_iff' _ _ _).mpr divided
  rwa [Nat.cast_mul,Nat.cast_mul,Nat.cast_pow,Nat.cast_ofNat] at cast

theorem radix_ne_zero : (2^256 : ZMod order) ≠ 0 := by
  refine pow_ne_zero 256 fun none => ?_
  have divides : order ∣ 2 := (ZMod.natCast_eq_zero_iff 2 order).mp none
  exact absurd (Nat.le_of_dvd (by decide) divides) (by decide)

/-- A residue times `R`. -/
structure InForm (a : List Limb) (x : ZMod order) : Prop where
  scalar : Scalar a
  same : (value a : ZMod order) = x * 2^256

theorem InForm.mul {a b : List Limb} {x y : ZMod order} (first : InForm a x) (second : InForm b y) :
    InForm (montMul a b) (x * y) := by
  obtain ⟨scalar,divided⟩ := montMul_spec first.scalar second.scalar
  refine ⟨scalar,mul_left_cancel₀ radix_ne_zero ?_⟩
  rw [divided,first.same,second.same]
  ring

theorem rr_scalar : Scalar p256_scalar_rr_n := ⟨rfl,by decide⟩

theorem rr_value : (value p256_scalar_rr_n : ZMod order) = 2^256 * 2^256 := by
  have same : value p256_scalar_rr_n % order = 2^256 * 2^256 % order := by decide
  have cast := (ZMod.natCast_eq_natCast_iff' _ _ _).mpr same
  rwa [Nat.cast_mul,Nat.cast_pow,Nat.cast_ofNat] at cast

/-- Every number can be brought into the form. -/
theorem enter {a : List Limb} (length : a.length = 4) : InForm (montMul (reduceScalar a) p256_scalar_rr_n) (value a) := by
  obtain ⟨reduced,same⟩ := reduceScalar_spec length
  obtain ⟨scalar,divided⟩ := montMul_spec reduced rr_scalar
  refine ⟨scalar,mul_left_cancel₀ radix_ne_zero ?_⟩
  rw [divided,same,rr_value,ZMod.natCast_mod]
  ring

theorem leave {a : List Limb} {x : ZMod order} (form : InForm a x) :
    Scalar (montMul a [1,0,0,0]) ∧ (value (montMul a [1,0,0,0]) : ZMod order) = x := by
  obtain ⟨scalar,divided⟩ := montMul_spec form.scalar (b := [1,0,0,0]) ⟨rfl,by decide⟩
  refine ⟨scalar,mul_left_cancel₀ radix_ne_zero ?_⟩
  rw [divided,form.same,show value ([1,0,0,0] : List Limb) = 1 from rfl,Nat.cast_one,mul_one,mul_comm]

/-! ### Inversion -/

/-- The exponent of the last slot. -/
theorem chain_exponent :
    exponents (Function.update (fun _ => none) 0 (some 1)) (decodeChain p256_scalar_inv_chain) 9 =
    some (order - 2) := by
  decide +kernel

theorem invLimbs_spec (slots : Nat → List Limb) {a : List Limb} (length : a.length = 4) :
    Scalar (invLimbs slots a) ∧ (value (invLimbs slots a) : ZMod order) = (value a : ZMod order)^(order - 2) := by
  have start : Tracks InForm (value a : ZMod order) (Function.update slots 0 (montMul (reduceScalar a) p256_scalar_rr_n))
      (Function.update (fun _ => none) 0 (some 1)) := by
    intro i n known
    by_cases same : i = 0
    · subst same
      obtain rfl : 1 = n := Option.some.inj known
      rw [Function.update_self,pow_one]
      exact enter length
    · rw [Function.update_of_ne same] at known
      cases known
  have last := start.run (fun _ _ _ _ first second => first.mul second)
    (decodeChain p256_scalar_inv_chain) 9 _ chain_exponent
  exact leave last

/-- Fermat's theorem. -/
theorem power_inverse {a : Nat} (some : ¬order ∣ a) : (a : ZMod order) * (a : ZMod order)^(order - 2) = 1 := by
  have nonzero : (a : ZMod order) ≠ 0 := mt (ZMod.natCast_eq_zero_iff a order).mp some
  have two : order - 2 + 1 = order - 1 := by decide
  rw [← pow_succ',two]
  exact ZMod.pow_card_sub_one_eq_one nonzero

/-- Products and inverses of scalars, wherever the output lies and whatever the stack held. -/
theorem p256_scalar_arithmetic (m stack : Mem) (x0 x1 x2 : Nat) :
    let a := limbs m x1 4
    let b := limbs m x2 4
    value (limbs (p256_scalar_mul m x0 x1 x2) x0 4) = value a * value b % order ∧
    (value a < order → value b < order → value (limbs (p256_scalar_mont_mul m x0 x1 x2) x0 4) < order ∧
      (value (limbs (p256_scalar_mont_mul m x0 x1 x2) x0 4) : ZMod order) = value a * value b * (2^256)⁻¹ ∧
      ChangesOnly [(x0,32)] m (p256_scalar_mont_mul m x0 x1 x2)) ∧
    value (limbs (p256_scalar_inv m stack x0 x1) x0 4) = (value a % order)^(order - 2) % order ∧
    (¬order ∣ value a → value a * value (limbs (p256_scalar_inv m stack x0 x1) x0 4) % order = 1) ∧
    ∀ m' ∈ [p256_scalar_mul m x0 x1 x2,p256_scalar_inv m stack x0 x1],ChangesOnly [(x0,32)] m m' := by
  intro a b
  have first : a.length = 4 := limbs_length ..
  have second : b.length = 4 := limbs_length ..
  obtain ⟨width,multiplied⟩ := mulBuffer_spec (by decide) a b
  obtain ⟨scalar,product⟩ := reduceWide_spec (width.trans (by rw [first,second]))
  obtain ⟨scalar',power⟩ := invLimbs_spec (fun i => limbs stack (96 + 32 * i) 4) first
  have stored : limbs (p256_scalar_inv m stack x0 x1) x0 4 = invLimbs (fun i => limbs stack (96 + 32 * i) 4) a :=
    limbs_stored scalar'.length
  refine ⟨?_,fun below below' => ?_,?_,fun some => ?_,?_⟩
  · rw [p256_scalar_mul,limbs_stored scalar.length,product,multiplied]
  · obtain ⟨canonical,divided⟩ := montMul_spec ⟨first,below⟩ ⟨second,below'⟩
    rw [p256_scalar_mont_mul,limbs_stored canonical.length]
    refine ⟨canonical.small,?_,storeLimbs_changes canonical.length m x0⟩
    rw [← divided,mul_comm,inv_mul_cancel_left₀ radix_ne_zero]
  · rw [stored,← Nat.mod_eq_of_lt scalar'.small]
    refine (ZMod.natCast_eq_natCast_iff' _ _ _).mp ?_
    rw [Nat.cast_pow,ZMod.natCast_mod]
    exact power
  · have one : value a * value (invLimbs (fun i => limbs stack (96 + 32 * i) 4) a) % order = 1 % order := by
      refine (ZMod.natCast_eq_natCast_iff' _ _ _).mp ?_
      rw [Nat.cast_mul,power,Nat.cast_one]
      exact power_inverse some
    rw [stored,one]
    rfl
  · simp only [List.forall_mem_cons,List.not_mem_nil,false_imp_iff,implies_true,and_true]
    exact ⟨storeLimbs_changes scalar.length m x0,storeLimbs_changes scalar'.length m x0⟩

/-- On a memory of ones, whose scalars are all below the order. -/
theorem p256_scalar_arithmetic_ones :
    value (limbs (p256_scalar_mont_mul (fun _ => 1) 0 0 0) 0 4) < order := by
  have small : value (limbs (fun _ => 1) 0 4) < order := by decide +kernel
  generalize (fun _ => 1 : Mem) = m at small ⊢
  exact ((p256_scalar_arithmetic m m 0 0 0).2.1 small small).1

end Sarm.P256
