import Sarm.Octets
import Sarm.P256Multiples
import Sarm.P256Scalar

/-!
Signatures of ECDSA over P-256 with a nonce of the caller's, from octets to octets.
-/
namespace Sarm.P256
open Sarm.Memory Sarm.Words Sarm.Limbs Sarm.Reductions
open Sarm.Neon (ldr rev64 octet octet_rev64 octet_ldr word_ext)

/-! ### The code -/

def p256_fe_frombytes (m : Mem) (x1 : Nat) : List Limb := ((limbs m x1 4).map rev64).reverse

def p256_fe_tobytes (m : Mem) (x0 : Nat) (a : List Limb) : Mem := storeLimbs m x0 (a.reverse.map rev64)

/-- A product of scalars between slots. -/
def scalarMul (a b : List Limb) : List Limb := reduceWide (mulBuffer a b)

/-- `p256_scalar_add`. -/
def scalarAdd (a b : List Limb) : List Limb := addMod p256_n a b

/-- `r` and `s`, unless one of them is zero. -/
def signLimbs (comb : Nat → Nat → AffinePoint) (slots : Nat → List Limb) (hash d k : List Limb) :
    Option (List Limb × List Limb) :=
  let z := reduceScalar hash
  let R := p256_point_mul_base comb k
  let r := reduceScalar R.x
  if isZero r then none
  else
    let kinv := invLimbs slots k
    let rd := scalarMul r d
    let t := scalarAdd z rd
    let s := scalarMul kinv t
    if isZero s then none else some (r,s)

/-- The octets of both numbers, or the code 1 and nothing. -/
def p256_ecdsa_sign_with_k (comb : Nat → Nat → AffinePoint) (m stack : Mem) (x0 x1 x2 x3 x4 : Nat) : Mem × Nat :=
  match signLimbs comb (fun i => limbs stack (96 + 32 * i) 4) (p256_fe_frombytes m x2) (p256_fe_frombytes m x3)
    (p256_fe_frombytes m x4) with
  | none => (m,1)
  | some (r,s) => (p256_fe_tobytes (p256_fe_tobytes m x0 r) x1 s,0)

/-! ### Octets -/

theorem toNat_octet (v : Limb) (k : Nat) : (octet v k).toNat = v.toNat / 2^(8 * k) % 256 := by
  show (v.extractLsb' (8 * k) 8).toNat = _
  rw [BitVec.extractLsb'_toNat,Nat.shiftRight_eq_div_pow]

theorem rev64_value (m : Mem) (a : Nat) : (rev64 (ldr 64 m a)).toNat = Octets.value (slice m a 8) := by
  have octets (k : Nat) (inside : k < 8) : (m (a + (7 - k))).toNat = (rev64 (ldr 64 m a)).toNat / 2^(8 * k) % 256 := by
    rw [← toNat_octet,octet_rev64 _ inside,octet_ldr _ _ (by omega) (by omega)]
  have small := (rev64 (ldr 64 m a)).isLt
  generalize (rev64 (ldr 64 m a)).toNat = n at octets small
  have digits := And.intro (octets 0 (by decide)) (And.intro (octets 1 (by decide)) (And.intro (octets 2 (by decide))
    (And.intro (octets 3 (by decide)) (And.intro (octets 4 (by decide)) (And.intro (octets 5 (by decide))
    (And.intro (octets 6 (by decide)) (octets 7 (by decide))))))))
  simp only [Nat.sub_zero,Nat.reduceSub,Nat.add_zero] at digits
  simp only [slice_succ,slice_zero,Octets.value,List.foldl_cons,List.foldl_nil,Nat.add_assoc,Nat.reduceAdd]
  omega

theorem rev64_rev64 (v : Limb) : rev64 (rev64 v) = v := by
  refine word_ext 8 (by decide) fun k inside => ?_
  rw [octet_rev64 _ inside,octet_rev64 _ (by omega)]
  congr 1
  omega

theorem frombytes_length (m : Mem) (a : Nat) : (p256_fe_frombytes m a).length = 4 := by
  rw [p256_fe_frombytes,List.length_reverse,List.length_map,limbs_length]

theorem frombytes_value (m : Mem) (a : Nat) : value (p256_fe_frombytes m a) = Octets.value (slice m a 32) := by
  simp only [p256_fe_frombytes,limbs,List.map_cons,List.map_nil,List.reverse_cons,List.reverse_nil,List.nil_append,
    List.cons_append,
    value_cons,value_nil,rev64_value]
  rw [show 32 = 8 + (8 + (8 + 8)) from rfl,slice_add,slice_add,slice_add,Octets.value_append,Octets.value_append,
    Octets.value_append]
  simp only [List.length_append,slice_length]
  omega

theorem tobytes_value (m : Mem) (x0 : Nat) {a : List Limb} (length : a.length = 4) :
    Octets.value (slice (p256_fe_tobytes m x0 a) x0 32) = value a := by
  have stored : limbs (p256_fe_tobytes m x0 a) x0 4 = a.reverse.map rev64 :=
    limbs_stored (by rw [List.length_map,List.length_reverse,length])
  have twice : (rev64 ∘ rev64 : Limb → Limb) = id := funext rev64_rev64
  rw [← frombytes_value,p256_fe_frombytes,stored,List.map_map,twice,List.map_id,List.reverse_reverse]

theorem tobytes_changes (m : Mem) (x0 : Nat) {a : List Limb} (length : a.length = 4) :
    ChangesOnly [(x0,32)] m (p256_fe_tobytes m x0 a) := by
  have width : (a.reverse.map rev64).length = 4 := by rw [List.length_map,List.length_reverse,length]
  exact storeLimbs_changes width m x0

/-! ### Residues -/

theorem scalarMul_spec {a b : List Limb} (first : a.length = 4) (second : b.length = 4) :
    Scalar (scalarMul a b) ∧ (value (scalarMul a b) : ZMod order) = value a * value b := by
  obtain ⟨width,product⟩ := mulBuffer_spec (by decide) a b
  obtain ⟨scalar,same⟩ := reduceWide_spec (width.trans (by rw [first,second]))
  refine ⟨scalar,?_⟩
  rw [scalarMul,same,ZMod.natCast_mod,product,Nat.cast_mul]

theorem scalarAdd_spec {a b : List Limb} (first : Scalar a) (second : Scalar b) :
    Scalar (scalarAdd a b) ∧ (value (scalarAdd a b) : ZMod order) = value a + value b := by
  have below : value a < value p256_n := by rw [p256_n_value]; exact first.small
  have below' : value b < value p256_n := by rw [p256_n_value]; exact second.small
  have sum := addMod_spec (m := p256_n) first.length second.length below below'
  rw [p256_n_value] at sum
  refine ⟨⟨addMod_length (m := p256_n) first.length second.length,sum.trans_lt (Nat.mod_lt _ order_pos)⟩,?_⟩
  rw [scalarAdd,sum,ZMod.natCast_mod,Nat.cast_add]

theorem reduceScalar_cast {a : List Limb} (length : a.length = 4) :
    Scalar (reduceScalar a) ∧ (value (reduceScalar a) : ZMod order) = value a := by
  obtain ⟨scalar,same⟩ := reduceScalar_spec length
  exact ⟨scalar,by rw [same,ZMod.natCast_mod]⟩

/-- The power is the inverse, zero for zero. -/
theorem invLimbs_inverse (slots : Nat → List Limb) {a : List Limb} (length : a.length = 4) :
    Scalar (invLimbs slots a) ∧ (value (invLimbs slots a) : ZMod order) = (value a : ZMod order)⁻¹ := by
  obtain ⟨scalar,power⟩ := invLimbs_spec slots length
  refine ⟨scalar,power.trans ?_⟩
  by_cases zero : (value a : ZMod order) = 0
  · rw [zero,inv_zero,zero_pow (by decide)]
  · refine eq_inv_of_mul_eq_one_right ?_
    exact power_inverse (mt (ZMod.natCast_eq_zero_iff _ order).mpr zero)

theorem Scalar.zero_iff {a : List Limb} (scalar : Scalar a) : isZero a = true ↔ (value a : ZMod order) = 0 := by
  rw [isZero_iff scalar.length,ZMod.natCast_eq_zero_iff]
  constructor
  · rintro rfl
    exact dvd_zero _
  · intro divides
    have zero := Nat.eq_zero_of_dvd_of_lt divides scalar.small
    exact value_inj scalar.length zero

/-! ### Signatures -/

/-- The first number of a signature: the first coordinate of the nonce's multiple of the base point. -/
def signR (k : Nat) : Nat := (coordinates (k • base)).1.val % order

/-- The second one. -/
def signS (z d k : Nat) : ZMod order := (k : ZMod order)⁻¹ * (z + signR k * d)

theorem Holds.val {a : List Limb} {x : ZMod prime} (holds : Holds a x) : x.val = value a := by
  rw [← holds.same]
  exact ZMod.val_cast_of_lt holds.canonical.small

theorem signLimbs_spec {comb : Nat → Nat → AffinePoint} (table : CombTable comb) (slots : Nat → List Limb)
    {hash d k : List Limb} (first : hash.length = 4) (second : d.length = 4) (third : k.length = 4) :
    (signLimbs comb slots hash d k = none ↔ signR (value k) = 0 ∨ signS (value hash) (value d) (value k) = 0) ∧
    ∀ r s, signLimbs comb slots hash d k = some (r,s) → Scalar r ∧ value r = signR (value k) ∧ Scalar s ∧
      (value s : ZMod order) = signS (value hash) (value d) (value k) := by
  have located := point_mul_base_located table third
  obtain ⟨scalar,same⟩ := reduceScalar_spec located.x.canonical.length
  rw [← located.x.val,← signR] at same
  obtain ⟨scalarZ,z⟩ := reduceScalar_cast first
  obtain ⟨scalarK,inverse⟩ := invLimbs_inverse slots third
  obtain ⟨scalarP,product⟩ := scalarMul_spec scalar.length second
  obtain ⟨scalarT,sum⟩ := scalarAdd_spec scalarZ scalarP
  obtain ⟨scalarS,last⟩ := scalarMul_spec scalarK.length scalarT.length
  rw [inverse,sum,z,product,same,← signS] at last
  have zero : isZero (reduceScalar (p256_point_mul_base comb k).x) = true ↔ signR (value k) = 0 := by
    rw [scalar.zero_iff,ZMod.natCast_eq_zero_iff,same]
    exact ⟨fun divides => Nat.eq_zero_of_dvd_of_lt divides (Nat.mod_lt _ order_pos),fun zero => zero ▸ dvd_zero _⟩
  rw [signLimbs]
  dsimp only
  by_cases none : isZero (reduceScalar (p256_point_mul_base comb k).x) = true
  · rw [if_pos none]
    exact ⟨⟨fun _ => .inl (zero.mp none),fun _ => rfl⟩,nofun⟩
  rw [if_neg none]
  split
  · next none' =>
    exact ⟨⟨fun _ => .inr (last ▸ scalarS.zero_iff.mp none'),fun _ => rfl⟩,nofun⟩
  · next some =>
    refine ⟨⟨nofun,fun failed => ?_⟩,?_⟩
    · rcases failed with zeroR | zeroS
      · exact absurd (zero.mpr zeroR) none
      · exact absurd (scalarS.zero_iff.mpr (last.trans zeroS)) some
    · rintro r s ⟨⟩
      exact ⟨scalar,same,scalarS,last⟩

/-- Signing leaves the memory alone, or writes both numbers one after the other. -/
theorem sign_cases {comb : Nat → Nat → AffinePoint} (table : CombTable comb) (m stack : Mem) (x0 x1 x2 x3 x4 : Nat)
    (apart : x0 + 32 ≤ x1 ∨ x1 + 32 ≤ x0) :
    let z := Octets.value (slice m x2 32)
    let d := Octets.value (slice m x3 32)
    let k := Octets.value (slice m x4 32)
    let result := p256_ecdsa_sign_with_k comb m stack x0 x1 x2 x3 x4
    ((signR k = 0 ∨ signS z d k = 0) ∧ result = (m,1)) ∨
    ((signR k ≠ 0 ∧ signS z d k ≠ 0) ∧ result.2 = 0 ∧ Octets.value (slice result.1 x0 32) = signR k ∧
      Octets.value (slice result.1 x1 32) < order ∧ (Octets.value (slice result.1 x1 32) : ZMod order) = signS z d k ∧
      ChangesOnly [(x0,32),(x1,32)] m result.1) := by
  intro z d k result
  have spec := signLimbs_spec table (fun i => limbs stack (96 + 32 * i) 4) (frombytes_length m x2)
    (frombytes_length m x3) (frombytes_length m x4)
  rw [frombytes_value,frombytes_value,frombytes_value] at spec
  change (_ ↔ signR k = 0 ∨ signS z d k = 0) ∧ ∀ r s, _ → Scalar r ∧ value r = signR k ∧ Scalar s ∧
    (value s : ZMod order) = signS z d k at spec
  simp only [result,p256_ecdsa_sign_with_k]
  obtain ⟨fails,signs⟩ := spec
  generalize signLimbs comb _ (p256_fe_frombytes m x2) (p256_fe_frombytes m x3) (p256_fe_frombytes m x4) =
    out at fails signs
  cases out with
  | none => exact .inl ⟨fails.mp rfl,rfl⟩
  | some pair =>
    obtain ⟨r,s⟩ := pair
    obtain ⟨scalar,same,scalar',same'⟩ := signs r s rfl
    have first : Octets.value (slice (p256_fe_tobytes (p256_fe_tobytes m x0 r) x1 s) x0 32) = value r := by
      rw [← tobytes_value m x0 scalar.length]
      refine congrArg _ (slice_congr fun i inside => ?_)
      exact tobytes_changes _ x1 scalar'.length _ (by simp; omega)
    have second := tobytes_value (p256_fe_tobytes m x0 r) x1 scalar'.length
    refine .inr ⟨not_or.mp (mt fails.mpr nofun),rfl,first.trans same,?_⟩
    dsimp only
    rw [second]
    have before : ChangesOnly [(x0,32),(x1,32)] m (p256_fe_tobytes m x0 r) :=
      (tobytes_changes m x0 scalar.length).mono (by simp)
    exact ⟨scalar'.small,same',before.trans ((tobytes_changes _ x1 scalar'.length).mono (by simp))⟩

theorem signR_lt (k : Nat) : signR k < order := Nat.mod_lt _ order_pos

theorem signR_infinite {k : Nat} (divides : order ∣ k) : signR k = 0 := by
  rw [signR,nsmul_base_eq_zero.mpr divides,coordinates_zero.mpr rfl,ZMod.val_zero,Nat.zero_mod]

/-- Signing fails exactly if one of the numbers is zero, as for a nonce that is zero modulo the order; else they are
    those of the signature. -/
theorem sign_exact {comb : Nat → Nat → AffinePoint} (table : CombTable comb) (m stack : Mem) (x0 x1 x2 x3 x4 : Nat) :
    let z := Octets.value (slice m x2 32)
    let d := Octets.value (slice m x3 32)
    let k := Octets.value (slice m x4 32)
    let result := p256_ecdsa_sign_with_k comb m stack x0 x1 x2 x3 x4
    0 < d → d < order → x0 + 32 ≤ x1 ∨ x1 + 32 ≤ x0 →
      (result.2 = 0 ↔ signR k ≠ 0 ∧ signS z d k ≠ 0) ∧ (order ∣ k → result.2 = 1) ∧
      (result.2 = 0 ∨ result.2 = 1 ∧ result.1 = m) ∧
      (result.2 = 0 →
        let r := Octets.value (slice result.1 x0 32)
        let s := Octets.value (slice result.1 x1 32)
        1 ≤ r ∧ r < order ∧ 1 ≤ s ∧ s < order ∧ r = (coordinates (k • base)).1.val % order ∧
            s * k % order = (z + r * d) % order) := by
  intro z d k result _ _ apart
  have written := sign_cases table m stack x0 x1 x2 x3 x4 apart
  change ((signR k = 0 ∨ signS z d k = 0) ∧ result = (m,1)) ∨ ((signR k ≠ 0 ∧ signS z d k ≠ 0) ∧ result.2 = 0 ∧
    Octets.value (slice result.1 x0 32) = signR k ∧ Octets.value (slice result.1 x1 32) < order ∧
      (Octets.value (slice result.1 x1 32) : ZMod order) = signS z d k ∧
        ChangesOnly [(x0,32),(x1,32)] m result.1) at written
  obtain ⟨failed,same⟩ | ⟨both,code,first,small,second,_⟩ := written
  · rw [same]
    refine ⟨⟨nofun,fun both => absurd failed (not_or.mpr both)⟩,fun _ => rfl,.inr ⟨rfl,rfl⟩,nofun⟩
  · have finite : ¬order ∣ k := fun divides => both.1 (signR_infinite divides)
    have nonzero : (k : ZMod order) ≠ 0 := mt (ZMod.natCast_eq_zero_iff _ _).mp finite
    have positive : Octets.value (slice result.1 x1 32) ≠ 0 := fun zero => both.2 (by rw [← second,zero,Nat.cast_zero])
    refine ⟨⟨fun _ => both,fun _ => code⟩,fun divides => absurd divides finite,.inl code,fun _ => ?_⟩
    dsimp only
    rw [first]
    refine ⟨Nat.pos_of_ne_zero both.1,signR_lt k,Nat.pos_of_ne_zero positive,small,rfl,?_⟩
    refine (ZMod.natCast_eq_natCast_iff' _ _ _).mp ?_
    rw [Nat.cast_mul,second,signS,Nat.cast_add,Nat.cast_mul,mul_comm,mul_inv_cancel_left₀ nonzero]

/-- On a memory of ones. -/
theorem sign_exact_ones : (p256_ecdsa_sign_with_k ladderTable (fun _ => 1) (fun _ => 0) 0 32 0 0 0).2 = 0 ∨
    (p256_ecdsa_sign_with_k ladderTable (fun _ => 1) (fun _ => 0) 0 32 0 0 0).2 = 1 ∧
      (p256_ecdsa_sign_with_k ladderTable (fun _ => 1) (fun _ => 0) 0 32 0 0 0).1 = fun _ => 1 := by
  have digits : 0 < Octets.value (slice (fun _ => 1) 0 32) ∧ Octets.value (slice (fun _ => 1) 0 32) < order :=
    by decide +kernel
  generalize (fun _ => 1 : Mem) = m at digits ⊢
  exact (sign_exact ladderTable_comb m (fun _ => 0) 0 32 0 0 0 digits.1 digits.2 (.inl (by decide))).2.2.1

end Sarm.P256
