import Sarm.Words

/-!
Long products by index loops, whose carry is a word, and two ways to reduce them: the quotient
estimated from a reciprocal, and the lowest word cleared by a multiple of the modulus.
-/
namespace Sarm.Reductions
open Sarm.Words

variable {w : Nat}

/-! ### Rows with the carry in a word -/

/-- A row onto the words from its place on: the carry goes into the word behind the row, and what
    lies further up is added to nothing. -/
def rowCarry (x : BitVec w) : List (BitVec w) → List (BitVec w) → BitVec w → List (BitVec w)
  | y :: ys,t :: ts,carry =>
    let (sum,c) := addWithCarry t (x * y) false
    let (sum,c') := addWithCarry sum carry false
    sum :: rowCarry x ys ts (umulh x y + BitVec.ofNat w c.toNat + BitVec.ofNat w c'.toNat)
  | [],t :: ts,carry => (addWithCarry t carry false).1 :: ts.map fun t => (addWithCarry t 0 false).1
  | _,[],_ => []

theorem addWithCarry_zero (x : BitVec w) : addWithCarry x 0 false = (x,false) := by
  have small := x.isLt
  rw [addWithCarry,Prod.mk.injEq]
  simp [small]

/-- The upper word of a product has room for two carries. -/
theorem carry_value (positive : 0 < w) (x y t carry : BitVec w) :
    let (sum,c) := addWithCarry t (x * y) false
    let (sum,c') := addWithCarry sum carry false
    sum.toNat + 2^w * (umulh x y + BitVec.ofNat w c.toNat + BitVec.ofNat w c'.toNat).toNat =
        t.toNat + x.toNat * y.toNat + carry.toNat := by
  have product := mul_value x y
  have first := addWithCarry_value t (x * y) false
  have second := addWithCarry_value (addWithCarry t (x * y) false).1 carry false
  rw [Bool.toNat_false,Nat.add_zero] at first second
  have room : t.toNat + x.toNat * y.toNat + carry.toNat < 2^w * 2^w := by
    obtain ⟨word,same⟩ : ∃ word, 2^w = word + 1 := ⟨2^w - 1,(Nat.sub_add_cancel (Nat.two_pow_pos w)).symm⟩
    have most : x.toNat * y.toNat ≤ word * word := Nat.mul_le_mul (by omega) (by omega)
    have t' := t.isLt
    have carry' := carry.isLt
    rw [same] at t' carry' ⊢
    nlinarith
  dsimp only
  generalize (addWithCarry t (x * y) false) = sum at *
  generalize (addWithCarry sum.1 carry false) = sum' at *
  have upper : (umulh x y).toNat + sum.2.toNat + sum'.2.toNat < 2^w := by
    refine Nat.lt_of_mul_lt_mul_left (a := 2^w) (lt_of_le_of_lt ?_ room)
    rw [Nat.mul_add,Nat.mul_add]
    omega
  rw [BitVec.toNat_add,BitVec.toNat_add,toNat_carry positive,toNat_carry positive,Nat.mod_add_mod,
    Nat.mod_eq_of_lt upper,Nat.mul_add,Nat.mul_add]
  omega

theorem rowCarry_spec (positive : 0 < w) (x : BitVec w) (k : Nat) : ∀ (ys low : List (BitVec w)) (carry : BitVec w),
    low.length = ys.length → ∃ row, rowCarry x ys (low ++ List.replicate (k+1) 0) carry = row ++ List.replicate k 0 ∧
      row.length = ys.length + 1 ∧ value row = value low + x.toNat * value ys + carry.toNat := by
  intro ys
  induction ys with
  | nil =>
    intro low carry length
    obtain rfl : low = [] := List.length_eq_zero_iff.mp length
    have only := addWithCarry_value 0 carry false
    refine ⟨[carry],?_,rfl,by simp⟩
    rw [List.nil_append,List.replicate_succ,rowCarry,List.map_replicate,addWithCarry_zero,addWithCarry]
    simp
  | cons y ys ih =>
    intro low carry length
    obtain _ | ⟨t,low⟩ := low
    · cases length
    have word := carry_value positive x y t carry
    rw [List.cons_append,rowCarry]
    dsimp only at word ⊢
    obtain ⟨row,same,count,sum⟩ := ih low _ (Nat.succ.inj length)
    rw [same]
    refine ⟨_ :: row,rfl,congrArg Nat.succ count,?_⟩
    rw [value_cons,sum,value_cons,value_cons]
    linarith [word]

/-- A row for each word of the first number. -/
def mulRows (ys : List (BitVec w)) : List (BitVec w) → List (BitVec w) → List (BitVec w)
  | [],t => t
  | x :: xs,t =>
    match rowCarry x ys t 0 with
    | t0 :: ts => t0 :: mulRows ys xs ts
    | [] => []

theorem mulRows_spec (positive : 0 < w) (ys : List (BitVec w)) : ∀ (xs low : List (BitVec w)), low.length = ys.length →
    (mulRows ys xs (low ++ List.replicate xs.length 0)).length = xs.length + ys.length ∧
      value (mulRows ys xs (low ++ List.replicate xs.length 0)) = value low + value xs * value ys := by
  intro xs
  induction xs with
  | nil =>
    intro low length
    simp [mulRows,length]
  | cons x xs ih =>
    intro low length
    obtain ⟨row,same,count,sum⟩ := rowCarry_spec positive x xs.length ys low 0 length
    obtain _ | ⟨t0,ts⟩ := row
    · cases count
    rw [mulRows,List.length_cons,same]
    obtain ⟨width,rest⟩ := ih ts (Nat.succ.inj count)
    rw [value_cons] at sum
    dsimp only [List.cons_append]
    rw [List.length_cons,width,value_cons,rest,value_cons]
    refine ⟨by omega,?_⟩
    have none : (0 : BitVec w).toNat = 0 := BitVec.toNat_zero
    rw [none] at sum
    linarith [sum]

/-- The product of two numbers in a buffer of zeros. -/
def mulBuffer (xs ys : List (BitVec w)) : List (BitVec w) := mulRows ys xs (List.replicate (xs.length + ys.length) 0)

theorem mulBuffer_spec (positive : 0 < w) (xs ys : List (BitVec w)) :
    (mulBuffer xs ys).length = xs.length + ys.length ∧ value (mulBuffer xs ys) = value xs * value ys := by
  obtain ⟨width,same⟩ := mulRows_spec positive ys xs (List.replicate ys.length 0) List.length_replicate
  rw [value_zeros,Nat.zero_add] at same
  rw [mulBuffer,Nat.add_comm,← List.replicate_append_replicate]
  exact ⟨width.trans (Nat.add_comm _ _),same⟩

/-! ### Parts of a number -/

theorem value_take {xs : List (BitVec w)} {k : Nat} (inside : k ≤ xs.length) (small : value xs < 2^(w * k)) :
    value (xs.take k) = value xs := by
  have parts := value_append (xs.take k) (xs.drop k)
  rw [List.take_append_drop,List.length_take,Nat.min_eq_left inside] at parts
  obtain none | some := Nat.eq_zero_or_pos (value (xs.drop k))
  · rw [parts,none,Nat.mul_zero,Nat.add_zero]
  · have := Nat.le_mul_of_pos_right (2^(w * k)) some
    omega

theorem value_drop {xs : List (BitVec w)} {k : Nat} (inside : k ≤ xs.length) :
    value (xs.drop k) = value xs / 2^(w * k) := by
  have parts := value_append (xs.take k) (xs.drop k)
  have low := value_lt (xs.take k)
  rw [List.length_take,Nat.min_eq_left inside] at low
  rw [List.take_append_drop,List.length_take,Nat.min_eq_left inside] at parts
  rw [parts,Nat.add_mul_div_left _ _ (Nat.two_pow_pos _),Nat.div_eq_of_lt low,Nat.zero_add]

/-- Two subtractions of the modulus, each if it leaves something. -/
theorem reduceTwice_mod {m xs : List (BitVec w)} (length : xs.length = m.length) (small : value xs < 3 * value m) :
    (reduceOnce m (reduceOnce m xs)).length = m.length ∧ value (reduceOnce m (reduceOnce m xs)) = value xs % value m := by
  have once := (reduceOnce_length length).trans length
  refine ⟨(reduceOnce_length once).trans once,?_⟩
  have first := reduceOnce_value length
  split at first
  · next le => rw [reduceOnce_mod once (by omega),first,← Nat.mod_eq_sub_mod le]
  · next gt => rw [reduceOnce_mod once (by omega),first]

/-! ### Estimated quotients -/

/-- The quotient that a reciprocal and the upper digits give. -/
def estimate (b r n x : Nat) : Nat := x / b * (b * r / n) / r

/-- It is not too large, and too small by two at most. -/
theorem estimate_bounds {b r n x : Nat} (positive : 0 < b) (positive' : 0 < r) (large : b ≤ n) (small : x < b * r) :
    estimate b r n x * n ≤ x ∧ x < (estimate b r n x + 3) * n := by
  rw [estimate]
  generalize upper : x / b = u
  generalize reciprocal : b * r / n = m
  generalize quotient : u * m / r = q
  have some : 0 < n := Nat.lt_of_lt_of_le positive large
  have digits : b * u ≤ x ∧ x < b * (u + 1) := by
    rw [← upper]
    exact ⟨Nat.mul_div_le x b,Nat.lt_mul_div_succ x positive⟩
  have inverse : n * m ≤ b * r ∧ b * r < n * (m + 1) := by
    rw [← reciprocal]
    exact ⟨Nat.mul_div_le (b * r) n,Nat.lt_mul_div_succ (b * r) some⟩
  have rounded : r * q ≤ u * m ∧ u * m < r * (q + 1) := by
    rw [← quotient]
    exact ⟨Nat.mul_div_le (u * m) r,Nat.lt_mul_div_succ (u * m) positive'⟩
  have few : u < r := Nat.lt_of_mul_lt_mul_left (a := b) (lt_of_le_of_lt digits.1 small)
  refine ⟨Nat.le_of_mul_le_mul_left ?_ positive',Nat.lt_of_lt_of_le (m := (q + 2) * n + n) ?_ (by rw [← Nat.succ_mul])⟩
  · calc r * (q * n) = r * q * n := by ring
      _ ≤ u * m * n := Nat.mul_le_mul_right n rounded.1
      _ = u * (n * m) := by ring
      _ ≤ u * (b * r) := Nat.mul_le_mul_left u inverse.1
      _ = r * (b * u) := by ring
      _ ≤ r * x := Nat.mul_le_mul_left r digits.1
  · have scaled : r * (u * b) < r * ((q + 2) * n) := by
      calc r * (u * b) = u * (b * r) := by ring
        _ ≤ u * (n * (m + 1)) := Nat.mul_le_mul_left u inverse.2.le
        _ = u * m * n + u * n := by ring
        _ < r * (q + 1) * n + r * n := Nat.add_lt_add_of_le_of_lt (Nat.mul_le_mul_right n rounded.2.le)
          (Nat.mul_lt_mul_of_pos_right few some)
        _ = r * ((q + 2) * n) := by ring
    have below := Nat.lt_of_mul_lt_mul_left scaled
    calc x < b * (u + 1) := digits.2
      _ = u * b + b := by ring
      _ ≤ u * b + n := Nat.add_le_add_left large _
      _ < (q + 2) * n + n := Nat.add_lt_add_right below n

/-! ### Montgomery's rounds -/

/-- A multiple of the modulus that clears the lowest word, which is dropped: its lower words along one
    chain of carries, its upper ones along another, and what both leave onto the rest. -/
def clearLowest (n : List (BitVec w)) (inverse : BitVec w) : List (BitVec w) → List (BitVec w)
  | [] => []
  | t0 :: ts =>
    let m := t0 * inverse
    let k := n.length - 1
    let (low,c) := addChain (t0 :: ts.take k) (mulLow n m) false
    let (high,c') := addChain (low.tail ++ [BitVec.ofNat w c.toNat]) (mulHigh n m) false
    high.take k ++ (addChain (ts.drop k)
      (high.drop k ++ BitVec.ofNat w c'.toNat :: List.replicate (ts.length - (k+2)) 0) false).1

/-- The inverse is chosen so that the lowest word becomes zero. -/
theorem lowest_zero {n0 inverse : BitVec w} (chosen : n0 * inverse = -1) (t0 : BitVec w) :
    t0 + n0 * (t0 * inverse) = 0 := by
  have same : n0 * (t0 * inverse) = t0 * (n0 * inverse) := by
    rw [← BitVec.mul_assoc,BitVec.mul_comm n0 t0,BitVec.mul_assoc]
  rw [same,chosen]
  grind

/-- Both chains together add the multiple; what is left above the cleared word is the upper chain with its carry on top. -/
theorem chains_value (positive : 0 < w) {n0 inverse : BitVec w} {n : List (BitVec w)} (chosen : n0 * inverse = -1)
    {t0 : BitVec w} {ts : List (BitVec w)} (length : ts.length = n.length) :
    let (low,c) := addChain (t0 :: ts) (mulLow (n0 :: n) (t0 * inverse)) false
    let (high,c') := addChain (low.tail ++ [BitVec.ofNat w c.toNat]) (mulHigh (n0 :: n) (t0 * inverse)) false
    high.length = n.length + 1 ∧ 2^w * (value high + 2^(w * (n.length + 1)) * c'.toNat) =
        value (t0 :: ts) + value (n0 :: n) * (t0 * inverse).toNat := by
  have product := mulLow_mulHigh (n0 :: n) (t0 * inverse)
  have count : (t0 :: ts).length = (mulLow (n0 :: n) (t0 * inverse)).length := by
    rw [mulLow_length,List.length_cons,List.length_cons,length]
  have lowSum := addChain_value count false
  have width := addChain_length count false
  have cleared : (addChain (t0 :: ts) (mulLow (n0 :: n) (t0 * inverse)) false).1.head? = some 0 := by
    rw [mulLow,List.map_cons,addChain]
    dsimp only [List.head?_cons]
    rw [addWithCarry,Bool.toNat_false,Nat.add_zero]
    exact congrArg some ((BitVec.add_def _ _).symm.trans (lowest_zero chosen t0))
  dsimp only
  generalize addChain (t0 :: ts) (mulLow (n0 :: n) (t0 * inverse)) false = low at *
  obtain ⟨_ | ⟨t,low⟩,c⟩ := low
  · cases cleared
  obtain rfl : t = 0 := Option.some.inj cleared
  rw [List.length_cons,List.length_cons,Nat.succ_inj] at width
  have count' : (low ++ [BitVec.ofNat w c.toNat]).length = (mulHigh (n0 :: n) (t0 * inverse)).length := by
    rw [mulHigh_length,List.length_append,List.length_singleton,List.length_cons,width,length]
  have highSum := addChain_value count' false
  have width' := addChain_length count' false
  have top : value (low ++ [BitVec.ofNat w c.toNat]) = value low + 2^(w * low.length) * c.toNat := by
    rw [value_append,value_cons,value_nil,Nat.mul_zero,Nat.add_zero,toNat_carry positive]
  rw [List.length_append,List.length_singleton,width,length] at width' highSum
  have none : (0 : BitVec w).toNat = 0 := BitVec.toNat_zero
  rw [List.length_cons,length,Nat.mul_succ,Nat.pow_add,value_cons,none,Nat.zero_add,Bool.toNat_false,
    Nat.add_zero] at lowSum
  rw [top,width,length,Bool.toNat_false,Nat.add_zero] at highSum
  refine ⟨width',?_⟩
  dsimp only [List.tail_cons]
  rw [highSum,← product]
  linarith [lowSum]

/-- A round divides by the word, once a multiple of the modulus is added. -/
theorem clearLowest_spec (positive : 0 < w) {n0 inverse : BitVec w} {n : List (BitVec w)}
    (chosen : n0 * inverse = -1) {t0 : BitVec w} {ts : List (BitVec w)} (room : n.length + 2 ≤ ts.length)
    (fits : value (t0 :: ts) + value (n0 :: n) * (t0 * inverse).toNat < 2^(w * (t0 :: ts).length)) :
    (clearLowest (n0 :: n) inverse (t0 :: ts)).length = ts.length ∧
      2^w * value (clearLowest (n0 :: n) inverse (t0 :: ts)) =
          value (t0 :: ts) + value (n0 :: n) * (t0 * inverse).toNat := by
  have short : (ts.take n.length).length = n.length := by rw [List.length_take]; omega
  have chains := @chains_value w positive n0 inverse n chosen t0 _ short
  have parts := value_append (ts.take n.length) (ts.drop n.length)
  rw [List.take_append_drop,short] at parts
  rw [clearLowest]
  dsimp only [List.length_cons,Nat.add_sub_cancel] at chains ⊢
  rw [Nat.add_sub_cancel]
  generalize addChain (t0 :: ts.take n.length) (mulLow (n0 :: n) (t0 * inverse)) false = low at *
  generalize addChain (low.1.tail ++ [BitVec.ofNat w low.2.toNat]) (mulHigh (n0 :: n) (t0 * inverse)) false = high at *
  obtain ⟨width,sum⟩ := chains
  have halves := value_append (high.1.take n.length) (high.1.drop n.length)
  have taken : (high.1.take n.length).length = n.length := by rw [List.length_take]; omega
  have dropped : (high.1.drop n.length).length = 1 := by rw [List.length_drop]; omega
  rw [List.take_append_drop,taken] at halves
  have deposit : value (high.1.drop n.length ++ BitVec.ofNat w high.2.toNat :: List.replicate
      (ts.length - (n.length + 2)) 0) =
      value (high.1.drop n.length) + 2^w * high.2.toNat := by
    rw [value_append,dropped,value_cons,value_zeros,toNat_carry positive,Nat.mul_one,Nat.mul_zero,Nat.add_zero]
  have count : (ts.drop n.length).length =
      (high.1.drop n.length ++ BitVec.ofNat w high.2.toNat :: List.replicate (ts.length - (n.length + 2)) 0).length := by
    rw [List.length_append,dropped,List.length_cons,List.length_replicate,List.length_drop]
    omega
  have whole : 2^w * (value (high.1.take n.length) +
      2^(w * n.length) * (value (ts.drop n.length) + (value (high.1.drop n.length) + 2^w * high.2.toNat))) =
      value (t0 :: ts) + value (n0 :: n) * (t0 * inverse).toNat := by
    rw [Nat.mul_succ,Nat.pow_add,halves,value_cons] at sum
    rw [value_cons,parts]
    linarith [sum]
  have small : value (ts.drop n.length) + (value (high.1.drop n.length) + 2^w * high.2.toNat) + false.toNat <
      2^(w * (ts.drop n.length).length) := by
    have power : 2^(w * (t0 :: ts).length) = 2^w * 2^(w * n.length) * 2^(w * (ts.drop n.length).length) := by
      rw [← Nat.pow_add,← Nat.pow_add,List.length_drop,List.length_cons]
      congr 1
      obtain ⟨rest,same⟩ : ∃ rest, ts.length = n.length + rest := ⟨ts.length - n.length,by omega⟩
      rw [same,Nat.add_sub_cancel_left]
      ring
    rw [power,← whole] at fits
    refine Nat.lt_of_mul_lt_mul_left (a := 2^w * 2^(w * n.length)) (lt_of_le_of_lt ?_ fits)
    rw [Bool.toNat_false,Nat.add_zero,Nat.mul_assoc]
    exact Nat.mul_le_mul_left _ (Nat.le_add_left _ _)
  refine ⟨?_,?_⟩
  · rw [List.length_append,taken,addChain_length count,List.length_drop]
    omega
  · rw [value_append,taken,addChain_fits count (by rw [deposit]; exact small),deposit,Bool.toNat_false,Nat.add_zero]
    exact whole

/-- As many rounds as the modulus has words, on a number with one word more than twice as many. -/
theorem rounds_spec (positive : 0 < w) {n0 inverse : BitVec w} {n t : List (BitVec w)} (chosen : n0 * inverse = -1)
    (length : t.length = 2 * (n.length + 1) + 1) (small : value t < value (n0 :: n) * 2^(w * (n.length + 1)))
      (i : Nat) (few : i ≤ n.length + 1) :
    ((clearLowest (n0 :: n) inverse)^[i] t).length = 2 * (n.length + 1) + 1 - i ∧
      ∃ m < 2^(w * i), 2^(w * i) * value ((clearLowest (n0 :: n) inverse)^[i] t) = value t + value (n0 :: n) * m := by
  induction i with
  | zero => exact ⟨length,0,Nat.two_pow_pos _,by simp⟩
  | succ i ih =>
    obtain ⟨width,m,below,sum⟩ := ih (by omega)
    rw [Function.iterate_succ_apply']
    generalize (clearLowest (n0 :: n) inverse)^[i] t = u at *
    obtain _ | ⟨t0,ts⟩ := u
    · rw [List.length_nil] at width
      omega
    rw [List.length_cons] at width
    have next : m + 2^(w * i) * (t0 * inverse).toNat < 2^(w * (i + 1)) := by
      rw [Nat.mul_succ,Nat.pow_add]
      calc m + 2^(w * i) * (t0 * inverse).toNat < 2^(w * i) * ((t0 * inverse).toNat + 1) := by rw [Nat.mul_succ]; omega
        _ ≤ 2^(w * i) * 2^w := Nat.mul_le_mul_left _ (t0 * inverse).isLt
    have together : 2^(w * i) * (value (t0 :: ts) + value (n0 :: n) * (t0 * inverse).toNat) =
        value t + value (n0 :: n) * (m + 2^(w * i) * (t0 * inverse).toNat) := by
      rw [Nat.mul_add,sum]
      ring
    have fits : value (t0 :: ts) + value (n0 :: n) * (t0 * inverse).toNat < 2^(w * (t0 :: ts).length) := by
      refine Nat.lt_of_mul_lt_mul_left (a := 2^(w * i)) ?_
      have modulus := value_lt (n0 :: n)
      have two : 2 ≤ 2^w := Nat.le_self_pow positive.ne' 2
      have powers : 2^(w * i) * 2^(w * (t0 :: ts).length) =
          2^w * (2^(w * (n0 :: n).length) * 2^(w * (n.length + 1))) := by
        rw [← Nat.pow_add,← Nat.pow_add,← Nat.pow_add,← Nat.mul_add,List.length_cons,List.length_cons,width]
        congr 1
        obtain ⟨rest,same⟩ : ∃ rest, n.length + 1 = i + rest := ⟨n.length + 1 - i,by omega⟩
        rw [same,show 2 * (i + rest) + 1 - i = i + 2 * rest + 1 by omega]
        ring
      rw [together,powers]
      calc value t + value (n0 :: n) * (m + 2^(w * i) * (t0 * inverse).toNat)
          < value (n0 :: n) * 2^(w * (n.length + 1)) + value (n0 :: n) * 2^(w * (n.length + 1)) :=
            Nat.add_lt_add_of_lt_of_le small
              (Nat.mul_le_mul_left _ (next.le.trans (Nat.pow_le_pow_right (by decide) (Nat.mul_le_mul_left w few))))
        _ = 2 * (value (n0 :: n) * 2^(w * (n.length + 1))) := by ring
        _ ≤ 2^w * (2^(w * (n0 :: n).length) * 2^(w * (n.length + 1))) :=
          Nat.mul_le_mul two (Nat.mul_le_mul_right _ modulus.le)
    obtain ⟨count,cleared⟩ := clearLowest_spec positive chosen (by omega) fits
    refine ⟨by omega,_,next,?_⟩
    rw [Nat.mul_succ,Nat.pow_add,Nat.mul_assoc,cleared,together]

/-- The rounds, and one subtraction of the modulus. -/
def montgomery (n : List (BitVec w)) (inverse : BitVec w) (t : List (BitVec w)) : List (BitVec w) :=
  (reduceOnce (n ++ [0]) ((clearLowest n inverse)^[n.length] t)).take n.length

@[simp] theorem value_wide (n : List (BitVec w)) : value (n ++ [0]) = value n := by
  rw [value_append]
  simp

/-- A number that may have a word more than the modulus has, once it is below the modulus. -/
theorem value_narrow {n xs : List (BitVec w)} (length : xs.length = (n ++ [0]).length) (small : value xs < value n) :
    (xs.take n.length).length = n.length ∧ value (xs.take n.length) = value xs := by
  rw [List.length_append,List.length_singleton] at length
  refine ⟨by rw [List.length_take]; omega,value_take (by omega) (small.trans (value_lt n))⟩

theorem montgomery_spec (positive : 0 < w) {n0 inverse : BitVec w} {n t : List (BitVec w)} (chosen : n0 * inverse = -1)
    (length : t.length = 2 * (n0 :: n).length + 1) (small : value t < value (n0 :: n) * 2^(w * (n0 :: n).length)) :
    (montgomery (n0 :: n) inverse t).length = (n0 :: n).length ∧
      value (montgomery (n0 :: n) inverse t) < value (n0 :: n) ∧
      2^(w * (n0 :: n).length) * value (montgomery (n0 :: n) inverse t) % value (n0 :: n) =
          value t % value (n0 :: n) := by
  have nonzero : 0 < value (n0 :: n) := Nat.pos_of_ne_zero fun none => by rw [none,Nat.zero_mul] at small; cases small
  obtain ⟨width,m,below,sum⟩ := rounds_spec positive chosen length small (n0 :: n).length (Nat.le_refl _)
  rw [montgomery]
  generalize (clearLowest (n0 :: n) inverse)^[(n0 :: n).length] t = u at *
  rw [← List.length_cons] at width
  generalize (n0 :: n) = n at *
  have wide : u.length = (n ++ [0]).length := by
    rw [width,List.length_append,List.length_singleton]
    omega
  have twice : value u < 2 * value n := by
    refine Nat.lt_of_mul_lt_mul_left (a := 2^(w * n.length)) ?_
    have multiple := Nat.mul_le_mul_left (value n) below.le
    rw [sum]
    linarith
  have reduced := reduceOnce_mod wide (by rw [value_wide]; exact twice)
  rw [value_wide] at reduced
  have canonical : value (reduceOnce (n ++ [0]) u) < value n := reduced ▸ Nat.mod_lt _ nonzero
  obtain ⟨count,same⟩ := value_narrow ((reduceOnce_length wide).trans wide) canonical
  refine ⟨count,same ▸ canonical,?_⟩
  rw [same,reduced,Nat.mul_mod_mod,sum,Nat.add_mul_mod_self_left]

end Sarm.Reductions
