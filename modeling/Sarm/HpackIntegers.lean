import Sarm.HpackBounds

/-!
The integers of RFC 7541 section 5.1, by their octets, and which of them the decoder takes.
-/
namespace Sarm.Hpack
open Sarm.Memory Sarm.Watch

/-- Continuation octets and the number they stand for, its least significant group first. All
    of them but the last have the first bit set. -/
inductive Continues : List UInt8 → Nat → Prop where
  | last {octet : UInt8} (low : octet.toNat < 128) : Continues [octet] octet.toNat
  | more {octet : UInt8} {rest : List UInt8} {v : Nat} (high : 128 ≤ octet.toNat) (behind : Continues rest v) :
      Continues (octet :: rest) (octet.toNat % 128 + 128 * v)

/-- An integer with an `n`-bit prefix. The bits in front of the prefix are not its own. -/
inductive EncodesInt (n : Nat) : List UInt8 → Nat → Prop where
  | short {octet : UInt8} (fits : octet.toNat % 2^n < 2^n - 1) : EncodesInt n [octet] (octet.toNat % 2^n)
  | long {octet : UInt8} {rest : List UInt8} {v : Nat} (full : octet.toNat % 2^n = 2^n - 1) (behind : Continues rest v) :
      EncodesInt n (octet :: rest) (2^n - 1 + v)

section
variable {block : Mem} {off n m v : Nat}

/-- The two forms of continuation octets in memory. -/
theorem continues_slice : Continues (slice block off m) v ↔
    ((block off).toNat < 128 ∧ m = 1 ∧ v = (block off).toNat) ∨
      (128 ≤ (block off).toNat ∧ ∃ m' v', m = m' + 1 ∧ Continues (slice block (off + 1) m') v' ∧
        v = (block off).toNat % 128 + 128 * v') := by
  constructor
  · intro encoded
    cases m with
    | zero => cases encoded
    | succ m =>
      rw [slice_succ] at encoded
      generalize tail : slice block (off + 1) m = rest at encoded
      cases encoded with
      | last low =>
        refine .inl ⟨low,?_,rfl⟩
        have length := congrArg List.length tail
        rw [slice_length] at length
        exact congrArg (· + 1) length
      | more high behind => exact .inr ⟨high,m,_,rfl,tail ▸ behind,rfl⟩
  · rintro (⟨low,rfl,rfl⟩ | ⟨high,m',v',rfl,behind,rfl⟩)
    · exact .last low
    · rw [slice_succ]
      exact .more high behind

theorem encodesInt_slice : EncodesInt n (slice block off m) v ↔
    ((block off).toNat % 2^n < 2^n - 1 ∧ m = 1 ∧ v = (block off).toNat % 2^n) ∨
      ((block off).toNat % 2^n = 2^n - 1 ∧ ∃ m' v', m = m' + 1 ∧ Continues (slice block (off + 1) m') v' ∧
    v = 2^n - 1 + v') := by
  constructor
  · intro encoded
    cases m with
    | zero => cases encoded
    | succ m =>
      rw [slice_succ] at encoded
      generalize tail : slice block (off + 1) m = rest at encoded
      cases encoded with
      | short fits =>
        refine .inl ⟨fits,?_,rfl⟩
        have length := congrArg List.length tail
        rw [slice_length] at length
        exact congrArg (· + 1) length
      | long full behind => exact .inr ⟨full,m,_,rfl,tail ▸ behind,rfl⟩
  · rintro (⟨fits,rfl,rfl⟩ | ⟨full,m',v',rfl,behind,rfl⟩)
    · exact .short fits
    · rw [slice_succ]
      exact .long full behind

end

/-- The loop with `k` groups behind it takes as many octets as there are turns left, less one for
    the octet that is too many, and nothing that runs over the end or over 32 bits. -/
theorem intLoop_iff {block : Mem} {off «end» : Nat} : ∀ (fuel k value consumed v used : Nat), fuel + k = 6 →
    (intLoop block off «end» fuel value consumed (7 * k) = .ok (v,used) ↔
      ∃ m w, Continues (slice block (off + consumed) m) w ∧ used = consumed + m ∧ off + used ≤ «end» ∧ m + k ≤ 5 ∧
        v = value + w * 2^(7 * k) ∧ v < 2^32) := by
  intro fuel
  induction fuel with
  | zero =>
    intro k value consumed v used turns
    constructor
    · intro executed
      cases executed
    · rintro ⟨m,w,_,_,_,few,_⟩
      omega
  | succ fuel ih =>
    intro k value consumed v used turns
    have weight : 2^(7 * (k + 1)) = 128 * 2^(7 * k) := by rw [Nat.mul_succ,Nat.pow_add,Nat.mul_comm]
    rw [intLoop]
    by_cases past : «end» ≤ off + consumed
    · rw [if_pos past]
      constructor
      · intro executed
        cases executed
      · rintro ⟨m,w,encoded,rfl,inside,_⟩
        rcases continues_slice.mp encoded with ⟨_,one,_⟩ | ⟨_,m',_,more,_⟩ <;> omega
    rw [if_neg past]
    dsimp only
    by_cases long : 32 ≤ 7 * k
    · rw [if_pos long]
      constructor
      · intro executed
        cases executed
      · rintro ⟨m,w,encoded,_,_,few,_⟩
        rcases continues_slice.mp encoded with ⟨_,one,_⟩ | ⟨_,m',_,more,_⟩ <;> omega
    rw [if_neg long]
    by_cases large : 2^32 ≤ value + (block (off + consumed)).toNat % 128 * 2^(7 * k)
    · rw [if_pos large]
      constructor
      · intro executed
        cases executed
      · rintro ⟨m,w,encoded,_,_,_,sum,small⟩
        -- The groups behind this one only add to the number.
        have least : (block (off + consumed)).toNat % 128 ≤ w := by
          rcases continues_slice.mp encoded with ⟨low,_,number⟩ | ⟨_,_,v',_,_,number⟩ <;> omega
        have := Nat.mul_le_mul_right (2^(7 * k)) least
        omega
    rw [if_neg large]
    by_cases last : (block (off + consumed)).toNat < 128
    · rw [if_pos last]
      have whole := Nat.mod_eq_of_lt last
      rw [whole] at large ⊢
      constructor
      · intro executed
        cases executed
        exact ⟨1,_,.last last,rfl,by omega,by omega,rfl,by omega⟩
      · rintro ⟨m,w,encoded,rfl,_,_,rfl,_⟩
        rcases continues_slice.mp encoded with ⟨_,rfl,rfl⟩ | ⟨high,_⟩
        · rfl
        · omega
    · have regroup (p w : Nat) : value + p * 2^(7 * k) + w * 2^(7 * (k + 1)) = value + (p + 128 * w) * 2^(7 * k) := by
        rw [weight,Nat.add_mul,Nat.add_assoc,Nat.mul_left_comm,Nat.mul_assoc]
      rw [if_neg last,← Nat.mul_succ,ih (k + 1) _ (consumed + 1) v used (by omega)]
      constructor
      · rintro ⟨m,w,encoded,rfl,inside,few,rfl,small⟩
        exact ⟨m + 1,_,continues_slice.mpr (.inr ⟨Nat.not_lt.mp last,m,w,rfl,encoded,rfl⟩),by omega,by omega,by omega,
          regroup _ w,small⟩
      · rintro ⟨m,w,encoded,rfl,inside,few,rfl,small⟩
        rcases continues_slice.mp encoded with ⟨low,_⟩ | ⟨_,m',w',rfl,behind,rfl⟩
        · omega
        · exact ⟨m',w',behind,by omega,by omega,by omega,(regroup _ w').symm,small⟩

/-- What is decoded are the encodings that end by the end, have five continuation octets at most
    and stand for a number of 32 bits, with the number and the octets it takes; and nothing is read
    but octets in front of the end. -/
theorem decodeInt_exact (block : Mem) (off n «end» : Nat) (s : HpackState) :
    (∀ v used, h2HpackDecodeInt block off n «end» = .ok (v,used) ↔
      EncodesInt n (slice block off used) v ∧ off + used ≤ «end» ∧ used ≤ 6 ∧ v < 2^32) ∧
    (∀ e, h2HpackDecodeInt block off n «end» = .error e → e = .compression) ∧
    ∃ log, (∀ a ∈ log, a.write = false ∧ a.region = .block ∧ off ≤ a.off ∧ a.off + a.count ≤ «end») ∧
      Watched.h2HpackDecodeInt block off n «end» (s,[]) =
      noted log (pureStep (h2HpackDecodeInt block off n «end») s) := by
  refine ⟨?_,?_,(decodeInt_reads (fun i first inside => ⟨rfl,rfl,first,inside⟩) n).run⟩
  · intro v used
    have octet := (block off).toNat_lt
    have prefix_ := Nat.mod_le (block off).toNat (2^n)
    rw [h2HpackDecodeInt,encodesInt_slice]
    by_cases past : «end» ≤ off
    · rw [if_pos past]
      constructor
      · intro executed
        cases executed
      · rintro ⟨⟨_,rfl,_⟩ | ⟨_,m',_,rfl,_⟩,inside,_⟩ <;> omega
    rw [if_neg past]
    dsimp only
    by_cases small : (block off).toNat % 2^n < 2^n - 1
    · rw [if_pos small]
      constructor
      · intro executed
        cases executed
        exact ⟨.inl ⟨small,rfl,rfl⟩,by omega,by omega,by omega⟩
      · rintro ⟨⟨_,rfl,rfl⟩ | ⟨full,_⟩,_⟩
        · rfl
        · omega
    · have most := Nat.mod_lt (block off).toNat (Nat.two_pow_pos n)
      have full : (block off).toNat % 2^n = 2^n - 1 := by omega
      have looped := @intLoop_iff block off «end» 6 0 (2^n - 1) 1 v used rfl
      rw [if_neg small,full]
      refine looped.trans ⟨?_,?_⟩
      · rintro ⟨m,w,encoded,rfl,inside,few,rfl,bound⟩
        exact ⟨.inr ⟨rfl,m,w,by omega,encoded,by omega⟩,inside,by omega,bound⟩
      · rintro ⟨⟨short,_⟩ | ⟨_,m,w,rfl,encoded,rfl⟩,inside,few,bound⟩
        · omega
        · exact ⟨m,w,encoded,by omega,inside,by omega,by omega,bound⟩
  · intro e failed
    exact decodeInt_fails failed

/-- The longest encodings there are, of the largest number and of the smallest. -/
example : h2HpackDecodeInt (ofBytes [0x1f,0xe0,0xff,0xff,0xff,0x0f]) 0 5 6 = .ok (2^32 - 1,6) ∧
    h2HpackDecodeInt (ofBytes [0x1f,0x80,0x80,0x80,0x80,0x00]) 0 5 6 = .ok (31,6) := by
  decide +kernel

end Sarm.Hpack
