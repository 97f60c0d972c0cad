import Sarm.Hkdf
import Sarm.Octets

/-!
DER for signatures: what the encoder writes is the sequence of two integers, each with as few
octets as it can have, and a reader of DER has them back.
-/
namespace Sarm.Der
open Sarm.Memory Sarm.Octets
open Sarm.Hkdf (memcpy_slice memcpy_changes store_changes)

/-! ### The encoding -/

/-- Octets without the zeros in front; a zero alone stays. -/
def stripped : List UInt8 → List UInt8
  | [] => []
  | [octet] => [octet]
  | octet :: next :: rest => if octet = 0 then stripped (next :: rest) else octet :: next :: rest

/-- Octets whose highest bit is set are those of a negative number. -/
def Negative : List UInt8 → Prop
  | [] => False
  | octet :: _ => octet &&& 0x80 ≠ 0

instance (l : List UInt8) : Decidable (Negative l) := by
  cases l <;> unfold Negative <;> infer_instance

/-- The octets of a number that is not negative. -/
def content (octets : List UInt8) : List UInt8 :=
  if Negative (stripped octets) then 0 :: stripped octets else stripped octets

/-- A tag, a length of one octet, and that many octets. -/
def element (tag : UInt8) (octets : List UInt8) : List UInt8 := tag :: UInt8.ofNat octets.length :: octets

def integer (octets : List UInt8) : List UInt8 := element 2 (content octets)

/-- A signature of two integers. -/
def signature (r s : List UInt8) : List UInt8 := element 0x30 (integer r ++ integer s)

/-! ### Reading it -/

/-- An element and what follows it. Only a length below 128 has one octet. -/
def readElement (tag : UInt8) : List UInt8 → Option (List UInt8 × List UInt8)
  | first :: length :: rest =>
    if first = tag ∧ length < 128 ∧
      length.toNat ≤ rest.length then some (rest.take length.toNat,rest.drop length.toNat) else none
  | _ => none

/-- A number that is not negative, in as few octets as it can have. -/
def Minimal : List UInt8 → Prop
  | [] => False
  | [octet] => octet &&& 0x80 = 0
  | octet :: next :: _ => octet &&& 0x80 = 0 ∧ (octet = 0 → next &&& 0x80 ≠ 0)

instance (l : List UInt8) : Decidable (Minimal l) := by
  rcases l with _ | ⟨_,_ | _⟩ <;> unfold Minimal <;> infer_instance

def readInteger (l : List UInt8) : Option (Nat × List UInt8) :=
  (readElement 2 l).bind fun (octets,rest) => if Minimal octets then some (value octets,rest) else none

/-- The two integers of a signature and nothing else. -/
def readSignature (l : List UInt8) : Option (Nat × Nat) :=
  match readElement 0x30 l with
  | some (body,[]) => (readInteger body).bind fun (r,rest) =>
      match readInteger rest with
      | some (s,[]) => some (r,s)
      | _ => none
  | _ => none

theorem stripped_length (l : List UInt8) : (stripped l).length ≤ l.length := by
  fun_induction stripped l with
  | case1 => simp
  | case2 => simp
  | case3 next rest ih => exact Nat.le_succ_of_le ih
  | case4 => simp

theorem stripped_value (l : List UInt8) : value (stripped l) = value l := by
  fun_induction stripped l with
  | case1 => rfl
  | case2 => rfl
  | case3 next rest ih =>
    rw [ih]
    exact (value_zeros 1 (next :: rest)).symm
  | case4 => rfl

/-- What is left begins with a zero only if it is zero. -/
theorem content_minimal (l : List UInt8) (full : l ≠ []) : Minimal (content l) := by
  rw [content]
  fun_induction stripped l with
  | case1 => exact absurd rfl full
  | case2 octet =>
    split
    · next negative => exact ⟨by decide,fun _ => negative⟩
    · next positive => exact not_not.mp positive
  | case3 next rest ih => exact ih (List.cons_ne_nil _ _)
  | case4 octet next rest nonzero =>
    split
    · next negative => exact ⟨by decide,fun _ => negative⟩
    · next positive => exact ⟨not_not.mp positive,fun zero => absurd zero nonzero⟩

theorem content_value (l : List UInt8) : value (content l) = value l := by
  rw [content]
  split
  · rw [value_cons,stripped_value]
    simp
  · exact stripped_value l

theorem content_length (l : List UInt8) : (content l).length ≤ l.length + 1 := by
  have short := stripped_length l
  rw [content]
  split
  · exact Nat.succ_le_succ short
  · exact Nat.le_succ_of_le short

theorem readElement_element (tag : UInt8) {octets : List UInt8} (short : octets.length < 128) (rest : List UInt8) :
    readElement tag (element tag octets ++ rest) = some (octets,rest) := by
  have small : (UInt8.ofNat octets.length).toNat = octets.length := by
    rw [UInt8.toNat_ofNat']
    exact Nat.mod_eq_of_lt (by omega)
  have short' : UInt8.ofNat octets.length < 128 := by
    rw [UInt8.lt_iff_toNat_lt,small]
    exact short
  rw [element,List.cons_append,List.cons_append,readElement,small,if_pos ⟨rfl,short',by simp⟩]
  simp

theorem readInteger_integer {octets : List UInt8} (full : octets ≠ []) (short : octets.length < 127) (rest : List UInt8) :
    readInteger (integer octets ++ rest) = some (value octets,rest) := by
  have length := content_length octets
  rw [readInteger,integer,readElement_element 2 (by omega),Option.bind_some]
  dsimp only
  rw [if_pos (content_minimal octets full),content_value]

theorem integer_length (octets : List UInt8) : (integer octets).length = (content octets).length + 2 := rfl

theorem readSignature_signature {r s : List UInt8} (fullR : r ≠ []) (fullS : s ≠ [])
    (short : r.length + s.length + 6 < 128) :
    readSignature (signature r s) = some (value r,value s) := by
  have lengthR := content_length r
  have lengthS := content_length s
  have whole : (integer r ++ integer s).length < 128 := by
    rw [List.length_append,integer_length,integer_length]
    omega
  have outer := readElement_element 0x30 whole []
  have first := readInteger_integer fullR (by omega) (integer s)
  have second := readInteger_integer fullS (by omega) []
  rw [List.append_nil] at outer second
  rw [readSignature,signature,outer]
  dsimp only
  rw [first,Option.bind_some]
  dsimp only
  rw [second]

/-! ### The code -/

/-- `.Lder_skip_zero`, with `n` octets to go before the last: the first octet that is not zero, or the last. -/
def derSkipZero (m : Mem) (x1 : Nat) : Nat → Nat → Nat
  | 0,x2 => x2
  | n+1,x2 => if m (x1+x2) = 0 then derSkipZero m x1 n (x2+1) else x2

/-- `.Lder_enc_int`: the memory and the number of bytes written. -/
def derEncInt (m : Mem) (x0 x1 : Nat) : Mem × Nat :=
  let x2 := derSkipZero m x1 31 0
  let x4 := 32 - x2
  if m (x1+x2) &&& 0x80 = 0 then
    let m := store (store m x0 2) (x0+1) (UInt8.ofNat x4)
    (copyBlocks 1 x4 m (x0+2) (x1+x2),x4+2)
  else
    let x5 := x4 + 1
    let m := store (store (store m x0 2) (x0+1) (UInt8.ofNat x5)) (x0+2) 0
    (copyBlocks 1 x4 m (x0+3) (x1+x2),x5+2)

def p256_ecdsa_der_sig_encode (m : Mem) (out r s : Nat) : Mem × Nat :=
  let (m,first) := derEncInt m (out+2) r
  let (m,second) := derEncInt m (out+2+first) s
  let length := first + second
  (store (store m out 0x30) (out+1) (UInt8.ofNat length),length+2)

/-! ### The code writes the encoding -/

/-- The loop goes to where the zeros in front end. -/
theorem derSkipZero_stripped (m : Mem) (x1 n x2 : Nat) : derSkipZero m x1 n x2 ≤ x2 + n ∧
    slice m (x1 + derSkipZero m x1 n x2) (x2+n+1 - derSkipZero m x1 n x2) = stripped (slice m (x1+x2) (n+1)) := by
  induction n generalizing x2 with
  | zero =>
    refine ⟨Nat.le_refl _,?_⟩
    rw [derSkipZero,show x2+0+1-x2 = 1 by omega]
    rfl
  | succ n ih =>
    rw [derSkipZero,slice_succ m (x1+x2),slice_succ m (x1+x2+1),stripped]
    split
    · obtain ⟨bound,same⟩ := ih (x2+1)
      rw [slice_succ] at same
      refine ⟨by omega,?_⟩
      rw [show x2+(n+1)+1 = x2+1+n+1 by omega]
      exact same
    · refine ⟨by omega,?_⟩
      rw [show x2+(n+1)+1-x2 = n+1+1 by omega,slice_succ,slice_succ]

theorem store_outside (m : Mem) {a i n : Nat} (octet : UInt8) (out : a < i ∨ i + n ≤ a) :
    slice (store m a octet) i n = slice m i n :=
  slice_congr fun j inside => store_other m octet (by omega)

/-- Octets copied behind a header that has been written. -/
theorem behind_header {m m1 : Mem} {x0 h src n : Nat} (header : ChangesOnly [(x0,h)] m m1)
    (clear : Clear x0 (h+n) src n) :
    slice (copyBlocks 1 n m1 (x0+h) src) x0 (h+n) = slice m1 x0 h ++ slice m src n ∧
      ChangesOnly [(x0,h+n)] m (copyBlocks 1 n m1 (x0+h) src) := by
  unfold Clear at clear
  have changes := memcpy_changes m1 n (x0+h) src
  constructor
  · have unread : slice m1 src n = slice m src n := header.slice (by simp; omega)
    rw [slice_add,memcpy_slice (by omega),unread,changes.slice (by simp)]
  · exact (header.mono (by simp)).trans (changes.mono (by simp; omega))

theorem store_header (m : Mem) (x0 : Nat) (tag length : UInt8) :
    slice (store (store m x0 tag) (x0+1) length) x0 2 = [tag,length] ∧
    ChangesOnly [(x0,2)] m (store (store m x0 tag) (x0+1) length) := by
  constructor
  · simp [slice_succ,store]
  · exact ((store_changes m x0 tag).mono (by simp)).trans ((store_changes _ (x0+1) length).mono (by simp))

theorem derEncInt_integer {m : Mem} {x0 x1 : Nat} (clear : Clear x0 35 x1 32) :
    slice (derEncInt m x0 x1).1 x0 (derEncInt m x0 x1).2 = integer (slice m x1 32) ∧
      ChangesOnly [(x0,(derEncInt m x0 x1).2)] m (derEncInt m x0 x1).1 := by
  obtain ⟨bound,left⟩ := derSkipZero_stripped m x1 31 0
  rw [Nat.zero_add] at bound
  simp only [Nat.zero_add,Nat.add_zero] at left
  rw [derEncInt]
  generalize derSkipZero m x1 31 0 = x2 at bound left ⊢
  dsimp only
  -- The octets that are left, the first of which says if the number would be negative.
  obtain ⟨n,rest⟩ := Nat.exists_eq_add_of_le bound
  have count : 32 - x2 = n + 1 := by omega
  have octets : content (slice m x1 32) =
      if m (x1+x2) &&& 0x80 = 0 then slice m (x1+x2) (n+1) else 0 :: slice m (x1+x2) (n+1) := by
    rw [content,← left,count,slice_succ]
    by_cases positive : m (x1+x2) &&& 0x80 = 0
    · rw [if_pos positive]
      exact if_neg (not_not.mpr positive)
    · rw [if_neg positive]
      exact if_pos positive
  rw [integer,element,octets,count]
  unfold Clear at clear
  split
  · obtain ⟨header,changes⟩ := store_header m x0 2 (UInt8.ofNat (n+1))
    obtain ⟨written,changes⟩ := @behind_header _ _ _ _ (x1+x2) (n+1) changes (by unfold Clear; omega)
    rw [Nat.add_comm 2,header] at written
    rw [slice_length]
    exact ⟨written,Nat.add_comm 2 (n+1) ▸ changes⟩
  · obtain ⟨header,changes⟩ := store_header m x0 2 (UInt8.ofNat (n+1+1))
    generalize store (store m x0 2) (x0+1) (UInt8.ofNat (n+1+1)) = m1 at header changes ⊢
    have padded : ChangesOnly [(x0,3)] m (store m1 (x0+2) 0) :=
      (changes.mono (by simp)).trans ((store_changes m1 (x0+2) 0).mono (by simp))
    have header : slice (store m1 (x0+2) 0) x0 3 = [2,UInt8.ofNat (n+1+1),0] := by
      rw [slice_add _ x0 2 1,store_outside m1 0 (by omega),header,slice_succ,store_same]
      rfl
    obtain ⟨written,changes⟩ := @behind_header _ _ _ _ (x1+x2) (n+1) padded (by unfold Clear; omega)
    have length : 3 + (n+1) = n+1+1+2 := by omega
    rw [header,length] at written
    rw [List.length_cons,slice_length]
    exact ⟨written,length ▸ changes⟩

/-- What the encoder writes is the signature of the two integers, and it returns how long that is. -/
theorem der_sig_encode_signature {m : Mem} {out r s : Nat} (clearR : Clear out 72 r 32) (clearS : Clear out 72 s 32) :
    slice (p256_ecdsa_der_sig_encode m out r s).1 out (p256_ecdsa_der_sig_encode m out r s).2 =
        signature (slice m r 32) (slice m s 32) ∧
      ChangesOnly [(out,(p256_ecdsa_der_sig_encode m out r s).2)] m (p256_ecdsa_der_sig_encode m out r s).1 := by
  unfold Clear at clearR clearS
  have lengthR := content_length (slice m r 32)
  have lengthS := content_length (slice m s 32)
  rw [slice_length] at lengthR lengthS
  obtain ⟨first,changes⟩ := @derEncInt_integer m (out+2) r (by unfold Clear; omega)
  rw [p256_ecdsa_der_sig_encode]
  generalize derEncInt m (out+2) r = write at first changes ⊢
  obtain ⟨m1,a⟩ := write
  dsimp only at first changes ⊢
  have countA := congrArg List.length first
  rw [slice_length,integer_length] at countA
  have unread : slice m1 s 32 = slice m s 32 := changes.slice (by simp; omega)
  obtain ⟨second,changes'⟩ := @derEncInt_integer m1 (out+2+a) s (by unfold Clear; omega)
  rw [unread] at second
  generalize derEncInt m1 (out+2+a) s = write at second changes' ⊢
  obtain ⟨m2,b⟩ := write
  dsimp only at second changes' ⊢
  have countB := congrArg List.length second
  rw [slice_length,integer_length] at countB
  obtain ⟨header,changes''⟩ := store_header m2 out 0x30 (UInt8.ofNat (a+b))
  constructor
  · have total : a + b = (integer (slice m r 32) ++ integer (slice m s 32)).length := by
      rw [List.length_append,integer_length,integer_length]
      omega
    rw [Nat.add_comm (a+b),slice_add,header,signature,element,← total,slice_add,changes''.slice (by simp),
      changes''.slice (by simp),changes'.slice (by simp),first,second]
    rfl
  · exact ((changes.mono (by simp; omega)).trans (changes'.mono (by simp; omega))).trans (changes''.mono (by simp))

/-- What the encoder leaves: at most 72 octets, those it says it has written and no others, which a
    reader of DER takes for the two integers; so other integers have other octets. -/
theorem der_sig_encode_decodes {m : Mem} {out r s : Nat} (clearR : Clear out 72 r 32) (clearS : Clear out 72 s 32) :
    let (m',n) := p256_ecdsa_der_sig_encode m out r s
    n ≤ 72 ∧ ChangesOnly [(out,n)] m m' ∧ slice m' out n = signature (slice m r 32) (slice m s 32) ∧
      readSignature (slice m' out n) = some (value (slice m r 32),value (slice m s 32)) ∧
      ∀ {k : Mem} {out' r' s' : Nat}, Clear out' 72 r' 32 → Clear out' 72 s' 32 →
        let (k',n') := p256_ecdsa_der_sig_encode k out' r' s'
        slice k' out' n' = slice m' out n →
          value (slice k r' 32) = value (slice m r 32) ∧ value (slice k s' 32) = value (slice m s 32) := by
  have reads : ∀ (m : Mem) (r s : Nat), readSignature (signature (slice m r 32) (slice m s 32)) =
      some (value (slice m r 32),value (slice m s 32)) := by
    intro m r s
    exact readSignature_signature (List.cons_ne_nil _ _) (List.cons_ne_nil _ _) (by simp)
  obtain ⟨written,changes⟩ := der_sig_encode_signature clearR clearS
  generalize p256_ecdsa_der_sig_encode m out r s = result at written changes ⊢
  obtain ⟨m',n⟩ := result
  dsimp only at written changes ⊢
  refine ⟨?_,changes,written,written ▸ reads m r s,?_⟩
  · have count := congrArg List.length written
    have lengthR := content_length (slice m r 32)
    have lengthS := content_length (slice m s 32)
    rw [slice_length] at lengthR lengthS count
    rw [count,signature,element,List.length_cons,List.length_cons,List.length_append,integer_length,integer_length]
    omega
  · intro k out' r' s' clearR' clearS' same
    have equal := reads k r' s'
    rw [← (der_sig_encode_signature clearR' clearS').1] at equal
    rw [same,written,reads,Option.some.injEq,Prod.mk.injEq] at equal
    exact ⟨equal.1.symm,equal.2.symm⟩

/-- One with a zero in front of a high bit, and one with zeros to strip. -/
theorem der_sig_encode_decodes_short :
    let m := ofBytes (List.replicate 31 0 ++ 0x80 :: List.replicate 32 0)
    readSignature (slice (p256_ecdsa_der_sig_encode m 64 0 32).1 64 (p256_ecdsa_der_sig_encode m 64 0 32).2) = some
      (128,0) := by
  have spec := @der_sig_encode_decodes (ofBytes (List.replicate 31 0 ++ 0x80 :: List.replicate 32 0)) 64 0 32
    (.inl (by decide)) (.inl (by decide))
  have integers : value (slice (ofBytes (List.replicate 31 0 ++ 0x80 :: List.replicate 32 0)) 0 32) = 128 ∧
      value (slice (ofBytes (List.replicate 31 0 ++ 0x80 :: List.replicate 32 0)) 32 32) = 0 := by decide +kernel
  rw [integers.1,integers.2] at spec
  exact spec.2.2.2.1

end Sarm.Der
