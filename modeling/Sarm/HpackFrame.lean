import Sarm.HpackDecode

/-!
What a decoding step leaves alone. Reading a representation never touches the
dynamic table and only appends to the Huffman output; every pointer it returns
into the output lies below the new write offset.
-/
namespace Sarm.Hpack
open Sarm.Memory

section Steps
variable {α β : Type}

theorem bind_ok {x : HpackM α} {f : α → HpackM β} {s s' : HpackState} {b : β}
    (executed : (x >>= f) s = .ok b s') : ∃ a s1, x s = .ok a s1 ∧ f a s1 = .ok b s' := by
  cases first : x s with
  | ok a s1 =>
    refine ⟨a,s1,rfl,?_⟩
    have whole : (x >>= f) s = f a s1 := by
      show EStateM.bind x f s = _
      rw [EStateM.bind,first]
    rw [← whole]
    exact executed
  | error e s1 =>
    have whole : (x >>= f) s = .error e s1 := by
      show EStateM.bind x f s = _
      rw [EStateM.bind,first]
    rw [whole] at executed
    contradiction

theorem pureStep_ok {x : Except HpackError α} {s s' : HpackState} {a : α} (executed : pureStep x s = .ok a s') :
    x = .ok a ∧ s' = s := by
  cases x with
  | ok b =>
    rw [pureStep] at executed
    cases executed
    exact ⟨rfl,rfl⟩
  | error e => rw [pureStep] at executed; contradiction

theorem pure_ok {a b : α} {s s' : HpackState} (executed : (pure a : HpackM α) s = .ok b s') : b = a ∧ s' = s := by
  cases executed
  exact ⟨rfl,rfl⟩

theorem throw_ok {e : HpackError} {a : α} {s s' : HpackState} (executed : (throw e : HpackM α) s = .ok a s') : False := by
  cases executed

end Steps

/-- The dynamic table is the same and the Huffman output has at most grown. -/
structure Appends (s s' : HpackState) : Prop where
  dyn : s'.dyn = s.dyn
  grows : s.strOff ≤ s'.strOff
  kept : ∀ i < s.strOff, s'.strBuf i = s.strBuf i

theorem Appends.refl (s : HpackState) : Appends s s := ⟨rfl,Nat.le_refl _,fun _ _ => rfl⟩

theorem Appends.trans {s s1 s2 : HpackState} (first : Appends s s1) (second : Appends s1 s2) : Appends s s2 :=
  ⟨second.dyn.trans first.dyn,Nat.le_trans first.grows second.grows,fun i inside => by
    rw [second.kept i (Nat.lt_of_lt_of_le inside first.grows),first.kept i inside]⟩

/-- A run of Huffman output that has been written. -/
def Written (s : HpackState) (p : Ptr) (n : Nat) : Prop := ∀ off, p = .strBuf off → off + n ≤ s.strOff

theorem Written.later {s s' : HpackState} {p : Ptr} {n : Nat} (written : Written s p n) (next : Appends s s') :
    Written s' p n := fun off at_ => Nat.le_trans (written off at_) next.grows

/-- Both strings of a field that lie in the Huffman output have been written. -/
def FieldRef.Written (s : HpackState) (f : FieldRef) : Prop :=
  Hpack.Written s f.name f.nameLen ∧ Hpack.Written s f.value f.valueLen

/-! ### Strings -/

theorem huffBit_kept {src : Mem} {off pos : Nat} {h h' : Huff} (executed : huffBit src off pos h = .ok h') :
    ∀ i < off, h'.buf i = h.buf i := by
  intro i inside
  unfold huffBit at executed
  simp only at executed
  split at executed
  · cases executed; rfl
  · split at executed
    · contradiction
    · split at executed
      · contradiction
      · cases executed
        exact if_neg (by omega)

theorem huffBits_kept {src : Mem} {off : Nat} : ∀ (left pos : Nat) (h h' : Huff),
    huffBits src off left pos h = .ok h' → ∀ i < off, h'.buf i = h.buf i := by
  intro left
  induction left with
  | zero => intro pos h h' executed i _; cases executed; rfl
  | succ left ih =>
    intro pos h h' executed i inside
    rw [huffBits] at executed
    cases first : huffBit src off pos h with
    | error _ => rw [first] at executed; contradiction
    | ok h1 =>
      rw [first] at executed
      rw [ih (pos + 1) h1 h' executed i inside,huffBit_kept first i inside]

theorem huffmanDecode_appends {block : Mem} {off count «end» : Nat} {s s' : HpackState} {p : Ptr} {n : Nat}
    (executed : h2HuffmanDecode block off count «end» s = .ok (p,n) s') : Appends s s' ∧ Written s' p n := by
  unfold h2HuffmanDecode at executed
  split at executed
  · cases bits : huffBits (shift block off) s.strOff (8 * count) 0 ⟨s.strBuf,0,0,0⟩ with
    | error h => rw [bits] at executed; contradiction
    | ok h =>
      rw [bits] at executed
      simp only at executed
      split at executed
      · cases executed
        refine ⟨⟨rfl,Nat.le_add_right _ _,huffBits_kept _ _ _ _ bits⟩,?_⟩
        rintro off ⟨⟩
        exact Nat.le_refl _
      · contradiction
  · contradiction

theorem decodeString_appends {block : Mem} {off «end» : Nat} {s s' : HpackState} {p : Ptr} {n used : Nat}
    (executed : h2HpackDecodeString block off «end» s = .ok (p,n,used) s') : Appends s s' ∧ Written s' p n := by
  unfold h2HpackDecodeString at executed
  split at executed
  · exact (throw_ok executed).elim
  · obtain ⟨⟨length,prefixUsed⟩,s1,number,rest⟩ := bind_ok executed
    obtain ⟨_,rfl⟩ := pureStep_ok number
    simp only at rest
    split at rest
    · split at rest
      · obtain ⟨⟨decoded,decodedLen⟩,s2,expanded,last⟩ := bind_ok rest
        obtain ⟨equal,rfl⟩ := pure_ok last
        cases equal
        exact huffmanDecode_appends expanded
      · obtain ⟨equal,rfl⟩ := pure_ok rest
        cases equal
        refine ⟨Appends.refl _,?_⟩
        rintro off ⟨⟩
    · exact (throw_ok rest).elim

/-! ### Representations -/

theorem tableLookup_unwritten {t : DynTable} {index : Nat} {f : FieldRef} (s : HpackState)
    (found : h2HpackTableLookup t index = .ok f) : f.Written s := by
  unfold h2HpackTableLookup at found
  split at found
  · split at found
    · contradiction
    · cases found
      exact ⟨by rintro off ⟨⟩,by rintro off ⟨⟩⟩
  · unfold h2HpackStaticLookup at found
    split at found
    · contradiction
    · cases found
      exact ⟨by rintro off ⟨⟩,by rintro off ⟨⟩⟩

theorem literalName_appends {block : Mem} {off n «end» : Nat} {s s' : HpackState} {p : Ptr} {len start : Nat}
    (executed : literalName block off n «end» s = .ok (p,len,start) s') : Appends s s' ∧ Written s' p len := by
  unfold literalName at executed
  obtain ⟨⟨index,used⟩,s1,number,rest⟩ := bind_ok executed
  obtain ⟨_,rfl⟩ := pureStep_ok number
  simp only at rest
  split at rest
  · obtain ⟨⟨name,nameLen,nameUsed⟩,s2,string,last⟩ := bind_ok rest
    obtain ⟨equal,rfl⟩ := pure_ok last
    cases equal
    exact decodeString_appends string
  · obtain ⟨entry,s2,lookup,last⟩ := bind_ok rest
    obtain ⟨found,rfl⟩ := pureStep_ok lookup
    obtain ⟨equal,rfl⟩ := pure_ok last
    cases equal
    exact ⟨Appends.refl _,(tableLookup_unwritten _ found).1⟩

theorem literalField_appends {block : Mem} {off n «end» : Nat} {s s' : HpackState} {next : Nat} {f : FieldRef}
    (executed : literalField block off n «end» s = .ok (next,f) s') : Appends s s' ∧ f.Written s' := by
  unfold literalField at executed
  obtain ⟨⟨name,nameLen,start⟩,s1,named,rest⟩ := bind_ok executed
  obtain ⟨⟨value,valueLen,used⟩,s2,valued,last⟩ := bind_ok rest
  obtain ⟨equal,rfl⟩ := pure_ok last
  cases equal
  obtain ⟨first,nameWritten⟩ := literalName_appends named
  obtain ⟨second,valueWritten⟩ := decodeString_appends valued
  exact ⟨first.trans second,nameWritten.later second,valueWritten⟩

theorem representation_appends {block : Mem} {off «end» : Nat} {s s' : HpackState} {next : Nat} {r : Representation}
    (executed : representation block off «end» s = .ok (next,r) s') :
    Appends s s' ∧ ∀ f, r.field = some f → f.Written s' := by
  unfold representation at executed
  split at executed
  · exact (throw_ok executed).elim
  simp only at executed
  split at executed
  · obtain ⟨⟨index,used⟩,s1,number,rest⟩ := bind_ok executed
    obtain ⟨_,rfl⟩ := pureStep_ok number
    simp only at rest
    split at rest
    · exact (throw_ok rest).elim
    obtain ⟨entry,s2,lookup,last⟩ := bind_ok rest
    obtain ⟨found,rfl⟩ := pureStep_ok lookup
    obtain ⟨equal,rfl⟩ := pure_ok last
    cases equal
    refine ⟨Appends.refl _,?_⟩
    rintro f ⟨⟩
    exact tableLookup_unwritten _ found
  split at executed
  · obtain ⟨⟨after,field⟩,s1,read,last⟩ := bind_ok executed
    obtain ⟨equal,rfl⟩ := pure_ok last
    cases equal
    obtain ⟨appends,written⟩ := literalField_appends read
    exact ⟨appends,by rintro f ⟨⟩; exact written⟩
  split at executed
  · obtain ⟨⟨max,used⟩,s1,number,rest⟩ := bind_ok executed
    obtain ⟨_,rfl⟩ := pureStep_ok number
    simp only at rest
    split at rest
    · exact (throw_ok rest).elim
    obtain ⟨equal,rfl⟩ := pure_ok rest
    cases equal
    exact ⟨Appends.refl _,by rintro f ⟨⟩⟩
  · obtain ⟨⟨after,field⟩,s1,read,last⟩ := bind_ok executed
    obtain ⟨equal,rfl⟩ := pure_ok last
    cases equal
    obtain ⟨appends,written⟩ := literalField_appends read
    exact ⟨appends,by rintro f ⟨⟩; exact written⟩

end Sarm.Hpack
