import Sarm.HpackBounds

/-!
Huffman strings both ways: the encoding of RFC 7541 section 5.2, and the decoder, which takes
exactly the code words of octets with a padding of ones behind them.
-/
namespace Sarm.Hpack
open Sarm.Memory Sarm.Watch Sarm.PrefixCode Sarm.Rfc7541

/-! ### The encoding -/

/-- The octets that hold a stream of bits, the last of them filled up with ones. -/
def octetsOf (l : List Bool) : List UInt8 :=
  (List.range ((l.length + 7) / 8)).map fun i =>
    UInt8.ofNat (number ((List.range 8).map fun k => l.getD (8 * i + k) true))

def huffmanEncode (text : List UInt8) : List UInt8 := octetsOf (text.flatMap word)

theorem bits_octet {l : List Bool} (whole : l.length = 8) : bits 8 (UInt8.ofNat (number l)).toNat = l := by
  have small := number_lt l
  have same := bits_number l
  rw [whole] at small same
  rwa [UInt8.toNat_ofNat_of_lt' small]

theorem range_octets (f : Nat → Bool) (n : Nat) :
    (List.range n).flatMap (fun i => (List.range 8).map fun k => f (8 * i + k)) = (List.range (8 * n)).map f := by
  induction n with
  | zero => rfl
  | succ n ih =>
    rw [List.range_succ (n := n),List.flatMap_append,ih,Nat.mul_succ,List.range_add,List.map_append,List.map_map,
      List.flatMap_singleton]
    rfl

theorem stream_octetsOf (l : List Bool) :
    stream (octetsOf l) = l ++ List.replicate (8 * ((l.length + 7) / 8) - l.length) true := by
  have octets : stream (octetsOf l) = (List.range (8 * ((l.length + 7) / 8))).map fun i => l.getD i true := by
    rw [← range_octets,stream,octetsOf,List.flatMap_map]
    congr 1
    funext i
    exact bits_octet (by rw [List.length_map,List.length_range])
  rw [octets]
  apply List.ext_getElem
  · rw [List.length_map,List.length_range,List.length_append,List.length_replicate]
    omega
  · intro i inside _
    rw [List.getElem_map,List.getElem_range,List.getElem_append]
    split
    next here => rw [List.getD_eq_getElem _ _ here]
    next behind => rw [List.getD_eq_default _ _ (Nat.not_lt.mp behind),List.getElem_replicate]

theorem huffmanEncode_spells (text : List UInt8) : Spells (huffmanEncode text) text :=
  ⟨_,by omega,stream_octetsOf _⟩

/-! ### What is left when the bits are at an end -/

theorem huffLimit_grows (len d : Nat) : huffLimit len * 2^d ≤ huffLimit (len + d) := by
  induction d with
  | zero => rw [Nat.pow_zero,Nat.mul_one]; exact le_rfl
  | succ d ih =>
    rw [← Nat.add_assoc,huffLimit,Nat.pow_succ,← Nat.mul_assoc]
    omega

private theorem words_below : ∀ entry ∈ huffmanCode, entry.1 < huffLimit entry.2 := by
  decide +kernel

/-- No code word begins what has been read behind the last one. -/
theorem Huff.Open.incomplete {h : Huff} (now : h.Open) : Incomplete word (bits h.len h.code) := by
  intro a begins
  have entry := code_entry a.toNat_lt
  obtain ⟨shorter,quotient⟩ := quotient_of_prefix (code_sound _ entry).1 begins now.most
  have below := words_below _ entry
  have grows := huffLimit_grows (huffmanCode.getD a.toNat (0,0)).2 (h.len - (huffmanCode.getD a.toNat (0,0)).2)
  rw [Nat.add_sub_of_le shorter] at grows
  have least := (Nat.le_div_iff_mul_le (Nat.two_pow_pos _)).mpr (grows.trans now.least)
  omega

/-- A bit is taken, or the bits so far end with EOS or with an octet the buffer has no room for. -/
theorem huffBit_cases {src : Mem} {off pos : Nat} {h : Huff} (now : h.Open) (spelled : SpelledUpTo src off pos h)
    (room : off + h.count ≤ strBufSize) :
    (∃ h', huffBit src off pos h = .ok h' ∧ h'.Open ∧ SpelledUpTo src off (pos + 1) h' ∧ off + h'.count ≤ strBufSize) ∨
      ∃ (text : List UInt8) (behind : List Bool), bitsUpTo src (pos + 1) = text.flatMap word ++ behind ∧
        (behind = List.replicate 30 true ∨ ∃ a, behind = word a ∧ off + text.length = strBufSize) := by
  have binary : bitAt src pos < 2 := Nat.mod_lt _ (by decide)
  have extended : bitsUpTo src (pos + 1) =
      (slice h.buf off h.count).flatMap word ++ bits (h.len + 1) (2 * h.code + bitAt src pos) := by
    rw [bitsUpTo_succ,spelled,bits_snoc _ _ _ binary,List.append_assoc]
  cases read : huffBit src off pos h with
  | ok h' =>
    have spelled' := huffBit_spells spelled read
    rw [huffBit] at read
    cases found : huffScan (2 * h.code + bitAt src pos) (h.len + 1) with
    | none =>
      rw [found] at read
      cases read
      exact .inl ⟨_,rfl,now.next binary found,spelled',room⟩
    | some symbol =>
      rw [found] at read
      dsimp only at read
      split at read
      · cases read
      split at read
      · cases read
      · cases read
        exact .inl ⟨_,rfl,Huff.open_empty _ _,spelled',by dsimp only; omega⟩
  | error h' =>
    refine .inr ⟨_,_,extended,?_⟩
    rw [huffBit] at read
    cases found : huffScan (2 * h.code + bitAt src pos) (h.len + 1) with
    | none => rw [found] at read; cases read
    | some symbol =>
      rw [found] at read
      dsimp only at read
      by_cases eos : symbol = 256
      · exact .inl (huffScan_eos (eos ▸ found))
      rw [if_neg eos] at read
      split at read
      next full => exact .inr ⟨_,(huffScan_word found eos).2.symm,by rw [slice_length]; omega⟩
      next => cases read

/-- The same of a run of bits. -/
theorem huffBits_cases {src : Mem} {off : Nat} : ∀ (left pos : Nat) (h : Huff), h.Open → SpelledUpTo src off pos h →
    off + h.count ≤ strBufSize →
      (∃ h', huffBits src off left pos h = .ok h' ∧ h'.Open ∧ SpelledUpTo src off (pos + left) h' ∧
    off + h'.count ≤ strBufSize) ∨
        ∃ (text : List UInt8) (behind : List Bool), text.flatMap word ++ behind <+: bitsUpTo src (pos + left) ∧
          (behind = List.replicate 30 true ∨ ∃ a, behind = word a ∧ off + text.length = strBufSize) := by
  intro left
  induction left with
  | zero => intro pos h now spelled room; exact .inl ⟨h,rfl,now,spelled,room⟩
  | succ left ih =>
    intro pos h now spelled room
    rw [huffBits,show pos + (left + 1) = pos + 1 + left by omega]
    rcases huffBit_cases now spelled room with ⟨h',read,now',spelled',room'⟩ | ⟨text,behind,stopped,why⟩
    · rw [read]
      exact ih (pos + 1) h' now' spelled' room'
    · refine .inr ⟨text,behind,?_,why⟩
      rw [← stopped,bitsUpTo,bitsUpTo,@List.range_add (pos + 1),List.map_append]
      exact List.prefix_append _ _

/-- Thirty ones begin no string. -/
theorem eos_unspelled (text : List UInt8) {n : Nat} (few : n < 8) :
    ¬ List.replicate 30 true <+: text.flatMap word ++ List.replicate n true := by
  intro begins
  cases text with
  | nil =>
    have length := begins.length_le
    rw [List.flatMap_nil,List.nil_append,List.length_replicate,List.length_replicate] at length
    omega
  | cons a text =>
    rw [List.flatMap_cons,List.append_assoc] at begins
    rcases List.prefix_or_prefix_of_prefix begins (List.prefix_append (word a) _) with shorter | longer
    · have same := shorter.eq_of_length_le (by rw [List.length_replicate]; exact word_length a)
      exact ones_incomplete 30 a (same ▸ List.prefix_rfl)
    · exact ones_incomplete 30 a longer

/-! ### What is decoded -/

/-- A string in its place is decoded to what it spells, if the buffer has room. -/
theorem huffmanDecode_spelled {block : Mem} {off count «end» : Nat} {s : HpackState} {text : List UInt8}
    (spells : Spells (slice block off count) text) (inside : off + count ≤ «end»)
    (fits : s.strOff + text.length ≤ strBufSize) :
    ∃ s', h2HuffmanDecode block off count «end» s = .ok (.strBuf s.strOff,text.length) s' ∧
      slice s'.strBuf s.strOff text.length = text := by
  obtain ⟨n,few,given⟩ := spells
  rw [← Nat.add_zero off,← slice_shift,stream_slice] at given
  rw [h2HuffmanDecode,if_pos (show ckrange off count «end» = true from decide_eq_true inside)]
  have start : s.strOff + 0 ≤ strBufSize := (Nat.le_add_right _ _).trans fits
  rcases @huffBits_cases (shift block off) s.strOff (8 * count) 0 ⟨s.strBuf,0,0,0⟩ (Huff.open_empty _ _)
    (by rfl) start with
    ⟨h,ran,now,spelled,_⟩ | ⟨spelled,behind,begins,why⟩
  · rw [Nat.zero_add,SpelledUpTo,given] at spelled
    have same := spelled_once word word_prefixFree (ones_incomplete n) now.incomplete _ _ spelled
    rw [← same] at spelled
    have padding := (List.append_cancel_left spelled).symm
    have length : h.len = n := by simpa using congrArg List.length padding
    subst length
    have ones : h.code = 2^h.len - 1 :=
      bits_injective h.len now.most (Nat.sub_lt (Nat.two_pow_pos _) Nat.one_pos) (padding.trans (bits_ones _).symm)
    have accepted : huffPadding h = true := by
      rw [huffPadding,Bool.and_eq_true,Bool.or_eq_true]
      exact ⟨decide_eq_true (by omega),.inr (decide_eq_true ones)⟩
    have long : h.count = text.length := by rw [same,slice_length]
    rw [ran]
    dsimp only
    rw [if_pos accepted,long]
    refine ⟨_,rfl,?_⟩
    dsimp only
    rw [← long]
    exact same.symm
  · rw [Nat.zero_add,given] at begins
    obtain ⟨rest,split,begins'⟩ := spelled_prefix word word_prefixFree (ones_incomplete n) _ _ _ begins
    rcases why with rfl | ⟨a,rfl,full⟩
    · exact absurd begins' (eos_unspelled rest few)
    · cases rest with
      | nil => exact absurd begins' (ones_incomplete n a)
      | cons b rest =>
        rw [split,List.length_append,List.length_cons] at fits
        omega

/-- What is decoded has been spelled, and fits. -/
theorem huffmanDecode_accepts {block : Mem} {off count «end» : Nat} {s s' : HpackState} {r : Ptr × Nat}
    (room : s.strOff ≤ strBufSize)
    (executed : h2HuffmanDecode block off count «end» s = .ok r s') :
    off + count ≤ «end» ∧ ∃ text, Spells (slice block off count) text ∧ s.strOff + text.length ≤ strBufSize := by
  obtain ⟨p,n⟩ := r
  obtain ⟨inside,rfl,spells⟩ := huffmanDecode_spells executed
  have does : Does _ _ (Watched.h2HuffmanDecode block off count «end») _ s := huffmanDecode_does room
  refine ⟨inside,_,spells,?_⟩
  rw [slice_length]
  exact (does.post _ _ executed).2

/-- The encoding of a string is decoded to the string, if the buffer has room; what is taken is code
    words of octets with less than an octet of ones behind them; and every access, to the tables too, is
    inside its region. -/
theorem huffmanDecode_exact (block : Mem) (off count «end» : Nat) (s : HpackState) (room : s.strOff ≤ strBufSize) :
    (∀ text, slice block off count = huffmanEncode text → off + count ≤ «end» → s.strOff + text.length ≤ strBufSize →
      ∃ s', h2HuffmanDecode block off count «end» s = .ok (.strBuf s.strOff,text.length) s' ∧
        slice s'.strBuf s.strOff text.length = text) ∧
    ((∃ r s', h2HuffmanDecode block off count «end» s = .ok r s') ↔
      off + count ≤ «end» ∧ ∃ text, Spells (slice block off count) text ∧ s.strOff + text.length ≤ strBufSize) ∧
    ∃ log, (∀ a ∈ log, a.Inside «end») ∧
      Watched.h2HuffmanDecode block off count «end» (s,[]) = noted log (h2HuffmanDecode block off count «end» s) := by
  refine ⟨?_,⟨?_,?_⟩,(huffmanDecode_does room).run⟩
  · intro text encoded inside fits
    exact huffmanDecode_spelled (encoded ▸ huffmanEncode_spells text) inside fits
  · rintro ⟨r,s',executed⟩
    exact huffmanDecode_accepts room executed
  · rintro ⟨inside,text,spells,fits⟩
    obtain ⟨s',executed,_⟩ := huffmanDecode_spelled spells inside fits
    exact ⟨_,s',executed⟩

/-- The first of the examples in appendix C. -/
theorem huffmanDecode_exact_example :
    ∃ s', h2HuffmanDecode (ofBytes (huffmanEncode (ascii "www.example.com"))) 0 12 12 .fresh =
      .ok (.strBuf 0,15) s' ∧ slice s'.strBuf 0 15 = ascii "www.example.com" :=
  (huffmanDecode_exact (ofBytes (huffmanEncode (ascii "www.example.com"))) 0 12 12 .fresh (Nat.zero_le _)).1
    (ascii "www.example.com") (by decide +kernel) le_rfl (by decide +kernel)

end Sarm.Hpack
