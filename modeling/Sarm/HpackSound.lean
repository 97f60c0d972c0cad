import Sarm.HpackFields
import Sarm.Rfc7541

/-!
The server's decoder against the decoder of RFC 7541: what the server decodes, the
other decodes alike, octet for octet, from a dynamic table that represents its
queue. The converse fails where the server keeps its own limits.
-/
namespace Sarm.Hpack
open Sarm.Memory Sarm.Fifo Sarm.PrefixCode Sarm.Rfc7541

/-- The octets of the block from `off` on. -/
def octetsFrom (block : Mem) («end» off : Nat) : List UInt8 := slice block off («end» - off)

section Octets
variable {block : Mem} {«end» off : Nat}

theorem octetsFrom_nil (past : «end» ≤ off) : octetsFrom block «end» off = [] := by
  rw [octetsFrom,Nat.sub_eq_zero_of_le past,slice_zero]

theorem octetsFrom_cons (inside : off < «end») :
    octetsFrom block «end» off = block off :: octetsFrom block «end» (off + 1) := by
  have split : «end» - off = («end» - (off + 1)) + 1 := by omega
  rw [octetsFrom,octetsFrom,split,slice_succ]

theorem octetsFrom_drop {k : Nat} (fits : off + k ≤ «end») :
    (octetsFrom block «end» off).drop k = octetsFrom block «end» (off + k) := by
  have split : «end» - off = k + («end» - (off + k)) := by omega
  rw [octetsFrom,octetsFrom,split,slice_add]
  exact List.drop_left' (slice_length _ _ _)

theorem octetsFrom_take {k : Nat} (fits : off + k ≤ «end») :
    (octetsFrom block «end» off).take k = slice block off k := by
  have split : «end» - off = k + («end» - (off + k)) := by omega
  rw [octetsFrom,split,slice_add]
  exact List.take_left' (slice_length _ _ _)

theorem octetsFrom_head (inside : off < «end») : (octetsFrom block «end» off).headD 0 = block off := by
  rw [octetsFrom_cons inside]
  rfl

@[simp] theorem octetsFrom_length : (octetsFrom block «end» off).length = «end» - off := slice_length _ _ _

end Octets

/-! ### Integers -/

theorem intLoop_sound {block : Mem} {off «end» : Nat} : ∀ (fuel value consumed shift v used : Nat),
    intLoop block off «end» fuel value consumed shift = .ok (v,used) →
      consumed < used ∧ off + used ≤ «end» ∧
        intRest (octetsFrom block «end» (off + consumed)) shift value = some (v,octetsFrom block «end» (off + used)) := by
  intro fuel
  induction fuel with
  | zero => intro value consumed shift v used executed; cases executed
  | succ fuel ih =>
    intro value consumed shift v used executed
    rw [intLoop] at executed
    split at executed
    · contradiction
    next inside =>
    simp only at executed
    split at executed
    · contradiction
    split at executed
    · contradiction
    rw [octetsFrom_cons (by omega),intRest]
    split at executed
    · next last =>
      cases executed
      rw [if_pos last]
      exact ⟨by omega,by omega,rfl⟩
    · next more =>
      obtain ⟨longer,bound,tail⟩ := ih _ _ _ _ _ executed
      rw [if_neg more]
      exact ⟨by omega,bound,tail⟩

theorem decodeInt_sound {block : Mem} {off n «end» v used : Nat}
    (executed : h2HpackDecodeInt block off n «end» = .ok (v,used)) :
    0 < used ∧ off + used ≤ «end» ∧
      decodeInt n (octetsFrom block «end» off) = some (v,octetsFrom block «end» (off + used)) := by
  rw [h2HpackDecodeInt] at executed
  split at executed
  · contradiction
  next inside =>
  simp only at executed
  rw [octetsFrom_cons (by omega),decodeInt]
  split at executed
  · next short =>
    cases executed
    rw [if_pos short]
    exact ⟨by omega,by omega,rfl⟩
  · next long =>
    obtain ⟨longer,bound,tail⟩ := intLoop_sound _ _ _ _ _ _ executed
    rw [if_neg long]
    exact ⟨by omega,bound,tail⟩

/-! ### Huffman strings -/

/-- The first `pos` bits of a stream. -/
def bitsUpTo (src : Mem) (pos : Nat) : List Bool := (List.range pos).map fun i => decide (bitAt src i = 1)

theorem bitsUpTo_succ (src : Mem) (pos : Nat) :
    bitsUpTo src (pos + 1) = bitsUpTo src pos ++ [decide (bitAt src pos = 1)] := by
  simp [bitsUpTo,List.range_succ]

theorem bitAt_octet (src : Mem) (n : Nat) {k : Nat} (small : k < 8) :
    bitAt src (8 * n + k) = (src n).toNat / 2^(7 - k) % 2 := by
  have octet : (8 * n + k) / 8 = n := by omega
  have bit : (8 * n + k) % 8 = k := by omega
  rw [bitAt,octet,bit]

/-- Octet by octet or bit by bit, the stream is the same. -/
theorem stream_slice (src : Mem) (n : Nat) : stream (slice src 0 n) = bitsUpTo src (8 * n) := by
  induction n with
  | zero => rfl
  | succ n ih =>
    have bit := fun k small => bitAt_octet src n (k := k) small
    have base := bit 0 (by decide)
    rw [slice_add,stream,List.flatMap_append,← stream,ih,Nat.mul_succ]
    rw [bitsUpTo_succ,bitsUpTo_succ,bitsUpTo_succ,bitsUpTo_succ,bitsUpTo_succ,bitsUpTo_succ,bitsUpTo_succ,bitsUpTo_succ]
    rw [bit 7 (by decide),bit 6 (by decide),bit 5 (by decide),bit 4 (by decide),bit 3 (by decide),
      bit 2 (by decide),bit 1 (by decide)]
    rw [Nat.add_zero] at base
    rw [base]
    simp [slice_succ,bits,Nat.div_div_eq_div_mul]

private theorem scan_table : ∀ len < 32, ∀ entry ∈ (h2HuffmanTable.drop (h2HuffmanLenStart.getD len 0)).take
    (h2HuffmanLenStart.getD (len + 1) 0 - h2HuffmanLenStart.getD len 0),
      entry.2 ≤ 256 ∧ huffmanCode.getD entry.2 (0,0) = (entry.1,len) := by
  decide +kernel

/-- What a scan finds is the symbol with that code word. -/
theorem huffScan_word {code len symbol : Nat} (found : huffScan code len = some symbol) (string : symbol ≠ 256) :
    symbol < 256 ∧ word (UInt8.ofNat symbol) = bits len code := by
  unfold huffScan at found
  simp only at found
  by_cases short : len < 32
  · obtain ⟨entry,hit,rfl⟩ := Option.map_eq_some_iff.mp found
    obtain ⟨bound,listed⟩ := scan_table len short entry (List.mem_of_find?_eq_some hit)
    have same : entry.1 = code := by simpa using List.find?_some hit
    have small : entry.2 < 256 := by omega
    refine ⟨small,?_⟩
    rw [word,UInt8.toNat_ofNat_of_lt' small,listed,same]
  · have empty : h2HuffmanLenStart.getD (len + 1) 0 = 0 := by
      rw [List.getD_eq_default]
      show 32 ≤ len + 1
      omega
    rw [empty] at found
    simp at found

/-- EOS is thirty ones. -/
theorem huffScan_eos {code len : Nat} (found : huffScan code len = some 256) :
    bits len code = List.replicate 30 true := by
  unfold huffScan at found
  simp only at found
  by_cases short : len < 32
  · obtain ⟨entry,hit,eos⟩ := Option.map_eq_some_iff.mp found
    obtain ⟨_,listed⟩ := scan_table len short entry (List.mem_of_find?_eq_some hit)
    have same : entry.1 = code := by simpa using List.find?_some hit
    rw [eos,show huffmanCode.getD 256 (0,0) = (2^30 - 1,30) by decide +kernel,same] at listed
    obtain ⟨rfl,rfl⟩ := Prod.mk.inj listed
    exact bits_ones 30
  · have empty : h2HuffmanLenStart.getD (len + 1) 0 = 0 := by
      rw [List.getD_eq_default]
      show 32 ≤ len + 1
      omega
    rw [empty] at found
    simp at found

/-- The strings and the open code word account for the bits read. -/
def SpelledUpTo (src : Mem) (off pos : Nat) (h : Huff) : Prop :=
  bitsUpTo src pos = (slice h.buf off h.count).flatMap word ++ bits h.len h.code

theorem huffBit_spells {src : Mem} {off pos : Nat} {h h' : Huff} (now : SpelledUpTo src off pos h)
    (executed : huffBit src off pos h = .ok h') : SpelledUpTo src off (pos + 1) h' := by
  have binary : bitAt src pos < 2 := Nat.mod_lt _ (by decide)
  have extended : bitsUpTo src (pos + 1) =
      (slice h.buf off h.count).flatMap word ++ bits (h.len + 1) (2 * h.code + bitAt src pos) := by
    rw [bitsUpTo_succ,now,bits_snoc _ _ _ binary,List.append_assoc]
  unfold huffBit at executed
  simp only at executed
  split at executed
  · cases executed
    exact extended
  · next symbol found =>
    split at executed
    · contradiction
    next string =>
    split at executed
    · contradiction
    cases executed
    obtain ⟨_,spelled⟩ := huffScan_word found string
    rw [SpelledUpTo,extended,slice_add,List.flatMap_append,← spelled]
    have older : slice (fun i => if i = off + h.count then UInt8.ofNat symbol else h.buf i) off h.count =
        slice h.buf off h.count := slice_congr fun i inside => if_neg (by omega)
    rw [older]
    simp [slice_succ,bits]

theorem huffBits_spells {src : Mem} {off : Nat} : ∀ (left pos : Nat) (h h' : Huff), SpelledUpTo src off pos h →
    huffBits src off left pos h = .ok h' → SpelledUpTo src off (pos + left) h' := by
  intro left
  induction left with
  | zero => intro pos h h' now executed; cases executed; exact now
  | succ left ih =>
    intro pos h h' now executed
    rw [huffBits] at executed
    cases first : huffBit src off pos h with
    | error _ => rw [first] at executed; contradiction
    | ok h1 =>
      rw [first] at executed
      have last := ih (pos + 1) h1 h' (huffBit_spells now first) executed
      rwa [Nat.add_right_comm] at last

/-- A string that is decoded lies in the block, and spells what is behind the strings in the buffer. -/
theorem huffmanDecode_spells {block : Mem} {off count «end» : Nat} {s s' : HpackState} {p : Ptr} {n : Nat}
    (executed : h2HuffmanDecode block off count «end» s = .ok (p,n) s') :
    off + count ≤ «end» ∧ p = .strBuf s.strOff ∧ Spells (slice block off count) (slice (s'.at block p) 0 n) := by
  unfold h2HuffmanDecode at executed
  split at executed
  · next inside =>
    cases run : huffBits (shift block off) s.strOff (8 * count) 0 ⟨s.strBuf,0,0,0⟩ with
    | error h => rw [run] at executed; contradiction
    | ok h =>
      rw [run] at executed
      simp only at executed
      split at executed
      · next padded =>
        cases executed
        have spelled := huffBits_spells (8 * count) 0 ⟨s.strBuf,0,0,0⟩ h (by rfl) run
        simp only [huffPadding,Bool.and_eq_true,Bool.or_eq_true,decide_eq_true_eq] at padded
        refine ⟨of_decide_eq_true inside,rfl,h.len,by omega,?_⟩
        have octets : slice block off count = slice (shift block off) 0 count := by rw [slice_shift,Nat.add_zero]
        rw [octets,stream_slice,← Nat.zero_add (8 * count),spelled,HpackState.at,slice_shift,Nat.add_zero]
        congr 1
        rcases padded.2 with none | ones
        · rw [none]; rfl
        · rw [ones,bits_ones]
      · contradiction
  · contradiction

theorem huffmanDecode_sound {block : Mem} {off count «end» : Nat} {s s' : HpackState} {p : Ptr} {n : Nat}
    (executed : h2HuffmanDecode block off count «end» s = .ok (p,n) s') :
    huffmanText (slice block off count) = some (slice (s'.at block p) 0 n) :=
  huffmanText_of_spells (huffmanDecode_spells executed).2.2

theorem huffmanDecode_outside {block : Mem} {off count «end» : Nat} {s s' : HpackState} {p : Ptr} {n : Nat}
    (executed : h2HuffmanDecode block off count «end» s = .ok (p,n) s') : ∀ o, p ≠ .arena o := by
  rw [(huffmanDecode_spells executed).2.1]
  rintro o ⟨⟩

/-! ### Strings and fields -/

theorem decodeString_sound {block : Mem} {off «end» : Nat} {s s' : HpackState} {p : Ptr} {n used : Nat}
    (executed : h2HpackDecodeString block off «end» s = .ok (p,n,used) s') :
    0 < used ∧ off + used ≤ «end» ∧ decodeString (octetsFrom block «end» off) =
      some (slice (s'.at block p) 0 n,octetsFrom block «end» (off + used)) ∧ ∀ o, p ≠ .arena o := by
  unfold h2HpackDecodeString at executed
  split at executed
  · exact (throw_ok executed).elim
  next inside =>
  obtain ⟨⟨length,prefixUsed⟩,s1,number,rest⟩ := bind_ok executed
  obtain ⟨integer,rfl⟩ := pureStep_ok number
  obtain ⟨positive,bound,reference⟩ := decodeInt_sound integer
  simp only at rest
  split at rest
  · next fits =>
    simp only [ckrange,decide_eq_true_eq] at fits
    have enough : ¬ (octetsFrom block «end» (off + prefixUsed)).length < length := by
      rw [octetsFrom_length]
      omega
    have first : (octetsFrom block «end» off).headD 0 = block off := octetsFrom_head (by omega)
    unfold decodeString
    simp only [reference,Option.bind_eq_bind,Option.bind_some,if_neg enough,first,octetsFrom_take fits,
      octetsFrom_drop fits]
    split at rest
    · next coded =>
      obtain ⟨⟨decoded,decodedLen⟩,s2,expanded,last⟩ := bind_ok rest
      obtain ⟨equal,rfl⟩ := pure_ok last
      cases equal
      rw [if_pos coded,huffmanDecode_sound expanded,Nat.add_assoc]
      exact ⟨by omega,by omega,rfl,huffmanDecode_outside expanded⟩
    · next plain =>
      obtain ⟨equal,rfl⟩ := pure_ok rest
      cases equal
      rw [if_neg plain,HpackState.at,slice_shift,Nat.add_zero,Nat.add_assoc]
      exact ⟨by omega,by omega,rfl,by rintro o ⟨⟩⟩
  · exact (throw_ok rest).elim

/-- A pointer to a table entry, and the entry, for the combined address space. -/
theorem tableLookup_sound {s : HpackState} {q : FieldQueue} (rep : Represents s.dyn q) (block : Mem) {index : Nat}
    {f : FieldRef} (found : h2HpackTableLookup s.dyn index = .ok f) :
    tableField q index = some (denotes block s f) ∧
      (∀ off, f.name = .arena off → off + f.nameLen ≤ s.dyn.used) := by
  unfold h2HpackTableLookup at found
  unfold tableField
  split at found
  · next dynamic =>
    simp only [staticTableSize] at dynamic
    rw [if_neg (by omega),if_neg (by omega)]
    cases lookup : h2HpackDynLookup s.dyn (index - staticTableSize) with
    | error e => rw [lookup] at found; contradiction
    | ok ref =>
      rw [lookup] at found
      cases found
      have field := lookupField_represents rep (index - staticTableSize)
      have inside := lookup_inside rep lookup
      rw [lookupField,lookup] at field
      refine ⟨?_,?_⟩
      · show recent q.entries (index - staticTableSize) = _
        cases entry : recent q.entries (index - staticTableSize) with
        | none => rw [entry] at field; contradiction
        | some g =>
          rw [entry] at field
          cases field
          simp [denotes,HpackState.at,DynTable.fieldAt,slice_shift]
      · rintro off ⟨⟩
        show ref.name + ref.nameLen ≤ _
        omega
  · next static =>
    unfold h2HpackStaticLookup at found
    split at found
    · contradiction
    next proper =>
    cases found
    simp only [staticTableSize] at static proper
    rw [if_neg (by omega),if_pos (by omega)]
    refine ⟨?_,by rintro off ⟨⟩⟩
    simp only [denotes,HpackState.at,slice_ofBytes]
    rfl

theorem literalField_sound {block : Mem} {off n «end» : Nat} {s s' : HpackState} {q : FieldQueue}
    (rep : Represents s.dyn q) {next : Nat} {f : FieldRef}
    (executed : literalField block off n «end» s = .ok (next,f) s') :
    off < next ∧ next ≤ «end» ∧
      decodeLiteral q n (octetsFrom block «end» off) = some (denotes block s' f,octetsFrom block «end» next) ∧
      (∀ o, f.name = .arena o → o + f.nameLen ≤ s'.dyn.used) ∧ ∀ o, f.value ≠ .arena o := by
  unfold literalField at executed
  obtain ⟨⟨name,nameLen,start⟩,s1,named,rest⟩ := bind_ok executed
  obtain ⟨⟨value,valueLen,used⟩,s2,valued,last⟩ := bind_ok rest
  obtain ⟨equal,rfl⟩ := pure_ok last
  cases equal
  obtain ⟨positive,bound,valueReference,valueOutside⟩ := decodeString_sound valued
  obtain ⟨second,_⟩ := decodeString_appends valued
  obtain ⟨first,written⟩ := literalName_appends named
  -- the value string leaves the name as it was
  have nameSame : slice (s'.at block name) 0 nameLen = slice (s1.at block name) 0 nameLen := by
    have whole := denotes_appends block (f := ⟨name,nameLen,.block 0,0⟩) second ⟨written,by rintro o ⟨⟩⟩
    exact congrArg Field.name whole
  unfold literalName at named
  obtain ⟨⟨index,prefixUsed⟩,s3,number,rest⟩ := bind_ok named
  obtain ⟨integer,rfl⟩ := pureStep_ok number
  obtain ⟨indexed,room,reference⟩ := decodeInt_sound integer
  simp only at rest
  unfold decodeLiteral
  simp only [reference,Option.bind_eq_bind,Option.bind_some]
  split at rest
  · next none =>
    obtain ⟨⟨text,textLen,textUsed⟩,s4,string,last⟩ := bind_ok rest
    obtain ⟨equal,rfl⟩ := pure_ok last
    cases equal
    obtain ⟨some_,fits,nameReference,nameOutside⟩ := decodeString_sound string
    rw [if_pos none,nameReference]
    simp only [Option.bind_some,valueReference]
    refine ⟨by omega,by omega,?_,fun o at_ => absurd at_ (nameOutside o),valueOutside⟩
    rw [denotes,nameSame]
  · next listed =>
    obtain ⟨entry,s4,lookup,last⟩ := bind_ok rest
    obtain ⟨found,rfl⟩ := pureStep_ok lookup
    obtain ⟨equal,rfl⟩ := pure_ok last
    cases equal
    obtain ⟨entryReference,inside⟩ := tableLookup_sound rep block found
    rw [if_neg listed,entryReference]
    simp only [Option.map_some,Option.bind_some,valueReference]
    refine ⟨by omega,by omega,?_,?_,valueOutside⟩
    · simp only [denotes,nameSame]
    · rw [second.dyn]
      exact inside

/-! ### Representations -/

/-- What a representation means once it has been read. -/
def Representation.meaning (block : Mem) (s : HpackState) : Representation → Meaning
  | .indexed f => .indexed (denotes block s f)
  | .incremental f => .incremental (denotes block s f)
  | .sizeUpdate max => .sizeUpdate max
  | .literal f => .literal (denotes block s f)

theorem meaning_field (block : Mem) (s : HpackState) (r : Representation) :
    (r.meaning block s).field = r.field.map (denotes block s) := by
  cases r <;> rfl

/-- The strings of an insertion lie where the table can take them from, and a size
    update is within the capacity. -/
def Representation.Sourced (t : DynTable) : Representation → Prop
  | .incremental f => (∀ o, f.name = .arena o → o + f.nameLen ≤ t.used) ∧ ∀ o, f.value ≠ .arena o
  | .sizeUpdate max => max ≤ headerTableSize
  | _ => True

theorem representation_sound {block : Mem} {off «end» : Nat} {s s' : HpackState} {q : FieldQueue}
    (rep : Represents s.dyn q) {next : Nat} {r : Representation}
    (executed : representation block off «end» s = .ok (next,r) s') :
    off < next ∧ next ≤ «end» ∧
      decodeRepresentation q (octetsFrom block «end» off) = some (r.meaning block s',octetsFrom block «end» next) ∧
      r.Sourced s'.dyn := by
  unfold representation at executed
  split at executed
  · exact (throw_ok executed).elim
  have first : (octetsFrom block «end» off).headD 0 = block off := octetsFrom_head (by omega)
  unfold decodeRepresentation
  simp only [first]
  simp only at executed
  split at executed
  · next indexed =>
    rw [if_pos indexed]
    obtain ⟨⟨index,used⟩,s1,number,rest⟩ := bind_ok executed
    obtain ⟨integer,rfl⟩ := pureStep_ok number
    obtain ⟨positive,bound,reference⟩ := decodeInt_sound integer
    simp only at rest
    split at rest
    · exact (throw_ok rest).elim
    obtain ⟨entry,s2,lookup,last⟩ := bind_ok rest
    obtain ⟨found,rfl⟩ := pureStep_ok lookup
    obtain ⟨equal,rfl⟩ := pure_ok last
    cases equal
    obtain ⟨entryReference,_⟩ := tableLookup_sound rep block found
    simp only [reference,Option.bind_eq_bind,Option.bind_some,entryReference]
    exact ⟨by omega,bound,rfl,trivial⟩
  next notIndexed =>
  rw [if_neg notIndexed]
  split at executed
  · next incremental =>
    rw [if_pos incremental]
    obtain ⟨⟨after,field⟩,s1,read,last⟩ := bind_ok executed
    obtain ⟨equal,rfl⟩ := pure_ok last
    cases equal
    obtain ⟨longer,bound,reference,name,value⟩ := literalField_sound rep read
    simp only [reference,Option.bind_eq_bind,Option.bind_some]
    exact ⟨longer,bound,rfl,name,value⟩
  next notIncremental =>
  rw [if_neg notIncremental]
  split at executed
  · next update =>
    rw [if_pos update]
    obtain ⟨⟨max,used⟩,s1,number,rest⟩ := bind_ok executed
    obtain ⟨integer,rfl⟩ := pureStep_ok number
    obtain ⟨positive,bound,reference⟩ := decodeInt_sound integer
    simp only at rest
    split at rest
    · exact (throw_ok rest).elim
    next small =>
    obtain ⟨equal,rfl⟩ := pure_ok rest
    cases equal
    simp only [reference,Option.bind_eq_bind,Option.bind_some,if_neg small]
    exact ⟨by omega,bound,rfl,Nat.not_lt.mp small⟩
  · next notUpdate =>
    rw [if_neg notUpdate]
    obtain ⟨⟨after,field⟩,s1,read,last⟩ := bind_ok executed
    obtain ⟨equal,rfl⟩ := pure_ok last
    cases equal
    obtain ⟨longer,bound,reference,_⟩ := literalField_sound rep read
    simp only [reference,Option.bind_eq_bind,Option.bind_some]
    exact ⟨longer,bound,rfl,trivial⟩

/-- An insertion whose name is that of a table entry frees no byte of the arena. -/
def Representation.NameStill (t : DynTable) (r : Representation) : Prop :=
  ∀ f o, r = .incremental f → f.name = .arena o → freedBy t r = 0

/-- The table can follow every representation that has been read, and follows it
    as the queue does unless an insertion moves the name it takes from the table. -/
theorem commit_represents (block : Mem) {s : HpackState} {q : FieldQueue} (rep : Represents s.dyn q)
    {r : Representation} (sourced : r.Sourced s.dyn) :
    ∃ t q', commit block s r = .ok t ∧ Represents t q' ∧
      (r.NameStill s.dyn → q' = (r.meaning block s).update q) := by
  cases r with
  | indexed f => exact ⟨s.dyn,q,rfl,rep,fun _ => rfl⟩
  | literal f => exact ⟨s.dyn,q,rfl,rep,fun _ => rfl⟩
  | sizeUpdate max =>
    obtain ⟨t,resized,next⟩ := resize_represents rep (show max ≤ headerTableSize from sourced)
    exact ⟨t,q.resize max,resized,next,fun _ => rfl⟩
  | incremental f =>
    obtain ⟨nameInside,valueOutside⟩ := sourced
    have used := represents_used rep
    have nameSource : (s.source block f.name).Inside f.nameLen := by
      cases at_ : f.name with
      | arena o =>
        have inside := nameInside o at_
        show o + f.nameLen ≤ headerTableSize
        omega
      | _ => trivial
    have valueIs : s.source block f.value = .outside (s.at block f.value) := by
      cases at_ : f.value with
      | arena o => exact absurd at_ (valueOutside o)
      | _ => rfl
    have valueSource : (s.source block f.value).Inside f.valueLen := by
      rw [valueIs]
      trivial
    obtain ⟨t,g,inserted,next,value,outside,arena,_⟩ := insert_pushes rep nameSource valueSource
    refine ⟨t,q.push g,inserted,next,?_⟩
    intro still
    have nameSame : g.name = slice (s.at block f.name) 0 f.nameLen := by
      cases at_ : f.name with
      | arena o =>
        rw [arena o (by rw [at_]; rfl) (nameInside o at_),HpackState.at,slice_shift,Nat.add_zero]
        intro small r evicted
        have none := still f o rfl at_
        have bound := rep.bound
        have max := rep.max
        simp only [headerTableSize] at bound
        have sizeIs : f.entrySize = some (f.nameLen + f.valueLen + 32) := by
          have first : ckadd f.nameLen f.valueLen = some (f.nameLen + f.valueLen) := if_pos (by omega)
          rw [FieldRef.entrySize,first]
          exact if_pos (by omega)
        simpa only [freedBy,sizeIs,if_neg (Nat.not_lt.mpr small),evicted] using none
      | block o => exact outside _ (by rw [at_]; rfl)
      | strBuf o => exact outside _ (by rw [at_]; rfl)
      | staticName e => exact outside _ (by rw [at_]; rfl)
      | staticValue e => exact outside _ (by rw [at_]; rfl)
    have valueSame : g.value = slice (s.at block f.value) 0 f.valueLen := value _ valueIs
    show q.push g = q.push (denotes block s f)
    rw [denotes,← nameSame,← valueSame]

/-! ### Blocks -/

/-- A block loop that succeeds leaves a table that stands for some queue: for the
    reference decoder's, if every name taken from the table stayed in its place. -/
theorem blockLoop_sound {block : Mem} {«end» : Nat} : ∀ (fuel cursor : Nat) (fields all : List FieldRef)
    (s s' : HpackState) (q : FieldQueue), Represents s.dyn q →
      blockLoop block «end» fuel cursor fields s = .ok all s' →
        ∃ q', Represents s'.dyn q' ∧
          ((∀ step ∈ loopSteps block «end» fuel cursor s, step.read.NameStill step.found.dyn) →
            blockFields fuel q (octetsFrom block «end» cursor) =
              some ((loopSteps block «end» fuel cursor s).filterMap
                (fun step => step.read.field.map (denotes block step.found)),q')) := by
  intro fuel
  induction fuel with
  | zero =>
    intro cursor fields all s s' q rep executed
    unfold blockLoop at executed
    split at executed
    · next halted =>
      obtain ⟨rfl,rfl⟩ := pure_ok executed
      refine ⟨q,rep,fun _ => ?_⟩
      rw [octetsFrom_nil halted,loopSteps,blockFields]
      rfl
    · exact (throw_ok executed).elim
  | succ fuel ih =>
    intro cursor fields all s s' q rep executed
    unfold blockLoop at executed
    unfold loopSteps
    split at executed
    · next halted =>
      obtain ⟨rfl,rfl⟩ := pure_ok executed
      refine ⟨q,rep,fun _ => ?_⟩
      rw [octetsFrom_nil halted,if_pos halted,blockFields]
      rfl
    next inside =>
    rw [if_neg inside]
    simp only at executed
    obtain ⟨⟨next,field⟩,s1,decoded,rest⟩ := bind_ok executed
    unfold h2HpackDecodeField at decoded
    obtain ⟨⟨next',r⟩,found,read,committed⟩ := bind_ok decoded
    rw [read]
    simp only at committed ⊢
    cases update : commit block found r with
    | error e => rw [update] at committed; contradiction
    | ok dyn =>
      rw [update] at committed
      cases committed
      obtain ⟨longer,bound,reference,sourced⟩ := representation_sound rep read
      obtain ⟨appends,_⟩ := representation_appends read
      obtain ⟨t,q1,committed,next1,same⟩ := commit_represents block (appends.dyn ▸ rep) sourced
      rw [update] at committed
      cases committed
      simp only at rest ⊢
      split at rest
      · exact (throw_ok rest).elim
      have reach : ∃ fields', blockLoop block «end» fuel next fields' { found with dyn := dyn } = .ok all s' := by
        cases hands : r.field with
        | none => rw [hands] at rest; exact ⟨_,rest⟩
        | some f =>
          rw [hands] at rest
          simp only at rest
          split at rest
          · exact (throw_ok rest).elim
          · exact ⟨_,rest⟩
      obtain ⟨fields',rest⟩ := reach
      obtain ⟨q',last,tail⟩ := ih next fields' all _ s' q1 next1 rest
      refine ⟨q',last,?_⟩
      intro still
      rw [List.forall_mem_cons] at still
      have head := same still.1
      have later := tail still.2
      rw [octetsFrom_cons (by omega),blockFields,← octetsFrom_cons (by omega)]
      · simp only [reference,Option.bind_eq_bind,Option.bind_some,← head,later,meaning_field,List.filterMap_cons]
        cases r.field <;> rfl
      · rintro ⟨⟩

theorem decodeBlock_sound {block : Mem} {len : Nat} {s s' : HpackState} {fields : List FieldRef} {q : FieldQueue}
    (rep : Represents s.dyn q) (executed : h2HpackDecodeBlock block len s = .ok fields s') :
    ∃ q', Represents s'.dyn q' ∧
      ((∀ step ∈ blockSteps block len s, step.read.NameStill step.found.dyn) →
        decodeBlock q (slice block 0 len) =
          some ((blockSteps block len s).filterMap (fun step => step.read.field.map (denotes block step.found)),q')) := by
  obtain ⟨q',last,reference⟩ :=
    blockLoop_sound len 0 [] fields { s with strOff := 0 } s' q rep executed
  refine ⟨q',last,?_⟩
  intro still
  have whole := reference still
  rw [octetsFrom,Nat.sub_zero] at whole
  rw [decodeBlock,slice_length]
  exact whole

/-! ### Failures -/

/-- A step that fails with nothing but a compression error. -/
def OnlyCompression {α : Type} (x : HpackM α) (s : HpackState) : Prop := ∀ e s', x s = .error e s' → e = .compression

theorem onlyCompression_bind {α β : Type} {x : HpackM α} {f : α → HpackM β} {s : HpackState}
    (first : OnlyCompression x s) (second : ∀ a s1, x s = .ok a s1 → OnlyCompression (f a) s1) :
    OnlyCompression (x >>= f) s := by
  intro e s' failed
  cases run : x s with
  | ok a s1 =>
    have whole : (x >>= f) s = f a s1 := by
      show EStateM.bind x f s = _
      rw [EStateM.bind,run]
    rw [whole] at failed
    exact second a s1 run e s' failed
  | error e1 s1 =>
    have whole : (x >>= f) s = .error e1 s1 := by
      show EStateM.bind x f s = _
      rw [EStateM.bind,run]
    rw [whole] at failed
    cases failed
    exact first _ _ run

theorem onlyCompression_pure {α : Type} (a : α) (s : HpackState) : OnlyCompression (pure a : HpackM α) s := by
  rintro e s' ⟨⟩

theorem onlyCompression_throw {α : Type} (s : HpackState) :
    OnlyCompression (throw HpackError.compression : HpackM α) s := by
  rintro e s' ⟨⟩
  rfl

theorem onlyCompression_pureStep {α : Type} {x : Except HpackError α} (s : HpackState)
    (fails : ∀ e, x = .error e → e = .compression) : OnlyCompression (pureStep x) s := by
  intro e s' failed
  cases x with
  | ok a => cases failed
  | error e1 => cases failed; exact fails _ rfl

/-- The fuel of the integer loop lasts: the sixth octet is refused. -/
theorem intLoop_fails {block : Mem} {off «end» : Nat} : ∀ (fuel value consumed shift : Nat) (e : HpackError),
    39 ≤ shift + 7 * fuel → 0 < fuel → intLoop block off «end» fuel value consumed shift = .error e →
      e = .compression := by
  intro fuel
  induction fuel with
  | zero => intro value consumed shift e _ positive; omega
  | succ fuel ih =>
    intro value consumed shift e enough _ failed
    rw [intLoop] at failed
    split at failed
    · cases failed; rfl
    simp only at failed
    split at failed
    · cases failed; rfl
    split at failed
    · cases failed; rfl
    split at failed
    · contradiction
    · exact ih _ _ _ _ (by omega) (by omega) failed

theorem decodeInt_fails {block : Mem} {off n «end» : Nat} {e : HpackError}
    (failed : h2HpackDecodeInt block off n «end» = .error e) : e = .compression := by
  rw [h2HpackDecodeInt] at failed
  split at failed
  · cases failed; rfl
  simp only at failed
  split at failed
  · contradiction
  · exact intLoop_fails 6 _ _ _ _ (by decide) (by decide) failed

theorem huffmanDecode_fails (block : Mem) (off count «end» : Nat) (s : HpackState) :
    OnlyCompression (h2HuffmanDecode block off count «end») s := by
  intro e s' failed
  unfold h2HuffmanDecode at failed
  split at failed
  · split at failed
    · cases failed; rfl
    · split at failed
      · contradiction
      · cases failed; rfl
  · cases failed; rfl

theorem decodeString_fails (block : Mem) (off «end» : Nat) (s : HpackState) :
    OnlyCompression (h2HpackDecodeString block off «end») s := by
  unfold h2HpackDecodeString
  split
  · exact onlyCompression_throw s
  · refine onlyCompression_bind (onlyCompression_pureStep s fun e => decodeInt_fails) ?_
    rintro ⟨length,used⟩ s1 _
    simp only
    split
    · split
      · exact onlyCompression_bind (huffmanDecode_fails _ _ _ _ s1) fun _ s2 _ => onlyCompression_pure _ s2
      · exact onlyCompression_pure _ s1
    · exact onlyCompression_throw s1

theorem tableLookup_fails {t : DynTable} {q : FieldQueue} (rep : Represents t q) {index : Nat} {e : HpackError}
    (failed : h2HpackTableLookup t index = .error e) : e = .compression := by
  unfold h2HpackTableLookup at failed
  split at failed
  · by_cases out : index - staticTableSize = 0 ∨ q.entries.length < index - staticTableSize
    · rw [lookup_outside rep out] at failed
      cases failed; rfl
    · obtain ⟨ref,found,_⟩ := lookup_represents rep (i := index - staticTableSize) (by omega) (by omega)
      rw [found] at failed
      contradiction
  · unfold h2HpackStaticLookup at failed
    split at failed
    · cases failed; rfl
    · contradiction

theorem literalField_fails {block : Mem} {off n «end» : Nat} {s : HpackState} {q : FieldQueue}
    (rep : Represents s.dyn q) : OnlyCompression (literalField block off n «end») s := by
  refine onlyCompression_bind ?_ fun a s1 _ =>
    onlyCompression_bind (decodeString_fails _ _ _ s1) fun _ s2 _ => onlyCompression_pure _ s2
  refine onlyCompression_bind (onlyCompression_pureStep s fun e => decodeInt_fails) ?_
  rintro ⟨index,used⟩ s1 number
  obtain ⟨_,rfl⟩ := pureStep_ok number
  simp only
  split
  · exact onlyCompression_bind (decodeString_fails _ _ _ s1) fun _ s2 _ => onlyCompression_pure _ s2
  · exact onlyCompression_bind (onlyCompression_pureStep s1 fun e => tableLookup_fails rep)
      fun _ s2 _ => onlyCompression_pure _ s2

theorem representation_fails {block : Mem} {off «end» : Nat} {s : HpackState} {q : FieldQueue}
    (rep : Represents s.dyn q) : OnlyCompression (representation block off «end») s := by
  unfold representation
  split
  · exact onlyCompression_throw s
  simp only
  split
  · refine onlyCompression_bind (onlyCompression_pureStep s fun e => decodeInt_fails) ?_
    rintro ⟨index,used⟩ s1 number
    obtain ⟨_,rfl⟩ := pureStep_ok number
    simp only
    split
    · exact onlyCompression_throw s1
    · exact onlyCompression_bind (onlyCompression_pureStep s1 fun e => tableLookup_fails rep)
        fun _ s2 _ => onlyCompression_pure _ s2
  split
  · exact onlyCompression_bind (literalField_fails rep) fun _ s2 _ => onlyCompression_pure _ s2
  split
  · refine onlyCompression_bind (onlyCompression_pureStep s fun e => decodeInt_fails) ?_
    rintro ⟨max,used⟩ s1 _
    simp only
    split
    · exact onlyCompression_throw s1
    · exact onlyCompression_pure _ s1
  · exact onlyCompression_bind (literalField_fails rep) fun _ s2 _ => onlyCompression_pure _ s2

/-- Every representation takes an octet, so the fuel of a block lasts, and the table
    is never left: a block that fails is a compression error. -/
theorem blockLoop_fails {block : Mem} {«end» : Nat} : ∀ (fuel cursor : Nat) (fields : List FieldRef)
    (s : HpackState) (q : FieldQueue), Represents s.dyn q → «end» ≤ cursor + fuel →
      OnlyCompression (blockLoop block «end» fuel cursor fields) s := by
  intro fuel
  induction fuel with
  | zero =>
    intro cursor fields s q _ enough
    unfold blockLoop
    rw [if_pos (by omega)]
    exact onlyCompression_pure _ s
  | succ fuel ih =>
    intro cursor fields s q rep enough
    unfold blockLoop
    split
    · exact onlyCompression_pure _ s
    simp only
    have field : OnlyCompression (h2HpackDecodeField block cursor «end») s := by
      refine onlyCompression_bind (representation_fails rep) ?_
      rintro ⟨next,r⟩ found read e s' failed
      obtain ⟨_,_,_,sourced⟩ := representation_sound rep read
      obtain ⟨appends,_⟩ := representation_appends read
      obtain ⟨t,q1,committed,_⟩ := commit_represents block (appends.dyn ▸ rep) sourced
      simp only [committed] at failed
      contradiction
    refine onlyCompression_bind field ?_
    rintro ⟨next,f⟩ s1 decoded
    obtain ⟨⟨next',r⟩,found,read,committed⟩ := bind_ok decoded
    obtain ⟨longer,_,_,sourced⟩ := representation_sound rep read
    obtain ⟨appends,_⟩ := representation_appends read
    obtain ⟨t,q1,update,next1,_⟩ := commit_represents block (appends.dyn ▸ rep) sourced
    simp only [update] at committed
    cases committed
    simp only
    split
    · exact onlyCompression_throw _
    have onward : ∀ fields', OnlyCompression (blockLoop block «end» fuel next fields') { found with dyn := t } :=
      fun fields' => ih next fields' _ q1 next1 (by omega)
    split
    · exact onward _
    · split
      · exact onlyCompression_throw _
      · exact onward _

theorem decodeBlock_fails {block : Mem} {len : Nat} {s s' : HpackState} {q : FieldQueue} {e : HpackError}
    (rep : Represents s.dyn q) (failed : h2HpackDecodeBlock block len s = .error e s') : e = .compression :=
  blockLoop_fails len 0 [] { s with strOff := 0 } q rep (by omega) e s' failed

end Sarm.Hpack
