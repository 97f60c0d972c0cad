import Sarm.HpackAccess
import Sarm.HpackSound

/-!
Every access of the header block decoder is inside the region it goes to, and what it
decodes is what the decoder without notes does.
-/
namespace Sarm.Hpack
open Sarm.Memory Sarm.Watch Sarm.Fifo

/-! ### Regions -/

/-- How far a region may be read, with a block of `len` octets and `used` octets of the
    arena in use. -/
def Region.readable (len used : Nat) : Region → Nat
  | .block => len
  | .arena => used
  | .slots => dynCapEntries
  | .strBuf => strBufSize
  | .fields => 0
  | .staticTable => staticTableSize
  | .staticName entry => (ascii (staticEntry entry).1).length
  | .staticValue entry => (ascii (staticEntry entry).2).length
  | .huffmanTable => h2HuffmanTable.length
  | .huffmanLenStart => h2HuffmanLenStart.length
  | .word _ => 1

/-- How far a region may be written. -/
def Region.writable : Region → Nat
  | .fields => maxFields
  | .strBuf => strBufSize
  | .arena => headerTableSize
  | .slots => dynCapEntries
  | .word _ => 1
  | _ => 0

/-- An access of nothing, or of what lies in its region. -/
def Access.Inside (len : Nat) (a : Access) : Prop :=
  a.count = 0 ∨ a.off + a.count ≤ if a.write then a.region.writable else a.region.readable len a.used

instance (len : Nat) (a : Access) : Decidable (a.Inside len) := inferInstanceAs (Decidable (_ ∨ _))

section Decoder
variable {block : Mem} {len off «end» : Nat} {s : HpackState}

/-- An octet of the block. -/
theorem block_inside (inside : off < len) (used : Nat) : (Access.mk false .block off 1 used).Inside len := .inr inside

theorem slot_access {i : Nat} (inside : i < dynCapEntries) (write : Bool) (used : Nat) :
    (Access.mk write .slots i 1 used).Inside len := by
  cases write <;> exact .inr inside

theorem word_inside (global : Word) (write : Bool) (used : Nat) :
    (Access.mk write (.word global) 0 1 used).Inside len := by
  cases write <;> exact .inr (Nat.le_refl 1)

section Notes
variable {α : Type} {Post : α → HpackState → Prop} {m : Unit → WatchM α} {x : HpackM α}

theorem load_does {region : Region} {i n : Nat} (inside : (Access.mk false region i n s.dyn.used).Inside len)
    (rest : Does (Access.Inside len) Post (m ()) x s) : Does (Access.Inside len) Post (load region i n >>= m) x s :=
  note_does inside rest

theorem save_does {region : Region} {i n : Nat} (inside : (Access.mk true region i n s.dyn.used).Inside len)
    (rest : Does (Access.Inside len) Post (m ()) x s) : Does (Access.Inside len) Post (save region i n >>= m) x s :=
  note_does inside rest

theorem loadWord_does (global : Word) (rest : Does (Access.Inside len) Post (m ()) x s) :
    Does (Access.Inside len) Post (loadWord global >>= m) x s :=
  load_does (word_inside global false _) rest

theorem saveWord_does (global : Word) (rest : Does (Access.Inside len) Post (m ()) x s) :
    Does (Access.Inside len) Post (saveWord global >>= m) x s :=
  save_does (word_inside global true _) rest

end Notes

/-! ### Integers -/

/-- A number is read, and the octets it takes are in the block. -/
def NumberRead (off «end» : Nat) (s : HpackState) (r : Nat × Nat) (s' : HpackState) : Prop := s' = s ∧ off + r.2 ≤ «end»

theorem intLoop_does {Ok : Access → Prop} (each : ∀ i, off ≤ i → i < «end» → Ok ⟨false,.block,i,1,s.dyn.used⟩) :
    ∀ (fuel value consumed shift : Nat),
      Does Ok (NumberRead off «end» s) (Watched.intLoop block off «end» fuel value consumed shift)
        (pureStep (intLoop block off «end» fuel value consumed shift)) s := by
  intro fuel
  induction fuel with
  | zero => intro value consumed shift; exact throw_does
  | succ fuel ih =>
    intro value consumed shift
    rw [Watched.intLoop,intLoop]
    by_cases past : «end» ≤ off + consumed
    · rw [if_pos past,if_pos past]
      exact throw_does
    rw [if_neg past,if_neg past]
    refine note_does (each _ (by omega) (by omega)) ?_
    dsimp only
    by_cases long : 32 ≤ shift
    · rw [if_pos long,if_pos long]
      exact throw_does
    rw [if_neg long,if_neg long]
    by_cases large : 2^32 ≤ value + (block (off + consumed)).toNat % 128 * 2^shift
    · rw [if_pos large,if_pos large]
      exact throw_does
    rw [if_neg large,if_neg large]
    by_cases last : (block (off + consumed)).toNat < 128
    · rw [if_pos last,if_pos last]
      exact pure_does ⟨rfl,by dsimp only; omega⟩
    · rw [if_neg last,if_neg last]
      exact ih _ _ _

/-- Octets of the block between the first and the end are all that is read. -/
theorem decodeInt_reads {Ok : Access → Prop} (each : ∀ i, off ≤ i → i < «end» → Ok ⟨false,.block,i,1,s.dyn.used⟩)
    (n : Nat) :
    Does Ok (NumberRead off «end» s) (Watched.h2HpackDecodeInt block off n «end»)
      (pureStep (h2HpackDecodeInt block off n «end»)) s := by
  rw [Watched.h2HpackDecodeInt,h2HpackDecodeInt]
  by_cases past : «end» ≤ off
  · rw [if_pos past,if_pos past]
    exact throw_does
  rw [if_neg past,if_neg past]
  refine note_does (each off le_rfl (by omega)) ?_
  dsimp only
  by_cases small : (block off).toNat % 2^n < 2^n - 1
  · rw [if_pos small,if_pos small]
    exact pure_does ⟨rfl,by dsimp only; omega⟩
  · rw [if_neg small,if_neg small]
    exact intLoop_does each 6 _ 1 0

theorem decodeInt_does (n : Nat) :
    Does (Access.Inside «end») (NumberRead off «end» s) (Watched.h2HpackDecodeInt block off n «end»)
      (pureStep (h2HpackDecodeInt block off n «end»)) s :=
  decodeInt_reads (fun _ _ inside => block_inside inside _) n

/-! ### The Huffman code is complete -/

/-- The first number of so many bits that neither is a code word nor begins with one. -/
def huffLimit : Nat → Nat
  | 0 => 0
  | len+1 => 2 * huffLimit len + (h2HuffmanLenStart.getD (len + 2) 0 - h2HuffmanLenStart.getD (len + 1) 0)

/-- The code words of a length follow on one another, after those that begin with a shorter
    one. -/
theorem words_follow : ∀ len < 30,
    ((h2HuffmanTable.drop (h2HuffmanLenStart.getD (len + 1) 0)).take
        (h2HuffmanLenStart.getD (len + 2) 0 - h2HuffmanLenStart.getD (len + 1) 0)).map Prod.fst =
      List.range' (2 * huffLimit len) (h2HuffmanLenStart.getD (len + 2) 0 - h2HuffmanLenStart.getD (len + 1) 0) := by
  decide

theorem entries_inside : ∀ len < 30, h2HuffmanLenStart.getD (len + 1) 0 +
    (h2HuffmanLenStart.getD (len + 2) 0 - h2HuffmanLenStart.getD (len + 1) 0) ≤ h2HuffmanTable.length := by
  decide +kernel

/-- No word has been read, and one can still come. -/
structure Huff.Open (h : Huff) : Prop where
  short : h.len < 30
  least : huffLimit h.len ≤ h.code
  most : h.code < 2^h.len

theorem huffScan_none {code len : Nat} (short : len < 30) (none_ : huffScan code (len + 1) = none)
    (least : 2 * huffLimit len ≤ code) :
    huffLimit (len + 1) ≤ code := by
  refine Nat.not_lt.mp ?_
  intro below
  have member : code ∈ List.range' (2 * huffLimit len)
      (h2HuffmanLenStart.getD (len + 2) 0 - h2HuffmanLenStart.getD (len + 1) 0) := by
    rw [huffLimit] at below
    exact List.mem_range'_1.mpr ⟨least,below⟩
  rw [← words_follow len short] at member
  obtain ⟨entry,listed,rfl⟩ := List.mem_map.mp member
  rw [huffScan,Option.map_eq_none_iff,List.find?_eq_none] at none_
  exact none_ entry listed (decide_eq_true rfl)

/-- A bit behind which there is no word: less than thirty of them are without one. -/
theorem Huff.Open.next {h : Huff} (now : h.Open) {bit : Nat} (small : bit < 2)
    (none_ : huffScan (2 * h.code + bit) (h.len + 1) = none) :
    ({ h with code := 2 * h.code + bit, len := h.len + 1 } : Huff).Open := by
  have short := now.short
  have least := huffScan_none short none_ (by have := now.least; omega)
  have most : 2 * h.code + bit < 2^(h.len + 1) := by
    have most := now.most
    rw [Nat.pow_succ]
    omega
  refine ⟨?_,least,most⟩
  refine Nat.lt_of_le_of_ne short ?_
  intro thirty
  rw [show h.len + 1 = 30 from thirty] at least most
  have full : huffLimit 30 = 2^30 := by decide
  omega

theorem Huff.open_empty (buf : Mem) (count : Nat) : Huff.Open ⟨buf,count,0,0⟩ :=
  ⟨Nat.succ_pos 29,Nat.le_refl 0,Nat.one_pos⟩

/-! ### Huffman strings -/

theorem scanLoop_does (code : Nat) : ∀ (left i : Nat), i + left ≤ h2HuffmanTable.length →
    Does (Access.Inside len) (fun _ s' => s' = s) (Watched.scanLoop code left i)
      (pure ((((h2HuffmanTable.drop i).take left).find? fun entry => entry.1 = code).map Prod.snd)) s := by
  intro left
  induction left with
  | zero => intro i _; exact pure_does rfl
  | succ left ih =>
    intro i inside
    have here : i < h2HuffmanTable.length := by omega
    rw [Watched.scanLoop,List.drop_eq_getElem_cons here,List.take_succ_cons,List.find?_cons]
    refine load_does (.inr here) ?_
    dsimp only
    rw [List.getD_eq_getElem _ _ here]
    by_cases found : h2HuffmanTable[i].1 = code
    · rw [if_pos found,decide_eq_true found]
      exact pure_does rfl
    · rw [if_neg found,decide_eq_false found]
      exact ih (i + 1) (by omega)

theorem huffScan_does (code : Nat) {n : Nat} (short : n < 30) :
    Does (Access.Inside len) (fun _ s' => s' = s) (Watched.huffScan code (n + 1)) (pure (huffScan code (n + 1))) s := by
  have bound : h2HuffmanLenStart.length = 32 := by decide
  rw [Watched.huffScan,huffScan]
  refine load_does (.inr ?_) (load_does (.inr ?_) ?_)
  · change n + 1 + 1 ≤ h2HuffmanLenStart.length
    omega
  · change n + 1 + 1 + 1 ≤ h2HuffmanLenStart.length
    omega
  · exact scanLoop_does code _ _ (entries_inside n short)

/-- What a bit leaves: a place in the code, and a place in the output. -/
def BitRead (out : Nat) (s : HpackState) (r : Except Huff Huff) (s' : HpackState) : Prop :=
  s' = s ∧ ∀ h, r = .ok h → h.Open ∧ out + h.count ≤ strBufSize

theorem huffBit_does {out pos : Nat} {h : Huff} (inside : off + pos / 8 < «end») (now : h.Open)
    (room : out + h.count ≤ strBufSize) :
    Does (Access.Inside «end») (BitRead out s) (Watched.huffBit block off out pos h)
      (pure (huffBit (shift block off) out pos h)) s := by
  have bit : bitAt (shift block off) pos < 2 := Nat.mod_lt _ (by decide)
  rw [Watched.huffBit,huffBit]
  refine load_does (block_inside inside _) ?_
  dsimp only
  refine value_does (huffScan_does _ now.short) ?_
  intro _
  cases found : huffScan (2 * h.code + bitAt (shift block off) pos) (h.len + 1) with
  | none =>
    refine pure_does ⟨rfl,?_⟩
    rintro _ ⟨⟩
    exact ⟨now.next bit found,room⟩
  | some symbol =>
    dsimp only
    by_cases eos : symbol = 256
    · rw [if_pos eos,if_pos eos]
      exact pure_does ⟨rfl,(nomatch ·,·)⟩
    rw [if_neg eos,if_neg eos]
    by_cases full : strBufSize ≤ out + h.count
    · rw [if_pos full,if_pos full]
      exact pure_does ⟨rfl,(nomatch ·,·)⟩
    · rw [if_neg full,if_neg full]
      refine save_does (.inr ?_) (pure_does ⟨rfl,?_⟩)
      · change out + h.count + 1 ≤ strBufSize
        omega
      · rintro _ ⟨⟩
        refine ⟨Huff.open_empty _ _,?_⟩
        dsimp only
        omega

theorem huffBits_does {out count : Nat} (inside : off + count ≤ «end») :
    ∀ (left pos : Nat) (h : Huff), pos + left = 8 * count →
    h.Open → out + h.count ≤ strBufSize →
      Does (Access.Inside «end») (BitRead out s) (Watched.huffBits block off out left pos h)
        (pure (huffBits (shift block off) out left pos h)) s := by
  intro left
  induction left with
  | zero =>
    intro pos h _ now room
    refine pure_does ⟨rfl,?_⟩
    rintro _ ⟨⟩
    exact ⟨now,room⟩
  | succ left ih =>
    intro pos h whole now room
    rw [Watched.huffBits,huffBits]
    refine value_does (huffBit_does (by omega) now room) ?_
    rintro ⟨_,onward⟩
    cases read : huffBit (shift block off) out pos h with
    | error h' =>
      refine pure_does ⟨rfl,?_⟩
      rintro _ ⟨⟩
    | ok h' =>
      obtain ⟨now',room'⟩ := onward h' read
      exact ih (pos + 1) h' (by omega) now' room'

/-- Where the octets of a string lie. -/
def Ptr.Inside (len used : Nat) : Ptr → Nat → Prop
  | .block off, n => off + n ≤ len
  | .strBuf off, n => off + n ≤ strBufSize
  | .arena off, n => off + n ≤ used
  | .staticName entry, n => n ≤ (ascii (staticEntry entry).1).length
  | .staticValue entry, n => n ≤ (ascii (staticEntry entry).2).length

/-- The dynamic table is as it was, and the output is not beyond its end. -/
structure Calm (s s' : HpackState) : Prop where
  dyn : s'.dyn = s.dyn
  room : s'.strOff ≤ strBufSize

theorem huffmanDecode_does {count : Nat} (room : s.strOff ≤ strBufSize) :
    Does (Access.Inside «end») (fun r s' => Calm s s' ∧ r.1.Inside «end» s.dyn.used r.2)
      (Watched.h2HuffmanDecode block off count «end») (h2HuffmanDecode block off count «end») s := by
  rw [Watched.h2HuffmanDecode]
  by_cases fits : ckrange off count «end» = true
  · have inside : off + count ≤ «end» := of_decide_eq_true fits
    rw [if_pos fits]
    refine loadWord_does _ (look_does ?_)
    dsimp only
    refine value_does (huffBits_does inside (8 * count) 0 _ (by omega) (Huff.open_empty _ _) room) ?_
    rintro ⟨_,onward⟩
    cases read : huffBits (shift block off) s.strOff (8 * count) 0 ⟨s.strBuf,0,0,0⟩ with
    | error h =>
      refine (plain_does ?_).of_eq ?_
      · rintro _ _ ⟨⟩
      · rw [h2HuffmanDecode,if_pos fits,read]
    | ok h =>
      obtain ⟨_,room'⟩ := onward h read
      dsimp only
      by_cases padding : huffPadding h = true
      · rw [if_pos padding]
        refine saveWord_does _ ((plain_does ?_).of_eq ?_)
        · rintro _ _ ⟨⟩
          exact ⟨⟨rfl,room'⟩,room'⟩
        · rw [h2HuffmanDecode,if_pos fits,read]
          exact if_pos padding
      · rw [if_neg padding]
        refine (plain_does ?_).of_eq ?_
        · rintro _ _ ⟨⟩
        · rw [h2HuffmanDecode,if_pos fits,read]
          exact if_neg padding
  · rw [if_neg fits]
    refine throw_does.of_eq ?_
    rw [h2HuffmanDecode,if_neg fits]
    rfl

/-- A string is read: where it lies, and that the octets it takes are in the block. -/
def StringRead (off «end» : Nat) (s : HpackState) (r : Ptr × Nat × Nat) (s' : HpackState) : Prop :=
  Calm s s' ∧ r.1.Inside «end» s.dyn.used r.2.1 ∧ off + r.2.2 ≤ «end»

theorem decodeString_does (room : s.strOff ≤ strBufSize) :
    Does (Access.Inside «end») (StringRead off «end» s) (Watched.h2HpackDecodeString block off «end»)
      (h2HpackDecodeString block off «end») s := by
  rw [Watched.h2HpackDecodeString,h2HpackDecodeString]
  by_cases past : «end» ≤ off
  · rw [if_pos past,if_pos past]
    exact throw_does
  rw [if_neg past,if_neg past]
  refine load_does (block_inside (by omega) _) (bind_does (decodeInt_does 7) ?_)
  rintro ⟨length,used⟩ _ ⟨rfl,_⟩
  dsimp only
  by_cases fits : ckrange (off + used) length «end» = true
  · have inside : off + used + length ≤ «end» := of_decide_eq_true fits
    rw [if_pos fits,if_pos fits]
    by_cases huffman : 128 ≤ (block off).toNat
    · rw [if_pos huffman,if_pos huffman]
      refine bind_does (huffmanDecode_does room) ?_
      rintro ⟨decoded,decodedLen⟩ s' ⟨calm,lies⟩
      exact pure_does ⟨calm,lies,by dsimp only; omega⟩
    · rw [if_neg huffman,if_neg huffman]
      exact pure_does ⟨⟨rfl,room⟩,inside,by dsimp only; omega⟩
  · rw [if_neg fits,if_neg fits]
    exact throw_does

/-! ### The dynamic table -/

/-- A step on values that does not fail. -/
theorem value_step_does {α β : Type} {y : Except HpackError α} {a : α} {k : α → WatchM β} {x : HpackM β}
    {Post : β → HpackState → Prop} (ok : y = .ok a) (rest : Does (Access.Inside len) Post (k a) x s) :
    Does (Access.Inside len) Post (plain (pureStep y) >>= k) x s := by
  subst ok
  exact @look_does _ _ _ _ _ _ _ (fun _ => a) _ _ _ rest

theorem lookupWalk_does {t : DynTable} : ∀ (steps i sum : Nat), i < dynCapEntries →
    Does (Access.Inside len) (fun r s' => s' = s ∧ r.1 < dynCapEntries) (Watched.lookupWalk t steps i sum)
      (pureStep (lookupWalk t steps i sum)) s := by
  intro steps
  induction steps with
  | zero => intro i sum inside; exact pure_does ⟨rfl,inside⟩
  | succ steps ih =>
    intro i sum inside
    rw [Watched.lookupWalk,lookupWalk,slot_inside t inside]
    exact load_does (slot_access inside _ _) (value_step_does rfl (ih _ _ (nextSlot_lt i)))

theorem dynLookup_does {t : DynTable} (tail : t.tail < dynCapEntries) (index : Nat) :
    Does (Access.Inside len) (fun _ s' => s' = s) (Watched.h2HpackDynLookup t index)
    (pureStep (h2HpackDynLookup t index)) s := by
  rw [Watched.h2HpackDynLookup,h2HpackDynLookup]
  by_cases zero : index = 0
  · rw [if_pos zero,if_pos (.inl zero)]
    exact throw_does
  rw [if_neg zero]
  refine loadWord_does _ ?_
  by_cases past : t.count < index
  · rw [if_pos past,if_pos (.inr past)]
    exact throw_does
  rw [if_neg past,if_neg (by omega)]
  refine loadWord_does _ (Does.of_eq (?_ : Does _ _ _ (pureStep (lookupWalk t (t.count - index) t.tail 0) >>= fun r =>
    pureStep (t.slot r.1 >>= fun entry => .ok ⟨r.2,entry.nameLen,r.2 + entry.nameLen,entry.valueLen⟩)) s) ?_)
  · refine bind_does (lookupWalk_does (t.count - index) t.tail 0 tail) ?_
    rintro ⟨i,sum⟩ _ ⟨rfl,inside⟩
    refine load_does (slot_access inside _ _) ?_
    dsimp only
    rw [slot_inside t inside]
    exact value_step_does rfl (pure_does rfl)
  · cases lookupWalk t (t.count - index) t.tail 0 <;> rfl

/-- Eviction goes round the slots. -/
theorem evictWhile_does {t : DynTable} {more : Evicting → Bool} {more' : Evicting → WatchM Bool}
    (test : ∀ r, Does (Access.Inside len) (fun _ s' => s' = s) (more' r) (pure (more r)) s) {r' : Evicting} :
    ∀ (live : Nat) (r : Evicting), r.tail < dynCapEntries → evictWhile t more live r = .ok r' →
      Does (Access.Inside len) (fun _ s' => s' = s) (Watched.evictWhile t more' live r) (pure r') s := by
  intro live
  induction live with
  | zero =>
    intro r _ evicted
    rw [evictWhile] at evicted
    rw [Watched.evictWhile]
    refine value_does (test r) fun _ => ?_
    cases go : more r with
    | true => simp [go] at evicted
    | false =>
      obtain rfl : r = r' := by simpa [go] using evicted
      exact pure_does rfl
  | succ live ih =>
    intro r tail evicted
    rw [evictWhile] at evicted
    rw [Watched.evictWhile]
    refine value_does (test r) fun _ => ?_
    cases go : more r with
    | false =>
      obtain rfl : r = r' := by simpa [go] using evicted
      exact pure_does rfl
    | true =>
      obtain ⟨r1,one,tail1⟩ : ∃ r1, evictOne t r = .ok r1 ∧ r1.tail < dynCapEntries :=
        ⟨_,by rw [evictOne,slot_inside t tail],nextSlot_lt _⟩
      rw [go,if_pos rfl,one] at evicted
      exact load_does (slot_access tail _ _) (value_step_does one (ih r1 tail1 evicted))

theorem compact_does {bytes bytes' : Mem} {used freed : Nat} (dyn : s.dyn.used = used) (fits : used ≤ headerTableSize)
    (moved : compact bytes freed (used - freed) = .ok bytes') :
    Does (Access.Inside len) (fun _ s' => s' = s) (Watched.compact bytes freed (used - freed)) (pure bytes') s := by
  rw [compact] at moved
  rw [Watched.compact]
  by_cases none_ : freed = 0
  · rw [if_pos none_] at moved ⊢
    cases moved
    exact pure_does rfl
  rw [if_neg none_] at moved ⊢
  refine load_does ?_ (save_does (.inr ?_) ((plain_does ?_).of_eq ?_))
  · by_cases some_ : freed ≤ used
    · refine .inr ?_
      change freed + (used - freed) ≤ s.dyn.used
      omega
    · refine .inl ?_
      change used - freed = 0
      omega
  · change 0 + (used - freed) ≤ headerTableSize
    omega
  · intro _ _ executed
    exact (pureStep_ok executed).2
  · rw [moved]
    rfl

theorem loadString_does {α : Type} {Post : α → HpackState → Prop} {m : Unit → WatchM α} {x : HpackM α} {p : Ptr} {n : Nat}
    (inside : p.Inside len s.dyn.used n) (rest : Does (Access.Inside len) Post (m ()) x s) :
    Does (Access.Inside len) Post (loadString p n >>= m) x s := by
  cases p with
  | block o => exact load_does (.inr inside) rest
  | strBuf o => exact load_does (.inr inside) rest
  | arena o => exact load_does (.inr inside) rest
  | staticName entry => exact load_does (.inr ((Nat.zero_add n).symm ▸ inside)) rest
  | staticValue entry => exact load_does (.inr ((Nat.zero_add n).symm ▸ inside)) rest

theorem arenaStore_inside {bytes bytes' : Mem} {dst n : Nat} {source : Source}
    (stored : arenaStore bytes dst source n = .ok bytes') :
    n = 0 ∨ dst + n ≤ headerTableSize := by
  have inside : inArena dst n = true := by
    cases source with
    | outside m =>
      rw [arenaStore] at stored
      split at stored
      · assumption
      · contradiction
    | arena off =>
      rw [arenaStore,arenaMove] at stored
      split at stored
      · next both => exact (Bool.and_eq_true_iff.mp both).1
      · contradiction
  simpa [inArena] using inside

/-- A string goes into the arena. -/
theorem store_does {β : Type} {Post : β → HpackState → Prop} {k : Mem → WatchM β} {x : HpackM β}
    {bytes bytes' : Mem} {dst n : Nat}
    {source : Source} (stored : arenaStore bytes dst source n = .ok bytes')
    (rest : Does (Access.Inside len) Post (k bytes') x s) :
    Does (Access.Inside len) Post
    (save .arena dst n >>= fun _ => plain (pureStep (arenaStore bytes dst source n)) >>= k) x s := by
  refine save_does ?_ (value_step_does stored rest)
  rcases arenaStore_inside stored with none_ | inside
  · exact .inl none_
  · exact .inr inside

theorem cleared_does (t : DynTable) :
    Does (Access.Inside len) (fun _ s' => s' = s) (Watched.cleared t) (pure t.cleared) s :=
  saveWord_does _ (saveWord_does _ (saveWord_does _ (saveWord_does _ (pure_does rfl))))

theorem dynInsert_does {t t' : DynTable} {source : Ptr → Source} {name value : Ptr} {nameLen valueLen : Nat}
    (dyn : s.dyn = t)
    (tail : t.tail < dynCapEntries) (fits : t.used ≤ headerTableSize) (nameInside : name.Inside len t.used nameLen)
    (valueInside : value.Inside len t.used valueLen)
    (inserted : h2HpackDynInsert t (source name) nameLen (source value) valueLen = .ok t') :
    Does (Access.Inside len) (fun _ s' => s' = s) (Watched.h2HpackDynInsert t source name nameLen value valueLen)
    (pure t') s := by
  subst dyn
  rw [h2HpackDynInsert] at inserted
  rw [Watched.h2HpackDynInsert]
  cases size : (ckadd nameLen valueLen).bind (ckadd · 32) with
  | none =>
    rw [size] at inserted
    cases inserted
    exact cleared_does s.dyn
  | some entrySize =>
    rw [size] at inserted
    dsimp only at inserted ⊢
    refine loadWord_does _ ?_
    by_cases big : s.dyn.max < entrySize
    · rw [if_pos big] at inserted ⊢
      cases inserted
      exact cleared_does s.dyn
    rw [if_neg big] at inserted ⊢
    obtain ⟨r,evicted,rest⟩ := except_bind_ok inserted
    obtain ⟨compacted,moved,rest⟩ := except_bind_ok rest
    obtain ⟨named,nameStored,rest⟩ := except_bind_ok rest
    obtain ⟨valued,valueStored,last⟩ := except_bind_ok rest
    cases last
    refine loadWord_does _ (loadWord_does _ (loadWord_does _ ?_))
    refine value_does (evictWhile_does ?_ _ _ tail evicted) fun _ => ?_
    · intro r
      exact loadWord_does _ (pure_does rfl)
    refine loadWord_does _ (value_does (compact_does rfl fits moved) fun _ => ?_)
    refine loadString_does nameInside (store_does nameStored (loadString_does valueInside (store_does valueStored ?_)))
    refine save_does (.inr (Nat.mod_lt _ (by decide))) ?_
    exact saveWord_does _ (saveWord_does _ (saveWord_does _ (saveWord_does _ (pure_does rfl))))

theorem dynResize_does {t t' : DynTable} {max : Nat} (dyn : s.dyn = t) (tail : t.tail < dynCapEntries)
    (fits : t.used ≤ headerTableSize) (resized : h2HpackDynResize t max = .ok t') :
    Does (Access.Inside len) (fun _ s' => s' = s) (Watched.h2HpackDynResize t max) (pure t') s := by
  subst dyn
  rw [h2HpackDynResize] at resized
  rw [Watched.h2HpackDynResize]
  obtain ⟨r,evicted,rest⟩ := except_bind_ok resized
  obtain ⟨compacted,moved,last⟩ := except_bind_ok rest
  cases last
  refine saveWord_does _ (loadWord_does _ (loadWord_does _ (loadWord_does _ ?_)))
  refine value_does (evictWhile_does (fun r => pure_does rfl) _ _ tail evicted) fun _ => ?_
  refine saveWord_does _ (saveWord_does _ (saveWord_does _ ?_))
  have moving : Does (Access.Inside len) (fun _ s' => s' = s)
      (Watched.compact s.dyn.bytes r.freed (s.dyn.used - r.freed) >>= fun compacted => pure
        { s.dyn with max := max, size := r.size, count := r.count, tail := r.tail, used := s.dyn.used - r.freed, bytes := compacted })
      (pure { s.dyn with
        max := max, size := r.size, count := r.count, tail := r.tail, used := s.dyn.used - r.freed, bytes :=
          compacted }) s :=
    value_does (compact_does rfl fits moved) fun _ => pure_does rfl
  by_cases none_ : r.freed ≠ 0
  · simp only [if_pos none_]
    exact loadWord_does _ (saveWord_does _ moving)
  · simp only [if_neg none_]
    exact moving

/-! ### Fields -/

/-- Where the strings of a field lie. -/
structure FieldRef.Inside (len used : Nat) (f : FieldRef) : Prop where
  name : f.name.Inside len used f.nameLen
  value : f.value.Inside len used f.valueLen

variable {q : FieldQueue}

theorem tableLookup_does {t : DynTable} (rep : Represents t q) (index : Nat) :
    Does (Access.Inside len) (fun f s' => s' = s ∧ f.Inside len t.used) (Watched.h2HpackTableLookup t index)
      (pureStep (h2HpackTableLookup t index)) s := by
  rw [Watched.h2HpackTableLookup,h2HpackTableLookup]
  by_cases dynamic : staticTableSize < index
  · rw [if_pos dynamic,if_pos dynamic]
    refine Does.of_eq (?_ : Does _ _ _ (pureStep (h2HpackDynLookup t (index - staticTableSize)) >>= fun ref =>
      pure ⟨.arena ref.name,ref.nameLen,.arena ref.value,ref.valueLen⟩) s) ?_
    · refine bind_does (dynLookup_does rep.tail (index - staticTableSize)).executed ?_
      rintro ref _ ⟨rfl,executed⟩
      obtain ⟨follows,inside⟩ := lookup_inside rep (pureStep_ok executed).1
      refine pure_does ⟨rfl,?_,inside⟩
      change ref.name + ref.nameLen ≤ t.used
      omega
    · cases h2HpackDynLookup t (index - staticTableSize) <;> rfl
  rw [if_neg dynamic,if_neg dynamic,Watched.h2HpackStaticLookup,h2HpackStaticLookup]
  by_cases out : index = 0 ∨ staticTableSize < index
  · rw [if_pos out,if_pos out]
    exact throw_does
  rw [if_neg out,if_neg out]
  refine load_does (.inr ?_) (plain_does ?_)
  · change index - 1 + 1 ≤ staticTableSize
    omega
  · rintro _ _ ⟨⟩
    exact ⟨rfl,Nat.le_refl _,Nat.le_refl _⟩

theorem literalName_does (rep : Represents s.dyn q) (room : s.strOff ≤ strBufSize) (n : Nat) :
    Does (Access.Inside «end») (fun r s' => Calm s s' ∧ r.1.Inside «end» s.dyn.used r.2.1)
      (Watched.literalName block off n «end») (literalName block off n «end») s := by
  rw [Watched.literalName,literalName]
  refine bind_does (decodeInt_does n) ?_
  rintro ⟨index,used⟩ _ ⟨rfl,_⟩
  dsimp only
  by_cases new : index = 0
  · rw [if_pos new,if_pos new]
    refine bind_does (decodeString_does room) ?_
    rintro ⟨name,nameLen,nameUsed⟩ s' ⟨calm,lies,_⟩
    exact pure_does ⟨calm,lies⟩
  · rw [if_neg new,if_neg new]
    refine look_does (bind_does ((tableLookup_does rep index).of_eq rfl) ?_)
    rintro entry _ ⟨rfl,inside⟩
    exact pure_does ⟨⟨rfl,room⟩,inside.name⟩

theorem literalField_does (rep : Represents s.dyn q) (room : s.strOff ≤ strBufSize) (n : Nat) :
    Does (Access.Inside «end») (fun r s' => Calm s s' ∧ r.2.Inside «end» s.dyn.used)
      (Watched.literalField block off n «end») (literalField block off n «end») s := by
  rw [Watched.literalField,literalField]
  refine bind_does (literalName_does rep room n) ?_
  rintro ⟨name,nameLen,start⟩ s1 ⟨calm,nameInside⟩
  refine bind_does (decodeString_does calm.room) ?_
  rintro ⟨value,valueLen,used⟩ s2 ⟨calm',valueInside,_⟩
  rw [calm.dyn] at valueInside
  exact pure_does ⟨⟨calm'.dyn.trans calm.dyn,calm'.room⟩,nameInside,valueInside⟩

theorem representation_does (rep : Represents s.dyn q) (room : s.strOff ≤ strBufSize) :
    Does (Access.Inside «end») (fun r s' => Calm s s' ∧ ∀ f, r.2 = .incremental f → f.Inside «end» s.dyn.used)
      (Watched.representation block off «end») (representation block off «end») s := by
  rw [Watched.representation,representation]
  by_cases past : «end» ≤ off
  · rw [if_pos past,if_pos past]
    exact throw_does
  rw [if_neg past,if_neg past]
  refine load_does (block_inside (by omega) _) ?_
  dsimp only
  by_cases indexed : 128 ≤ (block off).toNat
  · rw [if_pos indexed,if_pos indexed]
    refine bind_does (decodeInt_does 7) ?_
    rintro ⟨index,used⟩ _ ⟨rfl,_⟩
    dsimp only
    by_cases zero : index = 0
    · rw [if_pos zero,if_pos zero]
      exact throw_does
    rw [if_neg zero,if_neg zero]
    refine look_does (bind_does ((tableLookup_does rep index).of_eq rfl) ?_)
    rintro entry _ ⟨rfl,_⟩
    exact pure_does ⟨⟨rfl,room⟩,(nomatch ·,·)⟩
  rw [if_neg indexed,if_neg indexed]
  by_cases incremental : 64 ≤ (block off).toNat
  · rw [if_pos incremental,if_pos incremental]
    refine bind_does (literalField_does rep room 6) ?_
    rintro ⟨next,field⟩ s' ⟨calm,inside⟩
    refine pure_does ⟨calm,?_⟩
    rintro _ ⟨⟩
    exact inside
  rw [if_neg incremental,if_neg incremental]
  by_cases update : 32 ≤ (block off).toNat
  · rw [if_pos update,if_pos update]
    refine bind_does (decodeInt_does 5) ?_
    rintro ⟨max,used⟩ _ ⟨rfl,_⟩
    dsimp only
    by_cases large : headerTableSize < max
    · rw [if_pos large,if_pos large]
      exact throw_does
    · rw [if_neg large,if_neg large]
      exact pure_does ⟨⟨rfl,room⟩,(nomatch ·,·)⟩
  · rw [if_neg update,if_neg update]
    refine bind_does (literalField_does rep room 4) ?_
    rintro ⟨next,field⟩ s' ⟨calm,_⟩
    exact pure_does ⟨calm,(nomatch ·,·)⟩

theorem commit_does {r : Representation} {t : DynTable} (rep : Represents s.dyn q)
    (inside : ∀ f, r = .incremental f → f.Inside len s.dyn.used) (committed : commit block s r = .ok t) :
    Does (Access.Inside len) (fun _ s' => s' = s) (Watched.commit block s r) (pure t) s := by
  cases r with
  | indexed f =>
    cases committed
    exact pure_does rfl
  | incremental f =>
    have lies := inside f rfl
    exact dynInsert_does rfl rep.tail (represents_used rep) lies.name lies.value committed
  | sizeUpdate max => exact dynResize_does rfl rep.tail (represents_used rep) committed
  | literal f =>
    cases committed
    exact pure_does rfl

theorem decodeField_does (rep : Represents s.dyn q) (room : s.strOff ≤ strBufSize) :
    Does (Access.Inside «end») (fun _ s' => s'.strOff ≤ strBufSize ∧ ∃ q', Represents s'.dyn q')
      (Watched.h2HpackDecodeField block off «end») (h2HpackDecodeField block off «end») s := by
  rw [Watched.h2HpackDecodeField,h2HpackDecodeField]
  refine bind_does (representation_does rep room).executed ?_
  rintro ⟨next,r⟩ s' ⟨⟨calm,inside⟩,read⟩
  obtain ⟨_,_,_,sourced⟩ := representation_sound rep read
  rw [← calm.dyn] at rep inside
  obtain ⟨t,q',committed,rep',_⟩ := commit_represents block rep sourced
  refine look_does (value_does (commit_does rep inside committed) fun _ => (plain_does ?_).of_eq ?_)
  · rintro _ _ ⟨⟩
    exact ⟨calm.room,q',rep'⟩
  · dsimp only
    rw [committed]

theorem blockLoop_does :
    ∀ (fuel cursor : Nat) (fields : List FieldRef) (s : HpackState) (q : FieldQueue), Represents s.dyn q →
    s.strOff ≤ strBufSize → cursor ≤ «end» →
      Does (Access.Inside «end») (fun _ _ => True) (Watched.blockLoop block «end» fuel cursor fields)
        (blockLoop block «end» fuel cursor fields >>= fun fields => pure (fields,«end»)) s := by
  intro fuel
  induction fuel with
  | zero =>
    intro cursor fields s q _ _ inside
    rw [Watched.blockLoop,blockLoop]
    by_cases done : «end» ≤ cursor
    · rw [if_pos done,if_pos done,Nat.le_antisymm inside done]
      exact (pure_does trivial).of_eq rfl
    · rw [if_neg done,if_neg done]
      exact throw_does.of_eq rfl
  | succ fuel ih =>
    intro cursor fields s q rep room inside
    rw [Watched.blockLoop,blockLoop]
    by_cases done : «end» ≤ cursor
    · rw [if_pos done,if_pos done,Nat.le_antisymm inside done]
      exact (pure_does trivial).of_eq rfl
    rw [if_neg done,if_neg done]
    dsimp only
    rw [bind_assoc]
    refine bind_does (decodeField_does rep room) ?_
    rintro ⟨next,field⟩ s' ⟨room',q',rep'⟩
    dsimp only
    by_cases long : «end» < next
    · rw [if_pos long,if_pos long]
      exact throw_does.of_eq rfl
    rw [if_neg long,if_neg long]
    cases field with
    | none => exact ih next fields s' q' rep' room' (by omega)
    | some f =>
      dsimp only
      by_cases full : maxFields ≤ fields.length
      · rw [if_pos full,if_pos full]
        exact throw_does.of_eq rfl
      · rw [if_neg full,if_neg full]
        refine save_does (.inr ?_) (ih next _ s' q' rep' room' (by omega))
        change fields.length + 1 ≤ maxFields
        omega

/-! ### Blocks -/

theorem decodeBlock_does (rep : Represents s.dyn q) :
    Does (Access.Inside len) (fun _ _ => True) (Watched.h2HpackDecodeBlock block len)
      (h2HpackDecodeBlock block len >>= fun fields => pure (fields,len)) s := by
  rw [Watched.h2HpackDecodeBlock]
  have looped : Does _ _ (Watched.blockLoop block len len 0 []) _ { s with strOff := 0 } :=
    blockLoop_does len 0 [] _ q rep (Nat.zero_le _) (Nat.zero_le len)
  refine saveWord_does _ (Does.of_eq (change_does looped) ?_)
  rfl

end Decoder

/-- Whatever the block and the table, every access is inside its region; the decoder with
    notes does what the one without does, and ends with its cursor at the end of the block
    where it does not fail. -/
theorem accesses_inside (block : Mem) (len : Nat) {s : HpackState} {q : FieldQueue} (rep : Represents s.dyn q) :
    (∀ a ∈ accesses block len s, a.Inside len) ∧
      match h2HpackDecodeBlock block len s with
      | .ok fields s' => Watched.h2HpackDecodeBlock block len (s,[]) = .ok (fields,len) (s',accesses block len s)
      | .error e s' => Watched.h2HpackDecodeBlock block len (s,[]) = .error e (s',accesses block len s) := by
  have does : Does _ _ (Watched.h2HpackDecodeBlock block len) _ s := decodeBlock_does rep
  obtain ⟨log,right,same⟩ := does.run
  have noted_ : accesses block len s = log := by
    rw [accesses,same]
    cases (h2HpackDecodeBlock block len >>= fun fields => pure (fields,len)) s <;> rfl
  rw [noted_]
  refine ⟨right,?_⟩
  rw [same]
  change match h2HpackDecodeBlock block len s with
    | .ok fields s' => noted log (EStateM.bind (h2HpackDecodeBlock block len) (fun fields => pure (fields,len)) s) = _
    | .error e s' => noted log (EStateM.bind (h2HpackDecodeBlock block len) (fun fields => pure (fields,len)) s) = _
  rw [EStateM.bind]
  cases h2HpackDecodeBlock block len s <;> rfl

/-- A literal of the dynamic table whose value is Huffman-coded. -/
def huffmanLiteral : List UInt8 := [0x44,0x81,0x1f]

theorem accesses_inside_huffman :
    (accesses (ofBytes huffmanLiteral) 3 .fresh).all (fun a => decide (a.Inside 3)) = true := by
  rw [List.all_eq_true]
  intro a member
  exact decide_eq_true ((accesses_inside (ofBytes huffmanLiteral) 3 (reset_represents _)).1 a member)

/-- The value is read from the string buffer when it goes into the table. -/
theorem strBuf_read : Represents HpackState.fresh.dyn (Queue.empty headerTableSize) ∧
    ∃ a ∈ accesses (ofBytes huffmanLiteral) 3 .fresh, a.write = false ∧ a.region = .strBuf ∧ a.count = 1 :=
  ⟨reset_represents _,by decide +kernel⟩

end Sarm.Hpack
