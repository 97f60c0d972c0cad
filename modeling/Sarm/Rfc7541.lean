import Sarm.DynFifo
import Sarm.HpackTables
import Sarm.PrefixCode
import Mathlib.Data.List.Pairwise

/-!
Header compression as RFC 7541 defines it: a decoder over lists of octets whose
dynamic table is a queue of fields. It has none of the server's limits on the
size of integers, on the number of fields or on the length of strings. A Huffman
string is specified by what it spells, and decoded by choice.
-/
namespace Sarm.Rfc7541
open Sarm.Fifo Sarm.Hpack Sarm.PrefixCode

/-- Appendix B: code and length in bits of every symbol; the last is EOS. -/
def huffmanCode : List (Nat × Nat) := [
  (0x1ff8,13), (0x7fffd8,23), (0xfffffe2,28), (0xfffffe3,28), (0xfffffe4,28), (0xfffffe5,28), (0xfffffe6,28),
  (0xfffffe7,28), (0xfffffe8,28), (0xffffea,24), (0x3ffffffc,30), (0xfffffe9,28), (0xfffffea,28),
  (0x3ffffffd,30), (0xfffffeb,28), (0xfffffec,28), (0xfffffed,28), (0xfffffee,28), (0xfffffef,28),
  (0xffffff0,28), (0xffffff1,28), (0xffffff2,28), (0x3ffffffe,30), (0xffffff3,28), (0xffffff4,28),
  (0xffffff5,28), (0xffffff6,28), (0xffffff7,28), (0xffffff8,28), (0xffffff9,28), (0xffffffa,28),
  (0xffffffb,28), (0x14,6), (0x3f8,10), (0x3f9,10), (0xffa,12), (0x1ff9,13), (0x15,6), (0xf8,8), (0x7fa,11),
  (0x3fa,10), (0x3fb,10), (0xf9,8), (0x7fb,11), (0xfa,8), (0x16,6), (0x17,6), (0x18,6), (0x0,5), (0x1,5),
  (0x2,5), (0x19,6), (0x1a,6), (0x1b,6), (0x1c,6), (0x1d,6), (0x1e,6), (0x1f,6), (0x5c,7), (0xfb,8),
  (0x7ffc,15), (0x20,6), (0xffb,12), (0x3fc,10), (0x1ffa,13), (0x21,6), (0x5d,7), (0x5e,7), (0x5f,7), (0x60,7),
  (0x61,7), (0x62,7), (0x63,7), (0x64,7), (0x65,7), (0x66,7), (0x67,7), (0x68,7), (0x69,7), (0x6a,7), (0x6b,7),
  (0x6c,7), (0x6d,7), (0x6e,7), (0x6f,7), (0x70,7), (0x71,7), (0x72,7), (0xfc,8), (0x73,7), (0xfd,8),
  (0x1ffb,13), (0x7fff0,19), (0x1ffc,13), (0x3ffc,14), (0x22,6), (0x7ffd,15), (0x3,5), (0x23,6), (0x4,5),
  (0x24,6), (0x5,5), (0x25,6), (0x26,6), (0x27,6), (0x6,5), (0x74,7), (0x75,7), (0x28,6), (0x29,6), (0x2a,6),
  (0x7,5), (0x2b,6), (0x76,7), (0x2c,6), (0x8,5), (0x9,5), (0x2d,6), (0x77,7), (0x78,7), (0x79,7), (0x7a,7),
  (0x7b,7), (0x7ffe,15), (0x7fc,11), (0x3ffd,14), (0x1ffd,13), (0xffffffc,28), (0xfffe6,20), (0x3fffd2,22),
  (0xfffe7,20), (0xfffe8,20), (0x3fffd3,22), (0x3fffd4,22), (0x3fffd5,22), (0x7fffd9,23), (0x3fffd6,22),
  (0x7fffda,23), (0x7fffdb,23), (0x7fffdc,23), (0x7fffdd,23), (0x7fffde,23), (0xffffeb,24), (0x7fffdf,23),
  (0xffffec,24), (0xffffed,24), (0x3fffd7,22), (0x7fffe0,23), (0xffffee,24), (0x7fffe1,23), (0x7fffe2,23),
  (0x7fffe3,23), (0x7fffe4,23), (0x1fffdc,21), (0x3fffd8,22), (0x7fffe5,23), (0x3fffd9,22), (0x7fffe6,23),
  (0x7fffe7,23), (0xffffef,24), (0x3fffda,22), (0x1fffdd,21), (0xfffe9,20), (0x3fffdb,22), (0x3fffdc,22),
  (0x7fffe8,23), (0x7fffe9,23), (0x1fffde,21), (0x7fffea,23), (0x3fffdd,22), (0x3fffde,22), (0xfffff0,24),
  (0x1fffdf,21), (0x3fffdf,22), (0x7fffeb,23), (0x7fffec,23), (0x1fffe0,21), (0x1fffe1,21), (0x3fffe0,22),
  (0x1fffe2,21), (0x7fffed,23), (0x3fffe1,22), (0x7fffee,23), (0x7fffef,23), (0xfffea,20), (0x3fffe2,22),
  (0x3fffe3,22), (0x3fffe4,22), (0x7ffff0,23), (0x3fffe5,22), (0x3fffe6,22), (0x7ffff1,23), (0x3ffffe0,26),
  (0x3ffffe1,26), (0xfffeb,20), (0x7fff1,19), (0x3fffe7,22), (0x7ffff2,23), (0x3fffe8,22), (0x1ffffec,25),
  (0x3ffffe2,26), (0x3ffffe3,26), (0x3ffffe4,26), (0x7ffffde,27), (0x7ffffdf,27), (0x3ffffe5,26),
  (0xfffff1,24), (0x1ffffed,25), (0x7fff2,19), (0x1fffe3,21), (0x3ffffe6,26), (0x7ffffe0,27), (0x7ffffe1,27),
  (0x3ffffe7,26), (0x7ffffe2,27), (0xfffff2,24), (0x1fffe4,21), (0x1fffe5,21), (0x3ffffe8,26), (0x3ffffe9,26),
  (0xffffffd,28), (0x7ffffe3,27), (0x7ffffe4,27), (0x7ffffe5,27), (0xfffec,20), (0xfffff3,24), (0xfffed,20),
  (0x1fffe6,21), (0x3fffe9,22), (0x1fffe7,21), (0x1fffe8,21), (0x7ffff3,23), (0x3fffea,22), (0x3fffeb,22),
  (0x1ffffee,25), (0x1ffffef,25), (0xfffff4,24), (0xfffff5,24), (0x3ffffea,26), (0x7ffff4,23), (0x3ffffeb,26),
  (0x7ffffe6,27), (0x3ffffec,26), (0x3ffffed,26), (0x7ffffe7,27), (0x7ffffe8,27), (0x7ffffe9,27),
  (0x7ffffea,27), (0x7ffffeb,27), (0xffffffe,28), (0x7ffffec,27), (0x7ffffed,27), (0x7ffffee,27),
  (0x7ffffef,27), (0x7fffff0,27), (0x3ffffee,26), (0x3fffffff,30)
]

/-- The code word of an octet. -/
def word (octet : UInt8) : List Bool :=
  bits (huffmanCode.getD octet.toNat (0,0)).2 (huffmanCode.getD octet.toNat (0,0)).1

/-- The bits of octets, the most significant of each first. -/
def stream (octets : List UInt8) : List Bool := octets.flatMap fun octet => bits 8 octet.toNat

/-- Section 5.2: the code words of `out`, then less than an octet of ones. -/
def Spells (octets out : List UInt8) : Prop :=
  ∃ n < 8, stream octets = out.flatMap word ++ List.replicate n true

open Classical in
/-- The string that Huffman-coded octets spell, if they do. -/
noncomputable def huffmanText (octets : List UInt8) : Option (List UInt8) :=
  if h : ∃ out, Spells octets out then some h.choose else none

/-! ### The primitives of section 5 -/

/-- The continuation octets of an integer, `2^m` being the weight of the next. -/
def intRest : List UInt8 → Nat → Nat → Option (Nat × List UInt8)
  | [], _, _ => none
  | octet :: rest, m, value =>
    let value := value + (octet.toNat % 128) * 2^m
    if octet.toNat < 128 then some (value,rest) else intRest rest (m + 7) value

/-- An integer with an `n`-bit prefix. -/
def decodeInt (n : Nat) : List UInt8 → Option (Nat × List UInt8)
  | [] => none
  | octet :: rest =>
    let value := octet.toNat % 2^n
    if value < 2^n - 1 then some (value,rest) else intRest rest 0 value

/-- A string, Huffman-coded when the first bit says so. -/
noncomputable def decodeString (octets : List UInt8) : Option (List UInt8 × List UInt8) := do
  let (length,rest) ← decodeInt 7 octets
  if rest.length < length then none
  else if 128 ≤ (octets.headD 0).toNat then
    let text ← huffmanText (rest.take length)
    some (text,rest.drop length)
  else some (rest.take length,rest.drop length)

/-! ### The representations of section 6 -/

def staticField (entry : Nat) : Field :=
  ⟨ascii (h2HpackStaticTable.getD entry ("","")).1,ascii (h2HpackStaticTable.getD entry ("","")).2⟩

/-- Section 2.3.3: the static table first, then the most recent entries. -/
def tableField (q : FieldQueue) (index : Nat) : Option Field :=
  if index = 0 then none
  else if index ≤ 61 then some (staticField (index - 1)) else recent q.entries (index - 61)

/-- A literal whose name index has an `n`-bit prefix. -/
noncomputable def decodeLiteral (q : FieldQueue) (n : Nat) (octets : List UInt8) : Option (Field × List UInt8) := do
  let (index,rest) ← decodeInt n octets
  let (name,rest) ← if index = 0 then decodeString rest
    else (tableField q index).map fun entry => (entry.name,rest)
  let (value,rest) ← decodeString rest
  some (⟨name,value⟩,rest)

/-- A representation by its meaning. -/
inductive Meaning where
  | indexed (field : Field)
  | incremental (field : Field)
  | sizeUpdate (max : Nat)
  | literal (field : Field)

noncomputable def decodeRepresentation (q : FieldQueue) (octets : List UInt8) : Option (Meaning × List UInt8) :=
  let octet := (octets.headD 0).toNat
  if 128 ≤ octet then do
    let (index,rest) ← decodeInt 7 octets
    let entry ← tableField q index
    some (.indexed entry,rest)
  else if 64 ≤ octet then do
    let (field,rest) ← decodeLiteral q 6 octets
    some (.incremental field,rest)
  else if 32 ≤ octet then do
    let (max,rest) ← decodeInt 5 octets
    if headerTableSize < max then none else some (.sizeUpdate max,rest)
  else do
    let (field,rest) ← decodeLiteral q 4 octets
    some (.literal field,rest)

/-- The dynamic table after a representation. -/
def Meaning.update (q : FieldQueue) : Meaning → FieldQueue
  | incremental field => q.push field
  | sizeUpdate max => q.resize max
  | _ => q

/-- The field a representation stands for. -/
def Meaning.field : Meaning → Option Field
  | indexed field => some field
  | incremental field => some field
  | sizeUpdate _ => none
  | literal field => some field

/-- A header block: its fields and the dynamic table after it. The fuel bounds
    the number of representations. -/
noncomputable def blockFields : Nat → FieldQueue → List UInt8 → Option (List Field × FieldQueue)
  | _, q, [] => some ([],q)
  | 0, _, _ => none
  | fuel+1, q, octets => do
    let (meaning,rest) ← decodeRepresentation q octets
    let (fields,q') ← blockFields fuel (meaning.update q) rest
    some (meaning.field.toList ++ fields,q')

noncomputable def decodeBlock (q : FieldQueue) (octets : List UInt8) : Option (List Field × FieldQueue) :=
  blockFields octets.length q octets

/-! ### Huffman strings are spelled in one way -/

theorem code_sound : ∀ entry ∈ huffmanCode, entry.1 < 2^entry.2 ∧ entry.2 ≤ 30 := by
  decide +kernel

/-- Only EOS is all ones. -/
private theorem code_not_ones : ∀ entry ∈ huffmanCode.take 256, entry.1 ≠ 2^entry.2 - 1 := by
  decide +kernel

theorem code_entry {a : Nat} (here : a < 256) : huffmanCode.getD a (0,0) ∈ huffmanCode := by
  have inside : a < huffmanCode.length := here.trans (by decide +kernel)
  rw [List.getD_eq_getElem _ _ inside]
  exact List.getElem_mem inside

/-- Where the streams that begin with a symbol's code word lie among the 30-bit
    numbers. -/
private def low (a : Nat) : Nat := (huffmanCode.getD a (0,0)).1 * 2^(30 - (huffmanCode.getD a (0,0)).2)
private def high (a : Nat) : Nat := ((huffmanCode.getD a (0,0)).1 + 1) * 2^(30 - (huffmanCode.getD a (0,0)).2)

/-- In the order of the decoder's table the code words follow one another. -/
private theorem code_chain : (h2HuffmanTable.map Prod.snd).IsChain fun a b => high a ≤ low b := by
  decide +kernel

private theorem low_lt_high (a : Nat) : low a < high a := by
  have weight := Nat.two_pow_pos (30 - (huffmanCode.getD a (0,0)).2)
  rw [low,high,Nat.succ_mul]
  omega

private theorem code_pairwise : (h2HuffmanTable.map Prod.snd).Pairwise fun a b => high a ≤ low b := by
  have transitive : IsTrans Nat fun a b => high a ≤ low b :=
    ⟨fun a b c first second => first.trans ((low_lt_high b).le.trans second)⟩
  exact List.isChain_iff_pairwise.mp code_chain

/-- The decoder's table lists every symbol, since its symbols are distinct. -/
private theorem code_listed {a : Nat} (here : a < 256) : a ∈ h2HuffmanTable.map Prod.snd := by
  have distinct : (h2HuffmanTable.map Prod.snd).Nodup := code_pairwise.imp (by
    rintro a b before rfl
    exact absurd before (Nat.not_le.mpr (low_lt_high a)))
  have symbols : ∀ s ∈ h2HuffmanTable.map Prod.snd, s < 257 := by decide +kernel
  have inside := List.subperm_of_subset distinct (fun s listed => List.mem_range.mpr (symbols s listed))
  have all := inside.perm_of_length_le (by decide +kernel)
  exact all.mem_iff.mpr (List.mem_range.mpr (by omega))

private theorem code_apart {a b : Nat} (hereA : a < 256) (hereB : b < 256) (other : a ≠ b) :
    high a ≤ low b ∨ high b ≤ low a := by
  have apart := code_pairwise.imp fun {a b} before => (Or.inl before : high a ≤ low b ∨ high b ≤ low a)
  have symmetric : Std.Symm fun a b => high a ≤ low b ∨ high b ≤ low a := ⟨fun a b => Or.symm⟩
  exact apart.forall (code_listed hereA) (code_listed hereB) other

private theorem code_clash {a b : Nat} (hereA : a < 256) (hereB : b < 256)
    (shorter : (huffmanCode.getD a (0,0)).2 ≤ (huffmanCode.getD b (0,0)).2)
    (quotient : (huffmanCode.getD b (0,0)).1 / 2^((huffmanCode.getD b (0,0)).2 - (huffmanCode.getD a (0,0)).2) =
      (huffmanCode.getD a (0,0)).1) : a = b := by
  by_contra other
  have apart := code_apart hereA hereB other
  have long := (code_sound _ (code_entry hereB)).2
  have nonemptyA := low_lt_high a
  have nonemptyB := low_lt_high b
  rw [Nat.div_eq_iff (Nat.two_pow_pos _)] at quotient
  have split : 2^(30 - (huffmanCode.getD a (0,0)).2) =
      2^((huffmanCode.getD b (0,0)).2 - (huffmanCode.getD a (0,0)).2) * 2^(30 - (huffmanCode.getD b (0,0)).2) := by
    rw [← Nat.pow_add]
    congr 1
    omega
  have from_ : low a ≤ low b := by
    rw [low,low,split,← Nat.mul_assoc]
    exact Nat.mul_le_mul_right _ quotient.1
  have inside : low b < high a := by
    rw [low,high,split,← Nat.mul_assoc]
    apply Nat.mul_lt_mul_of_pos_right _ (Nat.two_pow_pos _)
    rw [Nat.succ_mul]
    have bound := quotient.2
    have positive := Nat.two_pow_pos ((huffmanCode.getD b (0,0)).2 - (huffmanCode.getD a (0,0)).2)
    omega
  omega

theorem word_prefixFree : PrefixFree word := by
  intro a b begins
  have small := (code_sound _ (code_entry a.toNat_lt)).1
  have big := (code_sound _ (code_entry b.toNat_lt)).1
  obtain ⟨shorter,quotient⟩ := quotient_of_prefix small begins big
  exact UInt8.toNat_inj.mp (code_clash a.toNat_lt b.toNat_lt shorter quotient)

theorem word_length (a : UInt8) : (word a).length ≤ 30 := by
  rw [word,bits_length]
  exact (code_sound _ (code_entry a.toNat_lt)).2

/-- Ones hold no whole code word. -/
theorem ones_incomplete (n : Nat) : Incomplete word (List.replicate n true) := by
  intro a begins
  have small := (code_sound _ (code_entry a.toNat_lt)).1
  have ones := bits_ones n
  have positive := Nat.two_pow_pos n
  rw [← ones] at begins
  obtain ⟨shorter,quotient⟩ := quotient_of_prefix small begins (by omega)
  have all : (2^n - 1) / 2^(n - (huffmanCode.getD a.toNat (0,0)).2) = 2^(huffmanCode.getD a.toNat (0,0)).2 - 1 := by
    obtain ⟨d,split⟩ := Nat.exists_eq_add_of_le shorter
    rw [split,Nat.add_sub_cancel_left,Nat.pow_add]
    have weight := Nat.two_pow_pos d
    have whole := Nat.two_pow_pos (huffmanCode.getD a.toNat (0,0)).2
    rw [Nat.div_eq_iff weight]
    constructor
    · rw [Nat.sub_mul]
      omega
    · rw [Nat.sub_mul]
      have room : 2^d ≤ 2^(huffmanCode.getD a.toNat (0,0)).2 * 2^d := Nat.le_mul_of_pos_left _ whole
      omega
  have inside : a.toNat < (huffmanCode.take 256).length := a.toNat_lt.trans_le (by decide +kernel)
  have listed : huffmanCode.getD a.toNat (0,0) ∈ huffmanCode.take 256 := by
    have whole : a.toNat < huffmanCode.length := inside.trans_le (List.length_take_le' 256 huffmanCode)
    rw [List.getD_eq_getElem _ _ whole,← List.getElem_take (h := inside)]
    exact List.getElem_mem inside
  exact code_not_ones _ listed (by rw [← quotient,all])

theorem huffmanText_of_spells {octets out : List UInt8} (spells : Spells octets out) :
    huffmanText octets = some out := by
  have some_ : ∃ out, Spells octets out := ⟨out,spells⟩
  rw [huffmanText,dif_pos some_]
  obtain ⟨n,_,chosen⟩ := some_.choose_spec
  obtain ⟨m,_,given⟩ := spells
  rw [spelled_once word word_prefixFree (ones_incomplete n) (ones_incomplete m) _ _ (chosen.symm.trans given)]

end Sarm.Rfc7541
