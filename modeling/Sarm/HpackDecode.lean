import Sarm.DynTable
import Sarm.HpackTables

/-!
The HPACK decoder. Addresses in the block are offsets from its first octet, and
`end` is the block's length. A decoded name or value is a pointer with a length:
into the block, into the Huffman output, into the dynamic table's arena, or into
the static table. The state is kept by a failing step, as in memory.
-/
namespace Sarm.Hpack
open Sarm.Memory

/-- `H2_HPACK_STR_BUF_SIZE`. -/
def strBufSize : Nat := 4096
/-- `H2_HPACK_MAX_FIELDS`. -/
def maxFields : Nat := 32
/-- `H2_HPACK_STATIC_TABLE_SIZE`. -/
def staticTableSize : Nat := 61

/-- The dynamic table, `h2_hpack_str_buf` and `h2_hpack_str_off`. -/
structure HpackState where
  dyn : DynTable
  strBuf : Mem
  strOff : Nat

/-- Where a decoded string starts. -/
inductive Ptr where
  | block (off : Nat)
  | strBuf (off : Nat)
  | arena (off : Nat)
  | staticName (entry : Nat)
  | staticValue (entry : Nat)
  deriving DecidableEq, Repr

/-- A slot of `h2_hpack_fields`. -/
structure FieldRef where
  name : Ptr
  nameLen : Nat
  value : Ptr
  valueLen : Nat
  deriving DecidableEq, Repr

abbrev HpackM := EStateM HpackError HpackState

/-- A step that reads no state. -/
def pureStep {α : Type} (x : Except HpackError α) : HpackM α := fun s =>
  match x with
  | .ok a => .ok a s
  | .error e => .error e s

def staticEntry (entry : Nat) : String × String := h2HpackStaticTable.getD entry ("","")

/-- The bytes that follow a pointer. -/
def HpackState.at (s : HpackState) (block : Mem) : Ptr → Mem
  | .block off => shift block off
  | .strBuf off => shift s.strBuf off
  | .arena off => shift s.dyn.bytes off
  | .staticName entry => ofBytes (ascii (staticEntry entry).1)
  | .staticValue entry => ofBytes (ascii (staticEntry entry).2)

/-- `ckrange`: `len` octets from `base` on end by `end`. -/
def ckrange (base len «end» : Nat) : Bool := base + len ≤ «end»

/-! ### Integers -/

/-- The continuation octets. The fuel is the number of turns left: the shift has
    passed 32 in the sixth, which fails. -/
def intLoop (block : Mem) (off «end» : Nat) : Nat → Nat → Nat → Nat → Except HpackError (Nat × Nat)
  | 0, _, _, _ => .error .outOfBounds
  | fuel+1, value, consumed, shift =>
    if «end» ≤ off + consumed then .error .compression
    else
      let octet := (block (off + consumed)).toNat
      if 32 ≤ shift then .error .compression
      else
        let value := value + (octet % 128) * 2^shift
        if 2^32 ≤ value then .error .compression
        else if octet < 128 then .ok (value,consumed + 1)
        else intLoop block off «end» fuel value (consumed + 1) (shift + 7)

/-- The integer with an `n`-bit prefix at `off`, with the octets it takes. -/
def h2HpackDecodeInt (block : Mem) (off n «end» : Nat) : Except HpackError (Nat × Nat) :=
  if «end» ≤ off then .error .compression
  else
    let mask := 2^n - 1
    let value := (block off).toNat % 2^n
    if value < mask then .ok (value,1) else intLoop block off «end» 6 value 1 0

/-! ### Huffman strings -/

/-- The registers of the bit loop, with the output buffer. -/
structure Huff where
  buf : Mem
  count : Nat
  code : Nat
  len : Nat

/-- Bit `pos` of the stream, the most significant bit of an octet first. -/
def bitAt (src : Mem) (pos : Nat) : Nat := (src (pos / 8)).toNat / 2^(7 - pos % 8) % 2

/-- Scan the codes of one length. -/
def huffScan (code len : Nat) : Option Nat :=
  let low := h2HuffmanLenStart.getD len 0
  let high := h2HuffmanLenStart.getD (len + 1) 0
  (((h2HuffmanTable.drop low).take (high - low)).find? fun entry => entry.1 = code).map Prod.snd

/-- One bit. -/
def huffBit (src : Mem) (off pos : Nat) (h : Huff) : Except Huff Huff :=
  let code := 2 * h.code + bitAt src pos
  let len := h.len + 1
  match huffScan code len with
  | none => .ok { h with code := code, len := len }
  | some symbol =>
    if symbol = 256 then .error h
    else if strBufSize ≤ off + h.count then .error h
    else .ok
      { buf := fun i => if i = off + h.count then UInt8.ofNat symbol else h.buf i
        count := h.count + 1
        code := 0
        len := 0 }

/-- The bits from `pos` on, `left` of them. -/
def huffBits (src : Mem) (off : Nat) : Nat → Nat → Huff → Except Huff Huff
  | 0, _, h => .ok h
  | left+1, pos, h => match huffBit src off pos h with
    | .error h' => .error h'
    | .ok h' => huffBits src off left (pos + 1) h'

/-- What is left over is at most 7 bits, all ones. -/
def huffPadding (h : Huff) : Bool := h.len ≤ 7 && (h.len = 0 || h.code = 2^h.len - 1)

/-- Expand `count` octets at `off` behind the strings already expanded. -/
def h2HuffmanDecode (block : Mem) (off count «end» : Nat) : HpackM (Ptr × Nat) := fun s =>
  if ckrange off count «end» then
    match huffBits (shift block off) s.strOff (8 * count) 0 ⟨s.strBuf,0,0,0⟩ with
    | .error h => .error .compression { s with strBuf := h.buf }
    | .ok h =>
      if huffPadding h then
        .ok (.strBuf s.strOff,h.count) { s with strBuf := h.buf, strOff := s.strOff + h.count }
      else .error .compression { s with strBuf := h.buf }
  else .error .compression s

/-- The string at `off`: where its bytes are, how many, and the octets it takes. -/
def h2HpackDecodeString (block : Mem) (off «end» : Nat) : HpackM (Ptr × Nat × Nat) :=
  if «end» ≤ off then throw HpackError.compression
  else do
    let (length,used) ← pureStep (h2HpackDecodeInt block off 7 «end»)
    if ckrange (off + used) length «end» then
      if 128 ≤ (block off).toNat then do
        let (decoded,decodedLen) ← h2HuffmanDecode block (off + used) length «end»
        return (decoded,decodedLen,used + length)
      else return (.block (off + used),length,used + length)
    else throw HpackError.compression

/-! ### Fields -/

def h2HpackStaticLookup (index : Nat) : Except HpackError FieldRef :=
  if index = 0 ∨ staticTableSize < index then .error .compression
  else
    let entry := staticEntry (index - 1)
    .ok ⟨.staticName (index - 1),(ascii entry.1).length,.staticValue (index - 1),(ascii entry.2).length⟩

/-- The combined address space of the static and the dynamic table. -/
def h2HpackTableLookup (t : DynTable) (index : Nat) : Except HpackError FieldRef :=
  if staticTableSize < index then
    match h2HpackDynLookup t (index - staticTableSize) with
    | .error e => .error e
    | .ok ref => .ok ⟨.arena ref.name,ref.nameLen,.arena ref.value,ref.valueLen⟩
  else h2HpackStaticLookup index

/-- A representation as read from the block, before the dynamic table follows it. -/
inductive Representation where
  | indexed (field : FieldRef)
  | incremental (field : FieldRef)
  | sizeUpdate (max : Nat)
  | literal (field : FieldRef)
  deriving DecidableEq, Repr

/-- The name of a literal with its index in an `n`-bit prefix: from the tables, or
    a string behind the index. Also where the value string starts. -/
def literalName (block : Mem) (off n «end» : Nat) : HpackM (Ptr × Nat × Nat) := do
  let (index,used) ← pureStep (h2HpackDecodeInt block off n «end»)
  if index = 0 then
    let (name,nameLen,nameUsed) ← h2HpackDecodeString block (off + used) «end»
    return (name,nameLen,off + used + nameUsed)
  else
    let entry ← fun s => pureStep (h2HpackTableLookup s.dyn index) s
    return (entry.name,entry.nameLen,off + used)

/-- A literal field and the octet after it. -/
def literalField (block : Mem) (off n «end» : Nat) : HpackM (Nat × FieldRef) := do
  let (name,nameLen,start) ← literalName block off n «end»
  let (value,valueLen,used) ← h2HpackDecodeString block start «end»
  return (start + used,⟨name,nameLen,value,valueLen⟩)

/-- The representation at `off` and the octet after it; its first octet selects
    the form. -/
def representation (block : Mem) (off «end» : Nat) : HpackM (Nat × Representation) :=
  if «end» ≤ off then throw HpackError.compression
  else
    let octet := (block off).toNat
    if 128 ≤ octet then do
      let (index,used) ← pureStep (h2HpackDecodeInt block off 7 «end»)
      if index = 0 then throw HpackError.compression
      else
        let entry ← fun s => pureStep (h2HpackTableLookup s.dyn index) s
        return (off + used,.indexed entry)
    else if 64 ≤ octet then do
      let (next,field) ← literalField block off 6 «end»
      return (next,.incremental field)
    else if 32 ≤ octet then do
      let (max,used) ← pureStep (h2HpackDecodeInt block off 5 «end»)
      if headerTableSize < max then throw HpackError.compression
      else return (off + used,.sizeUpdate max)
    else do
      let (next,field) ← literalField block off 4 «end»
      return (next,.literal field)

/-- Where an insertion reads the bytes behind a pointer. -/
def HpackState.source (s : HpackState) (block : Mem) : Ptr → Source
  | .arena off => .arena off
  | p => .outside (s.at block p)

/-- The dynamic table after a representation. -/
def commit (block : Mem) (s : HpackState) : Representation → Except HpackError DynTable
  | .incremental f =>
    h2HpackDynInsert s.dyn (s.source block f.name) f.nameLen (s.source block f.value) f.valueLen
  | .sizeUpdate max => h2HpackDynResize s.dyn max
  | _ => .ok s.dyn

/-- The field a representation hands on; a size update is none. -/
def Representation.field : Representation → Option FieldRef
  | .indexed f => some f
  | .incremental f => some f
  | .sizeUpdate _ => none
  | .literal f => some f

/-- The next octet and the field. The table is changed last, once the whole
    representation has been read. -/
def h2HpackDecodeField (block : Mem) (off «end» : Nat) : HpackM (Nat × Option FieldRef) := do
  let (next,r) ← representation block off «end»
  fun s => match commit block s r with
    | .ok dyn => .ok (next,r.field) { s with dyn := dyn }
    | .error e => .error e s

/-- The representations from `cursor` on. The fuel bounds their number by the
    octets left, since each takes at least one. -/
def blockLoop (block : Mem) («end» : Nat) : Nat → Nat → List FieldRef → HpackM (List FieldRef)
  | fuel, cursor, fields =>
    if «end» ≤ cursor then return fields
    else match fuel with
      | 0 => throw HpackError.outOfBounds
      | fuel+1 => do
        let (next,field) ← h2HpackDecodeField block cursor «end»
        if «end» < next then throw HpackError.compression
        else match field with
          | none => blockLoop block «end» fuel next fields
          | some f =>
            if maxFields ≤ fields.length then throw HpackError.compression
            else blockLoop block «end» fuel next (fields ++ [f])

/-- The fields of a whole block of `len` octets. -/
def h2HpackDecodeBlock (block : Mem) (len : Nat) : HpackM (List FieldRef) := fun s =>
  blockLoop block len len 0 [] { s with strOff := 0 }

end Sarm.Hpack
