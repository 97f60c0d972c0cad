import Sarm.HpackDecode
import Sarm.Watch

/-!
The HPACK decoder with a note of every access it makes to memory outside its stack.
An access is to a region, in octets or in entries of it; that of a string is to the
region its pointer goes into.
-/
namespace Sarm.Hpack
open Sarm.Memory Sarm.Watch

/-! ### Accesses -/

/-- The globals of one word: `h2_hpack_str_off` and those of the dynamic table. -/
inductive Word where
  | strOff
  | dynMax
  | dynSize
  | dynUsed
  | dynCount
  | dynTail
  deriving DecidableEq, Repr

inductive Region where
  | block
  | arena
  | slots
  | strBuf
  | fields
  | staticTable
  | staticName (entry : Nat)
  | staticValue (entry : Nat)
  | huffmanTable
  | huffmanLenStart
  | word (global : Word)
  deriving DecidableEq, Repr

/-- An access, with how much of the arena is in use when the representation begins that
    it is made for. -/
structure Access where
  write : Bool
  region : Region
  off : Nat
  count : Nat
  used : Nat
  deriving DecidableEq, Repr

abbrev WatchM := Noting Access HpackError HpackState

def load (region : Region) (off count : Nat) : WatchM Unit := note fun s => ⟨false,region,off,count,s.dyn.used⟩
def save (region : Region) (off count : Nat) : WatchM Unit := note fun s => ⟨true,region,off,count,s.dyn.used⟩
def loadWord (global : Word) : WatchM Unit := load (.word global) 0 1
def saveWord (global : Word) : WatchM Unit := save (.word global) 0 1

/-- The octets behind a pointer. -/
def loadString : Ptr → Nat → WatchM Unit
  | .block off, n => load .block off n
  | .strBuf off, n => load .strBuf off n
  | .arena off, n => load .arena off n
  | .staticName entry, n => load (.staticName entry) 0 n
  | .staticValue entry, n => load (.staticValue entry) 0 n

namespace Watched

/-! ### Integers -/

def intLoop (block : Mem) (off «end» : Nat) : Nat → Nat → Nat → Nat → WatchM (Nat × Nat)
  | 0, _, _, _ => throw .outOfBounds
  | fuel+1, value, consumed, shift =>
    if «end» ≤ off + consumed then throw .compression
    else do
      load .block (off + consumed) 1
      let octet := (block (off + consumed)).toNat
      if 32 ≤ shift then throw .compression
      else
        let value := value + (octet % 128) * 2^shift
        if 2^32 ≤ value then throw .compression
        else if octet < 128 then return (value,consumed + 1)
        else intLoop block off «end» fuel value (consumed + 1) (shift + 7)

def h2HpackDecodeInt (block : Mem) (off n «end» : Nat) : WatchM (Nat × Nat) :=
  if «end» ≤ off then throw .compression
  else do
    load .block off 1
    let value := (block off).toNat % 2^n
    if value < 2^n - 1 then return (value,1) else intLoop block off «end» 6 value 1 0

/-! ### Huffman strings -/

/-- The entries from `i` on, up to the one with the code. -/
def scanLoop (code : Nat) : Nat → Nat → WatchM (Option Nat)
  | 0, _ => return none
  | left+1, i => do
    load .huffmanTable i 1
    let entry := h2HuffmanTable.getD i (0,0)
    if entry.1 = code then return some entry.2 else scanLoop code left (i + 1)

def huffScan (code len : Nat) : WatchM (Option Nat) := do
  load .huffmanLenStart len 1
  let low := h2HuffmanLenStart.getD len 0
  load .huffmanLenStart (len + 1) 1
  let high := h2HuffmanLenStart.getD (len + 1) 0
  scanLoop code (high - low) low

/-- One bit of the octets at `off`; the output starts at `out`. -/
def huffBit (block : Mem) (off out pos : Nat) (h : Huff) : WatchM (Except Huff Huff) := do
  load .block (off + pos / 8) 1
  let code := 2 * h.code + bitAt (shift block off) pos
  let len := h.len + 1
  match ← huffScan code len with
  | none => return .ok { h with code := code, len := len }
  | some symbol =>
    if symbol = 256 then return .error h
    else if strBufSize ≤ out + h.count then return .error h
    else do
      save .strBuf (out + h.count) 1
      return .ok
        { buf := fun i => if i = out + h.count then UInt8.ofNat symbol else h.buf i
          count := h.count + 1
          code := 0
          len := 0 }

def huffBits (block : Mem) (off out : Nat) : Nat → Nat → Huff → WatchM (Except Huff Huff)
  | 0, _, h => return .ok h
  | left+1, pos, h => do
    match ← huffBit block off out pos h with
    | .error h' => return .error h'
    | .ok h' => huffBits block off out left (pos + 1) h'

def h2HuffmanDecode (block : Mem) (off count «end» : Nat) : WatchM (Ptr × Nat) :=
  if ckrange off count «end» then do
    loadWord .strOff
    let (out,buf) ← look fun s => (s.strOff,s.strBuf)
    match ← huffBits block off out (8 * count) 0 ⟨buf,0,0,0⟩ with
    | .error h => plain fun s => .error .compression { s with strBuf := h.buf }
    | .ok h =>
      if huffPadding h then do
        saveWord .strOff
        plain fun s => .ok (.strBuf out,h.count) { s with strBuf := h.buf, strOff := out + h.count }
      else plain fun s => .error .compression { s with strBuf := h.buf }
  else throw .compression

def h2HpackDecodeString (block : Mem) (off «end» : Nat) : WatchM (Ptr × Nat × Nat) :=
  if «end» ≤ off then throw .compression
  else do
    load .block off 1
    let (length,used) ← h2HpackDecodeInt block off 7 «end»
    if ckrange (off + used) length «end» then
      if 128 ≤ (block off).toNat then do
        let (decoded,decodedLen) ← h2HuffmanDecode block (off + used) length «end»
        return (decoded,decodedLen,used + length)
      else return (.block (off + used),length,used + length)
    else throw .compression

/-! ### The dynamic table -/

def lookupWalk (t : DynTable) : Nat → Nat → Nat → WatchM (Nat × Nat)
  | 0, i, off => return (i,off)
  | steps+1, i, off => do
    load .slots i 1
    let entry ← plain (pureStep (t.slot i))
    lookupWalk t steps (nextSlot i) (off + (entry.nameLen + entry.valueLen))

def h2HpackDynLookup (t : DynTable) (index : Nat) : WatchM DynRef :=
  if index = 0 then throw .compression
  else do
    loadWord .dynCount
    if t.count < index then throw .compression
    else do
      loadWord .dynTail
      let (i,off) ← lookupWalk t (t.count - index) t.tail 0
      load .slots i 1
      let entry ← plain (pureStep (t.slot i))
      return ⟨off,entry.nameLen,off + entry.nameLen,entry.valueLen⟩

/-- Evict while a test asks for it, which may read memory of its own. -/
def evictWhile (t : DynTable) (more : Evicting → WatchM Bool) : Nat → Evicting → WatchM Evicting
  | 0, r => do
    if ← more r then throw .outOfBounds else return r
  | live+1, r => do
    if ← more r then do
      load .slots r.tail 1
      let r' ← plain (pureStep (evictOne t r))
      evictWhile t more live r'
    else return r

/-- Move what is live to the front of the arena. -/
def compact (bytes : Mem) (freed live : Nat) : WatchM Mem :=
  if freed = 0 then return bytes
  else do
    load .arena freed live
    save .arena 0 live
    plain (pureStep (arenaMove bytes 0 freed live))

/-- The table emptied. -/
def cleared (t : DynTable) : WatchM DynTable := do
  saveWord .dynSize
  saveWord .dynUsed
  saveWord .dynCount
  saveWord .dynTail
  return t.cleared

/-- Insert what is behind two pointers, `source` being where they are read from. -/
def h2HpackDynInsert (t : DynTable) (source : Ptr → Source) (name : Ptr) (nameLen : Nat) (value : Ptr) (valueLen : Nat) :
    WatchM DynTable :=
  match (ckadd nameLen valueLen).bind (ckadd · 32) with
  | none => cleared t
  | some entrySize => do
    loadWord .dynMax
    if t.max < entrySize then cleared t
    else do
      loadWord .dynSize
      loadWord .dynCount
      loadWord .dynTail
      let more := fun (r : Evicting) => do
        loadWord .dynMax
        return t.max < r.size + entrySize || dynCapEntries ≤ r.count
      let r ← evictWhile t more t.count t.start
      loadWord .dynUsed
      let live := t.used - r.freed
      let compacted ← compact t.bytes r.freed live
      loadString name nameLen
      save .arena live nameLen
      let named ← plain (pureStep (arenaStore compacted live (source name) nameLen))
      loadString value valueLen
      save .arena (live + nameLen) valueLen
      let valued ← plain (pureStep (arenaStore named (live + nameLen) (source value) valueLen))
      let head := (r.tail + r.count) % dynCapEntries
      save .slots head 1
      saveWord .dynSize
      saveWord .dynCount
      saveWord .dynTail
      saveWord .dynUsed
      return {
        max := t.max
        size := r.size + entrySize
        used := live + nameLen + valueLen
        count := r.count + 1
        tail := r.tail
        entries := fun i => if i = head then ⟨nameLen,valueLen⟩ else t.entries i
        bytes := valued }

def h2HpackDynResize (t : DynTable) (max : Nat) : WatchM DynTable := do
  saveWord .dynMax
  loadWord .dynSize
  loadWord .dynCount
  loadWord .dynTail
  let r ← evictWhile t (fun r => return max < r.size) t.count t.start
  saveWord .dynSize
  saveWord .dynCount
  saveWord .dynTail
  let live := t.used - r.freed
  if r.freed ≠ 0 then do
    loadWord .dynUsed
    saveWord .dynUsed
  let compacted ← compact t.bytes r.freed live
  return { t with max := max, size := r.size, count := r.count, tail := r.tail, used := live, bytes := compacted }

/-! ### Fields -/

def h2HpackStaticLookup (index : Nat) : WatchM FieldRef :=
  if index = 0 ∨ staticTableSize < index then throw .compression
  else do
    load .staticTable (index - 1) 1
    plain (pureStep (Hpack.h2HpackStaticLookup index))

def h2HpackTableLookup (t : DynTable) (index : Nat) : WatchM FieldRef :=
  if staticTableSize < index then do
    let ref ← h2HpackDynLookup t (index - staticTableSize)
    return ⟨.arena ref.name,ref.nameLen,.arena ref.value,ref.valueLen⟩
  else h2HpackStaticLookup index

/-- The table there is. -/
def table : WatchM DynTable := look HpackState.dyn

def literalName (block : Mem) (off n «end» : Nat) : WatchM (Ptr × Nat × Nat) := do
  let (index,used) ← h2HpackDecodeInt block off n «end»
  if index = 0 then do
    let (name,nameLen,nameUsed) ← h2HpackDecodeString block (off + used) «end»
    return (name,nameLen,off + used + nameUsed)
  else do
    let entry ← h2HpackTableLookup (← table) index
    return (entry.name,entry.nameLen,off + used)

def literalField (block : Mem) (off n «end» : Nat) : WatchM (Nat × FieldRef) := do
  let (name,nameLen,start) ← literalName block off n «end»
  let (value,valueLen,used) ← h2HpackDecodeString block start «end»
  return (start + used,⟨name,nameLen,value,valueLen⟩)

def representation (block : Mem) (off «end» : Nat) : WatchM (Nat × Representation) :=
  if «end» ≤ off then throw .compression
  else do
    load .block off 1
    let octet := (block off).toNat
    if 128 ≤ octet then do
      let (index,used) ← h2HpackDecodeInt block off 7 «end»
      if index = 0 then throw .compression
      else do
        let entry ← h2HpackTableLookup (← table) index
        return (off + used,.indexed entry)
    else if 64 ≤ octet then do
      let (next,field) ← literalField block off 6 «end»
      return (next,.incremental field)
    else if 32 ≤ octet then do
      let (max,used) ← h2HpackDecodeInt block off 5 «end»
      if headerTableSize < max then throw .compression
      else return (off + used,.sizeUpdate max)
    else do
      let (next,field) ← literalField block off 4 «end»
      return (next,.literal field)

def commit (block : Mem) (s : HpackState) : Representation → WatchM DynTable
  | .incremental f => h2HpackDynInsert s.dyn (s.source block) f.name f.nameLen f.value f.valueLen
  | .sizeUpdate max => h2HpackDynResize s.dyn max
  | _ => return s.dyn

def h2HpackDecodeField (block : Mem) (off «end» : Nat) : WatchM (Nat × Option FieldRef) := do
  let (next,r) ← representation block off «end»
  let dyn ← commit block (← look id) r
  plain fun s => .ok (next,r.field) { s with dyn := dyn }

/-- The representations from `cursor` on: the fields, and where the cursor is then. -/
def blockLoop (block : Mem) («end» : Nat) : Nat → Nat → List FieldRef → WatchM (List FieldRef × Nat)
  | 0, cursor, fields => if «end» ≤ cursor then return (fields,cursor) else throw .outOfBounds
  | fuel+1, cursor, fields =>
    if «end» ≤ cursor then return (fields,cursor)
    else do
      let (next,field) ← h2HpackDecodeField block cursor «end»
      if «end» < next then throw .compression
      else match field with
        | none => blockLoop block «end» fuel next fields
        | some f =>
          if maxFields ≤ fields.length then throw .compression
          else do
            save .fields fields.length 1
            blockLoop block «end» fuel next (fields ++ [f])

def h2HpackDecodeBlock (block : Mem) (len : Nat) : WatchM (List FieldRef × Nat) := do
  saveWord .strOff
  change fun s => { s with strOff := 0 }
  blockLoop block len len 0 []

end Watched

/-- The accesses made for a block of `len` octets. -/
def accesses (block : Mem) (len : Nat) (s : HpackState) : List Access :=
  match Watched.h2HpackDecodeBlock block len (s,[]) with
  | .ok _ w => w.2
  | .error _ w => w.2

end Sarm.Hpack
