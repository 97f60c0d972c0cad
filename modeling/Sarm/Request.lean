import Sarm.HpackDecode
import Sarm.Path

/-!
The request record: one for the whole connection, with its buffers. Building it
from the fields of a header block reads them through their pointers, and writes
the buffers as it goes, also when the block is rejected further on.
-/
namespace Sarm.H2
open Sarm.Memory
open Sarm.Hpack (ascii Ptr FieldRef)

/-- `AUTHORITY_BUF_SIZE`. -/
def authorityBufSize : Nat := 256
/-- `h2_range_buf_size`. -/
def rangeBufSize : Nat := 64

/-- The method ids. -/
inductive Method where
  | get
  | head
  | options
  | unknown
  deriving DecidableEq, Repr

/-- `request`, with `filename_buf`, `query_buf`, `authority_buf` and `h2_range_buf`.
    The pointers of the record go to the start of these or are null. -/
structure Request where
  method : Method
  streamId : Nat
  pathLength : Nat
  query : Bool
  queryLength : Nat
  authority : Bool
  range : Bool
  rangeLength : Nat
  forbidden : Bool
  filenameBuf : Mem
  queryBuf : Mem
  authorityBuf : Mem
  rangeBuf : Mem

/-! ### Strings -/

/-- Byte-exact comparison of `len` octets with a name. -/
def h2NameEq (m : Mem) (len : Nat) (name : String) : Bool := len = (ascii name).length && slice m 0 len = ascii name

/-- An octet with A to Z folded to lower case. -/
def foldCase (octet : UInt8) : UInt8 :=
  if 'A'.toUInt8 ≤ octet ∧ octet ≤ 'Z'.toUInt8 then octet + 0x20 else octet

theorem foldCase_zero {octet : UInt8} (folded : foldCase octet = foldCase 0) : octet = 0 := by
  have nul : foldCase 0 = 0 := rfl
  rw [foldCase,nul] at folded
  split at folded
  · next letter =>
    have low : 65 ≤ octet.toNat := UInt8.le_iff_toNat_le.1 letter.1
    have high : octet.toNat ≤ 90 := UInt8.le_iff_toNat_le.1 letter.2
    have sum := congrArg UInt8.toNat folded
    simp [UInt8.toNat_add] at sum
    omega
  · exact folded

/-- Equality of strings of one length, ignoring case, up to a NUL in both. -/
def streqnI : List UInt8 → List UInt8 → Bool
  | a :: as, b :: bs =>
    if a = 0 ∧ b = 0 then true
    else if a = 0 ∨ b = 0 then false
    else foldCase a = foldCase b && streqnI as bs
  | _, _ => true

/-- Without a NUL it is equality of the folded strings. -/
theorem streqnI_iff {a b : List UInt8} (length : a.length = b.length) (nonzero : ∀ octet ∈ b, octet ≠ 0) :
    streqnI a b = true ↔ a.map foldCase = b.map foldCase := by
  induction a generalizing b with
  | nil =>
    cases b with
    | nil => simp [streqnI]
    | cons octet b => simp at length
  | cons octet a ih =>
    cases b with
    | nil => simp at length
    | cons octet' b =>
      have here : octet' ≠ 0 := nonzero octet' (by simp)
      have there := ih (by simpa using length) (fun octet mem => nonzero octet (by simp [mem]))
      rw [streqnI,if_neg (fun both => here both.2),List.map_cons,List.map_cons,List.cons.injEq,← there]
      by_cases zero : octet = 0
      · subst zero
        rw [if_pos (.inl rfl)]
        constructor
        · rintro ⟨⟩
        · rintro ⟨folded,_⟩
          exact absurd (foldCase_zero folded.symm) here
      · rw [if_neg (not_or.2 ⟨zero,here⟩)]
        simp

/-! ### The fields -/

/-- The value slots filled while the fields are gone through, whether a regular
    field has been seen, and the range buffer. -/
structure Scan where
  method : Option (Ptr × Nat)
  path : Option (Ptr × Nat)
  scheme : Option (Ptr × Nat)
  authority : Option (Ptr × Nat)
  range : Option Nat
  regular : Bool
  rangeBuf : Mem

def Scan.start (rangeBuf : Mem) : Scan := ⟨none,none,none,none,none,false,rangeBuf⟩

section
variable (read : Ptr → Mem)

/-- A pseudo-header: before any regular field, defined, and not given twice. -/
def Scan.pseudo (scan : Scan) (f : FieldRef) : Option Scan :=
  let value := some (f.value,f.valueLen)
  if scan.regular then none
  else if h2NameEq (read f.name) f.nameLen ":method" then
    if scan.method.isSome then none else some { scan with method := value }
  else if h2NameEq (read f.name) f.nameLen ":path" then
    if scan.path.isSome then none else some { scan with path := value }
  else if h2NameEq (read f.name) f.nameLen ":scheme" then
    if scan.scheme.isSome then none else some { scan with scheme := value }
  else if h2NameEq (read f.name) f.nameLen ":authority" then
    if scan.authority.isSome then none else some { scan with authority := value }
  else none

/-- A regular field; the first `range` is copied, cut off at the size of the buffer. -/
def Scan.field (scan : Scan) (f : FieldRef) : Scan :=
  let name := ascii "range"
  if f.nameLen = name.length ∧ streqnI (slice (read f.name) 0 name.length) name ∧ scan.range = none then
    let length := min f.valueLen rangeBufSize
    { scan with regular := true, range := some length, rangeBuf := blit scan.rangeBuf 0 (read f.value) length }
  else { scan with regular := true }

/-- All the fields. The first octet of a name tells a pseudo-header, and is read
    even of an empty name. -/
def scanFields : List FieldRef → Scan → Scan × Bool
  | [], scan => (scan,true)
  | f :: fields, scan =>
    if read f.name 0 = ':'.toUInt8 then
      match scan.pseudo read f with
      | none => (scan,false)
      | some scan => scanFields fields scan
    else scanFields fields (scan.field read f)

/-- The id of a method; `none` if it is missing or empty. -/
def methodId : Option (Ptr × Nat) → Option Method
  | none => none
  | some (value,len) =>
    if len = 0 then none
    else if h2NameEq (read value) len "GET" then some .get
    else if h2NameEq (read value) len "HEAD" then some .head
    else if h2NameEq (read value) len "OPTIONS" then some .options
    else some .unknown

/-! ### The record -/

/-- The record of a method that has no path handling. -/
def Request.storeMethod (r : Request) (method : Method) (streamId : Nat) (scan : Scan) : Request :=
  { r with
    method := method
    streamId := streamId
    range := scan.range.isSome
    rangeLength := scan.range.getD 0
    forbidden := false }

/-- The whole record, once path and authority are in their buffers. -/
def Request.store (r : Request) (method : Method) (streamId : Nat) (parsed : ParsedPath) (authority forbidden : Bool)
    (scan : Scan) : Request :=
  { r with
    method := method
    streamId := streamId
    pathLength := parsed.length
    query := parsed.query.isSome
    queryLength := parsed.query.getD 0
    authority := authority
    range := scan.range.isSome
    rangeLength := scan.range.getD 0
    forbidden := forbidden }

/-- Copy the authority, cut off at the size of its buffer, with a NUL behind it. -/
def copyAuthority (buf : Mem) : Option (Ptr × Nat) → Mem
  | none => buf
  | some (value,len) =>
    let length := min len authorityBufSize
    Memory.store (blit buf 0 (read value) length) length 0

/-- The file name as it is looked up: an unsafe path makes the request forbidden. -/
def pathForbidden (filename : Mem) (len : Nat) : Bool :=
  !(checkPathSafety (slice filename 0 len) && checkPathTraversal (slice filename 0 len))

/-- The part of the builder behind the method. -/
def buildPath (method : Method) (streamId : Nat) (scan : Scan) (r : Request) : Request × Bool :=
  match scan.path with
  | none => (r,false)
  | some (value,len) =>
    if len = 0 then (r,false)
    else match parseH2Path (read value) len (method ≠ .options) ⟨r.filenameBuf,r.queryBuf⟩ with
      | (bufs,none) => ({ r with filenameBuf := bufs.filename, queryBuf := bufs.query },false)
      | (bufs,some parsed) =>
        let r := { r with filenameBuf := bufs.filename, queryBuf := bufs.query }
        match decodeUrl r.filenameBuf parsed.length with
        | (filename,none) => ({ r with filenameBuf := filename },false)
        | (filename,some length) =>
          let r := { r with filenameBuf := filename }
          let parsed := { parsed with length := length }
          if pathForbidden filename length then (r.store method streamId parsed false true scan,true)
          else
            let r := { r with authorityBuf := copyAuthority read r.authorityBuf scan.authority }
            (r.store method streamId parsed scan.authority.isSome false scan,true)

/-- The record of a decoded block; `false` is a protocol error. -/
def h2BuildRequest (streamId : Nat) (fields : List FieldRef) (r : Request) : Request × Bool :=
  match scanFields read fields (Scan.start r.rangeBuf) with
  | (scan,false) => ({ r with rangeBuf := scan.rangeBuf },false)
  | (scan,true) =>
    let r := { r with rangeBuf := scan.rangeBuf }
    match methodId read scan.method with
    | none => (r,false)
    | some .unknown => (r.storeMethod .unknown streamId scan,true)
    | some method => buildPath read method streamId scan r
end

/-! ### What a built record says -/

theorem buildPath_streamId {read : Ptr → Mem} {method : Method} {streamId : Nat} {scan : Scan} {r r' : Request}
    (built : buildPath read method streamId scan r = (r',true)) : r'.streamId = streamId ∧ r'.method = method := by
  rw [buildPath] at built
  split at built
  · cases built
  split at built
  · cases built
  split at built
  · cases built
  dsimp only at built
  split at built
  · cases built
  split at built
  · cases built; exact ⟨rfl,rfl⟩
  · cases built; exact ⟨rfl,rfl⟩

/-- A built record carries the id of its stream. -/
theorem build_streamId {read : Ptr → Mem} {streamId : Nat} {fields : List FieldRef} {r r' : Request}
    (built : h2BuildRequest read streamId fields r = (r',true)) : r'.streamId = streamId := by
  rw [h2BuildRequest] at built
  split at built
  · cases built
  dsimp only at built
  split at built
  · cases built
  · cases built; rfl
  · exact (buildPath_streamId built).1

/-- A rejected block leaves the record as it was, buffers apart. -/
theorem build_buffers {read : Ptr → Mem} {streamId : Nat} {fields : List FieldRef} {r r' : Request}
    (built : h2BuildRequest read streamId fields r = (r',false)) :
    ∃ filename query range, r' = { r with filenameBuf := filename, queryBuf := query, rangeBuf := range } := by
  rw [h2BuildRequest] at built
  split at built
  · cases built; exact ⟨_,_,_,rfl⟩
  dsimp only at built
  split at built
  · cases built; exact ⟨_,_,_,rfl⟩
  · cases built
  rw [buildPath] at built
  split at built
  · cases built; exact ⟨_,_,_,rfl⟩
  split at built
  · cases built; exact ⟨_,_,_,rfl⟩
  split at built
  · cases built; exact ⟨_,_,_,rfl⟩
  dsimp only at built
  split at built
  · cases built; exact ⟨_,_,_,rfl⟩
  split at built <;> cases built

end Sarm.H2
