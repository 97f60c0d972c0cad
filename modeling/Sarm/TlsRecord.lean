import Sarm.DynTable
import Sarm.Gcm

/-!
The TLS 1.3 record layer: the protection of a record as RFC 8446 section 5.2 has it, and
the code that seals a fragment, parses the record and opens it again.
-/
namespace Sarm.Tls
open Sarm.Memory Sarm.Neon Sarm.Ghash Sarm.Gcm
open Sarm.Hpack (memcpy memcpy_forward)

/-! ### RFC 8446 -/

/-- The IV against the sequence number, which is padded in front. -/
def recordNonce (iv : List UInt8) (seq : BitVec 64) : List UInt8 :=
  List.zipWith (· ^^^ ·) iv ([0,0,0,0] ++ (List.range 8).map fun k => octet seq (7 - k))

/-- The header in front of `n` octets. -/
def recordHeader (type : UInt8) (n : Nat) : List UInt8 := [type,3,3,UInt8.ofNat (n / 256),UInt8.ofNat n]

def applicationData : UInt8 := 23

/-- The header of a record that protects `inner`. -/
def protectedHeader (inner : List UInt8) : List UInt8 := recordHeader applicationData (inner.length + 16)

/-- The record that protects `inner`. -/
def protect (ciph : Block → Block) (iv : List UInt8) (seq : BitVec 64) (inner : List UInt8) : List UInt8 :=
  let sealed := encrypt ciph (recordNonce iv seq) (protectedHeader inner) inner
  protectedHeader inner ++ sealed.1 ++ sealed.2

/-- `TLSInnerPlaintext`. -/
def innerPlaintext (content : List UInt8) (type : UInt8) (padding : Nat) : List UInt8 :=
  content ++ type :: List.replicate padding 0

/-! ### The code -/

/-- `TLS_RECORD_ERR_*`. -/
inductive RecordError where
  | short
  | type
  | version
  | length
  | bounds
  | mac
  | inner
  | empty
  deriving DecidableEq, Repr

/-- What is in `x0` behind a set carry. -/
def RecordError.code : RecordError → Nat
  | .short => 1
  | .type => 2
  | .version => 3
  | .length => 4
  | .bounds => 5
  | .mac => 6
  | .inner => 7
  | .empty => 8

def maxPlaintext : Nat := 16384

def maxCiphertext : Nat := 16640

def maxAead : Nat := 16401

/-- `x0` to `x3` behind a clear carry. -/
structure Parsed where
  type : UInt8
  fragment : Nat
  length : Nat
  total : Nat
  deriving DecidableEq, Repr

/-- Two octets, the first one the higher. -/
def be16 (m : Mem) (a : Nat) : Nat := (m a).toNat * 256 + (m (a+1)).toNat

def isContentType (type : Nat) : Bool := 20 ≤ type && type < 24

def tls_record_parse (m : Mem) (x0 x1 : Nat) : Except RecordError Parsed :=
  if x1 < 5 then .error .short
  else if !isContentType (m x0).toNat then .error .type
  else if be16 m (x0+1) ≠ 0x0303 ∧ be16 m (x0+1) ≠ 0x0301 then .error .version
  else
    let w6 := be16 m (x0+3)
    if (if m x0 = applicationData then maxCiphertext else maxPlaintext) < w6 then .error .length
    else if x1 < w6 + 5 then .error .bounds
    else .ok ⟨m x0,x0 + 5,w6,w6 + 5⟩

/-- Both words of the IV are read before the nonce is written. -/
def tls_record_nonce (m : Mem) (iv : Nat) (seq : BitVec 64) (out : Nat) : Mem :=
  blit (blit m out (shift m iv) 8) (out+4) (fun i => octet seq (7 - i) ^^^ m (iv + 4 + i)) 8

/-- The five octets in front of a fragment of `n`. -/
def writeHeader (m : Mem) (out : Nat) (type : UInt8) (n : Nat) : Mem :=
  store (store (store (store (store m out type) (out+1) 3) (out+2) 3) (out+3) (UInt8.ofNat (n / 256))) (out+4)
    (UInt8.ofNat n)

/-- What `tls_record_encrypt` refuses. -/
def sealRefused (type length : Nat) : Option RecordError :=
  if !isContentType type then some .type
  else if maxPlaintext < length then some .length
  else if length = 0 ∧ (type = 22 ∨ type = 21) then some .empty
  else none

/-- The record in clear, at `out`. -/
def layRecord (m : Mem) (type pt length out : Nat) : Mem :=
  let m := writeHeader m out applicationData (length + 17)
  let m := memcpy m (out+5) pt length
  store m (out + length + 5) (UInt8.ofNat type)

/-- The nonce is at `sp + 56`. -/
def tls_record_encrypt (m : Mem) (sp type pt length ctx iv : Nat) (seq : BitVec 64) (out : Nat) :
    Except RecordError Nat × Mem :=
  match sealRefused type length with
  | some e => (.error e,m)
  | none =>
    let m := tls_record_nonce (layRecord m type pt length out) iv seq (sp+56)
    (.ok (length + 22),aes_gcm_encrypt_ctx m ctx (sp+56) out 5 (out+5) (length+1) (out+5) (out + 5 + (length+1)))

/-- `.Lrec_dec_scan`: the last octet that is not zero. -/
def lastNonzero (m : Mem) (out : Nat) : Nat → Option Nat
  | 0 => none
  | n+1 => if m (out + n) = 0 then lastNonzero m out n else some n

/-- The content length and the type of what has been opened. -/
def innerType (m : Mem) (out n : Nat) : Except RecordError (Nat × UInt8) :=
  match lastNonzero m out n with
  | none => .error .inner
  | some k => if isContentType (m (out + k)).toNat then .ok (k,m (out + k)) else .error .inner

def tls_record_decrypt (m : Mem) (sp record avail ctx iv : Nat) (seq : BitVec 64) (out : Nat) :
    Except RecordError (Nat × UInt8) × Mem :=
  let w6 := be16 m (record+3)
  if avail < 5 then (.error .short,m)
  else if w6 < 17 then (.error .length,m)
  else if maxAead < w6 then (.error .length,m)
  else if avail < w6 + 5 then (.error .bounds,m)
  else
    let x24 := w6 - 16
    match aes_gcm_decrypt_ctx (tls_record_nonce m iv seq (sp+56)) ctx (sp+56) record 5 (record+5) x24
      (record + 5 + x24) out with
    | (0,m) => (.error .mac,m)
    | (_,m) => (innerType m out x24,m)

/-! ### What is written -/

section
variable {m : Mem} {out : Nat}

theorem tls_record_nonce_outside {iv i : Nat} (seq : BitVec 64) (away : i < out ∨ out + 12 ≤ i) :
    tls_record_nonce m iv seq out i = m i := by
  rw [tls_record_nonce,blit_outside (by omega),blit_outside (by omega)]

theorem tls_record_nonce_slice (m : Mem) (iv : Nat) (seq : BitVec 64) (out : Nat) :
    slice (tls_record_nonce m iv seq out) out 12 = recordNonce (slice m iv 12) seq := by
  apply List.ext_getElem (by simp [recordNonce])
  intro i first _
  have inside : i < 12 := by simpa using first
  simp only [slice,recordNonce,List.getElem_map,List.getElem_range',List.getElem_zipWith,tls_record_nonce]
  by_cases low : i < 4
  · rw [blit_outside (by omega),blit_inside (by omega) (by omega),shift]
    obtain rfl | rfl | rfl | rfl : i = 0 ∨ i = 1 ∨ i = 2 ∨ i = 3 := by omega
    all_goals simp
  · rw [blit_inside (by omega) (by omega),List.getElem_append_right (by simp; omega)]
    simp only [List.getElem_map,List.getElem_range,List.length_cons,List.length_nil]
    rw [UInt8.xor_comm]
    congr 2 <;> omega

theorem slice_header (m : Mem) (out : Nat) (type : UInt8) (n : Nat) :
    slice (writeHeader m out type n) out 5 = recordHeader type n := by
  simp [slice_succ,writeHeader,store,recordHeader]

theorem writeHeader_outside {type : UInt8} {n i : Nat} (away : i < out ∨ out + 5 ≤ i) :
    writeHeader m out type n i = m i := by
  simp (disch := omega) only [writeHeader,store_other]

variable {type pt length : Nat}

theorem layRecord_outside {i : Nat} (away : i < out ∨ out + length + 6 ≤ i) : layRecord m type pt length out i = m i := by
  rw [layRecord,store_other _ _ (by omega),Hpack.memcpy_outside _ (by omega),writeHeader_outside (by omega)]

theorem layRecord_header (m : Mem) (type pt length out : Nat) :
    slice (layRecord m type pt length out) out 5 = recordHeader applicationData (length + 17) := by
  rw [← slice_header m out]
  refine slice_congr fun i inside => ?_
  rw [layRecord,store_other _ _ (by omega),Hpack.memcpy_outside _ (by omega)]

theorem layRecord_inner (clear : Apart pt length out (length + 22)) :
    slice (layRecord m type pt length out) (out+5) (length+1) = innerPlaintext (slice m pt length)
    (UInt8.ofNat type) 0 := by
  rw [Apart] at clear
  rw [slice_add,innerPlaintext,slice_succ,slice_zero,List.replicate_zero]
  refine congrArg₂ _ (slice_congr fun i inside => ?_) (congrArg (fun b => [b]) ?_)
  · rw [layRecord,store_other _ _ (by omega),memcpy_forward _ _ (by omega),blit_inside (by omega) (by omega),shift,
      writeHeader_outside (by omega)]
    congr 1
    omega
  · rw [layRecord,show out + 5 + length = out + length + 5 by omega,store_same]

end

/-- A context is in the octets it takes. -/
theorem contextAt_kept {key : List UInt8} {m m' : Mem} {ctx : Nat} (context : Context key m ctx)
    (kept : ∀ i < 304, m' (ctx + i) = m (ctx + i)) : Context key m' ctx := by
  obtain ⟨m0,x0,source,held⟩ := context
  exact ⟨m0,x0,source,(slice_congr kept).trans held⟩

theorem innerPlaintext_length (content : List UInt8) (type : UInt8) (padding : Nat) :
    (innerPlaintext content type padding).length = content.length + 1 + padding := by
  simp [innerPlaintext]
  omega

theorem protectedHeader_length (inner : List UInt8) : (protectedHeader inner).length = 5 := rfl

theorem protect_length (ciph : Block → Block) (iv : List UInt8) (seq : BitVec 64) (inner : List UInt8) :
    (protect ciph iv seq inner).length = inner.length + 21 := by
  rw [protect,List.length_append,List.length_append,(encrypt_length _ _ _ _).1,(encrypt_length _ _ _ _).2,
    protectedHeader_length]
  omega

/-- Where a fragment is sealed: its context, and the output apart from what is read. -/
structure Seals (key : List UInt8) (m : Mem) (sp pt length ctx iv out : Nat) : Prop where
  context : Context key m ctx
  clearContent : Apart pt length out (length + 22)
  clearContext : Apart out (length + 22) ctx 304
  clearIv : Apart out (length + 22) iv 12
  clearFrame : Apart (sp+56) 12 out (length + 22)
  frameContext : Apart (sp+56) 12 ctx 304

/-- Sealing writes the record that protects the fragment. -/
theorem encrypt_protects {key : List UInt8} {m : Mem} {sp type pt length ctx iv out : Nat} (seq : BitVec 64)
    (accepted : sealRefused type length = none) (place : Seals key m sp pt length ctx iv out) :
    ∃ m', tls_record_encrypt m sp type pt length ctx iv seq out = (.ok (length + 22),m') ∧
      slice m' out (length + 22) = protect (aes128 key) (slice m iv 12) seq
    (innerPlaintext (slice m pt length) (UInt8.ofNat type) 0) ∧
      ∀ i, i < out ∨ out + length + 22 ≤ i → i < sp + 56 ∨ sp + 68 ≤ i → m' i = m i := by
  obtain ⟨context,clearContent,clearContext,clearIv,clearFrame,frameContext⟩ := place
  rw [tls_record_encrypt,accepted]
  refine ⟨_,rfl,?_⟩
  have frame {i : Nat} (away : i < sp + 56 ∨ sp + 68 ≤ i) :
      tls_record_nonce (layRecord m type pt length out) iv seq (sp+56) i = layRecord m type pt length out i :=
    tls_record_nonce_outside seq (by omega)
  have nonce := tls_record_nonce_slice (layRecord m type pt length out) iv seq (sp+56)
  generalize tls_record_nonce (layRecord m type pt length out) iv seq (sp+56) = m2 at frame nonce
  rw [Apart] at clearContext clearIv clearFrame frameContext
  have ivKept : slice (layRecord m type pt length out) iv 12 = slice m iv 12 :=
    slice_congr fun i inside => layRecord_outside (by omega)
  have header : slice m2 out 5 = recordHeader applicationData (length + 17) :=
    (slice_congr fun i inside => frame (by omega)).trans (layRecord_header m type pt length out)
  have inner : slice m2 (out+5) (length+1) = innerPlaintext (slice m pt length) (UInt8.ofNat type) 0 :=
    (slice_congr fun i inside => frame (by omega)).trans (layRecord_inner clearContent)
  have context2 : Context key m2 ctx :=
    contextAt_kept context fun i inside => (frame (by omega)).trans (layRecord_outside (by omega))
  obtain ⟨sealed,kept⟩ := @encrypt_ctx_seals _ _ _ (sp+56) out 5 _ _ _ (out + 5 + (length+1)) context2
    (.inl rfl : Placed (out+5) (out+5) (length+1)) (by rw [Apart]; omega) (by rw [Apart]; omega) (by rw [Apart]; omega)
  rw [nonce,ivKept,header,inner] at sealed
  have width : (innerPlaintext (slice m pt length) (UInt8.ofNat type) 0).length = length + 1 := by
    rw [innerPlaintext_length,slice_length]
  refine ⟨?_,fun i away awayFrame => ?_⟩
  · rw [show length + 22 = 5 + (length + 1) + 16 by omega,slice_add,slice_add,protect,protectedHeader,width]
    rw [slice_congr fun i inside => kept (out + i) (by omega) (by omega),header]
    rw [show out + (5 + (length + 1)) = out + 5 + (length + 1) by omega]
    exact congrArg₂ _ (congrArg₂ _ rfl (congrArg Prod.fst sealed)) (congrArg Prod.snd sealed)
  · rw [kept i (by omega) (by omega),frame (by omega),layRecord_outside (by omega)]

/-! ### What is read -/

section
variable {m : Mem} {record : Nat}

theorem header_read {type : UInt8} {n : Nat} (held : slice m record 5 = recordHeader type n) (small : n < 65536) :
    m record = type ∧ be16 m (record+1) = 0x0303 ∧ be16 m (record+3) = n := by
  simp only [slice_succ,slice_zero,recordHeader,List.cons.injEq] at held
  obtain ⟨first,three,three',high,low,_⟩ := held
  refine ⟨first,?_,?_⟩
  · rw [be16,three,three']
    rfl
  · rw [be16,high,low]
    simp only [UInt8.toNat_ofNat']
    omega

/-- What is in front of the text of a record, the text, and the tag. -/
theorem protect_parts {ciph : Block → Block} {iv : List UInt8} {seq : BitVec 64} {inner : List UInt8}
    (held : slice m record (inner.length + 21) = protect ciph iv seq inner) :
    slice m record 5 = protectedHeader inner ∧
      (slice m (record+5) inner.length,slice m (record + 5 + inner.length) 16) = encrypt ciph (recordNonce iv seq)
    (protectedHeader inner) inner := by
  obtain ⟨text,tag⟩ := encrypt_length ciph (recordNonce iv seq) (protectedHeader inner) inner
  rw [show inner.length + 21 = 5 + inner.length + 16 by omega,slice_add,slice_add,protect] at held
  obtain ⟨front,last⟩ :=
    List.append_inj held (by rw [List.length_append,List.length_append,text,slice_length,slice_length]; rfl)
  obtain ⟨header,middle⟩ := List.append_inj front (by rw [slice_length]; rfl)
  refine ⟨header,Prod.ext middle ?_⟩
  rw [← last,Nat.add_assoc]

theorem parse_protect {ciph : Block → Block} {iv : List UInt8} {seq : BitVec 64} {inner : List UInt8} {avail : Nat}
    (held : slice m record (inner.length + 21) = protect ciph iv seq inner) (small : inner.length + 16 ≤ maxCiphertext)
    (there : inner.length + 21 ≤ avail) :
    tls_record_parse m record avail = .ok ⟨applicationData,record + 5,inner.length + 16,inner.length + 21⟩ := by
  rw [maxCiphertext] at small
  obtain ⟨type,version,length⟩ := header_read (protect_parts held).1 (by omega)
  rw [tls_record_parse,if_neg (by omega),type,if_neg (by decide),version,if_neg (by decide),length]
  simp only [if_true,maxCiphertext]
  rw [if_neg (by omega),if_neg (by omega)]

theorem lastNonzero_padded {out k : Nat} (marked : m (out + k) ≠ 0) (padding : Nat)
    (zeros : ∀ i < padding, m (out + (k + 1 + i)) = 0) :
    lastNonzero m out (k + 1 + padding) = some k := by
  induction padding with
  | zero => exact if_neg marked
  | succ padding ih =>
    rw [← Nat.add_assoc,lastNonzero,if_pos (zeros padding (by omega))]
    exact ih fun i inside => zeros i (by omega)

theorem isContentType_nonzero {type : UInt8} (valid : isContentType type.toNat = true) : type ≠ 0 := by
  rintro rfl
  exact absurd valid (by decide)

/-- Padding is taken off. -/
theorem innerType_inner {out : Nat} {content : List UInt8} {type : UInt8} {padding : Nat}
    (valid : isContentType type.toNat = true)
    (held : slice m out (content.length + 1 + padding) = innerPlaintext content type padding) :
    innerType m out (content.length + 1 + padding) = .ok (content.length,type) ∧
    slice m out content.length = content := by
  rw [Nat.add_assoc,slice_add,innerPlaintext] at held
  obtain ⟨front,rest⟩ := List.append_inj held (slice_length _ _ _)
  rw [Nat.add_comm 1 padding,slice_succ,List.cons.injEq] at rest
  obtain ⟨marker,zeros⟩ := rest
  have padded := @lastNonzero_padded m out content.length (by rw [marker]; exact isContentType_nonzero valid) padding
    (fun i inside => by
      have zero := congrArg (fun l => l[i]?) zeros
      simp only [slice,List.getElem?_map,List.getElem?_range' inside,List.getElem?_replicate,if_pos inside,
        Option.map_some,Option.some.injEq] at zero
      rw [← zero]
      congr 1
      omega)
  refine ⟨?_,front⟩
  rw [innerType,padded]
  simp only [marker,valid,if_true]

/-- Where a record is opened: its context, room for the nonce, and the output in place or apart. -/
structure Opens (key : List UInt8) (m : Mem) (sp record n ctx out : Nat) : Prop where
  context : Context key m ctx
  placed : Placed (record+5) out n
  frameRecord : Apart (sp+56) 12 record (n + 21)
  frameContext : Apart (sp+56) 12 ctx 304

/-- The tag of the record at hand is the right one. -/
def openedRecord (key : List UInt8) (m : Mem) (record iv : Nat) (seq : BitVec 64) (n : Nat) : Option (List UInt8) :=
  decrypt (aes128 key) (recordNonce (slice m iv 12) seq) (slice m record 5) (slice m (record+5) n)
    (slice m (record + 5 + n) 16)

/-- What is opened may be written over what it is opened from, as long as it is not above it. -/
theorem decrypt_behind {key : List UInt8} {sp n ctx iv avail out : Nat} {seq : BitVec 64} (context : Context key m ctx)
    (behind : Behind (record+5) out n) (frameRecord : Apart (sp+56) 12 record (n + 21))
    (frameContext : Apart (sp+56) 12 ctx 304)
    (length : be16 m (record+3) = n + 16) (low : 1 ≤ n) (high : n + 16 ≤ maxAead) (there : n + 21 ≤ avail) :
    match openedRecord key m record iv seq n with
    | some inner =>
      ∃ m', tls_record_decrypt m sp record avail ctx iv seq out = (innerType m' out n,m') ∧ slice m' out n = inner ∧
        ∀ i, i < out ∨ out + n ≤ i → i < sp + 56 ∨ sp + 68 ≤ i → m' i = m i
    | none => ∃ m', tls_record_decrypt m sp record avail ctx iv seq out = (.error .mac,m') ∧ ∀ i, i < sp + 56 ∨
      sp + 68 ≤ i → m' i = m i := by
  have frame {i : Nat} (away : i < sp + 56 ∨ sp + 68 ≤ i) : tls_record_nonce m iv seq (sp+56) i = m i :=
    tls_record_nonce_outside seq (by omega)
  have nonce := tls_record_nonce_slice m iv seq (sp+56)
  rw [tls_record_decrypt,length]
  simp only
  rw [if_neg (by omega),if_neg (by omega),if_neg (by omega),if_neg (by omega),Nat.add_sub_cancel]
  generalize tls_record_nonce m iv seq (sp+56) = m2 at frame nonce
  rw [Apart] at frameRecord frameContext
  have context2 : Context key m2 ctx := contextAt_kept context fun i inside => frame (by omega)
  have opened := @decrypt_ctx_opens _ _ _ (sp+56) record 5 _ _ _ (record + 5 + n) context2 behind
  rw [nonce,@slice_congr m2 m _ record _ fun i inside => frame (by omega),
    @slice_congr m2 m _ (record + 5) _ fun i inside => frame (by omega),
    @slice_congr m2 m _ (record + 5 + n) _ fun i inside => frame (by omega)] at opened
  rw [openedRecord]
  generalize decrypt _ _ _ _ _ = verdict at opened ⊢
  cases verdict with
  | some inner =>
    obtain ⟨m3,result,text,kept⟩ := opened
    dsimp only
    rw [result]
    exact ⟨m3,rfl,text,fun i away awayFrame => (kept i away).trans (frame awayFrame)⟩
  | none =>
    dsimp only at opened ⊢
    rw [opened]
    exact ⟨m2,rfl,fun i away => frame away⟩

theorem decrypt_opens {key : List UInt8} {sp n ctx iv avail out : Nat} {seq : BitVec 64}
    (place : Opens key m sp record n ctx out)
    (length : be16 m (record+3) = n + 16) (low : 1 ≤ n) (high : n + 16 ≤ maxAead) (there : n + 21 ≤ avail) :
    match openedRecord key m record iv seq n with
    | some inner =>
      ∃ m', tls_record_decrypt m sp record avail ctx iv seq out = (innerType m' out n,m') ∧ slice m' out n = inner ∧
        ∀ i, i < out ∨ out + n ≤ i → i < sp + 56 ∨ sp + 68 ≤ i → m' i = m i
    | none => ∃ m', tls_record_decrypt m sp record avail ctx iv seq out = (.error .mac,m') ∧ ∀ i, i < sp + 56 ∨
      sp + 68 ≤ i → m' i = m i :=
  decrypt_behind place.context place.placed.behind place.frameRecord place.frameContext length low high there

theorem protect_length_field {ciph : Block → Block} {iv : List UInt8} {seq : BitVec 64} {inner : List UInt8}
    (held : slice m record (inner.length + 21) = protect ciph iv seq inner) (small : inner.length + 16 < 65536) :
    be16 m (record+3) = inner.length + 16 := (header_read (protect_parts held).1 small).2.2

/-- The tag of a record that protects something is the right one. -/
theorem openedRecord_protect {key : List UInt8} {iv : Nat} {seq : BitVec 64} {inner : List UInt8}
    (held : slice m record (inner.length + 21) = protect (aes128 key) (slice m iv 12) seq inner) :
    openedRecord key m record iv seq inner.length = some inner := by
  obtain ⟨header,sealed⟩ := protect_parts held
  have text := congrArg Prod.fst sealed
  have tag := congrArg Prod.snd sealed
  simp only at text tag
  rw [openedRecord,header,text,tag,decrypt_encrypt]

/-- A record that protects content, type and padding gives back content and type. -/
theorem decrypt_protect {key : List UInt8} {sp ctx iv avail out : Nat} {seq : BitVec 64} {content : List UInt8}
    {type : UInt8} {padding : Nat}
    (place : Opens key m sp record (content.length + 1 + padding) ctx out) (valid : isContentType type.toNat = true)
    (held : slice m record (content.length + 1 + padding + 21) =
      protect (aes128 key) (slice m iv 12) seq (innerPlaintext content type padding))
    (high : content.length + 1 + padding + 16 ≤ maxAead) (there : content.length + 1 + padding + 21 ≤ avail) :
    ∃ m', tls_record_decrypt m sp record avail ctx iv seq out = (.ok (content.length,type),m') ∧
    slice m' out content.length = content := by
  have width := innerPlaintext_length content type padding
  rw [← width] at held
  have length : be16 m (record+3) = content.length + 1 + padding + 16 := by
    rw [maxAead] at high
    rw [← width]
    exact protect_length_field held (by omega)
  have opened := @decrypt_opens _ _ _ _ _ _ iv _ _ seq place length (by omega) high there
  have right := openedRecord_protect held
  rw [width] at right
  rw [right] at opened
  obtain ⟨m',result,inner,_⟩ := opened
  obtain ⟨marked,front⟩ := innerType_inner valid inner
  exact ⟨m',by rw [result,marked],front⟩

/-- Lengths that do not fit are refused first. -/
theorem decrypt_unfit {sp ctx iv avail out : Nat} {seq : BitVec 64}
    (unfit : be16 m (record+3) < 17 ∨ maxAead < be16 m (record+3) ∨ avail < be16 m (record+3) + 5) :
    ∃ e, tls_record_decrypt m sp record avail ctx iv seq out = (.error e,m) := by
  rw [tls_record_decrypt]
  by_cases header : avail < 5
  · exact ⟨.short,if_pos header⟩
  by_cases short : be16 m (record+3) < 17
  · exact ⟨.length,(if_neg header).trans (if_pos short)⟩
  by_cases long : maxAead < be16 m (record+3)
  · exact ⟨.length,(if_neg header).trans ((if_neg short).trans (if_pos long))⟩
  · exact ⟨.bounds,(if_neg header).trans ((if_neg short).trans ((if_neg long).trans (if_pos (by omega))))⟩

/-- Past the limit of a record nothing is opened. -/
theorem decrypt_long {sp ctx iv avail out : Nat} {seq : BitVec 64} (header : 5 ≤ avail)
    (long : maxAead < be16 m (record+3)) :
    tls_record_decrypt m sp record avail ctx iv seq out = (.error .length,m) := by
  have past : ¬ be16 m (record+3) < 17 := by
    rw [maxAead] at long
    omega
  exact (if_neg (by omega)).trans ((if_neg past).trans (if_pos long))

/-- An error, and nothing written but the nonce. -/
theorem decrypt_refuses {key : List UInt8} {sp ctx iv avail out : Nat} {seq : BitVec 64}
    (place : Opens key m sp record (be16 m (record+3) - 16) ctx out)
    (forged : 17 ≤ be16 m (record+3) → openedRecord key m record iv seq (be16 m (record+3) - 16) = none) :
    ∃ e m', tls_record_decrypt m sp record avail ctx iv seq out = (.error e,m') ∧ ∀ i, i < sp + 56 ∨ sp + 68 ≤ i →
    m' i = m i := by
  by_cases unfit : be16 m (record+3) < 17 ∨ maxAead < be16 m (record+3) ∨ avail < be16 m (record+3) + 5
  · obtain ⟨e,refused⟩ := @decrypt_unfit _ _ sp ctx iv _ out seq unfit
    exact ⟨e,m,refused,fun i _ => rfl⟩
  · have opened := @decrypt_opens _ _ _ _ _ _ iv avail _ seq place (by omega) (by omega) (by omega) (by omega)
    rw [forged (by omega)] at opened
    obtain ⟨m',result,kept⟩ := opened
    exact ⟨.mac,m',result,kept⟩

end

theorem accepted_bounds {type length : Nat} (accepted : sealRefused type length = none) :
    isContentType (UInt8.ofNat type).toNat = true ∧ length ≤ maxPlaintext := by
  rw [sealRefused] at accepted
  split at accepted
  next => cases accepted
  next valid =>
    split at accepted
    next => cases accepted
    next small =>
      rw [Bool.not_eq_true',Bool.not_eq_false] at valid
      have bounds : 20 ≤ type ∧ type < 24 := by simpa [isContentType] using valid
      rw [UInt8.toNat_ofNat',Nat.mod_eq_of_lt (by omega)]
      exact ⟨valid,by omega⟩

/-- What sealing accepts is parsed with exactly its length and opened to the content and the
    type; content, type and zeros, within the limit of a record, open to content and type, and
    are refused past it; a record whose tag is wrong is an error, with the output untouched. -/
theorem record_roundTrip (key : List UInt8) (seq : BitVec 64) :
    (∀ m sp type pt length ctx iv out, sealRefused type length = none → Seals key m sp pt length ctx iv out →
      ∃ m', tls_record_encrypt m sp type pt length ctx iv seq out = (.ok (length + 22),m') ∧
        tls_record_parse m' out (length + 22) = .ok ⟨applicationData,out + 5,length + 17,length + 22⟩ ∧
        ∀ m2 sp2 record ctx2 iv2 avail out2, slice m2 record (length + 22) = slice m' out (length + 22) →
    slice m2 iv2 12 = slice m iv 12 →
          Opens key m2 sp2 record (length + 1) ctx2 out2 → length + 22 ≤ avail →
          ∃ m3, tls_record_decrypt m2 sp2 record avail ctx2 iv2 seq out2 = (.ok (length,UInt8.ofNat type),m3) ∧
            slice m3 out2 length = slice m pt length) ∧
    (∀ m sp record ctx iv avail out content type padding, Opens key m sp record (content.length + 1 + padding) ctx out →
      isContentType type.toNat = true → content.length + 1 + padding + 21 ≤ avail →
      slice m record (content.length + 1 + padding + 21) = protect (aes128 key) (slice m iv 12) seq
    (innerPlaintext content type padding) →
      if content.length + 1 + padding + 16 ≤ maxAead then
        ∃ m', tls_record_decrypt m sp record avail ctx iv seq out = (.ok (content.length,type),m') ∧
    slice m' out content.length = content
      else content.length + 1 + padding + 16 < 65536 →
    tls_record_decrypt m sp record avail ctx iv seq out = (.error .length,m)) ∧
    (∀ m sp record ctx iv avail out, Opens key m sp record (be16 m (record+3) - 16) ctx out →
      (17 ≤ be16 m (record+3) → openedRecord key m record iv seq (be16 m (record+3) - 16) = none) →
      ∃ e m', tls_record_decrypt m sp record avail ctx iv seq out = (.error e,m') ∧ ∀ i, i < sp + 56 ∨ sp + 68 ≤ i →
    m' i = m i) := by
  refine ⟨fun m sp type pt length ctx iv out accepted place => ?_,
    fun m sp record ctx iv avail out content type padding place valid there held => ?_,
    fun m sp record ctx iv avail out place forged => decrypt_refuses place forged⟩
  case refine_2 =>
    split
    next high => exact decrypt_protect place valid held high there
    next beyond =>
      intro small
      have width := innerPlaintext_length content type padding
      refine decrypt_long (by omega) ?_
      rw [protect_length_field (by rw [width]; exact held) (by rw [width]; exact small),width]
      omega
  obtain ⟨valid,small⟩ := accepted_bounds accepted
  obtain ⟨m',result,written,_⟩ := encrypt_protects seq accepted place
  rw [maxPlaintext] at small
  have width : (innerPlaintext (slice m pt length) (UInt8.ofNat type) 0).length = length + 1 := by
    rw [innerPlaintext_length,slice_length]
  refine ⟨m',result,?_,fun m2 sp2 record ctx2 iv2 avail out2 copied ivs opens there => ?_⟩
  · have parsed :=
      @parse_protect _ _ _ _ _ _ (length + 22) (by rw [width]; exact written) (by rw [width,maxCiphertext]; omega)
      (by rw [width])
    rw [width] at parsed
    exact parsed
  · have count : (slice m pt length).length = length := slice_length m pt length
    have opened := @decrypt_protect _ _ _ _ _ iv2 avail _ seq (slice m pt length) _ 0
      (by rw [count]; exact opens) valid (by rw [count,ivs,← written]; exact copied) (by rw [count,maxAead]; omega)
        (by rw [count]; omega)
    rw [count] at opened
    exact opened

/-- A full record, with the context the zero key gives. -/
theorem record_roundTrip_full :
    ∃ m', tls_record_encrypt (aes_gcm_ctx_init (fun _ => 0) 0 1000) 5000 23 20000 16384 1000 2000 7 50000 =
      (.ok 16406,m') ∧
      tls_record_parse m' 50000 16406 = .ok ⟨applicationData,50005,16401,16406⟩ := by
  obtain ⟨m',result,parsed,_⟩ :=
    (record_roundTrip (slice (fun _ => 0) 0 16) 7).1 (aes_gcm_ctx_init (fun _ => 0) 0 1000) 5000 23 20000 16384 1000
    2000 50000 (by decide) ⟨⟨_,_,rfl,rfl⟩,.inr (.inr (.inl (by decide))),.inr (.inr (.inr (by decide))),
      .inr (.inr (.inr (by decide))),.inr (.inr (.inl (by decide))),.inr (.inr (.inr (by decide)))⟩
  exact ⟨m',result,parsed⟩

/-- No content and so many zeros that the record is past the limit: authentic, and refused. -/
theorem record_roundTrip_padded :
    let key := slice (fun _ => 0) 0 16
    let zeros := innerPlaintext [] applicationData 16385
    let m := blit (aes_gcm_ctx_init (fun _ => 0) 0 1000) 100000
      (ofBytes (protect (aes128 key) (slice (fun _ => 0) 2000 12) 0 zeros)) 16407
    Opens key m 5000 100000 16386 1000 200000 ∧ slice m 100000 16407 = protect (aes128 key) (slice m 2000 12) 0 zeros ∧
      tls_record_decrypt m 5000 100000 16407 1000 2000 0 200000 = (.error .length,m) := by
  intro key zeros m
  have width : zeros.length = 16386 := by
    rw [innerPlaintext_length]
    rfl
  have record : (protect (aes128 key) (slice (fun _ => 0) 2000 12) 0 zeros).length = 16407 := by rw [protect_length,width]
  have ivs : slice m 2000 12 = slice (fun _ => 0) 2000 12 :=
    slice_congr fun i inside => (blit_outside (by omega)).trans (ctx_init_outside _ _ _ (by omega))
  have held : slice m 100000 16407 = protect (aes128 key) (slice m 2000 12) 0 zeros := by
    rw [ivs,slice_blit_same,← record,slice_ofBytes]
  have context : Context key m 1000 := ⟨_,_,rfl,slice_congr fun i inside => blit_outside (by omega)⟩
  refine ⟨⟨context,.inr (.inr (.inr (.inl (by decide)))),.inr (.inr (.inl (by decide))),
    .inr (.inr (.inr (by decide)))⟩,held,?_⟩
  refine decrypt_long (by decide) ?_
  rw [protect_length_field (by rw [width]; exact held) (by rw [width]; decide),width]
  decide

end Sarm.Tls
