import Sarm.Decimal
import Sarm.HpackFields
import Sarm.Server
import Mathlib.Tactic.IntervalCases
import Mathlib.Tactic.Ring

/-!
The header block of a response, read back. Every piece of the block is a field of
the response in a form that leaves the dynamic table alone, so the decoder hands
the fields on whatever its table holds.
-/
namespace Sarm.Hpack
open Sarm.Memory

/-! ### Decoding what is there -/

theorem bind_run {α β : Type} {x : HpackM α} {f : α → HpackM β} {s s1 : HpackState} {a : α} (first : x s = .ok a s1) :
    (x >>= f) s = f a s1 := by
  show EStateM.bind x f s = _
  rw [EStateM.bind,first]

theorem pureStep_run {α : Type} {x : Except HpackError α} {a : α} (first : x = .ok a) (s : HpackState) :
    pureStep x s = .ok a s := by
  subst first
  rfl

/-- The octets at an offset, within the block. -/
def Reads (block : Mem) («end» off : Nat) (octets : List UInt8) : Prop :=
  off + octets.length ≤ «end» ∧ slice block off octets.length = octets

section Octets
variable {block : Mem} {«end» off : Nat}

theorem reads_append {a b : List UInt8} :
    Reads block «end» off (a ++ b) ↔ Reads block «end» off a ∧ Reads block «end» (off + a.length) b := by
  rw [Reads,Reads,Reads,List.length_append,slice_add]
  constructor
  · rintro ⟨inside,octets⟩
    obtain ⟨first,second⟩ := List.append_inj octets (slice_length _ _ _)
    exact ⟨⟨by omega,first⟩,⟨by omega,second⟩⟩
  · rintro ⟨⟨_,first⟩,⟨inside,second⟩⟩
    exact ⟨by omega,by rw [first,second]⟩

theorem reads_cons {octet : UInt8} {rest : List UInt8} :
    Reads block «end» off (octet :: rest) ↔ off < «end» ∧ block off = octet ∧ Reads block «end» (off + 1) rest := by
  rw [Reads,Reads,List.length_cons,slice_succ,List.cons.injEq]
  constructor
  · rintro ⟨inside,first,octets⟩
    exact ⟨by omega,first,by omega,octets⟩
  · rintro ⟨_,first,inside,octets⟩
    exact ⟨by omega,first,octets⟩

end Octets

/-- What is in a list of octets can be read from it. -/
theorem reads_ofBytes (octets : List UInt8) : Reads (ofBytes octets) octets.length 0 octets :=
  ⟨by omega,slice_ofBytes octets⟩

end Sarm.Hpack

namespace Sarm.H2
open Sarm.Memory Sarm.Hpack

/-! ### Lengths -/

section Length
variable {block : Mem} {off «end» : Nat}

/-- The last continuation octet. -/
theorem intLoop_last {fuel n value consumed shift : Nat} (last : n < 128) (early : shift < 32)
    (small : value + n * 2^shift < 2^32) (reads : Reads block «end» (off + consumed) [UInt8.ofNat n]) :
    intLoop block off «end» (fuel + 1) value consumed shift = .ok (value + n * 2^shift,consumed + 1) := by
  obtain ⟨inside,octet,_⟩ := reads_cons.mp reads
  have is : (UInt8.ofNat n).toNat = n := by
    rw [UInt8.toNat_ofNat']
    omega
  rw [intLoop,if_neg (by omega),octet,is]
  dsimp only
  rw [if_neg (by omega),Nat.mod_eq_of_lt last,if_neg (by omega),if_pos last]

/-- The continuation octets of a length, weighed from `2^shift` on. -/
theorem intLoop_length : ∀ (turns fuel n value consumed shift : Nat), n < 128^(turns + 1) → n < 128^(fuel + 1) →
    shift < 32 → value + n * 2^shift < 2^32 → Reads block «end» (off + consumed) (lengthLoop (turns + 1) n) →
      intLoop block off «end» (fuel + 1) value consumed shift =
        .ok (value + n * 2^shift,consumed + (lengthLoop (turns + 1) n).length) := by
  intro turns
  induction turns with
  | zero =>
    intro fuel n value consumed shift short _ early small reads
    rw [lengthLoop,if_pos (by omega)] at reads ⊢
    exact intLoop_last (by omega) early small reads
  | succ turns ih =>
    intro fuel n value consumed shift short enough early small reads
    rw [lengthLoop] at reads ⊢
    by_cases last : n < 128
    · rw [if_pos last] at reads ⊢
      exact intLoop_last last early small reads
    rw [if_neg last] at reads ⊢
    obtain ⟨inside,octet,rest⟩ := reads_cons.mp reads
    have is : (UInt8.ofNat (n % 128 + 128)).toNat = n % 128 + 128 := by
      rw [UInt8.toNat_ofNat']
      omega
    -- What is left over counts 128 times as much.
    have weight : n * 2^shift = n % 128 * 2^shift + n / 128 * 2^(shift + 7) := by
      calc n * 2^shift = (128 * (n / 128) + n % 128) * 2^shift := by rw [Nat.div_add_mod]
        _ = n % 128 * 2^shift + n / 128 * 2^(shift + 7) := by rw [Nat.pow_add]; ring
    have later : shift + 7 < 32 := by
      have grows : 2^(shift + 7) ≤ n / 128 * 2^(shift + 7) := Nat.le_mul_of_pos_left _ (by omega)
      exact (Nat.pow_lt_pow_iff_right (by decide)).mp (show 2^(shift + 7) < 2^32 by omega)
    have low : (n % 128 + 128) % 128 = n % 128 := by omega
    cases fuel with
    | zero => exact absurd (by omega : n < 128) last
    | succ fuel =>
      rw [intLoop,if_neg (by omega),octet,is]
      dsimp only
      rw [if_neg (by omega),low,if_neg (by omega),if_neg (by omega)]
      rw [ih fuel (n / 128) _ (consumed + 1) (shift + 7) (by rw [Nat.pow_succ] at short; omega)
        (by rw [Nat.pow_succ] at enough; omega) later (by omega) rest,List.length_cons,weight]
      simp only [Nat.add_assoc,Nat.add_comm 1]

/-- The length in front of a string, unless the string has 127 octets. -/
theorem decodeInt_appendStr {s : List UInt8} (proper : s.length ≠ 127) (small : s.length < 2^31)
    (reads : Reads block «end» off (appendStr s)) :
    ∃ used, h2HpackDecodeInt block off 7 «end» = .ok (s.length,used) ∧ used + s.length = (appendStr s).length ∧
      Reads block «end» (off + used) s ∧ (block off).toNat < 128 := by
  rw [appendStr] at reads ⊢
  by_cases long : 127 < s.length
  · rw [if_pos long] at reads ⊢
    rw [List.cons_append] at reads ⊢
    obtain ⟨inside,octet,rest⟩ := reads_cons.mp reads
    obtain ⟨lengthReads,string⟩ := reads_append.mp rest
    have number : intLoop block off «end» 6 127 1 0 =
      .ok (127 + (s.length - 127) * 2^0,1 + (lengthLoop 10 (s.length - 127)).length) :=
      intLoop_length 9 5 (s.length - 127) 127 1 0 (by omega) (by omega) (by decide) (by omega) lengthReads
    have full : (127 : UInt8).toNat % 2^7 = 127 := rfl
    refine ⟨1 + (lengthLoop 10 (s.length - 127)).length,?_,?_,?_,?_⟩
    · rw [h2HpackDecodeInt,if_neg (by omega),octet]
      dsimp only
      rw [full,if_neg (by decide),number,Nat.pow_zero,Nat.mul_one,Nat.add_sub_cancel' (by omega)]
    · rw [List.length_cons,List.length_append]
      omega
    · rw [← Nat.add_assoc]
      exact string
    · rw [octet]
      decide
  · rw [if_neg long] at reads ⊢
    obtain ⟨inside,octet,string⟩ := reads_cons.mp reads
    have is : (UInt8.ofNat s.length).toNat = s.length := by
      rw [UInt8.toNat_ofNat']
      omega
    refine ⟨1,?_,?_,string,?_⟩
    · rw [h2HpackDecodeInt,if_neg (by omega),octet,is]
      dsimp only
      rw [Nat.mod_eq_of_lt (by omega),if_pos (by omega)]
    · rw [List.length_cons]
      omega
    · rw [octet,is]
      omega

/-- A string of any other length is read where it stands. -/
theorem decodeString_appendStr {s : List UInt8} (proper : s.length ≠ 127) (small : s.length < 2^31)
    (reads : Reads block «end» off (appendStr s)) (st : HpackState) :
    ∃ at_, h2HpackDecodeString block off «end» st = .ok (.block at_,s.length,(appendStr s).length) st ∧
      slice block at_ s.length = s := by
  obtain ⟨used,number,total,string,plain⟩ := decodeInt_appendStr proper small reads
  have inside : off < «end» := by
    have whole := reads.1
    have some_ : 0 < (appendStr s).length := by
      rw [appendStr]
      split <;> simp
    omega
  refine ⟨off + used,?_,string.2⟩
  rw [h2HpackDecodeString,if_neg (by omega),bind_run (pureStep_run number st)]
  dsimp only
  rw [ckrange,if_pos (by rw [decide_eq_true_eq]; exact string.1),if_neg (by omega),← total]
  rfl

end Length

/-! ### Fields -/

/-- Octets that are decoded to a field, and change nothing in the decoder. -/
structure Encodes (octets : List UInt8) (f : Field) : Prop where
  nonempty : 0 < octets.length
  decoded : ∀ block «end» off st, Reads block «end» off octets → ∃ ref,
    h2HpackDecodeField block off «end» st = .ok (off + octets.length,some ref) st ∧ denotes block st ref = f

/-- An entry of the static table. -/
def staticRef (entry : Nat) : FieldRef :=
  ⟨.staticName entry,(ascii (staticEntry entry).1).length,.staticValue entry,(ascii (staticEntry entry).2).length⟩

theorem lookup_static {index : Nat} (listed : index ≠ 0 ∧ index ≤ staticTableSize) (st : HpackState) :
    (fun s => pureStep (h2HpackTableLookup s.dyn index) s : HpackM FieldRef) st = .ok (staticRef (index - 1)) st := by
  refine pureStep_run ?_ st
  rw [h2HpackTableLookup,if_neg (Nat.not_lt.mpr listed.2),h2HpackStaticLookup,if_neg (by omega)]
  rfl

/-- A representation that leaves the dynamic table alone. -/
theorem field_run {block : Mem} {off «end» next : Nat} {st : HpackState} {r : Representation}
    (read : representation block off «end» st = .ok (next,r) st) (kept : commit block st r = .ok st.dyn) :
    h2HpackDecodeField block off «end» st = .ok (next,r.field) st := by
  rw [h2HpackDecodeField,bind_run read]
  simp only [kept]

/-- A literal whose name is one of the static table's. -/
theorem literal_encodes {front : List UInt8} {index : Nat} {value : List UInt8} (nonempty : 0 < front.length)
    (low : (front.headD 0).toNat < 32) (listed : index ≠ 0 ∧ index ≤ staticTableSize)
    (number : ∀ block «end» off, Reads block «end» off front →
    h2HpackDecodeInt block off 4 «end» = .ok (index,front.length))
    (proper : value.length ≠ 127) (small : value.length < 2^31) :
    Encodes (front ++ appendStr value) ⟨ascii (staticEntry (index - 1)).1,value⟩ := by
  refine ⟨by rw [List.length_append]; omega,?_⟩
  intro block «end» off st reads
  obtain ⟨before,behind⟩ := reads_append.mp reads
  obtain ⟨at_,string,text⟩ := decodeString_appendStr proper small behind st
  have first : (block off).toNat < 32 := by
    cases front with
    | nil => exact absurd nonempty (Nat.lt_irrefl 0)
    | cons octet rest =>
      rw [(reads_cons.mp before).2.1]
      exact low
  have lookup := lookup_static listed st
  have name : literalName block off 4 «end» st =
      .ok (.staticName (index - 1),(ascii (staticEntry (index - 1)).1).length,off + front.length) st := by
    rw [literalName,bind_run (pureStep_run (number block «end» off before) st)]
    dsimp only
    rw [if_neg listed.1]
    exact bind_run lookup
  have field : literalField block off 4 «end» st = .ok (off + front.length + (appendStr value).length,
      ⟨.staticName (index - 1),(ascii (staticEntry (index - 1)).1).length,.block at_,value.length⟩) st := by
    rw [literalField,bind_run name]
    dsimp only
    rw [bind_run string]
    rfl
  have inside := before.1
  refine ⟨⟨.staticName (index - 1),(ascii (staticEntry (index - 1)).1).length,.block at_,value.length⟩,?_,?_⟩
  · refine field_run (r := .literal _) ?_ rfl
    rw [representation,if_neg (by omega)]
    dsimp only
    rw [if_neg (by omega),if_neg (by omega),if_neg (by omega),bind_run field,List.length_append,← Nat.add_assoc]
    rfl
  · rw [denotes]
    simp only [HpackState.at,slice_ofBytes,slice_shift,Nat.add_zero,text]

/-- A name in the short form, and one whose index takes a second octet. -/
theorem short_encodes (octet : UInt8) {value : List UInt8} (listed : octet.toNat ≠ 0 ∧ octet.toNat < 15)
    (proper : value.length ≠ 127) (small : value.length < 2^31) :
    Encodes ([octet] ++ appendStr value) ⟨ascii (staticEntry (octet.toNat - 1)).1,value⟩ := by
  refine literal_encodes (by simp)
    (show octet.toNat < 32 by omega) ⟨listed.1,by rw [staticTableSize]; omega⟩ ?_ proper small
  intro block «end» off reads
  obtain ⟨inside,first,_⟩ := reads_cons.mp reads
  rw [h2HpackDecodeInt,if_neg (by omega),first]
  dsimp only
  rw [Nat.mod_eq_of_lt (by omega),if_pos (by omega)]
  rfl

theorem long_encodes (octet : UInt8) {value : List UInt8} (listed : octet.toNat ≤ 46)
    (proper : value.length ≠ 127) (small : value.length < 2^31) :
    Encodes ([0x0f,octet] ++ appendStr value) ⟨ascii (staticEntry (octet.toNat + 15 - 1)).1,value⟩ := by
  have number : ∀ block «end» off, Reads block «end» off [0x0f,octet] →
      h2HpackDecodeInt block off 4 «end» = .ok (octet.toNat + 15,2) := by
    intro block «end» off reads
    obtain ⟨inside,first,rest⟩ := reads_cons.mp reads
    have full : (0x0f : UInt8).toNat % 2^4 = 15 := rfl
    have is : UInt8.ofNat octet.toNat = octet := UInt8.ofNat_toNat
    have last : intLoop block off «end» 6 15 1 0 = .ok (15 + octet.toNat * 2^0,2) :=
      intLoop_last (by omega) (by decide) (by omega) (by rw [is]; exact rest)
    rw [h2HpackDecodeInt,if_neg (by omega),first]
    dsimp only
    rw [full,if_neg (by decide),last,Nat.pow_zero,Nat.mul_one,Nat.add_comm]
  have inside : octet.toNat + 15 ≠ 0 ∧ octet.toNat + 15 ≤ staticTableSize := ⟨by omega,by rw [staticTableSize]; omega⟩
  exact literal_encodes (by simp) (show (0x0f : UInt8).toNat < 32 by decide) inside number proper small

/-- The one field that is all in the static table, and in one octet. -/
theorem indexed_encodes (octet : UInt8) (listed : 128 < octet.toNat ∧ octet.toNat ≤ 128 + staticTableSize) :
    Encodes [octet] ⟨ascii (staticEntry (octet.toNat - 129)).1,ascii (staticEntry (octet.toNat - 129)).2⟩ := by
  refine ⟨by simp,?_⟩
  intro block «end» off st reads
  obtain ⟨inside,first,_⟩ := reads_cons.mp reads
  have number : h2HpackDecodeInt block off 7 «end» = .ok (octet.toNat - 128,1) := by
    have small := octet.toNat_lt
    have bits : octet.toNat % 2^7 = octet.toNat - 128 := by omega
    rw [staticTableSize] at listed
    rw [h2HpackDecodeInt,if_neg (by omega),first]
    dsimp only
    rw [bits,if_pos (by omega)]
  have lookup := lookup_static (show octet.toNat - 128 ≠ 0 ∧ octet.toNat - 128 ≤ staticTableSize by omega) st
  have entry : octet.toNat - 128 - 1 = octet.toNat - 129 := by omega
  rw [entry] at lookup
  refine ⟨staticRef (octet.toNat - 129),?_,?_⟩
  · refine field_run (r := .indexed _) ?_ rfl
    rw [representation,if_neg (by omega)]
    dsimp only
    rw [if_pos (by rw [first]; omega),bind_run (pureStep_run number st)]
    dsimp only
    rw [if_neg (by omega)]
    exact bind_run lookup
  · rw [denotes]
    simp only [staticRef,HpackState.at,slice_ofBytes]

/-- Pieces of a block, one behind the other. -/
theorem blockLoop_encoded {block : Mem} {«end» : Nat} : ∀ (pieces : List (List UInt8 × Field)) (fuel cursor : Nat)
    (fields : List FieldRef) (st : HpackState), (∀ piece ∈ pieces, Encodes piece.1 piece.2) →
      Reads block «end» cursor (pieces.flatMap Prod.fst) → cursor + (pieces.flatMap Prod.fst).length = «end» →
        fields.length + pieces.length ≤ maxFields → pieces.length ≤ fuel →
          ∃ refs, blockLoop block «end» fuel cursor fields st = .ok (fields ++ refs) st ∧
            refs.map (denotes block st) = pieces.map Prod.snd := by
  intro pieces
  induction pieces with
  | nil =>
    intro fuel cursor fields st _ _ whole _ _
    refine ⟨[],?_,rfl⟩
    rw [List.flatMap_nil,List.length_nil] at whole
    unfold blockLoop
    rw [if_pos (by omega),List.append_nil]
    rfl
  | cons piece pieces ih =>
    intro fuel cursor fields st encodes reads whole room turns
    rw [List.forall_mem_cons] at encodes
    rw [List.flatMap_cons] at reads whole
    rw [List.length_append] at whole
    obtain ⟨here,rest⟩ := reads_append.mp reads
    obtain ⟨ref,decoded,text⟩ := encodes.1.decoded block «end» cursor st here
    have nonempty := encodes.1.nonempty
    rw [List.length_cons] at room turns
    cases fuel with
    | zero => omega
    | succ fuel =>
      obtain ⟨refs,later,texts⟩ := ih fuel (cursor + piece.1.length) (fields ++ [ref]) st encodes.2 rest (by omega)
        (by rw [List.length_append]; simp only [List.length_singleton]; omega) (by omega)
      refine ⟨ref :: refs,?_,by rw [List.map_cons,List.map_cons,text,texts]⟩
      rw [blockLoop,if_neg (by omega)]
      dsimp only
      rw [bind_run decoded]
      dsimp only
      rw [if_neg (by omega),if_neg (by omega),later,List.append_assoc]
      rfl

/-- The fields of a block, if it is decoded. -/
def decodedFields (octets : List UInt8) (st : HpackState) : Option (List Field) :=
  match h2HpackDecodeBlock (ofBytes octets) octets.length st with
  | .ok refs st' => some (refs.map (denotes (ofBytes octets) st'))
  | .error _ _ => none

theorem pieces_length {pieces : List (List UInt8 × Field)} (encodes : ∀ piece ∈ pieces, Encodes piece.1 piece.2) :
    pieces.length ≤ (pieces.flatMap Prod.fst).length := by
  induction pieces with
  | nil => exact Nat.zero_le _
  | cons piece pieces ih =>
    rw [List.forall_mem_cons] at encodes
    have nonempty := encodes.1.nonempty
    have rest := ih encodes.2
    rw [List.flatMap_cons,List.length_append,List.length_cons]
    omega

theorem decodedFields_encoded {pieces : List (List UInt8 × Field)} (encodes : ∀ piece ∈ pieces, Encodes piece.1 piece.2)
    (few : pieces.length ≤ maxFields) (st : HpackState) :
    decodedFields (pieces.flatMap Prod.fst) st = some (pieces.map Prod.snd) := by
  obtain ⟨refs,decoded,texts⟩ :=
    blockLoop_encoded pieces (pieces.flatMap Prod.fst).length 0 [] { st with strOff := 0 } encodes
    (reads_ofBytes _) (Nat.zero_add _) (by rw [List.length_nil]; omega) (pieces_length encodes)
  rw [decodedFields,h2HpackDecodeBlock,decoded]
  exact congrArg some texts

/-! ### The block of a response -/

/-- The numbers of a response are words, and its range is one of the file. -/
structure Response.Sized (r : Response) : Prop where
  status : r.status < 2^64
  contentLength : r.contentLength < 2^64
  range : ∀ start «end», r.range = some (start,«end») → start ≤ «end» ∧ «end» < r.contentLength

/-- The octets announced are a word too. -/
theorem Response.Sized.length {r : Response} (sized : r.Sized) : r.length < 2^64 := by
  have whole := sized.contentLength
  rw [Response.length]
  split
  · exact whole
  · next start stop range =>
    have inside := sized.range start stop range
    omega

/-- `content-range`: the window and the size of the file. -/
def rangeText (start «end» size : Nat) : List UInt8 :=
  ascii start.repr ++ ['-'.toUInt8] ++ ascii «end».repr ++ ['/'.toUInt8] ++ ascii size.repr

/-- The fields of a response: 204 says nothing of a body, and an empty file has no
    type. -/
def Response.fields (r : Response) : List Field :=
  [⟨ascii ":status",ascii r.status.repr⟩] ++
    (if r.status = 204 then []
    else
      (if r.contentLength = 0 then [] else [⟨ascii "content-type",r.contentType⟩]) ++
        [⟨ascii "content-length",ascii r.length.repr⟩] ++
        (match r.range with
        | none => []
        | some (start,«end») => [⟨ascii "content-range",rangeText start «end» r.contentLength⟩])) ++
    (if r.gzip then [⟨ascii "content-encoding",ascii "gzip"⟩] else [])

/-- The octets of each field beside it. -/
def Response.pieces (r : Response) : List (List UInt8 × Field) :=
  [(statusField r,⟨ascii ":status",ascii r.status.repr⟩)] ++
    (if r.status = 204 then []
    else
      (if r.contentLength = 0 then [] else [(typeField r,⟨ascii "content-type",r.contentType⟩)]) ++
        [(lengthField r,⟨ascii "content-length",ascii r.length.repr⟩)] ++
        (match r.range with
        | none => []
        | some (start,«end») => [(rangeField r,⟨ascii "content-range",rangeText start «end» r.contentLength⟩)])) ++
    (if r.gzip then [(encodingField r,⟨ascii "content-encoding",ascii "gzip"⟩)] else [])

theorem pieces_fields (r : Response) : r.pieces.map Prod.snd = r.fields := by
  rw [Response.pieces,Response.fields]
  by_cases silent : r.status = 204 <;> by_cases empty : r.contentLength = 0 <;> cases r.range <;> cases r.gzip <;>
    simp [silent,empty]

theorem pieces_octets (r : Response) : r.pieces.flatMap Prod.fst = headerBlock r := by
  rw [Response.pieces,headerBlock]
  by_cases silent : r.status = 204 <;> by_cases empty : r.contentLength = 0 <;> cases range : r.range <;>
    cases gzip : r.gzip <;> simp [silent,empty,range,gzip,typeField,rangeField,encodingField]

theorem statusField_encodes {r : Response} (sized : r.Sized) :
    Encodes (statusField r) ⟨ascii ":status",ascii r.status.repr⟩ := by
  have short := repr_length sized.status
  rw [statusField]
  split
  · next ok =>
    rw [ok]
    exact indexed_encodes 0x88 (by decide)
  · rw [itoa_repr sized.status]
    exact short_encodes 0x08 (by decide) (by omega) (by omega)

theorem lengthField_encodes {r : Response} (sized : r.Sized) :
    Encodes (lengthField r) ⟨ascii "content-length",ascii r.length.repr⟩ := by
  have short := repr_length sized.length
  rw [lengthField,itoa_repr sized.length]
  exact long_encodes 0x0d (by decide) (by omega) (by omega)

theorem rangeField_encodes {r : Response} (sized : r.Sized) {start «end» : Nat} (range : r.range = some (start,«end»)) :
    Encodes (rangeField r) ⟨ascii "content-range",rangeText start «end» r.contentLength⟩ := by
  obtain ⟨ordered,inside⟩ := sized.range start «end» range
  have whole := sized.contentLength
  have first := repr_length (show start < 2^64 by omega)
  have last := repr_length (show «end» < 2^64 by omega)
  have size := repr_length whole
  have short : (rangeText start «end» r.contentLength).length ≤ 62 := by
    simp only [rangeText,List.length_append,List.length_singleton]
    omega
  rw [rangeField,range]
  dsimp only
  rw [itoa_repr (show start < 2^64 by omega),itoa_repr (show «end» < 2^64 by omega),itoa_repr whole]
  show Encodes ([0x0f,0x0f] ++ appendStr (rangeText start «end» r.contentLength)) _
  exact long_encodes 0x0f (by decide) (by omega) (by omega)

theorem encodingField_encodes {r : Response} (gzip : r.gzip = true) :
    Encodes (encodingField r) ⟨ascii "content-encoding",ascii "gzip"⟩ := by
  rw [encodingField,if_pos gzip]
  exact long_encodes 0x0b (by decide) (by decide) (by decide)

theorem typeField_encodes {r : Response} (some_ : r.contentLength ≠ 0) (proper : r.contentType.length ≠ 127)
    (small : r.contentType.length < 2^31) : Encodes (typeField r) ⟨ascii "content-type",r.contentType⟩ := by
  rw [typeField,if_neg some_]
  exact long_encodes 0x10 (by decide) proper small

theorem appendStr_length (s : List UInt8) : s.length ≤ (appendStr s).length := by
  rw [appendStr]
  split
  · rw [List.cons_append,List.length_cons,List.length_append]
    omega
  · rw [List.length_cons]
    omega

/-- A content type that is sent is within the block. -/
theorem contentType_length {r : Response} (spoken : r.status ≠ 204) (some_ : r.contentLength ≠ 0) :
    r.contentType.length ≤ (headerBlock r).length := by
  have whole := appendStr_length r.contentType
  rw [headerBlock,if_neg spoken,typeField,if_neg some_]
  simp only [List.length_append]
  omega

theorem pieces_encode {r : Response} (sized : r.Sized) (fits : (headerBlock r).length ≤ maxHeaderBlock)
    (proper : r.status ≠ 204 → r.contentLength ≠ 0 → r.contentType.length ≠ 127) :
    ∀ piece ∈ r.pieces, Encodes piece.1 piece.2 := by
  rw [maxHeaderBlock,defaultMaxFrameSize] at fits
  intro piece member
  rw [Response.pieces,List.mem_append,List.mem_append,List.mem_singleton] at member
  rcases member with (rfl | body) | coding
  · exact statusField_encodes sized
  · split at body
    · simp at body
    next spoken =>
    rw [List.mem_append,List.mem_append,List.mem_singleton] at body
    rcases body with (type | rfl) | range
    · split at type
      · simp at type
      next some_ =>
      rw [List.mem_singleton.mp type]
      have inside := contentType_length spoken some_
      exact typeField_encodes some_ (proper spoken some_) (by omega)
    · exact lengthField_encodes sized
    · split at range
      · simp at range
      next start stop window =>
      rw [List.mem_singleton.mp range]
      exact rangeField_encodes sized window
  · split at coding
    · next gzip =>
      rw [List.mem_singleton.mp coding]
      exact encodingField_encodes gzip
    · simp at coding

theorem pieces_few (r : Response) : r.pieces.length ≤ maxFields := by
  rw [Response.pieces,maxFields]
  by_cases silent : r.status = 204 <;> by_cases empty : r.contentLength = 0 <;> cases r.range <;> cases r.gzip <;>
    simp [silent,empty]

/-- Whatever the decoder's table holds, it decodes the block of a HEADERS frame to
    the fields of the response, unless a content type of 127 octets is sent. -/
theorem headersFrame_decoded {r : Response} {streamId extra : Nat} {f : OutFrame} (sized : r.Sized)
    (proper : r.status ≠ 204 → r.contentLength ≠ 0 → r.contentType.length ≠ 127)
    (made : headersFrame r streamId extra = some f) (st : HpackState) : decodedFields f.payload st = some r.fields := by
  rw [headersFrame] at made
  split at made
  · cases made
  next fits =>
  cases made
  rw [← pieces_fields,← pieces_octets]
  exact decodedFields_encoded (pieces_encode sized (Nat.not_lt.mp fits) proper) (pieces_few r) st

/-- The first octet of a page that is kept compressed. -/
theorem headersFrame_decoded_range :
    decodedFields (headerBlock ⟨206,ascii "text/html",300,some (0,0),ascii "h",true⟩) Core.initial.hpack =
      some [⟨ascii ":status",ascii "206"⟩,⟨ascii "content-type",ascii "text/html"⟩,⟨ascii "content-length",ascii "1"⟩,
        ⟨ascii "content-range",ascii "0-0/300"⟩,⟨ascii "content-encoding",ascii "gzip"⟩] := by
  have sized : Response.Sized ⟨206,ascii "text/html",300,some (0,0),ascii "h",true⟩ := by
    refine ⟨by decide,by decide,?_⟩
    rintro _ _ ⟨⟩
    exact ⟨by decide,by decide⟩
  exact @headersFrame_decoded _ 1 0 _ sized (by decide) rfl Core.initial.hpack

/-- 204 has neither a type nor a length, and a type of 127 octets makes the block
    unreadable: its length prefix says that more octets of the length follow. -/
theorem headersFrame_undecoded :
    decodedFields (headerBlock (statusResponse 204)) Core.initial.hpack = some [⟨ascii ":status",ascii "204"⟩] ∧
      decodedFields (headerBlock ⟨200,List.replicate 127 'a'.toUInt8,2,none,ascii "hi",false⟩) Core.initial.hpack =
      none := by
  decide +kernel

end Sarm.H2
