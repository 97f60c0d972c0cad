import Sarm.DynFifo
import Sarm.HpackFrame

/-!
What becomes of decoded fields while the rest of their block is decoded. A field
is a pair of pointers, and those into the arena of the dynamic table see what the
table does afterwards: an eviction moves the arena down under them, and an
insertion may write over bytes of an entry already gone. Pointers into the block,
the static table and the Huffman output keep what they denote.
-/
namespace Sarm.Hpack
open Sarm.Memory

/-- Name and value a field denotes in a state. -/
def denotes (block : Mem) (s : HpackState) (f : FieldRef) : Field :=
  ⟨slice (s.at block f.name) 0 f.nameLen,slice (s.at block f.value) 0 f.valueLen⟩

/-- One representation of a block: the state in which it has been read, and the
    state once the dynamic table has followed it. -/
structure DecodeStep where
  found : HpackState
  read : Representation
  after : HpackState

/-- The representations a block loop goes through, up to its end or its error. -/
def loopSteps (block : Mem) («end» : Nat) : Nat → Nat → HpackState → List DecodeStep
  | 0, _, _ => []
  | fuel+1, cursor, s =>
    if «end» ≤ cursor then []
    else match representation block cursor «end» s with
      | .error _ _ => []
      | .ok (next,r) found => match commit block found r with
        | .error _ => []
        | .ok dyn => ⟨found,r,{ found with dyn := dyn }⟩ :: loopSteps block «end» fuel next { found with dyn := dyn }

/-- The representations of a block. -/
def blockSteps (block : Mem) (len : Nat) (s : HpackState) : List DecodeStep :=
  loopSteps block len len 0 { s with strOff := 0 }

/-- At every later moment of the block each field denotes what it denoted when
    its representation had been read. -/
def FieldsKept (block : Mem) (steps : List DecodeStep) : Prop :=
  ∀ (a : DecodeStep) (rest : List DecodeStep), a :: rest <:+ steps → ∀ f, a.read.field = some f →
    ∀ b ∈ a :: rest, denotes block b.after f = denotes block a.found f

/-! ### What a table update stores -/

/-- The size of the entry an insertion makes, unless it wraps. -/
def FieldRef.entrySize (f : FieldRef) : Option Nat := (ckadd f.nameLen f.valueLen).bind (ckadd · 32)

/-- The bytes an update frees at the front of the arena to make room. -/
def freedBy (t : DynTable) : Representation → Nat
  | .incremental f => match f.entrySize with
    | none => 0
    | some size => if t.max < size then 0 else match insertEvict t size with
      | .ok r => r.freed
      | .error _ => 0
  | .sizeUpdate max => match resizeEvict t max with
    | .ok r => r.freed
    | .error _ => 0
  | _ => 0

/-- The arena with the bytes still live moved down over the freed ones. -/
def movedDown (t : DynTable) (freed : Nat) : Mem :=
  if freed = 0 then t.bytes else fun x => if x < t.used - freed then t.bytes (freed + x) else t.bytes x

/-- The arena with a string put at `dst`; one that lies in the arena itself is
    copied forward. -/
def put (bytes : Mem) (dst : Nat) (source : Source) (n : Nat) : Mem :=
  match source with
  | .outside m => blit bytes dst m n
  | .arena off => memcpy bytes dst off n

/-- The byte at offset `x` of the arena once the table has followed `r`. -/
def storedAt (block : Mem) (s : HpackState) (r : Representation) (x : Nat) : UInt8 :=
  let freed := freedBy s.dyn r
  let live := s.dyn.used - freed
  match r with
  | .incremental f => match f.entrySize with
    | none => s.dyn.bytes x
    | some size =>
      if s.dyn.max < size then s.dyn.bytes x
      else put (put (movedDown s.dyn freed) live (s.source block f.name) f.nameLen) (live + f.nameLen)
        (s.source block f.value) f.valueLen x
  | _ => movedDown s.dyn freed x

/-- A run of `n` bytes behind `p` covers offset `x` of the arena. -/
def Ptr.Covers (p : Ptr) (n x : Nat) : Prop := ∃ off, p = .arena off ∧ off ≤ x ∧ x < off + n

/-- The name or the value of a field covers offset `x` of the arena. -/
def FieldRef.Covers (f : FieldRef) (x : Nat) : Prop := f.name.Covers f.nameLen x ∨ f.value.Covers f.valueLen x

/-- No table update of the block, from a field's own representation on, moves or
    writes a different byte onto a place of the arena that the field covers. -/
def Undisturbed (block : Mem) (steps : List DecodeStep) : Prop :=
  ∀ (a : DecodeStep) (rest : List DecodeStep), a :: rest <:+ steps → ∀ f, a.read.field = some f →
    ∀ b ∈ a :: rest, ∀ x, f.Covers x → storedAt block b.found b.read x = b.found.dyn.bytes x

private theorem compact_movedDown {t : DynTable} {freed : Nat} {bytes : Mem}
    (executed : compact t.bytes freed (t.used - freed) = .ok bytes) : bytes = movedDown t freed := by
  unfold compact at executed
  unfold movedDown
  split at executed
  · next none => rw [if_pos none]; cases executed; rfl
  · next some =>
    rw [if_neg some]
    unfold arenaMove at executed
    split at executed
    · cases executed
      rw [memcpy_forward _ _ (.inl (Nat.zero_le _))]
      funext x
      simp only [blit,shift,Nat.zero_le,true_and,Nat.zero_add,Nat.sub_zero]
    · contradiction

private theorem arenaStore_put {bytes bytes' : Mem} {dst n : Nat} {source : Source}
    (executed : arenaStore bytes dst source n = .ok bytes') : bytes' = put bytes dst source n := by
  cases source with
  | outside m =>
    simp only [arenaStore] at executed
    split at executed
    · cases executed; rfl
    · contradiction
  | arena off =>
    simp only [arenaStore,arenaMove] at executed
    split at executed
    · cases executed; rfl
    · contradiction

theorem except_bind_ok {α β : Type} {x : Except HpackError α} {f : α → Except HpackError β} {b : β}
    (executed : (x >>= f) = .ok b) : ∃ a, x = .ok a ∧ f a = .ok b := by
  cases x with
  | ok a => exact ⟨a,rfl,executed⟩
  | error e => cases executed

/-- The arena an update leaves is given byte by byte by `storedAt`. -/
theorem commit_bytes {block : Mem} {s : HpackState} {r : Representation} {t : DynTable}
    (executed : commit block s r = .ok t) : t.bytes = storedAt block s r := by
  funext x
  cases r with
  | indexed f => cases executed; simp [storedAt,freedBy,movedDown]
  | literal f => cases executed; simp [storedAt,freedBy,movedDown]
  | sizeUpdate max =>
    simp only [commit,h2HpackDynResize] at executed
    obtain ⟨e,evicted,rest⟩ := except_bind_ok executed
    obtain ⟨bytes,compacted,last⟩ := except_bind_ok rest
    cases last
    simp only [storedAt,freedBy,evicted]
    rw [compact_movedDown compacted]
  | incremental f =>
    simp only [commit,h2HpackDynInsert] at executed
    cases size : f.entrySize with
    | none =>
      rw [FieldRef.entrySize] at size
      rw [size] at executed
      cases executed
      simp [storedAt,FieldRef.entrySize,size,DynTable.cleared]
    | some entrySize =>
      rw [FieldRef.entrySize] at size
      rw [size] at executed
      simp only at executed
      by_cases big : s.dyn.max < entrySize
      · rw [if_pos big] at executed
        cases executed
        simp [storedAt,FieldRef.entrySize,size,DynTable.cleared,big]
      · rw [if_neg big] at executed
        obtain ⟨e,evicted,rest⟩ := except_bind_ok executed
        obtain ⟨compacted,moved,rest⟩ := except_bind_ok rest
        obtain ⟨named,nameStored,rest⟩ := except_bind_ok rest
        obtain ⟨valued,valueStored,last⟩ := except_bind_ok rest
        cases last
        simp only [storedAt,freedBy,FieldRef.entrySize,size,if_neg big,evicted]
        rw [arenaStore_put valueStored,arenaStore_put nameStored,compact_movedDown moved]

/-! ### A field while other representations are decoded -/

/-- Each step reads its representation from the state the one before it left, and
    commits it. -/
inductive Linked (block : Mem) : HpackState → List DecodeStep → Prop where
  | done (s : HpackState) : Linked block s []
  | step {s found : HpackState} {r : Representation} {t : DynTable} {rest : List DecodeStep}
      (read : Appends s found) (written : ∀ f, r.field = some f → f.Written found)
      (committed : commit block found r = .ok t) (next : Linked block { found with dyn := t } rest) :
      Linked block s (⟨found,r,{ found with dyn := t }⟩ :: rest)

theorem loopSteps_linked (block : Mem) («end» : Nat) : ∀ (fuel cursor : Nat) (s : HpackState),
    Linked block s (loopSteps block «end» fuel cursor s) := by
  intro fuel
  induction fuel with
  | zero => intro cursor s; exact .done s
  | succ fuel ih =>
    intro cursor s
    unfold loopSteps
    split
    · exact .done s
    · split
      · exact .done s
      · next next r found read =>
        split
        · exact .done s
        · next dyn committed =>
          obtain ⟨appends,written⟩ := representation_appends read
          exact .step appends written committed (ih next _)

theorem linked_suffix {block : Mem} {s : HpackState} {steps : List DecodeStep} (linked : Linked block s steps)
    {a : DecodeStep} {rest : List DecodeStep} (suffix : a :: rest <:+ steps) :
    Linked block a.found (a :: rest) ∧ ∀ f, a.read.field = some f → f.Written a.found := by
  induction linked with
  | done s => simp at suffix
  | step read written committed next ih =>
    rcases List.suffix_cons_iff.mp suffix with same | later
    · cases same
      exact ⟨.step (Appends.refl _) written committed next,written⟩
    · exact ih later

/-- Reading further representations does not change what a field denotes. -/
theorem denotes_appends (block : Mem) {s s' : HpackState} (read : Appends s s') {f : FieldRef}
    (written : f.Written s) : denotes block s' f = denotes block s f := by
  have string : ∀ (p : Ptr) (n : Nat), Written s p n → slice (s'.at block p) 0 n = slice (s.at block p) 0 n := by
    intro p n inside
    cases p with
    | strBuf off =>
      have bound := inside off rfl
      simp only [HpackState.at,slice_shift]
      exact slice_congr (fun i small => read.kept _ (by omega))
    | arena off => simp only [HpackState.at,read.dyn]
    | block off => rfl
    | staticName entry => rfl
    | staticValue entry => rfl
  rw [denotes,denotes,string _ _ written.1,string _ _ written.2]

/-- A table update leaves a field alone exactly if it stores no other byte where
    the field lies. -/
theorem denotes_commit_iff {block : Mem} {s : HpackState} {r : Representation} {t : DynTable}
    (committed : commit block s r = .ok t) (f : FieldRef) :
    denotes block { s with dyn := t } f = denotes block s f ↔
      ∀ x, f.Covers x → storedAt block s r x = s.dyn.bytes x := by
  have string : ∀ (p : Ptr) (n : Nat),
      slice (HpackState.at { s with dyn := t } block p) 0 n = slice (s.at block p) 0 n ↔
        ∀ x, p.Covers n x → storedAt block s r x = s.dyn.bytes x := by
    intro p n
    cases p with
    | arena off =>
      simp only [HpackState.at,slice_shift,commit_bytes committed,slice_eq_iff,Nat.add_zero]
      constructor
      · rintro same x ⟨_,⟨⟩,low,high⟩
        have byte := same (x - off) (by omega)
        rwa [Nat.add_sub_cancel' low] at byte
      · intro same i small
        exact same (off + i) ⟨off,rfl,by omega,by omega⟩
    | block off => exact ⟨fun _ x covered => (by obtain ⟨_,⟨⟩,_⟩ := covered),fun _ => rfl⟩
    | strBuf off => exact ⟨fun _ x covered => (by obtain ⟨_,⟨⟩,_⟩ := covered),fun _ => rfl⟩
    | staticName entry => exact ⟨fun _ x covered => (by obtain ⟨_,⟨⟩,_⟩ := covered),fun _ => rfl⟩
    | staticValue entry => exact ⟨fun _ x covered => (by obtain ⟨_,⟨⟩,_⟩ := covered),fun _ => rfl⟩
  rw [denotes,denotes,Field.mk.injEq,string,string]
  constructor
  · rintro ⟨name,value⟩ x (covered | covered)
    · exact name x covered
    · exact value x covered
  · intro both
    exact ⟨fun x covered => both x (.inl covered),fun x covered => both x (.inr covered)⟩

theorem linked_kept_iff {block : Mem} {s : HpackState} {steps : List DecodeStep} (linked : Linked block s steps)
    {f : FieldRef} (written : f.Written s) :
    (∀ b ∈ steps, denotes block b.after f = denotes block s f) ↔
      ∀ b ∈ steps, ∀ x, f.Covers x → storedAt block b.found b.read x = b.found.dyn.bytes x := by
  induction linked with
  | done s => simp
  | step read _ committed next ih =>
    have later : f.Written _ := ⟨written.1.later read,written.2.later read⟩
    have head := denotes_commit_iff committed f
    rw [denotes_appends block read written] at head
    have tail := ih later
    rw [List.forall_mem_cons,List.forall_mem_cons]
    constructor
    · rintro ⟨first,rest⟩
      refine ⟨head.mp first,tail.mp ?_⟩
      intro b inside
      rw [rest b inside,first]
    · rintro ⟨first,rest⟩
      have same := head.mpr first
      refine ⟨same,?_⟩
      intro b inside
      rw [tail.mpr rest b inside,same]

/-! ### Whole blocks -/

/-- A block loop that succeeds goes through its steps, hands on their fields, and
    ends in the state the last one left. -/
theorem blockLoop_steps {block : Mem} {«end» : Nat} : ∀ (fuel cursor : Nat) (fields all : List FieldRef)
    (s s' : HpackState), blockLoop block «end» fuel cursor fields s = .ok all s' →
      all = fields ++ (loopSteps block «end» fuel cursor s).filterMap (fun step => step.read.field) ∧
        s' = ((loopSteps block «end» fuel cursor s).getLast?.map DecodeStep.after).getD s := by
  intro fuel
  induction fuel with
  | zero =>
    intro cursor fields all s s' executed
    unfold blockLoop at executed
    split at executed
    · obtain ⟨rfl,rfl⟩ := pure_ok executed
      simp [loopSteps]
    · exact (throw_ok executed).elim
  | succ fuel ih =>
    intro cursor fields all s s' executed
    unfold blockLoop at executed
    unfold loopSteps
    split at executed
    · next halted =>
      obtain ⟨rfl,rfl⟩ := pure_ok executed
      simp [halted]
    · next inside =>
      rw [if_neg inside]
      simp only at executed
      obtain ⟨⟨next,field⟩,s1,decoded,rest⟩ := bind_ok executed
      unfold h2HpackDecodeField at decoded
      obtain ⟨⟨next',r⟩,found,read,committed⟩ := bind_ok decoded
      rw [read]
      simp only at committed ⊢
      cases update : commit block found r with
      | error e => rw [update] at committed; contradiction
      | ok dyn =>
        rw [update] at committed
        cases committed
        simp only at rest ⊢
        split at rest
        · exact (throw_ok rest).elim
        · have last : ∀ (steps : List DecodeStep) (d : DecodeStep),
              ((d :: steps).getLast?.map DecodeStep.after).getD s =
                (steps.getLast?.map DecodeStep.after).getD d.after := by
            intro steps d
            cases steps with
            | nil => rfl
            | cons e steps => simp [List.getLast?_cons]
          rw [last]
          cases hands : r.field with
          | none =>
            rw [hands] at rest
            simp only [List.filterMap_cons,hands]
            exact ih next fields all _ s' rest
          | some f =>
            rw [hands] at rest
            simp only at rest
            split at rest
            · exact (throw_ok rest).elim
            · simp only [List.filterMap_cons,hands]
              have tail := ih next (fields ++ [f]) all _ s' rest
              simpa using tail

/-- The state of a fresh connection. -/
def HpackState.fresh : HpackState := ⟨h2HpackDynReset ⟨0,0,0,0,0,fun _ => ⟨0,0⟩,fun _ => 0⟩,fun _ => 0,0⟩

/-- Size update to 40, insert `a: b`, entry 62, insert `c: d`. -/
def movingBlock : List UInt8 :=
  [0x3f,0x09, 0x40,0x01,0x61,0x01,0x62, 0xbe, 0x40,0x01,0x63,0x01,0x64]

def movingSteps : List DecodeStep := blockSteps (ofBytes movingBlock) movingBlock.length .fresh

end Sarm.Hpack
