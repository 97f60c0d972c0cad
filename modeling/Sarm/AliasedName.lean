import Sarm.HpackSound

/-!
A literal with incremental indexing that takes its name from the dynamic table. The name is read
where it lies in the arena, and the insertion moves the arena down over what it evicts before it
copies the name behind the rest.
-/
namespace Sarm.Hpack
open Sarm.Memory Sarm.Fifo Sarm.Rfc7541

/-! ### Copies that overlap -/

/-- A forward copy of a run whose octets are the same wherever its place and the target's are. What
    is left of the run is as it was at every moment. -/
theorem copyBlocks_stable {src dst n : Nat} {text : Nat → UInt8}
    (periodic : ∀ i < n, ∀ j < n, src + i = dst + j → text i = text j)
    (size : Nat) : ∀ (count k : Nat) (m : Mem), k + size * count ≤ n → (∀ i < n, m (src + i) = text i) →
      (∀ i < n, copyBlocks size count m (dst + k) (src + k) (src + i) = text i) ∧
        ∀ j, k ≤ j → j < k + size * count → copyBlocks size count m (dst + k) (src + k) (dst + j) = text j := by
  intro count
  induction count with
  | zero => intro k m _ held; exact ⟨held,fun j low high => by omega⟩
  | succ count ih =>
    intro k m inside held
    rw [Nat.mul_succ] at inside
    have copied : ∀ j, k ≤ j → j < k + size → blit m (dst + k) (shift m (src + k)) size (dst + j) = text j := by
      intro j low high
      rw [blit_inside (by omega) (by omega),shift,show src + k + (dst + j - (dst + k)) = src + j by omega]
      exact held j (by omega)
    have held' : ∀ i < n, blit m (dst + k) (shift m (src + k)) size (src + i) = text i := by
      intro i below
      by_cases hit : dst + k ≤ src + i ∧ src + i < dst + k + size
      · obtain ⟨j,place⟩ := Nat.exists_eq_add_of_le (show dst ≤ src + i by omega)
        rw [place,copied j (by omega) (by omega),periodic i below j (by omega) place]
      · rw [blit_outside (by omega)]
        exact held i below
    obtain ⟨rest,later⟩ := ih (k + size) _ (by omega) held'
    rw [copyBlocks,Nat.add_assoc dst,Nat.add_assoc src]
    refine ⟨rest,?_⟩
    intro j low high
    rw [Nat.mul_succ] at high
    by_cases first : j < k + size
    · rw [copyBlocks_outside _ _ _ _ _ _ (by omega)]
      exact copied j low first
    · exact later j (by omega) (by omega)

theorem memcpy_stable {m : Mem} {src dst n : Nat} {text : Nat → UInt8}
    (periodic : ∀ i < n, ∀ j < n, src + i = dst + j → text i = text j)
    (held : ∀ i < n, m (src + i) = text i) :
    (∀ i < n, memcpy m dst src n (src + i) = text i) ∧ ∀ j < n, memcpy m dst src n (dst + j) = text j := by
  obtain ⟨held',first⟩ := copyBlocks_stable periodic 16 (n / 16) 0 m (by omega) held
  obtain ⟨kept,rest⟩ := copyBlocks_stable periodic 1 (n % 16) (16 * (n / 16)) _ (by omega) held'
  refine ⟨kept,?_⟩
  intro j below
  rw [memcpy]
  by_cases blocks : j < 16 * (n / 16)
  · rw [copyBlocks_outside _ _ _ _ _ _ (by omega)]
    exact first j (Nat.zero_le j) (by omega)
  · exact rest j (by omega) (by omega)

/-! ### What the insertion does to the name -/

/-- The octets an insertion evicts from the front of the arena. -/
def evicted (t : DynTable) (entrySize : Nat) : Nat := match insertEvict t entrySize with
  | .ok r => r.freed
  | .error _ => 0

/-- The octet of the new entry at `i`, its value behind the name of the entry at `ref`. -/
def newOctet (t : DynTable) (ref : DynRef) (value : List UInt8) (i : Nat) : UInt8 :=
  if i < ref.nameLen then t.bytes (ref.name + i) else value.getD (i - ref.nameLen) 0

/-- Where the name of an entry lies, the arena has its octets again once the front is evicted and
    the rest is moved down: octet by octet it is what is behind it by as much as is evicted, and where
    the new entry goes what the new entry has there. Nothing is to be asked where the new entry is
    larger than the table. -/
def NameStands (t : DynTable) (ref : DynRef) (value : List UInt8) : Prop :=
  let size := ref.nameLen + value.length + 32
  let live := t.used - evicted t size
  t.max < size ∨ ∀ i < ref.nameLen,
    (ref.name + i < live → t.bytes (ref.name + i + evicted t size) = t.bytes (ref.name + i)) ∧
      (live ≤ ref.name + i → ref.name + i < live + ref.nameLen + value.length →
        newOctet t ref value (ref.name + i - live) = t.bytes (ref.name + i))

/-- The arena behind an insertion, `live` octets of which are older. -/
def inserted (t : DynTable) (freed : Nat) (ref : DynRef) (value : Mem) (valueLen : Nat) : Mem :=
  blit (memcpy (movedDown t freed) (t.used - freed) ref.name ref.nameLen) (t.used - freed + ref.nameLen) value valueLen

section
variable {t : DynTable} {ref : DynRef} {freed valueLen : Nat} {value : Mem}

/-- If the arena has the name again where it was, it has it behind the rest too. -/
theorem inserted_name
    (moved : ∀ i < ref.nameLen, ref.name + i < t.used - freed →
    t.bytes (ref.name + i + freed) = t.bytes (ref.name + i))
    (over_ : ∀ i < ref.nameLen, t.used - freed ≤ ref.name + i → ref.name + i < t.used - freed + ref.nameLen + valueLen →
      newOctet t ref (slice value 0 valueLen) (ref.name + i - (t.used - freed)) = t.bytes (ref.name + i)) :
    (∀ i < ref.nameLen, inserted t freed ref value valueLen (ref.name + i) = t.bytes (ref.name + i)) ∧
      ∀ i < ref.nameLen, inserted t freed ref value valueLen (t.used - freed + i) = t.bytes (ref.name + i) := by
  have held : ∀ i < ref.nameLen, movedDown t freed (ref.name + i) = t.bytes (ref.name + i) := by
    intro i below
    rw [movedDown]
    split
    · rfl
    · dsimp only
      split
      next low => rw [Nat.add_comm freed]; exact moved i below low
      next => rfl
  have periodic : ∀ i < ref.nameLen, ∀ j < ref.nameLen, ref.name + i = t.used - freed + j →
      t.bytes (ref.name + i) = t.bytes (ref.name + j) := by
    intro i belowI j belowJ place
    have octet := over_ i belowI (by omega) (by omega)
    rw [newOctet,if_pos (by omega),show ref.name + i - (t.used - freed) = j by omega] at octet
    exact octet.symm
  obtain ⟨kept,copied⟩ := memcpy_stable periodic held
  constructor
  · intro i below
    rw [inserted]
    by_cases hit : t.used - freed + ref.nameLen ≤ ref.name + i ∧ ref.name + i < t.used - freed + ref.nameLen + valueLen
    · have octet := over_ i below (by omega) hit.2
      rw [newOctet,if_neg (by omega)] at octet
      rw [blit_inside hit.1 hit.2,← octet,slice_getD _ _ (by omega),Nat.zero_add]
      congr 1
      omega
    · rw [blit_outside (by omega)]
      exact kept i below
  · intro i below
    rw [inserted,blit_outside (by omega)]
    exact copied i below

/-- And if it has both, its octets were those that the move and the new entry bring there. -/
theorem name_inserted
    (kept : ∀ i < ref.nameLen, inserted t freed ref value valueLen (ref.name + i) = t.bytes (ref.name + i))
    (copied : ∀ i < ref.nameLen, inserted t freed ref value valueLen (t.used - freed + i) = t.bytes (ref.name + i)) :
    ∀ i < ref.nameLen, (ref.name + i < t.used - freed → t.bytes (ref.name + i + freed) = t.bytes (ref.name + i)) ∧
      (t.used - freed ≤ ref.name + i → ref.name + i < t.used - freed + ref.nameLen + valueLen →
        newOctet t ref (slice value 0 valueLen) (ref.name + i - (t.used - freed)) = t.bytes (ref.name + i)) := by
  intro i below
  have octet := kept i below
  constructor
  · intro low
    rw [inserted,blit_outside (by omega),memcpy_outside _ (.inl low),movedDown] at octet
    split at octet
    next none_ => rw [none_,Nat.add_zero]
    next =>
      dsimp only at octet
      rw [if_pos low,Nat.add_comm freed] at octet
      exact octet
  · intro low high
    rw [← octet,newOctet]
    split
    next first =>
      have again := copied _ first
      rw [← again,show t.used - freed + (ref.name + i - (t.used - freed)) = ref.name + i by omega]
    next behind =>
      rw [inserted,blit_inside (by omega) high,slice_getD _ _ (by omega),Nat.zero_add]
      congr 1
      omega

end

/-! ### The representation -/

theorem bind_of_ok {α β : Type} {x : HpackM α} {f : α → HpackM β} {s s1 : HpackState} {a : α} (first : x s = .ok a s1) :
    (x >>= f) s = f a s1 := by
  show EStateM.bind x f s = _
  rw [EStateM.bind,first]

section
variable {block : Mem} {off «end» index used n length : Nat} {s s1 : HpackState} {q : FieldQueue} {ref : DynRef} {p : Ptr}

/-- How the representation is read: the name is where the table has it. -/
theorem representation_aliased (first : 64 ≤ (block off).toNat ∧ (block off).toNat < 128)
    (indexed : h2HpackDecodeInt block off 6 «end» = .ok (index,used)) (dynamic : staticTableSize < index)
    (found : h2HpackDynLookup s.dyn (index - staticTableSize) = .ok ref)
    (valued : h2HpackDecodeString block (off + used) «end» s = .ok (p,n,length) s1) :
    representation block off «end» s = .ok (off + used + length,.incremental ⟨.arena ref.name,ref.nameLen,p,n⟩) s1 := by
  have inside : ¬ «end» ≤ off := by
    intro past
    rw [h2HpackDecodeInt,if_pos past] at indexed
    cases indexed
  have number : pureStep (h2HpackDecodeInt block off 6 «end») s = .ok (index,used) s := by rw [indexed]; rfl
  have entry : pureStep (h2HpackTableLookup s.dyn index) s =
      .ok ⟨.arena ref.name,ref.nameLen,.arena ref.value,ref.valueLen⟩ s := by
    rw [h2HpackTableLookup,if_pos dynamic,found]
    rfl
  have named : literalName block off 6 «end» s = .ok (.arena ref.name,ref.nameLen,off + used) s := by
    rw [literalName,bind_of_ok number]
    dsimp only
    rw [if_neg (by omega)]
    exact bind_of_ok (x := fun s => pureStep (h2HpackTableLookup s.dyn index) s) entry
  have read : literalField block off 6 «end» s = .ok (off + used + length,⟨.arena ref.name,ref.nameLen,p,n⟩) s1 := by
    rw [literalField,bind_of_ok named]
    exact bind_of_ok valued
  rw [representation,if_neg inside]
  dsimp only
  rw [if_neg (by omega),if_pos first.1]
  exact bind_of_ok read

/-- An entry that has been pushed is read back from the arena. -/
theorem represents_pushed {t : DynTable} {f g : Field} (named : Represents t (q.push f))
    (pushed : Represents t (q.push g))
    (names : f.name.length = g.name.length) (values : f.value = g.value) (room : g.size ≤ q.max) : f.name = g.name := by
  have size : f.size = g.size := by rw [Field.size,Field.size,names,values]
  have texts := named.arena.symm.trans pushed.arena
  rw [Queue.push_entries q f (size ▸ room),Queue.push_entries q g room,size,text_append,text_append] at texts
  have last := List.append_cancel_left texts
  rw [text_cons,text_cons,text_nil,List.append_nil,List.append_nil,Field.text,Field.text] at last
  exact (List.append_inj last names).1

/-- The name of an entry is in the arena where the lookup finds it. -/
theorem entry_name (rep : Represents s.dyn q) (dynamic : staticTableSize < index)
    (found : h2HpackDynLookup s.dyn (index - staticTableSize) = .ok ref) {old : Field}
    (entry : tableField q index = some old) : old.name = slice s.dyn.bytes ref.name ref.nameLen := by
  have field := lookupField_represents rep (index - staticTableSize)
  unfold tableField at entry
  simp only [staticTableSize] at dynamic field found
  rw [if_neg (by omega),if_neg (by omega)] at entry
  rw [lookupField,found,entry] at field
  cases field
  rfl

/-- A string that has been decoded does not lie in the arena. -/
theorem decoded_outside (valued : h2HpackDecodeString block (off + used) «end» s = .ok (p,n,length) s1) (t : DynTable) :
    s1.source block p = .outside (s1.at block p) ∧ HpackState.at { s1 with dyn := t } block p = s1.at block p := by
  have foreign := (decodeString_sound valued).2.2.2
  cases at_ : p with
  | arena o => exact absurd at_ (foreign o)
  | _ => exact ⟨rfl,rfl⟩

/-- The field that is decoded once the table has followed, and what it denotes then. -/
theorem decoded_aliased (first : 64 ≤ (block off).toNat ∧ (block off).toNat < 128)
    (indexed : h2HpackDecodeInt block off 6 «end» = .ok (index,used)) (dynamic : staticTableSize < index)
    (found : h2HpackDynLookup s.dyn (index - staticTableSize) = .ok ref)
    (valued : h2HpackDecodeString block (off + used) «end» s = .ok (p,n,length) s1) {t : DynTable}
    (committed : commit block s1 (.incremental ⟨.arena ref.name,ref.nameLen,p,n⟩) = .ok t) :
    h2HpackDecodeField block off «end» s =
        .ok (off + used + length,some ⟨.arena ref.name,ref.nameLen,p,n⟩) { s1 with dyn := t } ∧
      denotes block { s1 with dyn := t } ⟨.arena ref.name,ref.nameLen,p,n⟩ =
        ⟨slice t.bytes ref.name ref.nameLen,slice (s1.at block p) 0 n⟩ := by
  constructor
  · rw [h2HpackDecodeField,bind_of_ok (representation_aliased first indexed dynamic found valued)]
    dsimp only
    rw [committed]
    rfl
  · rw [denotes,(decoded_outside valued t).2,HpackState.at,slice_shift,Nat.add_zero]

/-- The arena behind an insertion that has room. -/
theorem commit_inserted {t : DynTable} {r : Evicting} {value : Mem}
    (committed : commit block s (.incremental ⟨.arena ref.name,ref.nameLen,p,n⟩) = .ok t)
    (source : s.source block p = .outside value) (room : ref.nameLen + n + 32 ≤ s.dyn.max)
    (bound : s.dyn.max < 2^64) (ended : insertEvict s.dyn (ref.nameLen + n + 32) = .ok r) :
    t.bytes = inserted s.dyn r.freed ref value n := by
  have sized : FieldRef.entrySize ⟨.arena ref.name,ref.nameLen,p,n⟩ = some (ref.nameLen + n + 32) := by
    rcases entrySize_cases ref.nameLen n with ⟨_,wide⟩ | sized
    · omega
    · exact sized
  rw [commit_bytes committed]
  funext x
  simp only [storedAt,freedBy,sized,if_neg (Nat.not_lt.mpr room),ended,source]
  rfl

/-- With room for it, the entry and the field have the name exactly if it stands. -/
theorem inserted_iff {t : DynTable} {g : Field} {freed : Nat} {value : Mem} {live : FieldQueue}
    (pushed : Represents t (live.push g)) (values : g.value = slice value 0 n)
    (placed : g.name = slice t.bytes (s.dyn.used - freed) ref.nameLen)
    (arena : t.bytes = inserted s.dyn freed ref value n) (room : ref.nameLen + n + 32 ≤ live.max) :
    (Represents t (live.push ⟨slice s.dyn.bytes ref.name ref.nameLen,slice value 0 n⟩) ∧
        slice t.bytes ref.name ref.nameLen = slice s.dyn.bytes ref.name ref.nameLen) ↔
      ∀ i < ref.nameLen,
        (ref.name + i < s.dyn.used - freed → s.dyn.bytes (ref.name + i + freed) = s.dyn.bytes (ref.name + i)) ∧
        (s.dyn.used - freed ≤ ref.name + i → ref.name + i < s.dyn.used - freed + ref.nameLen + n →
          newOctet s.dyn ref (slice value 0 n) (ref.name + i - (s.dyn.used - freed)) = s.dyn.bytes (ref.name + i)) := by
  have size : (⟨slice s.dyn.bytes ref.name ref.nameLen,slice value 0 n⟩ : Field).size ≤ live.max := by
    rw [Field.size,slice_length,slice_length]
    exact room
  constructor
  · rintro ⟨represents,kept⟩
    have same := represents_pushed pushed represents (by rw [placed,slice_length,slice_length]) values size
    rw [placed,arena,slice_eq_iff] at same
    rw [arena,slice_eq_iff] at kept
    exact name_inserted kept same
  · intro stands
    obtain ⟨kept,copied⟩ := inserted_name (fun i below => (stands i below).1) fun i below => (stands i below).2
    rw [← slice_eq_iff,← arena] at kept copied
    have same : g = ⟨slice s.dyn.bytes ref.name ref.nameLen,slice value 0 n⟩ := by
      rw [← copied,← placed,← values]
    exact ⟨same ▸ pushed,kept⟩

/-- The entry is added under its name and the field has it too, exactly if the name stands in its
    place through the insertion. -/
theorem aliased_iff (rep : Represents s.dyn q) (first : 64 ≤ (block off).toNat ∧ (block off).toNat < 128)
    (indexed : h2HpackDecodeInt block off 6 «end» = .ok (index,used)) (dynamic : staticTableSize < index)
    (found : h2HpackDynLookup s.dyn (index - staticTableSize) = .ok ref) {old : Field}
    (entry : tableField q index = some old)
    (valued : h2HpackDecodeString block (off + used) «end» s = .ok (p,n,length) s1) :
    (∃ f s', h2HpackDecodeField block off «end» s = .ok (off + used + length,some f) s' ∧
      Represents s'.dyn (q.push ⟨old.name,slice (s1.at block p) 0 n⟩) ∧
        denotes block s' f = ⟨old.name,slice (s1.at block p) 0 n⟩) ↔
      NameStands s.dyn ref (slice (s1.at block p) 0 n) := by
  have name := entry_name rep dynamic found entry
  have source := (decoded_outside valued s1.dyn).1
  have same := (decodeString_appends valued).1.dyn
  have size : (slice (s1.at block p) 0 n).length = n := slice_length _ _ _
  have inArena : (Source.arena ref.name).Inside ref.nameLen := by
    obtain ⟨_,inUse⟩ := lookup_inside rep found
    have := represents_used rep
    show ref.name + ref.nameLen ≤ headerTableSize
    omega
  -- What the table follows the representation with.
  obtain ⟨t,g,inserted_,pushed,value,_,_,places⟩ := insert_pushes (same ▸ rep : Represents s1.dyn q) inArena
    (show (Source.outside (s1.at block p)).Inside n from trivial)
  have committed : commit block s1 (.incremental ⟨.arena ref.name,ref.nameLen,p,n⟩) = .ok t := by
    rw [commit,source]
    exact inserted_
  obtain ⟨decoded,denoted⟩ := decoded_aliased first indexed dynamic found valued committed
  have property : (∃ f s', h2HpackDecodeField block off «end» s = .ok (off + used + length,some f) s' ∧
      Represents s'.dyn (q.push ⟨old.name,slice (s1.at block p) 0 n⟩) ∧
        denotes block s' f = ⟨old.name,slice (s1.at block p) 0 n⟩) ↔
      Represents t (q.push ⟨old.name,slice (s1.at block p) 0 n⟩) ∧ slice t.bytes ref.name ref.nameLen = old.name := by
    rw [decoded]
    constructor
    · rintro ⟨f,s',same,represents,shown⟩
      cases same
      exact ⟨represents,(Field.mk.inj (denoted.symm.trans shown)).1⟩
    · rintro ⟨represents,kept⟩
      exact ⟨_,_,rfl,represents,by rw [denoted,kept]⟩
  rw [property,NameStands,size,name]
  rw [same] at inserted_ places
  have max := rep.max
  by_cases big : s.dyn.max < ref.nameLen + n + 32
  · have cleared : t = s.dyn.cleared := by
      rw [insert_oversized big] at inserted_
      exact (Except.ok.inj inserted_).symm
    have oversized : q.max < (⟨slice s.dyn.bytes ref.name ref.nameLen,slice (s1.at block p) 0 n⟩ : Field).size := by
      rw [Field.size,size,slice_length,← max]
      exact big
    refine iff_of_true ⟨?_,?_⟩ (.inl big)
    · rw [cleared,Queue.push_oversized q _ oversized]
      exact cleared_represents rep
    · rw [cleared]
      rfl
  · have room := Nat.not_lt.mp big
    obtain ⟨r,ended,_⟩ := insertEvict_follows rep (show 32 ≤ ref.nameLen + n + 32 by omega) (max ▸ room)
    have freed : evicted s.dyn (ref.nameLen + n + 32) = r.freed := by rw [evicted,ended]
    have bound : s1.dyn.max < 2^64 := by
      have bound := rep.bound
      rw [same,max]
      simp only [headerTableSize] at bound
      omega
    have arena := commit_inserted committed source (same.symm ▸ room) bound (same.symm ▸ ended)
    rw [same] at arena
    rw [freed,or_iff_right big]
    exact inserted_iff pushed (value _ rfl) (places room r ended) arena (max ▸ room)

end

/-- The table of a fresh connection with the entry `a: b`. -/
def oneEntry : DynTable :=
  match h2HpackDynInsert HpackState.fresh.dyn (.outside (ofBytes [0x61])) 1 (.outside (ofBytes [0x62])) 1 with
  | .ok t => t
  | .error _ => HpackState.fresh.dyn

theorem oneEntry_represents : Represents oneEntry ((Queue.empty headerTableSize).push ⟨[0x61],[0x62]⟩) := by
  obtain ⟨t,made,rep⟩ :=
    insert_represents (reset_represents ⟨0,0,0,0,0,fun _ => ⟨0,0⟩,fun _ => 0⟩) (ofBytes [0x61]) (ofBytes [0x62]) 1 1
  have same : oneEntry = t := by
    unfold oneEntry
    rw [show HpackState.fresh.dyn = h2HpackDynReset ⟨0,0,0,0,0,fun _ => ⟨0,0⟩,fun _ => 0⟩ from rfl,made]
  exact same ▸ rep

/-- The name of entry 62 with the value `e`. -/
def aliased : List UInt8 := [0x7e,0x01,0x65]

/-- Nothing is evicted. -/
theorem aliased_iff_roomy :
    ∃ f s', h2HpackDecodeField (ofBytes aliased) 0 3 { HpackState.fresh with dyn := oneEntry } = .ok (3,some f) s' ∧
    Represents s'.dyn (((Queue.empty headerTableSize).push ⟨[0x61],[0x62]⟩).push ⟨[0x61],[0x65]⟩) ∧
      denotes (ofBytes aliased) s' f = ⟨[0x61],[0x65]⟩ := by
  refine (aliased_iff (s := { HpackState.fresh with dyn := oneEntry }) (p := .block 2) (n := 1) oneEntry_represents
    (by decide) (rfl : h2HpackDecodeInt (ofBytes aliased) 0 6 3 = .ok (62,1)) (by decide)
    (rfl : h2HpackDynLookup oneEntry (62 - staticTableSize) = .ok ⟨0,1,1,1⟩)
    (rfl : tableField ((Queue.empty headerTableSize).push ⟨[0x61],[0x62]⟩) 62 = some ⟨[0x61],[0x62]⟩) rfl).mpr (.inr ?_)
  intro i below
  have first : i = 0 := Nat.lt_one_iff.mp below
  subst first
  exact ⟨fun _ => rfl,fun low => absurd low (by decide)⟩

/-- Size update to 80, insert `x:` and `ab: cd`. -/
def fullBlock : List UInt8 := [0x3f,0x31, 0x40,0x01,0x78,0x00, 0x40,0x02,0x61,0x62,0x02,0x63,0x64]

/-- The most recent entry before and after the field behind it, and what that one denotes. -/
def movedRun : Option (Nat × Option Field × Option Field × Field) :=
  match h2HpackDecodeBlock (ofBytes fullBlock) fullBlock.length .fresh with
  | .error _ _ => none
  | .ok _ s => match h2HpackDecodeField (ofBytes aliased) 0 3 s with
    | .ok (next,some f) s' =>
      some (next,(lookupField s.dyn 1).toOption,(lookupField s'.dyn 1).toOption,denotes (ofBytes aliased) s' f)
    | _ => none

/-- Behind it the name `ab` becomes `bc`, in the table and in the field. -/
theorem aliased_moved : ∃ fields s f s', h2HpackDecodeBlock (ofBytes fullBlock) fullBlock.length .fresh = .ok fields s ∧
    lookupField s.dyn 1 = .ok ⟨[0x61,0x62],[0x63,0x64]⟩ ∧ h2HpackDecodeField (ofBytes aliased) 0 3 s = .ok (3,some f) s' ∧
      lookupField s'.dyn 1 = .ok ⟨[0x62,0x63],[0x65]⟩ ∧ denotes (ofBytes aliased) s' f = ⟨[0x62,0x63],[0x65]⟩ := by
  have ran : movedRun = some (3,some ⟨[0x61,0x62],[0x63,0x64]⟩,some ⟨[0x62,0x63],[0x65]⟩,⟨[0x62,0x63],[0x65]⟩) := by
    decide +kernel
  have ok_ {x : Except HpackError Field} {f : Field} (found : x.toOption = some f) : x = .ok f := by
    cases x <;> cases found
    rfl
  rw [movedRun] at ran
  cases block : h2HpackDecodeBlock (ofBytes fullBlock) fullBlock.length .fresh with
  | error e s => rw [block] at ran; cases ran
  | ok fields s =>
    rw [block] at ran
    dsimp only at ran
    cases field : h2HpackDecodeField (ofBytes aliased) 0 3 s with
    | error e s' => rw [field] at ran; cases ran
    | ok r s' =>
      rw [field] at ran
      obtain ⟨next,_ | f⟩ := r
      · cases ran
      · simp only [Option.some.injEq,Prod.mk.injEq] at ran
        obtain ⟨rfl,before,after,read⟩ := ran
        exact ⟨fields,s,f,s',rfl,ok_ before,field,ok_ after,read⟩

end Sarm.Hpack
