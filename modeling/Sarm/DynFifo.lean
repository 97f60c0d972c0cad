import Sarm.DynTable
import Sarm.Fifo

/-!
The dynamic table represents the first-in first-out queue of RFC 7541 section 4.
`Represents` ties the slots, the arena and the recorded totals to the queue's
entries, and insertion, size update, reset and lookup each follow their queue
operation under it, without an access outside the slots or the arena.
-/
namespace Sarm.Hpack
open Sarm.Memory Sarm.Fifo

/-- A header field as bytes. -/
structure Field where
  name : List UInt8
  value : List UInt8
  deriving DecidableEq, Repr

/-- The size of an entry by RFC 7541 section 4.1. -/
def Field.size (f : Field) : Nat := f.name.length + f.value.length + 32

/-- The bytes an entry occupies in the arena. -/
def Field.text (f : Field) : List UInt8 := f.name ++ f.value

def Field.descr (f : Field) : DynEntry := ⟨f.name.length,f.value.length⟩

/-- The arena contents of a list of entries, oldest first. -/
def text (q : List Field) : List UInt8 := q.flatMap Field.text

/-- The queue the table stands for. -/
abbrev FieldQueue := Queue Field.size

/-- The slots from `tail` on describe the entries, in order. -/
def Described (entries : Nat → DynEntry) (tail : Nat) (q : List Field) : Prop :=
  ∀ k (_ : k < q.length), (q[k]?).map Field.descr = some (entries ((tail + k) % dynCapEntries))

/-- The table `t` stands for the queue `q`. -/
structure Represents (t : DynTable) (q : FieldQueue) : Prop where
  max : t.max = q.max
  bound : q.max ≤ headerTableSize
  size : t.size = total Field.size q.entries
  used : t.used = (text q.entries).length
  count : t.count = q.entries.length
  tail : t.tail < dynCapEntries
  slots : Described t.entries t.tail q.entries
  arena : slice t.bytes 0 t.used = text q.entries

/-! ### Sizes and texts -/

theorem Field.text_length (f : Field) : f.text.length = f.descr.nameLen + f.descr.valueLen := by
  simp [Field.text,Field.descr]

theorem Field.size_least (f : Field) : 32 ≤ f.size := Nat.le_add_left _ _

theorem Field.size_eq (f : Field) : f.size = f.descr.nameLen + f.descr.valueLen + 32 := rfl

@[simp] theorem text_nil : text [] = [] := rfl

@[simp] theorem text_cons (f : Field) (q : List Field) : text (f :: q) = f.text ++ text q := rfl

@[simp] theorem text_append (q r : List Field) : text (q ++ r) = text q ++ text r := by
  simp [text]

/-- The text is shorter than the recorded size, by 32 octets an entry. -/
theorem text_length (q : List Field) : (text q).length + 32 * q.length = total Field.size q := by
  induction q with
  | nil => rfl
  | cons f q ih =>
    have head := f.text_length
    rw [text_cons,List.length_append,List.length_cons,total_cons,Field.size_eq]
    omega

theorem represents_used {t : DynTable} (rep : Represents t q) : t.used ≤ headerTableSize := by
  have short := text_length q.entries
  have fits := q.fits
  have bound := rep.bound
  have used := rep.used
  omega

theorem descr_of_described {entries : Nat → DynEntry} {tail : Nat} {f : Field} {q : List Field}
    (slots : Described entries tail (f :: q)) (inside : tail < dynCapEntries) : entries tail = f.descr := by
  have first := slots 0 (by simp)
  simpa [Nat.mod_eq_of_lt inside] using first.symm

theorem described_tail {entries : Nat → DynEntry} {tail : Nat} {f : Field} {q : List Field}
    (slots : Described entries tail (f :: q)) : Described entries (nextSlot tail) q := by
  intro k inside
  have later := slots (k+1) (by simpa using inside)
  rw [nextSlot_add]
  simpa using later

/-! ### Eviction -/

/-- The registers of an eviction loop stand for the entries still live. -/
structure Follows (t : DynTable) (q : List Field) (r : Evicting) : Prop where
  size : r.size = total Field.size q
  count : r.count = q.length
  tail : r.tail < dynCapEntries
  slots : Described t.entries r.tail q
  freed : r.freed + (text q).length = t.used

theorem start_follows {t : DynTable} {q : FieldQueue} (rep : Represents t q) : Follows t q.entries t.start :=
  ⟨rep.size,rep.count,rep.tail,rep.slots,by simp [DynTable.start,rep.used]⟩

/-- Evicting reads the oldest slot and leaves the registers of the rest. -/
theorem evictOne_follows {t : DynTable} {f : Field} {q : List Field} {r : Evicting} (now : Follows t (f :: q) r) :
    ∃ r', evictOne t r = .ok r' ∧ Follows t q r' := by
  have oldest := descr_of_described now.slots now.tail
  have size := now.size
  have count := now.count
  have freed := now.freed
  rw [total_cons,Field.size_eq] at size
  rw [List.length_cons] at count
  rw [text_cons,List.length_append,Field.text_length] at freed
  refine ⟨_,by rw [evictOne,slot_inside t now.tail],?_⟩
  rw [oldest]
  constructor
  · simp only; omega
  · simp only; omega
  · exact nextSlot_lt _
  · exact described_tail now.slots
  · simp only; omega

/-- A loop that evicts exactly while the entries outweigh `limit` ends with the
    queue's own eviction. -/
theorem evictWhile_follows {t : DynTable} {more : Evicting → Bool} {limit : Nat}
    (test : ∀ q r, Follows t q r → (more r = true ↔ limit < total Field.size q)) :
    ∀ (q : List Field) (r : Evicting), Follows t q r →
      ∃ r', evictWhile t more q.length r = .ok r' ∧ Follows t (evict Field.size limit q) r' := by
  intro q
  induction q with
  | nil =>
    intro r now
    have stop : more r = false := by
      rw [Bool.eq_false_iff]
      intro go
      exact absurd ((test [] r now).mp go) (by simp)
    exact ⟨r,evictWhile_stop _ stop,now⟩
  | cons f q ih =>
    intro r now
    by_cases full : limit < total Field.size (f :: q)
    · obtain ⟨r1,one,next⟩ := evictOne_follows now
      obtain ⟨r2,rest,last⟩ := ih r1 next
      refine ⟨r2,?_,?_⟩
      · rw [List.length_cons,evictWhile_step _ ((test _ r now).mpr full) one,rest]
      · rw [evict_full Field.size full]
        exact last
    · have stop : more r = false := by
        rw [Bool.eq_false_iff]
        exact fun go => full ((test _ r now).mp go)
      refine ⟨r,evictWhile_stop _ stop,?_⟩
      rw [evict_fits Field.size (by omega)]
      exact now

/-- The free slot asked for by an insertion is there whenever the sizes fit. -/
theorem insertEvict_follows {t : DynTable} {q : FieldQueue} (rep : Represents t q) {entrySize : Nat}
    (least : 32 ≤ entrySize) (room : entrySize ≤ q.max) :
    ∃ r, insertEvict t entrySize = .ok r ∧ Follows t (evict Field.size (q.max - entrySize) q.entries) r := by
  have test : ∀ (l : List Field) (r : Evicting), Follows t l r →
      ((t.max < r.size + entrySize || dynCapEntries ≤ r.count) = true ↔
        q.max - entrySize < total Field.size l) := by
    intro l r now
    have few := length_le_total Field.size Field.size_least l
    have bound := rep.bound
    simp only [Bool.or_eq_true,decide_eq_true_eq,rep.max,now.size,now.count,dynCapEntries]
    simp only [headerTableSize] at bound
    omega
  have run := evictWhile_follows test q.entries t.start (start_follows rep)
  rw [insertEvict,rep.count]
  exact run

theorem resizeEvict_follows {t : DynTable} {q : FieldQueue} (rep : Represents t q) (max : Nat) :
    ∃ r, resizeEvict t max = .ok r ∧ Follows t (evict Field.size max q.entries) r := by
  have test : ∀ (l : List Field) (r : Evicting), Follows t l r →
      (decide (max < r.size) = true ↔ max < total Field.size l) := by
    intro l r now
    rw [decide_eq_true_eq,now.size]
  have run := evictWhile_follows test q.entries t.start (start_follows rep)
  rw [resizeEvict,rep.count]
  exact run

/-- Once the freed bytes have gone from the front, the arena holds the text of
    what is left. -/
theorem compact_text {t : DynTable} {q : FieldQueue} (rep : Represents t q) {left : List Field} {r : Evicting}
    (now : Follows t left r) (suffix : left <:+ q.entries) :
    ∃ bytes, compact t.bytes r.freed (t.used - r.freed) = .ok bytes ∧
      t.used - r.freed = (text left).length ∧ slice bytes 0 (text left).length = text left := by
  obtain ⟨gone,whole⟩ := suffix
  have freed := now.freed
  have fits : t.used ≤ headerTableSize := by
    have short := text_length q.entries
    have queue := q.fits
    have bound := rep.bound
    have used := rep.used
    omega
  have live : t.used - r.freed = (text left).length := by omega
  refine ⟨_,compact_eq t.bytes (by omega),live,?_⟩
  have arena := rep.arena
  rw [← whole,text_append] at arena
  have goneLength : (text gone).length = r.freed := by
    have lengths := congrArg List.length arena
    rw [slice_length,List.length_append] at lengths
    omega
  have rest : slice t.bytes r.freed (text left).length = text left := by
    have cut := congrArg (fun l => (l.drop r.freed).take (text left).length) arena
    rw [slice_drop_take (by omega)] at cut
    simpa [← goneLength] using cut
  split
  · next none => rw [none] at rest; exact rest
  · rw [live,slice_blit_same,slice_shift]
    exact rest

/-! ### The operations -/

private theorem ok_bind {α β : Type} (a : α) (f : α → Except HpackError β) : (Except.ok a >>= f) = f a := rfl

theorem cleared_represents {t : DynTable} {q : FieldQueue} (rep : Represents t q) :
    Represents t.cleared (Queue.empty q.max) :=
  ⟨rep.max,rep.bound,rfl,rfl,rfl,Nat.mod_lt 0 (by decide),fun k inside => absurd inside (by simp),rfl⟩

theorem reset_represents (t : DynTable) : Represents (h2HpackDynReset t) (Queue.empty headerTableSize) :=
  ⟨rfl,Nat.le_refl _,rfl,rfl,rfl,Nat.mod_lt 0 (by decide),fun k inside => absurd inside (by simp),rfl⟩

/-- Appending a descriptor in the slot behind the live ones. -/
theorem described_append {entries : Nat → DynEntry} {tail : Nat} {q : List Field} (f : Field)
    (slots : Described entries tail q) (room : q.length < dynCapEntries) :
    Described (fun i => if i = (tail + q.length) % dynCapEntries then f.descr else entries i) tail (q ++ [f]) := by
  intro k inside
  rw [List.length_append,List.length_singleton] at inside
  by_cases last : k = q.length
  · subst last
    simp
  · have live : k < q.length := by omega
    have other : (tail + k) % dynCapEntries ≠ (tail + q.length) % dynCapEntries := by
      simp only [dynCapEntries] at room ⊢
      omega
    have slot := slots k live
    simp only [if_neg other]
    rw [List.getElem?_append_left live,slot]

/-- Where an insertion stands in the table before it: too large, or with the size
    of its entry. -/
theorem entrySize_cases (nameLen valueLen : Nat) :
    ((ckadd nameLen valueLen).bind (ckadd · 32) = none ∧ 2^64 ≤ nameLen + valueLen + 32) ∨
      (ckadd nameLen valueLen).bind (ckadd · 32) = some (nameLen + valueLen + 32) := by
  by_cases first : nameLen + valueLen < 2^64
  · have sum : ckadd nameLen valueLen = some (nameLen + valueLen) := if_pos first
    by_cases second : nameLen + valueLen + 32 < 2^64
    · exact .inr (by rw [sum]; exact if_pos second)
    · exact .inl ⟨by rw [sum]; exact if_neg second,by omega⟩
  · have sum : ckadd nameLen valueLen = none := if_neg first
    exact .inl ⟨by rw [sum]; rfl,by omega⟩

/-- The octets at a source. -/
def given (t : DynTable) : Source → Nat → List UInt8
  | .outside m, n => slice m 0 n
  | .arena off, n => slice t.bytes off n

/-- An entry that is larger than the table leaves nothing in it. -/
theorem insert_oversized {t : DynTable} {nameLen valueLen : Nat} (big : t.max < nameLen + valueLen + 32)
    (name value : Source) : h2HpackDynInsert t name nameLen value valueLen = .ok t.cleared := by
  unfold h2HpackDynInsert
  rcases entrySize_cases nameLen valueLen with ⟨wraps,_⟩ | sized
  · rw [wraps]
  · rw [sized]
    exact if_pos big

/-- An entry behind what the eviction leaves, with the text of both in the arena. -/
theorem append_represents {t : DynTable} {q : FieldQueue} (rep : Represents t q) {f : Field} (room : f.size ≤ q.max)
    {r : Evicting} (now : Follows t (evict Field.size (q.max - f.size) q.entries) r) {bytes : Mem}
    (live : t.used - r.freed = (text (evict Field.size (q.max - f.size) q.entries)).length)
    (arena : slice bytes 0 (t.used - r.freed + f.text.length) =
      text (evict Field.size (q.max - f.size) q.entries) ++ f.text) :
    Represents
      { max := t.max
        size := r.size + f.size
        used := t.used - r.freed + f.text.length
        count := r.count + 1
        tail := r.tail
        entries := fun i => if i = (r.tail + r.count) % dynCapEntries then f.descr else t.entries i
        bytes := bytes } (q.push f) := by
  have entries := Queue.push_entries q f room
  have bound := rep.bound
  simp only [headerTableSize] at bound
  have light := total_evict Field.size (q.max - f.size) q.entries
  have few := length_le_total Field.size Field.size_least (evict Field.size (q.max - f.size) q.entries)
  have least := Field.size_least f
  have whole : text (q.push f).entries = text (evict Field.size (q.max - f.size) q.entries) ++ f.text := by
    rw [entries,text_append,text_cons,text_nil,List.append_nil]
  have used : t.used - r.freed + f.text.length = (text (q.push f).entries).length := by
    rw [whole,List.length_append,live]
  constructor
  · rw [Queue.push_max]; exact rep.max
  · rw [Queue.push_max]; exact rep.bound
  · rw [entries,total_append,total_cons,total_nil,now.size]; rfl
  · exact used
  · rw [entries,List.length_append,List.length_singleton,now.count]
  · exact now.tail
  · rw [entries,now.count]
    exact described_append f now.slots (by simp only [dynCapEntries]; omega)
  · rw [whole]
    exact arena

/-- Insertion is the queue's `push` of some entry with the lengths asked for. The
    value is the one given when it lies outside the arena; so is the name, and a
    name inside the arena is the one there as long as no byte has to be freed. -/
theorem insert_pushes {t : DynTable} {q : FieldQueue} (rep : Represents t q) {name value : Source}
    {nameLen valueLen : Nat} (nameInside : name.Inside nameLen) (valueInside : value.Inside valueLen) :
    ∃ t' f, h2HpackDynInsert t name nameLen value valueLen = .ok t' ∧ Represents t' (q.push f) ∧
      (∀ m, value = .outside m → f.value = slice m 0 valueLen) ∧
      (∀ m, name = .outside m → f.name = slice m 0 nameLen) ∧
      (∀ off, name = .arena off → off + nameLen ≤ t.used →
        (nameLen + valueLen + 32 ≤ t.max → ∀ r, insertEvict t (nameLen + valueLen + 32) = .ok r → r.freed = 0) →
          f.name = slice t.bytes off nameLen) ∧
      (nameLen + valueLen + 32 ≤ t.max → ∀ r, insertEvict t (nameLen + valueLen + 32) = .ok r →
        f.name = slice t'.bytes (t.used - r.freed) nameLen) := by
  have bound := rep.bound
  have max := rep.max
  simp only [headerTableSize] at bound
  by_cases big : t.max < nameLen + valueLen + 32
  · have length : ∀ source n, (given t source n).length = n := by
      intro source n
      cases source <;> simp [given]
    refine ⟨_,⟨given t name nameLen,given t value valueLen⟩,insert_oversized big name value,?_,?_,?_,?_,?_⟩
    · rw [Queue.push_oversized q _ (by rw [Field.size,length,length,← max]; exact big)]
      exact cleared_represents rep
    · rintro m rfl; rfl
    · rintro m rfl; rfl
    · rintro off rfl _ _; rfl
    · exact fun fits => absurd big (Nat.not_lt.mpr fits)
  have size : (ckadd nameLen valueLen).bind (ckadd · 32) = some (nameLen + valueLen + 32) := by
    rcases entrySize_cases nameLen valueLen with ⟨_,large⟩ | size
    · omega
    · exact size
  unfold h2HpackDynInsert
  rw [size]
  simp only [if_neg big]
  rw [max] at big
  obtain ⟨r,evicted,now⟩ :=
    insertEvict_follows rep (show 32 ≤ nameLen + valueLen + 32 by omega) (Nat.not_lt.mp big)
  obtain ⟨bytes,compacted,live,arena⟩ := compact_text rep now (evict_suffix Field.size _ _)
  have short := text_length (evict Field.size (q.max - (nameLen + valueLen + 32)) q.entries)
  have light := total_evict Field.size (q.max - (nameLen + valueLen + 32)) q.entries
  obtain ⟨named,nameStored,nameKeeps⟩ := arenaStore_total bytes
    (show t.used - r.freed + nameLen ≤ headerTableSize by simp only [headerTableSize]; omega) nameInside
  obtain ⟨valued,valueStored,valueKeeps⟩ := arenaStore_total named
    (show t.used - r.freed + nameLen + valueLen ≤ headerTableSize by simp only [headerTableSize]; omega) valueInside
  generalize entry :
    (⟨slice named (t.used - r.freed) nameLen,slice valued (t.used - r.freed + nameLen) valueLen⟩ : Field) = f
  have nameIs : f.name = slice named (t.used - r.freed) nameLen := by rw [← entry]
  have valueIs : f.value = slice valued (t.used - r.freed + nameLen) valueLen := by rw [← entry]
  have descr : f.descr = ⟨nameLen,valueLen⟩ := by simp [Field.descr,nameIs,valueIs]
  have sizeIs : f.size = nameLen + valueLen + 32 := by rw [Field.size_eq,descr]
  have textIs : f.text.length = nameLen + valueLen := by simp [Field.text,nameIs,valueIs]
  refine ⟨_,f,by simp only [evicted,ok_bind,compacted,nameStored,valueStored]; rfl,?_,?_,?_,?_,?_⟩
  · rw [← sizeIs] at now live arena ⊢
    rw [Nat.add_assoc,← textIs,← descr]
    refine append_represents rep (by omega) now live ?_
    have older : slice valued 0 (t.used - r.freed) = slice bytes 0 (t.used - r.freed) :=
      slice_congr fun i inside => by rw [valueKeeps _ (by omega),nameKeeps _ (by omega)]
    have nameLater : slice valued (t.used - r.freed) nameLen = slice named (t.used - r.freed) nameLen :=
      slice_congr fun i inside => valueKeeps _ (by omega)
    rw [← live] at arena
    rw [textIs,slice_add,slice_add,Nat.zero_add,older,arena,nameLater,← nameIs,← valueIs]
    rfl
  · rintro m rfl
    rw [arenaStore_outside named m (by simp only [headerTableSize]; omega)] at valueStored
    cases valueStored
    rw [valueIs,slice_blit_same]
  · rintro m rfl
    rw [arenaStore_outside bytes m (by simp only [headerTableSize]; omega)] at nameStored
    cases nameStored
    rw [nameIs,slice_blit_same]
  · rintro off rfl below nothing
    have freed := nothing (by rw [rep.max]; omega) r evicted
    simp only [freed,Nat.sub_zero] at compacted nameStored nameIs live short
    simp only [compact,if_true,Except.ok.injEq] at compacted
    subst compacted
    simp only [arenaStore] at nameStored
    rw [arenaMove_forward t.bytes (.inr below) (by simp only [headerTableSize]; omega) nameInside] at nameStored
    cases nameStored
    rw [nameIs,slice_blit_same,slice_shift,Nat.add_zero]
  · intro _ r' evicted'
    rw [evicted] at evicted'
    cases evicted'
    rw [nameIs]
    exact slice_congr fun i inside => (valueKeeps _ (by omega)).symm

/-- Insertion of bytes from outside the arena. -/
theorem insert_represents {t : DynTable} {q : FieldQueue} (rep : Represents t q) (name value : Mem)
    (nameLen valueLen : Nat) :
    ∃ t', h2HpackDynInsert t (.outside name) nameLen (.outside value) valueLen = .ok t' ∧
      Represents t' (q.push ⟨slice name 0 nameLen,slice value 0 valueLen⟩) := by
  obtain ⟨t',f,inserted,next,valueIs,nameIs,_,_⟩ :=
    insert_pushes rep (show (Source.outside name).Inside nameLen from trivial)
      (show (Source.outside value).Inside valueLen from trivial)
  have same : f = ⟨slice name 0 nameLen,slice value 0 valueLen⟩ := by
    rw [← nameIs name rfl,← valueIs value rfl]
  exact ⟨t',inserted,same ▸ next⟩

theorem resize_represents {t : DynTable} {q : FieldQueue} (rep : Represents t q) {max : Nat}
    (small : max ≤ headerTableSize) :
    ∃ t', h2HpackDynResize t max = .ok t' ∧ Represents t' (q.resize max) := by
  obtain ⟨r,evicted,now⟩ := resizeEvict_follows rep max
  obtain ⟨bytes,compacted,live,arena⟩ := compact_text rep now (evict_suffix Field.size _ _)
  refine ⟨_,by simp only [h2HpackDynResize,evicted,ok_bind,compacted]; rfl,?_⟩
  exact ⟨rfl,small,now.size,live,now.count,now.tail,now.slots,by rw [live]; exact arena⟩

/-! ### Lookup -/

theorem lookupWalk_described {t : DynTable} :
    ∀ (steps : Nat) (q : List Field) (i off : Nat), Described t.entries i q → i < dynCapEntries → steps ≤ q.length →
      lookupWalk t steps i off = .ok ((i + steps) % dynCapEntries,off + (text (q.take steps)).length) := by
  intro steps
  induction steps with
  | zero =>
    intro q i off _ inside _
    simp [lookupWalk,Nat.mod_eq_of_lt inside]
  | succ steps ih =>
    intro q i off slots inside enough
    cases q with
    | nil => simp at enough
    | cons f q =>
      have oldest := descr_of_described slots inside
      have rest := ih q (nextSlot i) (off + (f.descr.nameLen + f.descr.valueLen)) (described_tail slots)
        (nextSlot_lt i) (by simpa using enough)
      rw [lookupWalk,slot_inside t inside]
      simp only [oldest,rest,nextSlot_add,List.take_succ_cons,text_cons,List.length_append,Field.text_length]
      rw [Nat.add_assoc]

/-- The bytes a lookup points at. -/
def DynTable.fieldAt (t : DynTable) (ref : DynRef) : Field :=
  ⟨slice t.bytes ref.name ref.nameLen,slice t.bytes ref.value ref.valueLen⟩

/-- A run of the arena inside the text it holds. -/
theorem arena_run {t : DynTable} {q : FieldQueue} (rep : Represents t q) {before after run : List UInt8}
    (split : text q.entries = before ++ run ++ after) : slice t.bytes before.length run.length = run := by
  have arena := rep.arena
  have used := rep.used
  rw [split] at arena used
  have cut := congrArg (fun l => (l.drop before.length).take run.length) arena
  rw [slice_drop_take (by simp only [used,List.length_append]; omega)] at cut
  simpa using cut

theorem lookup_represents {t : DynTable} {q : FieldQueue} (rep : Represents t q) {i : Nat} (positive : i ≠ 0)
    (inside : i ≤ q.entries.length) :
    ∃ ref, h2HpackDynLookup t i = .ok ref ∧ recent q.entries i = some (t.fieldAt ref) ∧
      ref.name + ref.nameLen = ref.value ∧ ref.value + ref.valueLen ≤ t.used := by
  have count := rep.count
  have target : q.entries.length - i < q.entries.length := by omega
  obtain ⟨f,found⟩ : ∃ f, q.entries[q.entries.length - i]? = some f :=
    ⟨_,List.getElem?_eq_getElem target⟩
  have walk := lookupWalk_described (t.count - i) q.entries t.tail 0 rep.slots rep.tail (by omega)
  have slot := rep.slots _ target
  rw [found,← count] at slot
  have descr : t.entries ((t.tail + (t.count - i)) % dynCapEntries) = f.descr := by simpa using slot.symm
  have split : q.entries = q.entries.take (t.count - i) ++ f :: q.entries.drop (t.count - i + 1) := by
    have cons : q.entries.drop (t.count - i) = f :: q.entries.drop (t.count - i + 1) := by
      rw [count] at *
      rw [List.drop_eq_getElem_cons target]
      congr 1
      simpa [List.getElem?_eq_getElem target] using found
    rw [← cons,List.take_append_drop]
  have whole := congrArg text split
  simp only [text_append,text_cons,Field.text] at whole
  have nameRun := arena_run rep
    (show text q.entries = text (q.entries.take (t.count - i)) ++ f.name ++
      (f.value ++ text (q.entries.drop (t.count - i + 1))) by rw [whole]; simp)
  have valueRun := arena_run rep
    (show text q.entries = (text (q.entries.take (t.count - i)) ++ f.name) ++ f.value ++
      text (q.entries.drop (t.count - i + 1)) by rw [whole]; simp)
  refine ⟨⟨(text (q.entries.take (t.count - i))).length,f.name.length,
    (text (q.entries.take (t.count - i))).length + f.name.length,f.value.length⟩,?_,?_,rfl,?_⟩
  · have reach : ¬ (i = 0 ∨ t.count < i) := by omega
    simp only [h2HpackDynLookup,if_neg reach,walk,Nat.zero_add,ok_bind]
    rw [slot_inside t (Nat.mod_lt _ (by decide)),descr,ok_bind]
    rfl
  · rw [recent_eq_getElem positive inside,found,DynTable.fieldAt,nameRun]
    rw [List.length_append] at valueRun
    rw [valueRun]
  · have lengths := congrArg List.length whole
    have used := rep.used
    simp only [List.length_append] at lengths
    simp only
    omega

/-- What a lookup returns lies in the part of the arena in use. -/
theorem lookup_inside {t : DynTable} {q : FieldQueue} (rep : Represents t q) {i : Nat} {ref : DynRef}
    (found : h2HpackDynLookup t i = .ok ref) :
    ref.name + ref.nameLen = ref.value ∧ ref.value + ref.valueLen ≤ t.used := by
  by_cases out : i = 0 ∨ t.count < i
  · rw [h2HpackDynLookup,if_pos out] at found
    contradiction
  · have count := rep.count
    obtain ⟨ref',found',_,inside⟩ := lookup_represents rep (i := i) (by omega) (by omega)
    rw [found] at found'
    cases found'
    exact inside

theorem lookup_outside {t : DynTable} {q : FieldQueue} (rep : Represents t q) {i : Nat}
    (out : i = 0 ∨ q.entries.length < i) : h2HpackDynLookup t i = .error .compression := by
  rw [h2HpackDynLookup,if_pos (by rw [rep.count]; exact out)]

/-! ### Whole histories -/

/-- An operation on the table as its callers perform it: the bytes inserted lie
    outside the arena, and a size update is at most the capacity. -/
inductive DynOp where
  | insert (name value : List UInt8)
  | resize (max : Nat) (small : max ≤ headerTableSize)
  | reset

def DynOp.apply (t : DynTable) : DynOp → Except HpackError DynTable
  | insert name value =>
    h2HpackDynInsert t (.outside (ofBytes name)) name.length (.outside (ofBytes value)) value.length
  | resize max _ => h2HpackDynResize t max
  | reset => .ok (h2HpackDynReset t)

/-- The operations one after the other, up to the first that fails. -/
def runOps : DynTable → List DynOp → Except HpackError DynTable
  | t, [] => .ok t
  | t, op :: ops => match op.apply t with
    | .error e => .error e
    | .ok t' => runOps t' ops

/-- What an operation means for the queue. -/
def DynOp.abstract (q : FieldQueue) : DynOp → FieldQueue
  | insert name value => q.push ⟨name,value⟩
  | resize max _ => q.resize max
  | reset => Queue.empty headerTableSize

/-- The field a lookup reads. -/
def lookupField (t : DynTable) (i : Nat) : Except HpackError Field :=
  match h2HpackDynLookup t i with
  | .ok ref => .ok (t.fieldAt ref)
  | .error e => .error e

theorem apply_represents {t : DynTable} {q : FieldQueue} (rep : Represents t q) (op : DynOp) :
    ∃ t', op.apply t = .ok t' ∧ Represents t' (op.abstract q) := by
  cases op with
  | insert name value =>
    obtain ⟨t',inserted,next⟩ := insert_represents rep (ofBytes name) (ofBytes value) name.length value.length
    rw [slice_ofBytes,slice_ofBytes] at next
    exact ⟨t',inserted,next⟩
  | resize max small => exact resize_represents rep small
  | reset => exact ⟨_,rfl,reset_represents t⟩

theorem runOps_represents {t : DynTable} {q : FieldQueue} (rep : Represents t q) (ops : List DynOp) :
    ∃ t', runOps t ops = .ok t' ∧ Represents t' (ops.foldl DynOp.abstract q) := by
  induction ops generalizing t q with
  | nil => exact ⟨t,rfl,rep⟩
  | cons op ops ih =>
    obtain ⟨t1,first,next⟩ := apply_represents rep op
    obtain ⟨t2,rest,last⟩ := ih next
    exact ⟨t2,by rw [runOps,first]; exact rest,last⟩

theorem lookupField_represents {t : DynTable} {q : FieldQueue} (rep : Represents t q) (i : Nat) :
    lookupField t i = match recent q.entries i with
      | some f => .ok f
      | none => .error .compression := by
  by_cases out : i = 0 ∨ q.entries.length < i
  · rw [lookupField,lookup_outside rep out,(recent_eq_none_iff _ _).mpr out]
  · obtain ⟨ref,found,field,_⟩ := lookup_represents rep (i := i) (by omega) (by omega)
    rw [lookupField,found,field]

/-- Every history of insertions, size updates and resets runs without an access
    out of bounds, and leaves a table whose lookups, size and arena use are those
    of the queue. -/
theorem dynTable_refines_fifo (t : DynTable) (ops : List DynOp) :
    ∃ t', runOps (h2HpackDynReset t) ops = .ok t' ∧
      let q := ops.foldl DynOp.abstract (Queue.empty headerTableSize)
      (∀ i, lookupField t' i = match recent q.entries i with
        | some f => .ok f
        | none => .error .compression) ∧
      (∀ i, lookupField t' i = .error .compression ↔ i = 0 ∨ q.entries.length < i) ∧
      (∀ i ref, h2HpackDynLookup t' i = .ok ref →
        ref.name + ref.nameLen ≤ headerTableSize ∧ ref.value + ref.valueLen ≤ headerTableSize) ∧
      t'.max = q.max ∧ t'.size = (q.entries.map fun f => f.name.length + f.value.length + 32).sum ∧
      t'.size ≤ t'.max ∧ t'.used = (q.entries.map fun f => f.name.length + f.value.length).sum ∧
      t'.used ≤ headerTableSize := by
  obtain ⟨t',run,rep⟩ := runOps_represents (reset_represents t) ops
  refine ⟨t',run,?_⟩
  intro q
  have lookups := lookupField_represents rep
  have weight := text_length q.entries
  have fits := q.fits
  have bound : q.max ≤ headerTableSize := rep.bound
  have used : t'.used = (text q.entries).length := rep.used
  refine ⟨lookups,?_,?_,rep.max,rep.size,?_,?_,by omega⟩
  · intro i
    rw [lookups i,← recent_eq_none_iff]
    cases recent q.entries i <;> simp
  · intro i ref found
    have inside := lookup_inside rep found
    omega
  · rw [rep.size,rep.max]
    exact fits
  · rw [used,text,List.length_flatMap]
    simp [Field.text]

end Sarm.Hpack
