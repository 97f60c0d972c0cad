import Sarm.Child
import Sarm.HeaderReads

/-!
The path buffers between two requests. Parsing works inside them: it comes to the same
on buffers that agree. What it leaves is a run of octets with zeros behind it, which
the reset clears up to the first chunk of zeros.
-/
namespace Sarm.Http1
open Sarm.Memory Sarm.H2
open Sarm.Hpack (ascii)

/-- The octets of the path buffers. -/
def filenameOctets : Nat := 16 * filenameChunks
def queryOctets : Nat := 16 * queryChunks

variable {a b : Mem} {n : Nat}

theorem Same.store (same : Same n a b) (i : Nat) (octet : UInt8) : Same n (store a i octet) (store b i octet) := by
  intro j inside
  by_cases here : j = i
  · rw [here,store_same,store_same]
  · rw [store_other _ _ here,store_other _ _ here,same j inside]

theorem Same.blit (same : Same n a b) (dst : Nat) (src : Mem) (count : Nat) :
    Same n (blit a dst src count) (blit b dst src count) := by
  intro j inside
  by_cases covered : dst ≤ j ∧ j < dst + count
  · rw [blit_inside covered.1 covered.2,blit_inside covered.1 covered.2]
  · rw [blit_outside (by omega),blit_outside (by omega),same j inside]

/-! ### What is parsed -/

/-- Path buffers that agree. -/
structure Agree (bufs bufs' : PathBufs) : Prop where
  filename : Same filenameOctets bufs.filename bufs'.filename
  query : Same queryOctets bufs.query bufs'.query

/-- Results of parsing that agree. -/
def Agreed {α : Type} (r r' : PathBufs × α) : Prop := Agree r.1 r'.1 ∧ r.2 = r'.2

theorem cutQuery_agree :
    ∀ (left i length : Nat) {bufs bufs' : PathBufs}, Agree bufs bufs' → (left ≠ 0 → i + left ≤ filenameOctets) →
    Agreed (cutQuery left i length bufs) (cutQuery left i length bufs') := by
  intro left
  induction left with
  | zero => intro i length bufs bufs' agree _; exact ⟨agree,rfl⟩
  | succ left ih =>
    intro i length bufs bufs' agree inside
    have here := agree.filename i (by omega)
    rw [cutQuery,cutQuery,here]
    split
    · exact ⟨agree,rfl⟩
    · exact ih _ _ ⟨agree.filename.store _ _,agree.query.store _ _⟩ (by omega)

theorem parseEnd_agree {bufs bufs' : PathBufs} (agree : Agree bufs bufs') (query : Option Nat) {length : Nat}
    (inside : length ≤ filenameOctets) : Agreed (parseEnd query length bufs) (parseEnd query length bufs') := by
  cases query with
  | none => exact ⟨agree,rfl⟩
  | some start =>
    rw [parseEnd,parseEnd]
    have cut := cutQuery_agree (length - start) start 0 agree (by omega)
    generalize cutQuery (length - start) start 0 bufs = r at cut ⊢
    generalize cutQuery (length - start) start 0 bufs' = r' at cut ⊢
    obtain ⟨moved,end_⟩ := r
    obtain ⟨moved',end'⟩ := r'
    obtain ⟨agree,same⟩ := cut
    dsimp only at agree same
    subst same
    cases end_ with
    | none => exact ⟨agree,rfl⟩
    | some queryLength => exact ⟨⟨agree.filename.store _ _,agree.query⟩,rfl⟩

theorem filenameDone_agree {bufs bufs' : PathBufs} (agree : Agree bufs bufs') (default : Bool) {written : Nat}
    (query : Option Nat)
    (inside : written ≤ filenameOctets) :
    Agreed (filenameDone default written query bufs) (filenameDone default written query bufs') := by
  rw [filenameDone,filenameDone]
  split
  · split
    · refine parseEnd_agree ?_ query (by decide)
      exact ⟨(agree.filename.blit _ _ _).store _ _,agree.query⟩
    · exact parseEnd_agree agree query (by decide)
  · refine parseEnd_agree ?_ query inside
    exact ⟨agree.filename.store _ _,agree.query⟩

theorem filenameLoop_agree (hdr : Mem) (default : Bool) : ∀ (left read written : Nat) (slash : Bool) (query : Option Nat)
    {bufs bufs' : PathBufs}, Agree bufs bufs' →
    Agreed (filenameLoop hdr default left read written slash query bufs)
      (filenameLoop hdr default left read written slash query bufs') := by
  intro left
  induction left with
  | zero => intro read written slash query bufs bufs' agree; exact ⟨agree,rfl⟩
  | succ left ih =>
    intro read written slash query bufs bufs' agree
    have copied : Agree { bufs with filename := store bufs.filename written (hdr read) }
        { bufs' with filename := store bufs'.filename written (hdr read) } := ⟨agree.filename.store _ _,agree.query⟩
    rw [filenameLoop,filenameLoop]
    by_cases full : filenameBufSize ≤ written
    · rw [if_pos full,if_pos full]
      exact ⟨agree,rfl⟩
    rw [if_neg full,if_neg full]
    dsimp only
    split
    · exact ⟨agree,rfl⟩
    split
    · refine filenameDone_agree agree default query ?_
      have room : filenameBufSize ≤ filenameOctets := by decide
      omega
    split
    · exact ⟨agree,rfl⟩
    cases query with
    | some start => exact ih _ _ _ _ copied
    | none =>
      dsimp only
      split
      · split
        · exact ih _ _ _ _ agree
        · exact ih _ _ _ _ copied
      split
      · exact ih _ _ _ _ copied
      · exact ih _ _ _ _ copied

theorem parsePath_agree (hdr : Mem) (len : Nat) (default : Bool) {bufs bufs' : PathBufs} (agree : Agree bufs bufs') :
    Agreed (parsePath hdr len default bufs) (parsePath hdr len default bufs') := by
  rw [parsePath,parsePath]
  split
  · exact ⟨agree,rfl⟩
  cases findTarget hdr searchWindow 0 1 with
  | none => exact ⟨agree,rfl⟩
  | some i =>
    dsimp only
    split
    · exact ⟨agree,rfl⟩
    split
    · split
      · exact ⟨agree,rfl⟩
      · exact ⟨⟨(agree.filename.blit _ _ _).store _ _,agree.query⟩,rfl⟩
    · exact filenameLoop_agree _ _ _ _ _ _ _ ⟨agree.filename.blit _ _ _,agree.query⟩

theorem hexPair_agree (same : Same n a b) {off : Nat} (inside : off + 1 < n) : hexPair a off = hexPair b off := by
  rw [hexPair,hexPair,same off (by omega),same (off + 1) inside]

theorem decodeLoop_agree : ∀ (left read written : Nat) {a b : Mem}, Same n a b → read + left ≤ n →
    Same n (decodeLoop left read written a).1 (decodeLoop left read written b).1 ∧
      (decodeLoop left read written a).2 = (decodeLoop left read written b).2 := by
  intro left
  induction left using Nat.strong_induction_on with
  | h left ih =>
    intro read written a b same inside
    rw [decodeLoop.eq_def left read written a,decodeLoop.eq_def left read written b]
    cases left with
    | zero => exact ⟨same.store _ _,rfl⟩
    | succ left =>
      dsimp only
      rw [same read (by omega)]
      split
      · exact ⟨same.store _ _,rfl⟩
      split
      · match left, ih, inside with
        | 0, _, _ => exact ⟨same,rfl⟩
        | 1, _, _ => exact ⟨same,rfl⟩
        | rest+2, ih, inside =>
          dsimp only
          rw [hexPair_agree same (by omega)]
          cases hexPair b (read + 1) with
          | none => exact ⟨same,rfl⟩
          | some octet =>
            dsimp only
            split
            · exact ⟨same,rfl⟩
            · exact ih rest (by omega) (read + 3) (written + 1) (same.store _ _) (by omega)
      · exact ih left (by omega) (read + 1) (written + 1) (same.store _ _) (by omega)

/-! ### What is left behind -/

/-- Octets that are not NUL, and zeros behind them. -/
def Filled (m size : Nat) (buf : Mem) : Prop := (∀ i < m, buf i ≠ 0) ∧ ∀ i, m ≤ i → i < size → buf i = 0

/-- The same with a NUL among the octets at most. -/
def Dirty (size : Nat) (buf : Mem) : Prop :=
  ∃ m z, (∀ i < m, i ≠ z → buf i ≠ 0) ∧ ∀ i, m ≤ i → i < size → buf i = 0

variable {m size : Nat} {buf : Mem}

theorem Filled.dirty (filled : Filled m size buf) : Dirty size buf := ⟨m,m,fun i inside _ => filled.1 i inside,filled.2⟩

theorem Filled.next (filled : Filled m size buf) {octet : UInt8} (proper : octet ≠ 0) :
    Filled (m + 1) size (store buf m octet) := by
  constructor
  · intro i inside
    by_cases here : i = m
    · rw [here,store_same]
      exact proper
    · rw [store_other _ _ here]
      exact filled.1 i (by omega)
  · intro i behind inside
    rw [store_other _ _ (by omega)]
    exact filled.2 i (by omega) inside

/-- A NUL at an octet cuts off what is behind it, if that is zeros. -/
theorem Filled.cut {buf : Mem} (filled : Filled (m + 1) size buf) : Filled m size (store buf m 0) := by
  constructor
  · intro i inside
    rw [store_other _ _ (by omega)]
    exact filled.1 i (by omega)
  · intro i behind inside
    by_cases here : i = m
    · rw [here,store_same]
    · rw [store_other _ _ here]
      exact filled.2 i (by omega) inside

theorem Filled.terminated (filled : Filled m size buf) : Filled m size (store buf m 0) := by
  constructor
  · intro i inside
    rw [store_other _ _ (by omega)]
    exact filled.1 i inside
  · intro i behind inside
    by_cases here : i = m
    · rw [here,store_same]
    · rw [store_other _ _ here]
      exact filled.2 i behind inside

theorem Filled.string (filled : Filled m size buf) (octets : List UInt8) (proper : ∀ octet ∈ octets, octet ≠ 0) :
    Filled (m + octets.length) size (blit buf m (ofBytes octets) octets.length) := by
  constructor
  · intro i inside
    by_cases low : i < m
    · rw [blit_outside (.inl low)]
      exact filled.1 i low
    · have within : i - m < octets.length := by omega
      rw [blit_inside (by omega) inside,ofBytes,List.getD_eq_getElem _ _ within]
      exact proper _ (List.getElem_mem within)
  · intro i behind inside
    rw [blit_outside (.inr behind)]
    exact filled.2 i (by omega) inside

/-- A file name whose octets from `start` up to `i` have been moved away. -/
def Moving (start i m : Nat) (buf : Mem) : Prop :=
  (∀ j < start, buf j ≠ 0) ∧ (∀ j, i ≤ j → j < m → buf j ≠ 0) ∧
    ∀ j, (start ≤ j ∧ j < i) ∨ m ≤ j → j < filenameOctets → buf j = 0

theorem Moving.next {start i : Nat} (moving : Moving start i m buf) (past : start ≤ i) :
    Moving start (i + 1) m (store buf i 0) := by
  obtain ⟨kept,ahead,zeros⟩ := moving
  refine ⟨?_,?_,?_⟩
  · intro j inside
    rw [store_other _ _ (by omega)]
    exact kept j inside
  · intro j low high
    rw [store_other _ _ (by omega)]
    exact ahead j (by omega) high
  · intro j zero inside
    by_cases here : j = i
    · rw [here,store_same]
    · rw [store_other _ _ here]
      exact zeros j (by omega) inside

theorem cutQuery_fills {start : Nat} : ∀ (left i length : Nat) (bufs : PathBufs), start ≤ i →
    Moving start i (i + left) bufs.filename → Filled length queryOctets bufs.query → length + left ≤ queryBufSize →
      Filled start filenameOctets (cutQuery left i length bufs).1.filename ∧
        (∃ k, Filled k queryOctets (cutQuery left i length bufs).1.query) ∧ (cutQuery left i length bufs).2 ≠ none := by
  intro left
  induction left with
  | zero =>
    intro i length bufs past moving filled room
    refine ⟨⟨moving.1,fun j behind inside => ?_⟩,⟨length,filled⟩,nofun⟩
    exact moving.2.2 j (by omega) inside
  | succ left ih =>
    intro i length bufs past moving filled room
    have proper : bufs.filename i ≠ 0 := moving.2.1 i (Nat.le_refl i) (by omega)
    have moved : Moving start (i + 1) (i + 1 + left) (store bufs.filename i 0) := by
      rw [Nat.add_assoc,Nat.add_comm 1]
      exact moving.next past
    rw [cutQuery,if_neg (by omega)]
    exact ih (i + 1) (length + 1) _ (by omega) moved (filled.next proper) (by omega)

/-- Path buffers that parsing has left behind, with a path it has found inside them. -/
structure Laid (r : PathBufs × PathReply) : Prop where
  filename : ∃ m, Filled m filenameOctets r.1.filename
  query : ∃ k, Filled k queryOctets r.1.query
  length : ∀ parsed, r.2 = .path parsed → parsed.length ≤ filenameOctets

theorem parseEnd_laid {query : Option Nat} {length : Nat} {name queryBuf : Mem}
    (filename : Filled length filenameOctets name)
    (clear : Filled 0 queryOctets queryBuf) (found : ∀ start ∈ query, 0 < start ∧ start ≤ length)
    (room : length ≤ queryBufSize) : Laid (parseEnd query length ⟨name,queryBuf⟩) := by
  have bound : queryBufSize ≤ filenameOctets := by decide
  cases query with
  | none =>
    refine ⟨⟨length,filename⟩,⟨0,clear⟩,?_⟩
    rintro parsed ⟨⟩
    exact room.trans bound
  | some start =>
    obtain ⟨positive,inside⟩ := found start rfl
    have moving : Moving start start (start + (length - start)) name :=
      ⟨fun j before => filename.1 j (by omega),fun j _ before => filename.1 j (by omega),
        fun j zero => filename.2 j (by omega)⟩
    have fills := cutQuery_fills (length - start) start 0 ⟨name,queryBuf⟩ (Nat.le_refl start) moving clear (by omega)
    rw [parseEnd]
    generalize cutQuery (length - start) start 0 ⟨name,queryBuf⟩ = r at fills ⊢
    obtain ⟨kept,moved,cut⟩ := fills
    obtain ⟨bufs,_ | queryLength⟩ := r
    · exact absurd rfl cut
    · obtain ⟨start,rfl⟩ := Nat.exists_eq_succ_of_ne_zero (by omega : start ≠ 0)
      refine ⟨⟨start,kept.cut⟩,moved,?_⟩
      rintro parsed ⟨⟩
      simp only [Nat.succ_eq_add_one,Nat.add_sub_cancel]
      omega

theorem filenameDone_laid {default : Bool} {query : Option Nat} {written : Nat} {bufs : PathBufs}
    (filename : Filled written filenameOctets bufs.filename) (queryBuf : Filled 0 queryOctets bufs.query)
    (found : ∀ start ∈ query, wwwPrefix.length < start ∧ start ≤ written) (room : written < filenameBufSize) :
    Laid (filenameDone default written query bufs) := by
  have some_ : ∀ start ∈ query, 0 < start ∧ start ≤ written :=
    fun start mem => ⟨by have := found start mem; omega,(found start mem).2⟩
  rw [filenameDone]
  split
  · next docroot =>
    subst docroot
    split
    · refine parseEnd_laid ?_ queryBuf (fun start mem => ?_) (by decide)
      · exact (filename.string defaultFile (by decide +kernel)).terminated
      · have := found start mem
        omega
    · exact parseEnd_laid filename queryBuf some_ (by decide)
  · exact parseEnd_laid filename.terminated queryBuf some_ (by rw [filenameBufSize] at room; rw [queryBufSize]; omega)

theorem filenameLoop_laid {hdr : Mem} {default : Bool} : ∀ (left read written : Nat) (slash : Bool) (query : Option Nat)
    (bufs : PathBufs), Filled written filenameOctets bufs.filename → Filled 0 queryOctets bufs.query →
    wwwPrefix.length ≤ written →
      (∀ start ∈ query, wwwPrefix.length < start ∧ start ≤ written) →
        Laid (filenameLoop hdr default left read written slash query bufs) := by
  intro left
  induction left with
  | zero => intro read written slash query bufs filename queryBuf _ _; exact ⟨⟨_,filename⟩,⟨0,queryBuf⟩,by rintro _ ⟨⟩⟩
  | succ left ih =>
    intro read written slash query bufs filename queryBuf docroot found
    rw [filenameLoop]
    split
    · exact ⟨⟨_,filename⟩,⟨0,queryBuf⟩,by rintro _ ⟨⟩⟩
    next room =>
    dsimp only
    split
    · exact ⟨⟨_,filename⟩,⟨0,queryBuf⟩,by rintro _ ⟨⟩⟩
    next proper =>
    have copied := filename.next proper
    split
    · exact filenameDone_laid filename queryBuf found (by omega)
    split
    · exact ⟨⟨_,filename⟩,⟨0,queryBuf⟩,by rintro _ ⟨⟩⟩
    cases query with
    | some start =>
      have here := found start rfl
      refine ih _ _ _ _ _ copied queryBuf (by omega) ?_
      rintro start ⟨⟩
      omega
    | none =>
      dsimp only
      split
      · split
        · exact ih _ _ _ _ _ filename queryBuf docroot (by rintro _ ⟨⟩)
        · exact ih _ _ _ _ _ copied queryBuf (by omega) (by rintro _ ⟨⟩)
      split
      · refine ih _ _ _ _ _ copied queryBuf (by omega) ?_
        rintro start ⟨⟩
        omega
      · exact ih _ _ _ _ _ copied queryBuf (by omega) (by rintro _ ⟨⟩)

theorem parsePath_laid {hdr : Mem} {len : Nat} {default : Bool} {bufs : PathBufs}
    (filename : Filled 0 filenameOctets bufs.filename)
    (queryBuf : Filled 0 queryOctets bufs.query) : Laid (parsePath hdr len default bufs) := by
  have docroot : Filled wwwPrefix.length filenameOctets (blit bufs.filename 0 (ofBytes wwwPrefix) wwwPrefix.length) := by
    have written := filename.string wwwPrefix (by decide +kernel)
    rwa [Nat.zero_add] at written
  rw [parsePath]
  split
  · exact ⟨⟨_,filename⟩,⟨0,queryBuf⟩,by rintro _ ⟨⟩⟩
  cases findTarget hdr searchWindow 0 1 with
  | none => exact ⟨⟨_,filename⟩,⟨0,queryBuf⟩,by rintro _ ⟨⟩⟩
  | some i =>
    dsimp only
    split
    · exact ⟨⟨_,filename⟩,⟨0,queryBuf⟩,by rintro _ ⟨⟩⟩
    split
    · split
      · exact ⟨⟨_,filename⟩,⟨0,queryBuf⟩,by rintro _ ⟨⟩⟩
      · refine ⟨⟨1,?_⟩,⟨0,queryBuf⟩,?_⟩
        · -- Of the word the octets behind the asterisk are zeros.
          refine Filled.terminated ⟨?_,?_⟩
          · intro i inside
            obtain rfl : i = 0 := by omega
            rw [blit_inside (by omega) (by omega)]
            decide
          · intro i behind inside
            by_cases word : i < 4
            · rw [blit_inside (by omega) (by omega),ofBytes,List.getD_eq_default]
              simp
              omega
            · rw [blit_outside (by omega)]
              exact filename.2 i (by omega) inside
        · rintro parsed ⟨⟩
          decide
    · exact filenameLoop_laid _ _ _ _ _ ⟨_,_⟩ docroot queryBuf (Nat.le_refl _) (by rintro _ ⟨⟩)

/-- Decoding writes over octets that it has read. -/
theorem decodeLoop_dirty :
    ∀ (left read written : Nat) {buf : Mem}, Filled m size buf → written ≤ read → read + left ≤ size →
    Dirty size (decodeLoop left read written buf).1 ∧
      ∀ length ∈ (decodeLoop left read written buf).2, length ≤ written + left := by
  intro left
  induction left using Nat.strong_induction_on with
  | h left ih =>
    intro read written buf filled behind inside
    -- A NUL ends what has been written, among the octets or behind them.
    have ends : Dirty size (store buf written 0) := by
      refine ⟨m,written,?_,?_⟩
      · intro i before other
        rw [store_other _ _ other]
        exact filled.1 i before
      · intro i past within
        by_cases here : i = written
        · rw [here,store_same]
        · rw [store_other _ _ here]
          exact filled.2 i past within
    rw [decodeLoop.eq_def]
    cases left with
    | zero => exact ⟨ends,by simp⟩
    | succ left =>
      dsimp only
      by_cases nul : buf read = 0
      · rw [if_pos nul]
        exact ⟨ends,by simp⟩
      have among : read < m := by
        by_contra out
        exact nul (filled.2 read (by omega) (by omega))
      have over_ : ∀ octet : UInt8, octet ≠ 0 → Filled m size (store buf written octet) := by
        intro octet proper
        constructor
        · intro i before
          by_cases here : i = written
          · rw [here,store_same]
            exact proper
          · rw [store_other _ _ here]
            exact filled.1 i before
        · intro i past within
          rw [store_other _ _ (by omega)]
          exact filled.2 i past within
      rw [if_neg nul]
      split
      · match left, ih, inside with
        | 0, _, _ => exact ⟨filled.dirty,nofun⟩
        | 1, _, _ => exact ⟨filled.dirty,nofun⟩
        | rest+2, ih, inside =>
          dsimp only
          cases hexPair buf (read + 1) with
          | none => exact ⟨filled.dirty,nofun⟩
          | some octet =>
            dsimp only
            split
            · exact ⟨filled.dirty,nofun⟩
            · next proper =>
              obtain ⟨dirty,short⟩ :=
                ih rest (by omega) (read + 3) (written + 1) (over_ octet proper) (by omega) (by omega)
              exact ⟨dirty,fun length found => by have := short length found; omega⟩
      · obtain ⟨dirty,short⟩ := ih left (by omega) (read + 1) (written + 1) (over_ _ nul) (by omega) (by omega)
        exact ⟨dirty,fun length found => by have := short length found; omega⟩

/-! ### The reset -/

/-- Where the first chunk of zeros is, there is nothing behind it. -/
theorem zeroDirty_clears {m z : Nat} : ∀ (left i : Nat) {buf : Mem}, (∀ j < i, buf j = 0) →
    (∀ j, i ≤ j → j < m → j ≠ z → buf j ≠ 0) → (∀ j, m ≤ j → j < i + 16 * left → buf j = 0) →
      ∀ j < i + 16 * left, zeroDirty left i buf j = 0 := by
  intro left
  induction left with
  | zero => intro i buf clear _ _ j inside; exact clear j (by omega)
  | succ left ih =>
    intro i buf clear ahead behind j inside
    rw [zeroDirty]
    split
    · next chunk =>
      have zero : ∀ k < 16, buf (i + k) = 0 := by
        intro k small
        have here : buf (i + k) ∈ slice buf i 16 := List.mem_map_of_mem (List.mem_range'_1.mpr ⟨by omega,by omega⟩)
        rw [chunk] at here
        exact List.eq_of_mem_replicate here
      by_cases low : j < i + 16
      · by_cases before : j < i
        · exact clear j before
        · have := zero (j - i) (by omega)
          rwa [Nat.add_sub_cancel' (by omega)] at this
      · apply behind j ?_ inside
        by_contra short
        have first : i = z := by
          by_contra other
          exact ahead i (Nat.le_refl i) (by omega) other (zero 0 (by omega))
        exact ahead (i + 1) (by omega) (by omega) (by omega) (zero 1 (by omega))
    · refine ih (i + 16) ?_ ?_ ?_ j (by omega)
      · intro k before
        by_cases low : k < i
        · rw [blit_outside (.inl low)]
          exact clear k low
        · rw [blit_inside (by omega) before]
      · intro k low before other
        rw [blit_outside (.inr low)]
        exact ahead k (by omega) before other
      · intro k past within
        by_cases cleared : k < i + 16
        · by_cases low : k < i
          · rw [blit_outside (.inl low)]
            exact clear k low
          · rw [blit_inside (by omega) cleared]
        · rw [blit_outside (by omega)]
          exact behind k past (by omega)

theorem Dirty.cleared {chunks : Nat} (dirty : Dirty (16 * chunks) buf) :
    ∀ i < 16 * chunks, zeroDirty chunks 0 buf i = 0 := by
  obtain ⟨m,z,octets,zeros⟩ := dirty
  intro i inside
  refine zeroDirty_clears chunks 0 (fun _ => nofun) (fun j _ => octets j) (fun j past within => ?_) i (by omega)
  exact zeros j past (by omega)

/-! ### A request -/

/-- The path buffers of a record. -/
def pathBufs (r : Request) : PathBufs := ⟨r.filenameBuf,r.queryBuf⟩

/-- Both path buffers are clear. -/
def Clear (r : Request) : Prop := Filled 0 filenameOctets r.filenameBuf ∧ Filled 0 queryOctets r.queryBuf

/-- What a request may leave of them. -/
def Used (r : Request) : Prop := Dirty filenameOctets r.filenameBuf ∧ Dirty queryOctets r.queryBuf

theorem Clear.used {r : Request} (clear : Clear r) : Used r := ⟨clear.1.dirty,clear.2.dirty⟩

theorem Clear.agree {r r' : Request} (clear : Clear r) (clear' : Clear r') : Agree (pathBufs r) (pathBufs r') :=
  ⟨fun i inside => (clear.1.2 i (Nat.zero_le i) inside).trans (clear'.1.2 i (Nat.zero_le i) inside).symm,
    fun i inside => (clear.2.2 i (Nat.zero_le i) inside).trans (clear'.2.2 i (Nat.zero_le i) inside).symm⟩

/-- After the reset both are zero. -/
theorem Used.reset {r : Request} (used : Used r) : Clear (http1ResetRequest r) :=
  ⟨⟨fun _ => nofun,fun i _ inside => used.1.cleared i inside⟩,⟨fun _ => nofun,fun i _ inside => used.2.cleared i inside⟩⟩

/-- Records of the same request: it is served from the method and the file name. -/
structure Alike (r r' : Request) : Prop where
  method : r.method = r'.method
  length : r.pathLength = r'.pathLength
  filename : Same filenameOctets r.filenameBuf r'.filenameBuf
  inside : r.pathLength ≤ filenameOctets

theorem Alike.path {r r' : Request} (alike : Alike r r') :
    slice r.filenameBuf 0 r.pathLength = slice r'.filenameBuf 0 r'.pathLength := by
  rw [← alike.length]
  exact alike.filename.slice (by have := alike.inside; omega)

/-- The host is read from the header alone, into a buffer of its own. -/
theorem storeHost_alike {hdr : Mem} {len : Nat} {r r' : Request} (alike : Alike r r') (used : Used r) :
    (storeHost hdr len r).2 = (storeHost hdr len r').2 ∧ Used (storeHost hdr len r).1 ∧
      (storeHost hdr len r).1.method = r.method ∧ (storeHost hdr len r').1.method = r.method ∧
        Alike (storeHost hdr len r).1 (storeHost hdr len r').1 := by
  have method := alike.method.symm
  rw [storeHost,storeHost]
  cases getHeaderField hdr len (ascii "Host") with
  | found start remaining => exact ⟨rfl,used,rfl,method,⟨alike.method,alike.length,alike.filename,alike.inside⟩⟩
  | absent => exact ⟨rfl,used,rfl,method,⟨alike.method,alike.length,alike.filename,alike.inside⟩⟩
  | status code => exact ⟨rfl,used,rfl,method,alike⟩

/-- Parsing into clear buffers leaves them so that the reset clears them, and does not
    depend on what is behind them. -/
theorem parseTarget_clear {hdr : Mem} {len : Nat} {r r' : Request} (clear : Clear r) (clear' : Clear r')
    (method : r.method = r'.method) :
    (parseTarget hdr len r).2 = (parseTarget hdr len r').2 ∧ Used (parseTarget hdr len r).1 ∧
      (parseTarget hdr len r).1.method = r.method ∧ (parseTarget hdr len r').1.method = r.method ∧
        ((parseTarget hdr len r).2 = .parsed → Alike (parseTarget hdr len r).1 (parseTarget hdr len r').1) := by
  have agreed := parsePath_agree hdr len (r.method ≠ .options) (clear.agree clear')
  have laid : Laid (parsePath hdr len (r.method ≠ .options) (pathBufs r)) := parsePath_laid clear.1 clear.2
  rw [parseTarget,parseTarget,← method]
  change Agreed (parsePath hdr len (r.method ≠ .options) ⟨r.filenameBuf,r.queryBuf⟩)
    (parsePath hdr len (r.method ≠ .options) ⟨r'.filenameBuf,r'.queryBuf⟩) at agreed
  change Laid (parsePath hdr len (r.method ≠ .options) ⟨r.filenameBuf,r.queryBuf⟩) at laid
  generalize parsePath hdr len (r.method ≠ .options) ⟨r.filenameBuf,r.queryBuf⟩ = p at agreed laid ⊢
  generalize parsePath hdr len (r.method ≠ .options) ⟨r'.filenameBuf,r'.queryBuf⟩ = p' at agreed ⊢
  obtain ⟨bufs,reply⟩ := p
  obtain ⟨bufs',reply'⟩ := p'
  obtain ⟨agree,same⟩ := agreed
  obtain ⟨⟨m,name⟩,⟨k,query⟩,short⟩ := laid
  dsimp only at agree same name query short
  subst same
  cases reply with
  | noMatch => exact ⟨rfl,⟨name.dirty,query.dirty⟩,rfl,rfl,by rintro ⟨⟩⟩
  | status code => exact ⟨rfl,⟨name.dirty,query.dirty⟩,rfl,rfl,by rintro ⟨⟩⟩
  | path parsed =>
    dsimp only
    have room := short parsed rfl
    obtain ⟨dirty,shorter⟩ := decodeLoop_dirty parsed.length 0 0 name (Nat.le_refl 0) (by omega)
    have decoded := decodeLoop_agree parsed.length 0 0 agree.filename (by omega)
    rw [decodeUrl,decodeUrl]
    generalize decodeLoop parsed.length 0 0 bufs.filename = d at decoded dirty shorter ⊢
    generalize decodeLoop parsed.length 0 0 bufs'.filename = d' at decoded ⊢
    obtain ⟨filename,length⟩ := d
    obtain ⟨filename',length'⟩ := d'
    obtain ⟨front,same⟩ := decoded
    dsimp only at front same dirty shorter
    subst same
    cases length with
    | none => exact ⟨rfl,⟨dirty,query.dirty⟩,rfl,rfl,by rintro ⟨⟩⟩
    | some length =>
      have inside : length ≤ filenameOctets := (shorter length rfl).trans (by omega)
      have path : slice filename 0 length = slice filename' 0 length := front.slice (by omega)
      dsimp only
      rw [pathForbidden,pathForbidden,path]
      split
      · exact ⟨rfl,⟨dirty,query.dirty⟩,rfl,rfl,by rintro ⟨⟩⟩
      · obtain ⟨reply,used,kept,kept',alike⟩ := @storeHost_alike hdr len
          { r with filenameBuf := filename, queryBuf := bufs.query, pathLength := length, query := parsed.query.isSome,
                   queryLength := parsed.query.getD 0 }
          { r' with method := r.method, filenameBuf := filename', queryBuf := bufs'.query, pathLength := length,
                    query := parsed.query.isSome, queryLength := parsed.query.getD 0 }
          ⟨rfl,rfl,front,inside⟩ ⟨dirty,query.dirty⟩
        exact ⟨reply,used,kept,kept',fun _ => alike⟩

/-- The same of a whole request; an unknown method leaves the buffers alone. -/
theorem parseRequest_clear {hdr : Mem} {len : Nat} {r r' : Request} (clear : Clear r) (clear' : Clear r') :
    (parseRequest hdr len r).2 = (parseRequest hdr len r').2 ∧ Used (parseRequest hdr len r).1 ∧
      (parseRequest hdr len r).1.method = requestMethod hdr ∧ (parseRequest hdr len r').1.method = requestMethod hdr ∧
        ((parseRequest hdr len r).2 = .parsed → requestMethod hdr ≠ .unknown →
          Alike (parseRequest hdr len r).1 (parseRequest hdr len r').1) := by
  rw [parseRequest,parseRequest]
  dsimp only
  split
  · next unknown => exact ⟨rfl,clear.used,rfl,rfl,fun _ known => absurd unknown known⟩
  · obtain ⟨reply,used,kept,kept',alike⟩ :=
      @parseTarget_clear hdr len { r with method := requestMethod hdr, streamId := 0 }
      { r' with method := requestMethod hdr, streamId := 0 } clear clear' rfl
    exact ⟨reply,used,kept,kept',fun parsed _ => alike parsed⟩

end Sarm.Http1
