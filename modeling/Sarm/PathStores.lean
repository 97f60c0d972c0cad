import Sarm.PathAgreement

/-!
The stores of the HTTP/2 path parser. The file name buffer has room for the NUL behind
a name that fills it, the query buffer has none.
-/
namespace Sarm.H2
open Sarm.Memory
open Sarm.Hpack (ascii)
open Sarm.Http1 (collapse fnameLoop_step kept splitQuery slice_next)

/-- The size of the object `filename_buf`: the buffer and a NUL, in multiples of 16. -/
def filenameBufObject : Nat := (filenameBufSize + 1 + 15) / 16 * 16

/-- What is behind an object is as it was. -/
def KeptBeyond (size : Nat) (m m' : Mem) : Prop := ∀ i ≥ size, m' i = m i

/-- Whatever is in the buffers, nothing is written but them. -/
def StaysInside (path : Mem) (len : Nat) (default : Bool) : Prop :=
  ∀ bufs : PathBufs, KeptBeyond filenameBufObject bufs.filename (parseH2Path path len default bufs).1.filename ∧
    KeptBeyond queryBufSize bufs.query (parseH2Path path len default bufs).1.query

/-- The query fills its buffer, behind a file name that there is room for. -/
def FillsQuery (written : Nat) (slash : Bool) (l : List UInt8) : Prop :=
  written + (collapse slash (splitQuery l).1).length < filenameBufSize ∧
    ∃ query ∈ (splitQuery l).2, query.length = queryBufSize

/-- The targets with such a query. -/
def Overruns : List UInt8 → Prop
  | [] => False
  | octet :: rest => octet = '/'.toUInt8 ∧ FillsQuery wwwPrefix.length true rest

/-! ### One store -/

theorem keptBeyond_refl (size : Nat) (m : Mem) : KeptBeyond size m m := fun _ _ => rfl

theorem keptBeyond_store {size i : Nat} {m m' : Mem} {octet : UInt8} (inside : i < size)
    (later : KeptBeyond size (store m i octet) m') :
    KeptBeyond size m m' := fun k outside => by rw [later k outside,store_other _ _ (by omega)]

theorem keptBeyond_blit {size dst n : Nat} {m m' src : Mem} (inside : dst + n ≤ size)
    (later : KeptBeyond size (blit m dst src n) m') :
    KeptBeyond size m m' := fun k outside => by rw [later k outside,blit_outside (by omega)]

theorem keptBeyond_append {size written : Nat} {bufs : PathBufs} {octets : List UInt8} {m' : Mem}
    (inside : written < size)
    (later : KeptBeyond size (Http1.append bufs written octets).filename m') : KeptBeyond size bufs.filename m' := by
  cases octets with
  | nil => exact later
  | cons octet rest => exact keptBeyond_store inside later

/-! ### The loops -/

/-- Copying a query touches what is behind the buffer only if it fills it. -/
theorem queryLoop_untouched {path : Mem} : ∀ (left at_ written : Nat) (query : Mem), written ≤ queryBufSize →
    written + left ≠ queryBufSize → KeptBeyond queryBufSize query (queryLoop path left at_ written query).1 := by
  intro left
  induction left with
  | zero =>
    intro at_ written query fits other
    exact keptBeyond_store (by omega) (keptBeyond_refl _ _)
  | succ left ih =>
    intro at_ written query fits other
    rw [queryLoop]
    split
    · exact keptBeyond_refl _ _
    · next room =>
      exact keptBeyond_store (Nat.lt_of_not_le room) (ih _ _ _ (by omega) (by omega))

/-- Then the NUL is behind it. -/
theorem queryLoop_fills {path : Mem} : ∀ (left at_ written : Nat) (query : Mem), written + left = queryBufSize →
    (queryLoop path left at_ written query).1 queryBufSize = 0 ∧ (queryLoop path left at_ written query).2 =
        some queryBufSize := by
  intro left
  induction left with
  | zero =>
    intro at_ written query fills
    rw [← fills]
    exact ⟨store_same _ _ _,rfl⟩
  | succ left ih =>
    intro at_ written query fills
    rw [queryLoop,if_neg (by omega)]
    exact ih _ _ _ (by omega)

theorem fnameDone_untouched {default : Bool} {written : Nat} {bufs : PathBufs} (room : written ≤ filenameBufSize) :
    KeptBeyond filenameBufObject bufs.filename (fnameDone default written bufs).1.filename ∧
      (fnameDone default written bufs).1.query = bufs.query := by
  have size : filenameBufObject = filenameBufSize + 16 := by decide
  have small : wwwPrefix.length + defaultFile.length ≤ filenameBufSize := by decide +kernel
  rw [fnameDone]
  split
  · next docroot =>
    split
    · refine ⟨keptBeyond_store (by omega)
      (keptBeyond_blit (by omega) (keptBeyond_store (by omega) (keptBeyond_refl _ _))),rfl⟩
    · exact ⟨keptBeyond_store (by omega) (keptBeyond_refl _ _),rfl⟩
  · exact ⟨keptBeyond_store (by omega) (keptBeyond_refl _ _),rfl⟩

theorem fillsQuery_mark {written : Nat} {slash : Bool} {rest : List UInt8} :
    FillsQuery written slash ('?'.toUInt8 :: rest) ↔ written < filenameBufSize ∧ rest.length = queryBufSize := by
  simp [FillsQuery,splitQuery,collapse]

theorem fillsQuery_plain {written : Nat} {slash : Bool} {octet : UInt8} {rest : List UInt8}
    (plain : octet ≠ '?'.toUInt8) :
    FillsQuery written slash (octet :: rest) ↔ FillsQuery (written + (kept slash octet).length)
        (octet = '/'.toUInt8) rest := by
  rw [FillsQuery,FillsQuery,splitQuery,if_neg plain,collapse,List.length_append,Nat.add_assoc]

theorem fillsQuery_room {written : Nat} {slash : Bool} {l : List UInt8} (fills : FillsQuery written slash l) :
    written < filenameBufSize := Nat.lt_of_le_of_lt (Nat.le_add_right _ _) fills.1

/-- The file name loop, from what is written on. -/
theorem fnameLoop_untouched {path : Mem} {default : Bool} : ∀ (l : List UInt8) (at_ written : Nat) (slash : Bool)
    (bufs : PathBufs),
    slice path at_ l.length = l → written ≤ filenameBufSize →
      KeptBeyond filenameBufObject bufs.filename (fnameLoop path default l.length at_ written slash bufs).1.filename ∧
        (¬FillsQuery written slash l →
          KeptBeyond queryBufSize bufs.query (fnameLoop path default l.length at_ written slash bufs).1.query) ∧
        (FillsQuery written slash l → (fnameLoop path default l.length at_ written slash bufs).1.query queryBufSize =
            0) := by
  have size : filenameBufObject = filenameBufSize + 16 := by decide
  intro l
  induction l with
  | nil =>
    intro at_ written slash bufs _ fits
    obtain ⟨filename,query⟩ := @fnameDone_untouched default written bufs fits
    rw [List.length_nil,fnameLoop,query]
    refine ⟨filename,fun _ => keptBeyond_refl _ _,?_⟩
    rintro ⟨_,_,none,_⟩
    cases none
  | cons octet l ih =>
    intro at_ written slash bufs reads fits
    obtain ⟨first,rest⟩ := slice_next reads
    rw [List.length_cons]
    by_cases room : written < filenameBufSize
    · by_cases mark : octet = '?'.toUInt8
      · subst mark
        rw [fnameLoop,if_neg (by omega),if_pos first,fillsQuery_mark]
        have inside := @queryLoop_untouched path l.length (at_ + 1) 0 bufs.query (Nat.zero_le _)
        have fills := @queryLoop_fills path l.length (at_ + 1) 0 bufs.query
        revert inside fills
        generalize queryLoop path l.length (at_ + 1) 0 bufs.query = copied
        obtain ⟨query,_ | length⟩ := copied
        · intro inside fills
          refine ⟨keptBeyond_refl _ _,fun other => inside fun full => other ⟨room,by omega⟩,fun full => ?_⟩
          exact (fills (by omega)).1
        · intro inside fills
          refine ⟨keptBeyond_store (by omega) (keptBeyond_refl _ _),fun other => inside fun full =>
            other ⟨room,by omega⟩,fun full => ?_⟩
          exact (fills (by omega)).1
      · have grown : written + (kept slash octet).length ≤ filenameBufSize := by
          rw [kept]
          split <;> simp <;> omega
        obtain ⟨filename,query⟩ := ih (at_ + 1) _ (octet = '/'.toUInt8)
          (Http1.append bufs written (kept slash octet)) rest grown
        rw [fnameLoop_step (by rw [first]; exact mark) room,first,fillsQuery_plain mark]
        have same : (Http1.append bufs written (kept slash octet)).query = bufs.query := by
          rw [Http1.append.eq_def]
          split <;> rfl
        rw [same] at query
        exact ⟨keptBeyond_append (by omega) filename,query⟩
    · rw [fnameLoop,if_pos (by omega)]
      exact ⟨keptBeyond_refl _ _,fun _ => keptBeyond_refl _ _,fun fills => absurd (fillsQuery_room fills) room⟩

/-- What the parser does to what is behind its buffers. -/
theorem parseH2Path_stores {path : Mem} {target : List UInt8} (value : slice path 0 target.length = target)
    (default : Bool)
    (bufs : PathBufs) :
    KeptBeyond filenameBufObject bufs.filename (parseH2Path path target.length default bufs).1.filename ∧
      (¬Overruns target → KeptBeyond queryBufSize bufs.query (parseH2Path path target.length default bufs).1.query) ∧
      (Overruns target → (parseH2Path path target.length default bufs).1.query queryBufSize = 0) := by
  cases target with
  | nil => exact ⟨keptBeyond_refl _ _,fun _ => keptBeyond_refl _ _,False.elim⟩
  | cons octet rest =>
    obtain ⟨first,behind⟩ := slice_next value
    rw [parseH2Path,first,List.length_cons,Overruns]
    by_cases slash : octet = '/'.toUInt8
    · have other : ¬(rest.length + 1 = 1 ∧ octet = '*'.toUInt8) := by
        rw [slash]
        exact fun both => absurd both.2 (by decide)
      rw [if_neg other,if_neg (by omega),if_pos slash,Nat.add_sub_cancel]
      obtain ⟨filename,query,fills⟩ := @fnameLoop_untouched path default rest 1 wwwPrefix.length true
        { bufs with filename := blit bufs.filename 0 (ofBytes wwwPrefix) wwwPrefix.length } behind (by decide)
      refine ⟨keptBeyond_blit (by decide) filename,fun inside => query fun full => inside ⟨slash,full⟩,fun full =>
        fills full.2⟩
    · by_cases star : rest.length + 1 = 1 ∧ octet = '*'.toUInt8
      · rw [if_pos star]
        exact ⟨keptBeyond_store (by decide) (keptBeyond_store (by decide) (keptBeyond_refl _ _)),fun _ =>
          keptBeyond_refl _ _,fun full => absurd full.1 slash⟩
      · rw [if_neg star,if_neg (by omega),if_neg slash]
        exact ⟨keptBeyond_refl _ _,fun _ => keptBeyond_refl _ _,fun full => absurd full.1 slash⟩

theorem overruns_outside {path : Mem} {target : List UInt8} (value : slice path 0 target.length = target) {default : Bool}
    (full : Overruns target) : ¬StaysInside path target.length default := by
  intro inside
  have written := (parseH2Path_stores value default ⟨fun _ => 1,fun _ => 1⟩).2.2 full
  have kept := (inside ⟨fun _ => 1,fun _ => 1⟩).2 queryBufSize (Nat.le_refl _)
  rw [written] at kept
  exact absurd kept (by decide)

/-- The parser writes nothing but its buffers, unless a query that there is a file name
    for fills its own. -/
theorem parseH2Path_inside {path : Mem} {target : List UInt8} (value : slice path 0 target.length = target)
    (default : Bool) :
    StaysInside path target.length default ↔ ¬Overruns target := by
  constructor
  · exact fun inside full => overruns_outside value full inside
  · intro short bufs
    obtain ⟨filename,query,_⟩ := parseH2Path_stores value default bufs
    exact ⟨filename,query short⟩

theorem parseH2Path_inside_short : StaysInside (ofBytes (ascii "/a?b")) (ascii "/a?b").length true :=
  (parseH2Path_inside (slice_ofBytes _) true).mpr (by
    rw [show ascii "/a?b" = '/'.toUInt8 :: ascii "a?b" by decide]
    rintro ⟨_,_,query,there,full⟩
    have query : query = ascii "b" := Option.some.inj (there.symm.trans (by decide +kernel))
    rw [query] at full
    exact absurd full (by decide +kernel))

/-- The query fills its buffer: the NUL behind it is the first octet of what comes next
    in memory. -/
theorem parseH2Path_overruns : ¬StaysInside (ofBytes Http1.longTarget) Http1.longTarget.length true := by
  refine overruns_outside (slice_ofBytes _) ⟨rfl,?_⟩
  exact fillsQuery_mark.mpr ⟨by decide,List.length_replicate⟩

end Sarm.H2
