import Sarm.Http1Path
import Sarm.Request

/-!
The two front ends on one target. Both come to the docroot, the path with its
slashes collapsed, and the query. They bound the lengths differently: HTTP/1 copies
path and query into one buffer before it cuts the query off, HTTP/2 each into its
own.
-/
namespace Sarm.Http1
open Sarm.Memory Sarm.H2
open Sarm.Hpack (ascii)

/-! ### What a target names -/

/-- The path, and the query behind the first question mark. -/
def splitQuery : List UInt8 → List UInt8 × Option (List UInt8)
  | [] => ([],none)
  | octet :: rest =>
    if octet = '?'.toUInt8 then ([],some rest) else (octet :: (splitQuery rest).1,(splitQuery rest).2)

/-- An octet behind a slash or not: a slash behind a slash is dropped. -/
def kept (slash : Bool) (octet : UInt8) : List UInt8 := if octet = '/'.toUInt8 ∧ slash then [] else [octet]

/-- Runs of slashes as one. -/
def collapse : Bool → List UInt8 → List UInt8
  | _, [] => []
  | slash, octet :: rest => kept slash octet ++ collapse (octet = '/'.toUInt8) rest

/-- A target without a path is the default file, if the method has one. -/
def withDefault (default : Bool) (name : List UInt8) (query : Option (List UInt8)) : List UInt8 :=
  if query.isNone ∧ name.length = wwwPrefix.length ∧ default then name ++ defaultFile else name

/-- File name and query as they are in the buffers. -/
def text (bufs : PathBufs) (parsed : ParsedPath) : List UInt8 × Option (List UInt8) :=
  (slice bufs.filename 0 parsed.length,parsed.query.map (slice bufs.query 0))

/-- What each front end comes to; none is a rejection. -/
def resolvedH2 (r : PathBufs × Option ParsedPath) : Option (List UInt8 × Option (List UInt8)) := r.2.map (text r.1)

def resolved (r : PathBufs × PathReply) : Option (List UInt8 × Option (List UInt8)) :=
  match r.2 with
  | .path parsed => some (text r.1 parsed)
  | _ => none

/-! ### Octets written one by one -/

section Written
variable {m : Mem} {n : Nat} {w : List UInt8}

theorem slice_store_before {off k : Nat} (before : off + n ≤ k) (octet : UInt8) :
    slice (store m k octet) off n = slice m off n := by
  apply slice_congr
  intro i inside
  rw [store_other _ _ (by omega)]

theorem slice_store_end (here : slice m 0 n = w) (octet : UInt8) : slice (store m n octet) 0 (n + 1) = w ++ [octet] := by
  rw [slice_add,slice_store_before (by omega),here,Nat.zero_add,slice_succ,slice_zero,store_same]

end Written

/-- The next octet of those that are read. -/
theorem slice_next {m : Mem} {off : Nat} {octet : UInt8} {rest : List UInt8}
    (here : slice m off (rest.length + 1) = octet :: rest) :
    m off = octet ∧ slice m (off + 1) rest.length = rest := by
  rw [slice_succ,List.cons.injEq] at here
  exact here

/-- `filename_buf` with some octets behind what is written. -/
def append (bufs : PathBufs) (written : Nat) (octets : List UInt8) : PathBufs :=
  match octets with
  | [] => bufs
  | octet :: _ => { bufs with filename := store bufs.filename written octet }

theorem append_kept {bufs : PathBufs} {written : Nat} {w : List UInt8} (here : slice bufs.filename 0 written = w)
    (slash : Bool)
    (octet : UInt8) :
    slice (append bufs written (kept slash octet)).filename 0 (written + (kept slash octet).length) =
      w ++ kept slash octet := by
  rw [kept]
  split
  · rw [append,List.length_nil,Nat.add_zero,List.append_nil]
    exact here
  · exact slice_store_end here octet

/-! ### HTTP/2 -/

theorem queryLoop_text {path : Mem} : ∀ (l : List UInt8) (read written : Nat) (query : Mem) (w : List UInt8),
    slice path read l.length = l → slice query 0 written = w → written ≤ queryBufSize →
      (queryLoop path l.length read written query).2.map (slice (queryLoop path l.length read written query).1 0) =
        if written + l.length ≤ queryBufSize then some (w ++ l) else none := by
  intro l
  induction l with
  | nil =>
    intro read written query w _ here fits
    rw [List.length_nil,queryLoop,if_pos (by omega),List.append_nil,Option.map_some,slice_store_before (by omega),here]
  | cons octet l ih =>
    intro read written query w reads here fits
    obtain ⟨first,rest⟩ := slice_next reads
    rw [List.length_cons,queryLoop]
    by_cases full : queryBufSize ≤ written
    · rw [if_pos full,if_neg (by omega)]
      rfl
    · rw [if_neg full,first,ih _ _ _ (w ++ [octet]) rest (slice_store_end here octet) (by omega),List.append_assoc]
      simp only [Nat.add_right_comm,Nat.add_assoc,List.singleton_append]

/-- A target HTTP/2 has room for, from an octet of the file name on. -/
def FitsH2 (written : Nat) (slash : Bool) (l : List UInt8) : Prop :=
  match (splitQuery l).2 with
  | none => (splitQuery l).1 = [] ∨ written + (collapse slash (splitQuery l).1.dropLast).length < filenameBufSize
  | some query => written + (collapse slash (splitQuery l).1).length < filenameBufSize ∧ query.length ≤ queryBufSize

instance (written : Nat) (slash : Bool) (l : List UInt8) : Decidable (FitsH2 written slash l) :=
  match query : (splitQuery l).2 with
  | none => decidable_of_iff
      ((splitQuery l).1 = [] ∨ written + (collapse slash (splitQuery l).1.dropLast).length < filenameBufSize)
      (by rw [FitsH2,query])
  | some query' => decidable_of_iff
      (written + (collapse slash (splitQuery l).1).length < filenameBufSize ∧ query'.length ≤ queryBufSize)
      (by rw [FitsH2,query])

theorem fitsH2_step {written : Nat} {slash : Bool} {octet : UInt8} {rest : List UInt8} (plain : octet ≠ '?'.toUInt8) :
    FitsH2 written slash (octet :: rest) ↔
      written < filenameBufSize ∧ FitsH2 (written + (kept slash octet).length) (octet = '/'.toUInt8) rest := by
  rw [FitsH2,FitsH2,splitQuery,if_neg plain]
  dsimp only
  cases (splitQuery rest).2 with
  | none =>
    cases (splitQuery rest).1 with
    | nil => simp [collapse]
    | cons next path =>
      simp only [List.dropLast_cons_cons,collapse,List.length_append,reduceCtorEq,false_or]
      omega
  | some query =>
    simp only [collapse,List.length_append]
    omega

/-- An octet of the file name. -/
theorem fnameLoop_step {path : Mem} {default : Bool} {left read written : Nat} {slash : Bool} {bufs : PathBufs}
    (plain : path read ≠ '?'.toUInt8) (room : written < filenameBufSize) :
    fnameLoop path default (left + 1) read written slash bufs =
      fnameLoop path default left (read + 1) (written + (kept slash (path read)).length) (path read = '/'.toUInt8)
        (append bufs written (kept slash (path read))) := by
  rw [fnameLoop,if_neg (by omega),if_neg plain]
  by_cases here : path read = '/'.toUInt8
  · cases slash <;> simp [kept,here,append]
  · simp [kept,here,append]

theorem fnameDone_text {default : Bool} {written : Nat} {bufs : PathBufs} {w : List UInt8}
    (here : slice bufs.filename 0 written = w) :
    resolvedH2 (fnameDone default written bufs) = some (withDefault default w none,none) := by
  have length : w.length = written := by rw [← here,slice_length]
  have cut : slice (store bufs.filename written 0) 0 written = w := by rw [slice_store_before (by omega),here]
  rw [fnameDone,withDefault,length]
  dsimp only
  by_cases empty : written = wwwPrefix.length
  · cases default with
    | false => simp [resolvedH2,text,empty ▸ cut,empty]
    | true =>
      have whole : slice (blit (store bufs.filename written 0) written (ofBytes defaultFile) defaultFile.length) 0
          (written + defaultFile.length) = w ++ defaultFile := by
        rw [slice_add,slice_blit_before (by omega),cut,Nat.zero_add,slice_blit_same,slice_ofBytes]
      rw [if_pos empty,if_pos rfl,if_pos ⟨rfl,empty,rfl⟩]
      simp only [resolvedH2,Option.map_some,text,Option.map_none]
      rw [slice_store_before (by omega),whole]
  · simp [resolvedH2,text,cut,empty]

/-- The file name loop, from what is written on. -/
theorem fnameLoop_text {path : Mem} {default : Bool} : ∀ (l : List UInt8) (read written : Nat) (slash : Bool)
    (bufs : PathBufs) (w : List UInt8), slice path read l.length = l → slice bufs.filename 0 written = w →
      resolvedH2 (fnameLoop path default l.length read written slash bufs) =
        if FitsH2 written slash l then
          some (withDefault default (w ++ collapse slash (splitQuery l).1) (splitQuery l).2,(splitQuery l).2)
        else none := by
  intro l
  induction l with
  | nil =>
    intro read written slash bufs w _ here
    rw [if_pos (by simp [FitsH2,splitQuery]),List.length_nil,fnameLoop,fnameDone_text here]
    simp [splitQuery,collapse]
  | cons octet l ih =>
    intro read written slash bufs w reads here
    obtain ⟨first,rest⟩ := slice_next reads
    rw [List.length_cons]
    by_cases mark : octet = '?'.toUInt8
    · by_cases room : written < filenameBufSize
      · have copied := queryLoop_text l (read + 1) 0 bufs.query [] rest rfl (Nat.zero_le _)
        have cut : slice (store bufs.filename written 0) 0 written = w := by rw [slice_store_before (by omega),here]
        rw [fnameLoop,if_neg (by omega),first,if_pos mark]
        simp only [FitsH2,splitQuery,if_pos mark,collapse,List.length_nil,Nat.add_zero,room,true_and,withDefault,
          List.append_nil,Option.isNone_some,Bool.false_eq_true,false_and,if_false]
        rw [Nat.zero_add,List.nil_append] at copied
        split
        · next query full =>
          rw [full] at copied
          split at copied
          · cases copied
          · next long => rw [if_neg long]; rfl
        · next query length done =>
          rw [done] at copied
          split at copied
          · next fits =>
            rw [if_pos fits]
            simp only [Option.map_some,Option.some.injEq] at copied
            simp only [resolvedH2,Option.map_some,text,cut,copied]
          · cases copied
      · rw [fnameLoop,if_pos (by omega),if_neg]
        · rfl
        · simp only [FitsH2,splitQuery,if_pos mark,collapse,List.length_nil,Nat.add_zero]
          exact fun fits => room fits.1
    · by_cases room : written < filenameBufSize
      · rw [fnameLoop_step (by rw [first]; exact mark) room,first,ih _ _ _ _ _ rest (append_kept here slash octet)]
        simp only [fitsH2_step mark,room,true_and,splitQuery,if_neg mark,collapse,List.append_assoc]
      · rw [fnameLoop,if_pos (by omega),if_neg (by rw [fitsH2_step mark]; exact fun fits => room fits.1)]
        rfl

/-- A target that both front ends have a place for. -/
def asterisk : List UInt8 := ['*'.toUInt8]

/-- The docroot is in the buffer, and nothing else yet. -/
theorem docroot_written (filename : Mem) :
    slice (blit filename 0 (ofBytes wwwPrefix) wwwPrefix.length) 0 wwwPrefix.length = wwwPrefix := by
  rw [slice_blit_same,slice_ofBytes]

/-- What a target comes to where there is room for some. -/
def targetText (default : Bool) (Room : List UInt8 → Prop) [DecidablePred Room] :
    List UInt8 → Option (List UInt8 × Option (List UInt8))
  | [] => none
  | octet :: rest =>
    if octet = '/'.toUInt8 then
      if Room rest then
        some (withDefault default (wwwPrefix ++ collapse true (splitQuery rest).1) (splitQuery rest).2,
          (splitQuery rest).2)
      else none
    else if octet :: rest = asterisk then some (asterisk,none)
    else none

/-- What HTTP/2 makes of a target. -/
theorem parseH2Path_text {path : Mem} {p : List UInt8} (default : Bool) (bufs : PathBufs)
    (here : slice path 0 p.length = p) :
    resolvedH2 (parseH2Path path p.length default bufs) = targetText default (FitsH2 wwwPrefix.length true) p := by
  cases p with
  | nil => rfl
  | cons octet rest =>
    obtain ⟨first,behind⟩ := slice_next here
    rw [parseH2Path,first,List.length_cons,targetText]
    by_cases slash : octet = '/'.toUInt8
    · have other : ¬(rest.length + 1 = 1 ∧ octet = '*'.toUInt8) := by
        rw [slash]
        exact fun both => absurd both.2 (by decide)
      rw [if_neg other,if_neg (by omega),if_pos slash,if_pos slash,Nat.add_sub_cancel,
        fnameLoop_text rest 1 _ true _ wwwPrefix behind (docroot_written _)]
    · by_cases star : octet :: rest = asterisk
      · obtain ⟨rfl,rfl⟩ := List.cons.inj star
        rw [if_pos ⟨rfl,rfl⟩,if_neg slash,if_pos star]
        rfl
      · have other : ¬(rest.length + 1 = 1 ∧ octet = '*'.toUInt8) := by
          rintro ⟨alone,rfl⟩
          rw [List.length_eq_zero_iff.mp (Nat.succ.inj alone)] at star
          exact star rfl
        rw [if_neg other,if_neg (by omega),if_neg slash,if_neg slash,if_neg star]
        rfl

/-! ### HTTP/1 -/

/-- The query is moved out of the file name. -/
theorem cutQuery_text : ∀ (q : List UInt8) (i length : Nat) (bufs : PathBufs) (w : List UInt8),
    slice bufs.filename i q.length = q → slice bufs.query 0 length = w → length + q.length ≤ queryBufSize →
      ∃ bufs', cutQuery q.length i length bufs = (bufs',some (length + q.length)) ∧
        slice bufs'.query 0 (length + q.length) = w ++ q ∧
    ∀ n ≤ i, slice bufs'.filename 0 n = slice bufs.filename 0 n := by
  intro q
  induction q with
  | nil =>
    intro i length bufs w _ here _
    exact ⟨bufs,rfl,by rw [List.length_nil,Nat.add_zero,here,List.append_nil],fun _ _ => rfl⟩
  | cons octet q ih =>
    intro i length bufs w reads here fits
    obtain ⟨first,rest⟩ := slice_next reads
    rw [List.length_cons] at fits ⊢
    have behind : slice (store bufs.filename i 0) (i + 1) q.length = q := by
      rw [slice_congr (fun k _ => store_other bufs.filename (0 : UInt8) (show i + 1 + k ≠ i by omega))]
      exact rest
    obtain ⟨bufs',done,query,filename⟩ := ih (i + 1) (length + 1) ⟨store bufs.filename i 0,store bufs.query length octet⟩
      (w ++ [octet]) behind (slice_store_end here octet) (by omega)
    refine ⟨bufs',?_,?_,?_⟩
    · rw [cutQuery,if_neg (by omega),first,done,Nat.add_right_comm,Nat.add_assoc]
    · rw [← Nat.add_assoc,Nat.add_right_comm,query,List.append_assoc]
      rfl
    · intro n low
      rw [filename n (by omega),slice_store_before (by omega)]

/-- A file name with its query, which is moved out of it. -/
theorem filenameDone_query {default : Bool} {bufs : PathBufs} {name q : List UInt8}
    (docroot : wwwPrefix.length ≤ name.length)
    (fits : name.length + 1 + q.length < filenameBufSize)
    (here : slice bufs.filename 0 (name.length + 1 + q.length) = name ++ '?'.toUInt8 :: q) :
    resolved (filenameDone default (name.length + 1 + q.length) (some (name.length + 1)) bufs) = some (name,some q) := by
  have size : queryBufSize = filenameBufSize := rfl
  rw [slice_add,slice_add,Nat.zero_add,List.append_assoc] at here
  obtain ⟨front,back⟩ := List.append_inj here (slice_length _ _ _)
  rw [slice_succ,slice_zero,List.singleton_append,List.cons.injEq,Nat.zero_add] at back
  have after : slice (store bufs.filename (name.length + 1 + q.length) 0) (name.length + 1) q.length = q := by
    rw [slice_store_before (by omega)]
    exact back.2
  obtain ⟨bufs',cut,query,filename⟩ := cutQuery_text q (name.length + 1) 0
    { bufs with filename := store bufs.filename (name.length + 1 + q.length) 0 } [] after rfl (by omega)
  have same : slice bufs'.filename 0 name.length = name := by
    rw [filename name.length (by omega),slice_store_before (by omega),front]
  rw [Nat.zero_add,List.nil_append] at query
  rw [Nat.zero_add] at cut
  rw [filenameDone,if_neg (by omega),parseEnd,Nat.add_sub_cancel_left,cut]
  simp only [resolved,text,Nat.add_sub_cancel,slice_store_before (show 0 + name.length ≤ name.length by omega),same,
    Option.map_some,query]

theorem filenameDone_text {default : Bool} {written : Nat} {bufs : PathBufs} {w : List UInt8}
    (here : slice bufs.filename 0 written = w) :
    resolved (filenameDone default written none bufs) = some (withDefault default w none,none) := by
  have length : w.length = written := by rw [← here,slice_length]
  rw [filenameDone,withDefault,length]
  by_cases empty : written = wwwPrefix.length
  · rw [if_pos empty]
    cases default with
    | false => simp [parseEnd,resolved,text,empty ▸ here,empty]
    | true =>
      have whole : slice (blit bufs.filename wwwPrefix.length (ofBytes defaultFile) defaultFile.length) 0
          (wwwPrefix.length + defaultFile.length) = w ++ defaultFile := by
        rw [slice_add,slice_blit_before (by omega),← empty,here,Nat.zero_add,slice_blit_same,slice_ofBytes]
      rw [if_pos rfl,if_pos ⟨rfl,empty,rfl⟩]
      simp only [parseEnd,resolved,text,Option.map_none]
      rw [slice_store_before (by omega),whole]
  · rw [if_neg empty,if_neg (fun all => empty all.2.1)]
    simp only [parseEnd,resolved,text,Option.map_none]
    rw [slice_store_before (by omega),here]

/-- What stays in a request line. -/
def Clean (l : List UInt8) : Prop :=
  ∀ octet ∈ l, octet ≠ 0 ∧ octet ≠ ' '.toUInt8 ∧ octet ≠ '\r'.toUInt8 ∧ octet ≠ '\n'.toUInt8

instance (l : List UInt8) : Decidable (Clean l) := List.decidableBAll _ l

/-- The query is copied behind the file name, question mark and all. -/
theorem filenameLoop_query {hdr : Mem} {default : Bool} {name : List UInt8} (docroot : wwwPrefix.length ≤ name.length) :
    ∀ (q : List UInt8) (left read : Nat) (slash : Bool) (bufs : PathBufs) (w : List UInt8), Clean q →
      slice hdr read (q.length + 1) = q ++ [' '.toUInt8] → q.length < left →
      slice bufs.filename 0 (name.length + 1 + w.length) = name ++ '?'.toUInt8 :: w →
        resolved (filenameLoop hdr default left read (name.length + 1 + w.length) slash (some (name.length + 1)) bufs) =
          if name.length + 1 + w.length + q.length < filenameBufSize then some (name,some (w ++ q)) else none := by
  intro q
  induction q with
  | nil =>
    intro left read slash bufs w _ reads enough here
    obtain ⟨space,_⟩ := slice_next reads
    cases left with
    | zero => omega
    | succ left =>
      rw [filenameLoop]
      simp only [List.length_nil,Nat.add_zero,List.append_nil]
      by_cases room : name.length + 1 + w.length < filenameBufSize
      · rw [if_neg (by omega),if_pos room,space,if_neg (by decide),if_pos rfl,filenameDone_query docroot room here]
      · rw [if_pos (by omega),if_neg room]
        rfl
  | cons octet q ih =>
    intro left read slash bufs w clean reads enough here
    rw [Clean,List.forall_mem_cons] at clean
    obtain ⟨⟨nul,space,cr,lf⟩,rest⟩ := clean
    obtain ⟨first,behind⟩ : hdr read = octet ∧ slice hdr (read + 1) (q.length + 1) = q ++ [' '.toUInt8] := by
      rw [List.length_cons,slice_succ,List.cons_append,List.cons.injEq] at reads
      exact reads
    cases left with
    | zero => omega
    | succ left =>
      rw [List.length_cons] at enough ⊢
      have written := slice_store_end here octet
      have later :=
        ih left (read + 1) slash { bufs with filename := store bufs.filename (name.length + 1 + w.length) octet }
        (w ++ [octet]) rest behind (by omega)
        (by rw [List.length_append,List.length_singleton,← Nat.add_assoc,written,List.append_assoc,List.cons_append])
      rw [filenameLoop]
      by_cases room : name.length + 1 + w.length < filenameBufSize
      · rw [if_neg (by omega),first,if_neg nul,if_neg space,if_neg (not_or.mpr ⟨cr,lf⟩)]
        rw [List.length_append,List.length_singleton,← Nat.add_assoc] at later
        rw [later,List.append_assoc]
        simp only [Nat.add_assoc,Nat.add_comm 1,List.singleton_append]
      · rw [if_pos (by omega),if_neg (by omega)]
        rfl

/-- A target HTTP/1 has room for: path and query are in one buffer at first. -/
def FitsH1 (written : Nat) (slash : Bool) (l : List UInt8) : Prop :=
  written + (collapse slash (splitQuery l).1).length +
    ((splitQuery l).2.elim 0 fun query => 1 + query.length) < filenameBufSize

instance (written : Nat) (slash : Bool) (l : List UInt8) : Decidable (FitsH1 written slash l) :=
  inferInstanceAs (Decidable (_ < _))

theorem fitsH1_room {written : Nat} {slash : Bool} {l : List UInt8} (fits : FitsH1 written slash l) :
    written < filenameBufSize := by
  rw [FitsH1] at fits
  omega

theorem fitsH1_step {written : Nat} {slash : Bool} {octet : UInt8} {rest : List UInt8} (plain : octet ≠ '?'.toUInt8) :
    FitsH1 written slash (octet :: rest) ↔ FitsH1 (written + (kept slash octet).length) (octet = '/'.toUInt8) rest := by
  rw [FitsH1,FitsH1,splitQuery,if_neg plain]
  simp only [collapse,List.length_append]
  omega

/-- An octet of the file name. -/
theorem filenameLoop_step {hdr : Mem} {default : Bool} {left read written : Nat} {slash : Bool} {bufs : PathBufs}
    (room : written < filenameBufSize) (plain : hdr read ≠ '?'.toUInt8) (nul : hdr read ≠ 0)
    (space : hdr read ≠ ' '.toUInt8)
    (line : ¬(hdr read = '\r'.toUInt8 ∨ hdr read = '\n'.toUInt8)) :
    filenameLoop hdr default (left + 1) read written slash none bufs =
      filenameLoop hdr default left (read + 1) (written + (kept slash (hdr read)).length) (hdr read = '/'.toUInt8) none
        (append bufs written (kept slash (hdr read))) := by
  rw [filenameLoop,if_neg (by omega),if_neg nul,if_neg space,if_neg line]
  by_cases here : hdr read = '/'.toUInt8
  · cases slash <;> simp [kept,here,append]
  · simp [kept,here,plain,append]

/-- The file name loop, from what is written on. -/
theorem filenameLoop_text {hdr : Mem} {default : Bool} : ∀ (l : List UInt8) (left read written : Nat) (slash : Bool)
    (bufs : PathBufs) (w : List UInt8), Clean l → slice hdr read (l.length + 1) = l ++ [' '.toUInt8] → l.length < left →
      slice bufs.filename 0 written = w → wwwPrefix.length ≤ written →
        resolved (filenameLoop hdr default left read written slash none bufs) =
          if FitsH1 written slash l then
            some (withDefault default (w ++ collapse slash (splitQuery l).1) (splitQuery l).2,(splitQuery l).2)
          else none := by
  intro l
  induction l with
  | nil =>
    intro left read written slash bufs w _ reads enough here docroot
    obtain ⟨space,_⟩ := slice_next reads
    cases left with
    | zero => omega
    | succ left =>
      rw [filenameLoop]
      by_cases room : written < filenameBufSize
      · rw [if_neg (by omega),space,if_neg (by decide),if_pos rfl,filenameDone_text here,
          if_pos (by simpa [FitsH1,splitQuery,collapse])]
        simp [splitQuery,collapse]
      · rw [if_pos (by omega),if_neg (fun fits => room (fitsH1_room fits))]
        rfl
  | cons octet l ih =>
    intro left read written slash bufs w clean reads enough here docroot
    rw [Clean,List.forall_mem_cons] at clean
    obtain ⟨⟨nul,space,cr,lf⟩,rest⟩ := clean
    obtain ⟨rfl,behind⟩ : hdr read = octet ∧ slice hdr (read + 1) (l.length + 1) = l ++ [' '.toUInt8] := by
      rw [List.length_cons,slice_succ,List.cons_append,List.cons.injEq] at reads
      exact reads
    rw [List.length_cons] at enough
    cases left with
    | zero => omega
    | succ left =>
      by_cases room : written < filenameBufSize
      · by_cases mark : hdr read = '?'.toUInt8
        · have length : w.length = written := by rw [← here,slice_length]
          have copied := slice_store_end here (hdr read)
          have query := @filenameLoop_query hdr default w (by omega) l left (read + 1) false
            { bufs with filename := store bufs.filename written (hdr read) } [] rest behind (by omega)
            (by rw [List.length_nil,Nat.add_zero,length,copied,mark])
          rw [filenameLoop,if_neg (by omega),if_neg nul,if_neg space,if_neg (not_or.mpr ⟨cr,lf⟩)]
          simp only [List.length_nil,Nat.add_zero,length,List.nil_append] at query
          rw [if_neg (by rw [mark]; decide),if_pos mark,query]
          simp only [FitsH1,splitQuery,if_pos mark,collapse,List.length_nil,Nat.add_zero,Option.elim_some,List.append_nil,
            withDefault,Option.isNone_some,Bool.false_eq_true,false_and,if_false,Nat.add_assoc]
        · rw [filenameLoop_step room mark nul space (not_or.mpr ⟨cr,lf⟩),
            ih _ _ _ _ _ _ rest behind (by omega) (append_kept here slash _) (by omega)]
          simp only [fitsH1_step mark,splitQuery,if_neg mark,collapse,List.append_assoc]
      · rw [filenameLoop,if_pos (by omega),if_neg (fun fits => room (fitsH1_room fits))]
        rfl

/-! ### The request line -/

/-- The methods whose target is parsed. -/
def methodToken : Method → Option (List UInt8)
  | .get => some (ascii "GET")
  | .head => some (ascii "HEAD")
  | .options => some (ascii "OPTIONS")
  | .unknown => none

/-- The version of a request line, up to its number. -/
def httpName : List UInt8 := ascii "HTTP/"

/-- A header that begins with a request line. Behind the name of the version are its
    number and the end of the header. -/
structure RequestLine (hdr : Mem) (len : Nat) (token p : List UInt8) : Prop where
  octets : slice hdr 0 (token.length + (p.length + 7)) = token ++ ' '.toUInt8 :: (p ++ ' '.toUInt8 :: httpName)
  long : token.length + p.length + 14 ≤ len

/-- An octet that the search goes past. -/
def Passed (octet : UInt8) : Prop := octet ≠ '/'.toUInt8 ∧ octet ≠ '*'.toUInt8 ∧ octet ≠ 0

instance (octet : UInt8) : Decidable (Passed octet) := inferInstanceAs (Decidable (_ ∧ _))

/-- The last octet gone past, from `previous` on. -/
def lastOf (previous : UInt8) (m : List UInt8) : UInt8 := m.getLast?.getD previous

theorem findTarget_passed {hdr : Mem} :
    ∀ (m : List UInt8) (left i : Nat) (previous : UInt8), (∀ octet ∈ m, Passed octet) →
    slice hdr i m.length = m →
      findTarget hdr (m.length + left) i previous = findTarget hdr left (i + m.length) (lastOf previous m) := by
  intro m
  induction m with
  | nil => intro left i previous _ _; rw [List.length_nil,Nat.zero_add]; rfl
  | cons octet m ih =>
    intro left i previous passed here
    obtain ⟨first,rest⟩ := slice_next here
    obtain ⟨⟨slash,star,nul⟩,later⟩ := List.forall_mem_cons.mp passed
    have last : lastOf octet m = lastOf previous (octet :: m) := by
      rw [lastOf,lastOf,List.getLast?_cons]
      rfl
    rw [List.length_cons,Nat.add_right_comm,findTarget,first,if_neg (not_or.mpr ⟨slash,star⟩),if_neg nul,
      ih _ _ _ later rest,last,Nat.add_assoc,Nat.add_comm 1]

/-- A window too short for what is gone past. -/
theorem findTarget_short {hdr : Mem} : ∀ (m : List UInt8) (left i : Nat) (previous : UInt8), (∀ octet ∈ m, Passed octet) →
    slice hdr i m.length = m → left ≤ m.length → findTarget hdr left i previous = none := by
  intro m left i previous passed here short
  have length : (m.take left).length = left := by rw [List.length_take,Nat.min_eq_left short]
  have front : slice hdr i left = m.take left := by
    have part : ((slice hdr i m.length).drop 0).take left = slice hdr (i + 0) left := slice_drop_take (by omega)
    rw [here,List.drop_zero] at part
    exact part.symm
  have done :=
    findTarget_passed (m.take left) 0 i previous (fun octet member => passed octet (List.mem_of_mem_take member))
    (by rw [length,front])
  rw [length,Nat.add_zero] at done
  exact done

/-- The slash of the version is not a target. -/
theorem findTarget_version {hdr : Mem} {i : Nat} (here : slice hdr i 6 = ' '.toUInt8 :: httpName) (left : Nat) (previous : UInt8) :
    findTarget hdr left i previous = none := by
  have passed : ∀ octet ∈ ' '.toUInt8 :: ascii "HTTP", Passed octet := by decide +kernel
  have whole : ' '.toUInt8 :: httpName = (' '.toUInt8 :: ascii "HTTP") ++ ['/'.toUInt8] := by decide
  rw [whole,slice_add hdr i 5 1] at here
  obtain ⟨front,back⟩ := List.append_inj here (slice_length _ _ _)
  by_cases short : left ≤ 5
  · exact findTarget_short _ left i previous passed front short
  · obtain ⟨left,rfl⟩ := Nat.exists_eq_add_of_le (Nat.lt_of_not_le short)
    have step := findTarget_passed (' '.toUInt8 :: ascii "HTTP") (1 + left) i previous passed front
    have slash : hdr (i + 5) = '/'.toUInt8 := (List.cons.inj back).1
    rw [show Nat.succ 5 + left = (' '.toUInt8 :: ascii "HTTP").length + (1 + left) from Nat.add_assoc 5 1 left,step,
      Nat.add_comm 1,
      findTarget,show i + (' '.toUInt8 :: ascii "HTTP").length = i + 5 from rfl,slash,if_pos (Or.inl rfl)]
    exact if_neg (show ¬('P'.toUInt8 = ' '.toUInt8) by decide)

/-- Inside a target, and behind it, there is no other. -/
theorem findTarget_inside {hdr : Mem} : ∀ (l : List UInt8) (left i : Nat) (previous : UInt8), Clean l →
    slice hdr i (l.length + 6) = l ++ ' '.toUInt8 :: httpName → previous ≠ ' '.toUInt8 →
      findTarget hdr left i previous = none := by
  intro l
  induction l with
  | nil => intro left i previous _ here _; exact findTarget_version here left previous
  | cons octet l ih =>
    intro left i previous clean here before
    obtain ⟨⟨nul,space,_,_⟩,rest⟩ := List.forall_mem_cons.mp clean
    rw [List.length_cons,Nat.add_right_comm,slice_succ,List.cons_append,List.cons.injEq] at here
    cases left with
    | zero => rfl
    | succ left =>
      rw [findTarget,here.1]
      by_cases stop : octet = '/'.toUInt8 ∨ octet = '*'.toUInt8
      · rw [if_pos stop,if_neg before]
      · rw [if_neg stop,if_neg nul]
        exact ih left (i + 1) octet rest here.2 space

theorem token_passed {method : Method} {token : List UInt8} (known : methodToken method = some token) :
    (∀ octet ∈ token, Passed octet) ∧ 3 ≤ token.length ∧ token.length ≤ 7 := by
  cases method <;> cases known <;> decide +kernel

/-- Where a target of one of the two forms starts. -/
def targetAt (i : Nat) : List UInt8 → Option Nat
  | [] => none
  | octet :: _ => if octet = '/'.toUInt8 ∨ octet = '*'.toUInt8 then some i else none

/-- The target of a request line is the one that is found. -/
theorem findTarget_line {hdr : Mem} {len : Nat} {method : Method} {token p : List UInt8}
    (known : methodToken method = some token)
    (line : RequestLine hdr len token p) (clean : Clean p) :
    findTarget hdr searchWindow 0 1 = targetAt (token.length + 1) p := by
  obtain ⟨passed,_,short⟩ := token_passed known
  obtain ⟨octets,_⟩ := line
  rw [slice_add,Nat.zero_add] at octets
  obtain ⟨front,back⟩ := List.append_inj octets (slice_length _ _ _)
  rw [slice_succ,List.cons.injEq] at back
  obtain ⟨space,target⟩ := back
  have window : searchWindow = token.length + (searchWindow - token.length - 1 + 1) := by
    rw [searchWindow]
    omega
  have goes : findTarget hdr searchWindow 0 1 = findTarget hdr (searchWindow - token.length - 1)
      (token.length + 1) ' '.toUInt8 := by
    rw [window,findTarget_passed token _ 0 1 passed front,Nat.zero_add,findTarget,space,if_neg (by decide),
      if_neg (by decide)]
    congr 1
    omega
  rw [goes]
  cases p with
  | nil => exact findTarget_version target _ _
  | cons octet rest =>
    obtain ⟨⟨nul,behind,_,_⟩,later⟩ := List.forall_mem_cons.mp clean
    rw [List.length_cons,Nat.add_right_comm,slice_succ,List.cons_append,List.cons.injEq] at target
    have room : searchWindow - token.length - 1 = searchWindow - token.length - 2 + 1 := by
      rw [searchWindow]
      omega
    rw [room,findTarget,target.1,targetAt]
    by_cases form : octet = '/'.toUInt8 ∨ octet = '*'.toUInt8
    · simp only [form,if_true]
    · simp only [form,if_false,nul]
      exact findTarget_inside rest _ _ octet later target.2 behind

/-- What HTTP/1 makes of a target. -/
theorem parsePath_text {hdr : Mem} {len : Nat} {method : Method} {token p : List UInt8}
    (known : methodToken method = some token)
    (line : RequestLine hdr len token p) (clean : Clean p) (default : Bool) (bufs : PathBufs) :
    resolved (parsePath hdr len default bufs) = targetText default (FitsH1 wwwPrefix.length true) p := by
  have long := line.long
  have window : ¬len < searchWindow := by
    have least := (token_passed known).2.1
    rw [searchWindow]
    omega
  rw [parsePath,if_neg window,findTarget_line known line clean]
  cases p with
  | nil => rfl
  | cons octet rest =>
    obtain ⟨octets,_⟩ := line
    obtain ⟨_,later⟩ := List.forall_mem_cons.mp clean
    rw [slice_add,Nat.zero_add] at octets
    have back := (List.append_inj octets (slice_length _ _ _)).2
    rw [List.length_cons,show rest.length + 1 + 7 = rest.length + 1 + 5 + 1 + 1 by omega,slice_succ,slice_succ,
      List.cons_append,List.cons.injEq,List.cons.injEq] at back
    obtain ⟨_,first,behind⟩ := back
    rw [slice_add hdr _ (rest.length + 1) 5,← List.singleton_append,← List.append_assoc] at behind
    have target := (List.append_inj' behind rfl).1
    rw [List.length_cons] at long
    rw [targetAt,targetText]
    by_cases form : octet = '/'.toUInt8 ∨ octet = '*'.toUInt8
    · rw [if_pos form]
      dsimp only
      rw [if_neg (by omega),first]
      by_cases slash : octet = '/'.toUInt8
      · rw [if_pos slash,slash,if_neg (by decide),
          filenameLoop_text rest _ _ _ true _ wwwPrefix later target (by omega) (docroot_written _) (Nat.le_refl _)]
      · have star := form.resolve_left slash
        rw [if_neg slash,if_pos star,star]
        cases rest with
        | nil =>
          have space : hdr (token.length + 1 + 1) = ' '.toUInt8 := (slice_next target).1
          rw [if_neg (not_or.mpr ⟨by omega,by rw [space]; decide⟩),show ['*'.toUInt8] = asterisk from rfl,if_pos rfl]
          rfl
        | cons next rest =>
          have other : hdr (token.length + 1 + 1) ≠ ' '.toUInt8 := by
            rw [List.length_cons,slice_succ,List.cons_append,List.cons.injEq] at target
            rw [target.1]
            exact (later next List.mem_cons_self).2.1
          rw [if_pos (Or.inr other),if_neg (by simp [asterisk])]
          rfl
    · obtain ⟨slash,star⟩ := not_or.mp form
      rw [if_neg form,if_neg slash,if_neg (by simp [asterisk,star])]
      rfl

/-! ### Agreement -/

/-- A target that both have room for, or neither: where HTTP/2 has room for it, so has
    HTTP/1. -/
def Agreeing : List UInt8 → Prop
  | [] => True
  | octet :: rest => octet = '/'.toUInt8 → FitsH2 wwwPrefix.length true rest → FitsH1 wwwPrefix.length true rest

theorem collapse_dropLast (slash : Bool) (l : List UInt8) :
    (collapse slash l.dropLast).length ≤ (collapse slash l).length := by
  induction l generalizing slash with
  | nil => exact Nat.le_refl _
  | cons octet l ih =>
    cases l with
    | nil => exact Nat.zero_le _
    | cons next l =>
      rw [List.dropLast_cons_cons,collapse,collapse,List.length_append,List.length_append]
      exact Nat.add_le_add_left (ih _) _

instance : (p : List UInt8) → Decidable (Agreeing p)
  | [] => isTrue trivial
  | octet :: rest => inferInstanceAs (Decidable (octet = '/'.toUInt8 → FitsH2 wwwPrefix.length true rest →
      FitsH1 wwwPrefix.length true rest))

/-- HTTP/2 has room for more. -/
theorem fitsH1_H2 {written : Nat} {slash : Bool} {l : List UInt8} (fits : FitsH1 written slash l) :
    FitsH2 written slash l := by
  have size : queryBufSize = filenameBufSize := rfl
  have shorter := collapse_dropLast slash (splitQuery l).1
  rw [FitsH1] at fits
  rw [FitsH2]
  cases query : (splitQuery l).2 with
  | none =>
    right
    omega
  | some q =>
    rw [query,Option.elim_some] at fits
    constructor <;> omega

/-- The two front ends come to the same on a target if and only if HTTP/1 has room for
    it where HTTP/2 has. -/
theorem paths_agree {hdr path : Mem} {len : Nat} {method : Method} {token p : List UInt8}
    (known : methodToken method = some token)
    (line : RequestLine hdr len token p) (value : slice path 0 p.length = p) (clean : Clean p) (bufs bufs' : PathBufs) :
    resolved (parsePath hdr len (method ≠ .options) bufs) =
      resolvedH2 (parseH2Path path p.length (method ≠ .options) bufs') ↔
      Agreeing p := by
  rw [parsePath_text known line clean,parseH2Path_text _ _ value]
  cases p with
  | nil => simp [Agreeing,targetText]
  | cons octet rest =>
    rw [Agreeing,targetText,targetText]
    by_cases slash : octet = '/'.toUInt8
    · simp only [slash,if_true,forall_const]
      by_cases fits : FitsH2 wwwPrefix.length true rest
      · by_cases room : FitsH1 wwwPrefix.length true rest <;> simp [fits,room]
      · have room : ¬FitsH1 wwwPrefix.length true rest := fun room => fits (fitsH1_H2 room)
        simp [fits,room]
    · simp [slash]

/-! ### Examples -/

/-- A request for a target. -/
def getRequest (p : List UInt8) : List UInt8 := ascii "GET" ++ ' '.toUInt8 :: (p ++ ascii " HTTP/1.1\r\n\r\n")

theorem getRequest_line (p : List UInt8) :
    RequestLine (ofBytes (getRequest p)) (getRequest p).length (ascii "GET") p := by
  have whole : getRequest p = (ascii "GET" ++ ' '.toUInt8 :: (p ++ ' '.toUInt8 :: httpName)) ++ ascii "1.1\r\n\r\n" := by
    rw [getRequest,List.append_assoc,List.cons_append,List.append_assoc]
    rfl
  have length : (ascii "GET" ++ ' '.toUInt8 :: (p ++ ' '.toUInt8 :: httpName)).length = (ascii "GET").length + (p.length + 7) := by
    have name : httpName.length = 5 := by decide
    rw [List.length_append,List.length_cons,List.length_append,List.length_cons,name]
  refine ⟨?_,?_⟩
  · rw [whole,← length]
    exact slice_ofBytes_append _ _
  · rw [whole,List.length_append,length]
    have tail : (ascii "1.1\r\n\r\n").length = 7 := by decide
    omega

/-- A file name with a query. -/
def plainTarget : List UInt8 := ascii "//docs//?a=//b"

theorem paths_agree_plain :
    resolved (parsePath (ofBytes (getRequest plainTarget)) (getRequest plainTarget).length true ⟨fun _ => 0,fun _ => 0⟩) =
      resolvedH2 (parseH2Path (ofBytes plainTarget) plainTarget.length true ⟨fun _ => 0,fun _ => 0⟩) :=
  (paths_agree (show methodToken .get = _ from rfl) (getRequest_line _) (slice_ofBytes _) (by decide) _ _).mpr (by decide)

/-- No path, and a query that fills its buffer. -/
def longTarget : List UInt8 := ['/'.toUInt8,'?'.toUInt8] ++ List.replicate 4096 'a'.toUInt8

/-- HTTP/1 rejects what HTTP/2 finds. -/
theorem paths_disagree_long :
    resolved (parsePath (ofBytes (getRequest longTarget))
    (getRequest longTarget).length true ⟨fun _ => 0,fun _ => 0⟩) = none ∧
    resolvedH2 (parseH2Path (ofBytes longTarget) longTarget.length true ⟨fun _ => 0,fun _ => 0⟩) =
      some (wwwPrefix,some (List.replicate 4096 'a'.toUInt8)) := by
  have clean : Clean longTarget := by
    intro octet member
    simp only [longTarget,List.mem_append,List.mem_cons,List.not_mem_nil,or_false,List.mem_replicate] at member
    rcases member with (rfl | rfl) | ⟨_,rfl⟩ <;> decide
  have split : splitQuery ('?'.toUInt8 :: List.replicate 4096 'a'.toUInt8) =
      ([],some (List.replicate 4096 'a'.toUInt8)) := by
    rw [splitQuery,if_pos rfl]
  have rejects : ¬FitsH1 wwwPrefix.length true ('?'.toUInt8 :: List.replicate 4096 'a'.toUInt8) := by
    rw [FitsH1,split,Option.elim_some,List.length_replicate]
    decide
  have accepts : FitsH2 wwwPrefix.length true ('?'.toUInt8 :: List.replicate 4096 'a'.toUInt8) := by
    rw [FitsH2,split]
    exact ⟨by decide,by rw [List.length_replicate]; decide⟩
  have whole : longTarget = '/'.toUInt8 :: '?'.toUInt8 :: List.replicate 4096 'a'.toUInt8 := rfl
  constructor
  · rw [parsePath_text (show methodToken .get = _ from rfl) (getRequest_line _) clean,whole,targetText,if_pos rfl,
      if_neg rejects]
  · rw [parseH2Path_text _ _ (slice_ofBytes _),whole,targetText,if_pos rfl,if_pos accepts,split]
    rfl

end Sarm.Http1
