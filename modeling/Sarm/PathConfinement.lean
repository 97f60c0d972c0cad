import Sarm.Http1Request
import Sarm.PathAgreement
import Sarm.Record

/-!
Where the paths that are looked up come from. What parsing puts behind the docroot
is decoded and checked in place; a request record keeps the file name between the
HEADERS frame and the lookup.
-/
namespace Sarm.H2
open Sarm.Memory Sarm.Trace
open Sarm.Http1 (asterisk docroot_written slice_store_before slice_store_end)

/-- Two dots. -/
def dotDot : List UInt8 := ['.'.toUInt8,'.'.toUInt8]

/-- The asterisk form, or printable, inside the docroot and without a segment that
    leaves it. -/
def Confined (path : List UInt8) : Prop :=
  path = asterisk ∨
    (wwwPrefix <+: path ∧ (∀ octet ∈ path, 0x20 ≤ octet.toNat ∧ octet.toNat ≤ 0x7e) ∧ dotDot ∉ path.splitOn '/'.toUInt8)

instance (path : List UInt8) : Decidable (Confined path) := inferInstanceAs (Decidable (_ ∨ _))

/-! ### The checks -/

theorem checkPathSafety_iff {path : List UInt8} :
    checkPathSafety path = true ↔ ∀ octet ∈ path, 0x20 ≤ octet.toNat ∧ octet.toNat ≤ 0x7e := by
  rw [checkPathSafety,List.all_eq_true]
  constructor
  · intro safe octet member
    have range := safe octet member
    simp only [Bool.and_eq_true,decide_eq_true_eq] at range
    omega
  · intro range octet member
    obtain ⟨low,high⟩ := range octet member
    simp only [Bool.and_eq_true,decide_eq_true_eq]
    omega

theorem segmentSafe_iff (segment : List UInt8) :
    segmentSafe (segment.count '.'.toUInt8) segment.length = true ↔ segment ≠ dotDot := by
  simp only [segmentSafe,Bool.not_eq_true',Bool.and_eq_false_iff,decide_eq_false_iff_not]
  constructor
  · rintro safe rfl
    exact safe.elim (fun other => other (by decide)) fun other => other (by decide)
  · intro other
    by_contra both
    push Not at both
    obtain ⟨all,two⟩ := both
    have dots := List.count_eq_length.mp all
    rw [two] at all
    apply other
    match segment, all, dots with
    | [a,b], _, dots => rw [← dots a (by simp),← dots b (by simp)]; rfl

/-- The traversal check, inside a segment. -/
theorem traversalLoop_iff : ∀ (path segment : List UInt8), (∀ octet ∈ path, octet ≠ 0) →
    (traversalLoop path (segment.count '.'.toUInt8) segment.length = true ↔
      dotDot ∉ (path.splitOn '/'.toUInt8).modifyHead (segment ++ ·)) := by
  intro path
  induction path with
  | nil =>
    intro segment _
    rw [traversalLoop,segmentSafe_iff]
    simp [List.splitOn,eq_comm]
  | cons octet path ih =>
    intro segment proper
    rw [List.forall_mem_cons] at proper
    rw [traversalLoop,List.splitOn_eq_splitOnP,List.splitOnP_cons_eq_if_modifyHead]
    by_cases slash : octet = '/'.toUInt8
    · have rest := ih [] proper.2
      rw [List.count_nil,List.length_nil] at rest
      rw [if_pos (.inl slash),Bool.and_eq_true,segmentSafe_iff,rest]
      simp only [slash,beq_self_eq_true,if_true,List.modifyHead_cons,List.append_nil,List.mem_cons,not_or,
        List.splitOn_eq_splitOnP,List.nil_append]
      rw [show (fun x : List UInt8 => x) = id from rfl,List.modifyHead_id]
      exact and_congr_left fun _ => ne_comm
    · have rest := ih (segment ++ [octet]) proper.2
      have counted : (if octet = '.'.toUInt8 then segment.count '.'.toUInt8 + 1 else segment.count '.'.toUInt8) =
          (segment ++ [octet]).count '.'.toUInt8 := by
        rw [List.count_append,List.count_singleton]
        by_cases dot : octet = '.'.toUInt8 <;> simp [dot]
      rw [if_neg (not_or.mpr ⟨slash,proper.1⟩),counted,← List.length_singleton (a := octet),← List.length_append,rest]
      have pushed : (fun rest => segment ++ [octet] ++ rest) = (segment ++ ·) ∘ List.cons octet := by
        funext rest
        rw [List.append_assoc]
        rfl
      simp only [beq_iff_eq,slash,if_false,List.modifyHead_modifyHead,List.splitOn_eq_splitOnP,pushed]

theorem checkPathTraversal_iff {path : List UInt8} (proper : ∀ octet ∈ path, octet ≠ 0) :
    checkPathTraversal path = true ↔ dotDot ∉ path.splitOn '/'.toUInt8 := by
  have whole := traversalLoop_iff path [] proper
  rw [checkPathTraversal]
  rwa [List.count_nil,List.length_nil,show (fun x : List UInt8 => [] ++ x) = id from rfl,List.modifyHead_id] at whole

/-! ### Decoding -/

theorem store_self (m : Mem) (i : Nat) : store m i (m i) = m := by
  funext k
  by_cases here : k = i
  · rw [here,store_same]
  · rw [store_other _ _ here]

/-- What is written stays. -/
theorem decodeLoop_front (left read written : Nat) (buf : Mem) {buf' : Mem} {n : Nat}
    (done : decodeLoop left read written buf = (buf',some n)) :
    written ≤ n ∧ slice buf' 0 written = slice buf 0 written := by
  have one : ∀ {written : Nat} {buf : Mem} (octet : UInt8), written + 1 ≤ n ∧
      slice buf' 0 (written + 1) = slice (store buf written octet) 0 (written + 1) →
        written ≤ n ∧ slice buf' 0 written = slice buf 0 written := by
    rintro written buf octet ⟨grown,same⟩
    rw [slice_add,slice_add _ 0 written] at same
    have front := (List.append_inj' same rfl).1
    rw [slice_store_before (by omega)] at front
    exact ⟨by omega,front⟩
  fun_induction decodeLoop left read written buf with
  | case1 | case2 => cases done; exact ⟨Nat.le_refl _,slice_store_before (by omega) 0⟩
  | case3 | case4 | case6 => cases done
  | case5 read written buf left _ _ octet _ _ ih => exact one octet (ih done)
  | case7 read written buf left _ _ ih => exact one _ (ih done)

theorem decodeLoop_copy {buf : Mem} {left read written : Nat} (nul : buf read ≠ 0) (percent : buf read ≠ '%'.toUInt8) :
    decodeLoop (left + 1) read written buf = decodeLoop left (read + 1) (written + 1) (store buf written (buf read)) := by
  rw [decodeLoop.eq_def]
  simp only [if_neg nul,if_neg percent]

/-- Octets that stand for themselves. -/
theorem decodeLoop_plain {buf : Mem} : ∀ (w : List UInt8) (left i : Nat), (∀ octet ∈ w, octet ≠ 0 ∧ octet ≠ '%'.toUInt8) →
    slice buf i w.length = w →
    decodeLoop (w.length + left) i i buf = decodeLoop left (i + w.length) (i + w.length) buf := by
  intro w
  induction w with
  | nil => intro left i _ _; rw [List.length_nil,Nat.zero_add,Nat.add_zero]
  | cons octet w ih =>
    intro left i plain here
    rw [List.forall_mem_cons] at plain
    obtain ⟨⟨nul,percent⟩,rest⟩ := plain
    obtain ⟨rfl,behind⟩ := Http1.slice_next here
    rw [List.length_cons,Nat.add_right_comm,decodeLoop_copy nul percent,store_self,ih left (i + 1) rest behind,
      Nat.add_assoc,Nat.add_comm 1]

/-- The asterisk form, or octets behind the docroot. -/
def Assembled (filename : Mem) (length : Nat) : Prop :=
  slice filename 0 length = asterisk ∨
    (wwwPrefix.length ≤ length ∧ slice filename 0 wwwPrefix.length = wwwPrefix)

theorem decode_asterisk {filename filename' : Mem} {length length' : Nat} (star : slice filename 0 length = asterisk)
    (done : decodeUrl filename length = (filename',some length')) : slice filename' 0 length' = asterisk := by
  have one : length = 1 := by rw [← slice_length filename 0 length,star]; rfl
  subst one
  have copied := @decodeLoop_plain filename asterisk 0 0 (by decide +kernel) star
  rw [decodeUrl,show 1 = asterisk.length + 0 from rfl,copied,decodeLoop] at done
  cases done
  rw [slice_store_before (by decide)]
  exact star

theorem decode_docroot {filename filename' : Mem} {length length' : Nat} (long : wwwPrefix.length ≤ length)
    (docroot : slice filename 0 wwwPrefix.length = wwwPrefix)
    (done : decodeUrl filename length = (filename',some length')) :
    wwwPrefix <+: slice filename' 0 length' := by
  obtain ⟨left,rfl⟩ := Nat.exists_eq_add_of_le long
  rw [decodeUrl,decodeLoop_plain wwwPrefix left 0 (by decide +kernel) docroot,Nat.zero_add] at done
  obtain ⟨grown,same⟩ := decodeLoop_front _ _ _ _ done
  obtain ⟨more,rfl⟩ := Nat.exists_eq_add_of_le grown
  rw [slice_add,same,docroot]
  exact List.prefix_append _ _

/-- What passes the checks once decoded. -/
theorem checked_confined {filename filename' : Mem} {length length' : Nat} (assembled : Assembled filename length)
    (done : decodeUrl filename length = (filename',some length')) (allowed : ¬pathForbidden filename' length') :
    Confined (slice filename' 0 length') := by
  rcases assembled with star | ⟨long,docroot⟩
  · exact .inl (decode_asterisk star done)
  · rw [pathForbidden,Bool.not_eq_true,Bool.not_eq_false',Bool.and_eq_true] at allowed
    have printable := checkPathSafety_iff.mp allowed.1
    have proper : ∀ octet ∈ slice filename' 0 length', octet ≠ 0 := by
      rintro octet member rfl
      exact absurd (printable 0 member).1 (by decide)
    exact .inr ⟨decode_docroot long docroot done,printable,(checkPathTraversal_iff proper).mp allowed.2⟩

/-! ### Assembling -/

section Assembling
variable {default : Bool} {bufs bufs' : PathBufs} {parsed : ParsedPath}

/-- Only octets from `written` on change. -/
def FrontKept (written : Nat) (bufs bufs' : PathBufs) (length : Nat) : Prop :=
  written ≤ length ∧ slice bufs'.filename 0 written = slice bufs.filename 0 written

theorem FrontKept.stored {written length : Nat} {octet : UInt8}
    (kept : FrontKept (written + 1) { bufs with filename := store bufs.filename written octet } bufs' length) :
    FrontKept written bufs bufs' length := by
  obtain ⟨grown,same⟩ := kept
  rw [slice_add,slice_add _ 0 written] at same
  have front := (List.append_inj' same rfl).1
  rw [slice_store_before (by omega)] at front
  exact ⟨by omega,front⟩

theorem fnameDone_front {written : Nat} (done : fnameDone default written bufs = (bufs',some parsed)) :
    FrontKept written bufs bufs' parsed.length := by
  have cut : slice (store bufs.filename written 0) 0 written = slice bufs.filename 0 written :=
    slice_store_before (by omega) 0
  refine ⟨fnameDone_length done,?_⟩
  rw [fnameDone] at done
  split at done
  · split at done
    · cases done
      rw [slice_store_before (by omega),slice_blit_before (by omega),cut]
    · cases done; exact cut
  · cases done; exact cut

theorem fnameLoop_front {path : Mem} (left read written : Nat) (slash : Bool) (bufs : PathBufs)
    (done : fnameLoop path default left read written slash bufs = (bufs',some parsed)) :
    FrontKept written bufs bufs' parsed.length := by
  fun_induction fnameLoop path default left read written slash bufs with
  | case1 => exact fnameDone_front done
  | case2 | case3 => cases done
  | case4 => cases done; exact ⟨Nat.le_refl _,slice_store_before (by omega) 0⟩
  | case5 _ _ _ _ _ _ _ ih => exact ih done
  | case6 _ _ _ _ _ _ _ _ _ ih => exact (ih done).stored
  | case7 _ _ _ _ _ _ _ _ ih => exact (ih done).stored

theorem docroot_kept {filename : Mem} {length : Nat}
    (kept : FrontKept wwwPrefix.length { bufs with filename := blit filename 0 (ofBytes wwwPrefix) wwwPrefix.length } bufs' length) :
    Assembled bufs'.filename length :=
  .inr ⟨kept.1,by rw [kept.2]; exact docroot_written filename⟩

theorem parseH2Path_assembled {path : Mem} {len : Nat} (done : parseH2Path path len default bufs = (bufs',some parsed)) :
    Assembled bufs'.filename parsed.length := by
  rw [parseH2Path] at done
  split at done
  · cases done; exact .inl rfl
  split at done
  · cases done
  split at done
  · exact docroot_kept (fnameLoop_front _ _ _ _ _ done)
  · cases done

theorem cutQuery_front (left i length : Nat) (bufs : PathBufs) {moved : Option Nat} {n : Nat} (behind : n ≤ i)
    (done : Http1.cutQuery left i length bufs = (bufs',moved)) : slice bufs'.filename 0 n = slice bufs.filename 0 n := by
  fun_induction Http1.cutQuery left i length bufs with
  | case1 | case2 => cases done; rfl
  | case3 left i length bufs _ ih => rw [ih (by omega) done,slice_store_before (by omega)]

/-- The query, if there is one, starts behind what has to stay. -/
theorem parseEnd_front {query : Option Nat} {n length : Nat} (long : n ≤ length) (behind : ∀ start ∈ query, n < start)
    (done : Http1.parseEnd query length bufs = (bufs',.path parsed)) : FrontKept n bufs bufs' parsed.length := by
  cases query with
  | none => cases done; exact ⟨long,rfl⟩
  | some start =>
    have past := behind start rfl
    rw [Http1.parseEnd] at done
    split at done
    · cases done
    · next bufs2 queryLength moved =>
      cases done
      refine ⟨by dsimp only; omega,?_⟩
      rw [slice_store_before (by omega),cutQuery_front _ _ _ _ (by omega) moved]

theorem filenameDone_front {query : Option Nat} {written : Nat} (long : wwwPrefix.length ≤ written)
    (behind : ∀ start ∈ query, wwwPrefix.length < start)
    (done : Http1.filenameDone default written query bufs = (bufs',.path parsed)) :
    FrontKept wwwPrefix.length bufs bufs' parsed.length := by
  rw [Http1.filenameDone] at done
  split at done
  · split at done
    · obtain ⟨grown,same⟩ := parseEnd_front (Nat.le_add_right _ _) behind done
      exact ⟨grown,by rw [same,slice_store_before (by omega),slice_blit_before (by omega)]⟩
    · exact parseEnd_front (Nat.le_refl _) behind done
  · obtain ⟨grown,same⟩ := parseEnd_front long behind done
    exact ⟨grown,by rw [same,slice_store_before (by omega)]⟩

theorem filenameLoop_front {hdr : Mem} (left read written : Nat) (slash : Bool) (query : Option Nat) (bufs : PathBufs)
    (long : wwwPrefix.length ≤ written) (behind : ∀ start ∈ query, wwwPrefix.length < start)
    (done : Http1.filenameLoop hdr default left read written slash query bufs = (bufs',.path parsed)) :
    FrontKept wwwPrefix.length bufs bufs' parsed.length := by
  have stored : ∀ {written : Nat} {bufs : PathBufs} {octet : UInt8}, wwwPrefix.length ≤ written →
      FrontKept wwwPrefix.length { bufs with filename := store bufs.filename written octet } bufs' parsed.length →
        FrontKept wwwPrefix.length bufs bufs' parsed.length := by
    rintro written bufs octet long ⟨grown,same⟩
    exact ⟨grown,by rw [same,slice_store_before (by omega)]⟩
  fun_induction Http1.filenameLoop hdr default left read written slash query bufs with
  | case1 | case2 | case3 | case5 => cases done
  | case4 => exact filenameDone_front long behind done
  | case6 | case8 | case10 =>
    rename_i ih
    exact stored long (ih (by omega) behind done)
  | case7 =>
    rename_i ih
    exact ih long behind done
  | case9 =>
    rename_i ih
    refine stored long (ih (by omega) ?_ done)
    rintro start ⟨⟩
    omega

theorem parsePath_assembled {hdr : Mem} {len : Nat} (done : Http1.parsePath hdr len default bufs = (bufs',.path parsed)) :
    Assembled bufs'.filename parsed.length := by
  rw [Http1.parsePath] at done
  split at done
  · cases done
  split at done
  · cases done
  split at done
  · cases done
  split at done
  · split at done
    · cases done
    · cases done; exact .inl rfl
  · exact docroot_kept (filenameLoop_front _ _ _ _ _ _ (Nat.le_refl _) (by simp) done)

end Assembling

/-! ### Requests -/

/-- What is looked up, if anything, is confined. -/
def Request.Sound (r : Request) : Prop := r.LooksUp → Confined r.path

/-- The answer depends on the files only through the lookup of the path. -/
theorem answer_lookup {files files' : List EmbeddedFile} {r : Request}
    (same : r.LooksUp → lookupEmbedded files r.path = lookupEmbedded files' r.path) :
    answer files r = answer files' r := by
  rw [answer,answer]
  by_cases refused : r.forbidden = true
  · rw [if_pos refused,if_pos refused]
  · rw [if_neg refused,if_neg refused]
    have allowed : r.forbidden = false := by simpa using refused
    cases method : r.method with
    | unknown => rfl
    | get | head | options =>
      rw [Request.path] at same
      simp only [same ⟨allowed,by rw [method]; decide⟩]

theorem storeHost_path {hdr : Mem} {len : Nat} {r r' : Request} {reply : Http1.RequestReply}
    (stored : Http1.storeHost hdr len r = (r',reply)) : r'.path = r.path := by
  rw [Http1.storeHost] at stored
  split at stored <;> cases stored <;> rfl

/-- A request that HTTP/1 accepts, and looks up. -/
theorem parseRequest_confined {hdr : Mem} {len : Nat} {r r' : Request}
    (parsed : Http1.parseRequest hdr len r = (r',.parsed))
    (known : r'.method ≠ .unknown) : Confined r'.path := by
  rw [Http1.parseRequest] at parsed
  dsimp only at parsed
  split at parsed
  · next unknown => cases parsed; exact absurd unknown known
  rw [Http1.parseTarget] at parsed
  split at parsed
  · cases parsed
  · cases parsed
  next bufs target assembled =>
  dsimp only at parsed
  split at parsed
  · cases parsed
  next filename length decoded =>
  split at parsed
  · cases parsed
  next allowed =>
  rw [storeHost_path parsed]
  exact checked_confined (parsePath_assembled assembled) decoded allowed

/-- A request that HTTP/2 accepts. -/
theorem build_sound {read : Hpack.Ptr → Mem} {streamId : Nat} {fields : List Hpack.FieldRef} {r r' : Request}
    (built : h2BuildRequest read streamId fields r = (r',true)) : r'.Sound := by
  rw [h2BuildRequest] at built
  split at built
  · cases built
  dsimp only at built
  split at built
  · cases built
  · cases built
    rintro ⟨_,known⟩
    exact absurd rfl known
  rw [buildPath] at built
  split at built
  · cases built
  split at built
  · cases built
  split at built
  · cases built
  next bufs target assembled =>
  dsimp only at built
  split at built
  · cases built
  next filename length decoded =>
  split at built
  · cases built
    rintro ⟨allowed,_⟩
    cases allowed
  · next allowed =>
    cases built
    intro _
    exact checked_confined (parseH2Path_assembled assembled) decoded allowed

/-! ### Frames -/

/-- The path that is looked up. -/
def Event.lookedUp : Event → Option (List UInt8)
  | .serve before _ _ _ => if before.req.LooksUp then some before.req.path else none
  | _ => none

theorem servedFrom_confined {log : List Event} {e : Event} (served : ServedFrom (fun _ r => r.Sound) log e) :
    ∀ path ∈ e.lookedUp, Confined path := by
  cases e with
  | serve before serving streamId slot =>
    intro path looked
    rw [Event.lookedUp] at looked
    split at looked
    · next looks =>
      cases looked
      exact served looks
    · cases looked
  | frame | refused | waiting | waitFailed | sent | data => rintro path ⟨⟩

/-- A frame that is rejected inside a response leaves the path in the record as it
    was. -/
def Event.Unspoilt : Event → Prop
  | .frame before serving hdr payload =>
    serving = [] ∨ (h2DispatchFrame before hdr payload).error = none ∨
      (h2DispatchFrame before hdr payload).core.req.path = before.req.path
  | _ => True

instance : DecidablePred Event.Unspoilt
  | .frame .. => inferInstanceAs (Decidable (_ ∨ _))
  | .refused .. | .waiting _ | .waitFailed .. | .sent .. | .data .. | .serve .. => isTrue trivial

theorem sound_rule : RecordRule Event.Unspoilt fun _ r => r.Sound where
  filled := by
    rintro log c serving hdr payload req ⟨read,fields,_,built⟩
    exact build_sound built
  rejected := by
    rintro log c serving hdr payload unspoilt busy error ⟨read,fields,_,built⟩ sound looks
    obtain ⟨filename,query,range,record⟩ := build_buffers built
    rcases unspoilt with idle | none | same
    · exact absurd idle busy
    · rw [error] at none
      cases none
    · rw [record] at looks
      rw [same]
      exact sound looks
  later := fun sound => sound

/-- The requests that are looked up are confined: every one HTTP/1 accepts, and, in a
    run in which no frame rejected inside a response has changed the path in the
    record, every one HTTP/2 serves. -/
theorem paths_confined (files : List EmbeddedFile) (e : Entry) (n : Nat)
    (unspoilt : Meets Event.Unspoilt (run files (h2ConnectionLoop e) n).log) :
    (∀ event ∈ (run files (h2ConnectionLoop e) n).log, ∀ path ∈ event.lookedUp, Confined path) ∧
      ∀ (hdr : Mem) (len : Nat) (r r' : Request), Http1.parseRequest hdr len r = (r',.parsed) → r'.method ≠ .unknown →
        Confined r'.path := by
  refine ⟨?_,fun _ _ _ _ => parseRequest_confined⟩
  intro event member
  obtain ⟨before,after,split⟩ := List.append_of_mem member
  exact servedFrom_confined (record_served sound_rule files e n unspoilt before event after split)

/-- A request on a connection that goes well. -/
theorem paths_confined_get : ∃ event ∈ (run welcomeSite (h2ConnectionLoop (.client (getIndex 1).encode)) 3).log,
    ∃ path ∈ event.lookedUp, Confined path := by
  have served : ∃ event ∈
      (run welcomeSite (h2ConnectionLoop (.client (getIndex 1).encode)) 3).log, event.lookedUp.isSome := by
    decide +kernel
  obtain ⟨event,member,some⟩ := served
  obtain ⟨path,looked⟩ := Option.isSome_iff_exists.mp some
  exact ⟨event,member,path,looked,
    (paths_confined welcomeSite (.client (getIndex 1).encode) 3 (by decide +kernel)).1 event member path looked⟩

/-- A request that waits for its end, one that waits for credit, and inside it one whose
    path is not decoded; then the end of the first. -/
def spoilt : List UInt8 :=
  noCredit.encode ++ (OutFrame.mk frameHeaders flagEndHeaders 1 [0x82,0x84]).encode ++ (getIndex 3).encode ++
    (OutFrame.mk frameHeaders flagEndHeaders 5 ([0x82,0x04,0x0c] ++ Hpack.ascii "/../../etc/%")).encode ++
    (OutFrame.mk frameData flagEndStream 1 []).encode

/-- The path that was not checked is looked up. -/
theorem spoilt_served : (∃ event ∈ (run welcomeSite (h2ConnectionLoop (.client spoilt)) 5).log,
    event.lookedUp = some (Hpack.ascii "www/../../etc/")) ∧ ¬ Confined (Hpack.ascii "www/../../etc/") := by
  decide +kernel

end Sarm.H2
