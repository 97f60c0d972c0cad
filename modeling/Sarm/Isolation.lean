import Sarm.PathAgreement
import Sarm.Record

/-!
Whose request is served. What an accepted header list makes of the record does not
depend on what was there, as far as the answer goes; but the record is only the
stream's as long as no other HEADERS frame has come since.
-/
namespace Sarm.H2
open Sarm.Memory Sarm.Trace
open Sarm.Hpack (FieldRef Ptr)
open Sarm.Http1 (resolvedH2 parseH2Path_text slice_store_before)

/-! ### The record of a header list -/

/-- The answer depends on what the record says, of the buffers on no more than their
    contents. -/
theorem answer_congr {r r' : Request} (forbidden : r'.forbidden = r.forbidden) (method : r'.method = r.method)
    (path : r.LooksUp → r'.path = r.path) (range : r'.range = r.range)
    (wanted : slice r'.rangeBuf 0 r'.rangeLength = slice r.rangeBuf 0 r.rangeLength) (files : List EmbeddedFile) :
    answer files r' = answer files r := by
  have file : ∀ file, answerFile r' file = answerFile r file := by
    intro file
    rw [answerFile,answerFile,method,range,wanted]
  rw [answer,answer,forbidden,method]
  by_cases refused : r.forbidden = true
  · rw [if_pos refused,if_pos refused]
  · rw [if_neg refused,if_neg refused]
    have allowed : r.forbidden = false := by simpa using refused
    cases known : r.method with
    | unknown => rfl
    | get | head | options =>
      have same := path ⟨allowed,by rw [known]; decide⟩
      rw [Request.path,Request.path] at same
      simp only [same,file]

/-- The octet of two digits. -/
def hexText (high low : UInt8) : Option UInt8 :=
  match hexToVal high, hexToVal low with
  | some high, some low => some (UInt8.ofNat (16 * high + low))
  | _, _ => none

/-- The octets that percent-encoded ones stand for, up to a NUL. -/
def decodeText : List UInt8 → Option (List UInt8)
  | [] => some []
  | octet :: rest =>
    if octet = 0 then some []
    else if octet = '%'.toUInt8 then
      match rest with
      | high :: low :: rest => match hexText high low with
        | none => none
        | some octet => if octet = 0 then none else (decodeText rest).map (octet :: ·)
      | _ => none
    else (decodeText rest).map (octet :: ·)

/-- Decoding in place, from `read` on, behind what is written. -/
theorem decodeLoop_text : ∀ (l : List UInt8) (read written : Nat) (buf : Mem) (w : List UInt8), written ≤ read →
    slice buf read l.length = l → slice buf 0 written = w →
      (decodeLoop l.length read written buf).2.map (slice (decodeLoop l.length read written buf).1 0) =
        (decodeText l).map (w ++ ·) := by
  have pair : ∀ {buf : Mem} {read : Nat} {high low : UInt8}, buf (read + 1) = high → buf (read + 2) = low →
      hexPair buf (read + 1) = hexText high low := by
    rintro buf read high low rfl rfl
    rfl
  have kept : ∀ {buf : Mem} {read written : Nat} {l : List UInt8} (octet : UInt8), written ≤ read →
      slice buf (read + 1) l.length = l → slice (store buf written octet) (read + 1) l.length = l := by
    intro buf read written l octet behind reads
    rw [slice_congr fun i _ => store_other buf octet (show read + 1 + i ≠ written by omega)]
    exact reads
  intro l
  induction l using decodeText.induct with
  | case1 =>
    intro read written buf w _ _ here
    rw [List.length_nil,decodeLoop,Option.map_some,slice_store_before (by omega),here,decodeText,Option.map_some,
      List.append_nil]
  | case2 rest =>
    intro read written buf w _ reads here
    obtain ⟨first,_⟩ := Http1.slice_next reads
    rw [List.length_cons,decodeLoop.eq_def,decodeText.eq_def]
    simp [first,slice_store_before (show 0 + written ≤ written by omega),here]
  | case3 high low rest bad mark =>
    intro read written buf w _ reads _
    obtain ⟨first,behind⟩ := Http1.slice_next reads
    obtain ⟨second,behind⟩ := Http1.slice_next behind
    obtain ⟨third,_⟩ := Http1.slice_next behind
    rw [List.length_cons,List.length_cons,List.length_cons,decodeLoop.eq_def,decodeText.eq_def]
    simp [first,pair second third,bad,mark]
  | case4 high low rest mark bad =>
    intro read written buf w _ reads _
    obtain ⟨first,behind⟩ := Http1.slice_next reads
    obtain ⟨second,behind⟩ := Http1.slice_next behind
    obtain ⟨third,_⟩ := Http1.slice_next behind
    rw [List.length_cons,List.length_cons,List.length_cons,decodeLoop.eq_def,decodeText.eq_def]
    simp [first,pair second third,bad,mark]
  | case5 high low rest octet value proper mark ih =>
    intro read written buf w fits reads here
    obtain ⟨first,behind⟩ := Http1.slice_next reads
    obtain ⟨second,behind⟩ := Http1.slice_next behind
    obtain ⟨third,behind⟩ := Http1.slice_next behind
    have later :=
      ih (read + 3) (written + 1) (store buf written octet) (w ++ [octet]) (by omega) (kept octet (by omega) behind)
      (Http1.slice_store_end here octet)
    rw [List.length_cons,List.length_cons,List.length_cons,decodeLoop.eq_def,decodeText.eq_def]
    simp [first,pair second third,value,proper,mark,later,Option.map_map,Function.comp_def]
  | case6 rest short mark =>
    intro read written buf w _ reads _
    obtain ⟨first,_⟩ := Http1.slice_next reads
    match rest, short with
    | [], _ | [_], _ =>
      rw [List.length_cons,decodeLoop.eq_def,decodeText.eq_def]
      simp [first,mark]
    | high :: low :: rest, short => exact absurd rfl (short high low rest)
  | case7 octet rest nul percent ih =>
    intro read written buf w fits reads here
    obtain ⟨first,behind⟩ := Http1.slice_next reads
    have later := ih (read + 1) (written + 1) (store buf written octet) (w ++ [octet]) (by omega) (kept octet fits behind)
      (Http1.slice_store_end here octet)
    rw [List.length_cons,decodeLoop.eq_def,decodeText.eq_def]
    simp [first,nul,percent,later,Option.map_map,Function.comp_def]

/-- Scans that differ in nothing but the range buffer behind the range. -/
def SameScan (scan scan' : Scan) : Prop :=
  ∃ buf, scan' = { scan with rangeBuf := buf } ∧ ∀ n, scan.range = some n → slice buf 0 n = slice scan.rangeBuf 0 n

section Scanning
variable (read : Ptr → Mem)

/-- A pseudo-header has nothing to do with the range. -/
theorem pseudo_range (scan : Scan) (f : FieldRef) :
    scan.pseudo read f = none ∧ (∀ buf, Scan.pseudo read { scan with rangeBuf := buf } f = none) ∨
    ∃ next, scan.pseudo read f = some next ∧ next.range = scan.range ∧ next.rangeBuf = scan.rangeBuf ∧
      ∀ buf, Scan.pseudo read { scan with rangeBuf := buf } f = some { next with rangeBuf := buf } := by
  have slot : ∀ (c : Prop) [Decidable c] (next : Scan), next.range = scan.range → next.rangeBuf = scan.rangeBuf →
      (if c then none else some next) = none ∧ (∀ buf, (if c then none else some { next with rangeBuf := buf }) = none) ∨
        ∃ next', (if c then none else some next) = some next' ∧ next'.range = scan.range ∧
          next'.rangeBuf = scan.rangeBuf ∧
          ∀ buf, (if c then none else some { next with rangeBuf := buf }) = some { next' with rangeBuf := buf } := by
    intro c _ next range rangeBuf
    by_cases twice : c
    · simp only [if_pos twice]
      exact .inl ⟨trivial,fun _ => trivial⟩
    · simp only [if_neg twice]
      exact .inr ⟨next,rfl,range,rangeBuf,fun _ => rfl⟩
  simp only [Scan.pseudo]
  by_cases regular : scan.regular = true
  · simp only [if_pos regular]
    exact .inl ⟨trivial,fun _ => trivial⟩
  simp only [if_neg regular]
  by_cases method : h2NameEq (read f.name) f.nameLen ":method" = true
  · simp only [if_pos method]
    exact slot _ _ rfl rfl
  simp only [if_neg method]
  by_cases path : h2NameEq (read f.name) f.nameLen ":path" = true
  · simp only [if_pos path]
    exact slot _ _ rfl rfl
  simp only [if_neg path]
  by_cases scheme : h2NameEq (read f.name) f.nameLen ":scheme" = true
  · simp only [if_pos scheme]
    exact slot _ _ rfl rfl
  simp only [if_neg scheme]
  by_cases authority : h2NameEq (read f.name) f.nameLen ":authority" = true
  · simp only [if_pos authority]
    exact slot _ _ rfl rfl
  · simp only [if_neg authority]
    exact .inl ⟨trivial,fun _ => trivial⟩

theorem field_same {scan scan' : Scan} (same : SameScan scan scan') (f : FieldRef) :
    SameScan (scan.field read f) (scan'.field read f) := by
  obtain ⟨buf,rfl,range⟩ := same
  simp only [Scan.field]
  split
  · refine ⟨_,rfl,?_⟩
    rintro n ⟨⟩
    rw [slice_blit_same,slice_blit_same]
  · exact ⟨buf,rfl,range⟩

theorem scanFields_same : ∀ (fields : List FieldRef) (scan scan' : Scan), SameScan scan scan' →
    (scanFields read fields scan').2 = (scanFields read fields scan).2 ∧
      SameScan (scanFields read fields scan).1 (scanFields read fields scan').1 := by
  intro fields
  induction fields with
  | nil => intro scan scan' same; exact ⟨rfl,same⟩
  | cons f fields ih =>
    intro scan scan' same
    rw [scanFields,scanFields]
    by_cases pseudo : read f.name 0 = ':'.toUInt8
    · rw [if_pos pseudo,if_pos pseudo]
      obtain ⟨buf,rfl,range⟩ := same
      rcases pseudo_range read scan f with ⟨none,none'⟩ | ⟨next,some,nextRange,nextBuf,some'⟩
      · rw [none,none' buf]
        exact ⟨rfl,buf,rfl,range⟩
      · rw [some,some' buf]
        refine ih next _ ⟨buf,rfl,?_⟩
        rw [nextRange,nextBuf]
        exact range
    · rw [if_neg pseudo,if_neg pseudo]
      exact ih _ _ (field_same read same f)

end Scanning

/-- The path is parsed the same into whatever buffers. -/
theorem parse_same {path : Mem} {len : Nat} (default : Bool) (bufs bufs' : PathBufs) :
    resolvedH2 (parseH2Path path len default bufs') = resolvedH2 (parseH2Path path len default bufs) := by
  have whole : slice path 0 (slice path 0 len).length = slice path 0 len := by rw [slice_length]
  have parsed := parseH2Path_text default bufs whole
  have parsed' := parseH2Path_text default bufs' whole
  rw [slice_length] at parsed parsed'
  rw [parsed,parsed']

theorem decodeUrl_text (buf : Mem) (len : Nat) :
    (decodeUrl buf len).2.map (slice (decodeUrl buf len).1 0) = decodeText (slice buf 0 len) := by
  have whole := decodeLoop_text (slice buf 0 len) 0 0 buf [] (Nat.le_refl _) (by rw [slice_length]) rfl
  rw [slice_length,show (fun l : List UInt8 => [] ++ l) = id from rfl,Option.map_id_fun,id] at whole
  exact whole

/-- Results of a pass over a buffer that come to the same text. -/
theorem text_cases {r r' : Mem × Option Nat} (same : r'.2.map (slice r'.1 0) = r.2.map (slice r.1 0)) :
    (r.2 = none ∧ r'.2 = none) ∨ ∃ n, r.2 = some n ∧ r'.2 = some n ∧ slice r'.1 0 n = slice r.1 0 n := by
  obtain ⟨m,o⟩ := r
  obtain ⟨m',o'⟩ := r'
  cases o with
  | none =>
    cases o' with
    | none => exact .inl ⟨rfl,rfl⟩
    | some n' => cases same
  | some n =>
    cases o' with
    | none => cases same
    | some n' =>
      simp only [Option.map_some,Option.some.injEq] at same
      have length : n' = n := by rw [← slice_length m' 0 n',same,slice_length]
      subst length
      exact .inr ⟨n',rfl,rfl,same⟩

/-- The part behind the method makes the same of any record. -/
theorem buildPath_same {read : Ptr → Mem} {method : Method} {streamId : Nat} {scan scan' : Scan}
    (same : SameScan scan scan')
    {r r' : Request} (ranged : r.rangeBuf = scan.rangeBuf) (ranged' : r'.rangeBuf = scan'.rangeBuf) :
    (buildPath read method streamId scan' r').2 = (buildPath read method streamId scan r).2 ∧
      ((buildPath read method streamId scan r).2 = true → ∀ files,
        answer files (buildPath read method streamId scan' r').1 =
      answer files (buildPath read method streamId scan r).1) := by
  obtain ⟨buf,rfl,range⟩ := same
  rw [buildPath,buildPath]
  dsimp only
  rcases target : scan.path with _ | ⟨value,len⟩
  · exact ⟨rfl,fun built => absurd built (by simp)⟩
  dsimp only
  by_cases empty : len = 0
  · rw [if_pos empty,if_pos empty]
    exact ⟨rfl,fun built => absurd built (by simp)⟩
  rw [if_neg empty,if_neg empty]
  have parsed := @parse_same (read value) len (method ≠ .options) ⟨r.filenameBuf,r.queryBuf⟩
    ⟨r'.filenameBuf,r'.queryBuf⟩
  rw [resolvedH2,resolvedH2] at parsed
  revert parsed
  generalize parseH2Path (read value) len (method ≠ .options) ⟨r.filenameBuf,r.queryBuf⟩ = first
  generalize parseH2Path (read value) len (method ≠ .options) ⟨r'.filenameBuf,r'.queryBuf⟩ = second
  obtain ⟨bufs,_ | target⟩ := first
  · obtain ⟨bufs',_ | target'⟩ := second
    · intro _
      exact ⟨rfl,fun built => absurd built (by simp)⟩
    · rintro ⟨⟩
  obtain ⟨bufs',_ | target'⟩ := second
  · rintro ⟨⟩
  intro parsed
  simp only [Option.map_some,Option.some.injEq,Http1.text,Prod.mk.injEq] at parsed
  have length : target'.length = target.length := by
    rw [← slice_length bufs'.filename 0 target'.length,parsed.1,slice_length]
  have decoded : (decodeUrl bufs'.filename target'.length).2.map (slice (decodeUrl bufs'.filename target'.length).1 0) =
      (decodeUrl bufs.filename target.length).2.map (slice (decodeUrl bufs.filename target.length).1 0) := by
    rw [decodeUrl_text,decodeUrl_text,parsed.1]
  dsimp only
  revert decoded
  generalize decodeUrl bufs.filename target.length = first
  generalize decodeUrl bufs'.filename target'.length = second
  intro decoded
  obtain ⟨filename,n⟩ := first
  obtain ⟨filename',n'⟩ := second
  rcases text_cases decoded with ⟨none,none'⟩ | ⟨n,some,some',same⟩
  · dsimp only at none none'
    subst none none'
    exact ⟨rfl,fun built => absurd built (by simp)⟩
  dsimp only at some some' same
  subst some some'
  dsimp only
  have wanted : slice r'.rangeBuf 0 (scan.range.getD 0) = slice r.rangeBuf 0 (scan.range.getD 0) := by
    rw [ranged,ranged']
    cases asked : scan.range with
    | none => rfl
    | some k => exact range k asked
  have verdict : pathForbidden filename' n = pathForbidden filename n := by rw [pathForbidden,pathForbidden,same]
  rw [verdict]
  by_cases refused : pathForbidden filename n = true
  · rw [if_pos refused,if_pos refused]
    exact ⟨rfl,fun _ => answer_congr rfl rfl (fun _ => same) rfl wanted⟩
  · rw [if_neg refused,if_neg refused]
    exact ⟨rfl,fun _ => answer_congr rfl rfl (fun _ => same) rfl wanted⟩

/-- The answer to an accepted header list does not depend on the record there was. -/
theorem build_same (read : Ptr → Mem) (streamId : Nat) (fields : List FieldRef) (r r' : Request) :
    (h2BuildRequest read streamId fields r').2 = (h2BuildRequest read streamId fields r).2 ∧
      ((h2BuildRequest read streamId fields r).2 = true → ∀ files,
        answer files (h2BuildRequest read streamId fields r').1 =
      answer files (h2BuildRequest read streamId fields r).1) := by
  have start : SameScan (Scan.start r.rangeBuf) (Scan.start r'.rangeBuf) := ⟨r'.rangeBuf,rfl,by rintro n ⟨⟩⟩
  obtain ⟨verdict,scanned⟩ := scanFields_same read fields _ _ start
  rw [h2BuildRequest,h2BuildRequest]
  revert verdict scanned
  generalize scanFields read fields (Scan.start r.rangeBuf) = first
  generalize scanFields read fields (Scan.start r'.rangeBuf) = second
  intro verdict scanned
  obtain ⟨scan,done⟩ := first
  obtain ⟨scan',done'⟩ := second
  dsimp only at verdict scanned
  subst verdict
  cases done' with
  | false => exact ⟨rfl,fun built => absurd built (by simp)⟩
  | true =>
    obtain ⟨buf,rfl,range⟩ := scanned
    dsimp only
    cases known : methodId read scan.method with
    | none => exact ⟨rfl,fun built => absurd built (by simp)⟩
    | some method =>
      cases method with
      | unknown => exact ⟨rfl,fun _ _ => rfl⟩
      | get | head | options => exact buildPath_same ⟨buf,rfl,range⟩ rfl rfl

/-! ### Runs -/

/-- A HEADERS frame of the stream, whose header list any record answers like this one. -/
def AskedBy (log : List Event) (streamId : Nat) (r : Request) : Prop :=
  ∃ c serving hdr payload read fields, .frame c serving hdr payload ∈ log ∧ Asks c hdr payload read fields ∧
    hdr.streamId = streamId ∧ ∀ prior, (h2BuildRequest read streamId fields prior).2 = true ∧
      ∀ files, answer files r = answer files (h2BuildRequest read streamId fields prior).1

/-- The record answers the header list of the stream it is of. -/
def OfStream (log : List Event) (r : Request) : Prop := AskedBy log r.streamId r

/-- A request is answered by the header list of its own stream. -/
def ServedOwn (log : List Event) : Event → Prop
  | .serve before _ streamId _ => AskedBy log streamId before.req
  | _ => True

/-- A request is served from its own record, and a frame that is rejected inside a
    response leaves path and range in the record as they were. -/
def Event.Own : Event → Prop
  | .serve before _ streamId _ => before.req.streamId = streamId
  | .frame before serving hdr payload =>
    serving = [] ∨ (h2DispatchFrame before hdr payload).error = none ∨
      ((h2DispatchFrame before hdr payload).core.req.path = before.req.path ∧
        slice (h2DispatchFrame before hdr payload).core.req.rangeBuf 0 before.req.rangeLength =
          slice before.req.rangeBuf 0 before.req.rangeLength)
  | _ => True

instance : DecidablePred Event.Own := fun e => by
  cases e <;> first | exact inferInstanceAs (Decidable (_ ∨ _)) | exact inferInstanceAs
    (Decidable (_ = _)) | exact isTrue trivial

theorem AskedBy.later {log : List Event} {streamId : Nat} {r : Request} (asked : AskedBy log streamId r) (e : Event) :
    AskedBy (log ++ [e]) streamId r := by
  obtain ⟨c,serving,hdr,payload,read,fields,member,rest⟩ := asked
  exact ⟨c,serving,hdr,payload,read,fields,List.mem_append_left _ member,rest⟩

theorem own_rule : RecordRule Event.Own OfStream where
  filled := by
    rintro log c serving hdr payload req ⟨read,fields,asks,built⟩
    have stream := build_streamId built
    refine ⟨c,serving,hdr,payload,read,fields,by simp,asks,stream.symm,?_⟩
    intro prior
    obtain ⟨verdict,same⟩ := build_same read req.streamId fields c.req prior
    rw [← stream] at built
    rw [built] at verdict same
    exact ⟨verdict,fun files => (same rfl files).symm⟩
  rejected := by
    rintro log c serving hdr payload own busy error ⟨read,fields,_,built⟩ asked
    obtain ⟨filename,query,range,record⟩ := build_buffers built
    rcases own with idle | none | ⟨path,wanted⟩
    · exact absurd idle busy
    · rw [error] at none
      cases none
    · obtain ⟨c',serving',hdr',payload',read',fields',member,asks,stream,same⟩ := asked
      rw [record] at path wanted ⊢
      refine ⟨c',serving',hdr',payload',read',fields',member,asks,stream,fun prior => ⟨(same prior).1,fun files => ?_⟩⟩
      rw [← (same prior).2 files]
      apply answer_congr
      · rfl
      · rfl
      · exact fun _ => path
      · rfl
      · exact wanted
  later := fun asked => asked.later _

/-- What is sent on a stream. -/
def Event.sentOn (streamId : Nat) : Event → Option OutFrame
  | .sent f true => if f.streamId = streamId then some f else none
  | .data _ _ f => if f.streamId = streamId then some f else none
  | _ => none

/-- The response on a stream in a run. -/
def responseOn (streamId : Nat) (s : Server) : List OutFrame := s.log.filterMap (Event.sentOn streamId)

/-- A request that waits for its end. -/
def openIndex : List UInt8 := (OutFrame.mk frameHeaders flagEndHeaders 1 [0x82,0x84]).encode

/-- A request for a path that is not there, on another stream. -/
def missingPage : List UInt8 :=
  (OutFrame.mk frameHeaders (flagEndStream + flagEndHeaders) 3 [0x82,0x04,0x02,'/'.toUInt8,'x'.toUInt8]).encode

/-- The end of the first request. -/
def endIndex : List UInt8 := (OutFrame.mk frameData flagEndStream 1 []).encode

end Sarm.H2
