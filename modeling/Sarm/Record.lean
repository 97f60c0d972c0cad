import Sarm.Headers
import Sarm.Nesting

/-!
The request record of a connection. There is one for all streams: an accepted
HEADERS frame fills it, whatever its stream, and every request is served from it. What holds
of the record once it is filled, and outlasts the frames that are rejected inside a
response, holds of it whenever a request is served.
-/
namespace Sarm.H2
open Sarm.Memory Sarm.Trace
open Sarm.Hpack (h2HpackDecodeBlock FieldRef Ptr)

/-- The file name in the record. -/
def Request.path (r : Request) : List UInt8 := slice r.filenameBuf 0 r.pathLength

/-- The request in the record is one that is looked up. -/
def Request.LooksUp (r : Request) : Prop := r.forbidden = false ∧ r.method ≠ .unknown

instance (r : Request) : Decidable r.LooksUp := inferInstanceAs (Decidable (_ ∧ _))

/-- The block of a HEADERS frame is decoded to these fields. -/
def Asks (c : Core) (hdr : FrameHeader) (payload : Mem) (read : Ptr → Mem) (fields : List FieldRef) : Prop :=
  hdr.type = frameHeaders ∧ ∃ off len hpack, blockFragment hdr payload = .ok (off,len) ∧
    h2HpackDecodeBlock (shift payload off) len c.hpack = .ok fields hpack ∧ read = hpack.at (shift payload off)

/-- The record that a HEADERS frame makes of one. -/
def Records (c : Core) (hdr : FrameHeader) (payload : Mem) (req : Request) (accepted : Bool) : Prop :=
  ∃ read fields, Asks c hdr payload read fields ∧ h2BuildRequest read hdr.streamId fields c.req = (req,accepted)

/-- What a frame does to the record: nothing, or it is a HEADERS frame that fills it, or
    one that is rejected, with a connection error. -/
theorem dispatch_record (c : Core) (hdr : FrameHeader) (payload : Mem) :
    (h2DispatchFrame c hdr payload).core.req = c.req ∨
    Records c hdr payload (h2DispatchFrame c hdr payload).core.req true ∨
      ((h2DispatchFrame c hdr payload).error = some .protocolError ∧
        Records c hdr payload (h2DispatchFrame c hdr payload).core.req false) := by
  by_cases headers : hdr.type = frameHeaders
  · refine headers_rule (P := fun o => o.core.req = c.req ∨ Records c hdr payload o.core.req true ∨
      (o.error = some .protocolError ∧ Records c hdr payload o.core.req false)) headers ?_
    intro outcome received
    cases received with
    | refused _ | late _ _ | unframed _ _ _ | undecoded _ _ _ _ => exact .inl rfl
    | malformed _ _ fragment decoded built =>
      exact .inr (.inr ⟨rfl,_,_,⟨headers,_,_,_,fragment,decoded,rfl⟩,built⟩)
    | @accepted slot off len table table' conn fields hpack req _ _ fragment decoded built =>
      right
      left
      rw [(endStream_untouched _ hdr slot).req]
      exact ⟨_,_,⟨headers,_,_,_,fragment,decoded,rfl⟩,built⟩
  · exact .inl (dispatch_untouched headers payload).req

/-! ### Before the first stream -/

/-- No stream has an entry. -/
def Table.Blank (t : Table) : Prop := ∀ i < maxStreams, t.ids i = 0

theorem Table.Blank.find {t : Table} (blank : t.Blank) {id : Nat} (proper : id ≠ 0) : h2StreamFind t id = none := by
  cases found : h2StreamFind t id with
  | none => rfl
  | some slot =>
    obtain ⟨inside,own,_⟩ := find_some found
    rw [blank slot inside] at own
    exact absurd own.symm proper

/-- The first frames: there is a record before there is an entry, or the connection
    ends. -/
theorem dispatch_blank {c : Core} {hdr : FrameHeader} {payload : Mem} (blank : c.table.Blank)
    (small : hdr.streamId < 2^31)
    (lives : ∀ e, (h2DispatchFrame c hdr payload).error = some e → e.isStream) :
    (h2DispatchFrame c hdr payload).core.table.Blank ∨
      Records c hdr payload (h2DispatchFrame c hdr payload).core.req true := by
  by_cases headers : hdr.type = frameHeaders
  · revert lives
    refine headers_rule (P := fun o => (∀ e, o.error = some e → e.isStream) → o.core.table.Blank ∨
      Records c hdr payload o.core.req true) headers ?_
    intro outcome received lives
    cases received with
    | refused _ => exact .inl blank
    | @late slot table conn e admitted event =>
      -- A new entry takes any HEADERS frame.
      obtain ⟨odd,⟨_,_,found⟩ | ⟨_,_,_,rfl,_⟩⟩ := admit_cases small admitted
      · rw [show (c.noted frameHeaders).table = c.table from rfl,blank.find (by omega)] at found
        cases found
      · have idle :
          ((initSlot (c.noted frameHeaders).table
          (c.noted frameHeaders).conn slot hdr.streamId).streams slot).state =
            .idle := by simp [initSlot]
        rw [h2StreamEvent,idle] at event
        cases event
    | unframed _ _ fragment =>
      have stream := lives _ rfl
      rcases fragment_error fragment with rfl | rfl <;> cases stream
    | undecoded _ _ _ _ => exact absurd (lives _ rfl) (by decide)
    | malformed _ _ _ _ _ => exact absurd (lives _ rfl) (by decide)
    | @accepted slot off len table table' conn fields hpack req _ _ fragment decoded built =>
      right
      rw [(endStream_untouched _ hdr slot).req]
      exact ⟨_,_,⟨headers,_,_,_,fragment,decoded,rfl⟩,built⟩
  · left
    rw [Table.Blank,(dispatch_untouched headers payload).ids]
    exact blank

/-! ### Runs -/

/-- What holds of a record, with the log so far, once it is filled, and outlasts the
    events of a run. -/
structure RecordRule (Ok : Event → Prop) (P : List Event → Request → Prop) : Prop where
  filled : ∀ {log : List Event} {c : Core} {serving : List Nat} {hdr : FrameHeader} {payload : Mem} {req : Request},
    Records c hdr payload req true → P (log ++ [.frame c serving hdr payload]) req
  rejected : ∀ {log : List Event} {c : Core} {serving : List Nat} {hdr : FrameHeader} {payload : Mem},
    Ok (.frame c serving hdr payload) → serving ≠ [] → (h2DispatchFrame c hdr payload).error = some .protocolError →
      Records c hdr payload (h2DispatchFrame c hdr payload).core.req false → P log c.req →
        P log (h2DispatchFrame c hdr payload).core.req
  later : ∀ {log : List Event} {e : Event} {req : Request}, P log req → P (log ++ [e]) req

/-- A request is served from a record of which the property holds. -/
def ServedFrom (P : List Event → Request → Prop) (log : List Event) : Event → Prop
  | .serve before _ _ _ => P log before.req
  | _ => True

/-- The property holds of the record once there is a stream. -/
structure Guarded (P : List Event → Request → Prop) (s : Server) : Prop where
  record : s.halted = true ∨ (s.stack = [] ∧ s.core.table.Blank) ∨ P s.log s.core.req
  served : Always (ServedFrom P) s.log

section
variable {Ok : Event → Prop} {P : List Event → Request → Prop} {s s' : Server}

/-- An event that changes nothing the record has to do with. -/
theorem Guarded.still (rule : RecordRule Ok P) (guarded : Guarded P s) (core : s'.core = s.core)
    (stack : s'.stack = s.stack)
    (halted : s'.halted = s.halted) {e : Event} (log : s'.log = s.log ++ [e]) (other : ServedFrom P s.log e) :
    Guarded P s' := by
  refine ⟨?_,by rw [log]; exact always_snoc.mpr ⟨guarded.served,other⟩⟩
  rw [core,stack,halted,log]
  exact guarded.record.imp_right (Or.imp_right rule.later)

/-- A step that is not logged. -/
theorem Guarded.silent (guarded : Guarded P s) (log : s'.log = s.log) (halted : s'.halted = s.halted)
    (req : s'.core.req = s.core.req) (idle : s.stack = [] → s'.stack = [] ∧ s'.core.table = s.core.table) :
    Guarded P s' := by
  refine ⟨?_,by rw [log]; exact guarded.served⟩
  rw [log,halted,req]
  refine guarded.record.imp_right (Or.imp_left ?_)
  rintro ⟨none,blank⟩
  obtain ⟨stack,table⟩ := idle none
  exact ⟨stack,by rw [table]; exact blank⟩

theorem guarded_keeps (rule : RecordRule Ok P) : acts.Keeps Ok (Guarded P) := by
  intro s s' act meets guarded
  cases act with
  | moved core stack halted log _ =>
    exact guarded.silent log halted (by rw [core]) (fun idle => ⟨by rw [stack,idle],by rw [core]⟩)
  | sent core stack halted log _ _ _ => exact guarded.still rule core stack halted log trivial
  | @frame _ hdr payload _ core stack alive halted passed log of _ =>
    have ok : Ok (.frame s.core s.serving hdr payload) := by
      rw [show acts.log s' = s'.log from rfl,log] at meets
      exact meets.append
    refine ⟨?_,by rw [log]; exact always_snoc.mpr ⟨guarded.served,trivial⟩⟩
    by_cases done : s'.halted = true
    · exact .inl done
    have goes : s'.halted = false := by simpa using done
    right
    rw [log,core,stack]
    rcases guarded.record with ended | ⟨idle,blank⟩ | record
    · rw [alive] at ended
      cases ended
    · rcases dispatch_blank blank of.small (passed goes idle) with still | filled
      · exact .inl ⟨idle,still⟩
      · exact .inr (rule.filled filled)
    · right
      rcases dispatch_record s.core hdr payload with same | filled | ⟨error,rejected⟩
      · rw [same]
        exact rule.later record
      · exact rule.filled filled
      · -- A connection error goes on only inside a response.
        have busy : s.serving ≠ [] := by
          intro idle
          have stream := passed goes (by simpa [Server.serving] using idle) _ error
          cases stream
        exact rule.later (rule.rejected ok busy error rejected record)
  | refused core stack halted still log =>
    by_cases idle : s.stack = []
    · exact ⟨.inl (halted idle),by rw [log]; exact always_snoc.mpr ⟨guarded.served,trivial⟩⟩
    · exact guarded.still rule core stack (still idle) log trivial
  | waiting _ => exact guarded.still rule rfl rfl rfl rfl trivial
  | waitFailed core stack halted _ log _ => exact guarded.still rule core stack halted log trivial
  | @serve streamId slot alive proper found complete idle =>
    have record : P s.log s.core.req := by
      rcases guarded.record with ended | ⟨_,blank⟩ | record
      · rw [alive] at ended
        cases ended
      · rw [blank.find proper] at found
        cases found
      · exact record
    exact ⟨.inr (.inr (rule.later record)),always_snoc.mpr ⟨guarded.served,record⟩⟩
  | top staged body =>
    refine guarded.silent (setTop_log s staged body) (setTop_halted s staged body) (by rw [setTop_core]) ?_
    intro idle
    rw [Server.setTop,idle]
    exact ⟨idle,rfl⟩
  | @charged serve rest alive stack =>
    refine ⟨?_,always_snoc.mpr ⟨guarded.served,trivial⟩⟩
    rcases guarded.record with ended | ⟨idle,_⟩ | record
    · exact .inl ended
    · rw [stack] at idle
      cases idle
    · exact .inr (.inr (rule.later record))
  | finish =>
    refine guarded.silent (finish_log s) (finish_halted s) (finish_req s) ?_
    intro idle
    rw [Server.finish,idle]
    exact ⟨idle,rfl⟩
  | ends core stack idle log halted => exact ⟨.inl halted,by rw [log]; exact guarded.served⟩

end

theorem enter_guarded (P : List Event → Request → Prop) (e : Entry) : Guarded P (h2ConnectionLoop e) := by
  obtain ⟨core,stack,log,_⟩ := enter_entered e
  refine ⟨.inr (.inl ⟨stack,?_⟩),?_⟩
  · rw [core]
    intro i _
    rfl
  · rcases log with none | ⟨ok,settings⟩
    · rw [none]
      exact always_nil _
    · rw [settings,← List.nil_append [_]]
      exact always_snoc.mpr ⟨always_nil _,trivial⟩

/-- In every run whose events allow it, requests are served from records of which the
    property holds. -/
theorem record_served {Ok : Event → Prop} {P : List Event → Request → Prop} (rule : RecordRule Ok P)
    (files : List EmbeddedFile) (e : Entry) (n : Nat) (meets : Meets Ok (run files (h2ConnectionLoop e) n).log) :
    Always (ServedFrom P) (run files (h2ConnectionLoop e) n).log :=
  (run_invariant (guarded_keeps rule) files (enter_guarded P e) n meets).served

end Sarm.H2
