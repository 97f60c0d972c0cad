import Sarm.ConnWindow
import Sarm.ResetStream
import Sarm.StreamOutput

/-!
One response from its start to its end. The body writer sends and waits by turns, other
responses are written inside its waits, and both windows change under it. What it says
on its stream is the HEADERS frame that was waiting, once, and then the body, chunk by
chunk.
-/
namespace Sarm.H2
open Sarm.Memory Sarm.Trace

/-! ### What is said on a stream -/

/-- A HEADERS or a DATA frame of the stream that the transport takes. -/
def Event.spoken (id : Nat) : Event → Option OutFrame
  | .sent f true => if f.streamId = id ∧ f.type = frameHeaders then some f else none
  | .data _ _ f => if f.streamId = id then some f else none
  | _ => none

def spoken (id : Nat) (log : List Event) : List OutFrame := log.filterMap (Event.spoken id)

/-- Nothing is said on the stream from the one state to the other. -/
def Mute (id : Nat) (s t : Server) : Prop := ∃ new, t.log = s.log ++ new ∧ ∀ e ∈ new, e.spoken id = none

variable {id : Nat}

theorem Mute.same {s t : Server} (log : t.log = s.log) : Mute id s t := ⟨[],by rw [log,List.append_nil],by simp⟩

theorem Mute.one {s t : Server} {e : Event} (log : t.log = s.log ++ [e]) (mute : e.spoken id = none) : Mute id s t :=
  ⟨[e],log,by simpa using mute⟩

theorem Mute.trans {s t u : Server} (first : Mute id s t) (second : Mute id t u) : Mute id s u := by
  obtain ⟨new,log,mute⟩ := first
  obtain ⟨new',log',mute'⟩ := second
  exact ⟨new ++ new',by rw [log',log,List.append_assoc],List.forall_mem_append.mpr ⟨mute,mute'⟩⟩

theorem spoken_mute {new : List Event} (mute : ∀ e ∈ new, e.spoken id = none) : spoken id new = [] :=
  List.filterMap_eq_nil_iff.mpr mute

/-! ### Other streams -/

variable {s : Server}

theorem send_mute (s : Server) {f : OutFrame} (other : f.type = frameHeaders → f.streamId ≠ id) :
    Mute id s (s.send f).1 := by
  refine .one (send_log s f) ?_
  cases (s.send f).2 with
  | false => rfl
  | true => exact if_neg fun both => other both.2 both.1

theorem Control.mute {f : OutFrame} (control : Control f) (s : Server) : Mute id s (s.send f).1 :=
  send_mute s fun headers => absurd headers control.2

theorem sendAll_mute : ∀ (frames : List OutFrame) (s : Server), (∀ f ∈ frames, Control f) →
    Mute id s (s.sendAll frames) := by
  intro frames
  induction frames with
  | nil => intro s _; exact .same rfl
  | cons f frames ih =>
    intro s control
    rw [List.forall_mem_cons] at control
    rw [sendAll_cons]
    exact (control.1.mute s).trans (ih _ control.2)

theorem writeHeaders_mute {streamId : Nat} (other : streamId ≠ id) (r : Response) (extra : Nat) :
    Mute id s (s.writeHeaders r streamId extra).1 := by
  rw [Server.writeHeaders]
  split
  · exact .same rfl
  · next f made =>
    obtain ⟨_,stream⟩ := headersFrame_some made
    exact send_mute s fun _ => by rw [stream]; exact other

theorem finish_stack (s : Server) : s.finish.stack = s.stack.tail := by
  rw [Server.finish]
  cases stack : s.stack with
  | nil => exact stack
  | cons => rfl

theorem abort_stack {v : Serve} {base : List Serve} (stack : s.stack = v :: base) : s.abort.stack = base := by
  rw [Server.abort,stack]
  dsimp only
  rw [finish_stack,Server.replyStatus,writeHeaders_serving,stack,List.tail_cons]

theorem abort_mute {v : Serve} {base : List Serve} (stack : s.stack = v :: base) (other : v.streamId ≠ id) :
    Mute id s s.abort := by
  rw [Server.abort,stack]
  exact (writeHeaders_mute other _ _).trans (.same (finish_log _))

/-- A response that has begun is over, or it is the innermost. -/
theorem respond_left {v : Serve} {base : List Serve} (stack : s.stack = v :: base) (other : v.streamId ≠ id)
    (a : Answer) :
    (∃ above, (s.respond v.streamId a).stack = above ++ base ∧ ∀ w ∈ above, w.streamId ≠ id) ∧
        Mute id s (s.respond v.streamId a) := by
  have through : ∀ {t : Server}, t.stack = base → ∃ above, t.stack = above ++ base ∧ ∀ w ∈ above, w.streamId ≠ id :=
    fun same => ⟨[],same,by simp⟩
  have still : ∀ {t : Server} (staged : Option (List UInt8)) (body : List UInt8), t.stack = v :: base →
      ∃ above, (t.setTop staged body).stack = above ++ base ∧ ∀ w ∈ above, w.streamId ≠ id := by
    intro t staged body same
    refine ⟨[{ v with staged := staged, body := body }],by rw [Server.setTop,same]; rfl,?_⟩
    simpa using other
  cases a with
  | status code =>
    refine ⟨through ?_,(writeHeaders_mute other _ _).trans (.same (finish_log _))⟩
    rw [Server.respond,finish_stack,Server.replyStatus,writeHeaders_serving,stack,List.tail_cons]
  | headers r =>
    have mute : Mute id s (s.writeHeaders r v.streamId flagEndStream).1 := writeHeaders_mute other r flagEndStream
    have kept : (s.writeHeaders r v.streamId flagEndStream).1.stack = v :: base := writeHeaders_serving.trans stack
    rw [Server.respond]
    split
    · next t done =>
      rw [done] at mute kept
      exact ⟨through (by rw [finish_stack,kept]; rfl),mute.trans (.same (finish_log _))⟩
    · next t failed =>
      rw [failed] at mute kept
      exact ⟨through (abort_stack kept),mute.trans (abort_mute kept other)⟩
  | body r =>
    rw [Server.respond]
    split
    · exact ⟨through (abort_stack stack),abort_mute stack other⟩
    · next f made =>
      split
      · exact ⟨still _ _ stack,.same (setTop_log _ _ _)⟩
      · obtain ⟨_,stream⟩ := headersFrame_some made
        have mute : Mute id s (s.send f).1 := send_mute s fun _ => by rw [stream]; exact other
        have kept : (s.send f).1.stack = v :: base := (send_stack s f).trans stack
        split
        · next t done =>
          rw [done] at mute kept
          exact ⟨still _ _ kept,mute.trans (.same (setTop_log _ _ _))⟩
        · next t failed =>
          rw [failed] at mute kept
          exact ⟨through (abort_stack kept),mute.trans (abort_mute kept other)⟩

theorem hook_left (files : List EmbeddedFile) (old : s.core.Old Stream.Spent id) (streamId : Nat) :
    (∃ above, (s.hook files streamId).stack = above ++ s.stack ∧ ∀ w ∈ above, w.streamId ≠ id) ∧
        Mute id s (s.hook files streamId) := by
  have nothing : (∃ above, s.stack = above ++ s.stack ∧ ∀ w ∈ above, w.streamId ≠ id) ∧ Mute id s s :=
    ⟨⟨[],rfl,by simp⟩,.same rfl⟩
  rw [Server.hook]
  split
  · exact nothing
  split
  · exact nothing
  next slot found =>
  split
  · next ready =>
    have other := old.unserved found ready.1 ready.2
    have begun : Mute id s ((s.emit (.serve s.core s.serving streamId slot)).push ⟨streamId,slot,none,[]⟩) := .one rfl rfl
    obtain ⟨stack,mute⟩ := @respond_left id
      ((s.emit (.serve s.core s.serving streamId slot)).push ⟨streamId,slot,none,[]⟩)
      ⟨streamId,slot,none,[]⟩ s.stack rfl other (answer files s.core.req)
    exact ⟨stack,begun.trans mute⟩
  · exact nothing

/-! ### Waiting -/

/-- Where a wait leads: the response has failed, or it is there still and nothing has been said on its stream. -/
def Waits (id : Nat) (v : Serve) (base : List Serve) (s t : Server) : Prop :=
  (t.stack = base ∧ (v.streamId ≠ id → Mute id s t)) ∨
    ((∃ above, t.stack = above ++ v :: base ∧ ∀ w ∈ above, w.streamId ≠ id) ∧ Mute id s t)

theorem Waits.before {v : Serve} {base : List Serve} {s t u : Server} (mute : Mute id s t) (waits : Waits id v base t u) :
    Waits id v base s u := by
  rcases waits with ⟨stack,other⟩ | ⟨stack,still⟩
  · exact .inl ⟨stack,fun different => mute.trans (other different)⟩
  · exact .inr ⟨stack,mute.trans still⟩

theorem abort_waits {v : Serve} {base : List Serve} (stack : s.stack = v :: base) : Waits id v base s s.abort :=
  .inl ⟨abort_stack stack,abort_mute stack⟩

theorem waitFrame_waits (files : List EmbeddedFile) {v : Serve} {base : List Serve} (formed : s.core.WellFormed)
    (old : s.core.Old Stream.Spent id) (stack : s.stack = v :: base) : Waits id v base s (Server.waitFrame files s) := by
  have lost : ∀ {t : Server}, t.log = s.log → t.stack = s.stack → Waits id v base s (t.waitLost s.transport).abort := by
    intro t log same
    have mute : Mute id s (t.waitLost s.transport) := (Mute.same log).trans (.one rfl rfl)
    exact .before mute (abort_waits (same.trans stack))
  rw [Server.waitFrame]
  dsimp only
  split
  · next s1 read =>
    obtain ⟨_,same,log,_⟩ := waitRead_same read
    exact lost log same
  next s1 read =>
  obtain ⟨core1,stack1,log1,_⟩ := waitRead_same read
  have small : (h2ParseFrameHeader s1.waitBuf).streamId < 2^31 := Nat.mod_lt _ (by decide)
  generalize h2ParseFrameHeader s1.waitBuf = hdr at small
  split
  · have mute : Mute id s (s1.emit (.refused s1.core s1.serving hdr)) := (Mute.same log1).trans (.one rfl rfl)
    exact .before mute (abort_waits (stack1.trans stack))
  split
  · next s2 read2 =>
    obtain ⟨_,stack2,log2,_⟩ := waitRead_same read2
    exact lost (log2.trans log1) (stack2.trans stack1)
  next s2 read2 =>
  obtain ⟨core2,stack2,log2,_⟩ := waitRead_same read2
  have core : s2.core = s.core := core2.trans core1
  have top2 : s2.stack = v :: base := stack2.trans (stack1.trans stack)
  generalize s2.waitBuf = payload
  rw [dispatch_eq]
  -- The frame and the replies to it say nothing on a stream.
  have mute : Mute id s ((s2.handled hdr payload).sendAll (h2DispatchFrame s2.core hdr payload).replies) :=
    (Mute.same (log2.trans log1)).trans
      ((Mute.one (t := s2.handled hdr payload) rfl rfl).trans (sendAll_mute _ _ (dispatch_control _ _ _)))
  have kept : ((s2.handled hdr payload).sendAll (h2DispatchFrame s2.core hdr payload).replies).stack = v :: base :=
    (sendAll_stack _ _).trans top2
  have spent : ((s2.handled hdr payload).sendAll
      (h2DispatchFrame s2.core hdr payload).replies).core.Old Stream.Spent id := by
    rw [sendAll_core]
    show (h2DispatchFrame s2.core hdr payload).core.Old Stream.Spent id
    rw [core]
    exact dispatch_old spent_lasting formed small payload old
  generalize (s2.handled hdr payload).sendAll (h2DispatchFrame s2.core hdr payload).replies = s3 at mute kept spent
  split
  · next s4 done =>
    obtain ⟨rfl,_⟩ := Prod.mk.inj done
    obtain ⟨above,still⟩ := hook_left files spent hdr.streamId
    rw [kept] at above
    exact .inr ⟨above,mute.trans still⟩
  · next s4 e failed =>
    obtain ⟨rfl,_⟩ := Prod.mk.inj failed
    split
    · split
      · exact .inr ⟨⟨[],kept,by simp⟩,mute⟩
      · refine .inr ⟨⟨[],?_,by simp⟩,mute.trans ((reset_control _ _).mute _)⟩
        rw [reset_stack,kept]
        rfl
    · split
      · exact .before mute (abort_waits kept)
      · exact .inl ⟨by rw [finish_stack,kept]; rfl,fun _ => mute.trans (.same (finish_log _))⟩

/-- The HEADERS frame, while it waits. -/
def Serve.waiting (v : Serve) : List OutFrame := (v.staged.map v.headers).toList

/-- Frames that the transport has taken. -/
def taken (frames : List OutFrame) : List Event := frames.map fun f => .sent f true

theorem taken_other {v : Serve} (other : v.streamId ≠ id) : ∀ e ∈ taken v.waiting, e.spoken id = none := by
  cases staged : v.staged with
  | none => simp [taken,Serve.waiting,staged]
  | some block => simp [taken,Serve.waiting,staged,Event.spoken,Serve.headers,other]

theorem taken_own (v : Serve) : spoken v.streamId (taken v.waiting) = v.waiting := by
  cases staged : v.staged with
  | none => simp [taken,Serve.waiting,staged,spoken]
  | some block => simp [taken,Serve.waiting,staged,spoken,Event.spoken,Serve.headers]

/-- A wait behind which the response is there: its HEADERS frame is not waiting any more. -/
structure Waited (id : Nat) (v : Serve) (base : List Serve) (s t : Server) : Prop where
  stack : ∃ above, t.stack = above ++ { v with staged := none } :: base ∧ ∀ w ∈ above, w.streamId ≠ id
  log : ∃ new, t.log = s.log ++ taken v.waiting ++ new ∧ ∀ e ∈ new, e.spoken id = none

theorem waitTurn_left (files : List EmbeddedFile) {v : Serve} {base : List Serve} (formed : s.core.WellFormed)
    (old : s.core.Old Stream.Spent id) (stack : s.stack = v :: base) :
    ((s.waitTurn files v).stack = base ∧ (v.streamId ≠ id → Mute id s (s.waitTurn files v))) ∨ Waited id v base s
        (s.waitTurn files v) := by
  rw [Server.waitTurn]
  cases staged : v.staged with
  | none =>
    have mute : Mute id s (s.emit (.waiting s.count)) := .one rfl rfl
    rcases Waits.before mute
      (waitFrame_waits (s := s.emit (.waiting s.count)) files formed old stack) with through | ⟨top,new,log,still⟩
    · exact .inl through
    · have same : { v with staged := none } = v := by rw [← staged]
      refine .inr ⟨by rw [same]; exact top,new,?_,still⟩
      rw [taken,Serve.waiting,staged]
      simpa using log
  | some block =>
    dsimp only
    have kept : (s.send (v.headers block)).1.stack = v :: base := (send_stack s _).trans stack
    have core := send_core s (v.headers block)
    have log := send_log s (v.headers block)
    have mute : v.streamId ≠ id → Mute id s (s.send (v.headers block)).1 := fun other => send_mute s fun _ => other
    split
    · next s1 failed =>
      rw [failed] at kept mute
      exact .inl ⟨abort_stack kept,fun other => (mute other).trans (abort_mute kept other)⟩
    · next s1 sent =>
      rw [sent] at kept core log mute
      have top : ((s1.setTop none v.body).emit (.waiting (s1.setTop none v.body).count)).stack =
          { v with staged := none } :: base := by
        show (s1.setTop none v.body).stack = _
        rw [Server.setTop,kept]
      have core' : ((s1.setTop none v.body).emit (.waiting (s1.setTop none v.body).count)).core = s.core :=
        (setTop_core _ _ _).trans core
      have waited : Mute id s1 ((s1.setTop none v.body).emit (.waiting (s1.setTop none v.body).count)) :=
        (Mute.same (setTop_log _ _ _)).trans (.one rfl rfl)
      have waits : Waits id { v with staged := none } base s1 _ :=
        .before waited (waitFrame_waits files (core'.symm ▸ formed) (core'.symm ▸ old) top)
      rcases waits with ⟨gone,other⟩ | ⟨above,new,log',still⟩
      · exact .inl ⟨gone,fun different => (mute different).trans (other different)⟩
      · refine .inr ⟨above,new,?_,still⟩
        rw [log',log,taken,Serve.waiting,staged]
        rfl

/-! ### Sending -/

/-- What a chunk that the transport takes leaves. -/
theorem sendChunk_left {v : Serve} {base : List Serve} (chunk : Nat) (stack : s.stack = v :: base) :
    ((s.sendChunk v chunk).stack = base ∧ (s.transport.writev (v.front chunk) (dataFrame v chunk).payload).2 = false ∧
        (v.streamId ≠ id → Mute id s (s.sendChunk v chunk))) ∨
      (s.sendChunk v chunk).log =
        s.log ++ taken v.waiting ++ [.data s.core (s.core.charge v.slot chunk) (dataFrame v chunk)] ∧
        (s.sendChunk v chunk).stack =
          if v.body.drop chunk = [] then base else { v with staged := none, body := v.body.drop chunk } :: base := by
  rw [Server.sendChunk]
  dsimp only
  split
  · next t failed =>
    have kept : ({ s with transport := t } : Server).stack = v :: base := stack
    refine .inl ⟨abort_stack kept,?_,fun other => Mute.trans (.same rfl) (abort_mute kept other)⟩
    rw [Serve.front,failed]
  next t done =>
  have staged : (Server.emitStaged { s with transport := t } v).log = s.log ++ taken v.waiting := by
    rw [Server.emitStaged,taken,Serve.waiting]
    cases v.staged with
    | none => exact (List.append_nil _).symm
    | some block => rfl
  obtain ⟨core,kept,_⟩ := emitStaged_same { s with transport := t } v
  generalize Server.emitStaged { s with transport := t } v = s1 at staged core kept
  have log : (s1.emitChunk v chunk).log =
      s.log ++ taken v.waiting ++ [.data s.core (s.core.charge v.slot chunk) (dataFrame v chunk)] := by
    show s1.log ++ [.data s1.core (s1.core.charge v.slot chunk) (dataFrame v chunk)] = _
    rw [staged,core]
  have top : (s1.emitChunk v chunk).stack = v :: base := kept.trans stack
  right
  split
  · rw [finish_log,finish_stack,top]
    exact ⟨log,rfl⟩
  · rw [setTop_log,Server.setTop,top]
    exact ⟨log,rfl⟩

/-! ### A turn of another writer -/

/-- A turn of the innermost writer: a wait without credit, else a chunk. -/
theorem step_writer (files : List EmbeddedFile) {v : Serve} {base : List Serve} (stack : s.stack = v :: base)
    (alive : ¬ s.halted = true) :
    s.step files = if chunkLength s.core v = 0 ∧
        v.body ≠ [] then s.waitTurn files v else s.sendChunk v (chunkLength s.core v) := by
  rw [Server.step,if_neg alive,stack]
  rfl

/-- The innermost response is on another stream: what is under it stays, and nothing is said on the stream. -/
theorem step_above (files : List EmbeddedFile) {v : Serve} {base : List Serve} (formed : s.core.WellFormed)
    (old : s.core.Old Stream.Spent id) (stack : s.stack = v :: base) (other : v.streamId ≠ id) :
    (∃ above, (s.step files).stack = above ++ base ∧ ∀ w ∈ above, w.streamId ≠ id) ∧ Mute id s (s.step files) := by
  by_cases halted : s.halted = true
  · rw [Server.step,if_pos halted]
    exact ⟨⟨[v],stack,by simpa using other⟩,.same rfl⟩
  rw [step_writer files stack halted]
  split
  · rcases waitTurn_left files formed old stack with ⟨gone,mute⟩ | ⟨⟨above,top,others⟩,new,log,still⟩
    · exact ⟨⟨[],gone,by simp⟩,mute other⟩
    · refine ⟨⟨above ++ [{ v with staged := none }],by rw [top,List.append_assoc]; rfl,?_⟩,taken v.waiting ++ new,?_,?_⟩
      · exact List.forall_mem_append.mpr ⟨others,by simpa using other⟩
      · rw [log,List.append_assoc]
      · exact List.forall_mem_append.mpr ⟨taken_other other,still⟩
  · rcases @sendChunk_left id s v base (chunkLength s.core v) stack with ⟨gone,_,mute⟩ | ⟨log,top⟩
    · exact ⟨⟨[],gone,by simp⟩,mute other⟩
    · have said : ∀ e ∈ taken v.waiting ++
      [.data s.core (s.core.charge v.slot (chunkLength s.core v)) (dataFrame v (chunkLength s.core v))],
          e.spoken id = none := by
        refine List.forall_mem_append.mpr ⟨taken_other other,?_⟩
        simp [Event.spoken,dataFrame,other]
      refine ⟨?_,_,by rw [log,List.append_assoc],said⟩
      rw [top]
      split
      · exact ⟨[],rfl,by simp⟩
      · exact ⟨[_],rfl,by simpa using other⟩

/-! ### The entry of the stream -/

/-- An RST_STREAM frame of the stream. -/
def Event.Resets (id : Nat) : Event → Prop
  | .frame _ _ hdr _ => hdr.type = frameRstStream ∧ hdr.length = 4 ∧ hdr.streamId = id
  | _ => False

instance (id : Nat) : DecidablePred (Event.Resets id)
  | .frame _ _ hdr _ => inferInstanceAs (Decidable (hdr.type = frameRstStream ∧ hdr.length = 4 ∧ hdr.streamId = id))
  | .refused _ _ _ | .waiting _ | .waitFailed _ _ | .sent _ _ | .data _ _ _ | .serve _ _ _ _ => isFalse fun no => no

/-- The acts with what they add to a log of so many events. -/
def actsSince (k : Nat) : Logged Server Event where
  act := Act
  log s := s.log.drop k
  grows act := by
    obtain ⟨new,log⟩ := act.grows
    rw [← log,List.drop_append]
    exact List.prefix_append _ _

/-- While it is over `below`, a response holds its entry, and those inside it have other entries. -/
structure Owned (k : Nat) (p : Nat × Nat) (below : List (Nat × Nat)) (s : Server) : Prop where
  formed : Formed s
  since : k ≤ s.log.length
  holds : ∀ above, s.held = above ++ p :: below → s.core.Holds p ∧ ∀ q ∈ above, q.2 ≠ p.2

theorem Owned.same {k : Nat} {p : Nat × Nat} {below : List (Nat × Nat)} {s s' : Server} (owned : Owned k p below s)
    (act : Act s s')
    (held : s'.held = s.held) (holds : s.core.Holds p → s'.core.Holds p) : Owned k p below s' := by
  refine ⟨formed_keeps act (fun _ _ => trivial) owned.formed,Nat.le_trans owned.since act.grows.length_le,
    fun above split => ?_⟩
  rw [held] at split
  obtain ⟨own,others⟩ := owned.holds above split
  exact ⟨holds own,others⟩

theorem owned_keeps (k : Nat) (p : Nat × Nat) (below : List (Nat × Nat)) :
    (actsSince k).Keeps (fun e => ¬ e.Resets p.1) (Owned k p below) := by
  intro s s' act meets owned
  have whole : Act s s' := act
  cases act with
  | moved core stack _ _ _ => exact owned.same whole (held_congr stack) fun holds => by rw [core]; exact holds
  | sent core stack _ _ _ _ _ => exact owned.same whole (held_congr stack) fun holds => by rw [core]; exact holds
  | @frame _ hdr payload _ core stack _ _ _ log of _ =>
    refine owned.same whole (held_congr stack) fun holds => ?_
    have new : Event.frame s.core s.serving hdr payload ∈ s'.log.drop k := by
      rw [log,List.drop_append_of_le_length owned.since]
      simp
    rw [core]
    exact dispatch_holds owned.formed.core of.small payload (meets _ new) holds
  | refused core stack _ _ _ => exact owned.same whole (held_congr stack) fun holds => by rw [core]; exact holds
  | waiting _ => exact owned.same whole rfl id
  | waitFailed core stack _ _ _ _ => exact owned.same whole (held_congr stack) fun holds => by rw [core]; exact holds
  | @serve streamId slot _ proper found complete idle =>
    refine ⟨formed_keeps whole (fun _ _ => trivial) owned.formed,Nat.le_trans owned.since whole.grows.length_le,
      fun above split => ?_⟩
    have split : (streamId,slot) :: s.held = above ++ p :: below := split
    cases above with
    | nil =>
      obtain ⟨rfl,_⟩ := List.cons.inj split
      exact ⟨push_holds _ proper found complete,by simp⟩
    | cons q above =>
      obtain ⟨rfl,outer⟩ := List.cons.inj split
      obtain ⟨holds,others⟩ := owned.holds above outer
      -- The entry of the new response is not marked, that of the old one is.
      have apart : slot ≠ p.2 := by
        rintro rfl
        rw [holds.serving] at idle
        contradiction
      exact ⟨modify_holds _ (Ne.symm apart) holds,List.forall_mem_cons.mpr ⟨apart,others⟩⟩
  | top staged body => exact owned.same whole (setTop_served s staged body) fun holds => by rw [setTop_core]; exact holds
  | charged _ _ => exact owned.same whole rfl fun holds => same_holds (charge_same _ _ _) holds
  | finish =>
    refine ⟨formed_keeps whole (fun _ _ => trivial) owned.formed,Nat.le_trans owned.since whole.grows.length_le,
      fun above split => ?_⟩
    have holds := owned.holds
    cases stack : s.stack with
    | nil =>
      have same : s.finish = s := by rw [Server.finish,stack]
      rw [same] at split ⊢
      exact holds above split
    | cons v rest =>
      have core : s.finish.core = { s.core with table := s.core.table.closeServed v.slot v.streamId } :=
        by rw [Server.finish,stack]
      have tail : s.held = (v.streamId,v.slot) :: s.finish.held := by
        rw [Server.held,Server.held,finish_stack,stack]
        rfl
      obtain ⟨own,others⟩ := holds ((v.streamId,v.slot) :: above) (by rw [tail,split]; rfl)
      rw [List.forall_mem_cons] at others
      rw [core]
      exact ⟨closeServed_holds others.1 own,others.2⟩
  | ends core stack _ _ _ => exact owned.same whole (held_congr stack) fun holds => by rw [core]; exact holds

/-- Its stream has been served. -/
theorem Core.Holds.spent {c : Core} {slot : Nat} (formed : c.WellFormed) (holds : c.Holds (id,slot)) :
    c.Old Stream.Spent id := by
  have bounded := formed.bounded slot holds.inside
  rw [show c.table.ids slot = id from holds.id] at bounded
  refine ⟨bounded,fun i inside own => ?_⟩
  have here : i = slot := formed.distinct i inside slot holds.inside (by rw [own]; exact holds.proper)
    (own.trans holds.id.symm)
  subst here
  exact .inr ⟨holds.state,holds.serving⟩

theorem Core.Holds.window {c : Core} {slot : Nat} (formed : c.WellFormed) (holds : c.Holds (id,slot)) :
    c.windowOf id = some (c.table.streams slot).window := by
  rw [Core.windowOf,holds.find formed]
  rfl

/-! ### The response -/

/-- A DATA frame of the stream is no longer than a frame may be, and than both windows are when it is sent. -/
def Event.WithinCredit (id : Nat) : Event → Prop
  | .data before _ f => f.streamId = id →
      ∃ window ∈ before.windowOf id, f.payload.length ≤
        min (min defaultMaxFrameSize before.conn.window) window.toInt.toNat
  | _ => True

theorem mute_credit {e : Event} (mute : e.spoken id = none) : e.WithinCredit id := by
  cases e with
  | data before after f => exact fun own => absurd (if_pos own) (mute ▸ Option.some_ne_none f).symm
  | _ => trivial

theorem taken_credit (frames : List OutFrame) : ∀ e ∈ taken frames, e.WithinCredit id := by
  intro e member
  obtain ⟨f,_,rfl⟩ := List.mem_map.mp member
  trivial

/-- A chunk that is not the last one. -/
structure OutFrame.Chunk (f : OutFrame) (id : Nat) : Prop where
  type : f.type = frameData
  stream : f.streamId = id
  flags : f.flags = 0
  some : f.payload ≠ []

/-- The last one. -/
structure OutFrame.Last (f : OutFrame) (id : Nat) : Prop where
  type : f.type = frameData
  stream : f.streamId = id
  flags : f.flags = flagEndStream

/-- From `s` to `t` a response has said the HEADERS frame that was waiting, unless it still is, and the chunks. -/
def Said (serve : Serve) (s t : Server) (waiting chunks : List OutFrame) : Prop :=
  ∃ new, t.log = s.log ++ new ∧ (∀ e ∈ new, e.WithinCredit serve.streamId) ∧
    spoken serve.streamId new ++ waiting = serve.waiting ++ chunks

theorem Said.mute {serve : Serve} {s t u : Server} {waiting chunks : List OutFrame} (said : Said serve s t waiting chunks)
    (mute : Mute serve.streamId t u) : Said serve s u waiting chunks := by
  obtain ⟨new,log,credit,words⟩ := said
  obtain ⟨new',log',mute⟩ := mute
  refine ⟨new ++ new',by rw [log',log,List.append_assoc],List.forall_mem_append.mpr ⟨credit,fun e member =>
    mute_credit (mute e member)⟩,?_⟩
  have none : spoken serve.streamId new' = [] := spoken_mute mute
  rw [spoken] at none words ⊢
  rw [List.filterMap_append,none,List.append_nil,words]

/-- The HEADERS frame goes out, and more behind it. -/
theorem Said.goes {serve v : Serve} {s t u : Server} {chunks : List OutFrame} {more : List Event}
    (said : Said serve s t v.waiting chunks)
    (own : v.streamId = serve.streamId) (log : u.log = t.log ++ taken v.waiting ++ more)
    (credit : ∀ e ∈ more, e.WithinCredit serve.streamId) : Said serve s u [] (chunks ++ spoken serve.streamId more) := by
  obtain ⟨new,log',credit',words⟩ := said
  refine ⟨new ++ taken v.waiting ++ more,by rw [log,log']; simp only [List.append_assoc],?_,?_⟩
  · exact List.forall_mem_append.mpr ⟨List.forall_mem_append.mpr ⟨credit',taken_credit _⟩,credit⟩
  · have frame := taken_own v
    rw [own] at frame
    rw [spoken] at frame words ⊢
    rw [List.append_nil,List.filterMap_append,List.filterMap_append,frame,words,List.append_assoc]
    rfl

/-- The response is under way, and `v` is left of it. -/
structure Progress (serve : Serve) (rest : List Serve) (s t : Server) (v : Serve) (chunks : List OutFrame) : Prop where
  stream : v.streamId = serve.streamId
  slot : v.slot = serve.slot
  stack : ∃ above, t.stack = above ++ v :: rest ∧ ∀ w ∈ above, w.streamId ≠ serve.streamId
  said : Said serve s t v.waiting chunks
  early : v.staged = none ∨ chunks = []
  body : chunks.flatMap OutFrame.payload ++ v.body = serve.body
  chunk : ∀ f ∈ chunks, f.Chunk serve.streamId
  more : chunks = [] ∨ v.body ≠ []

/-- The response is complete: END_STREAM is on the last DATA frame and on no other. -/
def Delivered (serve : Serve) (s t : Server) : Prop :=
  ∃ chunks last, Said serve s t [] (chunks ++ [last]) ∧ (chunks ++ [last]).flatMap OutFrame.payload = serve.body ∧
    (∀ f ∈ chunks, f.Chunk serve.streamId) ∧ last.Last serve.streamId

/-- In a turn of the writer at this depth its chunk is taken, or its wait ends with the writer still there. -/
def Server.GoesWell (files : List EmbeddedFile) (depth : Nat) (s : Server) : Prop :=
  ∀ v ∈ s.stack.head?, s.stack.length = depth + 1 →
    s.ChunkTaken ∧ (chunkLength s.core v = 0 → v.body ≠ [] → depth < (s.step files).stack.length)

instance (files : List EmbeddedFile) (depth : Nat) (s : Server) : Decidable (s.GoesWell files depth) :=
  inferInstanceAs (Decidable (∀ v ∈ s.stack.head?, _ → _ ∧ (_ → _ → _)))

/-- The frame of a chunk. -/
theorem dataFrame_credit {c : Core} {v : Serve} (formed : c.WellFormed) (holds : c.Holds (v.streamId,v.slot))
    (after : Core) :
    (Event.data c after (dataFrame v (chunkLength c v))).WithinCredit v.streamId := by
  intro _
  refine ⟨_,holds.window formed,?_⟩
  rw [dataFrame_length,chunkLength]
  exact Nat.min_le_left _ _

theorem sendChunk_progress {serve v : Serve} {rest : List Serve} {t : Server} {chunks : List OutFrame}
    (formed : t.core.WellFormed)
    (holds : t.core.Holds (serve.streamId,serve.slot)) (progress : Progress serve rest s t v chunks)
    (top : t.stack = v :: rest)
    (sends : ¬ (chunkLength t.core v = 0 ∧ v.body ≠ [])) (went : t.ChunkTaken) :
    let u := t.sendChunk v (chunkLength t.core v)
    (∃ v' chunks', Progress serve rest s u v' chunks') ∨ u.stack = rest ∧ Delivered serve s u := by
  obtain ⟨stream,slot,_,said,_,body,chunk,_⟩ := progress
  have own : t.core.Holds (v.streamId,v.slot) := by rw [stream,slot]; exact holds
  have credit := dataFrame_credit formed own (t.core.charge v.slot (chunkLength t.core v))
  have fits : chunkLength t.core v ≤ v.body.length := Nat.min_le_right _ _
  have ok := (went v (by rw [top]; rfl)).resolve_left sends
  have left := @sendChunk_left serve.streamId t v rest (chunkLength t.core v) top
  generalize chunkLength t.core v = n at *
  rcases left with ⟨_,failed,_⟩ | ⟨log,after⟩
  · rw [failed] at ok
    cases ok
  have words : spoken serve.streamId [.data t.core (t.core.charge v.slot n) (dataFrame v n)] = [dataFrame v n] := by
    simp [spoken,Event.spoken,dataFrame,stream]
  have went := said.goes stream log (by rw [← stream]; simpa using credit)
  rw [words] at went
  have payload : (chunks ++ [dataFrame v n]).flatMap OutFrame.payload ++ v.body.drop n = serve.body := by
    rw [List.flatMap_append,List.append_assoc,← body,List.flatMap_singleton]
    congr 1
    exact List.take_append_drop n v.body
  by_cases whole : v.body.drop n = []
  · rw [if_pos whole] at after
    rw [whole,List.append_nil] at payload
    refine .inr ⟨after,chunks,_,went,payload,chunk,⟨rfl,stream,if_pos ?_⟩⟩
    have := List.drop_eq_nil_iff.mp whole
    omega
  · rw [if_neg whole] at after
    have short : n ≠ v.body.length := by
      rintro rfl
      exact whole List.drop_length
    have some : v.body.take n ≠ [] := by
      intro none
      rcases List.take_eq_nil_iff.mp none with zero | empty
      · exact sends ⟨zero,fun empty => whole (by rw [empty,List.drop_nil])⟩
      · exact whole (by rw [empty,List.drop_nil])
    refine .inl ⟨{ v with staged := none, body := v.body.drop n },chunks ++ [dataFrame v n],stream,slot,
      ⟨[],after,by simp⟩,went,.inl rfl,
      payload,?_,.inr whole⟩
    exact List.forall_mem_append.mpr ⟨chunk,by simpa using ⟨rfl,stream,if_neg short,some⟩⟩

theorem step_progress (files : List EmbeddedFile) {serve v : Serve} {rest : List Serve} {t : Server}
    {chunks : List OutFrame}
    (formed : t.core.WellFormed) (holds : t.core.Holds (serve.streamId,serve.slot))
    (progress : Progress serve rest s t v chunks)
    (well : t.GoesWell files rest.length) :
    (∃ v' chunks', Progress serve rest s (t.step files) v' chunks') ∨ (t.step files).stack = rest ∧
        Delivered serve s (t.step files) := by
  have spent := holds.spent formed
  obtain ⟨above,stack,others⟩ := progress.stack
  cases above with
  | cons w above =>
    -- Another response is being written inside a wait.
    rw [List.forall_mem_cons] at others
    obtain ⟨⟨above',stack',others'⟩,mute⟩ := step_above files formed spent stack others.1
    refine .inl ⟨v,chunks,progress.stream,progress.slot,
      ⟨above' ++ above,stack'.trans (List.append_assoc above' above _).symm,?_⟩,progress.said.mute mute,
      progress.early,progress.body,progress.chunk,progress.more⟩
    exact List.forall_mem_append.mpr ⟨others',others.2⟩
  | nil =>
    have top : t.stack = v :: rest := stack
    by_cases halted : t.halted = true
    · rw [Server.step,if_pos halted]
      exact .inl ⟨v,chunks,progress⟩
    obtain ⟨went,stays⟩ := well v (by rw [top]; rfl) (by rw [top]; rfl)
    have turn := step_writer files top halted
    split at turn
    · next waits =>
      have there := stays waits.1 waits.2
      rw [turn] at there ⊢
      rcases waitTurn_left files formed spent top with ⟨gone,_⟩ | ⟨top',new,log,mute⟩
      · rw [gone] at there
        exact absurd there (Nat.lt_irrefl _)
      · have said := progress.said.goes progress.stream log (fun e member => mute_credit (mute e member))
        rw [spoken_mute mute,List.append_nil] at said
        exact .inl ⟨{ v with staged := none },chunks,progress.stream,progress.slot,top',said,.inl rfl,progress.body,
          progress.chunk,
          progress.more⟩
    · next sends =>
      rw [turn]
      exact sendChunk_progress formed holds progress top sends went

/-! ### Runs -/

/-- `h2_process_request` leaves the writer what the theorem starts from: the window of the file, the HEADERS frame in front
    of it unless it is long and has been sent, and the stream's own entry. -/
theorem processRequest_starts (files : List EmbeddedFile) {streamId slot : Nat} (proper : streamId ≠ 0)
    (found : h2StreamFind s.core.table streamId = some slot)
    (complete : (s.core.table.streams slot).state = .halfClosedRemote)
    {r : Response} (sends : answer files s.core.req = .body r) {f : OutFrame} (made : headersFrame r streamId 0 = some f)
    (short : f.encode.length ≤ headersStageMax) :
    (s.processRequest files streamId slot).stack = ⟨streamId,slot,some f.payload,r.body⟩ :: s.stack ∧
      (s.processRequest files streamId slot).core.Holds (streamId,slot) := by
  have same : answer files ((s.emit (.serve s.core s.serving streamId slot)).push ⟨streamId,slot,none,[]⟩).core.req =
    .body r := sends
  rw [Server.processRequest,same,Server.respond,made]
  dsimp only
  rw [if_pos short]
  refine ⟨rfl,?_⟩
  rw [setTop_core]
  exact push_holds _ proper found complete

/-- While the turns of the writer go well and the stream is not reset, what has been said of its response is the HEADERS
    frame that was waiting and chunks of the body, in order, none longer than the credit there was; when the writer is
    through, that is the whole body. -/
theorem body_written (files : List EmbeddedFile) {serve : Serve} {rest : List Serve} (formed : Formed s)
    (top : s.stack = serve :: rest) (holds : s.core.Holds (serve.streamId,serve.slot)) (n : Nat)
    (writing : ∀ k < n, rest.length < (run files s k).stack.length)
    (well : ∀ k < n, (run files s k).GoesWell files rest.length)
    (unreset : ∀ e ∈ (run files s n).log.drop s.log.length, ¬ e.Resets serve.streamId) :
    (∃ v chunks, Progress serve rest s (run files s n) v chunks) ∨
      ((run files s n).stack = rest ∧ Delivered serve s (run files s n)) := by
  have start : Owned s.log.length (serve.streamId,serve.slot) (rest.map fun v => (v.streamId,v.slot)) s := by
    refine ⟨formed,Nat.le_refl _,fun above split => ?_⟩
    have none : above = [] := by
      have length := congrArg List.length split
      rw [Server.held,top] at length
      simp only [List.map_cons,List.length_cons,List.length_append,List.length_map] at length
      exact List.length_eq_zero_iff.mp (by omega)
    subst none
    exact ⟨holds,by simp⟩
  have owned : ∀ k ≤ n, Owned s.log.length (serve.streamId,serve.slot) (rest.map fun v => (v.streamId,v.slot))
      (run files s k) := by
    intro k within
    obtain ⟨more,rfl⟩ := Nat.exists_eq_add_of_le within
    refine run_keeps (L := actsSince s.log.length) (step_path files) (owned_keeps _ _ _) start k ?_
    refine Meets.of_prefix ?_ unreset
    rw [run,Nat.add_comm k more,Function.iterate_add_apply]
    exact path_grows (L := actsSince s.log.length) (run_path (step_path files) _ more)
  have progress : ∀ k ≤ n, (∃ v chunks, Progress serve rest s (run files s k) v chunks) ∨
      ((run files s k).stack = rest ∧ Delivered serve s (run files s k)) := by
    intro k within
    induction k with
    | zero =>
      exact .inl ⟨serve,[],rfl,rfl,⟨[],top,by simp⟩,⟨[],(List.append_nil _).symm,by simp,by simp [spoken]⟩,.inr rfl,
        rfl,by simp,.inl rfl⟩
    | succ k ih =>
      have succ : run files s (k + 1) = (run files s k).step files := Function.iterate_succ_apply' _ _ _
      rw [succ]
      rcases ih (Nat.le_of_succ_le within) with ⟨v,chunks,progress⟩ | ⟨through,_⟩
      · have reached := owned k (Nat.le_of_succ_le within)
        obtain ⟨above,stack,_⟩ := progress.stack
        have own := (reached.holds (above.map fun w => (w.streamId,w.slot)) (by
          rw [Server.held,stack,List.map_append,List.map_cons,progress.stream,progress.slot])).1
        exact step_progress files reached.formed.core own progress (well k within)
      · have still := writing k within
        rw [through] at still
        exact absurd still (Nat.lt_irrefl _)
  exact progress n (Nat.le_refl n)

/-- The page is asked for, and there is credit. -/
theorem body_written_page : ∃ serve, (run welcomeSite (h2ConnectionLoop (.client (getIndex 1).encode)) 1).stack =
    [serve] ∧
    Delivered serve (run welcomeSite (h2ConnectionLoop (.client (getIndex 1).encode)) 1)
      (run welcomeSite (run welcomeSite (h2ConnectionLoop (.client (getIndex 1).encode)) 1) 1) := by
  have formed := run_formed welcomeSite (.client (getIndex 1).encode) 1
  have turn : (run welcomeSite (h2ConnectionLoop (.client (getIndex 1).encode)) 1).held = [(1,0)] ∧
      (run welcomeSite (h2ConnectionLoop (.client (getIndex 1).encode)) 1).core.table.ids 0 = 1 ∧
      ((run welcomeSite (h2ConnectionLoop (.client (getIndex 1).encode)) 1).core.table.streams 0).state =
        .halfClosedRemote ∧
      ((run welcomeSite (h2ConnectionLoop (.client (getIndex 1).encode)) 1).core.table.streams 0).serving = true ∧
      (run welcomeSite (h2ConnectionLoop (.client (getIndex 1).encode)) 1).GoesWell welcomeSite 0 ∧
      (∀ e ∈ (run welcomeSite (run welcomeSite (h2ConnectionLoop (.client (getIndex 1).encode)) 1) 1).log.drop
          (run welcomeSite (h2ConnectionLoop (.client (getIndex 1).encode)) 1).log.length, ¬ e.Resets 1) ∧
      (run welcomeSite (run welcomeSite (h2ConnectionLoop (.client (getIndex 1).encode)) 1) 1).stack.length = 0 :=
        by decide +kernel
  generalize run welcomeSite (h2ConnectionLoop (.client (getIndex 1).encode)) 1 = s at formed turn ⊢
  obtain ⟨held,ids,state,serving,well,unreset,through⟩ := turn
  obtain ⟨serve,top⟩ := List.length_eq_one_iff.mp ((held_length s).symm.trans (congrArg List.length held))
  rw [Server.held,top] at held
  obtain ⟨stream,slot⟩ := Prod.mk.inj (List.cons.inj held).1
  refine ⟨serve,top,?_⟩
  have first : ∀ k < 1, run welcomeSite s k = s := by
    intro k before
    rw [Nat.lt_one_iff.mp before]
    rfl
  have whole := body_written welcomeSite formed top (by rw [stream,slot]; exact ⟨by decide,by decide,ids,state,serving⟩) 1
    (fun k before => by rw [first k before,top]; exact Nat.zero_lt_one) (fun k before =>
      by rw [first k before]; exact well)
    (by rw [stream]; exact unreset)
  rcases whole with ⟨v,chunks,progress⟩ | ⟨_,delivered⟩
  · obtain ⟨above,stack,_⟩ := progress.stack
    rw [stack,List.length_append,List.length_cons] at through
    omega
  · exact delivered

end Sarm.H2
