import Sarm.Acts

/-!
Connection errors. A frame that the frame loop rejects with one is answered with
GOAWAY and is the last one read; one that the body writer rejects is answered with
nothing of the kind, and reading goes on.
-/
namespace Sarm.H2
open Sarm.Memory Sarm.Trace

/-- A frame, or its header, has been received. -/
def Event.received : Event → Bool
  | .frame _ _ _ _ | .refused _ _ _ => true
  | _ => false

/-- The streams being served when a frame is received. -/
def Event.serving : Event → List Nat
  | .frame _ serving _ _ | .refused _ serving _ => serving
  | _ => []

/-- The connection error a frame is rejected with, by the validator or by its
    handler. -/
def Event.fatal : Event → Option H2Error
  | .frame before _ hdr payload => (h2DispatchFrame before hdr payload).error.filter fun e => !e.isStream
  | .refused before _ hdr => match h2ValidateFrame hdr before.conn with
    | .error e => some e
    | .ok () => none
  | _ => none

/-- The error code of a GOAWAY frame sent, as the frame carries it. -/
def Event.goaway : Event → Option (List UInt8)
  | .sent f _ => if f.type = frameGoaway then some (f.payload.drop 4) else none
  | _ => none

/-- What follows a connection error is final: GOAWAY with the error is sent, and no
    frame is received any more. -/
def Final (err : H2Error) (after : List Event) : Prop :=
  (∃ e ∈ after, e.goaway = some (octets 4 err.code)) ∧ ∀ e ∈ after, e.received = false

instance (err : H2Error) (after : List Event) : Decidable (Final err after) :=
  inferInstanceAs (Decidable ((∃ e ∈ after, e.goaway = some (octets 4 err.code)) ∧ ∀ e ∈ after, e.received = false))

theorem fatal_received {e : Event} {err : H2Error} (fatal : e.fatal = some err) : e.received = true := by
  cases e <;> first | rfl | cases fatal

/-! ### Events that are neither frames received nor GOAWAY -/

/-- Neither a frame received nor GOAWAY sent. -/
structure Event.Plain (e : Event) : Prop where
  received : e.received = false
  goaway : e.goaway = none

/-- Only plain events are added to the log. -/
def Adds (s s' : Server) : Prop := ∃ new, s'.log = s.log ++ new ∧ ∀ e ∈ new, e.Plain

theorem Adds.same {s s' : Server} (log : s'.log = s.log) : Adds s s' := ⟨[],by rw [log,List.append_nil],by simp⟩

theorem Adds.one {s s' : Server} {e : Event} (log : s'.log = s.log ++ [e]) (plain : e.Plain) : Adds s s' := by
  refine ⟨[e],log,?_⟩
  intro e' member
  rw [List.mem_singleton.mp member]
  exact plain

theorem Adds.trans {s s' s'' : Server} (first : Adds s s') (second : Adds s' s'') : Adds s s'' := by
  obtain ⟨new,log,plain⟩ := first
  obtain ⟨new',log',plain'⟩ := second
  refine ⟨new ++ new',by rw [log',log,List.append_assoc],?_⟩
  intro e member
  rcases List.mem_append.mp member with first | second
  · exact plain e first
  · exact plain' e second

theorem send_adds (s : Server) {f : OutFrame} (other : f.type ≠ frameGoaway) : Adds s (s.send f).1 :=
  .one (send_log s f) ⟨rfl,if_neg other⟩

theorem writeHeaders_adds (s : Server) (r : Response) (streamId extra : Nat) :
    Adds s (s.writeHeaders r streamId extra).1 := by
  rw [Server.writeHeaders]
  split
  · exact .same rfl
  · next f made =>
    obtain ⟨type,_⟩ := headersFrame_some made
    exact send_adds s (by rw [type]; decide)

theorem finish_adds (s : Server) : Adds s s.finish := .same (finish_log s)

theorem setTop_adds (s : Server) (staged : Option (List UInt8)) (body : List UInt8) : Adds s (s.setTop staged body) :=
  .same (setTop_log s staged body)

theorem abort_adds (s : Server) : Adds s s.abort := by
  rw [Server.abort]
  split
  · exact .same rfl
  · exact (writeHeaders_adds _ _ _ _).trans (finish_adds _)

theorem respond_adds (s : Server) (streamId : Nat) (a : Answer) : Adds s (s.respond streamId a) := by
  cases a with
  | status code => exact (writeHeaders_adds _ _ _ _).trans (finish_adds _)
  | headers r =>
    have written := writeHeaders_adds s r streamId flagEndStream
    rw [Server.respond]
    split
    · next s' done => rw [done] at written; exact written.trans (finish_adds _)
    · next s' failed => rw [failed] at written; exact written.trans (abort_adds _)
  | body r =>
    rw [Server.respond]
    split
    · exact abort_adds s
    · next f made =>
      split
      · exact setTop_adds s _ _
      · obtain ⟨type,_⟩ := headersFrame_some made
        have sent := send_adds s (f := f) (by rw [type]; decide)
        split
        · next s' done => rw [done] at sent; exact sent.trans (setTop_adds _ _ _)
        · next s' failed => rw [failed] at sent; exact sent.trans (abort_adds _)

theorem hook_adds (files : List EmbeddedFile) (s : Server) (streamId : Nat) : Adds s (s.hook files streamId) := by
  rw [Server.hook]
  split
  · exact .same rfl
  split
  · exact .same rfl
  · next slot found =>
    split
    · have serve : Adds s ((s.emit (.serve s.core s.serving streamId slot)).push ⟨streamId,slot,none,[]⟩) :=
        .one rfl ⟨rfl,rfl⟩
      exact serve.trans (respond_adds _ _ _)
    · exact .same rfl

/-! ### A turn and its frame -/

/-- The log after the replies of a handler. -/
theorem sendAll_log : ∀ (frames : List OutFrame) (s : Server),
    ∃ new, (s.sendAll frames).log = s.log ++ new ∧ ∀ e ∈ new, e.received = false := by
  intro frames
  induction frames with
  | nil => intro s; exact ⟨[],by simp [Server.sendAll],by simp⟩
  | cons f frames ih =>
    intro s
    obtain ⟨new,log,sent⟩ := ih (s.send f).1
    refine ⟨.sent f (s.send f).2 :: new,?_,?_⟩
    · rw [sendAll_cons,log,send_log,List.append_assoc]
      rfl
    · exact List.forall_mem_cons.mpr ⟨rfl,sent⟩

/-- What a turn logs, and what it makes of a frame it rejects. -/
inductive Turned (s s' : Server) : Prop where
  /-- No frame is rejected with a connection error. GOAWAY is sent in reply only. -/
  | passed (new : List Event) (log : s'.log = s.log ++ new) (fatal : ∀ e ∈ new, e.fatal = none)
      (reply : (∃ e ∈ new, e.goaway ≠ none) → ∃ e ∈ new, e.received = true)
  /-- A frame of the frame loop is rejected: GOAWAY, and the end. -/
  | ended (e : Event) (err : H2Error) (conn : Conn) (ok : Bool)
      (log : s'.log = s.log ++ [e,.sent (h2SendGoaway conn err) ok]) (fatal : e.fatal = some err)
        (serving : e.serving = [])
      (halted : s'.halted = true)
  /-- A frame of the body writer is rejected. -/
  | ignored (before : List Event) (e : Event) (after : List Event) (log : s'.log = s.log ++ (before ++ e :: after))
      (plain : ∀ e' ∈ before ++ after, e'.Plain) (received : e.received = true) (serving : e.serving ≠ [])

theorem Adds.turned {s s' : Server} (adds : Adds s s') : Turned s s' := by
  obtain ⟨new,log,plain⟩ := adds
  refine .passed new log ?_ ?_
  · intro e member
    cases fatal : e.fatal with
    | none => rfl
    | some err =>
      have received := fatal_received fatal
      rw [(plain e member).received] at received
      contradiction
  · rintro ⟨e,member,goaway⟩
    exact absurd (plain e member).goaway goaway

/-- A frame that is not rejected with a connection error, its replies, and what is
    done for it. -/
theorem frame_turned (s2 : Server) (frames : List OutFrame) {s s1 s' : Server} {e : Event} (before : Adds s s1)
    (frame : s2.log = s1.log ++ [e])
    (received : e.received = true) (passed : e.fatal = none)
    (rest : ∃ new, s'.log = (s2.sendAll frames).log ++ new ∧ ∀ e ∈ new, e.Plain) :
    Turned s s' := by
  obtain ⟨first,log1,plain1⟩ := before
  obtain ⟨replies,log2,replied⟩ := sendAll_log frames s2
  obtain ⟨last,log3,plain3⟩ := rest
  refine .passed (first ++ e :: (replies ++ last)) (by rw [log3,log2,frame,log1]; simp) ?_ (fun _ => ⟨e,by simp,received⟩)
  intro e' member
  cases fatal : e'.fatal with
  | none => rfl
  | some err =>
    have heard := fatal_received fatal
    rcases List.mem_append.mp member with old | new
    · rw [(plain1 e' old).received] at heard
      contradiction
    · rcases List.mem_cons.mp new with rfl | later
      · rw [passed] at fatal
        contradiction
      · rcases List.mem_append.mp later with reply | done
        · rw [replied e' reply] at heard
          contradiction
        · rw [(plain3 e' done).received] at heard
          contradiction

/-- An event of the body writer's frame, and how the response goes on. -/
theorem ignored_turned (s2 : Server) {s s1 s' : Server} {e : Event} (before : Adds s s1) (log : s2.log = s1.log ++ [e])
    (received : e.received = true) (serving : e.serving ≠ []) (after : Adds s2 s') : Turned s s' := by
  obtain ⟨first,log1,plain1⟩ := before
  obtain ⟨last,log2,plain2⟩ := after
  refine .ignored first e last (by rw [log2,log,log1]; simp) ?_ received serving
  intro e' member
  rcases List.mem_append.mp member with old | new
  · exact plain1 e' old
  · exact plain2 e' new

theorem frame_passes {c : Core} {serving : List Nat} {hdr : FrameHeader} {payload : Mem}
    (passed : ∀ e, (h2DispatchFrame c hdr payload).error = some e → e.isStream = true) :
    (Event.frame c serving hdr payload).fatal = none := by
  rw [Event.fatal]
  cases error : (h2DispatchFrame c hdr payload).error with
  | none => rfl
  | some e => simp [passed e error]

theorem frame_fatal {c : Core} {serving : List Nat} {hdr : FrameHeader} {payload : Mem} {e : H2Error}
    (error : (h2DispatchFrame c hdr payload).error = some e) (fatal : e.isStream = false) :
    (Event.frame c serving hdr payload).fatal = some e := by
  rw [Event.fatal,error]
  simp [fatal]

theorem rst_adds (s : Server) (streamId : Nat) (e : H2Error) : Adds s (s.reset streamId e) :=
  send_adds s (by simp [h2SendRstStream,frameRstStream,frameGoaway])

theorem goaway_log (s : Server) (e : H2Error) :
    ∃ ok, (s.goaway e).close.log = s.log ++ [.sent (h2SendGoaway s.core.conn e) ok] := ⟨_,rfl⟩

theorem connectionTurn_turned (files : List EmbeddedFile) {s : Server} (idle : s.stack = []) :
    Turned s (s.connectionTurn files) := by
  rw [Server.connectionTurn]
  split
  · next s1 short =>
    have closed : Adds s s1.close := .same (fill_filled short).log
    exact closed.turned
  next s1 enough =>
  have filled := fill_filled enough
  have idle1 : s1.serving = [] := by rw [Server.serving,filled.stack,idle]; rfl
  dsimp only
  generalize h2ParseFrameHeader (shift s1.buf s1.cursor) = hdr
  split
  · next e invalid =>
    obtain ⟨ok,log⟩ := goaway_log ((s1.consume wireHeaderLen).emit (.refused s1.core s1.serving hdr)) e
    refine .ended (.refused s1.core s1.serving hdr) e s1.core.conn ok ?_ ?_ idle1 rfl
    · rw [← filled.log]
      exact log.trans (List.append_assoc _ _ _)
    · rw [Event.fatal]
      rw [show (s1.consume wireHeaderLen).core.conn = s1.core.conn from rfl] at invalid
      rw [invalid]
  next valid =>
  split
  · next s3 short =>
    have closed : Adds s s3.close := .same ((fill_filled short).log.trans filled.log)
    exact closed.turned
  next s3 enough3 =>
  have filled3 := fill_filled enough3
  have adds3 : Adds s s3 := .same (filled3.log.trans filled.log)
  have idle3 : s3.serving = [] := by rw [Server.serving,filled3.stack]; exact idle1
  generalize shift s3.buf s3.cursor = payload
  rw [dispatch_eq]
  split
  · next s4 done =>
    obtain ⟨rfl,error⟩ := Prod.mk.inj done
    refine frame_turned (s3.handled hdr payload) (h2DispatchFrame s3.core hdr payload).replies adds3 rfl rfl
      (frame_passes (by rw [error]; rintro e ⟨⟩)) ?_
    exact hook_adds files _ _
  · next s4 e failed =>
    obtain ⟨rfl,error⟩ := Prod.mk.inj failed
    have replies := dispatch_error_replies error
    split
    · next stream =>
      refine frame_turned (s3.handled hdr payload) (h2DispatchFrame s3.core hdr payload).replies adds3 rfl rfl
        (frame_passes (by rw [error]; rintro e ⟨⟩; exact stream)) ?_
      split
      · exact Adds.same rfl
      · exact rst_adds _ _ _
    · next fatal =>
      rw [replies]
      obtain ⟨ok,log⟩ := goaway_log ((s3.handled hdr payload).consume hdr.length) e
      refine .ended (.frame s3.core s3.serving hdr payload) e (s3.handled hdr payload).core.conn ok ?_
        (frame_fatal error (by simpa using fatal)) idle3 rfl
      have before : s3.log = s.log := filled3.log.trans filled.log
      rw [← before]
      exact log.trans (List.append_assoc _ _ _)

theorem waitFrame_turned (files : List EmbeddedFile) {s s0 : Server} (before : Adds s s0) (busy : s0.stack ≠ []) :
    Turned s (Server.waitFrame files s0) := by
  have lost : ∀ {s1 : Server}, s1.log = s0.log → Adds s (s1.waitLost s0.transport).abort := by
    intro s1 log
    have failed : Adds s1 (s1.waitLost s0.transport) := .one rfl ⟨rfl,rfl⟩
    exact (before.trans (.same log)).trans (failed.trans (abort_adds _))
  rw [Server.waitFrame]
  dsimp only
  split
  · next s1 failed => exact (lost (waitRead_same failed).2.2.1).turned
  next s1 read =>
  obtain ⟨_,stack1,log1,_⟩ := waitRead_same read
  have busy1 : s1.serving ≠ [] := by rw [Server.serving,stack1]; simpa using busy
  generalize h2ParseFrameHeader s1.waitBuf = hdr
  split
  · next e invalid =>
    exact ignored_turned (s1.emit (.refused s1.core s1.serving hdr)) (before.trans (.same log1)) rfl rfl busy1
      (abort_adds _)
  next valid =>
  split
  · next s2 failed => exact (lost ((waitRead_same failed).2.2.1.trans log1)).turned
  next s2 read2 =>
  obtain ⟨_,stack2,log2,_⟩ := waitRead_same read2
  have busy2 : s2.serving ≠ [] := by rw [Server.serving,stack2]; exact busy1
  have adds2 : Adds s s2 := before.trans (.same (log2.trans log1))
  generalize s2.waitBuf = payload
  rw [dispatch_eq]
  split
  · next s4 done =>
    obtain ⟨rfl,error⟩ := Prod.mk.inj done
    refine frame_turned (s2.handled hdr payload) (h2DispatchFrame s2.core hdr payload).replies adds2 rfl rfl
      (frame_passes (by rw [error]; rintro e ⟨⟩)) ?_
    exact hook_adds files _ _
  · next s4 e failed =>
    obtain ⟨rfl,error⟩ := Prod.mk.inj failed
    have replies := dispatch_error_replies error
    split
    · next stream =>
      refine frame_turned (s2.handled hdr payload) (h2DispatchFrame s2.core hdr payload).replies adds2 rfl rfl
        (frame_passes (by rw [error]; rintro e ⟨⟩; exact stream)) ?_
      split
      · exact Adds.same rfl
      · exact rst_adds _ _ _
    · rw [replies]
      refine ignored_turned (s2.handled hdr payload) adds2 rfl rfl busy2 ?_
      split
      · exact abort_adds _
      · exact finish_adds _

theorem waitTurn_turned (files : List EmbeddedFile) {s : Server} {serve : Serve} {rest : List Serve}
    (stack : s.stack = serve :: rest) :
    Turned s (s.waitTurn files serve) := by
  have busy : s.stack ≠ [] := by rw [stack]; exact List.cons_ne_nil _ _
  have waiting : ∀ s1 : Server, Adds s1 (s1.emit (.waiting s1.count)) := fun s1 => .one rfl ⟨rfl,rfl⟩
  rw [Server.waitTurn]
  split
  · exact waitFrame_turned files (waiting s) busy
  · next block staged =>
    have sent := send_adds s (f := serve.headers block) (by simp [Serve.headers,frameHeaders,frameGoaway])
    have kept := send_stack s (serve.headers block)
    split
    · next s1 failed => rw [failed] at sent; exact (sent.trans (abort_adds _)).turned
    · next s1 done =>
      rw [done] at sent kept
      refine waitFrame_turned files ((sent.trans (setTop_adds s1 none serve.body)).trans (waiting _)) ?_
      show (s1.setTop none serve.body).stack ≠ []
      rw [Server.setTop,kept,stack]
      exact List.cons_ne_nil _ _

theorem sendChunk_adds (s : Server) (serve : Serve) (chunk : Nat) : Adds s (s.sendChunk serve chunk) := by
  rw [Server.sendChunk]
  dsimp only
  split
  · next t failed =>
    have kept : Adds s { s with transport := t } := .same rfl
    exact kept.trans (abort_adds _)
  · next t done =>
    have staged : Adds s (Server.emitStaged { s with transport := t } serve) := by
      rw [Server.emitStaged]
      split
      · exact .same rfl
      · exact .one rfl ⟨rfl,by simp [Event.goaway,Serve.headers,frameHeaders,frameGoaway]⟩
    have charged : Adds s ((Server.emitStaged { s with transport := t } serve).emitChunk serve chunk) :=
      staged.trans (.one rfl ⟨rfl,rfl⟩)
    split
    · exact charged.trans (finish_adds _)
    · exact charged.trans (setTop_adds _ _ _)

theorem step_turned (files : List EmbeddedFile) {s : Server} (alive : s.halted = false) : Turned s (s.step files) := by
  rw [Server.step,if_neg (by simp [alive])]
  split
  · next idle => exact connectionTurn_turned files idle
  · next serve rest stack =>
    rw [Server.bodyTurn]
    split
    · exact waitTurn_turned files stack
    · exact (sendChunk_adds s serve _).turned

/-! ### Runs -/

/-- A connection error is final exactly if the frame loop met it, and on a connection
    that is not over the body writer met them all. -/
structure Settled (s : Server) : Prop where
  decided : ∀ before e after err, s.log = before ++ e :: after → e.fatal = some err → (Final err after ↔ e.serving = [])
  ignored : s.halted = false → ∀ e ∈ s.log, e.fatal ≠ none → e.serving ≠ []

/-- Where GOAWAY is sent in reply only, what was not final does not become so. -/
theorem not_final_append {err : H2Error} {after new : List Event} (going : ¬ Final err after)
    (reply : (∃ e ∈ new, e.goaway ≠ none) → ∃ e ∈ new, e.received = true) : ¬ Final err (after ++ new) := by
  rintro ⟨⟨e,member,goaway⟩,unheard⟩
  rcases List.mem_append.mp member with old | late
  · exact going ⟨⟨e,old,goaway⟩,fun e' member' => unheard e' (List.mem_append_left _ member')⟩
  · obtain ⟨frame,there,heard⟩ := reply ⟨e,late,by rw [goaway]; simp⟩
    rw [unheard frame (List.mem_append_right _ there)] at heard
    contradiction

theorem Settled.extend {s s' : Server} {new : List Event} (settled : Settled s) (alive : s.halted = false)
    (log : s'.log = s.log ++ new) (reply : (∃ e ∈ new, e.goaway ≠ none) → ∃ e ∈ new, e.received = true)
    (decided : ∀ before e after err, new = before ++ e :: after → e.fatal = some err → (Final err after ↔ e.serving = []))
    (ignored : s'.halted = false → ∀ e ∈ new, e.fatal ≠ none → e.serving ≠ []) : Settled s' := by
  constructor
  · intro before e after err split fatal
    rw [log] at split
    rcases split_append split with ⟨rest,old,rfl⟩ | ⟨first,_,late⟩
    · have busy := settled.ignored alive e (by rw [old]; simp) (by rw [fatal]; simp)
      have going : ¬ Final err rest := fun final => busy ((settled.decided before e rest err old fatal).mp final)
      constructor
      · intro final
        exact absurd final (not_final_append going reply)
      · intro idle
        exact absurd idle busy
    · exact decided first e after err late fatal
  · intro alive' e member fatal
    rw [log,List.mem_append] at member
    rcases member with old | late
    · exact settled.ignored alive e old fatal
    · exact ignored alive' e late fatal

theorem goaway_code (conn : Conn) (err : H2Error) (ok : Bool) :
    (Event.sent (h2SendGoaway conn err) ok).goaway = some (octets 4 err.code) := by
  rw [Event.goaway,h2SendGoaway,if_pos rfl,List.drop_left' (octets_length 4 _)]

theorem turned_settled {s s' : Server} (turned : Turned s s') (alive : s.halted = false) (settled : Settled s) :
    Settled s' := by
  cases turned with
  | passed new log fatal reply =>
    refine settled.extend alive log reply ?_ ?_
    · rintro before e after err rfl rejected
      rw [fatal e (by simp)] at rejected
      contradiction
    · intro _ e member rejected
      exact absurd (fatal e member) rejected
  | ended e err conn ok log fatal serving halted =>
    refine settled.extend alive log (fun _ => ⟨e,by simp,fatal_received fatal⟩) ?_ ?_
    · intro before e' after err' split rejected
      cases before with
      | nil =>
        obtain ⟨rfl,rfl⟩ := List.cons.inj split
        rw [fatal] at rejected
        cases rejected
        have final : Final err [.sent (h2SendGoaway conn err) ok] :=
          ⟨⟨_,List.mem_singleton.mpr rfl,goaway_code conn err ok⟩,by simp [Event.received]⟩
        exact ⟨fun _ => serving,fun _ => final⟩
      | cons first before =>
        -- The other event is GOAWAY, which is not rejected.
        have member : e' ∈ [Event.sent (h2SendGoaway conn err) ok] := by
          rw [(List.cons.inj split).2]
          simp
        rw [List.mem_singleton.mp member] at rejected
        cases rejected
    · rw [halted]
      rintro ⟨⟩
  | ignored before e after log plain received serving =>
    have silent : ∀ e' ∈ before ++ e :: after, e'.goaway = none := by
      intro e' member
      rcases List.mem_append.mp member with old | new
      · exact (plain e' (List.mem_append_left _ old)).goaway
      · rcases List.mem_cons.mp new with rfl | later
        · cases e' <;> first | rfl | cases received
        · exact (plain e' (List.mem_append_right _ later)).goaway
    have busy : ∀ e' ∈ before ++ e :: after, e'.fatal ≠ none → e'.serving ≠ [] := by
      intro e' member rejected
      obtain ⟨err,fatal⟩ := Option.ne_none_iff_exists'.mp rejected
      have heard := fatal_received fatal
      by_cases own : e' = e
      · rw [own]
        exact serving
      · have other : e' ∈ before ++ after := by simpa [own] using member
        rw [(plain e' other).received] at heard
        contradiction
    refine settled.extend alive log (fun _ => ⟨e,by simp,received⟩) ?_ (fun _ => busy)
    intro first e' rest err split rejected
    have there : e' ∈ before ++ e :: after := by rw [split]; simp
    constructor
    · rintro ⟨⟨g,member,goaway⟩,_⟩
      rw [silent g (by rw [split]; simp [member])] at goaway
      contradiction
    · intro idle
      exact absurd idle (busy e' there (by rw [rejected]; simp))

theorem enter_settled (e : Entry) : Settled (h2ConnectionLoop e) := by
  have quiet : ∀ event ∈ (h2ConnectionLoop e).log, event.fatal = none := by
    intro event member
    rcases (enter_entered e).log with none | ⟨ok,settings⟩
    · rw [none] at member
      simp at member
    · rw [settings,List.mem_singleton] at member
      rw [member]
      rfl
  constructor
  · intro before event after err split fatal
    rw [quiet event (by rw [split]; simp)] at fatal
    contradiction
  · intro _ event member fatal
    exact absurd (quiet event member) fatal

theorem run_settled (files : List EmbeddedFile) (e : Entry) (n : Nat) : Settled (run files (h2ConnectionLoop e) n) := by
  induction n with
  | zero => exact enter_settled e
  | succ n ih =>
    rw [run,Function.iterate_succ_apply']
    by_cases alive : (run files (h2ConnectionLoop e) n).halted = false
    · exact turned_settled (step_turned files alive) alive ih
    · have still : (run files (h2ConnectionLoop e) n).step files = run files (h2ConnectionLoop e) n := by
        rw [Server.step,if_pos (by simpa using alive)]
      rw [← run,still]
      exact ih

/-- In every run, what follows a frame rejected with a connection error is final, that
    is GOAWAY with the error is sent and no frame is received any more, exactly if no
    request was being served when the frame was read. -/
theorem connection_errors_final (files : List EmbeddedFile) (e : Entry) (n : Nat) {before after : List Event}
    {event : Event}
    {err : H2Error} (split : (run files (h2ConnectionLoop e) n).log = before ++ event :: after)
    (fatal : event.fatal = some err) : Final err after ↔ event.serving = [] :=
  (run_settled files e n).decided before event after err split fatal

/-- A PING frame of one octet. -/
def shortPing : List UInt8 := (OutFrame.mk framePing 0 0 [0]).encode

theorem connection_errors_final_ping :
    Final .frameSizeError ((run welcomeSite (h2ConnectionLoop (.client shortPing)) 2).log.drop 2) :=
  (connection_errors_final welcomeSite (.client shortPing) 2 (split_at (k := 1) (by decide +kernel))
    (by decide +kernel)).mpr
    (by decide +kernel)

/-- While a request waits for credit, the header of a frame that is too long, and what
    would be its payload: the octets of a PING frame. -/
def longFrame : List UInt8 := noCredit.encode ++ (getIndex 1).encode ++ octets 3 (defaultMaxFrameSize + 1) ++
  [0,0,0,0,0,1] ++ (OutFrame.mk framePing 0 0 (octets 8 0)).encode

/-- The response is given up and the payload is read as frames. -/
theorem longFrame_read_on :
    ∃ before event after, (run welcomeSite (h2ConnectionLoop (.client longFrame)) 4).log =
      before ++ event :: after ∧
    event.fatal = some .frameSizeError ∧ ¬ Final .frameSizeError after :=
  ⟨_,_,_,split_at (k := 7) (by decide +kernel),by decide +kernel,by decide +kernel⟩

end Sarm.H2
