import Sarm.Attended

/-!
What is done with a frame once it has been read. A step that hands a frame to its
handler comes to `inHand` first; `receive` is the rest of it, for both loops. At the
end of a step every complete request is being served.
-/
namespace Sarm.H2
open Sarm.Memory Sarm.Trace

/-! ### The frame of a step -/

/-- The server with a frame it has read, before the handler has it. -/
structure InHand where
  server : Server
  hdr : FrameHeader
  payload : Mem

/-- The frame of a turn of the frame loop. -/
def Server.loopFrame (s : Server) : Option InHand :=
  match s.fill wireHeaderLen with
  | (_,false) => none
  | (s,true) =>
    let hdr := h2ParseFrameHeader (shift s.buf s.cursor)
    let s := s.consume wireHeaderLen
    match h2ValidateFrame hdr s.core.conn with
    | .error _ => none
    | .ok () => match s.fill hdr.length with
      | (_,false) => none
      | (s,true) => some ⟨s,hdr,shift s.buf s.cursor⟩

/-- The frame that the body writer reads. -/
def Server.waitedFrame (s : Server) : Option InHand :=
  match s.waitRead wireHeaderLen with
  | (_,false) => none
  | (s,true) =>
    let hdr := h2ParseFrameHeader s.waitBuf
    match h2ValidateFrame hdr s.core.conn with
    | .error _ => none
    | .ok () => match s.waitRead hdr.length with
      | (_,false) => none
      | (s,true) => some ⟨s,hdr,s.waitBuf⟩

/-- The body writer as it starts to read. -/
def Server.waits (s : Server) (serve : Serve) : Option Server :=
  if chunkLength s.core serve = 0 ∧ serve.body ≠ [] then
    match serve.staged with
    | none => some (s.emit (.waiting s.count))
    | some block => match s.send (serve.headers block) with
      | (_,false) => none
      | (s,true) =>
        let s := s.setTop none serve.body
        some (s.emit (.waiting s.count))
  else none

/-- The frame that the next step hands to its handler. -/
def Server.inHand (s : Server) : Option InHand :=
  if s.halted then none
  else match s.stack with
    | [] => s.loopFrame
    | serve :: _ => (s.waits serve).bind Server.waitedFrame

/-- The frame loop goes past the payload. -/
def Server.past (s : Server) (hdr : FrameHeader) : Server :=
  match s.stack with
  | [] => s.consume hdr.length
  | _ :: _ => s

/-- What the two loops do about a frame that its handler rejects. -/
def Server.rejects (s : Server) (streamId : Nat) (e : H2Error) : Server :=
  match s.stack with
  | [] => if e.isStream then if streamId = 0 then s.close else s.reset streamId e else (s.goaway e).close
  | _ :: _ =>
    if e.isStream then if streamId = 0 then s else s.reset streamId e
    else if carrySet e then s.abort
    else s.finish

/-- The rest of a step that has a frame in hand. -/
def Server.receive (files : List EmbeddedFile) (s : Server) (hdr : FrameHeader) (payload : Mem) : Server :=
  match s.dispatch hdr payload with
  | (s,none) => (s.past hdr).hook files hdr.streamId
  | (s,some e) => (s.past hdr).rejects hdr.streamId e

/-! ### Steps with a frame -/

theorem past_idle {s : Server} (idle : s.stack = []) (hdr : FrameHeader) : s.past hdr = s.consume hdr.length := by
  rw [Server.past,idle]

theorem past_busy {s : Server} (busy : s.stack ≠ []) (hdr : FrameHeader) : s.past hdr = s := by
  rw [Server.past]
  split
  · next idle => exact absurd idle busy
  · rfl

/-- Nothing but the frame loop's buffer is touched on the way past a frame. -/
theorem past_same (s : Server) (hdr : FrameHeader) : (s.past hdr).core = s.core ∧ (s.past hdr).stack = s.stack ∧
    (s.past hdr).halted = s.halted ∧ (s.past hdr).log = s.log ∧ (s.past hdr).transport = s.transport := by
  rw [Server.past]
  split <;> exact ⟨rfl,rfl,rfl,rfl,rfl⟩

theorem dispatch_stack (s : Server) (hdr : FrameHeader) (payload : Mem) : (s.dispatch hdr payload).1.stack = s.stack := by
  rw [dispatch_eq]
  exact sendAll_stack _ _

theorem receive_idle (files : List EmbeddedFile) {s : Server} (idle : s.stack = []) (hdr : FrameHeader) (payload : Mem) :
    s.receive files hdr payload = match s.dispatch hdr payload with
      | (s,none) => (s.consume hdr.length).hook files hdr.streamId
      | (s,some e) =>
        let s := s.consume hdr.length
        if e.isStream then if hdr.streamId = 0 then s.close else s.reset hdr.streamId e
        else (s.goaway e).close := by
  have kept := (dispatch_stack s hdr payload).trans idle
  rw [Server.receive]
  split
  · next s' done => rw [done] at kept; rw [past_idle kept]
  · next s' e failed =>
    rw [failed] at kept
    have behind : (s'.consume hdr.length).stack = [] := kept
    rw [past_idle kept,Server.rejects,behind]

theorem receive_busy (files : List EmbeddedFile) {s : Server} (busy : s.stack ≠ []) (hdr : FrameHeader) (payload : Mem) :
    s.receive files hdr payload = match s.dispatch hdr payload with
      | (s,none) => s.hook files hdr.streamId
      | (s,some e) =>
        if e.isStream then if hdr.streamId = 0 then s else s.reset hdr.streamId e
        else if carrySet e then s.abort
        else s.finish := by
  have kept := dispatch_stack s hdr payload
  rw [Server.receive]
  split
  · next s' done =>
    rw [done] at kept
    rw [past_busy (by rw [show s'.stack = s.stack from kept]; exact busy)]
  · next s' e failed =>
    rw [failed] at kept
    have still : s'.stack ≠ [] := by rw [show s'.stack = s.stack from kept]; exact busy
    rw [past_busy still,Server.rejects]
    split
    · next idle => exact absurd idle still
    · rfl

/-- A frame in hand, and the server that has it. -/
structure InHand.Of (s : Server) (h : InHand) : Prop where
  core : h.server.core = s.core
  held : h.server.held = s.held
  alive : h.server.halted = false
  small : h.hdr.streamId < 2^31
  received : s.log <+: h.server.log

theorem InHand.Of.idle {s : Server} {h : InHand} (of : h.Of s) : h.server.stack = [] ↔ s.stack = [] := by
  have same : h.server.stack.length = s.stack.length := by rw [← held_length,of.held,held_length]
  rw [← List.length_eq_zero_iff,same,List.length_eq_zero_iff]

theorem loopFrame_of {s : Server} {h : InHand} (alive : s.halted = false) (found : s.loopFrame = some h) : h.Of s := by
  rw [Server.loopFrame] at found
  split at found
  · contradiction
  next s1 header =>
  have filled := fill_filled header
  dsimp only at found
  split at found
  · contradiction
  split at found
  · contradiction
  next s3 payload =>
  have filled3 := fill_filled payload
  cases found
  have stack : s3.stack = s.stack := filled3.stack.trans filled.stack
  refine ⟨filled3.core.trans filled.core,held_congr stack,?_,parse_streamId_lt _,?_⟩
  · exact (filled3.halted.trans filled.halted).trans alive
  · exact (filled3.log.trans filled.log) ▸ List.prefix_rfl

theorem waitedFrame_of {s : Server} {h : InHand} (alive : s.halted = false) (found : s.waitedFrame = some h) :
    h.Of s := by
  rw [Server.waitedFrame] at found
  split at found
  · contradiction
  next s1 header =>
  obtain ⟨core1,stack1,log1,halted1⟩ := waitRead_same header
  dsimp only at found
  split at found
  · contradiction
  split at found
  · contradiction
  next s2 payload =>
  obtain ⟨core2,stack2,log2,halted2⟩ := waitRead_same payload
  cases found
  refine ⟨core2.trans core1,held_congr (stack2.trans stack1),?_,parse_streamId_lt _,?_⟩
  · exact (halted2.trans halted1).trans alive
  · exact (log2.trans log1) ▸ List.prefix_rfl

theorem waits_of {s s' : Server} {serve : Serve} (waits : s.waits serve = some s') :
    s'.core = s.core ∧ s'.held = s.held ∧ s'.halted = s.halted ∧ s.log <+: s'.log := by
  rw [Server.waits] at waits
  split at waits
  swap
  · contradiction
  split at waits
  · cases waits
    exact ⟨rfl,rfl,rfl,List.prefix_append _ _⟩
  · next block staged =>
    split at waits
    · contradiction
    next s1 sent =>
    cases waits
    have first : s1 = (s.send (serve.headers block)).1 := by rw [sent]
    refine ⟨?_,?_,?_,?_⟩
    · show (s1.setTop none serve.body).core = s.core
      rw [setTop_core,first,send_core]
    · show (s1.setTop none serve.body).held = s.held
      rw [Server.held,setTop_served,first,send_stack]
      rfl
    · show (s1.setTop none serve.body).halted = s.halted
      rw [setTop_halted,first,send_halted]
    · show s.log <+: (s1.setTop none serve.body).log ++ _
      rw [setTop_log,first,send_log,List.append_assoc]
      exact List.prefix_append _ _

theorem inHand_of {s : Server} {h : InHand} (found : s.inHand = some h) : h.Of s := by
  rw [Server.inHand] at found
  split at found
  · contradiction
  next alive =>
  rw [Bool.not_eq_true] at alive
  split at found
  · exact loopFrame_of alive found
  · next serve rest stack =>
    obtain ⟨s',waits,frame⟩ := Option.bind_eq_some_iff.mp found
    obtain ⟨core,held,halted,log⟩ := waits_of waits
    have of := waitedFrame_of (halted.trans alive) frame
    exact ⟨of.core.trans core,of.held.trans held,of.alive,of.small,log.trans of.received⟩

theorem loopFrame_turn (files : List EmbeddedFile) {s : Server} {h : InHand} (idle : s.stack = [])
    (found : s.loopFrame = some h) : s.connectionTurn files = h.server.receive files h.hdr h.payload := by
  rw [Server.loopFrame] at found
  rw [Server.connectionTurn]
  generalize header : s.fill wireHeaderLen = filled at found ⊢
  obtain ⟨s1,_ | _⟩ := filled
  · contradiction
  have stack1 := (fill_filled header).stack
  dsimp only at found ⊢
  generalize h2ValidateFrame (h2ParseFrameHeader (shift s1.buf s1.cursor)) (s1.consume wireHeaderLen).core.conn =
    valid at found ⊢
  cases valid with
  | error e => contradiction
  | ok _ =>
  dsimp only at found ⊢
  generalize payload : (s1.consume wireHeaderLen).fill (h2ParseFrameHeader (shift s1.buf s1.cursor)).length =
    filled at found ⊢
  obtain ⟨s3,_ | _⟩ := filled
  · contradiction
  have stack3 : s3.stack = [] := (fill_filled payload).stack.trans (stack1.trans idle)
  cases found
  dsimp only
  refine Eq.trans ?_ (receive_idle files stack3 _ _).symm
  generalize s3.dispatch _ _ = dispatched
  obtain ⟨s4,_ | e⟩ := dispatched <;> rfl

theorem waitedFrame_turn (files : List EmbeddedFile) {s : Server} {h : InHand} (busy : s.stack ≠ [])
    (found : s.waitedFrame = some h) : Server.waitFrame files s = h.server.receive files h.hdr h.payload := by
  rw [Server.waitedFrame] at found
  rw [Server.waitFrame]
  generalize header : s.waitRead wireHeaderLen = read at found ⊢
  obtain ⟨s1,_ | _⟩ := read
  · contradiction
  have stack1 := (waitRead_same header).2.1
  dsimp only at found ⊢
  generalize h2ValidateFrame (h2ParseFrameHeader s1.waitBuf) s1.core.conn = valid at found ⊢
  cases valid with
  | error e => contradiction
  | ok _ =>
  dsimp only at found ⊢
  generalize payload : s1.waitRead (h2ParseFrameHeader s1.waitBuf).length = read at found ⊢
  obtain ⟨s2,_ | _⟩ := read
  · contradiction
  have stack2 : s2.stack ≠ [] := by
    rw [(waitRead_same payload).2.1,stack1]
    exact busy
  cases found
  dsimp only
  refine Eq.trans ?_ (receive_busy files stack2 _ _).symm
  generalize s2.dispatch _ _ = dispatched
  obtain ⟨s4,_ | e⟩ := dispatched <;> rfl

theorem waits_turn (files : List EmbeddedFile) {s s' : Server} {serve : Serve} {h : InHand} (busy : s'.stack ≠ [])
    (waits : s.waits serve = some s') (frame : s'.waitedFrame = some h) :
    s.bodyTurn files serve = h.server.receive files h.hdr h.payload := by
  rw [Server.waits] at waits
  rw [Server.bodyTurn]
  by_cases out : chunkLength s.core serve = 0 ∧ serve.body ≠ []
  swap
  · rw [if_neg out] at waits
    contradiction
  rw [if_pos out] at waits
  rw [if_pos out,Server.waitTurn]
  cases staged : serve.staged with
  | none =>
    rw [staged] at waits
    cases waits
    exact waitedFrame_turn files busy frame
  | some block =>
    rw [staged] at waits
    dsimp only at waits ⊢
    generalize s.send (serve.headers block) = sent at waits ⊢
    obtain ⟨s1,_ | _⟩ := sent
    · contradiction
    · cases waits
      exact waitedFrame_turn files busy frame

/-- A step that has a frame in hand goes on with it. -/
theorem step_inHand (files : List EmbeddedFile) {s : Server} {h : InHand} (found : s.inHand = some h) :
    s.step files = h.server.receive files h.hdr h.payload := by
  rw [Server.inHand] at found
  rw [Server.step]
  by_cases halted : s.halted
  · rw [if_pos halted] at found
    contradiction
  rw [if_neg halted] at found ⊢
  cases stack : s.stack with
  | nil =>
    rw [stack] at found
    exact loopFrame_turn files stack found
  | cons serve rest =>
    rw [stack] at found
    obtain ⟨s',waits,frame⟩ := Option.bind_eq_some_iff.mp found
    have held := (waits_of waits).2.1
    have busy : s'.stack ≠ [] := by
      intro none
      have lengths : s'.stack.length = s.stack.length := by rw [← held_length,held,held_length]
      rw [none,stack] at lengths
      cases lengths
    show s.bodyTurn files serve = _
    exact waits_turn files busy waits frame

/-! ### Steps without one -/

theorem writeHeaders_core (s : Server) (r : Response) (streamId extra : Nat) :
    (s.writeHeaders r streamId extra).1.core = s.core := by
  rw [Server.writeHeaders]
  split
  · rfl
  · exact send_core _ _

theorem close_core (s : Server) : s.close.core = s.core := rfl

theorem goaway_core (s : Server) (e : H2Error) : (s.goaway e).core = s.core := send_core _ _

section
variable {P : Core → Prop}

theorem connectionTurn_rule (files : List EmbeddedFile) {s : Server} (nothing : s.loopFrame = none) (holds : P s.core) :
    P (s.connectionTurn files).core := by
  rw [Server.loopFrame] at nothing
  rw [Server.connectionTurn]
  split
  · next s1 short =>
    rw [close_core,(fill_filled short).core]
    exact holds
  next s1 header =>
  have core1 := (fill_filled header).core
  rw [header] at nothing
  dsimp only at nothing ⊢
  split
  · next e invalid =>
    rw [close_core,goaway_core]
    show P s1.core
    rw [core1]
    exact holds
  next valid =>
  split
  · next s3 short =>
    rw [close_core,(fill_filled short).core]
    show P s1.core
    rw [core1]
    exact holds
  · next s3 payload =>
    rw [valid] at nothing
    dsimp only at nothing
    rw [payload] at nothing
    cases nothing

variable (closes : ∀ c slot streamId, P c → P { c with table := c.table.closeServed slot streamId })
include closes

theorem finish_rule {s : Server} (holds : P s.core) : P s.finish.core := by
  rw [Server.finish]
  split
  · exact holds
  · exact closes _ _ _ holds

theorem abort_rule {s : Server} (holds : P s.core) : P s.abort.core := by
  rw [Server.abort]
  split
  · exact holds
  · refine finish_rule closes ?_
    rw [Server.replyStatus,writeHeaders_core]
    exact holds

theorem respond_rule {s : Server} (streamId : Nat) (a : Answer) (holds : P s.core) : P (s.respond streamId a).core := by
  cases a with
  | status code =>
    refine finish_rule closes ?_
    rw [Server.replyStatus,writeHeaders_core]
    exact holds
  | headers r =>
    have written := writeHeaders_core s r streamId flagEndStream
    rw [Server.respond]
    split
    · next s' done => rw [done] at written; exact finish_rule closes (by rw [written]; exact holds)
    · next s' failed => rw [failed] at written; exact abort_rule closes (by rw [written]; exact holds)
  | body r =>
    rw [Server.respond]
    split
    · exact abort_rule closes holds
    next f made =>
    split
    · rw [setTop_core]
      exact holds
    · have sent := send_core s f
      split
      · next s' done => rw [done] at sent; rw [setTop_core,sent]; exact holds
      · next s' failed => rw [failed] at sent; exact abort_rule closes (by rw [sent]; exact holds)

theorem waitFrame_rule (files : List EmbeddedFile) {s : Server} (nothing : s.waitedFrame = none) (holds : P s.core) :
    P (Server.waitFrame files s).core := by
  rw [Server.waitedFrame] at nothing
  rw [Server.waitFrame]
  have lost : ∀ {s1 : Server}, s1.core = s.core → P (s1.waitLost s.transport).abort.core :=
    fun core => abort_rule closes (by rw [show (Server.waitLost _ s.transport).core = _ from core]; exact holds)
  split
  · next s1 failed => exact lost (waitRead_same failed).1
  next s1 header =>
  have core1 := (waitRead_same header).1
  rw [header] at nothing
  dsimp only at nothing ⊢
  split
  · exact abort_rule closes (by rw [show (Server.emit s1 _).core = s.core from core1]; exact holds)
  next valid =>
  split
  · next s2 failed => exact lost ((waitRead_same failed).1.trans core1)
  · next s2 payload =>
    rw [valid] at nothing
    dsimp only at nothing
    rw [payload] at nothing
    cases nothing

variable (charges : ∀ c slot n, P c → P (c.charge slot n))
include charges

theorem sendChunk_rule {s : Server} (serve : Serve) (chunk : Nat) (holds : P s.core) :
    P (s.sendChunk serve chunk).core := by
  rw [Server.sendChunk]
  dsimp only
  split
  · exact abort_rule closes holds
  · next t done =>
    have sent : P ((Server.emitStaged { s with transport := t } serve).emitChunk serve chunk).core := by
      refine charges _ _ _ ?_
      rw [(emitStaged_same _ serve).1]
      exact holds
    split
    · exact finish_rule closes sent
    · rw [setTop_core]
      exact sent

/-- A step that reads no frame whole, or none at all, ends responses and charges windows. -/
theorem step_rule (files : List EmbeddedFile) {s : Server} (nothing : s.inHand = none) (holds : P s.core) :
    P (s.step files).core := by
  rw [Server.inHand] at nothing
  rw [Server.step]
  split
  · exact holds
  next alive =>
  rw [if_neg alive] at nothing
  split
  · next idle =>
    rw [idle] at nothing
    exact connectionTurn_rule files nothing holds
  next serve rest stack =>
  rw [stack] at nothing
  dsimp only at nothing
  rw [Server.bodyTurn]
  rw [Server.waits] at nothing
  split
  swap
  · exact sendChunk_rule closes charges _ _ holds
  next out =>
  rw [if_pos out] at nothing
  rw [Server.waitTurn]
  split
  · next staged =>
    rw [staged] at nothing
    exact waitFrame_rule closes files (s := s.emit (.waiting s.count)) nothing holds
  next block staged =>
  rw [staged] at nothing
  dsimp only at nothing
  have sent := send_core s (serve.headers block)
  split
  · next s1 failed => rw [failed] at sent; exact abort_rule closes (by rw [sent]; exact holds)
  · next s1 done =>
    rw [done] at nothing sent
    refine waitFrame_rule closes files (s := (s1.setTop none serve.body).emit _) nothing ?_
    show P (s1.setTop none serve.body).core
    rw [setTop_core,sent]
    exact holds

end

/-! ### Complete requests at the end of a step -/

theorem closeServed_attended {c : Core} {id : Nat} (slot streamId : Nat) (attended : c.Attended id) :
    Core.Attended { c with table := c.table.closeServed slot streamId } id := by
  rw [Table.closeServed]
  split
  swap
  · exact attended
  intro i inside
  by_cases here : i = slot
  · subst here
    simp
  · simpa [here] using attended i inside

theorem charge_attended {c : Core} {id : Nat} (slot n : Nat) (attended : c.Attended id) :
    (c.charge slot n).Attended id := by
  intro i inside
  have same := (charge_same c slot n).streams i
  rw [show (c.charge slot n).table.ids = c.table.ids from (charge_same c slot n).ids,same]
  exact attended i inside

/-- The hook serves the request that a frame has completed. -/
theorem hook_attended (files : List EmbeddedFile) {s : Server} {streamId : Nat} (formed : Formed s)
    (attended : s.core.Attended streamId) : (s.hook files streamId).core.Attended 0 := by
  have rest : ∀ slot, h2StreamFind s.core.table streamId = some slot → ∀ i < maxStreams, i ≠ slot →
      s.core.table.ids i ≠ streamId ∨ streamId = 0 := by
    intro slot found i inside apart
    obtain ⟨there,own,_⟩ := find_some found
    by_cases zero : streamId = 0
    · exact .inr zero
    · left
      intro same
      exact apart (formed.core.distinct i inside slot there (by rw [same]; exact zero) (same.trans own.symm))
  rw [Server.hook]
  split
  · next zero => rw [zero] at attended; exact attended
  next proper =>
  split
  · next missing =>
    intro i inside
    obtain ⟨complete,served⟩ := attended i inside
    refine ⟨fun half => .inl ((complete half).resolve_right ?_),served⟩
    intro same
    have bounded := formed.core.bounded i inside
    have small := formed.core.small
    exact find_none missing (by omega) i inside same
  next slot found =>
  obtain ⟨there,own,_⟩ := find_some found
  split
  · next ready =>
    refine respond_rule (P := fun c => c.Attended 0) (fun c slot id => closeServed_attended slot id) streamId _ ?_
    intro i inside
    obtain ⟨complete,served⟩ := attended i inside
    by_cases here : i = slot
    · subst here
      simp [Server.push,Server.emit,Table.setServing,Table.modify,ready.1]
    · simp only [Server.push,Server.emit,Table.setServing,Table.modify,store_other _ _ here]
      refine ⟨fun half => .inl ((complete half).resolve_right ?_),served⟩
      exact (rest slot found i inside here).resolve_right proper
  · next idle =>
    intro i inside
    obtain ⟨complete,served⟩ := attended i inside
    refine ⟨fun half => .inl ?_,served⟩
    by_cases here : i = slot
    · subst here
      by_contra unserved
      exact idle ⟨half,by simpa using unserved⟩
    · exact (complete half).resolve_right ((rest slot found i inside here).resolve_right proper)

theorem rejects_rule {P : Core → Prop}
    (closes : ∀ c slot streamId, P c → P { c with table := c.table.closeServed slot streamId })
    {s : Server} (streamId : Nat) (e : H2Error) (holds : P s.core) : P (s.rejects streamId e).core := by
  have reset : P (s.reset streamId e).core := by
    rw [Server.reset,send_core]
    exact holds
  rw [Server.rejects]
  split
  · split
    · split
      · exact holds
      · exact reset
    · show P (s.goaway e).core
      rw [Server.goaway,send_core]
      exact holds
  · split
    · split
      · exact holds
      · exact reset
    split
    · exact abort_rule closes holds
    · exact finish_rule closes holds

theorem handled_formed {s : Server} (formed : Formed s) {hdr : FrameHeader} (small : hdr.streamId < 2^31)
    (payload : Mem) :
    Formed (s.handled hdr payload) := ⟨dispatch_formed formed.core small payload,formed.stack⟩

theorem receive_attended (files : List EmbeddedFile) {s : Server} {hdr : FrameHeader} (formed : Formed s)
    (small : hdr.streamId < 2^31) (payload : Mem) (attended : s.core.Attended 0) :
    (s.receive files hdr payload).core.Attended 0 := by
  have handled := handled_formed formed small payload
  rw [Server.receive,dispatch_eq]
  split
  · next s' done =>
    obtain ⟨rfl,_⟩ := Prod.mk.inj done
    obtain ⟨core,stack,_,_,_⟩ :=
      past_same ((s.handled hdr payload).sendAll (h2DispatchFrame s.core hdr payload).replies) hdr
    rw [sendAll_core] at core
    rw [sendAll_stack] at stack
    refine hook_attended files (handled.same core (held_congr stack)) ?_
    rw [core]
    exact dispatch_attended formed.core small payload attended
  · next s' e failed =>
    obtain ⟨rfl,error⟩ := Prod.mk.inj failed
    refine rejects_rule (P := fun c => c.Attended 0) (fun c slot id => closeServed_attended slot id) _ _ ?_
    rw [(past_same _ hdr).1,sendAll_core]
    exact dispatch_failed_attended formed.core small attended (by rw [error]; simp)

theorem step_attended (files : List EmbeddedFile) {s : Server} (formed : Formed s) (attended : s.core.Attended 0) :
    (s.step files).core.Attended 0 := by
  cases found : s.inHand with
  | none =>
    exact step_rule (P := fun c => c.Attended 0) (fun c slot id => closeServed_attended slot id)
      (fun c slot n => charge_attended slot n) files found attended
  | some h =>
    have of := inHand_of found
    rw [step_inHand files found]
    refine receive_attended files (formed.same of.core of.held) of.small _ ?_
    rw [of.core]
    exact attended

theorem reset_attended (c : Core) : c.reset.Attended 0 := fun _ _ => ⟨by rintro ⟨⟩,by rintro ⟨⟩⟩

/-- In every run, a request that is complete at the end of a step is being served, and what is
    being served is complete or over. -/
theorem run_attended (files : List EmbeddedFile) (e : Entry) (n : Nat) :
    (run files (h2ConnectionLoop e) n).core.Attended 0 := by
  induction n with
  | zero =>
    show (h2ConnectionLoop e).core.Attended 0
    rw [(enter_entered e).core]
    exact reset_attended _
  | succ n ih =>
    rw [run,Function.iterate_succ_apply']
    exact step_attended files (run_formed files e n) ih

end Sarm.H2
