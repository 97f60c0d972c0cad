import Sarm.Nesting

/-!
Streams and their responses: DATA frames are charged to the window of their own
stream, and nothing is sent on a stream after its reset. Both hold as long as an
RST_STREAM frame read while a request is served is for another stream, and is
accepted or of no consequence.
-/
namespace Sarm.H2
open Sarm.Memory Sarm.Trace

/-! ### The window a DATA frame is charged to -/

/-- The send window of a stream. -/
def Core.windowOf (c : Core) (id : Nat) : Option (BitVec 64) :=
  (h2StreamFind c.table id).map fun slot => (c.table.streams slot).window

/-- A DATA frame is charged to the window of its stream and to no other. -/
structure Charged (before after : Core) (f : OutFrame) : Prop where
  own : ∃ window, before.windowOf f.streamId = some window ∧
    after.windowOf f.streamId = some (window - BitVec.ofNat 64 f.payload.length)
  others : ∀ id ≠ f.streamId, after.windowOf id = before.windowOf id

theorem charge_charged {c : Core} {id slot : Nat} {f : OutFrame} (formed : c.WellFormed) (holds : c.Holds (id,slot))
    (stream : f.streamId = id) : Charged c (c.charge slot f.payload.length) f := by
  have same : ∀ other, h2StreamFind (c.charge slot f.payload.length).table other = h2StreamFind c.table other :=
    fun other => find_congr rfl other
  constructor
  · have found : h2StreamFind c.table f.streamId = some slot := by
      rw [stream]
      exact holds.find formed
    refine ⟨(c.table.streams slot).window,?_,?_⟩
    · rw [Core.windowOf,found]
      rfl
    · rw [Core.windowOf,same,found]
      simp [Core.charge,Table.modify]
  · intro other different
    rw [Core.windowOf,Core.windowOf,same]
    cases found : h2StreamFind c.table other with
    | none => rfl
    | some i =>
      have apart : i ≠ slot := by
        rintro rfl
        exact different ((find_some found).2.1.symm.trans (holds.id.trans stream.symm))
      simp [Core.charge,Table.modify,apart]

/-! ### Streams of the past -/

/-- No request will be served on a stream any more: it is not one of the client's, or
    it is no newer than the newest and its entry, if it has one, is closed. -/
def Core.Past (c : Core) (id : Nat) : Prop :=
  id % 2 = 0 ∨ (id ≤ c.conn.lastStreamId ∧ ∀ i < maxStreams, c.table.ids i = id → (c.table.streams i).state = .closed)

instance (c : Core) (id : Nat) : Decidable (c.Past id) := inferInstanceAs (Decidable (_ ∨ _ ∧ _))

theorem closed_lasting : Lasting fun s => s.state = .closed :=
  ⟨fun _ closed => .inl closed,fun _ _ => rfl,fun _ _ closed => closed⟩

theorem modify_past {c : Core} {id slot : Nat} {f : Stream → Stream} (state : ∀ s, (f s).state = s.state)
    (past : c.Past id) :
    Core.Past { c with table := c.table.modify slot f } id := by
  rcases past with even | old
  · exact .inl even
  · exact .inr (modify_old (Q := fun s => s.state = .closed) (fun s closed => (state s).trans closed) old)

theorem dispatch_past {c : Core} {id : Nat} {hdr : FrameHeader} (formed : c.WellFormed) (small : hdr.streamId < 2^31)
    (payload : Mem) (past : c.Past id) : (h2DispatchFrame c hdr payload).core.Past id := by
  rcases past with even | old
  · exact .inl even
  · exact .inr (dispatch_old closed_lasting formed small payload old)

theorem charge_past {c : Core} {id slot n : Nat} (past : c.Past id) : (c.charge slot n).Past id :=
  modify_past (c := { c with conn := { c.conn with window := c.conn.window - n } }) (fun _ => rfl) past

/-- A stream a request is complete on is not of the past. -/
theorem Core.Past.incomplete {c : Core} {id slot : Nat} (past : c.Past id) (formed : c.WellFormed)
    (inside : slot < maxStreams)
    (proper : c.table.ids slot ≠ 0) (complete : (c.table.streams slot).state = .halfClosedRemote) :
    c.table.ids slot ≠ id := by
  intro own
  have odd := formed.odd slot inside proper
  rcases past with even | ⟨_,closed⟩
  · omega
  · rw [closed slot inside own] at complete
    contradiction

/-! ### RST_STREAM frames -/

/-- The handler accepts an RST_STREAM frame. -/
def Core.AcceptsReset (c : Core) (hdr : FrameHeader) : Prop :=
  hdr.length = 4 ∧ hdr.streamId % 2 = 1 ∧ ∃ slot ∈ h2StreamFind c.table hdr.streamId, (c.table.streams slot).state ≠ .idle

instance (c : Core) (hdr : FrameHeader) : Decidable (c.AcceptsReset hdr) :=
  inferInstanceAs (Decidable (_ ∧ _ ∧ ∃ slot ∈ h2StreamFind c.table hdr.streamId, (c.table.streams slot).state ≠ .idle))

/-- An accepted RST_STREAM frame closes the entry of its stream, another one is an
    error of the connection. -/
theorem rst_cases {c : Core} {hdr : FrameHeader} (payload : Mem) (type : hdr.type = frameRstStream) :
    (∃ slot, h2StreamFind c.table hdr.streamId = some slot ∧
        (h2DispatchFrame c hdr payload).core = { c.noted 3 with table := c.table.setState slot .closed }) ∨
      (¬ c.AcceptsReset hdr ∧ ∃ e, (h2DispatchFrame c hdr payload).error = some e ∧ e.isStream = false) := by
  have handler : h2DispatchFrame c hdr payload = h2HandleRstStream (c.noted 3) hdr payload := by
    rw [h2DispatchFrame,type]
    rfl
  rw [handler,h2HandleRstStream]
  split
  · next length => exact .inr ⟨fun accepts => length accepts.1,.frameSizeError,rfl,rfl⟩
  split
  · next improper =>
    refine .inr ⟨?_,.protocolError,rfl,rfl⟩
    rintro ⟨_,odd,_⟩
    omega
  split
  · next missing =>
    refine .inr ⟨?_,.protocolError,rfl,rfl⟩
    rintro ⟨_,_,slot,found,_⟩
    rw [show (c.noted 3).table = c.table from rfl] at missing
    rw [missing] at found
    contradiction
  next slot found =>
  rw [h2StreamEvent]
  cases before : (c.table.streams slot).state with
  | idle =>
    right
    have refused : transitions ((c.noted 3).table.streams slot).state .recvRstStream = none := by
      rw [show (c.noted 3).table = c.table from rfl,before]
      rfl
    rw [refused]
    refine ⟨?_,.protocolError,?_,rfl⟩
    · rintro ⟨_,_,other,there,busy⟩
      rw [show (c.noted 3).table = c.table from rfl] at found
      rw [found] at there
      cases there
      exact busy before
    · simp [Core.fails,show ((c.noted 3).table.streams slot).state = .idle from before]
  | _ =>
    left
    have next : transitions ((c.noted 3).table.streams slot).state .recvRstStream = some .closed := by
      rw [show (c.noted 3).table = c.table from rfl,before]
      rfl
    rw [next]
    exact ⟨slot,found,rfl⟩

/-- After its reset a stream is of the past. -/
theorem reset_past {c : Core} {hdr : FrameHeader} {slot : Nat} (formed : c.WellFormed)
    (found : h2StreamFind c.table hdr.streamId = some slot) :
    Core.Past { c.noted 3 with table := c.table.setState slot .closed } hdr.streamId := by
  obtain ⟨inside,own,_⟩ := find_some found
  rcases Nat.mod_two_eq_zero_or_one hdr.streamId with even | odd
  · exact .inl even
  · refine .inr ⟨?_,?_⟩
    · show hdr.streamId ≤ c.conn.lastStreamId
      rw [← own]
      exact formed.bounded slot inside
    · intro i insideI same
      have here : i = slot := by
        refine formed.distinct i insideI slot inside ?_ (same.trans own.symm)
        rw [show c.table.ids i = hdr.streamId from same]
        omega
      simp [Table.setState,here]

/-! ### Events -/

/-- The stream of an RST_STREAM frame received. -/
def Event.reset : Event → Option Nat
  | .frame _ _ hdr _ => if hdr.type = frameRstStream then some hdr.streamId else none
  | .refused _ _ hdr => if hdr.type = frameRstStream then some hdr.streamId else none
  | _ => none

/-- The stream of a HEADERS or DATA frame sent. -/
def Event.speaks : Event → Option Nat
  | .sent f _ => if f.type = frameHeaders then some f.streamId else none
  | .data _ _ f => some f.streamId
  | _ => none

/-- Nothing is sent on a stream that has been reset. -/
def Silent (before : List Event) (e : Event) : Prop := ∀ id ∈ e.speaks, some id ∉ before.map Event.reset

instance (before : List Event) (e : Event) : Decidable (Silent before e) :=
  inferInstanceAs (Decidable (∀ id ∈ e.speaks, some id ∉ before.map Event.reset))

/-- An RST_STREAM frame read while a request is served is for a stream that is not
    being served, and is accepted or of no consequence. -/
def Event.Harmless : Event → Prop
  | .frame before serving hdr _ => hdr.type = frameRstStream → serving ≠ [] →
      hdr.streamId ∉ serving ∧ (before.AcceptsReset hdr ∨ before.Past hdr.streamId)
  | .refused before serving hdr => hdr.type = frameRstStream → serving ≠ [] →
      hdr.streamId ∉ serving ∧ before.Past hdr.streamId
  | _ => True

instance : DecidablePred Event.Harmless
  | .frame before serving hdr _ => inferInstanceAs (Decidable (hdr.type = frameRstStream → serving ≠ [] →
      hdr.streamId ∉ serving ∧ (before.AcceptsReset hdr ∨ before.Past hdr.streamId)))
  | .refused before serving hdr => inferInstanceAs (Decidable (hdr.type = frameRstStream → serving ≠ [] →
      hdr.streamId ∉ serving ∧ before.Past hdr.streamId))
  | .waiting _ | .waitFailed _ _ | .sent _ _ | .data _ _ _ | .serve _ _ _ _ => isTrue trivial

theorem Event.Harmless.unserved {e : Event} (harmless : e.Harmless) : ¬ e.ResetsServed := by
  cases e with
  | frame before serving hdr payload =>
    rintro ⟨type,_,served⟩
    exact (harmless type (List.ne_nil_of_mem served)).1 served
  | _ => exact id

/-! ### Runs -/

/-- Nothing more is sent on a stream: it is of the past and not being served, or the
    connection is over. -/
def Server.Ended (s : Server) (id : Nat) : Prop := (s.core.Past id ∧ id ∉ s.serving) ∨ (s.halted = true ∧ s.stack = [])

/-- The stream being served innermost is not one that has ended. -/
theorem Server.Ended.unserved {s : Server} {id : Nat} (ended : s.Ended id) : id ∉ s.serving := by
  rcases ended with ⟨_,unserved⟩ | ⟨_,idle⟩
  · exact unserved
  · rw [Server.serving,idle]
    simp

theorem Server.Ended.same {s s' : Server} {id : Nat} (ended : s.Ended id) (core : s'.core = s.core)
    (stack : s'.stack = s.stack)
    (halted : s'.halted = s.halted) : s'.Ended id := by
  rw [Server.Ended,core,halted,stack,Server.serving,stack]
  exact ended

theorem ended_keeps {s s' : Server} {id : Nat} (act : Act s s') (formed : Formed s) (ended : s.Ended id) :
    s'.Ended id := by
  cases act with
  | moved core stack halted _ _ => exact ended.same core stack halted
  | sent core stack halted _ _ _ _ => exact ended.same core stack halted
  | @frame _ hdr payload _ core stack alive _ _ _ of _ =>
    rcases ended with ⟨past,unserved⟩ | ⟨halted,_⟩
    · left
      rw [core,Server.serving,stack]
      exact ⟨dispatch_past formed.core of.small payload past,unserved⟩
    · rw [alive] at halted
      contradiction
  | refused core stack halted still _ =>
    by_cases idle : s.stack = []
    · exact .inr ⟨halted idle,stack.trans idle⟩
    · exact ended.same core stack (still idle)
  | waiting _ => exact ended
  | waitFailed core stack halted _ _ _ => exact ended.same core stack halted
  | @serve streamId slot alive proper found complete _ =>
    rcases ended with ⟨past,unserved⟩ | ⟨halted,_⟩
    · left
      refine ⟨modify_past (fun _ => rfl) past,?_⟩
      obtain ⟨inside,own,_⟩ := find_some found
      intro member
      rcases List.mem_cons.mp member with rfl | outer
      · exact past.incomplete formed.core inside (by rw [own]; exact proper) complete own
      · exact unserved outer
    · rw [alive] at halted
      contradiction
  | top staged body =>
    rw [Server.setTop]
    split
    · exact ended
    · next serve rest stack =>
      rcases ended with ⟨past,unserved⟩ | ⟨_,idle⟩
      · refine .inl ⟨past,?_⟩
        rw [Server.serving,stack] at unserved
        exact unserved
      · rw [stack] at idle
        contradiction
  | @charged serve rest alive stack =>
    rcases ended with ⟨past,unserved⟩ | ⟨halted,_⟩
    · exact .inl ⟨charge_past past,unserved⟩
    · rw [alive] at halted
      contradiction
  | finish =>
    rw [Server.finish]
    split
    · exact ended
    · next serve rest stack =>
      rcases ended with ⟨past,unserved⟩ | ⟨_,idle⟩
      · rw [Server.serving,stack] at unserved
        refine .inl ⟨?_,fun member => unserved (List.mem_cons_of_mem _ member)⟩
        dsimp only
        rw [Table.closeServed]
        split
        · rcases past with even | ⟨last,closed⟩
          · exact .inl even
          · refine .inr ⟨last,?_⟩
            intro i inside own
            by_cases here : i = serve.slot
            · simp [here]
            · simpa [here] using closed i inside own
        · exact past
      · rw [stack] at idle
        contradiction
  | ends core stack idle _ halted => exact .inr ⟨halted,stack.trans idle⟩

/-- DATA frames are charged to their streams, and streams that have been reset have
    ended. -/
structure Quiet (s : Server) : Prop where
  nested : Nested s
  charged : ∀ before after f, .data before after f ∈ s.log → Charged before after f
  silent : Always Silent s.log
  ended : ∀ id, some id ∈ s.log.map Event.reset → s.Ended id

/-- Nothing is logged. -/
theorem Quiet.same {s s' : Server} (quiet : Quiet s) (act : Act s s') (nested : Nested s') (log : s'.log = s.log) :
    Quiet s' :=
  ⟨nested,by rw [log]; exact quiet.charged,by rw [log]; exact quiet.silent,
    fun id member => ended_keeps act quiet.nested.formed (quiet.ended id (by rw [← log]; exact member))⟩

/-- An event is logged. -/
theorem Quiet.event {s s' : Server} {e : Event} (quiet : Quiet s) (act : Act s s') (nested : Nested s')
    (log : s'.log = s.log ++ [e]) (charged : ∀ before after f, e = .data before after f → Charged before after f)
    (own : ∀ id ∈ e.speaks, id ∈ s.serving) (resets : ∀ id ∈ e.reset, s'.Ended id) : Quiet s' := by
  refine ⟨nested,?_,?_,?_⟩
  · intro before after f member
    rw [log,List.mem_append,List.mem_singleton] at member
    rcases member with old | new
    · exact quiet.charged before after f old
    · exact charged before after f new.symm
  · rw [log,always_snoc]
    refine ⟨quiet.silent,?_⟩
    intro id speaks reset
    exact (quiet.ended id reset).unserved (own id speaks)
  · intro id member
    rw [log,List.map_append,List.mem_append] at member
    rcases member with old | new
    · exact ended_keeps act quiet.nested.formed (quiet.ended id old)
    · exact resets id (by simpa [eq_comm] using new)

theorem quiet_keeps : acts.Keeps Event.Harmless Quiet := by
  intro s s' act meets quiet
  have nested : Nested s' := nested_keeps act (fun e member => (meets e member).unserved) quiet.nested
  have moves : Act s s' := act
  cases act with
  | moved _ _ _ log _ => exact quiet.same moves nested log
  | @sent _ f ok _ _ _ log _ _ own =>
    refine quiet.event moves nested log (by rintro _ _ _ ⟨⟩) ?_ (by rintro id ⟨⟩)
    intro id speaks
    by_cases headers : f.type = frameHeaders
    · simp only [Event.speaks,if_pos headers,Option.mem_def,Option.some.injEq] at speaks
      subst speaks
      exact List.mem_of_mem_head? (own headers)
    · simp [Event.speaks,headers] at speaks
  | @frame _ hdr payload _ core stack _ halted passed log of _ =>
    refine quiet.event moves nested log (by rintro _ _ _ ⟨⟩) (by rintro id ⟨⟩) ?_
    have harmless := (log ▸ meets : Meets Event.Harmless (s.log ++ [.frame s.core s.serving hdr payload])).append
    intro id reset
    by_cases type : hdr.type = frameRstStream
    · simp only [Event.reset,if_pos type,Option.mem_def,Option.some.injEq] at reset
      subst reset
      have serving : s'.serving = s.serving := by rw [Server.serving,stack]; rfl
      by_cases idle : s.stack = []
      · -- The frame loop ends with a frame it rejects.
        rcases rst_cases payload type with ⟨slot,found,reset⟩ | ⟨_,e,error,fatal⟩
        · left
          rw [core,reset,serving,Server.serving,idle]
          exact ⟨reset_past quiet.nested.formed.core found,by simp⟩
        · right
          refine ⟨?_,stack.trans idle⟩
          by_contra alive
          rw [passed (by simpa using alive) idle e error] at fatal
          contradiction
      · obtain ⟨unserved,accepts | past⟩ := harmless type (by rw [Server.serving]; simpa using idle)
        · rcases rst_cases payload type with ⟨slot,found,reset⟩ | ⟨rejects,_⟩
          · left
            rw [core,reset,serving]
            exact ⟨reset_past quiet.nested.formed.core found,unserved⟩
          · exact absurd accepts rejects
        · left
          rw [core,serving]
          exact ⟨dispatch_past quiet.nested.formed.core of.small payload past,unserved⟩
    · simp [Event.reset,type] at reset
  | @refused _ hdr core stack halted _ log =>
    refine quiet.event moves nested log (by rintro _ _ _ ⟨⟩) (by rintro id ⟨⟩) ?_
    have harmless := (log ▸ meets : Meets Event.Harmless (s.log ++ [.refused s.core s.serving hdr])).append
    intro id reset
    by_cases type : hdr.type = frameRstStream
    · simp only [Event.reset,if_pos type,Option.mem_def,Option.some.injEq] at reset
      subst reset
      by_cases idle : s.stack = []
      · exact .inr ⟨halted idle,stack.trans idle⟩
      · obtain ⟨unserved,past⟩ := harmless type (by rw [Server.serving]; simpa using idle)
        left
        rw [core,Server.serving,stack]
        exact ⟨past,unserved⟩
    · simp [Event.reset,type] at reset
  | waiting _ => exact quiet.event moves nested rfl (by rintro _ _ _ ⟨⟩) (by rintro id ⟨⟩) (by rintro id ⟨⟩)
  | waitFailed _ _ _ _ log _ =>
    exact quiet.event moves nested log (by rintro _ _ _ ⟨⟩) (by rintro id ⟨⟩) (by rintro id ⟨⟩)
  | serve _ _ _ _ _ => exact quiet.event moves nested rfl (by rintro _ _ _ ⟨⟩) (by rintro id ⟨⟩) (by rintro id ⟨⟩)
  | top staged body => exact quiet.same moves nested (setTop_log s staged body)
  | @charged serve rest _ stack =>
    have innermost : (serve.streamId,serve.slot) ∈ s.held := by rw [Server.held,stack]; exact List.mem_cons_self
    refine quiet.event moves nested rfl ?_ ?_ (by rintro id ⟨⟩)
    · rintro before after f ⟨⟩
      have charged := charge_charged (f := dataFrame serve (chunkLength s.core serve)) quiet.nested.formed.core
        (quiet.nested.holds _ innermost) rfl
      rwa [show (dataFrame serve (chunkLength s.core serve)).payload.length = chunkLength s.core serve from ?_] at charged
      rw [dataFrame,List.length_take,chunkLength]
      omega
    · rintro id ⟨⟩
      rw [← held_serving]
      exact List.mem_map_of_mem innermost
  | finish => exact quiet.same moves nested (finish_log s)
  | ends _ _ _ log _ => exact quiet.same moves nested log

theorem enter_quiet (e : Entry) : Quiet (h2ConnectionLoop e) := by
  have nested := enter_nested e
  have start : ∀ event ∈ (h2ConnectionLoop e).log, ∃ ok, event = .sent h2SettingsFrame ok := by
    intro event member
    rcases (enter_entered e).log with none | ⟨ok,settings⟩
    · rw [none] at member
      simp at member
    · rw [settings,List.mem_singleton] at member
      exact ⟨ok,member⟩
  refine ⟨nested,?_,?_,?_⟩
  · intro before after f member
    obtain ⟨ok,other⟩ := start _ member
    cases other
  · intro before event after split id speaks
    obtain ⟨ok,settings⟩ := start event (by rw [split]; simp)
    rw [settings] at speaks
    cases speaks
  · intro id member
    obtain ⟨event,logged,reset⟩ := List.mem_map.mp member
    obtain ⟨ok,settings⟩ := start event logged
    rw [settings] at reset
    cases reset

/-- In every run whose resets are harmless, each DATA frame is charged to the window of
    its stream and to no other, and no HEADERS or DATA frame is sent on a stream for
    which an RST_STREAM frame has been received. -/
theorem reset_honoured (files : List EmbeddedFile) (e : Entry) (n : Nat)
    (harmless : Meets Event.Harmless (run files (h2ConnectionLoop e) n).log) :
    (∀ before after f, .data before after f ∈ (run files (h2ConnectionLoop e) n).log → Charged before after f) ∧
      Always Silent (run files (h2ConnectionLoop e) n).log := by
  have quiet := run_invariant quiet_keeps files (enter_quiet e) n harmless
  exact ⟨quiet.charged,quiet.silent⟩

/-- A stream is opened and reset while a request on another waits for credit. -/
def resetOther : List UInt8 :=
  noCredit.encode ++ (getIndex 1).encode ++ (OutFrame.mk frameHeaders flagEndHeaders 3 [0x82,0x84]).encode ++
  (h2SendRstStream 3 .cancel).encode ++ (OutFrame.mk frameWindowUpdate 0 1 (octets 4 100)).encode

theorem reset_honoured_other :
    Meets Event.Harmless (run welcomeSite (h2ConnectionLoop (.client resetOther)) 6).log ∧
      Always Silent (run welcomeSite (h2ConnectionLoop (.client resetOther)) 6).log :=
  have harmless : Meets Event.Harmless (run welcomeSite (h2ConnectionLoop (.client resetOther)) 6).log := by
    decide +kernel
  ⟨harmless,(reset_honoured welcomeSite (.client resetOther) 6 harmless).2⟩

/-- A request waits for credit, and the client resets its stream. -/
def resetServed : List UInt8 := noCredit.encode ++ (getIndex 1).encode ++ (h2SendRstStream 1 .cancel).encode

/-- When the client has gone, the response is given up with another HEADERS frame on
    the stream. -/
theorem resetServed_spoken : ¬ Always Silent (run welcomeSite (h2ConnectionLoop (.client resetServed)) 4).log := by
  decide +kernel

end Sarm.H2
