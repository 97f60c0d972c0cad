import Sarm.BodyWriter
import Sarm.Pipe

/-!
A connection as a conversation in frames: the stream of the client is taken frame by frame, every frame is answered with
frames, and a body goes out as far as there is credit. There are no buffers in it, and no HEADERS frame is held back.
Turn by turn, a connection over a pipe goes through the states of one.
-/
namespace Sarm.H2
open Sarm.Memory Sarm.Programs

/-! ### Conversations -/

/-- The responses under way, innermost first, what has not been taken of the stream, and the frames that have been said. -/
structure Conversation where
  core : Core
  stack : List Serve
  left : List UInt8
  sent : List OutFrame
  halted : Bool

/-- There is more to send, but no credit. -/
def Starved (c : Core) (serve : Serve) : Prop := chunkLength c serve = 0 ∧ serve.body ≠ []

instance (c : Core) (serve : Serve) : Decidable (Starved c serve) := inferInstanceAs (Decidable (_ ∧ _))

namespace Conversation

def say (t : Conversation) (frames : List OutFrame) : Conversation := { t with sent := t.sent ++ frames }

def stop (t : Conversation) : Conversation := { t with halted := true }

/-- The response under way is over. -/
def finish (t : Conversation) : Conversation :=
  match t.stack with
  | [] => t
  | serve :: rest =>
    { t with core := { t.core with table := t.core.table.closeServed serve.slot serve.streamId }, stack := rest }

/-- A status without a body ends the response. -/
def status (t : Conversation) (streamId code : Nat) : Conversation :=
  (t.say (headersFrame (statusResponse code) streamId flagEndStream).toList).finish

def abort (t : Conversation) : Conversation :=
  match t.stack with
  | [] => t
  | serve :: _ => t.status serve.streamId 500

/-- What is left of the body. -/
def remain (t : Conversation) (body : List UInt8) : Conversation :=
  match t.stack with
  | [] => t
  | serve :: rest => { t with stack := { serve with body := body } :: rest }

def push (t : Conversation) (serve : Serve) : Conversation :=
  { t with core := { t.core with table := t.core.table.setServing serve.slot }, stack := serve :: t.stack }

def respond (t : Conversation) (streamId : Nat) : Answer → Conversation
  | .status code => t.status streamId code
  | .headers r => match headersFrame r streamId flagEndStream with
    | none => t.abort
    | some f => (t.say [f]).finish
  | .body r => match headersFrame r streamId 0 with
    | none => t.abort
    | some f => (t.say [f]).remain r.body

/-- A request that is complete is answered, once. -/
def hook (files : List EmbeddedFile) (t : Conversation) (streamId : Nat) : Conversation :=
  if streamId = 0 then t
  else match h2StreamFind t.core.table streamId with
    | none => t
    | some slot =>
      if (t.core.table.streams slot).state = .halfClosedRemote ∧ (t.core.table.streams slot).serving = false then
        (t.push ⟨streamId,slot,none,[]⟩).respond streamId (answer files t.core.req)
      else t

/-- What becomes of a frame that has been handled. -/
def settle (files : List EmbeddedFile) (hdr : FrameHeader) (t : Conversation) : Option H2Error → Conversation
  | none => t.hook files hdr.streamId
  | some e =>
    if e.isStream then if hdr.streamId = 0 then t.stop else t.say [h2SendRstStream hdr.streamId e]
    else (t.say [h2SendGoaway t.core.conn e]).stop

def receive (files : List EmbeddedFile) (t : Conversation) (hdr : FrameHeader) (payload : Mem) : Conversation :=
  let outcome := h2DispatchFrame t.core hdr payload
  Conversation.settle files hdr { t.say outcome.replies with core := outcome.core } outcome.error

/-- As much of the body as there is credit for. -/
def chunk (t : Conversation) (serve : Serve) : Conversation :=
  let n := chunkLength t.core serve
  let t := { t.say [dataFrame serve n] with core := t.core.charge serve.slot n }
  if serve.body.drop n = [] then t.finish else t.remain (serve.body.drop n)

/-- Nothing can be done but to take a frame. -/
def Listens (t : Conversation) : Prop := t.halted = false ∧ ∀ serve ∈ t.stack.head?, Starved t.core serve

/-- The header of the frame that comes next. -/
def next (t : Conversation) : FrameHeader := h2ParseFrameHeader (ofBytes t.left)

/-- A turn. What is behind the payload in memory is not determined. -/
inductive Turn (files : List EmbeddedFile) : Conversation → Conversation → Prop where
  | halted (t : Conversation) (halted : t.halted = true) : Turn files t t
  | chunk (t : Conversation) (serve : Serve) (alive : t.halted = false) (top : t.stack.head? = some serve)
      (credit : ¬Starved t.core serve) : Turn files t (t.chunk serve)
  | frame (t : Conversation) (hdr : FrameHeader) (payload rest : List UInt8) (m : Mem) (listens : t.Listens)
      (whole : frameSplit t.left = some (hdr,payload,rest)) (valid : h2ValidateFrame hdr t.core.conn = .ok ())
      (holds : slice m 0 hdr.length = payload) : Turn files t ({ t with left := rest }.receive files hdr m)
  | refused (t : Conversation) (e : H2Error) (alive : t.halted = false) (idle : t.stack = [])
      (header : wireHeaderLen ≤ t.left.length) (invalid : h2ValidateFrame t.next t.core.conn = .error e) :
      Turn files t (t.say [h2SendGoaway t.core.conn e]).stop
  | ended (t : Conversation) (alive : t.halted = false) (idle : t.stack = []) (short : frameSplit t.left = none)
      (valid : wireHeaderLen ≤ t.left.length → h2ValidateFrame t.next t.core.conn = .ok ()) : Turn files t t.stop

inductive Turns (files : List EmbeddedFile) : Nat → Conversation → Conversation → Prop where
  | none (t : Conversation) : Turns files 0 t t
  | more {n : Nat} {t t' t'' : Conversation} (turns : Turns files n t t') (turn : Turn files t' t'') :
      Turns files (n+1) t t''

/-- A conversation behind the preface of the client, with that of the server. -/
def start (previous : Core) (left : List UInt8) : Conversation := ⟨previous.reset,[],left,[h2SettingsFrame],false⟩

end Conversation

/-! ### A connection that talks -/

/-- Frames as they are on the wire. -/
def encoded (frames : List OutFrame) : List UInt8 := frames.flatMap OutFrame.encode

/-- A response without its HEADERS frame, whether that has gone or waits. -/
def Serve.plain (v : Serve) : Serve := { v with staged := none }

namespace Layer

/-- The HEADERS frames that wait. -/
def waiting (l : Layer) : List OutFrame := l.stack.flatMap Serve.waiting

/-- What has not been parsed: the rest of the buffer, and behind it what has not been read. -/
def unread (l : Layer) (p : Pipe) : List UInt8 := slice l.buf l.cursor l.count ++ p.incoming

/-- The memory of a body writer that has read a frame. -/
def waitMemory (l : Layer) (header payload : List UInt8) : Mem :=
  blit (blit l.waitBuf 0 (ofBytes header) wireHeaderLen) 0 (ofBytes payload) payload.length

/-- A frame that is not refused with an error of the connection. -/
def accepts (hdr : FrameHeader) : Option H2Error → Bool
  | none => true
  | some e => e.isStream && hdr.streamId != 0

/-- Nothing has been read ahead, and the frame that comes next is not refused. -/
def fed (l : Layer) (p : Pipe) : Bool :=
  match frameSplit p.incoming with
  | none => false
  | some (hdr,payload,_) => l.count == 0 && (h2ValidateFrame hdr l.core.conn).toBool &&
    accepts hdr (h2DispatchFrame l.core hdr (l.waitMemory (p.incoming.take wireHeaderLen) payload)).error

/-- A body writer that is out of credit finds a frame. -/
def Fed (l : Layer) (p : Pipe) : Prop :=
  l.halted = false → ∀ serve ∈ l.stack.head?, Starved l.core serve → l.fed p = true

instance (l : Layer) (p : Pipe) : Decidable (l.Fed p) := inferInstanceAs (Decidable (_ → _))

end Layer

/-- A connection and the conversation it has come to. -/
structure Talks (l : Layer) (p : Pipe) (t : Conversation) : Prop where
  core : l.core = t.core
  stack : l.stack.map Serve.plain = t.stack
  halted : l.halted = t.halted
  unheld : l.Unheld
  sent : p.outgoing ++ encoded l.waiting = encoded t.sent
  left : t.halted = false → l.unread p = t.left

/-! ### Sending -/

def Pipe.put (p : Pipe) (data : List UInt8) : Pipe := { p with outgoing := p.outgoing ++ data }

theorem encoded_none : encoded [] = [] := rfl

theorem encoded_append (frames frames' : List OutFrame) : encoded (frames ++ frames') = encoded frames ++ encoded frames' :=
  List.flatMap_append

theorem encoded_one (f : OutFrame) : encoded [f] = f.encode := by rw [encoded,List.flatMap_singleton]

theorem put_none (p : Pipe) : p.put [] = p := by rw [Pipe.put,List.append_nil]

theorem put_put (p : Pipe) (data more : List UInt8) : (p.put data).put more = p.put (data ++ more) := by
  rw [Pipe.put,Pipe.put,Pipe.put,List.append_assoc]

theorem send_pipe (l : Layer) (f : OutFrame) (p : Pipe) :
    (l.send f).run Pipe.serve p = (p.put (encoded [f]),true) := by
  rw [encoded_one]
  rfl

theorem sendAll_pipe (l : Layer) : ∀ (frames : List OutFrame) (p : Pipe),
    (l.sendAll frames).run Pipe.serve p = (p.put (encoded frames),()) := by
  intro frames
  induction frames with
  | nil =>
    intro p
    rw [encoded_none,put_none]
    rfl
  | cons f frames ih =>
    intro p
    rw [Layer.sendAll,run_bind,send_pipe,ih,put_put,← encoded_append]
    rfl

theorem writeHeaders_pipe (l : Layer) (r : Response) (streamId extra : Nat) (p : Pipe) :
    (l.writeHeaders r streamId extra).run Pipe.serve p =
      (p.put (encoded (headersFrame r streamId extra).toList),(headersFrame r streamId extra).isSome) := by
  rw [Layer.writeHeaders]
  cases headersFrame r streamId extra with
  | none =>
    rw [Option.toList_none,encoded_none,put_none]
    rfl
  | some f => exact send_pipe l f p

theorem replyStatus_pipe (l : Layer) (streamId code : Nat) (p : Pipe) :
    (l.replyStatus streamId code).run Pipe.serve p =
      (p.put (encoded (headersFrame (statusResponse code) streamId flagEndStream).toList),()) := by
  rw [Layer.replyStatus,run_bind,writeHeaders_pipe]
  rfl

/-! ### Answering -/

/-- What a program leaves behind talks as `t`. -/
def Becomes (does : Layer.Does Layer) (p : Pipe) (t : Conversation) : Prop :=
  Talks (does.run Pipe.serve p).2 (does.run Pipe.serve p).1 t

theorem waiting_none {l : Layer} (quiet : l.held = []) : l.waiting = [] := by
  rw [Layer.waiting,List.flatMap_eq_nil_iff]
  intro serve member
  rw [Layer.held,List.filterMap_eq_nil_iff] at quiet
  rw [Serve.waiting,quiet serve member]
  rfl

theorem headersFrame_own {r : Response} {serve : Serve} {f : OutFrame}
    (made : headersFrame r serve.streamId 0 = some f) : serve.headers f.payload = f := by
  rw [headersFrame] at made
  split at made
  · contradiction
  · cases made
    rfl

section
variable {l : Layer} {p : Pipe} {t : Conversation}

theorem Talks.say (talks : Talks l p t) (quiet : l.held = []) (frames : List OutFrame) :
    Talks l (p.put (encoded frames)) (t.say frames) where
  core := talks.core
  stack := talks.stack
  halted := talks.halted
  unheld := talks.unheld
  sent := by
    have sent := talks.sent
    rw [waiting_none quiet,encoded_none,List.append_nil] at sent ⊢
    rw [Conversation.say,encoded_append,Pipe.put,sent]
  left := talks.left

theorem Talks.stop {left : List UInt8} (talks : Talks l p { t with left := left }) :
    Talks { l with halted := true } p t.stop :=
  ⟨talks.core,talks.stack,rfl,talks.unheld,talks.sent,fun alive => by cases alive⟩

theorem Talks.finish (talks : Talks l p t) (quiet : l.held = []) : Talks l.finish p t.finish := by
  have waiting := waiting_none (Layer.finish_held talks.unheld)
  have unheld := Layer.held_unheld (Layer.finish_held talks.unheld)
  have sent := talks.sent
  rw [waiting_none quiet] at sent
  rw [← waiting] at sent
  have stack := talks.stack
  rw [Layer.finish] at waiting unheld sent ⊢
  rw [Conversation.finish,← stack]
  cases top : l.stack with
  | nil => exact talks
  | cons serve rest =>
    rw [top] at unheld sent
    exact ⟨by rw [talks.core]; rfl,rfl,talks.halted,unheld,sent,talks.left⟩

theorem Talks.push (talks : Talks l p t) (quiet : l.held = []) (streamId slot : Nat) :
    Talks (l.push ⟨streamId,slot,none,[]⟩) p (t.push ⟨streamId,slot,none,[]⟩) where
  core := by rw [Layer.push,Conversation.push,talks.core]
  stack := by rw [Layer.push,Conversation.push,← talks.stack]; rfl
  halted := talks.halted
  unheld := quiet
  sent := talks.sent
  left := talks.left

theorem push_held (quiet : l.held = []) (streamId slot : Nat) : (l.push ⟨streamId,slot,none,[]⟩).held = [] := quiet

/-- The HEADERS frame has been said: it may have gone or wait. -/
theorem Talks.remain (talks : Talks l p t) (quiet : l.held = []) (body : List UInt8) :
    Talks (l.setTop none body) p (t.remain body) := by
  have stack := talks.stack
  have sent := talks.sent
  rw [waiting_none quiet,← waiting_none (Layer.setTop_held talks.unheld body)] at sent
  have unheld := Layer.held_unheld (Layer.setTop_held talks.unheld body)
  rw [Layer.setTop] at sent unheld ⊢
  rw [Conversation.remain,← stack]
  cases top : l.stack with
  | nil => exact talks
  | cons serve rest =>
    rw [top] at unheld sent
    exact ⟨talks.core,rfl,talks.halted,unheld,sent,talks.left⟩

theorem status_talks (talks : Talks l p t) (quiet : l.held = []) (streamId code : Nat) :
    Becomes ((l.replyStatus streamId code).bind fun _ => .done l.finish) p (t.status streamId code) := by
  rw [Becomes,run_bind,replyStatus_pipe]
  exact (talks.say quiet _).finish quiet

theorem abort_talks (talks : Talks l p t) (quiet : l.held = []) : Becomes l.abort p t.abort := by
  have stack := talks.stack
  rw [Layer.abort,Conversation.abort,← stack]
  cases top : l.stack with
  | nil => exact talks
  | cons serve rest => exact status_talks talks quiet _ _

/-- The HEADERS frame waits, and has been said. -/
theorem Talks.hold (talks : Talks l p t) (quiet : l.held = []) {serve : Serve} {rest : List Serve}
    (top : l.stack = serve :: rest) {f : OutFrame} (own : serve.headers f.payload = f) (body : List UInt8) :
    Talks (l.setTop (some f.payload) body) p ((t.say [f]).remain body) := by
  have stack := talks.stack
  have sent := talks.sent
  have unheld := talks.unheld
  have below : ({ l with stack := rest } : Layer).waiting = [] := waiting_none (by rwa [Layer.Unheld,top] at unheld)
  rw [waiting_none quiet,encoded_none,List.append_nil] at sent
  rw [Layer.Unheld,top] at unheld
  rw [top,List.map_cons] at stack
  rw [Layer.setTop,top,Conversation.remain,Conversation.say,← stack]
  refine ⟨talks.core,rfl,talks.halted,unheld,?_,talks.left⟩
  rw [Layer.waiting] at below
  rw [Layer.waiting,List.flatMap_cons,below,List.append_nil,encoded_append,sent]
  exact congrArg (_ ++ encoded [·]) own

theorem respond_talks (talks : Talks l p t) (quiet : l.held = []) {serve : Serve} {rest : List Serve}
    (top : l.stack = serve :: rest) (a : Answer) :
    Becomes (l.respond serve.streamId a) p (t.respond serve.streamId a) := by
  cases a with
  | status code => exact status_talks talks quiet serve.streamId code
  | headers r =>
    rw [Becomes,Layer.respond,Conversation.respond,run_bind,writeHeaders_pipe]
    cases headersFrame r serve.streamId flagEndStream with
    | none =>
      rw [Option.toList_none,encoded_none,put_none]
      exact abort_talks talks quiet
    | some f => exact (talks.say quiet [f]).finish quiet
  | body r =>
    rw [Layer.respond,Conversation.respond]
    cases made : headersFrame r serve.streamId 0 with
    | none => exact abort_talks talks quiet
    | some f =>
      dsimp only
      split
      · exact talks.hold quiet top (headersFrame_own made) r.body
      · rw [Becomes,run_bind,send_pipe]
        exact (talks.say quiet [f]).remain quiet r.body

theorem hook_talks (files : List EmbeddedFile) (talks : Talks l p t) (quiet : l.held = []) (streamId : Nat) :
    Becomes (l.hook files streamId) p (t.hook files streamId) := by
  rw [Layer.hook,Conversation.hook,talks.core]
  split
  · exact talks
  cases h2StreamFind t.core.table streamId with
  | none => exact talks
  | some slot =>
    dsimp only
    split
    · rw [Layer.processRequest,talks.core]
      exact respond_talks (talks.push quiet streamId slot) (push_held quiet streamId slot) rfl _
    · exact talks

end

/-! ### Taking octets -/

section
variable {l l' : Layer} {p p' : Pipe} {t : Conversation}

/-- Nothing is different but where the octets are that have not been parsed. -/
structure Alongside (l : Layer) (p : Pipe) (l' : Layer) (p' : Pipe) : Prop where
  core : l'.core = l.core
  stack : l'.stack = l.stack
  halted : l'.halted = l.halted
  outgoing : p'.outgoing = p.outgoing

theorem Alongside.trans {l'' : Layer} {p'' : Pipe} (first : Alongside l p l' p') (second : Alongside l' p' l'' p'') :
    Alongside l p l'' p'' :=
  ⟨second.core.trans first.core,second.stack.trans first.stack,second.halted.trans first.halted,
    second.outgoing.trans first.outgoing⟩

theorem Talks.move (talks : Talks l p t) (same : Alongside l p l' p') {left : List UInt8}
    (unread : t.halted = false → l'.unread p' = left) : Talks l' p' { t with left := left } where
  core := same.core.trans talks.core
  stack := by rw [same.stack,talks.stack]
  halted := same.halted.trans talks.halted
  unheld := by
    rw [Layer.Unheld,same.stack]
    exact talks.unheld
  sent := by
    rw [Layer.waiting,same.stack,same.outgoing]
    exact talks.sent
  left := unread

theorem compact_slice (l : Layer) : slice l.compact.buf 0 l.count = slice l.buf l.cursor l.count := by
  rw [Layer.compact]
  split
  · next none => rw [none,slice_zero,slice_zero]
  · dsimp only
    rw [Hpack.memcpy_forward _ _ (.inl (Nat.zero_le _)),slice_blit_same,slice_shift,Nat.add_zero]

theorem compact_alongside (l : Layer) (p : Pipe) : Alongside l p l.compact p ∧ l.compact.count = l.count := by
  rw [Layer.compact]
  split <;> exact ⟨⟨rfl,rfl,rfl,rfl⟩,rfl⟩

/-- A filling that gets what it wants. -/
theorem fill_enough (l : Layer) (p : Pipe) {n : Nat} (enough : n ≤ (l.unread p).length) :
    ∃ l' p', (l.fill n).run Pipe.serve p = (p',(l',true)) ∧ Alongside l p l' p' ∧ n ≤ l'.count ∧
      l'.unread p' = l.unread p ∧ (l.cursor = 0 → l'.cursor = 0) := by
  rw [Layer.fill]
  split
  · next here => exact ⟨l,p,rfl,⟨rfl,rfl,rfl,rfl⟩,here,rfl,id⟩
  · next more =>
    obtain ⟨same,count⟩ := compact_alongside l p
    have front := compact_slice l
    rw [Layer.unread,List.length_append,slice_length] at enough
    have there : n - l.compact.count ≤ p.incoming.length := by omega
    dsimp only
    rw [run_call,Pipe.serve,if_pos there]
    refine ⟨_,_,rfl,⟨same.core,same.stack,same.halted,rfl⟩,Nat.le_refl n,?_,fun _ => rfl⟩
    rw [count] at there
    rw [Layer.unread,Layer.unread]
    dsimp only
    rw [count,List.length_take_of_le there]
    obtain ⟨m,rfl⟩ := Nat.exists_eq_add_of_lt (Nat.lt_of_not_le more)
    rw [Nat.add_assoc,Nat.add_sub_cancel_left] at there ⊢
    have bytes := slice_ofBytes (p.incoming.take (m + 1))
    rw [List.length_take_of_le there] at bytes
    rw [slice_add,slice_blit_before (by omega),front,Nat.zero_add,slice_blit_same,bytes,List.append_assoc,
      List.take_append_drop]

/-- A filling that runs into the end. -/
theorem fill_short (l : Layer) (p : Pipe) {n : Nat} (short : (l.unread p).length < n) :
    ∃ l' p', (l.fill n).run Pipe.serve p = (p',(l',false)) ∧ Alongside l p l' p' := by
  obtain ⟨same,count⟩ := compact_alongside l p
  rw [Layer.unread,List.length_append,slice_length] at short
  rw [Layer.fill,if_neg (by omega)]
  dsimp only
  rw [run_call,Pipe.serve,if_neg (by omega)]
  exact ⟨_,_,rfl,same.core,same.stack,same.halted,rfl⟩

theorem consume_unread (l : Layer) (p : Pipe) {n : Nat} (enough : n ≤ l.count) :
    (l.consume n).unread p = (l.unread p).drop n := by
  rw [Layer.unread,Layer.unread,List.drop_append_of_le_length (by rwa [slice_length]),slice_drop]
  rfl

theorem payload_unread (l : Layer) (p : Pipe) {n : Nat} (enough : n ≤ l.count) :
    slice (shift l.buf l.cursor) 0 n = (l.unread p).take n := by
  rw [Layer.unread,List.take_append_of_le_length (by rwa [slice_length]),slice_shift,Nat.add_zero]
  have whole : l.count = n + (l.count - n) := by omega
  rw [whole,slice_add,List.take_left' (slice_length _ _ _)]

theorem header_take {m : Mem} {stream : List UInt8} (enough : wireHeaderLen ≤ stream.length)
    (front : slice m 0 wireHeaderLen = stream.take wireHeaderLen) :
    h2ParseFrameHeader m = h2ParseFrameHeader (ofBytes stream) := by
  have length : (stream.take wireHeaderLen).length = wireHeaderLen := List.length_take_of_le enough
  have whole := parse_append length (stream.drop wireHeaderLen)
  rw [List.take_append_drop] at whole
  rw [parse_octets,front,whole]

theorem frameSplit_some {stream : List UInt8}
    (whole : wireHeaderLen + (h2ParseFrameHeader (ofBytes stream)).length ≤ stream.length) :
    frameSplit stream = some (h2ParseFrameHeader (ofBytes stream),
      (stream.drop wireHeaderLen).take (h2ParseFrameHeader (ofBytes stream)).length,
      stream.drop (wireHeaderLen + (h2ParseFrameHeader (ofBytes stream)).length)) :=
  if_neg (Nat.not_lt.mpr whole)

theorem dispatch_pipe (l : Layer) (hdr : FrameHeader) (payload : Mem) (p : Pipe) :
    (l.dispatch hdr payload).run Pipe.serve p = (p.put (encoded (h2DispatchFrame l.core hdr payload).replies),
      ({ l with core := (h2DispatchFrame l.core hdr payload).core },(h2DispatchFrame l.core hdr payload).error)) := by
  rw [Layer.dispatch,run_bind,sendAll_pipe]
  rfl

theorem Talks.handled (talks : Talks l p t) (quiet : l.held = []) (outcome : Outcome) :
    Talks { l with core := outcome.core } (p.put (encoded outcome.replies))
      { t.say outcome.replies with core := outcome.core } := by
  have said := talks.say quiet outcome.replies
  exact ⟨rfl,said.stack,said.halted,said.unheld,said.sent,said.left⟩

/-! ### Turns of the frame loop -/

theorem idle_quiet (idle : l.stack = []) : l.held = [] := by rw [Layer.held,idle]; rfl

theorem settle_talks (files : List EmbeddedFile) (l : Layer) (hdr : FrameHeader) (talks : Talks (l.consume hdr.length) p t)
    (idle : l.stack = []) (error : Option H2Error) :
    Becomes (l.settle files hdr error) p (Conversation.settle files hdr t error) := by
  have quiet : (l.consume hdr.length).held = [] := idle_quiet idle
  cases error with
  | none => exact hook_talks files talks quiet hdr.streamId
  | some e =>
    rw [Layer.settle,Conversation.settle]
    split
    · split
      · exact Talks.stop (t := t) talks
      · rw [Becomes,Layer.reset,run_bind,send_pipe]
        exact talks.say quiet _
    · rw [Becomes,run_bind,Layer.goaway,send_pipe,talks.core]
      exact Talks.stop (talks.say quiet _)

theorem close_talks (files : List EmbeddedFile) (talks : Talks l p t) (alive : t.halted = false) (idle : t.stack = [])
    (same : Alongside l p l' p') (short : frameSplit t.left = none)
    (valid : wireHeaderLen ≤ t.left.length → h2ValidateFrame t.next t.core.conn = .ok ()) :
    ∃ t', t.Turn files t' ∧ Becomes l'.close p' t' :=
  ⟨t.stop,.ended t alive idle short valid,Talks.stop (talks.move same fun _ => rfl)⟩

/-- What the frame loop does with a frame whose header is valid. -/
theorem payload_talks (files : List EmbeddedFile) (talks : Talks l p t) (alive : t.halted = false) (idle : l.stack = [])
    (header : wireHeaderLen ≤ t.left.length) (valid : h2ValidateFrame t.next t.core.conn = .ok ())
    (same : Alongside l p l' p') (consumed : l'.unread p' = t.left.drop wireHeaderLen) : ∃ t', t.Turn files t' ∧
      Becomes ((l'.fill t.next.length).bind fun (l,ok) =>
        if ok = false then l.close
        else (l.dispatch t.next (shift l.buf l.cursor)).bind fun (l,error) => l.settle files t.next error) p' t' := by
  have idleT : t.stack = [] := by rw [← talks.stack,idle]; rfl
  simp only [Becomes,run_bind]
  by_cases whole : wireHeaderLen + t.next.length ≤ t.left.length
  · have there : t.next.length ≤ (l'.unread p').length := by
      rw [consumed,List.length_drop]
      omega
    obtain ⟨l₂,p₂,filled,same₂,enough,unread,-⟩ := fill_enough l' p' there
    have holds := payload_unread l₂ p₂ enough
    have rest := consume_unread l₂ p₂ enough
    rw [unread,consumed] at holds rest
    rw [List.drop_drop] at rest
    have together := same.trans same₂
    have past : Alongside l p (l₂.consume t.next.length) p₂ :=
      ⟨together.core,together.stack,together.halted,together.outgoing⟩
    have quiet : (l₂.consume t.next.length).held = [] := idle_quiet (together.stack.trans idle)
    have handled := (talks.move past fun _ => rest).handled quiet (h2DispatchFrame t.core t.next (shift l₂.buf l₂.cursor))
    rw [filled]
    dsimp only
    rw [if_neg (by decide),run_bind,dispatch_pipe]
    dsimp only
    refine ⟨_,.frame t _ _ _ (shift l₂.buf l₂.cursor) ⟨alive,fun serve top => by rw [idleT] at top; cases top⟩
      (frameSplit_some whole) valid holds,?_⟩
    rw [together.core,talks.core]
    exact settle_talks files { l₂ with core := _ } t.next handled (together.stack.trans idle) _
  · have short : (l'.unread p').length < t.next.length := by
      rw [consumed,List.length_drop]
      omega
    obtain ⟨l₂,p₂,filled,same₂⟩ := fill_short l' p' short
    rw [filled]
    exact close_talks files talks alive idleT (same.trans same₂) (if_pos (Nat.lt_of_not_le whole)) fun _ => valid

theorem connectionTurn_talks (files : List EmbeddedFile) (talks : Talks l p t) (alive : t.halted = false)
    (idle : l.stack = []) : ∃ t', t.Turn files t' ∧ Becomes (l.connectionTurn files) p t' := by
  have idleT : t.stack = [] := by rw [← talks.stack,idle]; rfl
  have left := talks.left alive
  rw [Layer.connectionTurn]
  simp only [Becomes,run_bind]
  by_cases header : wireHeaderLen ≤ (l.unread p).length
  · obtain ⟨l₁,p₁,filled,same₁,enough,unread,-⟩ := fill_enough l p header
    rw [left] at unread header
    have named : h2ParseFrameHeader (shift l₁.buf l₁.cursor) = t.next :=
      header_take header (by rw [payload_unread l₁ p₁ enough,unread])
    have consumed := consume_unread l₁ p₁ enough
    rw [unread] at consumed
    have same : Alongside l p (l₁.consume wireHeaderLen) p₁ := ⟨same₁.core,same₁.stack,same₁.halted,same₁.outgoing⟩
    rw [filled]
    dsimp only
    rw [if_neg (by decide),named,same.core,talks.core]
    cases valid : h2ValidateFrame t.next t.core.conn with
    | error e =>
      have quiet : (l₁.consume wireHeaderLen).held = [] := idle_quiet (same.stack.trans idle)
      refine ⟨_,.refused t e alive idleT header valid,?_⟩
      dsimp only
      rw [run_bind,Layer.goaway,send_pipe,same.core,talks.core]
      exact Talks.stop ((talks.move same fun _ => consumed).say quiet _)
    | ok => exact payload_talks files talks alive idle header valid same consumed
  · obtain ⟨l₁,p₁,filled,same₁⟩ := fill_short l p (Nat.lt_of_not_le header)
    rw [left] at header
    rw [filled]
    exact close_talks files talks alive idleT same₁ (frameSplit_header (Nat.lt_of_not_le header))
      fun whole => absurd whole header

/-! ### Turns of a body writer -/

theorem waiting_top (talks : Talks l p t) {serve : Serve} {rest : List Serve} (top : l.stack = serve :: rest) :
    l.waiting = serve.waiting := by
  have unheld := talks.unheld
  have below : ({ l with stack := rest } : Layer).waiting = [] := waiting_none (by rwa [Layer.Unheld,top] at unheld)
  rw [Layer.waiting] at below
  rw [Layer.waiting,top,List.flatMap_cons,below,List.append_nil]

/-- The HEADERS frame that waited has gone. -/
theorem Talks.flushed (talks : Talks l p t) {serve : Serve} {rest : List Serve} (top : l.stack = serve :: rest) :
    Talks (l.setTop none serve.body) (p.put (encoded serve.waiting)) t := by
  have quiet := Layer.setTop_held talks.unheld serve.body
  have unheld := Layer.held_unheld quiet
  have waiting := waiting_none quiet
  have sent := talks.sent
  have stack := talks.stack
  rw [waiting_top talks top] at sent
  rw [top] at stack
  rw [Layer.setTop,top] at waiting unheld ⊢
  refine ⟨talks.core,stack,talks.halted,unheld,?_,talks.left⟩
  rw [waiting,encoded_none,List.append_nil]
  exact sent

theorem encoded_waiting (serve : Serve) :
    (serve.staged.map fun block => (serve.headers block).encode).getD [] = encoded serve.waiting := by
  rw [Serve.waiting]
  cases serve.staged with
  | none => rfl
  | some block => exact (encoded_one _).symm

theorem sendChunk_pipe (l : Layer) (serve : Serve) (n : Nat) (p : Pipe) :
    (l.sendChunk serve n).run Pipe.serve p = (p.put (encoded serve.waiting ++ (dataFrame serve n).encode),
      if serve.body.drop n = [] then Layer.finish { l with core := l.core.charge serve.slot n }
      else Layer.setTop { l with core := l.core.charge serve.slot n } none (serve.body.drop n)) := by
  rw [Layer.sendChunk,run_call,encoded_waiting,Pipe.put,OutFrame.encode,
    ← List.append_assoc (encoded serve.waiting)]
  rfl

theorem chunk_talks (talks : Talks l p t) {serve : Serve} {rest : List Serve} (top : l.stack = serve :: rest) :
    Becomes (l.sendChunk serve (chunkLength l.core serve)) p (t.chunk serve.plain) := by
  have quiet := Layer.setTop_held talks.unheld serve.body
  have said := (talks.flushed top).handled quiet
    ⟨l.core.charge serve.slot (chunkLength l.core serve),[dataFrame serve (chunkLength l.core serve)],none⟩
  rw [put_put,encoded_one] at said
  rw [Layer.setTop,top] at said quiet
  rw [Becomes,sendChunk_pipe,Conversation.chunk,← talks.core,
    show chunkLength l.core serve.plain = chunkLength l.core serve from rfl,show serve.plain.body = serve.body from rfl]
  dsimp only
  by_cases last : serve.body.drop (chunkLength l.core serve) = []
  · rw [if_pos last,if_pos last,Layer.finish,top]
    exact said.finish quiet
  · rw [if_neg last,if_neg last,Layer.setTop,top]
    exact said.remain quiet (serve.body.drop (chunkLength l.core serve))

theorem frameSplit_parts {stream payload rest : List UInt8} {hdr : FrameHeader}
    (split : frameSplit stream = some (hdr,payload,rest)) : hdr = h2ParseFrameHeader (ofBytes stream) ∧
      wireHeaderLen + hdr.length ≤ stream.length ∧ payload = (stream.drop wireHeaderLen).take hdr.length ∧
      rest = stream.drop (wireHeaderLen + hdr.length) := by
  rw [frameSplit] at split
  split at split
  · contradiction
  · next whole =>
    cases split
    exact ⟨rfl,Nat.not_lt.mp whole,rfl,rfl⟩

theorem waitRead_pipe (l : Layer) (p : Pipe) {n : Nat} (enough : n ≤ p.incoming.length) :
    (l.waitRead n).run Pipe.serve p = ({ p with incoming := p.incoming.drop n },
      ({ l with waitBuf := blit l.waitBuf 0 (ofBytes (p.incoming.take n)) n },true)) := by
  rw [Layer.waitRead,run_call,Pipe.serve,if_pos enough]
  rfl

theorem waitSettle_talks (files : List EmbeddedFile) (hdr : FrameHeader) (talks : Talks l p t) (quiet : l.held = [])
    {error : Option H2Error} (accepted : Layer.accepts hdr error = true) :
    Becomes (l.waitSettle files hdr error) p (Conversation.settle files hdr t error) := by
  cases error with
  | none => exact hook_talks files talks quiet hdr.streamId
  | some e =>
    rw [Layer.accepts,Bool.and_eq_true,bne_iff_ne] at accepted
    rw [Layer.waitSettle,Conversation.settle,if_pos accepted.1,if_pos accepted.1,if_neg accepted.2,if_neg accepted.2,
      Becomes,Layer.reset,run_bind,send_pipe]
    exact talks.say quiet _

theorem taken_slice {bytes : List UInt8} {n : Nat} (length : bytes.length = n) (m : Mem) :
    slice (blit m 0 (ofBytes bytes) n) 0 n = bytes := by
  rw [slice_blit_same,← length,slice_ofBytes]

theorem waitFrame_talks (files : List EmbeddedFile) (talks : Talks l p t) (quiet : l.held = []) (listens : t.Listens)
    (fed : l.fed p = true) : ∃ t', t.Turn files t' ∧ Becomes (l.waitFrame files) p t' := by
  rw [Layer.fed] at fed
  cases whole : frameSplit p.incoming with
  | none =>
    rw [whole] at fed
    cases fed
  | some frame =>
    obtain ⟨hdr,payload,rest⟩ := frame
    rw [whole] at fed
    simp only [Bool.and_eq_true,beq_iff_eq] at fed
    obtain ⟨⟨behind,valid⟩,accepted⟩ := fed
    obtain ⟨named,enough,paid,left⟩ := frameSplit_parts whole
    have ahead := talks.left listens.1
    rw [Layer.unread,behind,slice_zero,List.nil_append] at ahead
    have header : wireHeaderLen ≤ p.incoming.length := by omega
    have there : hdr.length ≤ (p.incoming.drop wireHeaderLen).length := by rw [List.length_drop]; omega
    have length : payload.length = hdr.length := by rw [paid,List.length_take_of_le there]
    have front := taken_slice (List.length_take_of_le header) l.waitBuf
    rw [Layer.waitFrame]
    simp only [Becomes,run_bind]
    rw [waitRead_pipe l p header]
    dsimp only
    rw [if_neg (by decide),header_take header front,← named]
    cases checked : h2ValidateFrame hdr l.core.conn with
    | error e =>
      rw [checked] at valid
      cases valid
    | ok =>
      dsimp only
      rw [run_bind,waitRead_pipe _ _ there,← paid]
      dsimp only
      rw [if_neg (by decide),run_bind,dispatch_pipe]
      dsimp only
      have holds := taken_slice length (blit l.waitBuf 0 (ofBytes (p.incoming.take wireHeaderLen)) wireHeaderLen)
      rw [Layer.waitMemory,length] at accepted
      rw [talks.core] at checked
      generalize blit _ 0 (ofBytes payload) hdr.length = m at holds accepted
      refine ⟨_,.frame t hdr payload rest m listens (ahead ▸ whole) checked holds,?_⟩
      have same : Alongside l p { l with waitBuf := m }
          { p with incoming := (p.incoming.drop wireHeaderLen).drop hdr.length } := ⟨rfl,rfl,rfl,rfl⟩
      have moved := talks.move same fun _ => show _ = rest by
        rw [Layer.unread,behind,slice_zero,List.nil_append,List.drop_drop,left]
      rw [Conversation.receive,← talks.core]
      exact waitSettle_talks files hdr (moved.handled quiet (h2DispatchFrame l.core hdr m)) quiet accepted

theorem waitTurn_talks (files : List EmbeddedFile) (talks : Talks l p t) {serve : Serve} {rest : List Serve}
    (top : l.stack = serve :: rest) (listens : t.Listens) (fed : l.fed p = true) :
    ∃ t', t.Turn files t' ∧ Becomes (l.waitTurn files serve) p t' := by
  have flushed := talks.flushed top
  have quiet := Layer.setTop_held talks.unheld serve.body
  have still : (l.setTop none serve.body).fed (p.put (encoded serve.waiting)) = l.fed p := by
    rw [Layer.setTop,top]
    rfl
  obtain ⟨t',turn,becomes⟩ := waitFrame_talks files flushed quiet listens (still.trans fed)
  refine ⟨t',turn,?_⟩
  rw [Layer.waitTurn]
  cases staged : serve.staged with
  | none =>
    have same : l.setTop none serve.body = l := by
      rw [Layer.setTop,top]
      dsimp only
      rw [← staged]
      exact congrArg (fun stack => { l with stack := stack }) top.symm
    rw [same,Serve.waiting,staged,Option.map_none,Option.toList_none,encoded_none,put_none] at becomes
    exact becomes
  | some block =>
    rw [Serve.waiting,staged,Option.map_some,Option.toList_some] at becomes
    rw [Becomes,run_bind,send_pipe]
    exact becomes

/-- A turn of a connection is one of its conversation. -/
theorem step_talks (files : List EmbeddedFile) (talks : Talks l p t) (fed : l.Fed p) :
    ∃ t', t.Turn files t' ∧ Becomes (l.step files) p t' := by
  rw [Layer.step]
  cases alive : l.halted with
  | true => exact ⟨t,.halted t (talks.halted.symm.trans alive),talks⟩
  | false =>
    have aliveT : t.halted = false := talks.halted.symm.trans alive
    rw [if_neg (by decide)]
    cases top : l.stack with
    | nil => exact connectionTurn_talks files talks aliveT top
    | cons serve rest =>
      have topT : t.stack.head? = some serve.plain := by
        rw [← talks.stack,top]
        rfl
      have same : Starved t.core serve.plain ↔ Starved l.core serve := by
        rw [talks.core]
        rfl
      dsimp only
      rw [Layer.bodyTurn]
      split
      · next starved =>
        refine waitTurn_talks files talks top ⟨aliveT,fun v mem => ?_⟩ (fed alive serve (by rw [top]; rfl) starved)
        rw [topT] at mem
        cases mem
        exact same.mpr starved
      · next credit =>
        exact ⟨_,.chunk t serve.plain aliveT topT fun starved => credit (same.mp starved),chunk_talks talks top⟩

end

/-! ### Runs -/

/-- The preface of the client is followed by that of the server. -/
theorem enter_talks (previous : Core) {buf : Mem} {buffered : Nat} (waitBuf : Mem) {incoming rest : List UInt8}
    (preface : slice buf 0 buffered ++ incoming = h2Preface ++ rest) :
    Becomes (Layer.new previous buf buffered waitBuf).enter ⟨incoming,[],false⟩ (.start previous rest) := by
  have ahead : (Layer.new previous buf buffered waitBuf).unread ⟨incoming,[],false⟩ = h2Preface ++ rest := preface
  have long : h2Preface.length = prefaceLen := by decide
  have enough : prefaceLen ≤ ((Layer.new previous buf buffered waitBuf).unread ⟨incoming,[],false⟩).length := by
    rw [ahead,List.length_append,long]
    omega
  obtain ⟨l,p,filled,same,count,unread,zero⟩ := fill_enough _ _ enough
  have cursor : l.cursor = 0 := zero rfl
  have front := payload_unread l p count
  have behind := consume_unread l p count
  rw [unread,ahead,List.take_left' long,cursor,slice_shift,Nat.add_zero] at front
  rw [unread,ahead,List.drop_left' long] at behind
  rw [Layer.enter,Becomes,run_bind,filled]
  dsimp only
  rw [if_neg (by decide),if_pos front,run_bind,send_pipe]
  obtain ⟨kept,left⟩ := compact_alongside (l.consume prefaceLen) p
  have idle : (l.consume prefaceLen).compact.stack = [] := kept.stack.trans same.stack
  have quiet := idle_quiet idle
  change Talks { (l.consume prefaceLen).compact with cursor := 0 } (p.put (encoded [h2SettingsFrame])) _
  refine ⟨kept.core.trans same.core,congrArg (List.map Serve.plain) idle,kept.halted.trans same.halted,
    Layer.held_unheld quiet,?_,fun _ => ?_⟩
  · rw [show Layer.waiting { (l.consume prefaceLen).compact with cursor := 0 } = [] from waiting_none quiet,encoded_none,
      List.append_nil,Pipe.put,kept.outgoing.symm.trans same.outgoing]
    rfl
  · have behind' := compact_slice (l.consume prefaceLen)
    rw [← behind,Layer.unread,Layer.unread,← behind',left]
    rfl

/-- The pipe and the connection after so many turns. -/
def Layer.turns (files : List EmbeddedFile) (l : Layer) (p : Pipe) (n : Nat) : Pipe × Layer :=
  (Layer.connection files l n).run Pipe.serve p

/-- A connection over a pipe goes, turn by turn, through the states of a conversation on the stream of its client, and has
    sent the frames that have been said but for a HEADERS frame that waits for its first chunk. -/
theorem connection_converses (files : List EmbeddedFile) (previous : Core) (buf : Mem) (buffered : Nat) (waitBuf : Mem)
    (incoming rest : List UInt8) (n : Nat) :
    let l := Layer.new previous buf buffered waitBuf
    let p : Pipe := ⟨incoming,[],false⟩
    slice buf 0 buffered ++ incoming = h2Preface ++ rest →
    (∀ k < n, (l.turns files p k).2.Fed (l.turns files p k).1) →
    ∃ t, Conversation.Turns files n (.start previous rest) t ∧ Talks (l.turns files p n).2 (l.turns files p n).1 t := by
  intro l p preface
  induction n with
  | zero =>
    intro _
    rw [Layer.turns,Layer.connection,run_bind]
    exact ⟨_,.none _,enter_talks previous waitBuf preface⟩
  | succ n ih =>
    intro fed
    obtain ⟨t,turns,talks⟩ := ih fun k less => fed k (Nat.lt_succ_of_lt less)
    obtain ⟨t',turn,becomes⟩ := step_talks files talks (fed n (Nat.lt_succ_self n))
    refine ⟨t',.more turns turn,?_⟩
    rw [Layer.turns,Layer.connection,run_bind] at becomes ⊢
    rw [run_repeated]
    exact becomes

/-- The page is asked for without credit, which comes behind. -/
theorem connection_converses_starved :
    let l := Layer.new Core.initial (ofBytes h2Preface) prefaceLen fun _ => 0
    let stream := noCredit.encode ++ (getIndex 1).encode ++ OutFrame.encode ⟨frameWindowUpdate,0,1,octets 4 2⟩
    let p : Pipe := ⟨stream,[],false⟩
    ∃ t, Conversation.Turns welcomeSite 5 (.start Core.initial stream) t ∧
      Talks (l.turns welcomeSite p 5).2 (l.turns welcomeSite p 5).1 t :=
  connection_converses welcomeSite Core.initial (ofBytes h2Preface) prefaceLen (fun _ => 0)
    (noCredit.encode ++ (getIndex 1).encode ++ OutFrame.encode ⟨frameWindowUpdate,0,1,octets 4 2⟩) _ 5
    (by decide +kernel) (by decide +kernel)

end Sarm.H2
