import Sarm.SecureTransport

/-!
Nothing is withheld while the server waits. Output can be held back in two places: by
the transport, whose stage is flushed before it goes to the socket for input, and by the
body writers, whose HEADERS frames wait in the frame buffer for the first chunk.
-/
namespace Sarm.H2
open Sarm.Memory Sarm.Programs

/-! ### What is held back -/

/-- The HEADERS frames that are in the frame buffer. -/
def Layer.held (l : Layer) : List (List UInt8) := l.stack.filterMap Serve.staged

/-- Only the innermost body writer holds its frame back. -/
def Layer.Unheld (l : Layer) : Prop := l.stack.tail.filterMap Serve.staged = []

/-- The socket is read, or closed. -/
structure Moment where
  staged : List UInt8
  held : List (List UInt8)

/-- A transport, with what is staged, and with what is staged each time that a read goes to the socket. -/
structure Port (τ : Type) where
  serve : τ → (c : Call) → τ × c.Result
  staged : τ → List UInt8
  waits : τ → Nat → List (List UInt8)

section
variable {τ : Type}

/-- The moments of a call. -/
def Port.moments (p : Port τ) (made : Made Layer τ Call) : List Moment :=
  match made.call with
  | .read n => (p.waits made.machine n).map fun staged => ⟨staged,made.caller.held⟩
  | .close => [⟨p.staged (p.serve made.machine .close).1,made.caller.held⟩]
  | _ => []

/-- The moments of a connection. -/
def Port.connection (p : Port τ) (files : List EmbeddedFile) (l : Layer) (n : Nat) (t : τ) : List Moment :=
  ((Layer.connection files l n).calls p.serve t).flatMap p.moments

/-- The stage is empty when the socket is read or closed. -/
structure Port.Flushes (p : Port τ) : Prop where
  waits : ∀ t n, ∀ staged ∈ p.waits t n, staged = []
  close : ∀ t, p.staged (p.serve t .close).1 = []

end

/-! ### The layer holds nothing back -/

/-- A call that leads to the socket is made with no frame held back. -/
def Open (l : Layer) : Call → Prop
  | .read _ => l.held = []
  | .close => l.held = []
  | _ => True

namespace Layer
variable {l : Layer}

theorem held_unheld (none : l.held = []) : l.Unheld := by
  rw [held] at none
  rw [Unheld]
  cases stack : l.stack with
  | nil => rfl
  | cons serve rest =>
    rw [stack,List.filterMap_cons] at none
    cases staged : serve.staged with
    | none => simpa [staged] using none
    | some block => simp [staged] at none

theorem finish_held (unheld : l.Unheld) : l.finish.held = [] := by
  rw [Unheld] at unheld
  rw [finish,held]
  cases stack : l.stack with
  | nil => rw [stack]; rfl
  | cons serve rest => rwa [stack] at unheld

theorem setTop_unheld (unheld : l.Unheld) (staged : Option (List UInt8)) (body : List UInt8) :
    (l.setTop staged body).Unheld := by
  rw [Unheld] at unheld ⊢
  rw [setTop]
  cases stack : l.stack with
  | nil => rw [stack]; rfl
  | cons serve rest => rwa [stack] at unheld

theorem setTop_held (unheld : l.Unheld) (body : List UInt8) : (l.setTop none body).held = [] := by
  rw [Unheld] at unheld
  rw [setTop,held]
  cases stack : l.stack with
  | nil => rw [stack]; rfl
  | cons serve rest =>
    rw [stack] at unheld
    rw [List.filterMap_cons_none rfl]
    exact unheld

/-! ### Writing never goes to the socket for input -/

theorem send_meets (l : Layer) (f : OutFrame) : (l.send f).Meets Open fun _ => True := ⟨trivial,fun _ => trivial⟩

theorem sendAll_meets (l : Layer) (frames : List OutFrame) : (l.sendAll frames).Meets Open fun _ => True := by
  induction frames with
  | nil => exact trivial
  | cons f frames ih => exact meets_bind (l.send_meets f) fun _ _ => ih

theorem writeHeaders_meets (l : Layer) (r : Response) (streamId extra : Nat) :
    (l.writeHeaders r streamId extra).Meets Open fun _ => True := by
  rw [writeHeaders]
  cases headersFrame r streamId extra with
  | none => exact trivial
  | some f => exact l.send_meets f

theorem replyStatus_meets (l : Layer) (streamId status : Nat) :
    (l.replyStatus streamId status).Meets Open fun _ => True :=
  meets_bind (l.writeHeaders_meets _ _ _) fun _ _ => trivial

theorem abort_meets (unheld : l.Unheld) : l.abort.Meets Open fun l' => l'.held = [] := by
  rw [abort]
  cases stack : l.stack with
  | nil => exact show l.held = [] by rw [held,stack]; rfl
  | cons serve rest => exact meets_bind (l.replyStatus_meets _ _) fun _ _ => finish_held unheld

theorem close_meets (none : l.held = []) : l.close.Meets Open Unheld :=
  ⟨trivial,fun _ => ⟨none,fun _ => held_unheld none⟩⟩

theorem respond_meets (unheld : l.Unheld) (streamId : Nat) (a : Answer) : (l.respond streamId a).Meets Open Unheld := by
  have aborted := meets_mono (abort_meets unheld) fun _ => held_unheld
  cases a with
  | status code => exact meets_bind (l.replyStatus_meets _ _) fun _ _ => held_unheld (finish_held unheld)
  | headers r =>
    refine meets_bind (l.writeHeaders_meets _ _ _) fun ok _ => ?_
    cases ok with
    | true => exact held_unheld (finish_held unheld)
    | false => exact aborted
  | body r =>
    rw [respond]
    cases headersFrame r streamId 0 with
    | none => exact aborted
    | some f =>
      dsimp only
      split
      · exact setTop_unheld unheld _ _
      · refine meets_bind (l.send_meets f) fun ok _ => ?_
        cases ok with
        | true => exact setTop_unheld unheld _ _
        | false => exact aborted

/-- A request is served inside another one whose frame has gone out. -/
theorem hook_meets (none : l.held = []) (files : List EmbeddedFile) (streamId : Nat) :
    (l.hook files streamId).Meets Open Unheld := by
  rw [hook]
  split
  · exact held_unheld none
  cases h2StreamFind l.core.table streamId with
  | none => exact held_unheld none
  | some slot =>
    dsimp only
    split
    · exact respond_meets (l := l.push ⟨streamId,slot,Option.none,[]⟩) none streamId _
    · exact held_unheld none

theorem dispatch_meets (none : l.held = []) (hdr : FrameHeader) (payload : Mem) :
    (l.dispatch hdr payload).Meets Open fun result => result.1.held = [] :=
  meets_bind (sendAll_meets _ _) fun _ _ => none

theorem reset_meets (none : l.held = []) (streamId : Nat) (e : H2Error) : (l.reset streamId e).Meets Open Unheld :=
  meets_bind (l.send_meets _) fun _ _ => held_unheld none

/-! ### The frame loop -/

theorem fill_meets (none : l.held = []) (n : Nat) : (l.fill n).Meets Open fun result => result.1.held = [] := by
  have same : l.compact.held = l.held := by
    rw [compact]
    split <;> rfl
  rw [fill]
  split
  · exact none
  refine ⟨same.trans none,fun got => ?_⟩
  cases got <;> exact same.trans none

theorem away_meets (none : l.held = []) (e : H2Error) : ((l.goaway e).bind fun _ => l.close).Meets Open Unheld :=
  meets_bind (l.send_meets _) fun _ _ => close_meets none

theorem settle_meets (none : l.held = []) (files : List EmbeddedFile) (hdr : FrameHeader) (error : Option H2Error) :
    (l.settle files hdr error).Meets Open Unheld := by
  have rest : (l.consume hdr.length).held = [] := none
  cases error with
  | none => exact hook_meets rest files _
  | some e =>
    rw [settle]
    split
    · split
      · exact close_meets rest
      · exact reset_meets rest _ e
    · exact away_meets rest e

theorem connectionTurn_meets (none : l.held = []) (files : List EmbeddedFile) :
    (l.connectionTurn files).Meets Open Unheld := by
  refine meets_bind (fill_meets none _) fun filled none => ?_
  obtain ⟨l,ok⟩ := filled
  cases ok with
  | false => exact close_meets none
  | true =>
    dsimp only
    rw [if_neg (by decide)]
    have none : (l.consume wireHeaderLen).held = [] := none
    generalize l.consume wireHeaderLen = l at none
    split
    · exact away_meets none _
    refine meets_bind (fill_meets none _) fun filled none => ?_
    obtain ⟨l,ok⟩ := filled
    cases ok with
    | false => exact close_meets none
    | true => exact meets_bind (dispatch_meets none _ _) fun result none => settle_meets none files _ result.2

/-! ### The body writers -/

theorem sendChunk_meets (unheld : l.Unheld) (serve : Serve) (chunk : Nat) :
    (l.sendChunk serve chunk).Meets Open Unheld := by
  refine ⟨trivial,fun (ok : Bool) => ?_⟩
  cases ok with
  | false => exact meets_mono (abort_meets unheld) fun _ => held_unheld
  | true =>
    dsimp only
    rw [if_pos rfl]
    split
    · exact held_unheld (finish_held (l := { l with core := l.core.charge serve.slot chunk }) unheld)
    · exact setTop_unheld (l := { l with core := l.core.charge serve.slot chunk }) unheld none _

theorem waitRead_meets (none : l.held = []) (n : Nat) : (l.waitRead n).Meets Open fun result => result.1.held = [] := by
  refine ⟨none,fun got => ?_⟩
  cases got <;> exact none

theorem waitSettle_meets (none : l.held = []) (files : List EmbeddedFile) (hdr : FrameHeader) (error : Option H2Error) :
    (l.waitSettle files hdr error).Meets Open Unheld := by
  have unheld := held_unheld none
  cases error with
  | none => exact hook_meets none files _
  | some e =>
    rw [waitSettle]
    split
    · split
      · exact unheld
      · exact reset_meets none _ e
    split
    · exact meets_mono (abort_meets unheld) fun _ => held_unheld
    · exact held_unheld (finish_held unheld)

theorem waitFrame_meets (none : l.held = []) (files : List EmbeddedFile) : (l.waitFrame files).Meets Open Unheld := by
  have aborted : ∀ {l : Layer}, l.held = [] → l.abort.Meets Open Unheld :=
    fun none => meets_mono (abort_meets (held_unheld none)) fun _ => held_unheld
  refine meets_bind (waitRead_meets none _) fun read none => ?_
  obtain ⟨l,ok⟩ := read
  cases ok with
  | false => exact aborted none
  | true =>
    dsimp only
    rw [if_neg (by decide)]
    split
    · exact aborted none
    refine meets_bind (waitRead_meets none _) fun read none => ?_
    obtain ⟨l,ok⟩ := read
    cases ok with
    | false => exact aborted none
    | true => exact meets_bind (dispatch_meets none _ _) fun result none => waitSettle_meets none files _ result.2

/-- The frame that is held back goes out before the writer waits. -/
theorem waitTurn_meets (unheld : l.Unheld) {serve : Serve} {rest : List Serve} (top : l.stack = serve :: rest)
    (files : List EmbeddedFile) : (l.waitTurn files serve).Meets Open Unheld := by
  rw [waitTurn]
  cases staged : serve.staged with
  | none =>
    have none : l.held = [] := by
      rw [held,top,List.filterMap_cons_none staged]
      rwa [Unheld,top] at unheld
    exact waitFrame_meets none files
  | some block =>
    refine meets_bind (l.send_meets _) fun ok _ => ?_
    cases ok with
    | true => exact waitFrame_meets (setTop_held unheld _) files
    | false => exact meets_mono (abort_meets unheld) fun _ => held_unheld

/-! ### Runs -/

theorem step_kept (files : List EmbeddedFile) : Programs.Kept Open Unheld (step files) := by
  intro l unheld
  rw [step]
  split
  · exact unheld
  cases stack : l.stack with
  | nil => exact connectionTurn_meets (show l.held = [] by rw [held,stack]; rfl) files
  | cons serve rest =>
    dsimp only [bodyTurn]
    split
    · exact waitTurn_meets unheld stack files
    · exact sendChunk_meets unheld serve _

theorem enter_meets (none : l.held = []) : l.enter.Meets Open Unheld := by
  refine meets_bind (fill_meets none _) fun filled none => ?_
  obtain ⟨l,ok⟩ := filled
  cases ok with
  | false => exact close_meets none
  | true =>
    dsimp only
    rw [if_neg (by decide)]
    split
    · have none : ({ (l.consume prefaceLen).compact with cursor := 0 } : Layer).held = [] := by
        rw [compact]
        split <;> exact none
      refine meets_bind (send_meets _ _) fun ok _ => ?_
      cases ok with
      | true => exact held_unheld none
      | false => exact close_meets none
    · exact close_meets none

theorem connection_meets (none : l.held = []) (files : List EmbeddedFile) (n : Nat) :
    (connection files l n).Meets Open Unheld :=
  meets_bind (enter_meets none) (repeated_meets (step_kept files) n)

end Layer

/-- Over a transport that flushes its stage nothing is held back at any moment. -/
theorem moments_clear {τ : Type} {p : Port τ} (flushes : p.Flushes) (files : List EmbeddedFile) {l : Layer}
    (none : l.held = [])
    (n : Nat) (t : τ) : ∀ moment ∈ p.connection files l n t, moment.staged = [] ∧ moment.held = [] := by
  intro moment there
  obtain ⟨made,call,there⟩ := List.mem_flatMap.mp there
  have clear := meets_calls p.serve (Layer.connection_meets none files n) t made call
  rw [Port.moments] at there
  cases what : made.call with
  | read n =>
    rw [what] at there clear
    obtain ⟨staged,waits,rfl⟩ := List.mem_map.mp there
    exact ⟨flushes.waits _ _ staged waits,clear⟩
  | close =>
    rw [what] at there clear
    rw [List.mem_singleton.mp there]
    exact ⟨flushes.close _,clear⟩
  | write _ => rw [what] at there; cases there
  | writev _ _ => rw [what] at there; cases there
  | flush => rw [what] at there; cases there

/-! ### The plaintext transport -/

/-- A read of the socket, with what is staged each time that it is made. -/
def waitLoop : List ReadEvent → Nat → List UInt8 → Transport → (Transport × Option (List UInt8)) × List (List UInt8)
  | reads, wanted, got, t =>
    if wanted ≤ t.readStage.length then
      (({ t with reads := reads, readStage := t.readStage.drop wanted },some (got ++ t.readStage.take wanted)),[])
    else match Transport.flush { t with readStage := [] } with
      | (t',false) => (({ t' with reads := reads },none),[])
      | (t',true) => match reads with
        | [] => (({ t' with reads := [] },none),[t'.writeStage])
        | .data first rest :: reads =>
          match waitLoop reads (wanted - t.readStage.length)
            (got ++ t.readStage) { t' with readStage := first :: rest } with
          | (result,waits) => (result,t'.writeStage :: waits)
        | .interrupted :: reads =>
          match waitLoop reads (wanted - t.readStage.length) (got ++ t.readStage) t' with
          | (result,waits) => (result,t'.writeStage :: waits)
        | .failed :: reads => (({ t' with reads := reads },none),[t'.writeStage])

/-- The transport of a plaintext connection. -/
def plain : Port Transport where
  serve := Transport.serve
  staged := Transport.writeStage
  waits t n := (waitLoop t.reads n [] t).2

/-- It is the read of the transport. -/
theorem waitLoop_result : ∀ (reads : List ReadEvent) (wanted : Nat) (got : List UInt8) (t : Transport),
    (waitLoop reads wanted got t).1 = readLoop reads wanted got t := by
  intro reads
  induction reads with
  | nil =>
    intro wanted got t
    rw [waitLoop,readLoop]
    split
    · rfl
    cases Transport.flush { t with readStage := [] } with
    | mk t' ok => cases ok <;> rfl
  | cons event reads ih =>
    intro wanted got t
    rw [waitLoop,readLoop]
    split
    · rfl
    cases Transport.flush { t with readStage := [] } with
    | mk t' ok =>
      cases ok with
      | false => rfl
      | true =>
        cases event with
        | data first rest => exact ih _ _ _
        | interrupted => exact ih _ _ _
        | failed => rfl

theorem plain_serve (t : Transport) (n : Nat) :
    (plain.serve t (.read n) : Transport × Option (List UInt8)) = (waitLoop t.reads n [] t).1 :=
  (waitLoop_result t.reads n [] t).symm

theorem waitLoop_flushed : ∀ (reads : List ReadEvent) (wanted : Nat) (got : List UInt8) (t : Transport),
    ∀ staged ∈ (waitLoop reads wanted got t).2, staged = [] := by
  intro reads
  induction reads with
  | nil =>
    intro wanted got t
    rw [waitLoop]
    split
    · exact fun _ there => nomatch there
    have empty := flush_empty { t with readStage := [] }
    cases flushed : Transport.flush { t with readStage := [] } with
    | mk t' ok =>
      rw [flushed] at empty
      cases ok with
      | false => exact fun _ there => nomatch there
      | true => exact fun _ there => (List.mem_singleton.mp there).trans empty
  | cons event reads ih =>
    intro wanted got t
    rw [waitLoop]
    split
    · exact fun _ there => nomatch there
    have empty := flush_empty { t with readStage := [] }
    cases flushed : Transport.flush { t with readStage := [] } with
    | mk t' ok =>
      rw [flushed] at empty
      cases ok with
      | false => exact fun _ there => nomatch there
      | true =>
        cases event with
        | data first rest => exact List.forall_mem_cons.mpr ⟨empty,ih _ _ _⟩
        | interrupted => exact List.forall_mem_cons.mpr ⟨empty,ih _ _ _⟩
        | failed => exact fun _ there => (List.mem_singleton.mp there).trans empty

theorem plain_flushes : plain.Flushes := ⟨fun t n => waitLoop_flushed t.reads n [] t,flush_empty⟩

/-! ### The encrypted transport -/

/-- The transport of an encrypted connection. -/
def secure (k : Tls.Keys) : Port Tls.Transport where
  serve := Tls.Transport.serve k
  staged t := t.stage.staged
  waits t n := (t.readLoop k n []).2

theorem stage_empty {σ : Type} (now : σ → List UInt8 → σ × Bool) (w : Staging.Stage σ) : (w.flush now).1.staged = [] := by
  apply Staging.staged_empty
  rw [Staging.Stage.flush]
  split
  · assumption
  · rfl

theorem readLoop_flushed (k : Tls.Keys) (wanted : Nat) (got : List UInt8) (t : Tls.Transport) :
    ∀ staged ∈ (t.readLoop k wanted got).2, staged = [] := by
  have empty : ∀ {w w' : Staging.Stage Tls.Sealed} {ok : Bool} {times : Nat}, w.flush (Tls.writeRecords k.server) =
    (w',ok) →
      ∀ staged ∈ List.replicate times w'.staged, staged = [] := by
    intro w w' ok times flushed staged there
    rw [List.eq_of_mem_replicate there]
    have empty := stage_empty (Tls.writeRecords k.server) w
    rwa [flushed] at empty
  fun_induction Tls.Transport.readLoop k wanted got t with
  | case1 => exact fun _ there => nomatch there
  | case2 => exact fun _ there => nomatch there
  | case3 _ _ _ _ _ flushed => exact empty flushed
  | case4 _ _ _ _ _ flushed => exact empty flushed
  | case5 _ _ _ _ _ flushed _ _ _ _ _ _ _ _ more _ ih =>
    intro staged there
    rw [more] at ih
    rcases List.mem_append.mp there with here | later
    · exact empty flushed staged here
    · exact ih staged later
  | case6 _ _ _ _ _ flushed => exact empty flushed

theorem secure_flushes (k : Tls.Keys) : (secure k).Flushes := by
  refine ⟨fun t n => readLoop_flushed k n [] t,fun t => ?_⟩
  exact stage_empty _ t.stage

/-! ### The law -/

/-- No HTTP/2 connection waits for its peer, or closes its socket, while it withholds
    output, be it in the stage of the transport or in the frame buffer. -/
theorem nothing_withheld (files : List EmbeddedFile) (n : Nat) :
    (∀ e : Entry,
    ∀ moment ∈ plain.connection files (Layer.new e.previous e.buf e.buffered e.waitBuf) n e.server.transport,
      moment.staged = [] ∧ moment.held = []) ∧
    ∀ (k : Tls.Keys) (previous : Core) (buf : Mem) (waitBuf : Mem) (t : Tls.Transport),
      ∀ moment ∈ (secure k).connection files (Layer.new previous buf 0 waitBuf) n t, moment.staged = [] ∧
    moment.held = [] :=
  ⟨fun _ => moments_clear plain_flushes files rfl n _,fun k _ _ _ t => moments_clear (secure_flushes k) files rfl n t⟩

end Sarm.H2
