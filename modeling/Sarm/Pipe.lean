import Sarm.Closing
import Sarm.Delivery
import Sarm.Passing

/-!
A connection over a pipe: reads get the octets that are coming in, writes add to those going out, and nothing else can
happen but that the octets coming in end. Whatever transport keeps to a few laws serves a connection as a pipe does.
-/
namespace Sarm.H2
open Sarm.Memory Sarm.Programs

/-! ### The pipe -/

structure Pipe where
  incoming : List UInt8
  outgoing : List UInt8
  ended : Bool

def Pipe.serve (p : Pipe) : (c : Call) → Pipe × c.Result
  | .write data => ({ p with outgoing := p.outgoing ++ data },true)
  | .writev header body => ({ p with outgoing := p.outgoing ++ (header ++ body) },true)
  | .read n =>
    if n ≤ p.incoming.length then ({ p with incoming := p.incoming.drop n },some (p.incoming.take n))
    else ({ p with ended := true },none)
  | .flush => (p,true)
  | .close => (p,true)

/-- The octets of a call. -/
def Call.octets : Call → List UInt8
  | .write data => data
  | .writev header body => header ++ body
  | .read _ => []
  | .flush => []
  | .close => []

def Call.reads : Call → Bool
  | .read _ => true
  | .write _ => false
  | .writev _ _ => false
  | .flush => false
  | .close => false

section
variable {τ : Type} (serve : τ → (c : Call) → τ × c.Result)

/-- What a call has to write is taken: of a read, what is staged in front of it. -/
def Writes (t : τ) : Call → Bool
  | .write data => (serve t (.write data)).2
  | .writev header body => (serve t (.writev header body)).2
  | .read _ => (serve t .flush).2
  | .flush => (serve t .flush).2
  | .close => (serve t .close).2

/-- No write fails, and nothing is read behind the end. -/
def Smooth (t : τ × Pipe) (c : Call) : Prop := Writes serve t.1 c = true ∧ (c.reads = true → t.2.ended = false)

instance (t : τ × Pipe) (c : Call) : Decidable (Smooth serve t c) := inferInstanceAs (Decidable (_ ∧ (_ → _)))

/-- A transport that keeps `Sound`, whose reads are served from a stream and whose writes add to what it has sent.
    It is closed only when it is `Clear`, which it is behind a flush. -/
structure Faithful (stream : τ → List UInt8) (Sound Clear : τ → Prop) (Sent : τ → List UInt8 → Prop) : Prop where
  streams : Streams serve stream
  flushed : ∀ t, Clear (serve t .flush).1
  writes : ∀ t c data, Sound t → (c = .close → Clear t) → Sent t data → Writes serve t c = true →
    Sound (serve t c).1 ∧ Sent (serve t c).1 (data ++ c.octets)

/-- A transport that has come as far as a pipe. -/
structure Mirrors (stream : τ → List UInt8) (Sound : τ → Prop) (Sent : τ → List UInt8 → Prop) (t : τ) (p : Pipe) : Prop where
  sound : Sound t
  sent : Sent t p.outgoing
  coming : p.ended = false → p.incoming = stream t

variable {serve} {stream : τ → List UInt8} {Sound Clear : τ → Prop} {Sent : τ → List UInt8 → Prop}

theorem Faithful.mirrors (faithful : Faithful serve stream Sound Clear Sent) (t : τ) (p : Pipe) (c : Call)
    (mirrors : Mirrors stream Sound Sent t p) (closing : c = .close → Clear t) (smooth : Smooth serve (t,p) c) :
    (p.serve c).2 = (serve t c).2 ∧ Mirrors stream Sound Sent (serve t c).1 (p.serve c).1 := by
  obtain ⟨written,open_⟩ := smooth
  obtain ⟨sound,sent⟩ := faithful.writes t c p.outgoing mirrors.sound closing mirrors.sent written
  have streams := faithful.streams
  cases c with
  | write data => exact ⟨written.symm,sound,sent,fun on => (mirrors.coming on).trans (streams.wrote t data).symm⟩
  | writev header body =>
    exact ⟨written.symm,sound,sent,fun on => (mirrors.coming on).trans (streams.gathered t header body).symm⟩
  | flush =>
    rw [Call.octets,List.append_nil] at sent
    exact ⟨written.symm,sound,sent,fun on => (mirrors.coming on).trans (streams.flushed t).symm⟩
  | close =>
    rw [Call.octets,List.append_nil] at sent
    exact ⟨written.symm,sound,sent,fun on => (mirrors.coming on).trans (streams.closed t).symm⟩
  | read n =>
    rw [Call.octets,List.append_nil] at sent
    have coming := mirrors.coming (open_ rfl)
    cases read : serve t (.read n) with
    | mk t' result =>
    rw [read] at sound sent
    cases result with
    | some bytes =>
      obtain ⟨enough,front,rest⟩ := streams.got t t' n bytes read
      rw [Pipe.serve,coming,if_pos enough]
      exact ⟨by rw [front],sound,sent,fun _ => rest.symm⟩
    | none =>
      -- What is staged has been written, so the stream is too short.
      have short : ¬n ≤ (stream t).length := fun enough => by
        cases written.symm.trans (streams.failed t t' n read enough)
      rw [Pipe.serve,coming,if_neg short]
      exact ⟨rfl,sound,sent,fun none => by cases none⟩

/-- A connection over such a transport goes through the states of one over a pipe, and has sent what has gone into that. -/
theorem Faithful.connection (faithful : Faithful serve stream Sound Clear Sent) (files : List EmbeddedFile) (l : Layer)
    (n : Nat) {t : τ} {p : Pipe} (mirrors : Mirrors stream Sound Sent t p)
    (smooth : ∀ made ∈ (Layer.connection files l n).calls (beside serve Pipe.serve) (t,p),
    Smooth serve made.machine made.call) :
    ((Layer.connection files l n).run Pipe.serve p).2 = ((Layer.connection files l n).run serve t).2 ∧
      Mirrors stream Sound Sent ((Layer.connection files l n).run serve t).1
        ((Layer.connection files l n).run Pipe.serve p).1 := by
  have ready (t : τ) (c : Call) (flush : c = .flush) : Clear (serve t c).1 := by
    rw [flush]
    exact faithful.flushed t
  exact run_refines faithful.mirrors ready (l.connection_closes files n) mirrors False.elim smooth

end

/-! ### A plaintext connection -/

/-- A transport whose stage holds no more than fits is one over the stage as it is stored. -/
theorem exists_stage (t : Transport) (fits : t.writeStage.length ≤ writeStageSize) :
    ∃ w : Staging.Stage Staging.Socket, t = w.transport t.reads t.readStage ∧ w.buffering = true ∧ w.Sound := by
  refine ⟨⟨⟨t.writes,t.wire⟩,true,ofBytes t.writeStage,t.writeStage.length⟩,?_,rfl,fits,fun off => by cases off⟩
  rw [Staging.Stage.transport,Staging.Stage.staged]
  dsimp only
  rw [slice_ofBytes]

/-- What has reached the wire, and behind it what is staged. -/
def Transport.output (t : Transport) : List UInt8 := t.wire ++ t.writeStage

/-- A transport that has brought these octets to the wire or into its stage. -/
structure Brought (t : Transport) (data : List UInt8) (t' : Transport) : Prop where
  output : t'.output = t.output ++ data
  fits : t'.writeStage.length ≤ writeStageSize

/-- A call that is one of the stage. -/
theorem made_brought {t t' : Transport} (fits : t.writeStage.length ≤ writeStageSize) (c : Staging.Call)
    (made : ∀ w : Staging.Stage Staging.Socket, w.buffering = true → w.Sound → t = w.transport t.reads t.readStage →
      (t',true) = Staging.lifted t.reads t.readStage (c.make w)) : Brought t c.octets t' := by
  obtain ⟨w,same,on,sound⟩ := exists_stage t fits
  have result := made w on sound same
  cases done : c.make w with
  | mk w' ok =>
    rw [done,Staging.lifted] at result
    obtain ⟨rfl,good⟩ := Prod.mk.inj result
    cases good
    have brings := Staging.call_brings sound done
    refine ⟨?_,?_⟩
    · rw [same]
      exact brings.output
    · rw [Staging.staged_length]
      exact brings.sound.1

theorem flush_brought {t t' : Transport} (fits : t.writeStage.length ≤ writeStageSize) (done : t.flush = (t',true)) :
    Brought t [] t' := by
  refine made_brought fits .flush fun w on sound same => ?_
  rw [← done,same]
  exact Staging.flush_transport

/-- Reading writes what is staged, if it can. -/
theorem readLoop_brought : ∀ (reads : List ReadEvent) (n : Nat) (got : List UInt8) (t : Transport),
    t.writeStage.length ≤ writeStageSize → t.flush.2 = true → Brought t [] (readLoop reads n got t).1 := by
  intro reads
  induction reads with
  | nil =>
    intro n got t fits flushes
    rw [readLoop]
    split
    · exact ⟨(List.append_nil _).symm,fits⟩
    rw [← flush_ok t []] at flushes
    split
    · next t' failed =>
      rw [failed] at flushes
      cases flushes
    · next t' done =>
      have brought := flush_brought (t := { t with readStage := [] }) fits done
      exact ⟨brought.output,brought.fits⟩
  | cons event reads ih =>
    intro n got t fits flushes
    rw [readLoop]
    split
    · exact ⟨(List.append_nil _).symm,fits⟩
    rw [← flush_ok t []] at flushes
    split
    · next t' failed =>
      rw [failed] at flushes
      cases flushes
    · next t' done =>
      have brought := flush_brought (t := { t with readStage := [] }) fits done
      have empty := flush_empty { t with readStage := [] }
      rw [done] at empty
      -- The rest of the loop starts with nothing staged.
      have behind {stage : List UInt8} {n : Nat} {got : List UInt8} :
          Brought t [] (readLoop reads n got { t' with readStage := stage }).1 := by
        have rest := ih n got { t' with readStage := stage } brought.fits (congrArg Prod.snd (if_pos empty))
        refine ⟨rest.output.trans ?_,rest.fits⟩
        rw [List.append_nil]
        exact brought.output
      cases event with
      | data first rest => exact behind
      | interrupted => exact behind
      | failed => exact ⟨brought.output,brought.fits⟩

/-- What a plaintext connection has sent since its wire held `before`. -/
def Transport.Sent (before : List UInt8) (t : Transport) (data : List UInt8) : Prop := t.output = before ++ data

theorem plain_faithful (before : List UInt8) :
    Faithful Transport.serve Transport.stream (fun t => t.writeStage.length ≤ writeStageSize) (fun _ => True)
      (Transport.Sent before) where
  streams := serve_streams
  flushed _ := trivial
  writes t c data fits _ sent written := by
    have brought : Brought t c.octets (Transport.serve t c).1 := by
      cases c with
      | write data =>
        have result : t.write data = ((Transport.serve t (.write data)).1,true) := Prod.ext rfl written
        refine made_brought fits (.write data) fun w on sound same => result.symm.trans ?_
        exact (congrArg (Transport.write · data) same).trans (Staging.write_transport on sound.1)
      | writev header body =>
        have result : t.writev header body = ((Transport.serve t (.writev header body)).1,true) := Prod.ext rfl written
        refine made_brought fits (.writev header body) fun w on sound same => result.symm.trans ?_
        exact (congrArg (Transport.writev · header body) same).trans (Staging.writev_transport on sound.1)
      | read n => exact readLoop_brought _ _ _ _ fits written
      | flush => exact flush_brought fits (Prod.ext rfl written)
      | close => exact flush_brought fits (Prod.ext rfl written)
    refine ⟨brought.fits,?_⟩
    rw [Transport.Sent,brought.output,sent,List.append_assoc]

/-! ### The server -/

end Sarm.H2
