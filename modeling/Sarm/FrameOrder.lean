import Sarm.Acts

/-!
The order of frames. Two loops read them: the frame loop from what it has buffered
with the preface and then from the transport, the body writer from the transport
alone. What they dispatch together is the stream of the client in order, as long as
the body writer finds nothing buffered, rejects no header and loses no octets that
others follow.
-/
namespace Sarm.H2
open Sarm.Memory Sarm.Trace

/-- The frame an event hands to its handler. -/
def Event.dispatched : Event → Option (FrameHeader × List UInt8)
  | .frame _ _ hdr payload => some (hdr,slice payload 0 hdr.length)
  | _ => none

/-- The frames handed to their handlers. -/
def dispatched (log : List Event) : List (FrameHeader × List UInt8) := log.filterMap Event.dispatched

/-- The stream of the client behind the preface. -/
def Entry.stream (e : Entry) : List UInt8 := (slice e.buf 0 e.buffered ++ arriving e.reads).drop prefaceLen

/-- What the frame loop and the body writer do not get in each other's way with. -/
def Event.InStep : Event → Prop
  | .waiting unparsed => unparsed = 0
  | .waitFailed lost left => lost = 0 ∨ left = 0
  | .refused _ serving _ => serving = []
  | _ => True

instance : DecidablePred Event.InStep
  | .waiting unparsed => inferInstanceAs (Decidable (unparsed = 0))
  | .waitFailed lost left => inferInstanceAs (Decidable (lost = 0 ∨ left = 0))
  | .refused _ serving _ => inferInstanceAs (Decidable (serving = []))
  | .frame _ _ _ _ | .sent _ _ | .data _ _ _ | .serve _ _ _ _ => isTrue trivial

@[simp] theorem dispatched_snoc (log : List Event) (e : Event) :
    dispatched (log ++ [e]) = dispatched log ++ e.dispatched.toList := by
  rw [dispatched,List.filterMap_append]
  cases frame : e.dispatched <;> simp [dispatched,frame]

/-- A frame with its header in front is the first of what it is in front of. -/
theorem RawFrame.first {raw : List UInt8} {hdr : FrameHeader} {payload : Mem} (of : RawFrame raw hdr payload)
    (rest : List UInt8) :
    parseFrames (raw ++ rest) = (hdr,slice payload 0 hdr.length) :: parseFrames rest := by
  have header : (raw.take wireHeaderLen).length = wireHeaderLen := by
    rw [List.length_take,of.length]
    omega
  have whole : (raw.drop wireHeaderLen).length = (h2ParseFrameHeader (ofBytes (raw.take wireHeaderLen))).length := by
    rw [← of.header,List.length_drop,of.length]
    omega
  have split := frameSplit_whole rest header whole
  rw [List.take_append_drop,← of.header,← of.payload] at split
  exact parseFrames_some split

/-! ### Acts -/

/-- What has been dispatched begins the stream; until the connection is over, it is the
    stream less what is still to be parsed. -/
structure Ordered (stream : List UInt8) (s : Server) : Prop where
  front : dispatched s.log <+: parseFrames stream
  rest : s.halted = false → dispatched s.log ++ parseFrames (s.unparsed ++ s.incoming) = parseFrames stream

/-- Nothing is dispatched, and what is still to be parsed stays. -/
theorem Ordered.same {stream : List UInt8} {s s' : Server} (ordered : Ordered stream s)
    (log : dispatched s'.log = dispatched s.log)
    (halted : s'.halted = false → s.halted = false)
    (octets : s'.halted = false → parseFrames (s'.unparsed ++ s'.incoming) = parseFrames (s.unparsed ++ s.incoming)) :
    Ordered stream s' := by
  constructor
  · rw [log]
    exact ordered.front
  · intro alive
    rw [log,octets alive]
    exact ordered.rest (halted alive)

theorem setTop_octets (s : Server) (staged : Option (List UInt8)) (body : List UInt8) :
    (s.setTop staged body).unparsed = s.unparsed ∧ (s.setTop staged body).incoming = s.incoming := by
  rw [Server.setTop]
  split <;> exact ⟨rfl,rfl⟩

theorem finish_octets (s : Server) : s.finish.unparsed = s.unparsed ∧ s.finish.incoming = s.incoming := by
  rw [Server.finish]
  split <;> exact ⟨rfl,rfl⟩

/-- The body writer waits with nothing buffered. -/
theorem waited_empty {s : Server} (meets : Meets Event.InStep s.log) (waited : .waiting s.count ∈ s.log) :
    s.unparsed = [] := by
  have empty : s.count = 0 := meets _ waited
  rw [Server.unparsed,empty]
  rfl

theorem ordered_keeps (stream : List UInt8) : acts.Keeps Event.InStep (Ordered stream) := by
  intro s s' act meets ordered
  have before : Meets Event.InStep s.log := meets.of_prefix act.grows
  cases act with
  | moved _ _ halted log kept =>
    exact ordered.same (by rw [log]) (by rw [halted]; exact id) (fun _ => by rw [kept.octets])
  | sent _ _ halted log kept _ _ =>
    exact ordered.same (by rw [log]; simp [Event.dispatched]) (by rw [halted]; exact id) (fun _ => by rw [kept.octets])
  | @frame _ hdr payload raw _ _ alive _ _ log of used =>
    -- The frame is the first of what was to be parsed, in either loop.
    have first : parseFrames (s.unparsed ++ s.incoming) =
        (hdr,slice payload 0 hdr.length) :: parseFrames (s'.unparsed ++ s'.incoming) := by
      by_cases idle : s.stack = []
      · rw [used.loop idle]
        exact of.first _
      · obtain ⟨taken,parked⟩ := used.wait idle
        rw [parked,waited_empty before (used.waited idle),taken]
        exact of.first _
    have whole := ordered.rest alive
    rw [first] at whole
    have log' : dispatched s'.log = dispatched s.log ++ [(hdr,slice payload 0 hdr.length)] := by
      rw [log,dispatched_snoc]
      rfl
    have rest : dispatched s'.log ++ parseFrames (s'.unparsed ++ s'.incoming) = parseFrames stream := by
      rw [log',← whole,List.append_assoc]
      rfl
    exact ⟨⟨_,rest⟩,fun _ => rest⟩
  | @refused _ hdr _ _ halted _ log =>
    have idle := (log ▸ meets : Meets Event.InStep (s.log ++ [.refused s.core s.serving hdr])).append
    have ended : s'.halted = true := halted (List.map_eq_nil_iff.mp idle)
    refine ordered.same (by rw [log]; simp [Event.dispatched]) ?_ ?_
    · rw [ended]
      rintro ⟨⟩
    · rw [ended]
      rintro ⟨⟩
  | waiting _ =>
    exact ordered.same
      (by rw [show (s.emit (.waiting s.count)).log = s.log ++ [.waiting s.count] from rfl]; simp [Event.dispatched])
      id (fun _ => rfl)
  | @waitFailed _ lost _ _ halted _ log gone =>
    have harmless := (log ▸ meets : Meets Event.InStep (s.log ++ [.waitFailed lost.length s'.incoming.length])).append
    refine ordered.same (by rw [log]; simp [Event.dispatched]) (by rw [halted]; exact id) (fun _ => ?_)
    rw [gone.parked,waited_empty before gone.waited,List.nil_append,List.nil_append,gone.taken]
    rcases harmless with nothing | last
    · rw [List.length_eq_zero_iff.mp nothing]
      rfl
    · rw [List.length_eq_zero_iff.mp last,List.append_nil,parseFrames_none gone.partly]
      rfl
  | @serve streamId slot _ _ _ _ _ =>
    refine ordered.same ?_ id (fun _ => rfl)
    show dispatched (s.log ++ [.serve s.core s.serving streamId slot]) = _
    simp [Event.dispatched]
  | top staged body =>
    obtain ⟨parked,incoming⟩ := setTop_octets s staged body
    exact ordered.same (by rw [setTop_log]) (by rw [setTop_halted]; exact id) (fun _ => by rw [parked,incoming])
  | @charged serve rest _ _ =>
    refine ordered.same ?_ id (fun _ => rfl)
    show dispatched (s.log ++ [.data s.core (s.core.charge serve.slot (chunkLength s.core serve)) _]) = _
    simp [Event.dispatched]
  | finish =>
    obtain ⟨parked,incoming⟩ := finish_octets s
    exact ordered.same (by rw [finish_log]) (by rw [finish_halted]; exact id) (fun _ => by rw [parked,incoming])
  | ends _ _ _ log ended =>
    refine ordered.same (by rw [log]) ?_ ?_
    · rw [ended]
      rintro ⟨⟩
    · rw [ended]
      rintro ⟨⟩

theorem enter_ordered (e : Entry) : Ordered e.stream (h2ConnectionLoop e) := by
  obtain ⟨_,_,log,octets⟩ := enter_entered e
  have nothing : dispatched (h2ConnectionLoop e).log = [] := by
    rcases log with none | ⟨ok,settings⟩
    · rw [none]
      rfl
    · rw [settings]
      rfl
  constructor
  · rw [nothing]
    exact List.nil_prefix
  · intro alive
    rw [nothing,List.nil_append,octets alive]
    rfl

/-- In every run in which the two loops keep out of each other's way, the frames
    dispatched are those of the client's stream in order, from the first on; until the
    connection is over, only those that are still to be parsed are missing. The reads
    the stream comes in do not matter. -/
theorem frames_in_order (files : List EmbeddedFile) (e : Entry) (n : Nat)
    (inStep : Meets Event.InStep (run files (h2ConnectionLoop e) n).log) :
    let s := run files (h2ConnectionLoop e) n
    dispatched s.log <+: parseFrames e.stream ∧
      (s.halted = false → dispatched s.log ++ parseFrames (s.unparsed ++ s.incoming) = parseFrames e.stream) := by
  have ordered := run_invariant (ordered_keeps e.stream) files (enter_ordered e) n inStep
  exact ⟨ordered.front,ordered.rest⟩

/-- The same client with the first octets of its stream read together with the
    preface. -/
def Entry.early (octets behind : List UInt8) : Entry :=
  { Entry.client behind with buf := ofBytes (h2Preface ++ octets), buffered := prefaceLen + octets.length }

/-- Credit for a stream. -/
def credit (streamId increment : Nat) : OutFrame := ⟨frameWindowUpdate,0,streamId,octets 4 increment⟩

/-- The page is asked for without credit, in the first read; credit follows. -/
def earlyRequest : Entry := .early (noCredit.encode ++ (getIndex 1).encode) (credit 1 2).encode

theorem frames_in_order_early :
    dispatched (run welcomeSite (h2ConnectionLoop earlyRequest) 4).log <+: parseFrames earlyRequest.stream :=
  (frames_in_order welcomeSite earlyRequest 4 (by decide +kernel)).1

/-- A PING frame is read with the preface and the request, and credit follows. -/
def earlyPing : Entry :=
  .early (noCredit.encode ++ (getIndex 1).encode ++ (OutFrame.mk framePing 0 0 (octets 8 0)).encode)
  (credit 1 2).encode

/-- The credit is taken before the PING frame. -/
theorem earlyPing_overtaken :
    ¬ dispatched (run welcomeSite (h2ConnectionLoop earlyPing) 5).log <+: parseFrames earlyPing.stream := by
  decide +kernel

end Sarm.H2
