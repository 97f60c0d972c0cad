import Sarm.Alike

/-!
Header blocks in several frames. The handler of HEADERS does not ask for
END_HEADERS, and the one of CONTINUATION does nothing: in every run the server does
what one does that takes the fragment of a HEADERS frame for the whole block and
goes past CONTINUATION frames.
-/
namespace Sarm.H2
open Sarm.Memory Sarm.Trace

/-! ### First fragments -/

/-- The server that takes a HEADERS frame's fragment for the whole block and goes past CONTINUATION frames. -/
def Server.receiveFirst (files : List EmbeddedFile) (s : Server) (hdr : FrameHeader) (payload : Mem) : Server :=
  if hdr.type = frameContinuation then s.past hdr else s.receive files hdr.taken payload

def Server.stepFirst (files : List EmbeddedFile) (s : Server) : Server :=
  match s.inHand with
  | none => s.step files
  | some h => h.server.receiveFirst files h.hdr h.payload

theorem past_taken (s : Server) (hdr : FrameHeader) : s.past hdr.taken = s.past hdr := by
  rw [Server.past,Server.past,taken_length]

/-- A frame is received as what it is taken for. -/
theorem receive_taken (files : List EmbeddedFile) (s : Server) (hdr : FrameHeader) (payload : Mem) :
    Alike (s.receive files hdr payload) (s.receive files hdr.taken payload) := by
  have outcomes := dispatch_taken s.core hdr payload
  have replies := congrArg Outcome.replies outcomes
  have verdicts := congrArg Outcome.error outcomes
  have cores := congrArg Outcome.core outcomes
  simp only [Outcome.bare] at replies verdicts cores
  have handled : Alike (s.handled hdr payload) (s.handled hdr.taken payload) := alike_of cores.symm rfl
  rw [Server.receive,Server.receive,dispatch_eq,dispatch_eq,replies,verdicts]
  have dispatched := sendAll_alike (h2DispatchFrame s.core hdr payload).replies handled
  rw [taken_streamId]
  cases (h2DispatchFrame s.core hdr payload).error with
  | none =>
    show Alike (Server.hook files (Server.past _ hdr) _) (Server.hook files (Server.past _ hdr.taken) _)
    rw [past_taken]
    exact hook_alike files _ (past_alike hdr dispatched)
  | some e =>
    show Alike (Server.rejects (Server.past _ hdr) _ e) (Server.rejects (Server.past _ hdr.taken) _ e)
    rw [past_taken]
    exact rejects_alike _ e (past_alike hdr dispatched)

theorem receiveFirst_alike (files : List EmbeddedFile) {s t : Server} (hdr : FrameHeader) (payload : Mem)
    (alike : Alike s t) :
    Alike (s.receiveFirst files hdr payload) (t.receiveFirst files hdr payload) := by
  rw [Server.receiveFirst,Server.receiveFirst]
  split
  · exact past_alike hdr alike
  · exact receive_alike files _ payload alike

theorem stepFirst_alike (files : List EmbeddedFile) {s t : Server} (alike : Alike s t) :
    Alike (s.stepFirst files) (t.stepFirst files) := by
  rw [Server.stepFirst,Server.stepFirst]
  have hands := inHand_alike alike
  generalize s.inHand = x at hands ⊢
  generalize t.inHand = y at hands ⊢
  cases hands with
  | none => exact step_alike files alike
  | some alike' => exact receiveFirst_alike files _ _ alike'

/-- With every complete request being served, a frame that changes nothing starts nothing. -/
theorem hook_waits (files : List EmbeddedFile) {s : Server} {streamId : Nat} (attended : s.core.Attended 0) :
    s.hook files streamId = s := by
  rw [Server.hook]
  split
  · rfl
  next proper =>
  split
  · rfl
  next slot found =>
  obtain ⟨there,own,_⟩ := find_some found
  rw [if_neg]
  rintro ⟨complete,unserved⟩
  rcases (attended slot there).1 complete with served | none
  · rw [unserved] at served
    cases served
  · exact proper (own.symm.trans none)

theorem receive_continuation (files : List EmbeddedFile) {s : Server} {hdr : FrameHeader} (payload : Mem)
    (type : hdr.type = frameContinuation) (attended : s.core.Attended 0) :
    Alike (s.receive files hdr payload) (s.past hdr) := by
  have outcome : h2DispatchFrame s.core hdr payload = (s.core.noted frameContinuation).done := by
    rw [h2DispatchFrame,type]
    rfl
  rw [Server.receive,dispatch_eq,Server.handled,outcome]
  show Alike (Server.hook files (Server.past _ hdr) _) _
  rw [hook_waits files]
  · exact past_alike hdr (alike_of rfl rfl)
  · rw [(past_same _ hdr).1]
    exact attended

/-- A step of the server is one of the other, while every complete request is being served. -/
theorem step_first (files : List EmbeddedFile) {s : Server} (attended : s.core.Attended 0) :
    Alike (s.step files) (s.stepFirst files) := by
  rw [Server.stepFirst]
  cases found : s.inHand with
  | none => exact .refl _
  | some h =>
    rw [step_inHand files found]
    dsimp only
    rw [Server.receiveFirst]
    split
    · next type =>
      refine receive_continuation files h.payload type ?_
      rw [(inHand_of found).core]
      exact attended
    · exact receive_taken files h.server h.hdr h.payload

/-- In every run the server goes the way of one that takes the fragment of a HEADERS frame for a
    whole block and goes past CONTINUATION frames. -/
theorem fragments_taken_whole (files : List EmbeddedFile) (e : Entry) (n : Nat) :
    Alike (run files (h2ConnectionLoop e) n) ((Server.stepFirst files)^[n] (h2ConnectionLoop e)) := by
  induction n with
  | zero => exact .refl _
  | succ n ih =>
    rw [run,Function.iterate_succ_apply',Function.iterate_succ_apply']
    exact (step_first files (run_attended files e n)).trans (stepFirst_alike files ih)

/-! ### A block in two frames -/

/-- A request in one frame. -/
def wholeRequest (block : List UInt8) : List UInt8 :=
  (OutFrame.mk frameHeaders (flagEndStream + flagEndHeaders) 1 block).encode

/-- A request whose block goes on in a second frame. -/
def splitRequest (first rest : List UInt8) : List UInt8 :=
  (OutFrame.mk frameHeaders flagEndStream 1 first).encode ++ (OutFrame.mk frameContinuation flagEndHeaders 1 rest).encode

/-- A request for the first octet of the page. -/
def firstOctet : List UInt8 := [0x72,9] ++ Hpack.ascii "bytes=0-0"

/-- The whole page is served, before the range is there; and the field, which a client has in its
    dynamic table by then, is never in the server's. -/
theorem splitRange_served :
    let split := run welcomeSite (h2ConnectionLoop (.client (splitRequest [0x82,0x84] firstOctet)))
    let whole := run welcomeSite (h2ConnectionLoop (.client (wholeRequest ([0x82,0x84] ++ firstOctet))))
    (split 1).stack.map Serve.body = [Hpack.ascii "hi"] ∧ (whole 1).stack.map Serve.body = [Hpack.ascii "h"] ∧
      (split 3).halted = false ∧ (split 3).transport.readStage = [] ∧
      (split 3).core.hpack.dyn.count = 0 ∧ (whole 2).core.hpack.dyn.count = 1 := by decide +kernel

end Sarm.H2
