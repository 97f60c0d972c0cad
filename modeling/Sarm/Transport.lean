import Mathlib.Data.List.Basic
import Mathlib.Tactic.Common

/-!
The transport of a plaintext connection. Reads are served from a stage that one
`read` of the socket fills with whatever has arrived; writes gather in a stage
that is flushed when it is full and before a `read` may block. What the socket
will do is a list of outcomes, for each direction, that the calls use up.
-/
namespace Sarm.H2

/-- `WRITE_STAGE_SIZE`. -/
def writeStageSize : Nat := 16384

/-- What a `read` of the socket returns: octets, at least one, or a failure. The
    end of the stream is the end of the list. -/
inductive ReadEvent where
  | data (first : UInt8) (rest : List UInt8)
  | interrupted
  | failed
  deriving DecidableEq, Repr

/-- What a `write` to the socket returns: how many octets it took, or a failure.
    A socket with no outcome left fails. -/
inductive WriteEvent where
  | accepted (n : Nat)
  | interrupted
  | failed
  deriving DecidableEq, Repr

structure Transport where
  reads : List ReadEvent
  writes : List WriteEvent
  readStage : List UInt8
  writeStage : List UInt8
  wire : List UInt8
  deriving DecidableEq, Repr

/-! ### Writing -/

/-- Repeat the `write` until everything is taken. An interrupted one is repeated
    as it is. -/
def rawWriteAll : List WriteEvent → List UInt8 → Transport → Transport × Bool
  | writes, [], t => ({ t with writes := writes },true)
  | [], _, t => ({ t with writes := [] },false)
  | .accepted n :: writes, octet :: data, t =>
    rawWriteAll writes ((octet :: data).drop n) { t with wire := t.wire ++ (octet :: data).take n }
  | .interrupted :: writes, data, t => rawWriteAll writes data t
  | .failed :: writes, _, t => ({ t with writes := writes },false)

def Transport.writeNow (t : Transport) (data : List UInt8) : Transport × Bool := rawWriteAll t.writes data t

/-- `transport_flush`: the stage is emptied before it is written. -/
def Transport.flush (t : Transport) : Transport × Bool :=
  if t.writeStage = [] then (t,true) else Transport.writeNow { t with writeStage := [] } t.writeStage

/-- `transport_write`: behind what is staged, if it fits. -/
def Transport.write (t : Transport) (data : List UInt8) : Transport × Bool :=
  if data = [] then (t,true)
  else if t.writeStage.length + data.length ≤ writeStageSize then
    ({ t with writeStage := t.writeStage ++ data },true)
  else match t.flush with
    | (t,false) => (t,false)
    | (t,true) =>
      if writeStageSize < data.length then t.writeNow data else ({ t with writeStage := t.writeStage ++ data },true)

/-- `transport_writev`: both parts into the stage, or straight to the socket. -/
def Transport.writev (t : Transport) (header body : List UInt8) : Transport × Bool :=
  if header.length + body.length + t.writeStage.length ≤ writeStageSize then
    match t.write header with
    | (t,false) => (t,false)
    | (t,true) => t.write body
  else match t.flush with
    | (t,false) => (t,false)
    | (t,true) => t.writeNow (header ++ body)

/-! ### Reading -/

/-- Serve `wanted` octets behind those got already. The recursion is on the
    outcomes; what a failed read has taken is lost. -/
def readLoop : List ReadEvent → Nat → List UInt8 → Transport → Transport × Option (List UInt8)
  | reads, wanted, got, t =>
    if wanted ≤ t.readStage.length then
      ({ t with reads := reads, readStage := t.readStage.drop wanted },some (got ++ t.readStage.take wanted))
    else match Transport.flush { t with readStage := [] } with
      | (t',false) => ({ t' with reads := reads },none)
      | (t',true) => match reads with
        | [] => ({ t' with reads := [] },none)
        | .data first rest :: reads =>
          readLoop reads (wanted - t.readStage.length) (got ++ t.readStage) { t' with readStage := first :: rest }
        | .interrupted :: reads => readLoop reads (wanted - t.readStage.length) (got ++ t.readStage) t'
        | .failed :: reads => ({ t' with reads := reads },none)

/-- `h2_read_exact`: `n` octets. -/
def Transport.readExact (t : Transport) (n : Nat) : Transport × Option (List UInt8) := readLoop t.reads n [] t

/-! ### What is still to come -/

/-- The octets a list of outcomes will bring. -/
def arriving : List ReadEvent → List UInt8
  | [] => []
  | .data first rest :: reads => first :: rest ++ arriving reads
  | .interrupted :: reads => arriving reads
  | .failed :: reads => arriving reads

/-- What the reads to come will be served from. -/
def Transport.incoming (t : Transport) : List UInt8 := t.readStage ++ arriving t.reads

/-- A write touches nothing of the reading side. -/
def SameInput (t t' : Transport) : Prop := t'.reads = t.reads ∧ t'.readStage = t.readStage

theorem SameInput.incoming {t t' : Transport} (same : SameInput t t') : t'.incoming = t.incoming := by
  rw [Transport.incoming,Transport.incoming,same.1,same.2]

theorem SameInput.trans {t t' t'' : Transport} (first : SameInput t t') (second : SameInput t' t'') : SameInput t t'' :=
  ⟨second.1.trans first.1,second.2.trans first.2⟩

theorem rawWriteAll_input : ∀ (writes : List WriteEvent) (data : List UInt8) (t : Transport),
    SameInput t (rawWriteAll writes data t).1 := by
  intro writes
  induction writes with
  | nil => intro data t; cases data <;> exact ⟨rfl,rfl⟩
  | cons event writes ih =>
    intro data t
    cases data with
    | nil => exact ⟨rfl,rfl⟩
    | cons octet data =>
      cases event with
      | accepted n => rw [rawWriteAll]; exact ih _ _
      | interrupted => rw [rawWriteAll]; exact ih _ _; simp
      | failed => exact ⟨rfl,rfl⟩

theorem writeNow_input (t : Transport) (data : List UInt8) : SameInput t (t.writeNow data).1 := rawWriteAll_input _ _ _

theorem flush_input (t : Transport) : SameInput t t.flush.1 := by
  rw [Transport.flush]
  split
  · exact ⟨rfl,rfl⟩
  · exact writeNow_input { t with writeStage := [] } _

theorem write_input (t : Transport) (data : List UInt8) : SameInput t (t.write data).1 := by
  rw [Transport.write]
  split
  · exact ⟨rfl,rfl⟩
  split
  · exact ⟨rfl,rfl⟩
  have flushed := flush_input t
  split
  · next t' failed => rw [failed] at flushed; exact flushed
  · next t' done =>
    rw [done] at flushed
    split
    · exact flushed.trans (writeNow_input t' data)
    · exact flushed

theorem writev_input (t : Transport) (header body : List UInt8) : SameInput t (t.writev header body).1 := by
  rw [Transport.writev]
  split
  · have staged := write_input t header
    split
    · next t' failed => rw [failed] at staged; exact staged
    · next t' done => rw [done] at staged; exact staged.trans (write_input t' body)
  · have flushed := flush_input t
    split
    · next t' failed => rw [failed] at flushed; exact flushed
    · next t' done => rw [done] at flushed; exact flushed.trans (writeNow_input t' _)

/-- What a read took off the front of what was to come, with its result behind
    the octets got before: its octets if it succeeds, lost ones if it does not. -/
def Takes (before : List UInt8) (wanted : Nat) (got : List UInt8) (r : Transport × Option (List UInt8)) : Prop :=
  ∃ taken, before = taken ++ r.1.incoming ∧ (∀ bytes, r.2 = some bytes → bytes = got ++ taken ∧ taken.length = wanted) ∧
    (r.2 = none → taken.length < wanted)

theorem takes_staged {t : Transport} {wanted : Nat} (reads : List ReadEvent) (got : List UInt8)
    (enough : wanted ≤ t.readStage.length) :
    Takes (t.readStage ++ arriving reads) wanted got
      ({ t with reads := reads, readStage := t.readStage.drop wanted },some (got ++ t.readStage.take wanted)) := by
  refine ⟨t.readStage.take wanted,?_,?_,by rintro ⟨⟩⟩
  · rw [Transport.incoming,← List.append_assoc,List.take_append_drop]
  · rintro bytes ⟨⟩
    exact ⟨rfl,List.length_take_of_le enough⟩

theorem takes_failed {t : Transport} {stage : List UInt8} {wanted : Nat} (got : List UInt8) (reads : List ReadEvent)
    (short : ¬ wanted ≤ stage.length) (empty : t.readStage = []) :
    Takes (stage ++ arriving reads) wanted got ({ t with reads := reads },none) := by
  refine ⟨stage,?_,by rintro bytes ⟨⟩,fun _ => Nat.not_le.mp short⟩
  rw [Transport.incoming,empty,List.nil_append]

/-- A stage used up before the rest is read. -/
theorem Takes.behind {before stage got : List UInt8} {wanted : Nat} {r : Transport × Option (List UInt8)}
    (short : ¬ wanted ≤ stage.length) (takes : Takes before (wanted - stage.length) (got ++ stage) r) :
    Takes (stage ++ before) wanted got r := by
  obtain ⟨taken,front,delivered,lost⟩ := takes
  refine ⟨stage ++ taken,by rw [front,List.append_assoc],?_,?_⟩
  · intro bytes success
    obtain ⟨all,count⟩ := delivered bytes success
    refine ⟨by rw [all,List.append_assoc],?_⟩
    rw [List.length_append,count]
    omega
  · intro failure
    have few := lost failure
    rw [List.length_append]
    omega

theorem readLoop_takes : ∀ (reads : List ReadEvent) (wanted : Nat) (got : List UInt8) (t : Transport),
    Takes (t.readStage ++ arriving reads) wanted got (readLoop reads wanted got t) := by
  intro reads
  induction reads with
  | nil =>
    intro wanted got t
    rw [readLoop]
    by_cases enough : wanted ≤ t.readStage.length
    · rw [if_pos enough]
      exact takes_staged [] got enough
    · rw [if_neg enough]
      have flushed := (flush_input { t with readStage := [] }).2
      split
      · next t' failed => rw [failed] at flushed; exact takes_failed got [] enough flushed
      · next t' done => rw [done] at flushed; exact takes_failed got [] enough flushed
  | cons event reads ih =>
    intro wanted got t
    rw [readLoop]
    by_cases enough : wanted ≤ t.readStage.length
    · rw [if_pos enough]
      exact takes_staged (event :: reads) got enough
    · rw [if_neg enough]
      have flushed := (flush_input { t with readStage := [] }).2
      split
      · next t' failed => rw [failed] at flushed; exact takes_failed got _ enough flushed
      · next t' done =>
        rw [done] at flushed
        -- The stage is used up; what follows it comes from the next outcome.
        cases event with
        | data first rest => exact (ih _ _ { t' with readStage := first :: rest }).behind enough
        | interrupted =>
          have rest := ih (wanted - t.readStage.length) (got ++ t.readStage) t'
          rw [flushed] at rest
          exact rest.behind enough
        | failed => exact takes_failed got reads enough flushed

/-- A read that succeeds has taken exactly the octets asked for. -/
theorem readExact_some {t t' : Transport} {n : Nat} {bytes : List UInt8} (read : t.readExact n = (t',some bytes)) :
    t.incoming = bytes ++ t'.incoming ∧ bytes.length = n := by
  obtain ⟨taken,front,delivered,_⟩ := readLoop_takes t.reads n [] t
  rw [Transport.readExact] at read
  rw [read] at front delivered
  obtain ⟨all,count⟩ := delivered bytes rfl
  rw [List.nil_append] at all
  rw [all]
  exact ⟨front,count⟩

/-- A read that fails loses what it has taken, which is less than was asked for. -/
theorem readExact_none {t t' : Transport} {n : Nat} (read : t.readExact n = (t',none)) :
    ∃ lost, t.incoming = lost ++ t'.incoming ∧ lost.length < n := by
  obtain ⟨taken,front,_,few⟩ := readLoop_takes t.reads n [] t
  rw [Transport.readExact] at read
  rw [read] at front few
  exact ⟨taken,front,few rfl⟩

end Sarm.H2
