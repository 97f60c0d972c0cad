import Sarm.Staging
import Sarm.TlsRecord
import Sarm.Layer

/-!
The transport of an encrypted connection behind its handshake. Writes gather in the same
stage and leave it sealed, a record for each `maxPlaintext` octets; reads are served from
what the last record held, and when that has run out a record is read off the socket.
-/
namespace Sarm.Tls
open Sarm.Memory Sarm.Neon Sarm.Ghash Sarm.Gcm
open Sarm.H2 (ReadEvent arriving Call)

/-! ### The keys -/

/-- The keys of one direction. -/
structure Epoch where
  ciph : Block → Block
  iv : List UInt8

/-- `tls_app_data_write`: what `tls_record_encrypt` leaves. -/
def Epoch.seal (e : Epoch) (seq : BitVec 64) (data : List UInt8) : List UInt8 :=
  protect e.ciph e.iv seq (innerPlaintext data applicationData 0)

/-- `tls_app_data_read`: what `tls_record_decrypt` makes of a record that has been read. -/
def Epoch.open (e : Epoch) (seq : BitVec 64) (record : List UInt8) : Option (List UInt8 × UInt8) :=
  let w6 := be16 (ofBytes record) 3
  if w6 < 17 ∨ maxAead < w6 ∨ record.length < w6 + 5 then none
  else
    let x24 := w6 - 16
    match decrypt e.ciph (recordNonce e.iv seq) (record.take 5) ((record.drop 5).take x24) ((record.drop (5 + x24)).take 16) with
    | none => none
    | some inner => match innerType (ofBytes inner) 0 inner.length with
      | .error _ => none
      | .ok (length,type) => some (inner.take length,type)

structure Keys where
  server : Epoch
  client : Epoch

/-! ### Writing -/

/-- The socket, and the sequence number of the record that is written next. -/
structure Sealed where
  socket : Staging.Socket
  seq : BitVec 64

/-- `.Ltw_tls_loop`. -/
def writeRecords (e : Epoch) (s : Sealed) (data : List UInt8) : Sealed × Bool :=
  if _ : data = [] then (s,true)
  else match s.socket.write (e.seal s.seq (data.take maxPlaintext)) with
    | (socket,false) => (⟨socket,s.seq + 1⟩,false)
    | (socket,true) => writeRecords e ⟨socket,s.seq + 1⟩ (data.drop maxPlaintext)
termination_by data.length
decreasing_by
  have := List.length_pos_of_ne_nil ‹_›
  rw [List.length_drop,maxPlaintext]
  omega

/-! ### Reading -/

/-- `raw_read_exact`, with the number of times that it goes to the socket. What arrives
    behind the octets that are wanted stays there. -/
def rawReadExact : List ReadEvent → Nat → List UInt8 → List ReadEvent × Option (List UInt8) × Nat
  | reads, 0, got => (reads,some got,0)
  | [], _ + 1, _ => ([],none,1)
  | .data first rest :: reads, wanted + 1, got =>
    if rest.length ≤ wanted then
      match rawReadExact reads (wanted - rest.length) (got ++ first :: rest) with
      | (reads,read,times) => (reads,read,times + 1)
    else match rest.drop wanted with
      | [] => (reads,some (got ++ first :: rest),1)
      | next :: left => (.data next left :: reads,some (got ++ first :: rest.take wanted),1)
  | .interrupted :: reads, wanted + 1, got =>
    match rawReadExact reads (wanted + 1) got with
    | (reads,read,times) => (reads,read,times + 1)
  | .failed :: reads, _ + 1, _ => (reads,none,1)

/-- `tls_read_record` into `tls_read_raw_buf`, and that the record is one of application data. -/
def readRecord (reads : List ReadEvent) : List ReadEvent × Option (List UInt8) × Nat :=
  match rawReadExact reads 5 [] with
  | (reads,none,times) => (reads,none,times)
  | (reads,some header,times) =>
    let w9 := be16 (ofBytes header) 3
    if 16448 < w9 + 5 then (reads,none,times)
    else match rawReadExact reads w9 [] with
      | (reads,none,times') => (reads,none,times + times')
      | (reads,some fragment,times') =>
        match tls_record_parse (ofBytes (header ++ fragment)) 0 (w9 + 5) with
        | .error _ => (reads,none,times + times')
        | .ok parsed =>
          if parsed.type = applicationData then (reads,some (header ++ fragment),times + times') else (reads,none,times + times')

/-- Octets that are read exactly have arrived. -/
theorem rawReadExact_arriving : ∀ (reads : List ReadEvent) (wanted : Nat) (got : List UInt8) (reads' : List ReadEvent)
    (bytes : List UInt8) (times : Nat), rawReadExact reads wanted got = (reads',some bytes,times) →
    (arriving reads').length + wanted = (arriving reads).length := by
  intro reads
  induction reads with
  | nil =>
    intro wanted got reads' bytes times read
    cases wanted with
    | zero => cases read; rfl
    | succ wanted => cases read
  | cons event reads ih =>
    intro wanted got reads' bytes times read
    cases wanted with
    | zero => cases read; rfl
    | succ wanted =>
      cases event with
      | failed => cases read
      | interrupted =>
        rw [rawReadExact] at read
        cases rest : rawReadExact reads (wanted + 1) got with
        | mk reads₁ result =>
          rw [rest] at read
          obtain ⟨result,times₁⟩ := result
          cases read
          exact ih _ _ _ _ _ rest
      | data first rest =>
        rw [rawReadExact] at read
        split at read
        · next whole =>
          cases more : rawReadExact reads (wanted - rest.length) (got ++ first :: rest) with
          | mk reads₁ result =>
            rw [more] at read
            obtain ⟨result,times₁⟩ := result
            cases read
            have := ih _ _ _ _ _ more
            rw [arriving,List.length_append,List.length_cons]
            omega
        · next part =>
          have count : (rest.drop wanted).length = rest.length - wanted := List.length_drop ..
          cases dropped : rest.drop wanted with
          | nil =>
            rw [dropped,List.length_nil] at count
            omega
          | cons next left =>
            rw [dropped] at read count
            cases read
            rw [arriving,arriving,List.length_append,List.length_append,count,List.length_cons]
            omega

theorem readRecord_arriving {reads reads' : List ReadEvent} {record : List UInt8} {times : Nat}
    (read : readRecord reads = (reads',some record,times)) : (arriving reads').length < (arriving reads).length := by
  rw [readRecord] at read
  cases first : rawReadExact reads 5 [] with
  | mk reads₁ result =>
    rw [first] at read
    obtain ⟨result,times₁⟩ := result
    cases result with
    | none => cases read
    | some header =>
      have front := rawReadExact_arriving _ _ _ _ _ _ first
      dsimp only at read
      split at read
      · cases read
      cases second : rawReadExact reads₁ (be16 (ofBytes header) 3) [] with
      | mk reads₂ result =>
        rw [second] at read
        obtain ⟨result,times₂⟩ := result
        cases result with
        | none => cases read
        | some fragment =>
          have back := rawReadExact_arriving _ _ _ _ _ _ second
          dsimp only at read
          split at read
          · cases read
          split at read <;> cases read
          omega

/-! ### The transport -/

/-- `tls_read_stage_buf` holds what is left of the record that was opened last. -/
structure Transport where
  stage : Staging.Stage Sealed
  reads : List ReadEvent
  readStage : List UInt8
  clientSeq : BitVec 64

section
variable (k : Keys)

/-- `.Ltr_tls_loop`, with what is staged each time that it goes to the socket. -/
def Transport.readLoop (wanted : Nat) (got : List UInt8) (t : Transport) : (Transport × Option (List UInt8)) × List (List UInt8) :=
  if wanted ≤ t.readStage.length then
    (({ t with readStage := t.readStage.drop wanted },some (got ++ t.readStage.take wanted)),[])
  else match t.stage.flush (writeRecords k.server) with
    | (stage,false) => (({ t with stage := stage, readStage := [] },none),[])
    | (stage,true) => match _ : readRecord t.reads with
      | (reads,none,times) => (({ t with stage := stage, readStage := [], reads := reads },none),List.replicate times stage.staged)
      | (reads,some record,times) =>
        let t' := { t with stage := stage, readStage := [], reads := reads, clientSeq := t.clientSeq + 1 }
        match k.client.open t.clientSeq record with
        | none => ((t',none),List.replicate times stage.staged)
        | some (content,type) =>
          if type = applicationData then
            match Transport.readLoop (wanted - t.readStage.length) (got ++ t.readStage) { t' with readStage := content } with
            | (result,waits) => (result,List.replicate times stage.staged ++ waits)
          else ((t',none),List.replicate times stage.staged)
termination_by (arriving t.reads).length
decreasing_by exact readRecord_arriving ‹_›

/-- The calls as an encrypted connection serves them. Its `child_end` runs behind
    `Lmain_tls_close`, which has gone back to the mode of a plaintext connection. -/
def Transport.serve (t : Transport) : (c : Call) → Transport × c.Result
  | .write data => match t.stage.write (writeRecords k.server) data with
    | (stage,done) => ({ t with stage := stage },done)
  | .writev header body => match t.stage.writevWhole (writeRecords k.server) header body with
    | (stage,done) => ({ t with stage := stage },done)
  | .read n => (t.readLoop k n []).1
  | .flush => match t.stage.flush (writeRecords k.server) with
    | (stage,done) => ({ t with stage := stage },done)
  | .close => match t.stage.flush fun s data => match s.socket.write data with | (socket,done) => ({ s with socket := socket },done) with
    | (stage,done) => ({ t with stage := stage },done)

end

end Sarm.Tls
