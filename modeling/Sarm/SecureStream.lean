import Sarm.Closing
import Sarm.Passing
import Sarm.Pipe

/-!
What an encrypted connection puts on the wire: records under consecutive numbers and nothing else, each of them cut off
where a write has failed. While no write fails they hold what has been written, and the connection is the one over a
pipe.
-/
namespace Sarm.Tls
open Sarm.Memory Sarm.Programs
open Sarm.Staging (Stage Socket Passed rawWriteAll_part socket_delivers write_passes flush_passes passes_nothing)
open Sarm.H2 (Call Pipe Layer EmbeddedFile Faithful Mirrors Smooth Writes steady)

/-! ### Records that go out -/

/-- A record, and how many octets of it have gone out if it has been cut off. -/
structure Piece where
  fragment : Fragment
  cut : Option Nat

def Piece.octets (e : Epoch) (seq : BitVec 64) (p : Piece) : List UInt8 :=
  p.cut.elim (p.fragment.record e seq) (p.fragment.record e seq).take

/-- Under consecutive numbers. -/
def outgoing (e : Epoch) : BitVec 64 → List Piece → List UInt8
  | _, [] => []
  | seq, p :: pieces => p.octets e seq ++ outgoing e (seq + 1) pieces

def Fragment.whole (f : Fragment) : Piece := ⟨f,none⟩

/-- What they hold. -/
def contents (fragments : List Fragment) : List UInt8 := (fragments.map Fragment.content).flatten

section
variable {e : Epoch} {s s' s'' : Sealed} {pieces more : List Piece}

theorem next_seq (seq : BitVec 64) (n : Nat) : seq + 1 + BitVec.ofNat 64 n = seq + BitVec.ofNat 64 (n + 1) := by
  rw [BitVec.add_assoc,Nat.add_comm,BitVec.ofNat_add]
  rfl

theorem outgoing_append : ∀ (pieces more : List Piece) (seq : BitVec 64),
    outgoing e seq (pieces ++ more) = outgoing e seq pieces ++ outgoing e (seq + BitVec.ofNat 64 pieces.length) more := by
  intro pieces more
  induction pieces with
  | nil => intro seq; rw [List.nil_append,outgoing,List.nil_append,List.length_nil,BitVec.add_zero]
  | cons p pieces ih =>
    intro seq
    rw [List.cons_append,outgoing,outgoing,ih,List.append_assoc,next_seq]
    rfl

theorem outgoing_whole : ∀ (fragments : List Fragment) (seq : BitVec 64),
    outgoing e seq (fragments.map Fragment.whole) = records e seq fragments := by
  intro fragments
  induction fragments with
  | nil => intro seq; rfl
  | cons f fragments ih => intro seq; rw [List.map_cons,outgoing,ih,records]; rfl

/-- From the one state to the other these have gone out. -/
structure Carries (e : Epoch) (s : Sealed) (pieces : List Piece) (s' : Sealed) : Prop where
  wire : s'.socket.wire = s.socket.wire ++ outgoing e s.seq pieces
  seq : s'.seq = s.seq + BitVec.ofNat 64 pieces.length

theorem Carries.nothing (s : Sealed) : Carries e s [] s :=
  ⟨(List.append_nil _).symm,(BitVec.add_zero _).symm⟩

theorem Carries.append (first : Carries e s pieces s') (rest : Carries e s' more s'') :
    Carries e s (pieces ++ more) s'' where
  wire := by rw [rest.wire,first.wire,first.seq,outgoing_append,List.append_assoc]
  seq := by rw [rest.seq,first.seq,List.length_append,BitVec.ofNat_add,BitVec.add_assoc]

/-- These have gone out, and if it has gone well they are whole and hold these octets. -/
def Absorbs (e : Epoch) (s : Sealed) (data : List UInt8) (s' : Sealed) (ok : Bool) : Prop :=
  ∃ pieces, Carries e s pieces s' ∧
    (ok = true → ∃ fragments, pieces = fragments.map Fragment.whole ∧ contents fragments = data)

theorem Absorbs.nothing (s : Sealed) : Absorbs e s [] s true := ⟨[],.nothing s,fun _ => ⟨[],rfl,rfl⟩⟩

theorem Absorbs.append {data rest : List UInt8} {ok : Bool} (first : Absorbs e s data s' true)
    (second : Absorbs e s' rest s'' ok) :
    Absorbs e s (data ++ rest) s'' ok := by
  obtain ⟨pieces,carries,good⟩ := first
  obtain ⟨more,carries',good'⟩ := second
  obtain ⟨fragments,rfl,rfl⟩ := good rfl
  refine ⟨_,carries.append carries',fun well => ?_⟩
  obtain ⟨fragments',rfl,rfl⟩ := good' well
  exact ⟨fragments ++ fragments',(List.map_append ..).symm,by rw [contents,List.map_append,List.flatten_append]; rfl⟩

/-- A record is sealed and written. -/
theorem write_absorbs {data : List UInt8} (fits : data.length ≤ maxPlaintext) {socket : Socket} {ok : Bool}
    (written : s.socket.write (e.seal s.seq data) = (socket,ok)) : Absorbs e s data ⟨socket,s.seq + 1⟩ ok := by
  have record : e.seal s.seq data = Fragment.record e s.seq ⟨data,0,fits⟩ := rfl
  cases ok with
  | true =>
    refine ⟨[Fragment.whole ⟨data,0,fits⟩],⟨?_,rfl⟩,fun _ => ⟨[_],rfl,List.append_nil data⟩⟩
    rw [socket_delivers _ _ _ written,record,outgoing,outgoing,List.append_nil]
    rfl
  | false =>
    obtain ⟨k,part⟩ := rawWriteAll_part s.socket.outcomes s.socket.wire (e.seal s.seq data)
    refine ⟨[⟨⟨data,0,fits⟩,some k⟩],⟨?_,rfl⟩,fun good => by cases good⟩
    rw [Socket.write] at written
    rw [written,record] at part
    rw [part,outgoing,outgoing,List.append_nil]
    rfl

theorem writeRecords_absorbs (s : Sealed) (data : List UInt8) :
    Absorbs e s data (writeRecords e s data).1 (writeRecords e s data).2 := by
  have cut (data : List UInt8) : (data.take maxPlaintext).length ≤ maxPlaintext := List.length_take_le _ _
  fun_induction writeRecords e s data with
  | case1 s => exact .nothing s
  | case2 s data some_ socket written =>
    obtain ⟨pieces,carries,_⟩ := write_absorbs (cut data) written
    exact ⟨pieces,carries,fun good => by cases good⟩
  | case3 s data some_ socket written ih =>
    have front := write_absorbs (cut data) written
    have all := front.append ih
    rwa [List.take_append_drop] at all

theorem passed_absorbs {parts : List (List UInt8)} {ok : Bool} (passed : Passed (writeRecords e) s parts s' ok) :
    Absorbs e s parts.flatten s' ok := by
  induction passed with
  | none s => exact .nothing s
  | @failed s s' data write =>
    have takes := writeRecords_absorbs (e := e) s data
    rw [write] at takes
    obtain ⟨pieces,carries,_⟩ := takes
    exact ⟨pieces,carries,fun good => by cases good⟩
  | @more s s1 s' data parts ok write rest ih =>
    have takes := writeRecords_absorbs (e := e) s data
    rw [write] at takes
    exact takes.append ih

/-- What a call of the stage does to the records. -/
theorem passes_carries {w w' : Stage Sealed} {data : List UInt8} {ok : Bool}
    (passes : w.Passes (writeRecords e) data w' ok) :
    ∃ pieces, Carries e w.sink pieces w'.sink ∧ (ok = true → ∃ fragments, pieces = fragments.map Fragment.whole ∧
      contents fragments ++ w'.staged = w.staged ++ data) := by
  obtain ⟨parts,passed,together⟩ := passes.passed
  obtain ⟨pieces,carries,good⟩ := passed_absorbs passed
  refine ⟨pieces,carries,fun well => ?_⟩
  obtain ⟨fragments,same,held⟩ := good well
  exact ⟨fragments,same,by rw [held,together well]⟩

end

/-! ### The calls -/

section
variable {k : Keys} {t : Transport}

/-- Reading only flushes the stage. -/
theorem readLoop_stage (wanted : Nat) (got : List UInt8) (t : Transport) :
    (t.readLoop k wanted got).1.1.stage = t.stage ∨
      (t.readLoop k wanted got).1.1.stage = (t.stage.flush (writeRecords k.server)).1 := by
  fun_induction Transport.readLoop k wanted got t with
  | case1 wanted got t enough => exact .inl rfl
  | case2 wanted got t short stage failed => exact .inr (by rw [failed])
  | case3 wanted got t short stage done reads times read => exact .inr (by rw [done])
  | case4 wanted got t short stage done reads record times read _ refused => exact .inr (by rw [done])
  | case5 wanted got t short stage done reads record times read t' content result waits more opened ih =>
    have again := flush_done done
    rw [more] at ih
    rw [done]
    rcases ih with same | same
    · exact .inr same
    · exact .inr (same.trans (congrArg Prod.fst again))
  | case6 wanted got t short stage done reads record times read _ content type opened other => exact .inr (by rw [done])

/-- Each call passes its octets on to the records, but for a close with something staged. -/
theorem serve_passes (sound : t.stage.Sound) (c : Call) (closing : c = .close → t.stage.len = 0) :
    ∃ ok, t.stage.Passes (writeRecords k.server) c.octets (Transport.serve k t c).1.stage ok ∧
      (Writes (Transport.serve k) t c = true → ok = true) := by
  cases c with
  | write data => exact ⟨_,write_passes sound rfl,id⟩
  | writev header body => exact ⟨_,write_passes sound rfl,id⟩
  | flush => exact ⟨_,(flush_passes sound rfl).1,id⟩
  | close =>
    have still {now : Sealed → List UInt8 → Sealed × Bool} : t.stage.flush now = (t.stage,true) := if_pos (closing rfl)
    rw [Transport.serve,still]
    exact ⟨true,passes_nothing sound,fun _ => rfl⟩
  | read n =>
    have stage := readLoop_stage (k := k) n [] t
    rw [Transport.serve]
    rcases stage with same | same
    · rw [same]
      exact ⟨true,passes_nothing sound,fun _ => rfl⟩
    · rw [same]
      exact ⟨_,(flush_passes sound rfl).1,id⟩

theorem flush_clear (t : Transport) : (Transport.serve k t .flush).1.stage.len = 0 := by
  rw [Transport.serve]
  dsimp only
  rw [Stage.flush]
  split
  · assumption
  · rfl

/-! ### Runs -/

variable (k) (files : List EmbeddedFile) (l : Layer) (n : Nat) (t : Transport)

/-- From a sound stage to a sound one, with these records in between. -/
def Onward (k : Keys) (t t' : Transport) : Prop :=
  t.stage.Sound → t'.stage.Sound ∧ ∃ pieces, Carries k.server t.stage.sink pieces t'.stage.sink

/-- Nothing but records goes out, whatever comes in and whatever becomes of the writes. -/
theorem connection_onward : Onward k t ((Layer.connection files l n).run (Transport.serve k) t).1 := by
  have refl (t : Transport) : Onward k t t := fun sound => ⟨sound,[],.nothing _⟩
  have trans {t t' t'' : Transport} (first : Onward k t t') (second : Onward k t' t'') : Onward k t t'' := by
    intro sound
    obtain ⟨sound',pieces,carries⟩ := first sound
    obtain ⟨sound'',more,carries'⟩ := second sound'
    exact ⟨sound'',_,carries.append carries'⟩
  have step (t : Transport) (c : Call) (closing : c = .close → t.stage.len = 0) : Onward k t (Transport.serve k t c).1 := by
    intro sound
    obtain ⟨ok,passes,_⟩ := serve_passes (k := k) sound c closing
    obtain ⟨pieces,carries,_⟩ := passes_carries passes
    exact ⟨passes.sound,pieces,carries⟩
  have ready (t : Transport) (c : Call) (flush : c = .flush) : (Transport.serve k t c).1.stage.len = 0 := by
    rw [flush]
    exact flush_clear t
  exact run_keeps refl trans step ready (l.connection_closes files n) t False.elim

/-- What an encrypted connection has sent since its sink was `start`. -/
def Sent (k : Keys) (start : Sealed) (before : List UInt8) (t : Transport) (data : List UInt8) : Prop :=
  ∃ fragments, Carries k.server start (fragments.map Fragment.whole) t.stage.sink ∧
    contents fragments ++ t.stage.staged = before ++ data

theorem secure_faithful (k : Keys) (start : Sealed) (before : List UInt8) :
    Faithful (Transport.serve k) (Transport.stream k) (fun t => t.stage.Sound) (fun t => t.stage.len = 0)
      (Sent k start before) where
  streams := serve_streams
  flushed := flush_clear
  writes t c data sound closing sent written := by
    obtain ⟨ok,passes,good⟩ := serve_passes (k := k) sound c closing
    obtain ⟨pieces,carries,well⟩ := passes_carries passes
    obtain ⟨fragments,rfl,held⟩ := well (good written)
    obtain ⟨fragments',carries',held'⟩ := sent
    refine ⟨passes.sound,fragments' ++ fragments,?_,?_⟩
    · rw [List.map_append]
      exact carries'.append carries
    · rw [contents,List.map_append,List.flatten_append,List.append_assoc]
      rw [show (fragments.map Fragment.content).flatten = contents fragments from rfl,held,← List.append_assoc]
      rw [show (fragments'.map Fragment.content).flatten = contents fragments' from rfl,held',List.append_assoc]

/-- The records that have been added hold what has been sent, but for what is still staged. -/
theorem Sent.opened {k : Keys} {start : Sealed} {t : Transport} {data : List UInt8} (sent : Sent k start [] t data) :
    ∃ added, t.stage.sink.socket.wire = start.socket.wire ++ added ∧
      plaintext k.server start.seq added ++ t.stage.staged = data := by
  obtain ⟨fragments,carries,held⟩ := sent
  refine ⟨_,carries.wire,?_⟩
  have opened := plaintext_records k.server [] fragments start.seq
  rw [List.append_nil] at opened
  rw [outgoing_whole,opened,plaintext_none rfl,List.append_nil]
  exact held

theorem secure_start (sound : t.stage.Sound) : Mirrors (Transport.stream k) (fun t => t.stage.Sound) (Sent k t.stage.sink []) t
    ⟨t.stream k,t.stage.staged,false⟩ := ⟨sound,⟨[],.nothing _,rfl⟩,fun _ => rfl⟩

/-- Keys of a cipher that does nothing. -/
def blankKeys : Keys := ⟨⟨fun b => b,List.replicate 12 0⟩,⟨fun b => b,List.replicate 12 0⟩⟩

/-- A connection that has a request in its stage, and a socket that takes everything. -/
def asked : Transport :=
  ⟨⟨⟨⟨List.replicate 64 (.accepted 32768),[]⟩,0⟩,true,fun _ => 0,0⟩,[],(H2.getIndex 1).encode,0⟩

end
end Sarm.Tls
