import Sarm.Memory
import Sarm.Transport

/-!
The staging of writes. Small writes gather in a buffer in front of the write that
reaches the wire, large ones go past it once it is flushed. What stands behind the
buffer is a parameter: the socket of a plaintext connection, with partial writes that
are taken up where they left off, or the records of an encrypted one.
-/
namespace Sarm.Staging
open Sarm.Memory
open Sarm.H2 (WriteEvent writeStageSize)

/-! ### The stage -/

/-- `transport_write_buffering`, `write_stage_buf` and `write_stage_len`, with what is
    behind them. -/
structure Stage (σ : Type) where
  sink : σ
  buffering : Bool
  buf : Mem
  len : Nat

section
variable {σ : Type} (now : σ → List UInt8 → σ × Bool)

/-- What is staged. -/
def Stage.staged (w : Stage σ) : List UInt8 := slice w.buf 0 w.len

/-- `transport_write_now`, past the stage. -/
def Stage.writeNow (w : Stage σ) (data : List UInt8) : Stage σ × Bool :=
  match now w.sink data with
  | (sink,done) => ({ w with sink := sink },done)

/-- `transport_flush`: the stage is emptied before it is written. -/
def Stage.flush (w : Stage σ) : Stage σ × Bool :=
  if w.len = 0 then (w,true) else Stage.writeNow now { w with len := 0 } w.staged

/-- Copy behind what is staged. -/
def Stage.append (w : Stage σ) (data : List UInt8) : Stage σ :=
  { w with buf := blit w.buf w.len (ofBytes data) data.length, len := w.len + data.length }

/-- `transport_write`. -/
def Stage.write (w : Stage σ) (data : List UInt8) : Stage σ × Bool :=
  if w.buffering = false then w.writeNow now data
  else if data = [] then (w,true)
  else if w.len + data.length ≤ writeStageSize then (w.append data,true)
  else match w.flush now with
    | (w,false) => (w,false)
    | (w,true) =>
      if writeStageSize < data.length then w.writeNow now data else (Stage.append { w with len := 0 } data,true)

/-- `transport_writev` of a plaintext connection, over its vectored write. -/
def Stage.writev (nowv : σ → List (List UInt8) → σ × Bool) (w : Stage σ) (header body : List UInt8) : Stage σ × Bool :=
  if w.buffering = true ∧ header.length + body.length + w.len ≤ writeStageSize then
    match w.write now header with
    | (w,false) => (w,false)
    | (w,true) => w.write now body
  else match if w.buffering then w.flush now else (w,true) with
    | (w,false) => (w,false)
    | (w,true) => match nowv w.sink [header,body] with
      | (sink,done) => ({ w with sink := sink },done)

/-- `transport_writev` of an encrypted one: both parts are put together first. -/
def Stage.writevWhole (w : Stage σ) (header body : List UInt8) : Stage σ × Bool := w.write now (header ++ body)

/-! ### Nothing is lost -/

/-- What a write that succeeds adds to what has been delivered. -/
def Delivers (delivered : σ → List UInt8) : Prop :=
  ∀ s data s', now s data = (s',true) → delivered s' = delivered s ++ data

/-- The stage does not hold more than fits, and nothing if it is not in use. -/
def Stage.Sound (w : Stage σ) : Prop := w.len ≤ writeStageSize ∧ (w.buffering = false → w.len = 0)

/-- What has been delivered, and behind it what is staged. -/
def Stage.output (delivered : σ → List UInt8) (w : Stage σ) : List UInt8 := delivered w.sink ++ w.staged

/-- A step that has brought these octets. -/
structure Stage.Brings (delivered : σ → List UInt8) (w : Stage σ) (data : List UInt8) (w' : Stage σ) : Prop where
  output : w'.output delivered = w.output delivered ++ data
  sound : w'.Sound
  buffering : w'.buffering = w.buffering

variable {now} {delivered : σ → List UInt8} {w w' : Stage σ} {data : List UInt8}

theorem Stage.Brings.trans {w'' : Stage σ} {more : List UInt8} (first : w.Brings delivered data w')
    (second : w'.Brings delivered more w'') :
    w.Brings delivered (data ++ more) w'' :=
  ⟨by rw [second.output,first.output,List.append_assoc],second.sound,second.buffering.trans first.buffering⟩

theorem staged_empty (empty : w.len = 0) : w.staged = [] := by
  rw [Stage.staged,empty,slice_zero]

theorem append_staged (w : Stage σ) (data : List UInt8) : (w.append data).staged = w.staged ++ data := by
  rw [Stage.staged,Stage.append,slice_add,slice_blit_before (by omega),Nat.zero_add,slice_blit_same,slice_ofBytes]
  rfl

theorem append_brings (on : w.buffering = true) (fits : w.len + data.length ≤ writeStageSize) :
    w.Brings delivered data (w.append data) := by
  refine ⟨?_,⟨fits,fun off => ?_⟩,rfl⟩
  · rw [Stage.output,append_staged,← List.append_assoc]
    rfl
  · exact absurd (on.symm.trans off) nofun

/-- Past an empty stage. -/
theorem pass_brings {sink : σ} (empty : w.len = 0) (taken : delivered sink = delivered w.sink ++ data) :
    w.Brings delivered data { w with sink := sink } ∧ ({ w with sink := sink } : Stage σ).len = 0 := by
  refine ⟨⟨?_,⟨?_,fun _ => empty⟩,rfl⟩,empty⟩
  · rw [Stage.output,Stage.output,staged_empty empty,staged_empty (w := { w with sink := sink }) empty,taken,
      List.append_nil,List.append_nil]
  · change w.len ≤ writeStageSize
    rw [empty]
    exact Nat.zero_le _

theorem writeNow_brings (law : Delivers now delivered) (empty : w.len = 0) (done : w.writeNow now data = (w',true)) :
    w.Brings delivered data w' ∧ w'.len = 0 := by
  rw [Stage.writeNow] at done
  cases taken : now w.sink data with
  | mk sink ok =>
    rw [taken] at done
    simp only [Prod.mk.injEq] at done
    obtain ⟨rfl,rfl⟩ := done
    exact pass_brings empty (law _ _ _ taken)

theorem flush_brings (law : Delivers now delivered) (sound : w.Sound) (done : w.flush now = (w',true)) :
    w.Brings delivered [] w' ∧ w'.len = 0 := by
  rw [Stage.flush] at done
  split at done
  · next empty =>
    cases done
    exact ⟨⟨by simp,sound,rfl⟩,empty⟩
  · obtain ⟨brings,empty⟩ := writeNow_brings law rfl done
    refine ⟨⟨?_,brings.sound,brings.buffering⟩,empty⟩
    rw [brings.output,List.append_nil,Stage.output,Stage.output]
    simp [staged_empty (w := { w with len := 0 }) rfl]

theorem write_brings (law : Delivers now delivered) (sound : w.Sound) (done : w.write now data = (w',true)) :
    w.Brings delivered data w' := by
  rw [Stage.write] at done
  split at done
  · next off => exact (writeNow_brings law (sound.2 off) done).1
  next on =>
  have on : w.buffering = true := by simpa using on
  split at done
  · next nothing =>
    cases done
    rw [nothing]
    exact ⟨by simp,sound,rfl⟩
  split at done
  · next fits =>
    cases done
    exact append_brings on fits
  cases flushed : w.flush now with
  | mk w₁ ok =>
    rw [flushed] at done
    cases ok with
    | false => cases done
    | true =>
      obtain ⟨first,empty⟩ := flush_brings law sound flushed
      have second : w₁.Brings delivered data w' := by
        dsimp only at done
        split at done
        · exact (writeNow_brings law empty done).1
        · next short =>
          cases done
          have back : { w₁ with len := 0 } = w₁ := by rw [← empty]
          rw [back]
          exact append_brings (first.buffering.trans on) (by omega)
      exact first.trans second

/-- The parts of a vectored write are delivered one behind the other. -/
theorem writev_brings {nowv : σ → List (List UInt8) → σ × Bool} (law : Delivers now delivered)
    (lawv : ∀ s parts s', nowv s parts = (s',true) → delivered s' = delivered s ++ parts.flatten) (sound : w.Sound)
    {header body : List UInt8} (done : w.writev now nowv header body = (w',true)) :
    w.Brings delivered (header ++ body) w' := by
  rw [Stage.writev] at done
  split at done
  · cases first : w.write now header with
    | mk w₁ ok =>
      rw [first] at done
      cases ok with
      | false => cases done
      | true =>
        have header := write_brings law sound first
        exact header.trans (write_brings law header.sound done)
  · -- The stage is empty before the parts go past it.
    have emptied : ∀ {w₁}, (if w.buffering then w.flush now else (w,true)) = (w₁,true) → w.Brings delivered [] w₁ ∧
        w₁.len = 0 := by
      intro w₁ first
      split at first
      · exact flush_brings law sound first
      · next off =>
        cases first
        exact ⟨⟨by simp,sound,rfl⟩,sound.2 (by simpa using off)⟩
    generalize (if w.buffering then w.flush now else (w,true)) = r at done emptied
    obtain ⟨w₁,_ | _⟩ := r
    · cases done
    · obtain ⟨first,empty⟩ := emptied rfl
      cases taken : nowv w₁.sink [header,body] with
      | mk sink ok =>
        dsimp only at done
        rw [taken] at done
        simp only [Prod.mk.injEq] at done
        obtain ⟨rfl,rfl⟩ := done
        exact first.trans (pass_brings empty (by simpa using lawv _ _ _ taken)).1

end

/-! ### The socket -/

/-- The outcomes of the writes to come, and what has reached the socket. -/
structure Socket where
  outcomes : List WriteEvent
  wire : List UInt8

/-- `raw_write_all`: what a write has not taken is written again. -/
def rawWriteAll : List WriteEvent → List UInt8 → List UInt8 → Socket × Bool
  | outcomes, wire, [] => (⟨outcomes,wire⟩,true)
  | [], wire, _ => (⟨[],wire⟩,false)
  | .accepted n :: outcomes, wire, octet :: data =>
    rawWriteAll outcomes (wire ++ (octet :: data).take n) ((octet :: data).drop n)
  | .interrupted :: outcomes, wire, data => rawWriteAll outcomes wire data
  | .failed :: outcomes, wire, _ => (⟨outcomes,wire⟩,false)

/-- `.Lrwa_consume`: walk octets off the parts. -/
def consume : Nat → List (List UInt8) → List (List UInt8)
  | _, [] => []
  | n, part :: parts =>
    if n = 0 then part :: parts
    else if n < part.length then part.drop n :: parts
    else consume (n - part.length) parts

/-- `raw_writev_all`: empty parts in front are dropped before each write. -/
def rawWritevAll : List WriteEvent → List UInt8 → List (List UInt8) → Socket × Bool
  | outcomes, wire, parts => match parts.dropWhile (· = []), outcomes with
    | [], outcomes => (⟨outcomes,wire⟩,true)
    | _ :: _, [] => (⟨[],wire⟩,false)
    | part :: parts, .accepted n :: outcomes =>
      let whole := (part :: parts).flatten
      rawWritevAll outcomes (wire ++ whole.take n) (consume (min n whole.length) (part :: parts))
    | part :: parts, .interrupted :: outcomes => rawWritevAll outcomes wire (part :: parts)
    | _ :: _, .failed :: outcomes => (⟨outcomes,wire⟩,false)

def Socket.write (s : Socket) (data : List UInt8) : Socket × Bool := rawWriteAll s.outcomes s.wire data

def Socket.writev (s : Socket) (parts : List (List UInt8)) : Socket × Bool := rawWritevAll s.outcomes s.wire parts

theorem consume_flatten : ∀ (n : Nat) (parts : List (List UInt8)), (consume n parts).flatten = parts.flatten.drop n := by
  intro n parts
  induction parts generalizing n with
  | nil => simp [consume]
  | cons part parts ih =>
    rw [consume]
    split
    · next zero => rw [zero,List.drop_zero]
    split
    · next within => rw [List.flatten_cons,List.flatten_cons,List.drop_append_of_le_length (by omega)]
    · next past =>
      rw [ih,List.flatten_cons,List.drop_append,List.drop_of_length_le (show part.length ≤ n by omega),
        List.nil_append]

theorem dropWhile_flatten (parts : List (List UInt8)) : (parts.dropWhile (· = [])).flatten = parts.flatten := by
  induction parts with
  | nil => rfl
  | cons part parts ih =>
    rw [List.dropWhile_cons]
    split
    · next empty => rw [ih,List.flatten_cons,of_decide_eq_true empty,List.nil_append]
    · rfl

/-- Behind the empty parts the first octet is that of a part. -/
theorem dropWhile_cons {parts rest : List (List UInt8)} {part : List UInt8}
    (behind : parts.dropWhile (· = []) = part :: rest) :
    ∃ octet data, parts.flatten = octet :: data ∧ (part :: rest).flatten = octet :: data := by
  have whole := dropWhile_flatten parts
  have proper := List.head_dropWhile_not (· = []) (l := parts) (by rw [behind]; exact List.cons_ne_nil _ _)
  rw [behind] at whole
  simp only [behind,List.head_cons,decide_eq_false_iff_not] at proper
  cases part with
  | nil => exact absurd rfl proper
  | cons octet data => exact ⟨octet,_,whole.symm,rfl⟩

/-- A vectored write is a write of the parts together: a partial one is taken up in the
    part it has ended in. -/
theorem rawWritevAll_eq : ∀ (outcomes : List WriteEvent) (wire : List UInt8) (parts : List (List UInt8)),
    rawWritevAll outcomes wire parts = rawWriteAll outcomes wire parts.flatten := by
  intro outcomes
  induction outcomes with
  | nil =>
    intro wire parts
    have whole := dropWhile_flatten parts
    rw [rawWritevAll.eq_def]
    dsimp only
    cases behind : parts.dropWhile (· = []) with
    | nil =>
      rw [behind] at whole
      rw [← whole]
      rfl
    | cons part rest =>
      obtain ⟨octet,data,octets,_⟩ := dropWhile_cons behind
      rw [octets]
      rfl
  | cons event outcomes ih =>
    intro wire parts
    have whole := dropWhile_flatten parts
    rw [rawWritevAll.eq_def]
    dsimp only
    cases behind : parts.dropWhile (· = []) with
    | nil =>
      rw [behind] at whole
      rw [← whole]
      rfl
    | cons part rest =>
      obtain ⟨octet,data,octets,same⟩ := dropWhile_cons behind
      rw [octets]
      cases event with
      | accepted n =>
        have left : (octet :: data).drop (min n (octet :: data).length) = (octet :: data).drop n := by
          rcases Nat.le_total n (octet :: data).length with inside | past
          · rw [Nat.min_eq_left inside]
          · rw [Nat.min_eq_right past,List.drop_length,List.drop_of_length_le past]
        dsimp only
        rw [ih,consume_flatten,same,left,rawWriteAll]
      | interrupted =>
        dsimp only
        rw [ih,same,rawWriteAll]
        exact nofun
      | failed => rfl

/-- All that is written reaches the socket, in order. -/
theorem rawWriteAll_wire : ∀ (outcomes : List WriteEvent) (wire data : List UInt8) {s : Socket},
    rawWriteAll outcomes wire data = (s,true) → s.wire = wire ++ data := by
  intro outcomes
  induction outcomes with
  | nil =>
    intro wire data s done
    cases data with
    | nil => cases done; simp
    | cons octet data => cases done
  | cons event outcomes ih =>
    intro wire data s done
    cases data with
    | nil => cases done; simp
    | cons octet data =>
      cases event with
      | accepted n =>
        rw [rawWriteAll] at done
        rw [ih _ _ done,List.append_assoc,List.take_append_drop]
      | interrupted => exact ih _ _ done
      | failed => cases done

/-! ### Calls -/

/-- The calls of a plaintext connection. -/
inductive Call where
  | write (data : List UInt8)
  | writev (header body : List UInt8)
  | flush

def Call.octets : Call → List UInt8
  | .write data => data
  | .writev header body => header ++ body
  | .flush => []

def Call.make (w : Stage Socket) : Call → Stage Socket × Bool
  | .write data => w.write Socket.write data
  | .writev header body => w.writev Socket.write Socket.writev header body
  | .flush => w.flush Socket.write

/-- Calls one after the other, none of which may fail. -/
def makeCalls : List Call → Stage Socket → Option (Stage Socket)
  | [], w => some w
  | call :: calls, w => match call.make w with
    | (_,false) => none
    | (w,true) => makeCalls calls w

theorem socket_delivers : Delivers Socket.write Socket.wire := fun _ _ _ done => rawWriteAll_wire _ _ _ done

theorem call_brings {w w' : Stage Socket} {call : Call} (sound : w.Sound) (done : call.make w = (w',true)) :
    w.Brings Socket.wire call.octets w' := by
  cases call with
  | write data => exact write_brings socket_delivers sound done
  | writev header body =>
    have together : ∀ s parts s', Socket.writev s parts = (s',true) → s'.wire = s.wire ++ parts.flatten := by
      intro s parts s' taken
      rw [Socket.writev,rawWritevAll_eq] at taken
      exact rawWriteAll_wire _ _ _ taken
    exact writev_brings socket_delivers together sound done
  | flush => exact (flush_brings socket_delivers sound done).1

theorem makeCalls_brings {calls : List Call} {w w' : Stage Socket} (sound : w.Sound)
    (done : makeCalls calls w = some w') :
    w.Brings Socket.wire (calls.flatMap Call.octets) w' := by
  induction calls generalizing w with
  | nil =>
    cases done
    exact ⟨by simp,sound,rfl⟩
  | cons call calls ih =>
    rw [makeCalls] at done
    cases made : call.make w with
    | mk w₁ ok =>
      rw [made] at done
      cases ok with
      | false => cases done
      | true =>
        have first := call_brings sound made
        exact first.trans (ih first.sound done)

/-- What has reached the socket, and behind it what is staged, is what the calls have
    written, in their order. -/
theorem staging_transparent {outcomes : List WriteEvent} {buffering : Bool} {buf : Mem} {calls : List Call}
    {w : Stage Socket}
    (done : makeCalls calls ⟨⟨outcomes,[]⟩,buffering,buf,0⟩ = some w) :
    w.sink.wire ++ w.staged = calls.flatMap Call.octets ∧ w.len ≤ writeStageSize := by
  have brings := makeCalls_brings ⟨Nat.zero_le _,fun _ => rfl⟩ done
  refine ⟨?_,brings.sound.1⟩
  exact brings.output

/-- Writes that are staged, and go out in pieces. -/
theorem staging_transparent_partial :
    let start : Stage Socket := ⟨⟨[.accepted 2,.interrupted,.accepted 1,.accepted 2],[]⟩,true,fun _ => 0,0⟩
    ∃ w, makeCalls [.write [1,2],.writev [3] [4,5],.flush,.write [6]] start = some w ∧
      w.sink.wire ++ w.staged = [1,2,3,4,5,6] ∧ w.len ≤ writeStageSize := by
  intro start
  have made : (makeCalls [.write [1,2],.writev [3] [4,5],.flush,.write [6]] start).isSome := rfl
  obtain ⟨w,done⟩ := Option.isSome_iff_exists.mp made
  exact ⟨w,done,staging_transparent done⟩

/-! ### The transport of HTTP/2 -/

section
variable (reads : List H2.ReadEvent) (readStage : List UInt8)

/-- The transport of a connection whose writes gather, over the stage as it is stored. -/
def Stage.transport (w : Stage Socket) : H2.Transport := ⟨reads,w.sink.outcomes,readStage,w.staged,w.sink.wire⟩

/-- A result of the stage with that of the transport. -/
def lifted (r : Stage Socket × Bool) : H2.Transport × Bool := (r.1.transport reads readStage,r.2)

variable {reads readStage} {w : Stage Socket} {data : List UInt8}

theorem rawWriteAll_transport : ∀ (outcomes : List WriteEvent) (data : List UInt8) (t : H2.Transport),
    H2.rawWriteAll outcomes data t =
      ({ t with writes := (rawWriteAll outcomes t.wire data).1.outcomes, wire := (rawWriteAll outcomes t.wire data).1.wire },
        (rawWriteAll outcomes t.wire data).2) := by
  intro outcomes
  induction outcomes with
  | nil => intro data t; cases data <;> rfl
  | cons event outcomes ih =>
    intro data t
    cases data with
    | nil => rfl
    | cons octet data =>
      cases event with
      | accepted n => rw [H2.rawWriteAll,ih,rawWriteAll]
      | interrupted =>
        rw [H2.rawWriteAll,ih,rawWriteAll]
        · rintro ⟨⟩
        · rintro ⟨⟩
      | failed => rfl

theorem writeNow_transport (empty : w.len = 0) :
    (w.transport reads readStage).writeNow data = lifted reads readStage (w.writeNow Socket.write data) := by
  have result : w.writeNow Socket.write data =
      ({ w with sink := (Socket.write w.sink data).1 },(Socket.write w.sink data).2) := rfl
  have none_ : ({ w with sink := (Socket.write w.sink data).1 } : Stage Socket).staged = [] := staged_empty empty
  rw [H2.Transport.writeNow,rawWriteAll_transport,lifted,result,Stage.transport,Stage.transport,staged_empty empty,none_]
  rfl

theorem flush_transport : (w.transport reads readStage).flush = lifted reads readStage (w.flush Socket.write) := by
  rw [H2.Transport.flush,Stage.flush]
  by_cases empty : w.len = 0
  · rw [if_pos empty,if_pos (show (w.transport reads readStage).writeStage = [] from staged_empty empty)]
    rfl
  · have some_ : w.staged ≠ [] := by
      rw [Ne,← List.length_eq_zero_iff,Stage.staged,slice_length]
      exact empty
    rw [if_neg empty,if_neg (show (w.transport reads readStage).writeStage ≠ [] from some_)]
    exact writeNow_transport (w := { w with len := 0 }) rfl

theorem staged_length (w : Stage Socket) : (w.transport reads readStage).writeStage.length = w.len := slice_length _ _ _

theorem append_transport (w : Stage Socket) (data : List UInt8) :
    { w.transport reads readStage with writeStage := (w.transport reads readStage).writeStage ++ data } =
      (w.append data).transport reads readStage := by
  rw [Stage.transport,Stage.transport,append_staged]
  rfl

/-- A write of the transport is one of the stage. -/
theorem write_transport (on : w.buffering = true) (fits : w.len ≤ writeStageSize) :
    (w.transport reads readStage).write data = lifted reads readStage (w.write Socket.write data) := by
  have running : ¬w.buffering = false := by simp [on]
  rw [H2.Transport.write,Stage.write,if_neg running,staged_length]
  by_cases nothing : data = []
  · rw [if_pos nothing,if_pos nothing]
    rfl
  by_cases behind : w.len + data.length ≤ writeStageSize
  · rw [if_neg nothing,if_neg nothing,if_pos behind,if_pos behind,append_transport]
    rfl
  rw [if_neg nothing,if_neg nothing,if_neg behind,if_neg behind,flush_transport]
  cases flushed : w.flush Socket.write with
  | mk w₁ ok =>
    cases ok with
    | false => rfl
    | true =>
      have empty := (flush_brings socket_delivers ⟨fits,fun off => absurd off running⟩ flushed).2
      have back : { w₁ with len := 0 } = w₁ := by rw [← empty]
      rw [lifted]
      dsimp only
      by_cases large : writeStageSize < data.length
      · rw [if_pos large,if_pos large]
        exact writeNow_transport empty
      · rw [if_neg large,if_neg large,append_transport,back]
        rfl

/-- A vectored write that is not staged is a write of both parts together. -/
theorem writev_transport {header body : List UInt8} (on : w.buffering = true) (fits : w.len ≤ writeStageSize) :
    (w.transport reads readStage).writev header body = lifted reads readStage
    (w.writev Socket.write Socket.writev header body) := by
  have sound : w.Sound := ⟨fits,fun off => by simp [on] at off⟩
  rw [H2.Transport.writev,Stage.writev,staged_length]
  by_cases both : header.length + body.length + w.len ≤ writeStageSize
  · rw [if_pos both,if_pos ⟨on,both⟩,write_transport on fits]
    cases first : w.write Socket.write header with
    | mk w₁ ok =>
      cases ok with
      | false => rfl
      | true =>
        have brings := write_brings socket_delivers sound first
        exact write_transport (brings.buffering.trans on) brings.sound.1
  · rw [if_neg both,if_neg (fun staged => both staged.2),if_pos on,flush_transport]
    cases flushed : w.flush Socket.write with
    | mk w₁ ok =>
      cases ok with
      | false => rfl
      | true =>
        have empty := (flush_brings socket_delivers sound flushed).2
        have together : Socket.writev w₁.sink [header,body] = Socket.write w₁.sink (header ++ body) := by
          rw [Socket.writev,rawWritevAll_eq,List.flatten_cons,List.flatten_cons,List.flatten_nil,List.append_nil]
          rfl
        dsimp only
        rw [together]
        exact writeNow_transport empty

end

end Sarm.Staging
