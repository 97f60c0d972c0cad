import Sarm.Memory

/-!
The stream table of a connection: 32 entries, an index of their ids, and two
bitmaps, of the slots in use and of those whose stream is closed. Lookups go
through the index, allocation through the bitmaps; the entry holds the state.
-/
namespace Sarm.H2
open Sarm.Memory

/-- Error codes of RFC 9113 section 7. -/
inductive H2Error where
  | noError
  | protocolError
  | internalError
  | flowControlError
  | settingsTimeout
  | streamClosed
  | frameSizeError
  | refusedStream
  | cancel
  | compressionError
  | connectError
  | enhanceYourCalm
  | inadequateSecurity
  | http11Required
  deriving DecidableEq, Repr

/-- The `H2_STREAM_*` states. -/
inductive StreamState where
  | idle
  | opened
  | halfClosedRemote
  | halfClosedLocal
  | closed
  deriving DecidableEq, Repr

/-- The `H2_EVENT_*` inputs of the state machine. -/
inductive StreamEvent where
  | recvHeaders
  | recvData
  | recvEndStream
  | recvRstStream
  deriving DecidableEq, Repr

/-- An entry. The flags word is kept as the frame flags stored into it and the bit
    `H2S_FLAG_SERVING` above them. -/
structure Stream where
  streamId : Nat
  state : StreamState
  flags : Nat
  serving : Bool
  window : BitVec 64

/-- The connection state `h2_conn`. -/
structure Conn where
  lastFrameType : Nat
  maxRxFrameSize : Nat
  headerTableSize : Nat
  enablePush : Nat
  maxConcurrentStreams : Nat
  initialWindowSize : Nat
  maxFrameSize : Nat
  maxHeaderListSize : Nat
  ackReceived : Bool
  lastStreamId : Nat
  window : Nat
  goawayReceived : Bool
  goawayLastStreamId : Nat

/-- `H2_MAX_STREAMS`. -/
def maxStreams : Nat := 32
/-- `MAX_CONCURRENT_STREAMS`. -/
def maxConcurrent : Nat := 32

/-- The slots, lowest first. -/
def slots : List Nat := List.range maxStreams

/-- `h2_stream_ids`, `h2_stream_used`, `h2_stream_closed` and `h2_streams`. -/
structure Table where
  ids : Nat → Nat
  used : Nat → Bool
  closed : Nat → Bool
  streams : Nat → Stream

/-- One entry changed. -/
def Table.modify (t : Table) (slot : Nat) (f : Stream → Stream) : Table :=
  { t with streams := store t.streams slot (f (t.streams slot)) }

/-- The lowest slot whose id is `id`. An id wider than 31 bits is in no slot. -/
def h2StreamFind (t : Table) (id : Nat) : Option Nat :=
  if 2^31 ≤ id then none else slots.find? fun i => t.ids i = id

/-- The table after slot `slot` has been given to stream `id`. -/
def initSlot (t : Table) (c : Conn) (slot id : Nat) : Table where
  ids := store t.ids slot id
  used := store t.used slot true
  closed := store t.closed slot false
  streams := store t.streams slot ⟨id,.idle,0,false,BitVec.ofNat 64 c.initialWindowSize⟩

/-- One turn of the recycle loop: a closed slot with a strictly lower id displaces
    the best so far. -/
def recycleTurn (t : Table) (best : Nat × Nat) (i : Nat) : Nat × Nat :=
  if t.closed i then (if t.ids i < best.2 then (i,t.ids i) else best) else best

/-- The closed slot with the smallest id. The running best starts at slot 0 and an
    id above every real one. -/
def recycleSlot (t : Table) : Nat := (slots.foldl (recycleTurn t) (0,2^32 - 1)).1

/-- The slot for a new stream: the lowest free one, else a recycled one. -/
def freshSlot (t : Table) : Option Nat :=
  match slots.find? fun i => !t.used i with
  | some slot => some slot
  | none => if slots.any t.closed then some (recycleSlot t) else none

/-- The entry of a stream, an existing one or a new one. -/
def h2StreamCreate (t : Table) (c : Conn) (id : Nat) : Except H2Error (Nat × Table × Conn) :=
  match slots.find? fun i => t.ids i = id with
  | some slot => .ok (slot,t,c)
  | none => match freshSlot t with
    | some slot => .ok (slot,initSlot t c slot id,{ c with lastStreamId := id })
    | none => .error .refusedStream

/-- `h2_stream_transitions`. -/
def transitions : StreamState → StreamEvent → Option StreamState
  | .idle, .recvHeaders => some .opened
  | .opened, .recvHeaders => some .opened
  | .opened, .recvData => some .opened
  | .opened, .recvEndStream => some .halfClosedRemote
  | .opened, .recvRstStream => some .closed
  | .halfClosedRemote, .recvRstStream => some .closed
  | .halfClosedLocal, .recvEndStream => some .closed
  | .halfClosedLocal, .recvRstStream => some .closed
  | .closed, .recvRstStream => some .closed
  | _, _ => none

/-- The entry in a new state, and its bit among the closed slots. -/
def Table.setState (t : Table) (slot : Nat) (state : StreamState) : Table where
  ids := t.ids
  used := t.used
  closed := store t.closed slot (decide (state = .closed))
  streams := store t.streams slot { t.streams slot with state := state }

def h2StreamEvent (t : Table) (slot : Nat) (event : StreamEvent) : Except H2Error Table :=
  match transitions (t.streams slot).state event with
  | some state => .ok (t.setState slot state)
  | none => .error (if (t.streams slot).state = .idle then .protocolError else .streamClosed)

/-- Checks on the id of a frame that may open a stream; the slot if it is open
    already. -/
def h2ValidateStreamId (t : Table) (c : Conn) (id : Nat) : Except H2Error (Option Nat) :=
  if id = 0 ∨ id % 2 = 0 then .error .protocolError
  else match h2StreamFind t id with
    | some slot => .ok (some slot)
    | none => if id ≤ c.lastStreamId then .error .protocolError else .ok none

/-! ### What the operations find and change -/

theorem mem_slots {i : Nat} : i ∈ slots ↔ i < maxStreams := List.mem_range

theorem find_some {t : Table} {id slot : Nat} (found : h2StreamFind t id = some slot) :
    slot < maxStreams ∧ t.ids slot = id ∧ id < 2^31 := by
  rw [h2StreamFind] at found
  split at found
  · contradiction
  next small =>
  have here := mem_slots.mp (List.mem_of_find?_eq_some found)
  have same := List.find?_some found
  exact ⟨here,by simpa using same,Nat.not_le.mp small⟩

theorem find_none {t : Table} {id : Nat} (missing : h2StreamFind t id = none) (small : id < 2^31) :
    ∀ i < maxStreams, t.ids i ≠ id := by
  rw [h2StreamFind,if_neg (Nat.not_le.mpr small)] at missing
  intro i inside
  simpa using List.find?_eq_none.mp missing i (mem_slots.mpr inside)

theorem find_congr {t t' : Table} (same : t'.ids = t.ids) (id : Nat) : h2StreamFind t' id = h2StreamFind t id := by
  rw [h2StreamFind,h2StreamFind,same]

theorem event_cases {t t' : Table} {slot : Nat} {event : StreamEvent} (executed : h2StreamEvent t slot event = .ok t') :
    ∃ state, transitions (t.streams slot).state event = some state ∧ t' = t.setState slot state := by
  rw [h2StreamEvent] at executed
  cases next : transitions (t.streams slot).state event with
  | none => rw [next] at executed; contradiction
  | some state =>
    rw [next] at executed
    cases executed
    exact ⟨state,rfl,rfl⟩

/-- A slot the recycle pass may take. -/
def Table.Recyclable (t : Table) (i : Nat) : Prop := t.closed i = true ∧ i < maxStreams

theorem recycleTurn_held {t : Table} {best : Nat × Nat} {i : Nat} (held : t.Recyclable best.1) (inside : i < maxStreams) :
    t.Recyclable (recycleTurn t best i).1 := by
  rw [recycleTurn]
  split
  · next closed =>
    split
    · exact ⟨closed,inside⟩
    · exact held
  · exact held

theorem recycle_held {t : Table} : ∀ (l : List Nat) (best : Nat × Nat), t.Recyclable best.1 →
    (∀ i ∈ l, i < maxStreams) → t.Recyclable (l.foldl (recycleTurn t) best).1 := by
  intro l
  induction l with
  | nil => intro best held _; exact held
  | cons i l ih =>
    intro best held inside
    rw [List.forall_mem_cons] at inside
    exact ih _ (recycleTurn_held held inside.1) inside.2

/-- The first closed slot displaces the sentinel. -/
theorem recycle_seen {t : Table} (small : ∀ i < maxStreams, t.ids i < 2^32 - 1) : ∀ (l : List Nat) (slot : Nat),
    (∀ i ∈ l, i < maxStreams) → (∃ i ∈ l, t.closed i = true) →
      t.Recyclable (l.foldl (recycleTurn t) (slot,2^32 - 1)).1 := by
  intro l
  induction l with
  | nil => rintro slot _ ⟨i,member,_⟩; simp at member
  | cons i l ih =>
    rintro slot inside ⟨j,member,closed⟩
    rw [List.forall_mem_cons] at inside
    rw [List.foldl_cons]
    by_cases here : t.closed i = true
    · have taken : recycleTurn t (slot,2^32 - 1) i = (i,t.ids i) := by
        rw [recycleTurn,if_pos here,if_pos (small i inside.1)]
      rw [taken]
      exact recycle_held l _ ⟨here,inside.1⟩ inside.2
    · have skipped : recycleTurn t (slot,2^32 - 1) i = (slot,2^32 - 1) := by rw [recycleTurn,if_neg here]
      rw [skipped]
      refine ih slot inside.2 ⟨j,?_,closed⟩
      rcases List.mem_cons.mp member with rfl | later
      · exact absurd closed here
      · exact later

/-- A fresh slot is free, or closed in a table without a free one. -/
theorem freshSlot_some {t : Table} (small : ∀ i < maxStreams, t.ids i < 2^32 - 1) {slot : Nat}
    (fresh : freshSlot t = some slot) :
    slot < maxStreams ∧ (t.used slot = false ∨ (t.closed slot = true ∧ ∀ i < maxStreams, t.used i = true)) := by
  rw [freshSlot] at fresh
  split at fresh
  · next free found =>
    cases fresh
    have here := mem_slots.mp (List.mem_of_find?_eq_some found)
    have unused := List.find?_some found
    exact ⟨here,.inl (by simpa using unused)⟩
  · next full =>
    split at fresh
    · next some_ =>
      cases fresh
      have seen := recycle_seen small slots 0 (fun i member => mem_slots.mp member) (List.any_eq_true.mp some_)
      refine ⟨seen.2,.inr ⟨seen.1,?_⟩⟩
      intro i inside
      simpa using List.find?_eq_none.mp full i (mem_slots.mpr inside)
    · contradiction

theorem create_cases {t t' : Table} {c c' : Conn} {id slot : Nat}
    (executed : h2StreamCreate t c id = .ok (slot,t',c')) :
    (t' = t ∧ c' = c ∧ slot < maxStreams ∧ t.ids slot = id) ∨
      ((∀ i < maxStreams, t.ids i ≠ id) ∧ freshSlot t = some slot ∧ t' = initSlot t c slot id ∧
        c' = { c with lastStreamId := id }) := by
  rw [h2StreamCreate] at executed
  split at executed
  · next here found =>
    cases executed
    have same := List.find?_some found
    exact .inl ⟨rfl,rfl,mem_slots.mp (List.mem_of_find?_eq_some found),by simpa using same⟩
  · next missing =>
    split at executed
    · next fresh =>
      cases executed
      refine .inr ⟨?_,fresh,rfl,rfl⟩
      intro i inside
      simpa using List.find?_eq_none.mp missing i (mem_slots.mpr inside)
    · contradiction

theorem validate_some {t : Table} {c : Conn} {id slot : Nat} (valid : h2ValidateStreamId t c id = .ok (some slot)) :
    h2StreamFind t id = some slot ∧ id ≠ 0 ∧ id % 2 = 1 := by
  rw [h2ValidateStreamId] at valid
  split at valid
  · contradiction
  next proper =>
  split at valid
  · next found => cases valid; exact ⟨found,by omega,by omega⟩
  · split at valid <;> cases valid

theorem validate_none {t : Table} {c : Conn} {id : Nat} (valid : h2ValidateStreamId t c id = .ok none) :
    h2StreamFind t id = none ∧ id ≠ 0 ∧ id % 2 = 1 ∧ c.lastStreamId < id := by
  rw [h2ValidateStreamId] at valid
  split at valid
  · contradiction
  next proper =>
  split at valid
  · cases valid
  · next missing =>
    split at valid
    · contradiction
    · next above => exact ⟨missing,by omega,by omega,Nat.not_le.mp above⟩

end Sarm.H2
