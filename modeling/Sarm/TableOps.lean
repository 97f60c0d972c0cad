import Sarm.TableSteps
import Sarm.Server

/-!
The stream table by its operations. Whatever streams are created, whatever events
happen to their entries and however often the connection starts afresh, the index
and the bitmaps say what the entries say.
-/
namespace Sarm.H2
open Sarm.Memory

/-- An operation on the table of a connection. An event is one of a stream, whose
    entry is looked up first. -/
inductive TableOp where
  | create (id : Nat)
  | event (id : Nat) (event : StreamEvent)
  | reset

/-- Stream 0 is not created, and gets no HEADERS frame: the handlers check that. -/
def TableOp.Proper : TableOp → Prop
  | .create id => id ≠ 0
  | .event id e => id ≠ 0 ∨ e ≠ .recvHeaders
  | .reset => True

/-- An operation that fails leaves the table as it was. -/
def TableOp.apply (s : Table × Conn) : TableOp → Table × Conn
  | .create id => match h2StreamCreate s.1 s.2 id with
    | .ok (_,t,c) => (t,c)
    | .error _ => s
  | .event id e => match h2StreamFind s.1 id with
    | none => s
    | some slot => match h2StreamEvent s.1 slot e with
      | .ok t => (t,s.2)
      | .error _ => s
  | .reset => (Table.empty,Conn.fresh)

def runTableOps (ops : List TableOp) (s : Table × Conn) : Table × Conn := ops.foldl TableOp.apply s

/-- An entry without a stream. -/
def Stream.zero : Stream := ⟨0,.idle,0,false,0⟩

/-- The index and the bitmaps agree with the entries, no stream has two of them, and
    one without a stream is all zero. -/
structure Table.Represented (t : Table) : Prop where
  ids : ∀ i < maxStreams, t.ids i = (t.streams i).streamId
  used : ∀ i < maxStreams, (t.used i = true ↔ t.ids i ≠ 0)
  closed : ∀ i < maxStreams, (t.closed i = true ↔ (t.streams i).state = .closed)
  distinct : ∀ i < maxStreams, ∀ j < maxStreams, t.ids i ≠ 0 → t.ids i = t.ids j → i = j
  zero : ∀ i < maxStreams, t.ids i = 0 → t.streams i = Stream.zero

theorem Table.Represented.agrees {t : Table} (represented : t.Represented) {i : Nat} (inside : i < maxStreams) :
    t.Agrees i := by
  refine ⟨(represented.ids i inside).symm,represented.used i inside,represented.closed i inside,?_⟩
  intro free
  rw [represented.zero i inside free]
  rfl

theorem empty_represented : Table.empty.Represented := by
  refine ⟨fun _ _ => rfl,?_,?_,?_,fun _ _ _ => rfl⟩
  · intro i _
    simp [Table.empty]
  · intro i _
    simp [Table.empty]
  · intro i _ j _ proper
    exact absurd rfl proper

/-- A new entry in whatever slot. -/
theorem initSlot_represented {t : Table} (represented : t.Represented) (c : Conn) (slot : Nat) {id : Nat}
    (proper : id ≠ 0)
    (missing : ∀ i < maxStreams, t.ids i ≠ id) : (initSlot t c slot id).Represented := by
  obtain ⟨ids,used,closed,distinct,zero⟩ := represented
  refine ⟨?_,?_,?_,?_,?_⟩
  · intro i inside
    by_cases here : i = slot
    · simp [initSlot,here]
    · simpa [initSlot,here] using ids i inside
  · intro i inside
    by_cases here : i = slot
    · simp [initSlot,here,proper]
    · simpa [initSlot,here] using used i inside
  · intro i inside
    by_cases here : i = slot
    · simp [initSlot,here]
    · simpa [initSlot,here] using closed i inside
  · intro i insideI j insideJ _ same
    by_cases hereI : i = slot
    · by_cases hereJ : j = slot
      · rw [hereI,hereJ]
      · have found : id = t.ids j := by simpa [initSlot,hereI,hereJ] using same
        exact absurd found.symm (missing j insideJ)
    · by_cases hereJ : j = slot
      · have found : t.ids i = id := by simpa [initSlot,hereI,hereJ] using same
        exact absurd found (missing i insideI)
      · refine distinct i insideI j insideJ ?_ ?_
        · simpa [initSlot,hereI] using ‹(initSlot t c slot id).ids i ≠ 0›
        · simpa [initSlot,hereI,hereJ] using same
  · intro i inside
    by_cases here : i = slot
    · intro free
      exact absurd (by simpa [initSlot,here] using free) proper
    · simpa [initSlot,here] using zero i inside

theorem setState_represented {t : Table} (represented : t.Represented) {slot : Nat} (state : StreamState)
    (proper : t.ids slot ≠ 0) :
    (t.setState slot state).Represented := by
  have agrees : ∀ i < maxStreams, (t.setState slot state).Agrees i :=
    fun i inside => setState_agrees state proper (represented.agrees inside)
  refine ⟨fun i inside => (agrees i inside).id.symm,fun i inside => (agrees i inside).used,
    fun i inside => (agrees i inside).closed,represented.distinct,?_⟩
  intro i inside free
  have other : i ≠ slot := by
    rintro rfl
    exact proper free
  simpa [Table.setState,other] using represented.zero i inside free

theorem apply_table_represented {s : Table × Conn} {op : TableOp} (proper : op.Proper) (represented : s.1.Represented) :
    (op.apply s).1.Represented := by
  cases op with
  | create id =>
    rw [TableOp.apply]
    split
    · next slot t c created =>
      rcases create_cases created with ⟨rfl,_,_,_⟩ | ⟨missing,_,rfl,_⟩
      · exact represented
      · exact initSlot_represented represented s.2 slot proper missing
    · exact represented
  | event id e =>
    rw [TableOp.apply]
    split
    · exact represented
    next slot found =>
    split
    · next t executed =>
      obtain ⟨inside,own,_⟩ := find_some found
      obtain ⟨state,next,rfl⟩ := event_cases executed
      refine setState_represented represented state ?_
      -- A slot without a stream takes no event but a HEADERS frame's.
      intro free
      rcases proper with stream | other
      · exact stream (own.symm.trans free)
      · rw [represented.zero slot inside free] at next
        cases e <;> simp [Stream.zero,transitions] at next other
    · exact represented
  | reset => exact empty_represented

/-- After every sequence of creations, events and resets from the empty table, the
    index and the bitmaps say what the entries say. -/
theorem runTableOps_represented (ops : List TableOp) (c : Conn) (proper : ∀ op ∈ ops, op.Proper) :
    (runTableOps ops (Table.empty,c)).1.Represented := by
  have run : ∀ (ops : List TableOp) (s : Table × Conn), (∀ op ∈ ops, op.Proper) → s.1.Represented →
      (runTableOps ops s).1.Represented := by
    intro ops
    induction ops with
    | nil => intro s _ represented; exact represented
    | cons op ops ih =>
      intro s proper represented
      rw [List.forall_mem_cons] at proper
      exact ih _ proper.2 (apply_table_represented proper.1 represented)
  exact run ops (Table.empty,c) proper empty_represented

/-- A stream opened and reset. -/
theorem runTableOps_represented_reset :
    (runTableOps [.create 1,.event 1 .recvHeaders,.event 1 .recvRstStream] (Table.empty,Conn.fresh)).1.Represented :=
  runTableOps_represented [.create 1,.event 1 .recvHeaders,.event 1 .recvRstStream] Conn.fresh
    (by simp [TableOp.Proper])

end Sarm.H2
