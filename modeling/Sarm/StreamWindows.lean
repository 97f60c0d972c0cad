import Sarm.TableSteps
import Sarm.Server

/-!
The send windows of the streams. Over SETTINGS frames, new streams, increments,
DATA frames and events, in whatever order, the window of a live stream is the
initial window size of the moment less the octets sent on the stream plus its
increments. That holds as long as no slot goes from one stream to another.
-/
namespace Sarm.H2
open Sarm.Memory

/-- A connection, and by stream the DATA octets sent and the increments accepted. -/
structure Books where
  core : Core
  sent : Nat → Nat
  credit : Nat → Nat

/-- What touches the windows. An event is here because it may close a stream. -/
inductive WindowOp where
  | settings (hdr : FrameHeader) (payload : Mem)
  | create (id : Nat)
  | update (hdr : FrameHeader) (payload : Mem)
  | data (serve : Serve)
  | event (slot : Nat) (event : StreamEvent)

/-- An increment is the stream's if the stream has an entry; one for a stream that
    is long closed is passed over. -/
def Books.credited (b : Books) (id increment : Nat) : Nat → Nat :=
  if id = 0 then b.credit
  else match h2StreamFind b.core.table id with
    | none => b.credit
    | some _ => store b.credit id (b.credit id + increment)

/-- An operation that succeeds, and does not recycle a slot. -/
def WindowOp.apply (b : Books) : WindowOp → Option Books
  | .settings hdr payload => match h2HandleSettings b.core hdr payload with
    | ⟨core,_,none⟩ => some { b with core := core }
    | ⟨_,_,some _⟩ => none
  | .create id => match h2StreamCreate b.core.table b.core.conn id with
    | .error _ => none
    | .ok (slot,table,conn) =>
      if b.core.table.used slot = true ∧ b.core.table.ids slot ≠ id then none
      else some { b with core := { b.core with table := table, conn := conn } }
  | .update hdr payload => match h2HandleWindowUpdate b.core hdr payload with
    | ⟨core,_,none⟩ => some { b with core := core, credit := b.credited hdr.streamId (windowIncrement payload) }
    | ⟨_,_,some _⟩ => none
  | .data serve =>
    if serve.slot < maxStreams ∧ b.core.table.ids serve.slot = serve.streamId ∧ serve.streamId ≠ 0 then
      let chunk := chunkLength b.core serve
      some { b with
        core := b.core.charge serve.slot chunk
        sent := store b.sent serve.streamId (b.sent serve.streamId + chunk) }
    else none
  | .event slot e => match h2StreamEvent b.core.table slot e with
    | .error _ => none
    | .ok table => some { b with core := { b.core with table := table } }

def runWindowOps (ops : List WindowOp) (b : Books) : Option Books := ops.foldlM WindowOp.apply b

/-- The books of a connection that starts with the state `c`. -/
def Books.opened (c : Core) : Books := ⟨{ c with conn := Conn.fresh, table := Table.empty },fun _ => 0,fun _ => 0⟩

/-- A stream's entry, not closed. -/
def Table.Live (t : Table) (i : Nat) : Prop := (t.streams i).streamId ≠ 0 ∧ (t.streams i).state ≠ .closed

instance (t : Table) (i : Nat) : Decidable (t.Live i) := inferInstanceAs (Decidable (_ ∧ _))

/-! ### Arithmetic of windows -/

section
variable {w : BitVec 64}

theorem add_exact {n : Nat} (small : n < 2^31) (low : -2^32 ≤ w.toInt) (high : w.toInt ≤ 2^32) :
    (w + BitVec.ofNat 64 n).toInt = w.toInt + n := by
  rw [BitVec.toInt_add,BitVec.toInt_ofNat']
  simp only [Int.bmod]
  omega

theorem sub_exact {n : Nat} (small : n < 2^31) (low : -2^32 ≤ w.toInt) (high : w.toInt ≤ 2^32) :
    (w - BitVec.ofNat 64 n).toInt = w.toInt - n := by
  rw [BitVec.toInt_sub,BitVec.toInt_ofNat']
  simp only [Int.bmod]
  omega

theorem shift_exact {new old : Nat} (after : new < 2^31) (before : old < 2^31) (low : -2^32 ≤ w.toInt)
    (high : w.toInt ≤ 2^32) :
    (w + (BitVec.ofNat 64 new - BitVec.ofNat 64 old)).toInt = w.toInt + new - old := by
  rw [BitVec.toInt_add,BitVec.toInt_sub,BitVec.toInt_ofNat',BitVec.toInt_ofNat']
  simp only [Int.bmod]
  omega

theorem toInt_small (small : w.toNat < 2^31) : w.toInt < 2^31 := by
  rw [BitVec.toInt_eq_toNat_cond]
  omega

end

/-! ### The balance -/

/-- The window of an entry is what the books say. The octets sent are bounded too,
    so that the window does not wrap however often the setting changes. -/
structure Books.Balance (b : Books) (i : Nat) : Prop where
  window : (b.core.table.streams i).window.toInt =
    b.core.conn.initialWindowSize - b.sent (b.core.table.ids i) + b.credit (b.core.table.ids i)
  bounded : (b.core.table.streams i).window.toInt < 2^31
  lent : b.sent (b.core.table.ids i) < b.credit (b.core.table.ids i) + 2^31

/-- The balance of every live stream, and what the table needs for it. -/
structure Books.Balanced (b : Books) : Prop where
  keyed : ∀ i < maxStreams, (b.core.table.streams i).streamId = b.core.table.ids i
  used : ∀ i < maxStreams, b.core.table.ids i ≠ 0 → b.core.table.used i = true
  distinct : ∀ i < maxStreams, ∀ j < maxStreams, b.core.table.ids i ≠ 0 → b.core.table.ids i = b.core.table.ids j → i = j
  initial : b.core.conn.initialWindowSize < 2^31
  unknown : ∀ id, id ≠ 0 → (∀ i < maxStreams, b.core.table.ids i ≠ id) → b.sent id = 0 ∧ b.credit id = 0
  live : ∀ i < maxStreams, b.core.table.Live i → b.Balance i

/-- A window in balance is far from wrapping. -/
theorem Books.Balance.low {b : Books} {i : Nat} (balance : b.Balance i) :
    -2^32 ≤ (b.core.table.streams i).window.toInt ∧ (b.core.table.streams i).window.toInt ≤ 2^32 := by
  obtain ⟨window,bounded,lent⟩ := balance
  omega

theorem SameEntries.live {t t' : Table} (same : SameEntries t t') {i : Nat} : t'.Live i ↔ t.Live i := by
  rw [Table.Live,Table.Live,same.streams i]

/-- Only windows and the books change, and the books of streams in the table only. -/
theorem Books.Balanced.windows {b b' : Books} (balanced : b.Balanced) (same : SameEntries b.core.table b'.core.table)
    (initial : b'.core.conn.initialWindowSize < 2^31)
    (unknown : ∀ id, id ≠ 0 → (∀ i < maxStreams, b.core.table.ids i ≠ id) → b'.sent id = b.sent id ∧
    b'.credit id = b.credit id)
    (live : ∀ i < maxStreams, b.core.table.Live i → b'.Balance i) : b'.Balanced := by
  refine ⟨?_,?_,?_,initial,?_,?_⟩
  · intro i inside
    rw [same.streams i,same.ids]
    exact balanced.keyed i inside
  · rw [same.ids,same.used]
    exact balanced.used
  · rw [same.ids]
    exact balanced.distinct
  · intro id proper missing
    rw [same.ids] at missing
    obtain ⟨sent,credit⟩ := unknown id proper missing
    rw [sent,credit]
    exact balanced.unknown id proper missing
  · intro i inside alive
    exact live i inside (same.live.mp alive)

/-- Nothing that matters to the windows changes. -/
theorem Books.Balanced.still {b : Books} (balanced : b.Balanced) {c : Core} (table : c.table = b.core.table)
    (initial : c.conn.initialWindowSize = b.core.conn.initialWindowSize) : Books.Balanced { b with core := c } := by
  refine balanced.windows (by rw [table]; exact .refl _) (by rw [initial]; exact balanced.initial)
    (fun _ _ _ => ⟨rfl,rfl⟩) ?_
  intro i inside alive
  obtain ⟨window,bounded,lent⟩ := balanced.live i inside alive
  refine ⟨?_,?_,?_⟩
  · show (c.table.streams i).window.toInt = c.conn.initialWindowSize - b.sent (c.table.ids i) + b.credit (c.table.ids i)
    rw [table,initial]
    exact window
  · show (c.table.streams i).window.toInt < 2^31
    rw [table]
    exact bounded
  · show b.sent (c.table.ids i) < b.credit (c.table.ids i) + 2^31
    rw [table]
    exact lent

/-! ### SETTINGS -/

/-- A shift that succeeds changes the windows of the live entries of the list, each
    by the difference, and leaves them in bounds. -/
theorem shiftWindows_done {delta : BitVec 64} : ∀ (l : List Nat) (t t' : Table), l.Nodup →
    shiftWindows delta l t = (t',true) → ∀ i,
      (i ∈ l → t.Live i → (t'.streams i).window = (t.streams i).window + delta ∧
        ((t.streams i).window + delta).toInt ≤ maxFlowWindow) ∧
      (i ∉ l → t'.streams i = t.streams i) := by
  intro l
  induction l with
  | nil =>
    intro t t' _ done i
    cases done
    exact ⟨by simp,fun _ => rfl⟩
  | cons j l ih =>
    intro t t' distinct done i
    rw [List.nodup_cons] at distinct
    rw [shiftWindows] at done
    split at done
    · next dead =>
      obtain ⟨among,elsewhere⟩ := ih t t' distinct.2 done i
      refine ⟨?_,?_⟩
      · intro member alive
        rcases List.mem_cons.mp member with rfl | later
        · exact absurd dead (not_or.mpr alive)
        · exact among later alive
      · intro absent
        exact elsewhere (fun later => absent (List.mem_cons_of_mem j later))
    dsimp only at done
    split at done
    · cases done
    next bounded =>
    obtain ⟨among,elsewhere⟩ := ih _ t' distinct.2 done i
    refine ⟨?_,?_⟩
    · intro member alive
      by_cases here : i = j
      · subst here
        rw [elsewhere distinct.1]
        refine ⟨by simp [Table.modify],Int.not_lt.mp bounded⟩
      · have later := (List.mem_cons.mp member).resolve_left here
        have moved := among later
        rw [Table.Live,Table.modify] at moved
        simp only [store_other _ _ here] at moved
        exact moved alive
    · intro absent
      rw [List.mem_cons,not_or] at absent
      rw [elsewhere absent.2,Table.modify]
      simp [absent.1]

theorem setInitialWindow_balanced {b : Books} (balanced : b.Balanced) {value : Nat} {c : Core}
    (done : b.core.setInitialWindow value = (c,none)) : Books.Balanced { b with core := c } := by
  rw [Core.setInitialWindow] at done
  split at done
  · cases done
  next small =>
  rw [Nat.not_le] at small
  have initial := balanced.initial
  dsimp only at done
  split at done
  · next same =>
    -- The setting is what it was.
    cases done
    refine balanced.still rfl ?_
    have values := congrArg BitVec.toInt same
    have none : BitVec.toInt (0 : BitVec 64) = 0 := rfl
    rw [BitVec.toInt_sub,BitVec.toInt_ofNat',BitVec.toInt_ofNat',none] at values
    simp only [Int.bmod] at values
    show value = b.core.conn.initialWindowSize
    omega
  · split at done
    · next table shifted =>
      cases done
      have same :=
        shiftWindows_same (BitVec.ofNat 64 value - BitVec.ofNat 64 b.core.conn.initialWindowSize) slots b.core.table
      rw [shifted] at same
      refine balanced.windows same small (fun _ _ _ => ⟨rfl,rfl⟩) ?_
      intro i inside alive
      have balance := balanced.live i inside alive
      obtain ⟨low,high⟩ := balance.low
      obtain ⟨moved,bounded⟩ :=
        (shiftWindows_done slots b.core.table table List.nodup_range shifted i).1 (mem_slots.mpr inside) alive
      rw [shift_exact small initial low high] at bounded
      obtain ⟨window,_,lent⟩ := balance
      refine ⟨?_,?_,?_⟩
      · show (table.streams i).window.toInt = value - b.sent (table.ids i) + b.credit (table.ids i)
        rw [moved,shift_exact small initial low high,same.ids,window]
        omega
      · show (table.streams i).window.toInt < 2^31
        rw [moved,shift_exact small initial low high]
        rw [maxFlowWindow] at bounded
        omega
      · show b.sent (table.ids i) < b.credit (table.ids i) + 2^31
        rw [same.ids]
        exact lent
    · cases done

theorem setting_balanced {b : Books} (balanced : b.Balanced) {id value : Nat} {c : Core}
    (done : b.core.setting id value = (c,none)) : Books.Balanced { b with core := c } := by
  rw [Core.setting] at done
  split at done
  · cases done; exact balanced.still rfl rfl
  split at done
  · cases done; exact balanced.still rfl rfl
  split at done
  · cases done; exact balanced.still rfl rfl
  split at done
  · exact setInitialWindow_balanced balanced done
  split at done
  · split at done
    · cases done
    · cases done; exact balanced.still rfl rfl
  split at done
  · cases done; exact balanced.still rfl rfl
  · cases done; exact balanced

/-- Every entry of a SETTINGS frame, also when it says the same setting twice. -/
theorem settingsLoop_balanced (payload : Mem) : ∀ (count off : Nat) (b : Books) (c : Core), b.Balanced →
    settingsLoop payload count off b.core = (c,none) → Books.Balanced { b with core := c } := by
  intro count
  induction count with
  | zero => intro off b c balanced done; cases done; exact balanced
  | succ count ih =>
    intro off b c balanced done
    rw [settingsLoop] at done
    split at done
    · cases done
    · next c' entry => exact ih _ { b with core := c' } c (setting_balanced balanced entry) done

theorem settings_balanced {b : Books} (balanced : b.Balanced) {hdr : FrameHeader} {payload : Mem} {c : Core}
    {replies : List OutFrame} (done : h2HandleSettings b.core hdr payload = ⟨c,replies,none⟩) :
    Books.Balanced { b with core := c } := by
  rw [h2HandleSettings] at done
  split at done
  · cases done
  split at done
  · split at done
    · cases done
    · cases done; exact balanced.still rfl rfl
  split at done
  · cases done
  split at done
  · cases done
  · next entries =>
    cases done
    exact settingsLoop_balanced payload _ 0 b c balanced entries

/-! ### The other operations -/

theorem recycle_inside {t : Table} :
    ∀ (l : List Nat) (best : Nat × Nat), best.1 < maxStreams → (∀ i ∈ l, i < maxStreams) →
    (l.foldl (recycleTurn t) best).1 < maxStreams := by
  intro l
  induction l with
  | nil => intro best here _; exact here
  | cons i l ih =>
    intro best here inside
    rw [List.forall_mem_cons] at inside
    refine ih _ ?_ inside.2
    rw [recycleTurn]
    split
    · split
      · exact inside.1
      · exact here
    · exact here

/-- A slot that is not recycled is a free one. -/
theorem fresh_free {t : Table} {slot id : Nat} (missing : ∀ i < maxStreams, t.ids i ≠ id)
    (kept : ¬(t.used slot = true ∧ t.ids slot ≠ id)) (fresh : freshSlot t = some slot) :
    slot < maxStreams ∧ t.used slot = false := by
  have inside : slot < maxStreams := by
    rw [freshSlot] at fresh
    split at fresh
    · next found => cases fresh; exact mem_slots.mp (List.mem_of_find?_eq_some found)
    · split at fresh
      · cases fresh
        exact recycle_inside slots _ (by decide) (fun i member => mem_slots.mp member)
      · cases fresh
  refine ⟨inside,?_⟩
  by_contra taken
  exact kept ⟨by simpa using taken,missing slot inside⟩

/-- A new entry starts from the setting of the moment; its stream is not in the
    books yet. -/
theorem create_balanced {b : Books} (balanced : b.Balanced) {id slot : Nat} {table : Table} {conn : Conn}
    (created : h2StreamCreate b.core.table b.core.conn id = .ok (slot,table,conn))
    (kept : ¬(b.core.table.used slot = true ∧ b.core.table.ids slot ≠ id)) :
    Books.Balanced { b with core := { b.core with table := table, conn := conn } } := by
  rcases create_cases created with ⟨rfl,rfl,_,_⟩ | ⟨missing,fresh,rfl,rfl⟩
  · exact balanced
  obtain ⟨inside,free⟩ := fresh_free missing kept fresh
  have unnamed : b.core.table.ids slot = 0 := by
    by_contra named
    rw [balanced.used slot inside named] at free
    contradiction
  have proper : id ≠ 0 := by
    rintro rfl
    exact missing slot inside unnamed
  obtain ⟨keyed,used,distinct,initial,unknown,live⟩ := balanced
  refine ⟨?_,?_,?_,initial,?_,?_⟩
  · intro i inside
    by_cases here : i = slot
    · simp [initSlot,here]
    · simpa [initSlot,here] using keyed i inside
  · intro i inside
    by_cases here : i = slot
    · simp [initSlot,here]
    · simpa [initSlot,here] using used i inside
  · intro i insideI j insideJ named same
    by_cases hereI : i = slot
    · by_cases hereJ : j = slot
      · rw [hereI,hereJ]
      · have found : id = b.core.table.ids j := by simpa [initSlot,hereI,hereJ] using same
        exact absurd found.symm (missing j insideJ)
    · by_cases hereJ : j = slot
      · have found : b.core.table.ids i = id := by simpa [initSlot,hereI,hereJ] using same
        exact absurd found (missing i insideI)
      · refine distinct i insideI j insideJ ?_ ?_
        · simpa [initSlot,hereI] using named
        · simpa [initSlot,hereI,hereJ] using same
  · intro other proper absent
    refine unknown other proper (fun i inside => ?_)
    by_cases here : i = slot
    · rw [here,unnamed]
      exact fun zero => proper zero.symm
    · simpa [initSlot,here] using absent i inside
  · intro i inside alive
    by_cases here : i = slot
    · subst here
      obtain ⟨sent,credit⟩ := unknown id proper missing
      have start : (BitVec.ofNat 64 b.core.conn.initialWindowSize).toInt = b.core.conn.initialWindowSize := by
        rw [BitVec.toInt_ofNat']
        simp only [Int.bmod]
        omega
      refine ⟨?_,?_,?_⟩
      · simp [initSlot,sent,credit,start]
      · simp only [initSlot,store_same,start]
        omega
      · simp [initSlot,sent,credit]
    · obtain ⟨window,bounded,lent⟩ := live i inside (by simpa [Table.Live,initSlot,here] using alive)
      refine ⟨?_,?_,?_⟩
      · simpa [initSlot,here] using window
      · simpa [initSlot,here] using bounded
      · simpa [initSlot,here] using lent

/-- The books of a stream move with its entry, which keeps its balance if it is live. -/
theorem Books.Balanced.entry {b b' : Books} (balanced : b.Balanced) {slot : Nat} (inside : slot < maxStreams)
    (proper : b.core.table.ids slot ≠ 0) (same : SameEntries b.core.table b'.core.table)
    (initial : b'.core.conn.initialWindowSize = b.core.conn.initialWindowSize)
    (streams : ∀ i, i ≠ slot → b'.core.table.streams i = b.core.table.streams i)
    (books : ∀ id, id ≠ b.core.table.ids slot → b'.sent id = b.sent id ∧ b'.credit id = b.credit id)
    (live : b.core.table.Live slot → b'.Balance slot) : b'.Balanced := by
  refine balanced.windows same (by rw [initial]; exact balanced.initial) ?_ ?_
  · intro id _ missing
    exact books id (fun named => missing slot inside named.symm)
  · intro i insideI alive
    by_cases here : i = slot
    · subst here
      exact live alive
    · obtain ⟨window,bounded,lent⟩ := balanced.live i insideI alive
      have other : b.core.table.ids i ≠ b.core.table.ids slot := by
        intro same
        exact here (balanced.distinct slot inside i insideI proper same.symm).symm
      obtain ⟨sent,credit⟩ := books _ other
      refine ⟨?_,?_,?_⟩
      · rw [same.ids,streams i here,initial,sent,credit]
        exact window
      · rw [streams i here]
        exact bounded
      · rw [same.ids,sent,credit]
        exact lent

/-- An accepted increment: the stream is credited with it if it has an entry. -/
theorem update_balanced {b : Books} (balanced : b.Balanced) {hdr : FrameHeader} {payload : Mem} {c : Core}
    {replies : List OutFrame} (done : h2HandleWindowUpdate b.core hdr payload = ⟨c,replies,none⟩) :
    Books.Balanced { b with core := c, credit := b.credited hdr.streamId (windowIncrement payload) } := by
  have small : windowIncrement payload < 2^31 := Nat.mod_lt _ (by decide)
  rw [h2HandleWindowUpdate] at done
  dsimp only at done
  split at done
  · cases done
  split at done
  · cases done
  split at done
  · next conn =>
    split at done
    · cases done
    · cases done
      rw [Books.credited,if_pos conn]
      exact balanced.still rfl rfl
  next proper =>
  split at done
  · next missing =>
    have none : b.credited hdr.streamId (windowIncrement payload) = b.credit := by
      rw [Books.credited,if_neg proper,missing]
    rw [none]
    split at done <;> cases done
    exact balanced
  next slot found =>
  have some : b.credited hdr.streamId (windowIncrement payload) =
      store b.credit hdr.streamId (b.credit hdr.streamId + windowIncrement payload) := by
    rw [Books.credited,if_neg proper,found]
  rw [some]
  obtain ⟨inside,named,_⟩ := find_some found
  have others : ∀ id, id ≠ b.core.table.ids slot → b.sent id = b.sent id ∧
      store b.credit hdr.streamId (b.credit hdr.streamId + windowIncrement payload) id = b.credit id := by
    intro id other
    rw [named] at other
    exact ⟨rfl,store_other _ _ other⟩
  split at done
  · next closed =>
    cases done
    refine balanced.entry inside (by rw [named]; exact proper) (.refl _) rfl (fun _ _ => rfl) others ?_
    intro alive
    exact absurd closed alive.2
  split at done
  · cases done
  next bounded =>
  cases done
  refine balanced.entry inside (by rw [named]; exact proper) (.window _ _ _) rfl ?_ others ?_
  · intro i other
    simp [Table.modify,other]
  · intro alive
    have balance := balanced.live slot inside alive
    obtain ⟨low,high⟩ := balance.low
    have added := add_exact small low high
    have limit : ((b.core.table.streams slot).window + BitVec.ofNat 64 (windowIncrement payload)).toInt < 2^31 := by
      apply toInt_small
      rw [maxFlowWindow] at bounded
      omega
    obtain ⟨window,_,lent⟩ := balance
    rw [named] at window lent
    refine ⟨?_,?_,?_⟩
    · simp only [Table.modify,store_same,named]
      omega
    · simpa only [Table.modify,store_same] using limit
    · simp only [Table.modify,store_same,named]
      omega

/-- A chunk is within the window it is charged to, so a charge never overdraws it. -/
theorem data_balanced {b : Books} (balanced : b.Balanced) {serve : Serve} (inside : serve.slot < maxStreams)
    (own : b.core.table.ids serve.slot = serve.streamId) (proper : serve.streamId ≠ 0) :
    Books.Balanced { b with
      core := b.core.charge serve.slot (chunkLength b.core serve)
      sent := store b.sent serve.streamId (b.sent serve.streamId + chunkLength b.core serve) } := by
  have frame : chunkLength b.core serve ≤ defaultMaxFrameSize := by
    rw [chunkLength]
    omega
  have covered : chunkLength b.core serve ≤ (b.core.table.streams serve.slot).window.toInt.toNat := by
    rw [chunkLength]
    omega
  rw [defaultMaxFrameSize] at frame
  refine balanced.entry inside (by rw [own]; exact proper) (.window _ _ _) rfl ?_ ?_ ?_
  · intro i other
    simp [Core.charge,Table.modify,other]
  · intro id other
    rw [own] at other
    exact ⟨store_other _ _ other,rfl⟩
  · intro alive
    have balance := balanced.live serve.slot inside alive
    obtain ⟨low,high⟩ := balance.low
    have charged := sub_exact (n := chunkLength b.core serve) (by omega) low high
    have initial := balanced.initial
    obtain ⟨window,bounded,lent⟩ := balance
    rw [own] at window lent
    refine ⟨?_,?_,?_⟩
    · simp only [Core.charge,Table.modify,store_same,own]
      omega
    · simp only [Core.charge,Table.modify,store_same]
      omega
    · simp only [Core.charge,Table.modify,store_same,own]
      omega

/-- No event brings a stream back to life. -/
theorem event_live {t t' : Table} {slot : Nat} {e : StreamEvent} (executed : h2StreamEvent t slot e = .ok t') {i : Nat}
    (alive : t'.Live i) : t.Live i ∧ (t'.streams i).window = (t.streams i).window := by
  obtain ⟨state,next,rfl⟩ := event_cases executed
  by_cases here : i = slot
  · subst here
    simp only [Table.Live,Table.setState,store_same] at alive ⊢
    refine ⟨⟨alive.1,?_⟩,trivial⟩
    intro closed
    rw [closed] at next
    cases e <;> simp [transitions] at next
    exact alive.2 next.symm
  · simpa [Table.Live,Table.setState,here] using alive

theorem event_balanced {b : Books} (balanced : b.Balanced) {slot : Nat} {e : StreamEvent} {table : Table}
    (executed : h2StreamEvent b.core.table slot e = .ok table) :
    Books.Balanced { b with core := { b.core with table := table } } := by
  obtain ⟨keyed,used,distinct,initial,unknown,live⟩ := balanced
  have lives : ∀ i, table.Live i → b.core.table.Live i ∧ (table.streams i).window = (b.core.table.streams i).window :=
    fun i alive => event_live executed alive
  obtain ⟨state,_,rfl⟩ := event_cases executed
  refine ⟨?_,used,distinct,initial,unknown,?_⟩
  · intro i inside
    by_cases here : i = slot
    · subst here
      simpa [Table.setState] using keyed i inside
    · simpa [Table.setState,here] using keyed i inside
  · intro i inside alive
    obtain ⟨before,same⟩ := lives i alive
    obtain ⟨window,bounded,lent⟩ := live i inside before
    exact ⟨by rw [same]; exact window,by rw [same]; exact bounded,lent⟩

/-! ### The runs -/

theorem apply_balanced {b b' : Books} {op : WindowOp} (balanced : b.Balanced) (applied : op.apply b = some b') :
    b'.Balanced := by
  cases op with
  | settings hdr payload =>
    rw [WindowOp.apply] at applied
    split at applied
    · next core replies done => cases applied; exact settings_balanced balanced done
    · cases applied
  | create id =>
    rw [WindowOp.apply] at applied
    split at applied
    · cases applied
    next slot table conn created =>
    split at applied
    · cases applied
    · next kept => cases applied; exact create_balanced balanced created kept
  | update hdr payload =>
    rw [WindowOp.apply] at applied
    split at applied
    · next core replies done => cases applied; exact update_balanced balanced done
    · cases applied
  | data serve =>
    rw [WindowOp.apply] at applied
    split at applied
    · next own => cases applied; exact data_balanced balanced own.1 own.2.1 own.2.2
    · cases applied
  | event slot e =>
    rw [WindowOp.apply] at applied
    split at applied
    · cases applied
    · next table executed => cases applied; exact event_balanced balanced executed

theorem opened_balanced (c : Core) : (Books.opened c).Balanced := by
  refine ⟨fun _ _ => rfl,?_,?_,?_,fun _ _ _ => ⟨rfl,rfl⟩,?_⟩
  · intro i _ named
    exact absurd rfl named
  · intro i _ j _ named
    exact absurd rfl named
  · show defaultInitialWindowSize < 2^31
    decide
  · intro i _ alive
    exact absurd rfl alive.1

theorem runWindowOps_balanced (ops : List WindowOp) : ∀ (b b' : Books), b.Balanced → runWindowOps ops b = some b' →
    b'.Balanced := by
  induction ops with
  | nil => intro b b' balanced ran; cases ran; exact balanced
  | cons op ops ih =>
    intro b b' balanced ran
    rw [runWindowOps,List.foldlM_cons,Option.bind_eq_bind,Option.bind_eq_some_iff] at ran
    obtain ⟨next,applied,rest⟩ := ran
    exact ih next b' (apply_balanced balanced applied) rest

/-- After every sequence of SETTINGS frames, new streams, increments, DATA frames
    and events that succeed without recycling a slot, the window of every live stream
    is the initial window size of the moment less the octets sent on the stream plus
    its increments, and at most 2^31 - 1. -/
theorem stream_windows (ops : List WindowOp) (c : Core) (b : Books) (ran : runWindowOps ops (.opened c) = some b) :
    ∀ i < maxStreams, b.core.table.Live i →
      (b.core.table.streams i).window.toInt =
          b.core.conn.initialWindowSize - b.sent (b.core.table.ids i) + b.credit (b.core.table.ids i) ∧
        (b.core.table.streams i).window.toInt ≤ 2^31 - 1 := by
  intro i inside alive
  obtain ⟨window,bounded,_⟩ := (runWindowOps_balanced ops _ b (opened_balanced c) ran).live i inside alive
  exact ⟨window,Int.le_sub_one_of_lt bounded⟩

/-- Stream 1 sends ten octets and is credited with three, and the setting goes down
    to five. -/
def lowered : List WindowOp :=
  [.create 1,.data ⟨1,0,none,List.replicate 10 0⟩,.update ⟨4,frameWindowUpdate,0,1⟩ (ofBytes [0,0,0,3]),
    .settings ⟨6,frameSettings,0,0⟩ (ofBytes [0,4,0,0,0,5]),.create 3]

theorem stream_windows_lowered : ∃ b, runWindowOps lowered (.opened .initial) = some b ∧
    (b.core.table.streams 0).window.toInt = 5 - 10 + 3 ∧ (b.core.table.streams 1).window.toInt = 5 := by
  obtain ⟨b,ran⟩ : ∃ b, runWindowOps lowered (.opened .initial) = some b :=
    Option.isSome_iff_exists.mp (by decide +kernel)
  have books : (runWindowOps lowered (.opened .initial)).map (fun b => [b.core.table.ids 0,b.core.table.ids 1,
      b.core.conn.initialWindowSize,b.sent 1,b.credit 1,b.sent 3,b.credit 3]) = some [1,3,5,10,3,0,0] := by decide +kernel
  have alive : (runWindowOps lowered (.opened .initial)).map
    (fun b => (decide (b.core.table.Live 0),decide (b.core.table.Live 1))) =
      some (true,true) := by decide +kernel
  rw [ran] at books alive
  simp only [Option.map_some,Option.some.injEq,List.cons.injEq,Prod.mk.injEq,decide_eq_true_eq] at books alive
  obtain ⟨first,second,initial,sent,credit,unsent,uncredited,_⟩ := books
  have one := (stream_windows lowered .initial b ran 0 (by decide) alive.1).1
  have three := (stream_windows lowered .initial b ran 1 (by decide) alive.2).1
  rw [first,initial,sent,credit] at one
  rw [second,initial,unsent,uncredited] at three
  exact ⟨b,ran,one,three⟩

end Sarm.H2
