import Sarm.Acts
import Sarm.TableSteps
import Mathlib.Data.List.Perm.Subperm

/-!
How deep requests are served inside one another. Each response under way holds an
entry of the stream table, half closed and marked as being served; as long as no
such stream is reset, no other request gets the entry, and there are no more
responses under way than there are entries.
-/
namespace Sarm.H2
open Sarm.Memory Sarm.Trace

/-- The streams being served with the slots they were served from, innermost first. -/
def Server.held (s : Server) : List (Nat × Nat) := s.stack.map fun serve => (serve.streamId,serve.slot)

theorem held_serving (s : Server) : s.held.map Prod.fst = s.serving := by
  rw [Server.held,Server.serving,List.map_map]
  rfl

theorem held_length (s : Server) : s.held.length = s.stack.length := List.length_map _

theorem held_congr {s s' : Server} (stack : s'.stack = s.stack) : s'.held = s.held := by
  rw [Server.held,Server.held,stack]

theorem RawFrame.small {raw : List UInt8} {hdr : FrameHeader} {payload : Mem} (of : RawFrame raw hdr payload) :
    hdr.streamId < 2^31 := by
  rw [of.header]
  exact Nat.mod_lt _ (by decide)

/-! ### The table between the steps -/

/-- The table is well formed, and the slots served from are slots of proper streams. -/
structure Formed (s : Server) : Prop where
  core : s.core.WellFormed
  stack : ∀ p ∈ s.held, p.1 ≠ 0 ∧ p.2 < maxStreams

theorem Formed.same {s s' : Server} (formed : Formed s) (core : s'.core = s.core) (held : s'.held = s.held) : Formed s' :=
  ⟨by rw [core]; exact formed.core,by rw [held]; exact formed.stack⟩

theorem closeServed_formed {c : Core} {slot id : Nat} (formed : c.WellFormed) (proper : id ≠ 0)
    (inside : slot < maxStreams) :
    Core.WellFormed { c with table := c.table.closeServed slot id } := by
  by_cases own : (c.table.streams slot).streamId = id
  · have proper' : c.table.ids slot ≠ 0 := by rw [← (formed.agrees slot inside).id,own]; exact proper
    have closed := formed.setState .closed proper'
    have marked : Core.WellFormed { c with table := (c.table.setState slot .closed).modify slot fun s => { s with serving := false } } :=
      closed.modify (fun _ => rfl) (fun _ => rfl)
    have same : c.table.closeServed slot id = (c.table.setState slot .closed).modify slot fun s =>
        { s with serving := false } := by
      rw [Table.closeServed,if_pos own,Table.modify,Table.setState]
      congr 1
      funext i
      by_cases here : i = slot <;> simp [here]
    rw [same]
    exact marked
  · rw [Table.closeServed,if_neg own]
    exact formed

theorem charge_same (c : Core) (slot n : Nat) : SameEntries c.table (c.charge slot n).table := SameEntries.window _ _ _

theorem charge_formed {c : Core} (formed : c.WellFormed) (slot n : Nat) : (c.charge slot n).WellFormed :=
  path_formed (.windows (charge_same c slot n) rfl) formed

theorem formed_keeps : acts.Keeps (fun _ => True) Formed := by
  intro s s' act _ formed
  cases act with
  | moved core stack _ _ _ => exact formed.same core (held_congr stack)
  | sent core stack _ _ _ _ _ => exact formed.same core (held_congr stack)
  | @frame _ hdr payload _ core stack _ _ _ _ of _ =>
    refine ⟨?_,by rw [held_congr stack]; exact formed.stack⟩
    rw [core]
    exact dispatch_formed formed.core of.small payload
  | refused core stack _ _ _ => exact formed.same core (held_congr stack)
  | waiting _ => exact formed.same rfl rfl
  | waitFailed core stack _ _ _ _ => exact formed.same core (held_congr stack)
  | @serve streamId slot _ proper found _ _ =>
    refine ⟨formed.core.modify (fun _ => rfl) (fun _ => rfl),?_⟩
    intro p member
    rcases List.mem_cons.mp member with rfl | outer
    · exact ⟨proper,(find_some found).1⟩
    · exact formed.stack p outer
  | top staged body => exact formed.same (setTop_core s staged body) (setTop_served s staged body)
  | charged _ _ => exact ⟨charge_formed formed.core _ _,formed.stack⟩
  | finish =>
    obtain ⟨core,held⟩ := formed
    rw [Server.finish]
    split
    · exact ⟨core,held⟩
    · next serve rest stack =>
      rw [Server.held,stack,List.map_cons,List.forall_mem_cons] at held
      exact ⟨closeServed_formed core held.1.1 held.1.2,held.2⟩
  | ends core stack _ _ _ => exact formed.same core (held_congr stack)

theorem fresh_formed (c : Core) : c.reset.WellFormed := by
  have small : Conn.fresh.lastStreamId < 2^31 := by decide
  refine ⟨?_,?_,?_,?_,small⟩
  · intro i _
    exact ⟨rfl,by simp [Core.reset,Table.empty],by simp [Core.reset,Table.empty],fun _ => rfl⟩
  · intro i _ proper
    exact absurd rfl proper
  · intro i _ j _ proper
    exact absurd rfl proper
  · intro i _
    exact Nat.zero_le _

theorem enter_formed (e : Entry) : Formed (h2ConnectionLoop e) := by
  obtain ⟨core,stack,_,_⟩ := enter_entered e
  refine ⟨by rw [core]; exact fresh_formed _,?_⟩
  rw [Server.held,stack]
  simp

/-- In every run the table stays well formed. -/
theorem run_formed (files : List EmbeddedFile) (e : Entry) (n : Nat) : Formed (run files (h2ConnectionLoop e) n) :=
  run_invariant formed_keeps files (enter_formed e) n (fun _ _ => trivial)

/-! ### Responses hold their entries -/

/-- A stream being served has the entry it is served from, half closed and marked. -/
structure Core.Holds (c : Core) (p : Nat × Nat) : Prop where
  inside : p.2 < maxStreams
  proper : p.1 ≠ 0
  id : c.table.ids p.2 = p.1
  state : (c.table.streams p.2).state = .halfClosedRemote
  serving : (c.table.streams p.2).serving = true

/-- It is the one the stream is found at. -/
theorem Core.Holds.find {c : Core} {p : Nat × Nat} (holds : c.Holds p) (formed : c.WellFormed) :
    h2StreamFind c.table p.1 = some p.2 := by
  rw [← holds.id]
  exact formed.find holds.inside (by rw [holds.id]; exact holds.proper)

/-- Another entry is changed. -/
theorem Core.Holds.congr {c c' : Core} {p : Nat × Nat} (holds : c.Holds p) (ids : c'.table.ids p.2 = c.table.ids p.2)
    (state : (c'.table.streams p.2).state = (c.table.streams p.2).state)
    (serving : (c'.table.streams p.2).serving = (c.table.streams p.2).serving) : c'.Holds p :=
  ⟨holds.inside,holds.proper,ids.trans holds.id,state.trans holds.state,serving.trans holds.serving⟩

theorem setState_holds {c : Core} {p : Nat × Nat} {slot : Nat} (state : StreamState) (other : p.2 ≠ slot)
    (holds : c.Holds p) :
    Core.Holds { c with table := c.table.setState slot state } p :=
  holds.congr rfl (by simp [Table.setState,other]) (by simp [Table.setState,other])

theorem modify_holds {c : Core} {p : Nat × Nat} {slot : Nat} (f : Stream → Stream) (other : p.2 ≠ slot)
    (holds : c.Holds p) :
    Core.Holds { c with table := c.table.modify slot f } p :=
  holds.congr rfl (by simp [Table.modify,other]) (by simp [Table.modify,other])

theorem same_holds {c c' : Core} {p : Nat × Nat} (same : SameEntries c.table c'.table) (holds : c.Holds p) : c'.Holds p :=
  holds.congr (by rw [same.ids]) (by rw [same.streams]) (by rw [same.streams])

/-- The response of another entry is over. -/
theorem closeServed_holds {c : Core} {p : Nat × Nat} {slot streamId : Nat} (other : slot ≠ p.2) (holds : c.Holds p) :
    Core.Holds { c with table := c.table.closeServed slot streamId } p := by
  rw [Table.closeServed]
  split
  · exact holds.congr rfl (by simp [Ne.symm other]) (by simp [Ne.symm other])
  · exact holds

theorem step_holds {c c' : Core} {p : Nat × Nat} (step : TableStep c c') (formed : c.WellFormed) (holds : c.Holds p) :
    c'.Holds p := by
  cases step with
  | @enter slot id _ _ _ _ fresh =>
    have other : p.2 ≠ slot := by
      rintro rfl
      rcases (formed.fresh fresh).2 with free | closed
      · exact holds.proper (holds.id.symm.trans free)
      · rw [holds.state] at closed
        contradiction
    exact holds.congr (by simp [initSlot,other]) (by simp [initSlot,other]) (by simp [initSlot,other])
  | @event table slot event _ _ kept executed =>
    obtain ⟨state,next,rfl⟩ := event_cases executed
    refine setState_holds state ?_ holds
    rintro rfl
    rw [holds.state] at next
    cases event <;> simp [transitions] at next kept
  | @flags slot flags opened =>
    refine modify_holds _ ?_ holds
    rintro rfl
    rw [holds.state] at opened
    contradiction
  | windows same _ => exact same_holds same holds

theorem path_holds {c c' : Core} {p : Nat × Nat} (path : TablePath c c') (formed : c.WellFormed) (holds : c.Holds p) :
    c'.Holds p := by
  induction path with
  | refl => exact holds
  | tail before step ih => exact step_holds step (path_formed before formed) ih

/-- A frame that does not reset the stream leaves its entry held. -/
theorem dispatch_holds {c : Core} {p : Nat × Nat} {hdr : FrameHeader} (formed : c.WellFormed)
    (small : hdr.streamId < 2^31)
    (payload : Mem) (unreset : ¬ (hdr.type = frameRstStream ∧ hdr.length = 4 ∧ hdr.streamId = p.1)) (holds : c.Holds p) :
    (h2DispatchFrame c hdr payload).core.Holds p := by
  rcases dispatch_table formed small payload with path | ⟨type,slot,reset,_,core⟩
  · exact path_holds path formed holds
  · rw [core]
    refine setState_holds .closed ?_ (holds.congr rfl rfl rfl : (c.noted type).Holds p)
    rintro rfl
    exact unreset ⟨reset.type,reset.length,(find_some reset.found).2.1.symm.trans holds.id⟩

/-! ### The depth of the stack -/

/-- The RST_STREAM frame of a stream being served. -/
def Event.ResetsServed : Event → Prop
  | .frame _ serving hdr _ => hdr.type = frameRstStream ∧ hdr.length = 4 ∧ hdr.streamId ∈ serving
  | _ => False

instance : DecidablePred Event.ResetsServed
  | .frame _ serving hdr _ =>
  inferInstanceAs (Decidable (hdr.type = frameRstStream ∧ hdr.length = 4 ∧ hdr.streamId ∈ serving))
  | .refused _ _ _ | .waiting _ | .waitFailed _ _ | .sent _ _ | .data _ _ _ | .serve _ _ _ _ => isFalse id

/-- A request is served within the entries there are. -/
def Event.Shallow : Event → Prop
  | .serve _ serving _ _ => serving.length < maxStreams
  | _ => True

/-- Every response under way holds an entry of its own. -/
structure Nested (s : Server) : Prop where
  formed : Formed s
  holds : ∀ p ∈ s.held, s.core.Holds p
  distinct : (s.held.map Prod.snd).Nodup
  shallow : Meets Event.Shallow s.log

theorem Nested.same {s s' : Server} (nested : Nested s) (formed : Formed s') (core : s'.core = s.core)
    (held : s'.held = s.held)
    (shallow : Meets Event.Shallow s'.log) : Nested s' :=
  ⟨formed,by rw [core,held]; exact nested.holds,by rw [held]; exact nested.distinct,shallow⟩

/-- Distinct slots are no more than the table has. -/
theorem slots_length {l : List Nat} (inside : ∀ i ∈ l, i < maxStreams) (distinct : l.Nodup) : l.length ≤ maxStreams := by
  have subset : l ⊆ slots := fun i member => mem_slots.mpr (inside i member)
  have length := (distinct.subperm subset).length_le
  rwa [slots,List.length_range] at length

theorem Nested.length {s : Server} (nested : Nested s) : s.stack.length ≤ maxStreams := by
  rw [← held_length,← List.length_map (f := Prod.snd)]
  refine slots_length ?_ nested.distinct
  intro i member
  obtain ⟨p,held,rfl⟩ := List.mem_map.mp member
  exact (nested.holds p held).inside

/-- An entry that is not marked is none of those held. -/
theorem Nested.idle {s : Server} {slot : Nat} (nested : Nested s) (idle : (s.core.table.streams slot).serving = false) :
    ∀ p ∈ s.held, p.2 ≠ slot := by
  rintro p member rfl
  rw [(nested.holds p member).serving] at idle
  contradiction

/-- A stream that is found complete holds its entry once it is served. -/
theorem push_holds {s : Server} {streamId slot : Nat} (e : Event) (proper : streamId ≠ 0)
    (found : h2StreamFind s.core.table streamId = some slot)
    (complete : (s.core.table.streams slot).state = .halfClosedRemote) :
    ((s.emit e).push ⟨streamId,slot,none,[]⟩).core.Holds (streamId,slot) := by
  obtain ⟨inside,own,_⟩ := find_some found
  exact ⟨inside,proper,own,by simpa [Server.push,Server.emit,Table.setServing,Table.modify] using complete,
    by simp [Server.push,Server.emit,Table.setServing,Table.modify]⟩

theorem nested_keeps : acts.Keeps (fun e => ¬ e.ResetsServed) Nested := by
  intro s s' act meets nested
  have formed : Formed s' := formed_keeps act (fun _ _ => trivial) nested.formed
  have shallow := nested.shallow
  cases act with
  | moved core stack _ log _ => exact nested.same formed core (held_congr stack) (by rw [log]; exact shallow)
  | sent core stack _ log _ _ _ =>
    exact nested.same formed core (held_congr stack) (by rw [log]; exact shallow.snoc trivial)
  | @frame _ hdr payload _ core stack _ _ _ log of _ =>
    have kept := (log ▸ meets : Meets (fun e => ¬ e.ResetsServed) (s.log ++ [.frame s.core s.serving hdr payload])).append
    refine ⟨formed,?_,by rw [held_congr stack]; exact nested.distinct,by rw [log]; exact shallow.snoc trivial⟩
    rw [core,held_congr stack]
    intro p member
    refine dispatch_holds nested.formed.core of.small payload ?_ (nested.holds p member)
    rintro ⟨type,length,stream⟩
    refine kept ⟨type,length,?_⟩
    rw [stream,← held_serving]
    exact List.mem_map_of_mem member
  | refused core stack _ _ log =>
    exact nested.same formed core (held_congr stack) (by rw [log]; exact shallow.snoc trivial)
  | waiting _ => exact nested.same formed rfl rfl (shallow.snoc trivial)
  | waitFailed core stack _ _ log _ =>
    exact nested.same formed core (held_congr stack) (by rw [log]; exact shallow.snoc trivial)
  | @serve streamId slot _ proper found complete idle =>
    have inside := (find_some found).1
    have others := nested.idle idle
    have distinct : (slot :: s.held.map Prod.snd).Nodup := by
      refine List.nodup_cons.mpr ⟨?_,nested.distinct⟩
      intro member
      obtain ⟨p,held,same⟩ := List.mem_map.mp member
      exact others p held same
    refine ⟨formed,?_,distinct,shallow.snoc ?_⟩
    · intro p member
      rcases List.mem_cons.mp member with rfl | outer
      · exact push_holds _ proper found complete
      · exact modify_holds _ (others p outer) (nested.holds p outer)
    · -- The new slot and those held are distinct, so there was room for it.
      have room := slots_length (fun i member => ?_) distinct
      · show s.serving.length < maxStreams
        rw [← held_serving]
        simp only [List.length_cons,List.length_map] at room ⊢
        omega
      · rcases List.mem_cons.mp member with rfl | outer
        · exact inside
        · obtain ⟨p,held,rfl⟩ := List.mem_map.mp outer
          exact (nested.holds p held).inside
  | top staged body =>
    exact nested.same formed (setTop_core s staged body) (setTop_served s staged body) (by rw [setTop_log]; exact shallow)
  | charged _ _ =>
    exact ⟨formed,fun p member => same_holds (charge_same _ _ _) (nested.holds p member),nested.distinct,
      shallow.snoc trivial⟩
  | finish =>
    obtain ⟨_,holds,distinct,_⟩ := nested
    rw [Server.finish] at formed ⊢
    split at formed
    · exact ⟨formed,holds,distinct,shallow⟩
    · next serve rest stack =>
      rw [Server.held,stack,List.map_cons] at holds distinct
      rw [List.map_cons,List.nodup_cons] at distinct
      refine ⟨formed,?_,distinct.2,shallow⟩
      intro p member
      have other : p.2 ≠ serve.slot := fun same => distinct.1 (List.mem_map.mpr ⟨p,member,same⟩)
      exact closeServed_holds (Ne.symm other) (holds p (List.mem_cons_of_mem _ member))
  | ends core stack _ log _ => exact nested.same formed core (held_congr stack) (by rw [log]; exact shallow)

theorem enter_nested (e : Entry) : Nested (h2ConnectionLoop e) := by
  have formed := enter_formed e
  obtain ⟨_,stack,log,_⟩ := enter_entered e
  have held : (h2ConnectionLoop e).held = [] := by rw [Server.held,stack]; rfl
  refine ⟨formed,by rw [held]; simp,by rw [held]; simp,?_⟩
  intro event member
  rcases log with none | ⟨ok,settings⟩
  · rw [none] at member
    simp at member
  · rw [settings,List.mem_singleton] at member
    rw [member]
    trivial

/-- In every run in which no stream is reset while it is being served, requests are
    served inside one another no deeper than the table has entries. -/
theorem nesting_bounded (files : List EmbeddedFile) (e : Entry) (n : Nat)
    (unreset : Meets (fun event => ¬ event.ResetsServed) (run files (h2ConnectionLoop e) n).log) :
    (run files (h2ConnectionLoop e) n).stack.length ≤ maxStreams ∧
      ∀ before serving streamId slot, .serve before serving streamId slot ∈ (run files (h2ConnectionLoop e) n).log →
        serving.length < maxStreams := by
  have nested := run_invariant nested_keeps files (enter_nested e) n unreset
  refine ⟨nested.length,?_⟩
  intro before serving streamId slot member
  exact nested.shallow _ member

/-- Two requests without credit, one served inside the other. -/
def nestedRequests : List UInt8 := noCredit.encode ++ (getIndex 1).encode ++ (getIndex 3).encode

theorem nesting_bounded_nested :
    (run welcomeSite (h2ConnectionLoop (.client nestedRequests)) 3).stack.length = 2 ∧
      (run welcomeSite (h2ConnectionLoop (.client nestedRequests)) 3).stack.length ≤ maxStreams :=
  ⟨by decide +kernel,(nesting_bounded welcomeSite (.client nestedRequests) 3 (by decide +kernel)).1⟩

/-- Without credit, each request is reset while it is being served, and the next is
    served inside it. -/
def resetRequests : List UInt8 := noCredit.encode ++
  (List.range 33).flatMap fun i => (getIndex (2*i + 1)).encode ++ (h2SendRstStream (2*i + 1) .noError).encode

set_option maxRecDepth 100000 in
theorem resetRequests_deep :
    maxStreams < (run welcomeSite (h2ConnectionLoop (.client resetRequests)) 66).stack.length := by
  decide +kernel

end Sarm.H2
