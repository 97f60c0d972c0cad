import Sarm.Nesting

/-!
A stream is served once. What keeps it from being served again is the mark on its
entry, then its closed state, and, when the entry has gone to another stream, that
ids only grow.
-/
namespace Sarm.H2
open Sarm.Memory Sarm.Trace

/-- An entry whose stream is being served or has been. -/
def Stream.Spent (s : Stream) : Prop := s.state = .closed ∨ (s.state = .halfClosedRemote ∧ s.serving = true)

theorem spent_lasting : Lasting Stream.Spent := by
  refine ⟨?_,fun _ _ => .inl rfl,fun _ _ spent => spent⟩
  rintro s (closed | ⟨half,_⟩)
  · exact .inl closed
  · exact .inr half

/-- The stream a request is served on. -/
def Event.served : Event → Option Nat
  | .serve _ _ streamId _ => some streamId
  | _ => none

/-- The streams on which requests have been served. -/
def served (log : List Event) : List Nat := log.filterMap Event.served

theorem served_snoc (log : List Event) (e : Event) : served (log ++ [e]) = served log ++ e.served.toList := by
  rw [served,List.filterMap_append]
  cases stream : e.served <;> simp [served,stream]

/-- A stream that is being served, or has been, is not served again. -/
theorem Core.Old.unserved {c : Core} {id streamId slot : Nat} (old : c.Old Stream.Spent id)
    (found : h2StreamFind c.table streamId = some slot) (complete : (c.table.streams slot).state = .halfClosedRemote)
    (idle : (c.table.streams slot).serving = false) : streamId ≠ id := by
  rintro rfl
  obtain ⟨inside,own,_⟩ := find_some found
  rcases old.2 slot inside own with closed | ⟨_,marked⟩
  · rw [complete] at closed
    contradiction
  · rw [idle] at marked
    contradiction

/-- No stream has been served twice, nor will one that has been served. -/
structure Once (s : Server) : Prop where
  formed : Formed s
  spent : ∀ id ∈ served s.log, s.core.Old Stream.Spent id
  once : (served s.log).Nodup

theorem Once.same {s s' : Server} (once : Once s) (formed : Formed s') (log : served s'.log = served s.log)
    (old : ∀ id, s.core.Old Stream.Spent id → s'.core.Old Stream.Spent id) : Once s' :=
  ⟨formed,fun id member => old id (once.spent id (by rw [← log]; exact member)),by rw [log]; exact once.once⟩

/-- The entry of a finished response. -/
theorem closeServed_old {c : Core} {slot streamId id : Nat} (old : c.Old Stream.Spent id) :
    Core.Old { c with table := c.table.closeServed slot streamId } Stream.Spent id := by
  rw [Table.closeServed]
  split
  · refine ⟨old.1,?_⟩
    intro i inside own
    by_cases here : i = slot
    · exact .inl (by simp [here])
    · simpa [here] using old.2 i inside own
  · exact old

theorem once_keeps : acts.Keeps (fun _ => True) Once := by
  intro s s' act meets once
  have formed : Formed s' := formed_keeps act meets once.formed
  cases act with
  | moved core _ _ log _ => exact once.same formed (by rw [log]) (fun id old => by rw [core]; exact old)
  | sent core _ _ log _ _ _ =>
    exact once.same formed (by rw [log,served_snoc]; simp [Event.served]) (fun id old => by rw [core]; exact old)
  | @frame _ hdr payload _ core _ _ _ _ log of _ =>
    refine once.same formed (by rw [log,served_snoc]; simp [Event.served]) (fun id old => ?_)
    rw [core]
    exact dispatch_old spent_lasting once.formed.core of.small payload old
  | refused core _ _ _ log =>
    exact once.same formed (by rw [log,served_snoc]; simp [Event.served]) (fun id old => by rw [core]; exact old)
  | waiting _ =>
    refine once.same formed ?_ (fun _ old => old)
    show served (s.log ++ [.waiting s.count]) = _
    rw [served_snoc]
    simp [Event.served]
  | waitFailed core _ _ _ log _ =>
    exact once.same formed (by rw [log,served_snoc]; simp [Event.served]) (fun id old => by rw [core]; exact old)
  | @serve streamId slot _ proper found complete idle =>
    obtain ⟨inside,own,_⟩ := find_some found
    have log : served (s.log ++ [.serve s.core s.serving streamId slot]) = served s.log ++ [streamId] := served_snoc _ _
    refine ⟨formed,?_,?_⟩
    · intro id member
      have old : id ∈ served s.log ∨ id = streamId := by
        have whole : id ∈ served (s.log ++ [.serve s.core s.serving streamId slot]) := member
        rw [log] at whole
        simpa using whole
      rcases old with before | rfl
      · refine modify_old ?_ (once.spent id before)
        rintro entry (closed | ⟨half,_⟩)
        · exact .inl closed
        · exact .inr ⟨half,rfl⟩
      · refine ⟨?_,?_⟩
        · have bounded := once.formed.core.bounded slot inside
          rw [own] at bounded
          exact bounded
        · intro i insideI same
          have here : i = slot := once.formed.core.distinct i insideI slot inside
            (by rw [show s.core.table.ids i = id from same]; exact proper)
              ((show s.core.table.ids i = id from same).trans own.symm)
          subst here
          exact .inr ⟨by simpa [Server.push,Server.emit,Table.setServing,Table.modify] using complete,
            by simp [Server.push,Server.emit,Table.setServing,Table.modify]⟩
    · show (served (s.log ++ [.serve s.core s.serving streamId slot])).Nodup
      rw [log]
      refine List.nodup_append.mpr ⟨once.once,by simp,?_⟩
      rintro id before other here rfl
      rw [List.mem_singleton] at here
      exact (once.spent id before).unserved found complete idle here.symm
  | top staged body => exact once.same formed (by rw [setTop_log]) (fun id old => by rw [setTop_core]; exact old)
  | @charged serve rest _ _ =>
    refine once.same formed ?_ (fun id old => ?_)
    · show served (s.log ++ [.data _ _ _]) = _
      rw [served_snoc]
      simp [Event.served]
    · exact modify_old (c := { s.core with conn := _ }) (fun _ spent => spent) old
  | finish =>
    refine once.same formed (by rw [finish_log]) (fun id old => ?_)
    rw [Server.finish]
    split
    · exact old
    · exact closeServed_old old
  | ends core _ _ log _ => exact once.same formed (by rw [log]) (fun id old => by rw [core]; exact old)

theorem enter_once (e : Entry) : Once (h2ConnectionLoop e) := by
  have nothing : served (h2ConnectionLoop e).log = [] := by
    rcases (enter_entered e).log with none | ⟨ok,settings⟩
    · rw [none]
      rfl
    · rw [settings]
      rfl
  refine ⟨enter_formed e,?_,?_⟩
  · rw [nothing]
    simp
  · rw [nothing]
    exact List.nodup_nil

/-- In every run no stream is served twice, however requests are nested and whatever
    streams are reset. -/
theorem served_once (files : List EmbeddedFile) (e : Entry) (n : Nat) :
    (served (run files (h2ConnectionLoop e) n).log).Nodup :=
  (run_invariant once_keeps files (enter_once e) n (fun _ _ => trivial)).once

end Sarm.H2
