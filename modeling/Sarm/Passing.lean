import Sarm.Staging

/-!
What goes past the stage of the writes. Whatever is behind it takes what it has been given so far, in pieces and in
order, up to a write that fails.
-/
namespace Sarm.Staging
open Sarm.H2 (WriteEvent writeStageSize)

section
variable {σ : Type} (now : σ → List UInt8 → σ × Bool)

/-- Writes past the stage, one behind the other; the last one may fail. -/
inductive Passed : σ → List (List UInt8) → σ → Bool → Prop
  | none (s : σ) : Passed s [] s true
  | failed {s s' : σ} {data : List UInt8} (write : now s data = (s',false)) : Passed s [data] s' false
  | more {s s1 s' : σ} {data : List UInt8} {pieces : List (List UInt8)} {ok : Bool} (write : now s data = (s1,true))
      (rest : Passed s1 pieces s' ok) : Passed s (data :: pieces) s' ok

/-- A call with these octets. If it has gone well, all of them are past the stage or in it. -/
structure Stage.Passes (w : Stage σ) (data : List UInt8) (w' : Stage σ) (ok : Bool) : Prop where
  passed : ∃ pieces, Passed now w.sink pieces w'.sink ok ∧
    (ok = true → pieces.flatten ++ w'.staged = w.staged ++ data)
  sound : w'.Sound
  buffering : w'.buffering = w.buffering

variable {now} {w w' : Stage σ} {data : List UInt8} {ok : Bool}

theorem Passed.append {s s1 s' : σ} {pieces more : List (List UInt8)} (first : Passed now s pieces s1 true)
    (rest : Passed now s1 more s' ok) : Passed now s (pieces ++ more) s' ok := by
  generalize good : true = well at first
  induction first with
  | none s => exact rest
  | failed write => cases good
  | more write first ih => exact .more write (ih rest good)

theorem Stage.Passes.trans {w'' : Stage σ} {more : List UInt8} (first : w.Passes now data w' true)
    (second : w'.Passes now more w'' ok) : w.Passes now (data ++ more) w'' ok := by
  obtain ⟨pieces,passed,whole⟩ := first.passed
  obtain ⟨pieces',passed',whole'⟩ := second.passed
  refine ⟨⟨pieces ++ pieces',passed.append passed',fun good => ?_⟩,second.sound,second.buffering.trans first.buffering⟩
  rw [List.flatten_append,List.append_assoc,whole' good,← List.append_assoc,whole rfl,List.append_assoc]

/-- A call that leaves the stage as it is. -/
theorem passes_nothing (sound : w.Sound) : w.Passes now [] w true :=
  ⟨⟨[],.none _,fun _ => by rw [List.append_nil]; rfl⟩,sound,rfl⟩

theorem append_passes (on : w.buffering = true) (fits : w.len + data.length ≤ writeStageSize) :
    w.Passes now data (w.append data) true := by
  refine ⟨⟨[],.none _,fun _ => append_staged w data⟩,⟨fits,fun off => ?_⟩,rfl⟩
  rw [show w.buffering = false from off] at on
  cases on

theorem writeNow_passes (empty : w.len = 0) (done : w.writeNow now data = (w',ok)) :
    w.Passes now data w' ok ∧ w'.len = 0 := by
  rw [Stage.writeNow] at done
  cases taken : now w.sink data with
  | mk sink good =>
    rw [taken] at done
    cases done
    have sound : ({ w with sink := sink } : Stage σ).Sound := ⟨empty.trans_le (Nat.zero_le _),fun _ => empty⟩
    refine ⟨⟨⟨[data],?_,fun _ => ?_⟩,sound,rfl⟩,empty⟩
    · cases ok with
      | false => exact .failed taken
      | true => exact .more taken (.none _)
    · rw [staged_empty empty,staged_empty (w := { w with sink := sink }) empty,List.flatten_singleton,List.append_nil,
        List.nil_append]

theorem flush_passes (sound : w.Sound) (done : w.flush now = (w',ok)) : w.Passes now [] w' ok ∧ w'.len = 0 := by
  rw [Stage.flush] at done
  split at done
  · next empty =>
    cases done
    exact ⟨passes_nothing sound,empty⟩
  · obtain ⟨passes,empty⟩ := writeNow_passes (w := { w with len := 0 }) rfl done
    obtain ⟨pieces,passed,whole⟩ := passes.passed
    refine ⟨⟨⟨pieces,passed,fun good => ?_⟩,passes.sound,passes.buffering⟩,empty⟩
    rw [whole good,staged_empty (w := { w with len := 0 }) rfl,List.nil_append,List.append_nil]

theorem write_passes (sound : w.Sound) (done : w.write now data = (w',ok)) : w.Passes now data w' ok := by
  rw [Stage.write] at done
  split at done
  · next off => exact (writeNow_passes (sound.2 off) done).1
  next on =>
  rw [Bool.not_eq_false] at on
  split at done
  · next nothing =>
    cases done
    rw [nothing]
    exact passes_nothing sound
  split at done
  · next fits =>
    cases done
    exact append_passes on fits
  cases flushed : w.flush now with
  | mk w1 good =>
    obtain ⟨first,empty⟩ := flush_passes sound flushed
    rw [flushed] at done
    cases good with
    | false =>
      cases done
      obtain ⟨pieces,passed,_⟩ := first.passed
      exact ⟨⟨pieces,passed,fun bad => by cases bad⟩,first.sound,first.buffering⟩
    | true =>
      dsimp only at done
      split at done
      · exact first.trans (writeNow_passes empty done).1
      · next short =>
        cases done
        have back : { w1 with len := 0 } = w1 := by rw [← empty]
        rw [back]
        exact first.trans (append_passes (first.buffering.trans on) (by omega))

end

/-- A write that fails has sent a part. -/
theorem rawWriteAll_part : ∀ (outcomes : List WriteEvent) (wire data : List UInt8),
    ∃ k, (rawWriteAll outcomes wire data).1.wire = wire ++ data.take k := by
  intro outcomes
  induction outcomes with
  | nil =>
    intro wire data
    refine ⟨0,?_⟩
    rw [List.take_zero,List.append_nil]
    cases data <;> rfl
  | cons event outcomes ih =>
    intro wire data
    cases data with
    | nil => exact ⟨0,by rw [rawWriteAll,List.take_zero,List.append_nil]⟩
    | cons octet data =>
      cases event with
      | accepted n =>
        obtain ⟨k,part⟩ := ih (wire ++ (octet :: data).take n) ((octet :: data).drop n)
        refine ⟨n + k,?_⟩
        rw [rawWriteAll,part,List.append_assoc,List.take_add]
      | interrupted =>
        obtain ⟨k,part⟩ := ih wire (octet :: data)
        exact ⟨k,by rw [rawWriteAll,part]; exact List.cons_ne_nil _ _⟩
      | failed => exact ⟨0,by rw [rawWriteAll,List.take_zero,List.append_nil]; exact List.cons_ne_nil _ _⟩

end Sarm.Staging
