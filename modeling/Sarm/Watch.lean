import Mathlib.Data.List.Basic

/-!
Computations that note what they touch. One of them is compared with one that notes
nothing: from a state on it does the same, what it notes meets a condition, and
where it comes to a result that has a property. The rules follow the steps of the
computation, so that what is noted is looked at where it is noted.
-/
namespace Sarm.Watch

/-- Steps on a state and the notes made so far, oldest first. -/
abbrev Noting (ω ε σ : Type) := EStateM ε (σ × List ω)

variable {ω ε σ α β : Type}

/-- Make a note, which may say something of the state. -/
def note (t : σ → ω) : Noting ω ε σ Unit := fun w => .ok () (w.1,w.2 ++ [t w.1])

/-- A result, with the notes there are. -/
def noted (log : List ω) : EStateM.Result ε σ α → EStateM.Result ε (σ × List ω) α
  | .ok a s => .ok a (s,log)
  | .error e s => .error e (s,log)

/-- A step that notes nothing. -/
def plain (x : EStateM ε σ α) : Noting ω ε σ α := fun w => noted w.2 (x w.1)

/-- Look at the state. -/
def look (f : σ → α) : Noting ω ε σ α := plain fun s => .ok (f s) s

/-- Change the state. -/
def change (f : σ → σ) : Noting ω ε σ Unit := plain fun s => .ok () (f s)

/-- From a state on, `m` does what `x` does, notes what is right, and has a result with a
    property if it has one. -/
structure Does (Ok : ω → Prop) (Post : α → σ → Prop) (m : Noting ω ε σ α) (x : EStateM ε σ α) (s : σ) : Prop where
  same : ∀ log, ∃ more, (∀ t ∈ more, Ok t) ∧ m (s,log) = noted (log ++ more) (x s)
  post : ∀ a s', x s = .ok a s' → Post a s'

variable {Ok : ω → Prop} {Post : α → σ → Prop} {s : σ}

/-- A run that starts without notes. -/
theorem Does.run {m : Noting ω ε σ α} {x : EStateM ε σ α} (does : Does Ok Post m x s) :
    ∃ log, (∀ t ∈ log, Ok t) ∧ m (s,[]) = noted log (x s) := by
  obtain ⟨more,right,same⟩ := does.same []
  exact ⟨more,right,by rwa [List.nil_append] at same⟩

/-! ### Steps without notes -/

theorem plain_does {x : EStateM ε σ α} (post : ∀ a s', x s = .ok a s' → Post a s') :
    Does Ok Post (plain x : Noting ω ε σ α) x s := by
  refine ⟨?_,post⟩
  intro log
  exact ⟨[],List.forall_mem_nil Ok,by rw [List.append_nil]; rfl⟩

theorem pure_does {a : α} (post : Post a s) : Does Ok Post (pure a : Noting ω ε σ α) (pure a) s := by
  constructor
  · intro log
    exact ⟨[],List.forall_mem_nil Ok,by rw [List.append_nil]; rfl⟩
  · rintro _ _ ⟨⟩
    exact post

theorem throw_does {e : ε} : Does Ok Post (throw e : Noting ω ε σ α) (throw e) s := by
  constructor
  · intro log
    exact ⟨[],List.forall_mem_nil Ok,by rw [List.append_nil]; rfl⟩
  · rintro _ _ ⟨⟩

/-! ### Composition -/

theorem note_does {t : σ → ω} {m : Unit → Noting ω ε σ α} {x : EStateM ε σ α} (ok : Ok (t s))
    (rest : Does Ok Post (m ()) x s) : Does Ok Post (note t >>= m) x s := by
  refine ⟨?_,rest.post⟩
  intro log
  obtain ⟨more,right,same⟩ := rest.same (log ++ [t s])
  refine ⟨t s :: more,List.forall_mem_cons.mpr ⟨ok,right⟩,?_⟩
  rw [← List.append_cons] at same
  exact same

theorem bind_does {m : Noting ω ε σ α} {x : EStateM ε σ α} {k : α → Noting ω ε σ β} {k' : α → EStateM ε σ β}
    {After : β → σ → Prop} (first : Does Ok Post m x s)
    (rest : ∀ a s', Post a s' → Does Ok After (k a) (k' a) s') : Does Ok After (m >>= k) (x >>= k') s := by
  obtain ⟨same,post⟩ := first
  cases reply : x s with
  | ok a s' =>
    obtain ⟨same',post'⟩ := rest a s' (post a s' reply)
    have onward : (x >>= k') s = k' a s' := by
      change EStateM.bind x k' s = _
      rw [EStateM.bind,reply]
    constructor
    · intro log
      obtain ⟨more,right,first⟩ := same log
      obtain ⟨more',right',second⟩ := same' (log ++ more)
      refine ⟨more ++ more',List.forall_mem_append.mpr ⟨right,right'⟩,?_⟩
      rw [onward,← List.append_assoc,← second]
      change EStateM.bind m k (s,log) = _
      rw [EStateM.bind,first,reply]
      rfl
    · rw [onward]
      exact post'
  | error e s' =>
    have stop : (x >>= k') s = .error e s' := by
      change EStateM.bind x k' s = _
      rw [EStateM.bind,reply]
    constructor
    · intro log
      obtain ⟨more,right,first⟩ := same log
      refine ⟨more,right,?_⟩
      rw [stop]
      change EStateM.bind m k (s,log) = _
      rw [EStateM.bind,first,reply]
      rfl
    · rw [stop]
      rintro _ _ ⟨⟩

/-- What holds of a value holds when it is worked out. -/
theorem Does.knowing {m : Noting ω ε σ α} {v : α} {After : α → σ → Prop} (does : Does Ok Post m (pure v) s)
    (known : After v s) : Does Ok After m (pure v) s := by
  refine ⟨does.same,?_⟩
  rintro _ _ ⟨⟩
  exact known

/-- A value that is worked out with notes but without a change. -/
theorem value_does {m : Noting ω ε σ α} {v : α} {k : α → Noting ω ε σ β} {x : EStateM ε σ β} {After : β → σ → Prop}
    (first : Does Ok Post m (pure v) s) (rest : Post v s → Does Ok After (k v) x s) : Does Ok After (m >>= k) x s := by
  have found : Does Ok (fun a s' => a = v ∧ s' = s) m (pure v) s := first.knowing ⟨rfl,rfl⟩
  change Does Ok After (m >>= k) (pure v >>= fun _ => x) s
  refine bind_does found ?_
  rintro _ _ ⟨rfl,rfl⟩
  exact rest (first.post _ _ rfl)

theorem look_does {f : σ → α} {k : α → Noting ω ε σ β} {x : EStateM ε σ β} {After : β → σ → Prop}
    (rest : Does Ok After (k (f s)) x s) : Does Ok After (look f >>= k) x s := by
  have value : Does Ok (fun _ _ => True) (look f : Noting ω ε σ α) (pure (f s)) s := by
    refine ⟨?_,fun _ _ _ => trivial⟩
    intro log
    exact ⟨[],List.forall_mem_nil Ok,by rw [List.append_nil]; rfl⟩
  exact value_does value fun _ => rest

/-- What is compared with may be written in another way. -/
theorem Does.of_eq {m : Noting ω ε σ α} {x x' : EStateM ε σ α} (does : Does Ok Post m x s) (equal : x' s = x s) :
    Does Ok Post m x' s := by
  refine ⟨?_,?_⟩
  · rw [equal]
    exact does.same
  · rw [equal]
    exact does.post

theorem change_does {f : σ → σ} {k : Unit → Noting ω ε σ β} {x : EStateM ε σ β} {After : β → σ → Prop}
    (rest : Does Ok After (k ()) x (f s)) : Does Ok After (change f >>= k) (fun s => x (f s)) s :=
  ⟨rest.same,rest.post⟩

/-- The result is that of the computation compared with. -/
theorem Does.executed {m : Noting ω ε σ α} {x : EStateM ε σ α} (does : Does Ok Post m x s) :
    Does Ok (fun a s' => Post a s' ∧ x s = .ok a s') m x s :=
  ⟨does.same,fun a s' reply => ⟨does.post a s' reply,reply⟩⟩

end Sarm.Watch
