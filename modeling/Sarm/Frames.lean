import Mathlib.Data.BitVec
import Mathlib.Tactic.IntervalCases
import Sarm.Aarch64

/-!
The stack frames of `http1_should_keep_alive` and `parse_request`. Both store `x19` to
`x27` in the same slots, and the slot of `x27` is the one of `x26`.
-/
namespace Sarm.Frames
open Sarm.Aarch64

/-! ### The frame -/

section
variable {label symbol : Type}

/-- What both routines begin with. -/
def prologue : List (Instr label symbol) :=
  [.stpPush 29 30 80,.stpFrame 19 20 16,.stpFrame 21 22 32,.stpFrame 23 24 48,.stpFrame 25 26 64,.strFrame 27 72]

/-- What all their exits lead to. -/
def epilogue : List (Instr label symbol) :=
  [.ldrFrame 27 72,.ldpFrame 25 26 64,.ldpFrame 23 24 48,.ldpFrame 21 22 32,.ldpFrame 19 20 16,.ldpPop 29 30 80,.ret]

/-- A routine with the frame around its body, and what stands behind it. -/
def framed (body : List (Instr label symbol)) (exit : label) (behind : List (Instr label symbol)) :
    List (Instr label symbol) :=
  prologue ++ (body ++ .label exit :: (epilogue ++ behind))

end

/-- The objects and the routines that both refer to. -/
inductive Symbol where
  | cl_match_str
  | te_match_str
  | conn_match_str
  | close_match_str
  | ka_match_str
  | http10_match_str
  | host_match_str
  | request
  | authority_buf
  | get_header_field
  | streqn_i
  | parse_path
  | decode_url
  | check_path_safety
  | check_path_traversal
  | reply_status
  deriving DecidableEq, Repr

/-! ### `http1_should_keep_alive` -/

/-- `Lhka_*`. -/
inductive Hka where
  | method_ok
  | scan_crlf
  | found_cr
  | version_11
  | version_done
  | conn_is_close
  | conn_try_ka
  | conn_is_ka
  | conn_absent
  | conn_done
  | check_10
  | keep
  | close
  | epilogue
  deriving DecidableEq, Repr

def keepAliveBody : List (Instr Hka Symbol) := [
    .mov 19 0,.mov 20 1,.mov 21 2,.mov 22 3,
    .cbz 20 .close,
    -- The method is GET, HEAD or OPTIONS.
    .cmpImm 21 0,.bCond .eq .method_ok,.cmpImm 21 1,.bCond .eq .method_ok,.cmpImm 21 2,.bCond .eq .method_ok,.b .close,
    .label .method_ok,
    .cmpImm 22 400,.bCond .eq .close,.cmpImm 22 408,.bCond .eq .close,.cmpImm 22 413,.bCond .eq .close,
    .cmpImm 22 431,.bCond .eq .close,.cmpImm 22 500,.bCond .eq .close,
    .mov 0 19,.mov 1 20,.adr 2 .cl_match_str,.movImm 3 14,.bl .get_header_field,.bCond .lo .close,
    .mov 0 19,.mov 1 20,.adr 2 .te_match_str,.movImm 3 17,.bl .get_header_field,.bCond .lo .close,
    -- The version is what is in front of the first CR.
    .movImm 24 0,
    .label .scan_crlf,
    .cmp 24 20,.bCond .hs .version_11,.ldrIndex 1 0 19 24,.cmpWImm 0 13,.bCond .eq .found_cr,.addImm 24 24 1,
      .b .scan_crlf,
    .label .found_cr,
    .cmpImm 24 8,.bCond .lo .version_11,.subImm 25 24 8,.mov 0 19,.add 0 0 25,.adr 1 .http10_match_str,.movImm 2 8,
    .bl .streqn_i,.cbz 0 .version_11,.movImm 26 1,.b .version_done,
    .label .version_11,
    .movImm 26 0,
    .label .version_done,
    .mov 0 19,.mov 1 20,.adr 2 .conn_match_str,.movImm 3 10,.bl .get_header_field,.bCond .hs .conn_absent,
    .mov 9 0,.mov 10 1,
    .cmpImm 10 5,.bCond .lo .conn_try_ka,.mov 0 9,.adr 1 .close_match_str,.movImm 2 5,.bl .streqn_i,.cbz 0 .conn_try_ka,
    .cmpImm 10 5,.bCond .eq .conn_is_close,.ldr 1 0 9 5,.cmpWImm 0 13,.bCond .eq .conn_is_close,
    .cmpWImm 0 32,.bCond .eq .conn_is_close,.cmpWImm 0 9,.bCond .eq .conn_is_close,
    .cmpWImm 0 59,.bCond .eq .conn_is_close,.cmpWImm 0 44,.bCond .eq .conn_is_close,.b .conn_try_ka,
    .label .conn_is_close,
    .movImm 27 2,.b .conn_done,
    .label .conn_try_ka,
    .cmpImm 10 10,.bCond .lo .conn_absent,.mov 0 9,.adr 1 .ka_match_str,.movImm 2 10,.bl .streqn_i,.cbz 0 .conn_absent,
    .cmpImm 10 10,.bCond .eq .conn_is_ka,.ldr 1 0 9 10,.cmpWImm 0 13,.bCond .eq .conn_is_ka,
    .cmpWImm 0 32,.bCond .eq .conn_is_ka,.cmpWImm 0 9,.bCond .eq .conn_is_ka,
    .cmpWImm 0 59,.bCond .eq .conn_is_ka,.cmpWImm 0 44,.bCond .eq .conn_is_ka,.b .conn_absent,
    .label .conn_is_ka,
    .movImm 27 1,.b .conn_done,
    .label .conn_absent,
    .movImm 27 0,
    .label .conn_done,
    .cmpImm 27 2,.bCond .eq .close,.cbnz 26 .check_10,.b .keep,
    .label .check_10,
    .cmpImm 27 1,.bCond .eq .keep,.b .close,
    .label .keep,
    .movImm 0 1,.b .epilogue,
    .label .close,
    .movImm 0 0]

def http1_should_keep_alive : List (Instr Hka Symbol) := framed keepAliveBody .epilogue []

/-! ### `parse_request` -/

/-- `Lreq_*` and `p_req_*`; `other`, `copy` and `copied` are the labels without a name. -/
inductive Req where
  | other
  | get
  | head
  | options
  | method_done
  | copy
  | copied
  | no_authority
  | done
  | skip_parse
  | fail
  | epilogue
  deriving DecidableEq, Repr

def parseBody : List (Instr Req Symbol) := [
    .mov 19 0,.mov 20 1,
    .adr 23 .request,
    .ldr 4 5 19 0,
    .movImm 6 0x4547,.movk 6 0x2054 16,.cmpW 5 6,.bCond .eq .get,
    .movImm 6 0x4548,.movk 6 0x4441 16,.cmpW 5 6,.bCond .ne .other,.ldr 1 7 19 4,.cmpWImm 7 32,.bCond .eq .head,
    .label .other,
    .ldr 8 5 19 0,.movImm 6 0x504F,.movk 6 0x4954 16,.movk 6 0x4E4F 32,.movk 6 0x2053 48,.cmp 5 6,.bCond .eq .options,
    .movImm 21 3,.b .method_done,
    .label .get,
    .movImm 21 0,.movImm 22 1,.b .method_done,
    .label .head,
    .movImm 21 1,.movImm 22 1,.b .method_done,
    .label .options,
    .movImm 21 2,.movImm 22 0,
    .label .method_done,
    .str 8 (some 21) 23 0,.str 8 none 23 48,
    .cmpImm 21 3,.bCond .eq .skip_parse,
    .mov 0 19,.mov 1 20,.mov 2 22,.bl .parse_path,.bCond .hs .fail,
    .mov 24 0,.mov 25 1,.mov 26 2,.mov 27 3,
    .mov 0 24,.mov 1 25,.bl .decode_url,.cbz 0 .fail,.mov 24 0,.mov 25 1,
    .mov 0 24,.mov 1 25,.bl .check_path_safety,.cbz 0 .fail,
    .mov 0 24,.mov 1 25,.bl .check_path_traversal,.cbz 0 .fail,
    .str 8 (some 24) 23 8,.str 8 (some 25) 23 16,.str 8 (some 26) 23 24,.str 8 (some 27) 23 32,
    .mov 0 19,.mov 1 20,.adr 2 .host_match_str,.movImm 3 4,.bl .get_header_field,.bCond .hs .no_authority,
    -- The value of the field, as far as there is room.
    .mov 24 0,.mov 25 1,.adr 26 .authority_buf,.movImm 27 0,
    .label .copy,
    .cbz 25 .copied,.cmpImm 27 256,.bCond .hs .copied,.ldr 1 3 24 0,.cmpWImm 3 13,.bCond .eq .copied,
    .strIndex 1 (some 3) 26 27,.addImm 27 27 1,.addImm 24 24 1,.subImm 25 25 1,.b .copy,
    .label .copied,
    .strIndex 1 none 26 27,.str 8 (some 26) 23 40,.b .done,
    .label .no_authority,
    .str 8 none 23 40,
    .label .done,
    .cmnZero,.b .epilogue,
    .label .skip_parse,
    .cmnZero,.b .epilogue,
    .label .fail,
    .cmpZero]

/-- Behind the epilogue is a tail call that nothing branches to. -/
def parse_request : List (Instr Req Symbol) :=
  framed parseBody .epilogue [.movImm 0 400,.movImm 1 0,.tail .reply_status]

/-! ### In the frame -/

/-- The slots behind the first one, as they are stored. -/
def slots : List (Nat × Reg) := [(8,30),(16,19),(24,20),(32,21),(40,22),(48,23),(56,24),(64,25),(72,26),(72,27)]

/-- Behind the prologue. -/
def entered (e : State) : State :=
  { e with
    sp := e.sp - 80
    mem := slots.foldl (fun m slot => store m (e.sp - 80 + BitVec.ofNat 64 slot.1) 8 (e.x slot.2))
      (store e.mem (e.sp - 80) 8 (e.x 29))
    pc := 6 }

/-- The frame as the prologue has left it. -/
structure Held (e s : State) : Prop where
  sp : s.sp = e.sp - 80
  x28 : s.x 28 = e.x 28
  frame : ∀ i < 80, s.mem (e.sp - 80 + BitVec.ofNat 64 i) = (entered e).mem (e.sp - 80 + BitVec.ofNat 64 i)

theorem entered_held (e : State) : Held e (entered e) := ⟨rfl,rfl,fun _ _ => rfl⟩

theorem load_apart {m : Word → BitVec 8} {b v : Word} {o p : Nat} (small : o ≤ 72) (small' : p ≤ 72)
    (apart : o + 8 ≤ p ∨ p + 8 ≤ o) :
    load (store m (b + BitVec.ofNat 64 o) 8 v) (b + BitVec.ofNat 64 p) 8 = load m (b + BitVec.ofNat 64 p) 8 := by
  refine load_congr fun i inside => store_away _ ?_
  have between : b + BitVec.ofNat 64 p + BitVec.ofNat 64 i - (b + BitVec.ofNat 64 o) =
      BitVec.ofNat 64 (p + i) - BitVec.ofNat 64 o := by
    rw [BitVec.ofNat_add]
    bv_omega
  rw [between]
  bv_omega

/-- What each slot holds: that of `x26` holds `x27`. -/
theorem entered_slots (e : State) :
    load (entered e).mem (e.sp - 80 + 16#64) 8 = e.x 19 ∧ load (entered e).mem (e.sp - 80 + 24#64) 8 = e.x 20 ∧
    load (entered e).mem (e.sp - 80 + 32#64) 8 = e.x 21 ∧ load (entered e).mem (e.sp - 80 + 40#64) 8 = e.x 22 ∧
    load (entered e).mem (e.sp - 80 + 48#64) 8 = e.x 23 ∧ load (entered e).mem (e.sp - 80 + 56#64) 8 = e.x 24 ∧
    load (entered e).mem (e.sp - 80 + 64#64) 8 = e.x 25 ∧ load (entered e).mem (e.sp - 80 + 72#64) 8 = e.x 27 := by
  rw [entered]
  simp only [slots,List.foldl_cons,List.foldl_nil]
  refine ⟨?_,?_,?_,?_,?_,?_,?_,load_store _ _ _⟩
  all_goals
    repeat rw [load_apart (by decide) (by decide) (by decide)]
    exact load_store _ _ _

theorem Held.slot {e s : State} (held : Held e s) {p : Nat} (inside : p + 8 ≤ 80) :
    load s.mem (e.sp - 80 + BitVec.ofNat 64 p) 8 = load (entered e).mem (e.sp - 80 + BitVec.ofNat 64 p) 8 := by
  refine load_congr fun i within => ?_
  rw [BitVec.add_assoc,← BitVec.ofNat_add]
  exact held.frame _ (by omega)

section
variable {label symbol : Type} [DecidableEq label] [DecidableEq symbol] {body : List (Instr label symbol)} {exit : label}
variable {behind : List (Instr label symbol)} {addr : symbol → Word} {calls : symbol → State → State → Prop}

/-- A return behind the prologue. -/
theorem prologue_run {e t : State} (start : e.pc = 0) (run : Run (framed body exit behind) addr calls e t)
    (returned : Returned (framed body exit behind) t) : Run (framed body exit behind) addr calls (entered e) t := by
  have fetched (s : State) {k : Nat} {i : Instr label symbol} (pc : s.pc = k)
    (there : (framed body exit behind)[k]? = some i) :
      (framed body exit behind)[s.pc]? = some i := by rw [pc,there]
  have end_ := run.behind (fetched _ start rfl) rfl returned
  have end_ := end_.behind (fetched _ (show e.pc + 1 = 1 by rw [start]) rfl) rfl returned
  have end_ := end_.behind (fetched _ (show e.pc + 1 + 1 = 2 by rw [start]) rfl) rfl returned
  have end_ := end_.behind (fetched _ (show e.pc + 1 + 1 + 1 = 3 by rw [start]) rfl) rfl returned
  have end_ := end_.behind (fetched _ (show e.pc + 1 + 1 + 1 + 1 = 4 by rw [start]) rfl) rfl returned
  have end_ := end_.behind (fetched _ (show e.pc + 1 + 1 + 1 + 1 + 1 = 5 by rw [start]) rfl) rfl returned
  have same : entered e = { e with sp := e.sp - 80, mem := (entered e).mem, pc := e.pc + 1 + 1 + 1 + 1 + 1 + 1 } := by
    rw [start]
    rfl
  rwa [same]

/-- What a return behind the frame has restored. -/
structure Restored (e t : State) : Prop where
  low : ∀ r : Reg, 19 ≤ r.val → r.val ≤ 25 → t.x r = e.x r
  x26 : t.x 26 = e.x 27
  x27 : t.x 27 = e.x 27
  x28 : t.x 28 = e.x 28
  sp : t.sp = e.sp

theorem epilogue_run {e s t : State} (held : Held e s) (start : s.pc = 6 + body.length)
    (run : Run (framed body exit behind) addr calls s t) (returned : Returned (framed body exit behind) t) :
        Restored e t := by
  have there (k : Nat) : (framed body exit behind)[6 + body.length + k]? = (.label exit :: (epilogue ++ behind))[k]? := by
    rw [framed,List.getElem?_append_right (by simp [prologue]; omega),
      List.getElem?_append_right (by simp [prologue]; omega)]
    congr 1
    simp [prologue]
    omega
  have fetched {s : State} (k : Nat) {i : Instr label symbol} (pc : s.pc = 6 + body.length + k)
      (here : (.label exit :: (epilogue ++ behind))[k]? = some i) : (framed body exit behind)[s.pc]? = some i :=
        by rw [pc,there,here]
  have end_ := run.behind (fetched 0 start rfl) rfl returned
  have end_ := end_.behind (fetched 1 (congrArg (· + 1) start) rfl) rfl returned
  have end_ := end_.behind (fetched 2 (congrArg (· + 2) start) rfl) rfl returned
  have end_ := end_.behind (fetched 3 (congrArg (· + 3) start) rfl) rfl returned
  have end_ := end_.behind (fetched 4 (congrArg (· + 4) start) rfl) rfl returned
  have end_ := end_.behind (fetched 5 (congrArg (· + 5) start) rfl) rfl returned
  have end_ := end_.behind (fetched 6 (congrArg (· + 6) start) rfl) rfl returned
  have last := end_.ended (fetched 7 (congrArg (· + 7) start) rfl)
  subst last
  obtain ⟨x19,x20,x21,x22,x23,x24,x25,x27⟩ := entered_slots e
  have slot (p : Nat) {v : Word} (inside : p + 8 ≤ 80)
    (holds : load (entered e).mem (e.sp - 80 + BitVec.ofNat 64 p) 8 = v) :
      load s.mem (s.sp + BitVec.ofNat 64 p) 8 = v := by
    rw [held.sp,held.slot inside,holds]
  refine ⟨fun r low high => ?_,slot 72 (by decide) x27,slot 72 (by decide) x27,held.x28,?_⟩
  · obtain rfl | rfl | rfl | rfl | rfl | rfl | rfl : r = 19 ∨ r = 20 ∨ r = 21 ∨ r = 22 ∨ r = 23 ∨ r = 24 ∨ r = 25 := by
      simp only [Fin.ext_iff]
      change r.val = 19 ∨ r.val = 20 ∨ r.val = 21 ∨ r.val = 22 ∨ r.val = 23 ∨ r.val = 24 ∨ r.val = 25
      omega
    · exact slot 16 (by decide) x19
    · exact slot 24 (by decide) x20
    · exact slot 32 (by decide) x21
    · exact slot 40 (by decide) x22
    · exact slot 48 (by decide) x23
    · exact slot 56 (by decide) x24
    · exact slot 64 (by decide) x25
  · change s.sp + 80 = e.sp
    rw [held.sp,BitVec.sub_add_cancel]

omit [DecidableEq label] [DecidableEq symbol] in
theorem body_fetched {s : State} (low : 6 ≤ s.pc) (high : s.pc < 6 + body.length) :
    ∃ i ∈ body, (framed body exit behind)[s.pc]? = some i := by
  have there : s.pc - 6 < body.length := by omega
  refine ⟨body[s.pc - 6],List.getElem_mem there,?_⟩
  rw [framed,List.getElem?_append_right (by simp [prologue]; omega),List.getElem?_append_left (by simp [prologue]; omega)]
  exact List.getElem?_eq_getElem there

/-- Runs that stay in the frame up to the epilogue restore what the prologue has saved.
    What else holds on the way is `J`. -/
theorem framed_restores {J : State → Prop} {e t : State} (start : e.pc = 0) (entry : J (entered e))
    (stays : ∀ s s', 6 ≤ s.pc → s.pc < 6 + body.length → Held e s → J s →
      Step (framed body exit behind) addr calls s s' →
      6 ≤ s'.pc ∧ s'.pc ≤ 6 + body.length ∧ Held e s' ∧ J s')
    (inside : ∀ i ∈ body, i ≠ .ret) (run : Run (framed body exit behind) addr calls e t)
    (returned : Returned (framed body exit behind) t) : Restored e t := by
  have general : ∀ s, Run (framed body exit behind) addr calls s t → 6 ≤ s.pc → s.pc ≤ 6 + body.length → Held e s →
      J s → Restored e t := by
    intro s run
    induction run using Relation.ReflTransGen.head_induction_on with
    | refl =>
      -- The body does not return.
      intro low high held _
      rcases Nat.lt_or_ge t.pc (6 + body.length) with before | last
      · obtain ⟨i,member,fetched⟩ := @body_fetched _ _ body exit behind t low before
        exact absurd (Option.some.inj (fetched.symm.trans returned)) (inside i member)
      · have stay : Run (framed body exit behind) addr calls t t := .refl
        exact epilogue_run held (Nat.le_antisymm high last) stay returned
    | head step rest ih =>
      intro low high held also
      rcases Nat.lt_or_ge _ (6 + body.length) with before | last
      · obtain ⟨low',high',held',also'⟩ := stays _ _ low before held also step
        exact ih low' high' held' also'
      · exact epilogue_run held (Nat.le_antisymm high last) (.head step rest) returned
  exact general _ (prologue_run start run returned) (Nat.le_refl 6) (Nat.le_add_right _ _) (entered_held e) entry

/-! ### In the body -/

/-- Where the branches of a body lead. -/
def Inside (body : List (Instr label symbol)) (exit : label) (behind : List (Instr label symbol)) : Prop :=
  ∀ i ∈ body, ∀ l, i.target = some l → 6 ≤ find (framed body exit behind) l ∧
    find (framed body exit behind) l ≤ 6 + body.length

theorem inside_pc (inside : Inside body exit behind) {s s' : State} {i : Instr label symbol} (member : i ∈ body)
    (low : 6 ≤ s.pc)
    (high : s.pc < 6 + body.length) (done : exec (framed body exit behind) addr s i = some s') :
    6 ≤ s'.pc ∧ s'.pc ≤ 6 + body.length := by
  rcases exec_pc done with next | ⟨l,branch,there⟩
  · omega
  · rw [there]
    exact inside i member l branch

theorem exec_held {e s s' : State} {i : Instr label symbol} {code : List (Instr label symbol)} (held : Held e s)
    (body : i.framing = false) (kept : 28 ∉ i.written)
      (mem : ∀ j < 80, s'.mem (e.sp - 80 + BitVec.ofNat 64 j) = s.mem (e.sp - 80 + BitVec.ofNat 64 j))
    (done : exec code addr s i = some s') : Held e s' :=
  ⟨(exec_sp done body).trans held.sp,(exec_kept done kept).trans held.x28,fun j inside =>
    (mem j inside).trans (held.frame j inside)⟩

/-- The routines called see to their callers' registers and frame. -/
theorem call_held {e s s' : State} {pc : Nat} (held : Held e s) (conforms : Conforms 80 s s') :
    Held e { s' with pc := pc } := by
  refine ⟨conforms.sp.trans held.sp,(conforms.saved 28 (by decide) (by decide)).trans held.x28,fun j inside => ?_⟩
  have same := conforms.frame j inside
  rw [held.sp] at same
  exact same.trans (held.frame j inside)

end

/-! ### Runs of `http1_should_keep_alive` -/

section
variable {addr : Symbol → Word} {calls : Symbol → State → State → Prop}

theorem keepAlive_inside : Inside keepAliveBody .epilogue [] := by
  have branches : ∀ i ∈ keepAliveBody, ∀ l ∈ i.target,
      6 ≤ find http1_should_keep_alive l ∧ find http1_should_keep_alive l ≤ 6 + keepAliveBody.length := by decide +kernel
  exact branches

/-- The body neither stores nor touches `x28`. -/
theorem keepAlive_quiet : ∀ i ∈ keepAliveBody, i.framing = false ∧ i.stores = false ∧ 28 ∉ i.written := by decide +kernel

theorem keepAlive_restores (conforms : ∀ f s s', calls f s s' → Conforms 80 s s') {e t : State} (start : e.pc = 0)
    (run : Run http1_should_keep_alive addr calls e t) (returned : Returned http1_should_keep_alive t) :
        Restored e t := by
  refine framed_restores (J := fun _ => True) start trivial ?_ ?_ run returned
  · intro s s' low high held _ step
    obtain ⟨i,member,fetched⟩ := @body_fetched _ _ keepAliveBody .epilogue [] s low high
    cases step with
    | exec fetched' done =>
      cases fetched.symm.trans fetched'
      obtain ⟨body,silent,kept⟩ := keepAlive_quiet i member
      obtain ⟨low',high'⟩ := inside_pc keepAlive_inside member low high done
      refine ⟨low',high',exec_held held body kept (fun j _ => ?_) done,trivial⟩
      rw [exec_mem done body silent]
    | call fetched' returned => exact ⟨by dsimp only; omega,by dsimp only; omega,
      call_held held (conforms _ _ _ returned),trivial⟩
  · intro i member return_
    have body := (keepAlive_quiet i member).1
    rw [return_] at body
    cases body

end

/-! ### Runs of `parse_request` -/

/-- Octets of an object are not octets of the frame below `sp`. -/
def Clear (object : Word) (size : Nat) (sp : Word) : Prop :=
    ∀ i < size, ∀ j < 80, object + BitVec.ofNat 64 i ≠ sp - 80 + BitVec.ofNat 64 j

theorem clear_away {object sp : Word} {size off n j : Nat} (clear : Clear object size sp) (fits : off + n ≤ size)
    (inside : j < 80) :
    n ≤ (sp - 80 + BitVec.ofNat 64 j - (object + BitVec.ofNat 64 off)).toNat := by
  by_contra near
  refine clear (off + (sp - 80 + BitVec.ofNat 64 j - (object + BitVec.ofNat 64 off)).toNat) (by omega) j inside ?_
  rw [BitVec.ofNat_add,BitVec.ofNat_toNat,BitVec.setWidth_eq,← BitVec.add_assoc,BitVec.add_comm,BitVec.sub_add_cancel]

section
variable {addr : Symbol → Word} {calls : Symbol → State → State → Prop}

theorem parse_inside : Inside parseBody .epilogue [.movImm 0 400,.movImm 1 0,.tail .reply_status] := by
  have branches : ∀ i ∈ parseBody, ∀ l ∈ i.target,
      6 ≤ find parse_request l ∧ find parse_request l ≤ 6 + parseBody.length := by decide +kernel
  exact branches

/-- What the stores of the body rely on: `x23` points to the request, and in the copy of
    the authority `x26` to its buffer, with no more than its room in `x27`. -/
structure Parsing (addr : Symbol → Word) (s : State) : Prop where
  request : 9 ≤ s.pc → s.x 23 = addr .request
  buffer : 83 ≤ s.pc → s.pc ≤ 97 → s.x 26 = addr .authority_buf
  count : 84 ≤ s.pc → s.pc ≤ 97 → (s.x 27).toNat ≤ 256
  compared : s.pc = 87 → s.flags.c = decide ((256 : Word) ≤ s.x 27)
  room : 88 ≤ s.pc → s.pc ≤ 92 → (s.x 27).toNat < 256

/-- What the body stores, and where. -/
def storesWhere (pc : Nat) : Instr Req Symbol → Bool
  | .str size _ n imm => n = 23 && imm + size ≤ 80 && 9 ≤ pc
  | .strIndex size _ n m => n = 26 && m = 27 && size = 1 && (pc = 91 || pc = 97)
  | _ => true

/-- The branches into the copy are in the copy. -/
def branchesWhere (pc : Nat) (i : Instr Req Symbol) : Bool :=
  (82 ≤ pc && pc ≤ 97) || i.target.all fun l => find parse_request l < 83 || 97 < find parse_request l

/-- Calls are outside the copy, behind the address of the request. -/
def callsWhere (pc : Nat) : Instr Req Symbol → Bool
  | .bl _ => 9 ≤ pc && (pc < 82 || 97 < pc)
  | _ => true

theorem parse_body : ∀ k < 110, 6 ≤ k → (parse_request[k]?).all (fun i => !i.framing && decide (28 ∉ i.written) &&
    decide (8 < k → 23 ∉ i.written) && storesWhere k i && branchesWhere k i && callsWhere k i) = true := by
  decide +kernel

/-- The request and the buffer of the authority are not in the frame. -/
structure Placed (addr : Symbol → Word) (sp : Word) : Prop where
  request : Clear (addr .request) 80 sp
  authority : Clear (addr .authority_buf) 257 sp

theorem parse_mem {e s s' : State} {i : Instr Req Symbol} (placed : Placed addr e.sp) (parsing : Parsing addr s)
    (body : i.framing = false) (stores : storesWhere s.pc i = true) (done : exec parse_request addr s i = some s') :
    ∀ j < 80, s'.mem (e.sp - 80 + BitVec.ofNat 64 j) = s.mem (e.sp - 80 + BitVec.ofNat 64 j) := by
  intro j inside
  cases i with
  | str size r n imm =>
    simp only [storesWhere,Bool.and_eq_true,decide_eq_true_eq] at stores
    obtain ⟨⟨rfl,fits⟩,behind⟩ := stores
    cases done
    refine store_away _ ?_
    rw [parsing.request behind]
    exact clear_away placed.request fits inside
  | strIndex size r n m =>
    simp only [storesWhere,Bool.and_eq_true,Bool.or_eq_true,decide_eq_true_eq] at stores
    obtain ⟨⟨⟨rfl,rfl⟩,rfl⟩,here⟩ := stores
    cases done
    refine store_away _ ?_
    have few := parsing.count (by omega) (by omega)
    have index : s.x 27 = BitVec.ofNat 64 (s.x 27).toNat := by rw [BitVec.ofNat_toNat,BitVec.setWidth_eq]
    rw [parsing.buffer (by omega) (by omega),index]
    exact clear_away placed.authority (by omega) inside
  | _ => rw [exec_mem done body rfl]

/-- Outside the copy nothing but `x23` is to be seen to. -/
theorem parsing_outside {s' : State} (request : 9 ≤ s'.pc → s'.x 23 = addr .request)
    (away : s'.pc < 83 ∨ 97 < s'.pc) : Parsing addr s' :=
  ⟨request,by omega,by omega,by omega,by omega⟩

theorem parsing_request {s s' : State} {i : Instr Req Symbol} (low : 6 ≤ s.pc) (parsing : Parsing addr s)
    (fetched : parse_request[s.pc]? = some i) (kept : 8 < s.pc → 23 ∉ i.written)
      (done : exec parse_request addr s i = some s') :
    9 ≤ s'.pc → s'.x 23 = addr .request := by
  intro behind
  rcases Nat.lt_or_ge 8 s.pc with past | before
  · rw [exec_kept done (kept past)]
    exact parsing.request past
  · obtain here | here | here : s.pc = 6 ∨ s.pc = 7 ∨ s.pc = 8 := by omega
    all_goals
      rw [here] at fetched
      cases fetched
      cases done
    · change 9 ≤ s.pc + 1 at behind
      omega
    · change 9 ≤ s.pc + 1 at behind
      omega
    · rfl

/-- A step in the copy that leaves its registers alone, away from the comparison. -/
theorem parsing_kept {x : Reg → Word} {s' : State} (k : Nat) (pc : s'.pc = k) (pointer : x 23 = addr .request)
    (buffer : x 26 = addr .authority_buf) (few : (x 27).toNat ≤ 256) (room : 88 ≤ k ∧ k ≤ 92 → (x 27).toNat < 256)
      (other : k ≠ 87)
    (same : s'.x 23 = x 23 ∧ s'.x 26 = x 26 ∧ s'.x 27 = x 27) : Parsing addr s' := by
  subst pc
  obtain ⟨x23,x26,x27⟩ := same
  refine ⟨fun _ => x23.trans pointer,fun _ _ => x26.trans buffer,fun _ _ => ?_,fun here =>
    absurd here other,fun low high => ?_⟩
  · rw [x27]
    exact few
  · rw [x27]
    exact room ⟨low,high⟩

theorem parsing_copy {s s' : State} {i : Instr Req Symbol} (low : 82 ≤ s.pc) (high : s.pc ≤ 97) (parsing : Parsing addr s)
    (fetched : parse_request[s.pc]? = some i) (done : exec parse_request addr s i = some s') : Parsing addr s' := by
  have copy : find parse_request .copy = 84 := by decide +kernel
  have copied : find parse_request .copied = 96 := by decide +kernel
  have pointer := parsing.request (by omega)
  obtain ⟨x,sp,flags,mem,pc⟩ := s
  obtain ⟨_,buffer,count,compared,room⟩ := parsing
  dsimp only at low high fetched pointer buffer count compared room
  interval_cases pc
  all_goals
    cases fetched
    cases done
  -- The buffer, and no octets copied.
  · exact ⟨fun _ => pointer,fun _ _ => rfl,fun low => absurd (show 84 ≤ 83 from low) (by decide),
      fun here => absurd (show 83 = 87 from here) (by decide),fun low => absurd (show 88 ≤ 83 from low) (by decide)⟩
  · exact ⟨fun _ => pointer,fun _ _ => buffer (by decide) (by decide),fun _ _ => Nat.zero_le _,
      fun here => absurd (show 84 = 87 from here) (by decide),fun low => absurd (show 88 ≤ 84 from low) (by decide)⟩
  all_goals
    have buffer := buffer (by decide) (by decide)
    have few := count (by decide) (by decide)
  · exact parsing_kept 85 rfl pointer buffer few (fun r => absurd r (by decide)) (by decide) ⟨rfl,rfl,rfl⟩
  · split
    · rw [copied]
      exact parsing_kept 96 rfl pointer buffer few (fun r => absurd r (by decide)) (by decide) ⟨rfl,rfl,rfl⟩
    · exact parsing_kept 86 rfl pointer buffer few (fun r => absurd r (by decide)) (by decide) ⟨rfl,rfl,rfl⟩
  -- The comparison with the room, and what follows from it.
  · exact ⟨fun _ => pointer,fun _ _ => buffer,fun _ _ => few,fun _ => rfl,fun low =>
    absurd (show 88 ≤ 87 from low) (by decide)⟩
  · split
    · rw [copied]
      exact parsing_kept 96 rfl pointer buffer few (fun r => absurd r (by decide)) (by decide) ⟨rfl,rfl,rfl⟩
    · next more =>
      have below : (x 27).toNat < 256 := by
        have flag := compared rfl
        rw [Cond.holds,flag,decide_eq_true_eq,BitVec.le_def] at more
        exact Nat.not_le.mp more
      exact parsing_kept 88 rfl pointer buffer few (fun _ => below) (by decide) ⟨rfl,rfl,rfl⟩
  · exact parsing_kept 89 rfl pointer buffer few (fun _ => room (by decide) (by decide)) (by decide) ⟨rfl,rfl,rfl⟩
  · exact parsing_kept 90 rfl pointer buffer few (fun _ => room (by decide) (by decide)) (by decide) ⟨rfl,rfl,rfl⟩
  · split
    · rw [copied]
      exact parsing_kept 96 rfl pointer buffer few (fun r => absurd r (by decide)) (by decide) ⟨rfl,rfl,rfl⟩
    · exact parsing_kept 91 rfl pointer buffer few (fun _ => room (by decide) (by decide)) (by decide) ⟨rfl,rfl,rfl⟩
  · exact parsing_kept 92 rfl pointer buffer few (fun _ => room (by decide) (by decide)) (by decide) ⟨rfl,rfl,rfl⟩
  -- One octet more is still in the room.
  · have below := room (by decide) (by decide)
    refine ⟨fun _ => pointer,fun _ _ => buffer,fun _ _ => ?_,fun here => absurd (show 93 = 87 from here) (by decide),
      fun _ high => absurd (show 93 ≤ 92 from high) (by decide)⟩
    change (x 27 + 1#64).toNat ≤ 256
    bv_omega
  · exact parsing_kept 94 rfl pointer buffer few (fun r => absurd r (by decide)) (by decide) ⟨rfl,rfl,rfl⟩
  · exact parsing_kept 95 rfl pointer buffer few (fun r => absurd r (by decide)) (by decide) ⟨rfl,rfl,rfl⟩
  · rw [copy]
    exact parsing_kept 84 rfl pointer buffer few (fun r => absurd r (by decide)) (by decide) ⟨rfl,rfl,rfl⟩
  · exact parsing_kept 97 rfl pointer buffer few (fun r => absurd r (by decide)) (by decide) ⟨rfl,rfl,rfl⟩
  · exact parsing_kept 98 rfl pointer buffer few (fun r => absurd r (by decide)) (by decide) ⟨rfl,rfl,rfl⟩

theorem parse_restores (conforms : ∀ f s s', calls f s s' → Conforms 80 s s') {e t : State} (placed : Placed addr e.sp)
    (start : e.pc = 0) (run : Run parse_request addr calls e t) (returned : Returned parse_request t) : Restored e t := by
  have entry : Parsing addr (entered e) :=
    ⟨fun low => absurd (show 9 ≤ 6 from low) (by decide),fun low => absurd (show 83 ≤ 6 from low) (by decide),
      fun low => absurd (show 84 ≤ 6 from low) (by decide),fun here => absurd (show 6 = 87 from here) (by decide),
      fun low => absurd (show 88 ≤ 6 from low) (by decide)⟩
  refine framed_restores (J := Parsing addr) start entry ?_ (by decide +kernel) run returned
  intro s s' low high held parsing step
  obtain ⟨i,member,fetched⟩ := @body_fetched _ _ parseBody .epilogue
    [.movImm 0 400,.movImm 1 0,.tail .reply_status] s low high
  have checks := parse_body s.pc high low
  change parse_request[s.pc]? = some i at fetched
  rw [fetched,Option.all_some] at checks
  simp only [Bool.and_eq_true,Bool.not_eq_true',decide_eq_true_eq] at checks
  obtain ⟨⟨⟨⟨⟨body,kept⟩,pointer⟩,stores⟩,branches⟩,called⟩ := checks
  cases step with
  | exec fetched' done =>
    cases fetched.symm.trans fetched'
    obtain ⟨low',high'⟩ := inside_pc parse_inside member low high done
    refine ⟨low',high',exec_held held body kept (parse_mem placed parsing body stores done) done,?_⟩
    by_cases copying : 82 ≤ s.pc ∧ s.pc ≤ 97
    · exact parsing_copy copying.1 copying.2 parsing fetched done
    · refine parsing_outside (parsing_request low parsing fetched pointer done) ?_
      rcases exec_pc done with next | ⟨l,branch,there⟩
      · omega
      · rw [branchesWhere,branch] at branches
        simp only [Option.all_some,Bool.or_eq_true,Bool.and_eq_true,decide_eq_true_eq] at branches
        rw [show s'.pc = find parse_request l from there]
        exact branches.resolve_left copying
  | call fetched' returned =>
    cases fetched.symm.trans fetched'
    simp only [callsWhere,Bool.and_eq_true,Bool.or_eq_true,decide_eq_true_eq] at called
    have conform := conforms _ _ _ returned
    refine ⟨by dsimp only; omega,by dsimp only; omega,call_held held conform,?_⟩
    refine parsing_outside (fun _ => (conform.saved 23 (by decide) (by decide)).trans (parsing.request called.1)) ?_
    dsimp only
    omega

end

/-! ### The law -/

theorem Restored.preserved_iff {e t : State} (restored : Restored e t) : Preserved e t ↔ e.x 26 = e.x 27 := by
  constructor
  · intro preserved
    exact (preserved.saved 26 (by decide) (by decide)).symm.trans restored.x26
  · intro same
    refine ⟨fun r low high => ?_,restored.sp⟩
    have named : r.val ≤ 25 ∨ r = 26 ∨ r = 27 ∨ r = 28 := by
      simp only [Fin.ext_iff]
      change r.val ≤ 25 ∨ r.val = 26 ∨ r.val = 27 ∨ r.val = 28
      omega
    obtain early | rfl | rfl | rfl := named
    · exact restored.low r low early
    · exact restored.x26.trans same.symm
    · exact restored.x27
    · exact restored.x28

/-- Both routines keep `x19` to `x28` and `sp` just where `x26` and `x27` are the same at
    their entry. -/
theorem frames_preserved (addr : Symbol → Word) (calls : Symbol → State → State → Prop)
    (conforms : ∀ f s s', calls f s s' → Conforms 80 s s') :
    (∀ e t : State, e.pc = 0 → Run http1_should_keep_alive addr calls e t → Returned http1_should_keep_alive t →
      (Preserved e t ↔ e.x 26 = e.x 27)) ∧
    ∀ e t : State, e.pc = 0 → Placed addr e.sp → Run parse_request addr calls e t → Returned parse_request t →
      (Preserved e t ↔ e.x 26 = e.x 27) :=
  ⟨fun _ _ start run returned => (keepAlive_restores conforms start run returned).preserved_iff,
    fun _ _ start placed run returned => (parse_restores conforms placed start run returned).preserved_iff⟩

/-- A routine that finds nothing. -/
def finding (_ : Symbol) (s s' : State) : Prop := s' = { s.set 0 0 with flags := ⟨true,true⟩ }

theorem finding_conforms (f : Symbol) (s s' : State) (found : finding f s s') : Conforms 80 s s' := by
  cases found
  refine ⟨fun r low _ => Function.update_of_ne ?_ _ _,rfl,fun _ _ => rfl⟩
  rintro rfl
  exact absurd low (by decide)

/-- Every register holds its number, but for `x1` and `x27`, over a memory without octets. -/
def entryState (x27 : Word) : State :=
  { x := fun r => if r = 1 then 0 else if r = 27 then x27 else BitVec.ofNat 64 r.val
    sp := 0x8000
    flags := ⟨false,false⟩
    mem := fun _ => 0
    pc := 0 }

def atObjects : Symbol → Word
  | .authority_buf => 0x2000
  | _ => 0x1000

theorem atObjects_placed : Placed atObjects 0x8000 := by
  constructor
  all_goals
    intro i inside j within
    simp only [atObjects]
    bv_omega

theorem frames_preserved_same :
    Preserved (entryState 26) (runFor http1_should_keep_alive atObjects 60 (entryState 26)) ∧
    Preserved (entryState 26) (runFor parse_request atObjects 60 (entryState 26)) := by
  obtain ⟨keeps,parses⟩ := frames_preserved atObjects finding finding_conforms
  exact ⟨(keeps (entryState 26) _ rfl (runFor_run _ _ _ _ _) (by decide +kernel)).mpr rfl,
    (parses (entryState 26) _ rfl atObjects_placed (runFor_run _ _ _ _ _) (by decide +kernel)).mpr rfl⟩

/-- A caller of either that has 26 in `x26` and 27 in `x27` has 27 in both behind it. -/
theorem frames_overlap :
    (∃ t, Run http1_should_keep_alive atObjects finding (entryState 27) t ∧ Returned http1_should_keep_alive t ∧
      ¬ Preserved (entryState 27) t) ∧
    ∃ t, Run parse_request atObjects finding (entryState 27) t ∧ Returned parse_request t ∧
        ¬ Preserved (entryState 27) t := by
  refine ⟨⟨_,runFor_run _ _ _ 60 _,by decide +kernel,fun preserved => ?_⟩,
    ⟨_,runFor_run _ _ _ 60 _,by decide +kernel,fun preserved => ?_⟩⟩
  · have same := preserved.saved 26 (by decide) (by decide)
    revert same
    decide +kernel
  · have same := preserved.saved 26 (by decide) (by decide)
    revert same
    decide +kernel

end Sarm.Frames
