import Sarm.ClientHello

/-!
The parser of a ClientHello accepts what is laid out by the grammar and nothing else, and reads no
octet that is not one of the body.
-/
namespace Sarm.Hello
open Sarm.Memory
open Sarm.Hpack (ascii)

/-! ### What an extension comes to -/

/-- The key of the last share of the group is the one that stays. -/
def KeyShare.effect (r : Registers) (s : KeyShare) : Registers :=
  if s.group = x25519Group then ⟨{ r.x11 with keyshare := true },blit r.state 80 (ofBytes s.key) s.key.length⟩ else r

def Extension.effect (r : Registers) : Extension → Registers
  | .versions list => if 0x0304 ∈ list then { r with x11 := { r.x11 with tls13 := true } } else r
  | .groups list => if x25519Group ∈ list then { r with x11 := { r.x11 with group := true } } else r
  | .shares list => list.foldl KeyShare.effect r
  | .protocols list => if ascii "h2" ∈ list then { r with x11 := { r.x11 with alpn := true } } else r
  | .names (n :: _) _ =>
    if n.type = 0 then { r with x11 := { r.x11 with sniSeen := true,sniMatch := r.x11.sniMatch || n.name = hostname } } else r
  | .names [] _ => r
  | .other _ _ => r

def ClientHello.effect (h : ClientHello) (r : Registers) : Registers :=
  let state := blit r.state 16 (ofBytes h.random) h.random.length
  let state := blit state 440 (ofBytes (u64 h.sessionId.length)) (u64 h.sessionId.length).length
  let state := blit state 448 (ofBytes h.sessionId) h.sessionId.length
  h.list.foldl Extension.effect ⟨if 0x1301 ∈ h.suites then { r.x11 with cipher := true } else r.x11,state⟩

/-! ### What is laid out is read -/

section
variable {α β : Type} {r r' : Registers}

theorem bind_run {x : Parser α} {k : α → Parser β} {a : α} (run : x r = .ok a r') : (x >>= k) r = k a r' := by
  change EStateM.bind x k r = _
  rw [EStateM.bind,run]

theorem refuseIf_run {c : Prop} [Decidable c] {a : Alert} {k : Unit → Parser β} (fine : ¬c) :
    (refuseIf c a >>= k) r = k () r :=
  bind_run (by rw [refuseIf,if_neg fine]; rfl)

theorem ldrb_run {p : Cursor} {i : Nat} (octet : UInt8) {k : UInt8 → Parser β} (there : p[i]? = some octet) :
    (ldrb p i >>= k) r = k octet r :=
  bind_run (by rw [ldrb,there]; rfl)

theorem ldrn_run {p : Cursor} {n : Nat} {k : List UInt8 → Parser β} (there : n ≤ p.length) :
    (ldrn p n >>= k) r = k (p.take n) r :=
  bind_run (by rw [ldrn,if_pos there]; rfl)

/-- Two octets that are there. -/
theorem ldrh_run {p : Cursor} {i : Nat} (high low : UInt8) {k : Nat → Parser β} (first : p[i]? = some high)
    (second : p[i+1]? = some low) : (ldrh p i >>= k) r = k (high.toNat * 256 + low.toNat) r := by
  refine bind_run ?_
  rw [ldrh,ldrb_run _ first,ldrb_run _ second]
  rfl

end

theorem u16_value {n : Nat} (small : n < 65536) : (UInt8.ofNat (n / 256)).toNat * 256 + (UInt8.ofNat n).toNat = n := by
  rw [UInt8.toNat_ofNat',UInt8.toNat_ofNat']
  omega

theorem ldrh_u16 {β : Type} {r : Registers} {n : Nat} (small : n < 65536) (p : Cursor) {k : Nat → Parser β} :
    (ldrh (u16 n ++ p) 0 >>= k) r = k n r := by
  rw [ldrh_run (UInt8.ofNat (n / 256)) (UInt8.ofNat n) rfl rfl,u16_value small]

theorem length_u16 (n : Nat) : (u16 n).length = 2 := rfl

theorem length_flatMap_u16 (list : List Nat) : (list.flatMap u16).length = 2 * list.length := by
  induction list with
  | nil => rfl
  | cons n list ih =>
    rw [List.flatMap_cons,List.length_append,length_u16,ih,List.length_cons]
    omega

theorem vec16_length (l : List UInt8) : (vec16 l).length = l.length + 2 := by
  rw [vec16,List.length_append,length_u16]
  omega

/-- A value that is in the list sets its flag. -/
theorem scan_run {value : Nat} {found : Flags → Flags} (again : ∀ f, found (found f) = found f) (p : Cursor) :
    ∀ {list : List Nat} {r : Registers}, (∀ v ∈ list, v < 65536) →
      scan value found (list.flatMap u16 ++ p) list.length r =
        .ok () (if value ∈ list then { r with x11 := found r.x11 } else r) := by
  intro list
  induction list with
  | nil => exact fun _ => rfl
  | cons v list ih =>
    intro r small
    obtain ⟨first,others⟩ := List.forall_mem_cons.mp small
    rw [List.flatMap_cons,List.append_assoc,List.length_cons,scan,ldrh_u16 first]
    have rest : (u16 v ++ (list.flatMap u16 ++ p)).drop 2 = list.flatMap u16 ++ p := rfl
    by_cases same : v = value
    · subst same
      rw [if_pos rfl,rest,if_pos (List.mem_cons_self ..)]
      refine (bind_run rfl).trans ((ih others).trans ?_)
      split <;> simp [again]
    · rw [if_neg same,rest]
      refine (bind_run rfl).trans ((ih others).trans ?_)
      simp [Ne.symm same]

theorem KeyShare.length_octets (s : KeyShare) : s.octets.length = 4 + s.key.length := by
  rw [KeyShare.octets,List.length_append,length_u16,vec16_length]
  omega

/-- One share. -/
theorem ksScan_entry {s : KeyShare} (group : s.group < 65536) (length : s.key.length < 65536)
    (proper : s.group = x25519Group → s.key.length = 32) (p : Cursor) (n : Nat) (r : Registers) :
    ksScan (s.octets ++ p) (s.octets.length + n) r = ksScan p n (KeyShare.effect r s) := by
  have behind : (s.octets ++ p).drop (4 + s.key.length) = p := by rw [← s.length_octets,List.drop_left]
  have shape : s.octets ++ p = u16 s.group ++ (u16 s.key.length ++ (s.key ++ p)) := by
    rw [KeyShare.octets,vec16,List.append_assoc,List.append_assoc]
  have second {k : Nat → Parser Unit} {r : Registers} : (ldrh (s.octets ++ p) 2 >>= k) r = k s.key.length r := by
    rw [shape,ldrh_run (UInt8.ofNat (s.key.length / 256)) (UInt8.ofNat s.key.length) rfl rfl,u16_value length]
  have first {k : Nat → Parser Unit} {r : Registers} : (ldrh (s.octets ++ p) 0 >>= k) r = k s.group r := by
    rw [shape,ldrh_u16 group]
  rw [s.length_octets,ksScan,if_neg (by omega),if_neg (by omega),first,second]
  dsimp only
  rw [dif_neg (by omega),behind,Nat.add_sub_cancel_left]
  by_cases own : s.group = x25519Group
  · have size := proper own
    have key : ((s.octets ++ p).drop 4).take 32 = s.key := by rw [← size,shape]; exact List.take_left
    have there : 32 ≤ ((s.octets ++ p).drop 4).length := by
      rw [List.length_drop,List.length_append,s.length_octets]
      omega
    rw [if_pos own,KeyShare.effect,if_pos own,refuseIf_run (not_not.mpr size),ldrn_run there,key]
    exact (bind_run rfl).trans (bind_run rfl)
  · rw [if_neg own,KeyShare.effect,if_neg own]

theorem ksScan_run (p : Cursor) : ∀ {list : List KeyShare} {r : Registers},
    (∀ s ∈ list, s.group < 65536 ∧ s.key.length < 65536 ∧ (s.group = x25519Group → s.key.length = 32)) →
      ksScan (list.flatMap KeyShare.octets ++ p) (list.flatMap KeyShare.octets).length r =
      .ok () (list.foldl KeyShare.effect r) := by
  intro list
  induction list with
  | nil => exact fun _ => by rw [ksScan]; rfl
  | cons s list ih =>
    intro r framed
    obtain ⟨⟨group,length,proper⟩,others⟩ := List.forall_mem_cons.mp framed
    rw [List.flatMap_cons,List.append_assoc,List.length_append,ksScan_entry group length proper]
    exact ih others

theorem toNat_ofNat8 {n : Nat} (small : n < 256) : (UInt8.ofNat n).toNat = n := by
  rw [UInt8.toNat_ofNat']
  exact Nat.mod_eq_of_lt small

/-- One name. -/
theorem alpnScan_entry {name : List UInt8} (length : name.length < 256) (p : Cursor) (n : Nat) (r : Registers) :
    alpnScan (vec8 name ++ p) ((vec8 name).length + n) r =
      alpnScan p n (if name = ascii "h2" then { r with x11 := { r.x11 with alpn := true } } else r) := by
  have behind : (vec8 name ++ p).drop (name.length + 1) = p := List.drop_left
  have h2 : ascii "h2" = ['h'.toUInt8,'2'.toUInt8] := by decide
  rw [show (vec8 name).length = name.length + 1 from rfl,alpnScan,if_neg (by omega),vec8,List.cons_append,
    ldrb_run (UInt8.ofNat name.length) rfl]
  dsimp only
  rw [toNat_ofNat8 length,dif_neg (by omega),← List.cons_append,← vec8,behind,Nat.add_sub_cancel_left]
  by_cases two : name.length = 2
  · obtain ⟨a,b,rfl⟩ := List.length_eq_two.mp two
    rw [if_pos (show UInt8.ofNat [a,b].length = 2 from rfl),vec8,ldrb_run a rfl,ldrb_run b rfl,h2]
    by_cases same : a = 'h'.toUInt8 ∧ b = '2'.toUInt8
    · rw [if_pos same,if_pos (by rw [same.1,same.2])]
      exact bind_run rfl
    · rw [if_neg same,if_neg (by rintro ⟨⟩; exact same ⟨rfl,rfl⟩)]
  · have other : name ≠ ascii "h2" := fun same => two (by rw [same,h2]; rfl)
    have unlike : UInt8.ofNat name.length ≠ 2 := fun same => two (by rw [← toNat_ofNat8 length,same]; rfl)
    rw [if_neg unlike,if_neg other]

theorem alpnScan_run (p : Cursor) : ∀ {list : List (List UInt8)} {r : Registers}, (∀ name ∈ list, name.length < 256) →
    alpnScan (list.flatMap vec8 ++ p) (list.flatMap vec8).length r =
      .ok () (if ascii "h2" ∈ list then { r with x11 := { r.x11 with alpn := true } } else r) := by
  intro list
  induction list with
  | nil => exact fun _ => by rw [alpnScan]; rfl
  | cons name list ih =>
    intro r framed
    obtain ⟨length,others⟩ := List.forall_mem_cons.mp framed
    rw [List.flatMap_cons,List.append_assoc,List.length_append,alpnScan_entry length,ih others]
    by_cases same : name = ascii "h2"
    · rw [if_pos same,if_pos (List.mem_cons.mpr (.inl same.symm))]
      split <;> rfl
    · simp [same,Ne.symm same]

/-! ### The extensions -/

section
variable {β : Type} {r : Registers} (p : Cursor)

/-- The data of an extension is one list. -/
theorem listLength_run {list : List UInt8} (size : (vec16 list).length < 65536) {k : Nat → Parser β} :
    (listLength (vec16 list ++ p) (vec16 list).length >>= k) r = k list.length r := by
  rw [vec16_length] at size
  refine bind_run ?_
  rw [listLength,vec16_length,refuseIf_run (by omega),vec16,List.append_assoc,ldrh_u16 (by omega),
    refuseIf_run (not_not.mpr rfl)]
  rfl

theorem drop_vec16 (list : List UInt8) : (vec16 list ++ p).drop 2 = list ++ p := rfl

theorem extVersions_run {list : List Nat} (framed : (Extension.versions list).Framed) :
    extVersions ((Extension.versions list).data ++ p) (Extension.versions list).data.length r =
      .ok () (Extension.effect r (.versions list)) := by
  obtain ⟨_,full,short,small⟩ := framed
  have count := length_flatMap_u16 list
  have some : 0 < list.length := List.length_pos_of_ne_nil full
  rw [Extension.data,vec8,List.length_cons,extVersions,refuseIf_run (by omega),List.cons_append,
    ldrb_run (UInt8.ofNat (list.flatMap u16).length) rfl,toNat_ofNat8 (by omega),refuseIf_run (not_not.mpr rfl),
    refuseIf_run (by omega),count,show 2 * list.length / 2 = list.length by omega]
  exact @scan_run 0x0304 (fun f => { f with tls13 := true }) (fun _ => rfl) p _ _ small

theorem extGroups_run {list : List Nat} (framed : (Extension.groups list).Framed) :
    extGroups ((Extension.groups list).data ++ p) (Extension.groups list).data.length r =
      .ok () (Extension.effect r (.groups list)) := by
  obtain ⟨size,small⟩ := framed
  rw [Extension.data] at size ⊢
  have count := length_flatMap_u16 list
  rw [extGroups,listLength_run p size,refuseIf_run (by omega),count,show 2 * list.length / 2 = list.length by omega,
    drop_vec16]
  exact @scan_run x25519Group (fun f => { f with group := true }) (fun _ => rfl) p _ _ small

theorem extKeyshare_run {list : List KeyShare} (framed : (Extension.shares list).Framed) :
    extKeyshare ((Extension.shares list).data ++ p) (Extension.shares list).data.length r =
      .ok () (Extension.effect r (.shares list)) := by
  obtain ⟨size,framed⟩ := framed
  rw [Extension.data] at size ⊢
  rw [extKeyshare,listLength_run p size,drop_vec16]
  exact ksScan_run p framed

theorem extAlpn_run {list : List (List UInt8)} (framed : (Extension.protocols list).Framed) :
    extAlpn ((Extension.protocols list).data ++ p) (Extension.protocols list).data.length r =
      .ok () (Extension.effect r (.protocols list)) := by
  obtain ⟨size,framed⟩ := framed
  rw [Extension.data] at size ⊢
  rw [extAlpn,listLength_run p size,drop_vec16]
  exact alpnScan_run p framed

theorem ServerName.length_octets (n : ServerName) : n.octets.length = 3 + n.name.length := by
  rw [ServerName.octets,List.length_cons,vec16_length]
  omega

theorem extSni_run {list : List ServerName} {rest : List UInt8} (framed : (Extension.names list rest).Framed) :
    extSni ((Extension.names list rest).data ++ p) (Extension.names list rest).data.length r =
      .ok () (Extension.effect r (.names list rest)) := by
  obtain ⟨size,short,ended⟩ := framed
  rw [Extension.data] at size ⊢
  rw [extSni,listLength_run p size,drop_vec16]
  cases list with
  | nil =>
    rw [ended rfl]
    rfl
  | cons n list =>
    have length := short n (List.mem_cons_self ..)
    have count := n.length_octets
    rw [List.flatMap_cons,List.append_assoc,List.append_assoc,List.length_append,count,if_neg (by omega),
      refuseIf_run (by omega)]
    generalize list.flatMap ServerName.octets ++ rest = tail
    have shape : n.octets ++ (tail ++ p) = n.type :: (u16 n.name.length ++ (n.name ++ (tail ++ p))) := by
      rw [ServerName.octets,vec16,List.cons_append,List.append_assoc]
    have name : (n.octets ++ (tail ++ p)).drop 3 = n.name ++ (tail ++ p) := by rw [shape]; rfl
    rw [ldrb_run n.type rfl,ldrh_run (UInt8.ofNat (n.name.length / 256)) (UInt8.ofNat n.name.length)
      (by rw [shape]; rfl) (by rw [shape]; rfl),u16_value length,refuseIf_run (by omega),name]
    by_cases host : n.type = 0
    · rw [if_pos host,Extension.effect,if_pos host]
      refine (bind_run rfl).trans ?_
      by_cases same : n.name = hostname
      · rw [if_pos (congrArg List.length same),ldrn_run (by simp),List.take_left,if_pos same,decide_eq_true same,
          Bool.or_true]
        rfl
      · rw [decide_eq_false same,Bool.or_false]
        by_cases long : n.name.length = hostname.length
        · rw [if_pos long,ldrn_run (by simp),List.take_left,if_neg same]
          rfl
        · rw [if_neg long]
          rfl
    · rw [if_neg host,Extension.effect,if_neg host]
      rfl

theorem extension_run {e : Extension} (framed : e.Framed) :
    extension e.type (e.data ++ p) e.data.length r = .ok () (Extension.effect r e) := by
  cases e with
  | versions list => exact extVersions_run p framed
  | groups list => exact extGroups_run p framed
  | shares list => exact extKeyshare_run p framed
  | protocols list => exact extAlpn_run p framed
  | names list rest => exact extSni_run p framed
  | other type data =>
    obtain ⟨_,_,unknown⟩ := framed
    simp only [interpreted,List.mem_cons,List.not_mem_nil,or_false,not_or] at unknown
    obtain ⟨versions,groups,shares,protocols,names⟩ := unknown
    rw [extension,Extension.type,if_neg versions,if_neg groups,if_neg shares,if_neg protocols,if_neg names]
    rfl

end

theorem Extension.Framed.type_small {e : Extension} (framed : e.Framed) : e.type < 65536 := by
  cases e with
  | other type data => exact framed.2.1
  | _ =>
    rw [Extension.type]
    decide

theorem Extension.length_octets (e : Extension) : e.octets.length = 4 + e.data.length := by
  rw [Extension.octets,List.length_append,length_u16,vec16_length]
  omega

theorem extLoop_run : ∀ {list : List Extension} {r : Registers}, (∀ e ∈ list, e.Framed) →
    extLoop (list.flatMap Extension.octets) r = .ok () (list.foldl Extension.effect r) := by
  intro list
  induction list with
  | nil => exact fun _ => by rw [extLoop]; rfl
  | cons e list ih =>
    intro r framed
    obtain ⟨first,others⟩ := List.forall_mem_cons.mp framed
    have count := e.length_octets
    rw [List.flatMap_cons]
    generalize list.flatMap Extension.octets = p at ih ⊢
    have whole : (e.octets ++ p).length = 4 + e.data.length + p.length := by rw [List.length_append,count]
    have shape : e.octets ++ p = u16 e.type ++ (u16 e.data.length ++ (e.data ++ p)) := by
      rw [Extension.octets,vec16,List.append_assoc,List.append_assoc]
    have data : (e.octets ++ p).drop 4 = e.data ++ p := by rw [shape]; rfl
    have length {k : Nat → Parser Unit} : (ldrh (e.octets ++ p) 2 >>= k) r = k e.data.length r := by
      rw [shape,ldrh_run (UInt8.ofNat (e.data.length / 256)) (UInt8.ofNat e.data.length) rfl rfl,u16_value first.1]
    have type {k : Nat → Parser Unit} : (ldrh (e.octets ++ p) 0 >>= k) r = k e.type r := by
      rw [shape,ldrh_u16 first.type_small]
    rw [extLoop,if_neg (List.ne_nil_of_length_pos (by omega)),dif_neg (by omega),type,length,
      data,refuseIf_run (by rw [List.length_append]; omega),bind_run (extension_run p first),List.drop_left]
    exact ih others

/-! ### The message -/

section
variable {β : Type} {r : Registers} (p : Cursor)

theorem length_u64 (n : Nat) : (u64 n).length = 8 := by rw [u64,List.length_map,List.length_range]

theorem sessionId_run {id : List UInt8} (short : id.length ≤ 32) {k : Cursor → Parser β} :
    (sessionId (vec8 id ++ p) >>= k) r = k p
      ⟨r.x11,blit (blit r.state 440 (ofBytes (u64 id.length)) (u64 id.length).length) 448 (ofBytes id) id.length⟩ := by
  refine bind_run ?_
  have behind : (vec8 id ++ p).drop 1 = id ++ p := rfl
  rw [sessionId,ldrb_run (UInt8.ofNat id.length) rfl,toNat_ofNat8 (by omega),behind]
  rw [refuseIf_run (by omega),refuseIf_run (by rw [List.length_append]; omega)]
  refine (bind_run rfl).trans ?_
  rw [ldrn_run (by rw [List.length_append]; omega),List.take_left,List.drop_left]
  rfl

theorem cipherSuites_run {suites : List Nat} (full : suites ≠ []) (short : suites.length < 32768)
    (small : ∀ s ∈ suites, s < 65536)
    {k : Cursor → Parser β} : (cipherSuites (vec16 (suites.flatMap u16) ++ p) >>= k) r =
      k p (if 0x1301 ∈ suites then { r with x11 := { r.x11 with cipher := true } } else r) := by
  refine bind_run ?_
  have count := length_flatMap_u16 suites
  have some : 0 < suites.length := List.length_pos_of_ne_nil full
  have length := vec16_length (suites.flatMap u16)
  rw [cipherSuites,refuseIf_run (by rw [List.length_append]; omega),vec16,List.append_assoc,ldrh_u16 (by omega)]
  have behind : (u16 (suites.flatMap u16).length ++ (suites.flatMap u16 ++ p)).drop 2 = suites.flatMap u16 ++ p := rfl
  rw [behind]
  dsimp only
  rw [refuseIf_run (by omega),refuseIf_run (by omega),refuseIf_run (by rw [List.length_append]; omega),List.drop_left]
  rw [count,show 2 * suites.length / 2 = suites.length by omega,csScan]
  exact (bind_run (@scan_run 0x1301 (fun f => { f with cipher := true }) (fun _ => rfl) p _ _ small)).trans rfl

theorem compressionMethods_run {k : Cursor → Parser β} : (compressionMethods (vec8 [0] ++ p) >>= k) r = k p r := by
  refine bind_run ?_
  rw [compressionMethods,refuseIf_run (show vec8 [0] ++ p ≠ [] from List.cons_ne_nil _ _),ldrb_run 1 rfl]
  rw [refuseIf_run (by simp [vec8]),refuseIf_run (by decide),ldrb_run 0 rfl,refuseIf_run (by decide)]
  rfl

theorem extensions_run {there : Option (List Extension)}
    (framed : ∀ list, there = some list → (list.flatMap Extension.octets).length < 65536 ∧ ∀ e ∈ list, e.Framed) :
    extensions (there.elim [] fun list => vec16 (list.flatMap Extension.octets)) r =
      .ok () ((there.getD []).foldl Extension.effect r) := by
  cases there with
  | none => rfl
  | some list =>
    obtain ⟨small,framed⟩ := framed list rfl
    have length := vec16_length (list.flatMap Extension.octets)
    dsimp only [Option.elim,Option.getD]
    rw [extensions,if_neg (List.ne_nil_of_length_pos (by omega)),refuseIf_run (by omega),vec16,ldrh_u16 small]
    have behind : (u16 (list.flatMap Extension.octets).length ++ list.flatMap Extension.octets).drop 2 =
        list.flatMap Extension.octets := rfl
    rw [behind]
    rw [refuseIf_run (not_not.mpr rfl)]
    exact extLoop_run framed

end

/-- A message that is laid out is gone through to its end. -/
theorem fields_run {h : ClientHello} (framed : h.Framed) (null : h.compression = [0]) (r : Registers) :
    fields h.octets r = .ok () (h.effect r) := by
  have random := framed.random
  obtain ⟨full,short,small⟩ := framed.suites
  have size : 35 ≤ h.octets.length := by
    have count := length_flatMap_u16 h.suites
    rw [ClientHello.octets,List.length_append,List.length_append,List.length_append,random,length_u16,vec8,
      List.length_cons]
    omega
  rw [fields,refuseIf_run (by omega),ClientHello.octets]
  have body : (u16 h.version ++ (h.random ++ (vec8 h.sessionId ++ (vec16 (h.suites.flatMap u16) ++ (vec8 h.compression ++
      h.extensions.elim [] fun list => vec16 (list.flatMap Extension.octets)))))).drop 2 =
        h.random ++ (vec8 h.sessionId ++
        (vec16 (h.suites.flatMap u16) ++
          (vec8 h.compression ++ h.extensions.elim [] fun list => vec16 (list.flatMap Extension.octets)))) :=
    rfl
  rw [body]
  have there {p : List UInt8} : 32 ≤ (h.random ++ p).length := by
    rw [List.length_append]
    omega
  rw [ldrn_run there,← random,List.take_left,List.drop_left]
  refine (bind_run rfl).trans ?_
  rw [sessionId_run _ framed.sessionId,cipherSuites_run _ full short small,null,compressionMethods_run]
  refine (extensions_run framed.extensions).trans ?_
  rw [ClientHello.effect]
  split <;> rfl

/-! ### What is read is laid out -/

/-- What the parser may write. -/
def writable : List (Nat × Nat) := [(16,32),(80,32),(416,8),(424,2),(440,8),(448,32)]

/-- From the registers the parser reads nothing outside and writes only what it may; where it goes
    on, what it has come to has a property. -/
def Walks {α : Type} (x : Parser α) (r : Registers) (Q : α → Prop) : Prop :=
  match x r with
  | .ok a r' => ChangesOnly writable r.state r'.state ∧ Q a
  | .error (.alert _) r' => ChangesOnly writable r.state r'.state
  | .error .outside _ => False

section
variable {α β : Type} {r : Registers} {Q : β → Prop}

theorem Walks.pure {b : β} (q : Q b) : Walks (pure b) r Q := ⟨ChangesOnly.refl _ _,q⟩

theorem Walks.refuse (a : Alert) : Walks (refuse a) r Q := ChangesOnly.refl writable r.state

theorem Walks.bind {P : α → Prop} {x : Parser α} {k : α → Parser β} (first : Walks x r P)
    (rest : ∀ a r', P a → Walks (k a) r' Q) : Walks (x >>= k) r Q := by
  have unfold : (x >>= k) r = EStateM.bind x k r := rfl
  rw [Walks] at first ⊢
  rw [unfold,EStateM.bind]
  cases run : x r with
  | error e r' =>
    rw [run] at first
    cases e with
    | alert a => exact first
    | outside => exact first
  | ok a r' =>
    rw [run] at first
    obtain ⟨changes,p⟩ := first
    have more := rest a r' p
    rw [Walks] at more
    dsimp only at more ⊢
    generalize k a r' = result at more ⊢
    cases result with
    | ok b r'' => exact ⟨changes.trans more.1,more.2⟩
    | error e r'' =>
      cases e with
      | alert a => exact changes.trans more
      | outside => exact more

theorem Walks.mono {P : β → Prop} {x : Parser β} (walks : Walks x r P) (weaker : ∀ b, P b → Q b) : Walks x r Q := by
  rw [Walks] at walks ⊢
  generalize x r = result at walks ⊢
  cases result with
  | ok b r' => exact ⟨walks.1,weaker b walks.2⟩
  | error e r' =>
    cases e with
    | alert a => exact walks
    | outside => exact walks

theorem Walks.refuseIf {c : Prop} [Decidable c] {a : Alert} {k : Unit → Parser β} (rest : ¬c → Walks (k ()) r Q) :
    Walks (refuseIf c a >>= k) r Q := by
  by_cases h : c
  · have stop : (Hello.refuseIf c a >>= k) r = Hello.refuse a r := by
      rw [Hello.refuseIf,if_pos h]
      rfl
    rw [Walks,stop]
    exact ChangesOnly.refl writable r.state
  · rw [Walks,refuseIf_run h]
    exact rest h

theorem Walks.ldrb {p : Cursor} {i : Nat} {k : UInt8 → Parser β} (there : i < p.length)
    (rest : ∀ octet, p[i]? = some octet → Walks (k octet) r Q) : Walks (ldrb p i >>= k) r Q := by
  obtain ⟨octet,found⟩ : ∃ octet, p[i]? = some octet := ⟨p[i],List.getElem?_eq_getElem there⟩
  rw [Walks,ldrb_run _ found]
  exact rest octet found

theorem Walks.ldrn {p : Cursor} {n : Nat} {k : List UInt8 → Parser β} (there : n ≤ p.length)
    (rest : Walks (k (p.take n)) r Q) : Walks (ldrn p n >>= k) r Q := by
  rw [Walks,ldrn_run there]
  exact rest

theorem Walks.setFlags (f : Flags → Flags) {k : Unit → Parser β} (rest : ∀ r', Walks (k ()) r' Q) :
    Walks (setFlags f >>= k) r Q :=
  Walks.bind (P := fun _ => True) ⟨ChangesOnly.refl _ _,trivial⟩ fun _ r' _ => rest r'

theorem Walks.put {at' : Nat} {octets : List UInt8} {k : Unit → Parser β}
    (may : ∃ w ∈ writable, w.1 ≤ at' ∧ at' + octets.length ≤ w.1 + w.2) (rest : ∀ r', Walks (k ()) r' Q) :
    Walks (put at' octets >>= k) r Q := by
  refine Walks.bind (P := fun _ => True) ⟨?_,trivial⟩ fun _ r' _ => rest r'
  intro i outside
  obtain ⟨w,member,low,high⟩ := may
  have out := outside w member
  exact blit_outside (by omega)

end

/-- Two octets are an integer, and laid out they are these. -/
theorem u16_octets (high low : UInt8) :
    u16 (high.toNat * 256 + low.toNat) = [high,low] ∧ high.toNat * 256 + low.toNat < 65536 := by
  have h := high.toNat_lt
  have l := low.toNat_lt
  have front : (high.toNat * 256 + low.toNat) / 256 = high.toNat := by omega
  have back : UInt8.ofNat (high.toNat * 256 + low.toNat) = low := by
    apply UInt8.toNat_inj.mp
    rw [UInt8.toNat_ofNat']
    omega
  rw [u16,front,back,UInt8.ofNat_toNat]
  exact ⟨rfl,by omega⟩

section
variable {β : Type} {r : Registers} {Q : β → Prop}

theorem Walks.ldrh {p : Cursor} {i : Nat} {k : Nat → Parser β} (there : i + 2 ≤ p.length)
    (rest : ∀ n, n < 65536 → (p.drop i).take 2 = u16 n → Walks (k n) r Q) : Walks (ldrh p i >>= k) r Q := by
  have inside : i < p.length := by omega
  have inside' : i + 1 < p.length := by omega
  have first : p[i]? = some p[i] := List.getElem?_eq_getElem inside
  have second : p[i+1]? = some p[i+1] := List.getElem?_eq_getElem inside'
  obtain ⟨laid,small⟩ := u16_octets p[i] p[i+1]
  rw [Walks,ldrh_run _ _ first second]
  refine rest _ small ?_
  rw [laid,List.drop_eq_getElem_cons inside,List.drop_eq_getElem_cons inside']
  rfl

end

theorem scan_walks (value : Nat) (found : Flags → Flags) : ∀ (n : Nat) (p : Cursor) (r : Registers), 2 * n ≤ p.length →
    Walks (scan value found p n) r fun _ => ∃ list :
    List Nat, list.length = n ∧ p.take (2 * n) = list.flatMap u16 ∧ ∀ v ∈ list, v < 65536 := by
  intro n
  induction n with
  | zero => exact fun _ _ _ => Walks.pure ⟨[],rfl,rfl,List.forall_mem_nil _⟩
  | succ n ih =>
    intro p r there
    rw [scan]
    refine Walks.ldrh (by omega) fun v small laid => ?_
    have more : ∀ r', Walks (scan value found (p.drop 2) n) r' fun _ => ∃ list : List Nat, list.length = n + 1 ∧
        p.take (2 * (n+1)) = list.flatMap u16 ∧ ∀ v ∈ list, v < 65536 := by
      intro r'
      refine (ih (p.drop 2) r' (by rw [List.length_drop]; omega)).mono ?_
      rintro _ ⟨list,count,rest,others⟩
      refine ⟨v :: list,by rw [List.length_cons,count],?_,List.forall_mem_cons.mpr ⟨small,others⟩⟩
      rw [show 2 * (n+1) = 2 + 2 * n by omega,List.take_add,rest,List.flatMap_cons,← laid]
      rfl
    dsimp only
    split
    · exact Walks.setFlags _ more
    · exact more r

theorem ksScan_walks : ∀ (n : Nat) (p : Cursor) (r : Registers), n ≤ p.length →
    Walks (ksScan p n) r fun _ => ∃ list : List KeyShare, p.take n = list.flatMap KeyShare.octets ∧
      ∀ s ∈ list, s.group < 65536 ∧ s.key.length < 65536 ∧ (s.group = x25519Group → s.key.length = 32) := by
  intro n
  induction n using Nat.strongRecOn with
  | ind n ih =>
    intro p r there
    rw [ksScan]
    by_cases ended : n = 0
    · rw [if_pos ended]
      exact Walks.pure ⟨[],by rw [ended]; rfl,List.forall_mem_nil _⟩
    rw [if_neg ended]
    by_cases short : n < 4
    · rw [if_pos short]
      exact Walks.refuse _
    rw [if_neg short]
    refine Walks.ldrh (by omega) fun group small laid => Walks.ldrh (by omega) fun length small' laid' => ?_
    dsimp only
    by_cases long : n < 4 + length
    · rw [dif_pos long]
      exact Walks.refuse _
    rw [dif_neg long]
    have key : ((p.drop 4).take length).length = length := List.length_take_of_le (by rw [List.length_drop]; omega)
    have more : (group = x25519Group → length = 32) → ∀ r', Walks (ksScan (p.drop (4+length)) (n-(4+length))) r' fun _ =>
        ∃ list : List KeyShare, p.take n = list.flatMap KeyShare.octets ∧
          ∀ s ∈ list, s.group < 65536 ∧ s.key.length < 65536 ∧ (s.group = x25519Group → s.key.length = 32) := by
      intro proper r'
      refine (ih _ (by omega) (p.drop (4+length)) r' (by rw [List.length_drop]; omega)).mono ?_
      rintro _ ⟨list,rest,others⟩
      refine ⟨⟨group,(p.drop 4).take length⟩ :: list,?_,
        List.forall_mem_cons.mpr ⟨⟨small,by rw [key]; exact small',?_⟩,others⟩⟩
      · obtain ⟨m,rfl⟩ := Nat.exists_eq_add_of_le (show 4 + length ≤ n by omega)
        rw [Nat.add_sub_cancel_left] at rest
        rw [List.take_add,rest,List.flatMap_cons,KeyShare.octets,vec16,key,← laid,← laid',List.take_add,
          List.take_add (j := 2)]
        simp only [List.append_assoc,List.drop_zero]
      · rw [key]
        exact proper
    split
    · next own =>
      refine Walks.refuseIf fun size => Walks.ldrn (by rw [List.length_drop]; omega) ?_
      refine Walks.put ⟨(80,32),by decide,Nat.le_refl _,?_⟩ fun r' => Walks.setFlags _ (more fun _ => not_not.mp size)
      rw [List.length_take,List.length_drop]
      dsimp only
      omega
    · next other => exact more (fun own => absurd own other) r

theorem alpnScan_walks : ∀ (n : Nat) (p : Cursor) (r : Registers), n ≤ p.length →
    Walks (alpnScan p n) r fun _ => ∃ list :
    List (List UInt8), p.take n = list.flatMap vec8 ∧ ∀ name ∈ list, name.length < 256 := by
  intro n
  induction n using Nat.strongRecOn with
  | ind n ih =>
    intro p r there
    rw [alpnScan]
    by_cases ended : n = 0
    · rw [if_pos ended]
      exact Walks.pure ⟨[],by rw [ended]; rfl,List.forall_mem_nil _⟩
    rw [if_neg ended]
    refine Walks.ldrb (by omega) fun length found => ?_
    dsimp only
    by_cases long : n < length.toNat + 1
    · rw [dif_pos long]
      exact Walks.refuse _
    rw [dif_neg long]
    have small := length.toNat_lt
    have name : ((p.drop 1).take length.toNat).length = length.toNat :=
      List.length_take_of_le (by rw [List.length_drop]; omega)
    have more : ∀ r', Walks (alpnScan (p.drop (length.toNat+1)) (n-(length.toNat+1))) r' fun _ =>
        ∃ list : List (List UInt8), p.take n = list.flatMap vec8 ∧ ∀ name ∈ list, name.length < 256 := by
      intro r'
      refine (ih _ (by omega) (p.drop (length.toNat+1)) r' (by rw [List.length_drop]; omega)).mono ?_
      rintro _ ⟨list,rest,others⟩
      refine ⟨(p.drop 1).take length.toNat :: list,?_,List.forall_mem_cons.mpr ⟨by rw [name]; exact small,others⟩⟩
      obtain ⟨m,rfl⟩ := Nat.exists_eq_add_of_le (show length.toNat + 1 ≤ n by omega)
      rw [Nat.add_sub_cancel_left] at rest
      rw [List.take_add,rest,List.flatMap_cons,vec8,name,UInt8.ofNat_toNat,Nat.add_comm,List.take_add]
      cases p with
      | nil => cases found
      | cons octet p =>
        cases found
        rfl
    split
    · next two =>
      have size : length.toNat = 2 := by rw [two]; rfl
      refine Walks.ldrb (by omega) fun _ _ => Walks.ldrb (by omega) fun _ _ => ?_
      split
      · exact Walks.setFlags _ more
      · exact more r
    · exact more r

/-! ### The extensions that are read -/

section
variable {β : Type} {r : Registers} {p : Cursor} {n : Nat} {Q : β → Prop}

theorem Walks.listLength (there : n ≤ p.length) {k : Nat → Parser β}
    (rest : ∀ w, w < 65536 → n = w + 2 → p.take n = vec16 ((p.drop 2).take w) → Walks (k w) r Q) :
    Walks (listLength p n >>= k) r Q := by
  have parts : (Hello.listLength p n >>= k) = Hello.refuseIf (n < 2) .decodeError >>= fun _ =>
    Hello.ldrh p 0 >>= fun w0 =>
      Hello.refuseIf (w0 + 2 ≠ n) .decodeError >>= fun _ => k w0 := by
    rw [Hello.listLength]
    simp only [bind_assoc,pure_bind]
  rw [parts]
  refine Walks.refuseIf fun full => Walks.ldrh (by omega) fun w small laid => Walks.refuseIf fun same => ?_
  have size : n = w + 2 := (not_not.mp same).symm
  refine rest w small size ?_
  have count : ((p.drop 2).take w).length = w := List.length_take_of_le (by rw [List.length_drop]; omega)
  rw [size,Nat.add_comm,List.take_add,vec16,count,← laid]
  rfl

/-- The extension whose data has been gone through. -/
def Laid (type : Nat) (data : List UInt8) (e : Extension) : Prop := e.Framed ∧ e.type = type ∧ e.data = data

theorem extVersions_walks (there : n ≤ p.length) (small : n < 65536) :
    Walks (extVersions p n) r fun _ => ∃ e, Laid 43 (p.take n) e := by
  rw [extVersions]
  refine Walks.refuseIf fun full => Walks.ldrb (by omega) fun length found => Walks.refuseIf fun size =>
    Walks.refuseIf fun even => ?_
  have bound := length.toNat_lt
  refine (scan_walks _ _ _ _ _ (by rw [List.length_drop]; omega)).mono ?_
  rintro _ ⟨list,count,laid,values⟩
  have whole : 2 * (length.toNat / 2) = length.toNat := by omega
  rw [whole] at laid
  have data : (Extension.versions list).data = p.take n := by
    have length' := length_flatMap_u16 list
    rw [Extension.data,vec8,← laid]
    rw [← laid] at length'
    cases p with
    | nil => cases found
    | cons octet p =>
      obtain rfl : octet = length := Option.some.inj found
      rw [length',count,whole,UInt8.ofNat_toNat,show n = 1 + octet.toNat by omega,List.take_add]
      rfl
  refine ⟨.versions list,⟨?_,?_,by omega,values⟩,rfl,data⟩
  · rw [data,List.length_take]
    omega
  · exact List.ne_nil_of_length_pos (by omega)

theorem extGroups_walks (there : n ≤ p.length) (small : n < 65536) :
    Walks (extGroups p n) r fun _ => ∃ e, Laid 10 (p.take n) e := by
  rw [extGroups]
  refine Walks.listLength there fun w _ size data => Walks.refuseIf fun even => ?_
  refine (scan_walks _ _ _ _ _ (by rw [List.length_drop]; omega)).mono ?_
  rintro _ ⟨list,count,laid,values⟩
  rw [show 2 * (w / 2) = w by omega] at laid
  rw [laid] at data
  refine ⟨.groups list,⟨?_,values⟩,rfl,data.symm⟩
  rw [Extension.data,← data,List.length_take]
  omega

theorem extKeyshare_walks (there : n ≤ p.length) (small : n < 65536) :
    Walks (extKeyshare p n) r fun _ => ∃ e, Laid 51 (p.take n) e := by
  rw [extKeyshare]
  refine Walks.listLength there fun w _ size data => ?_
  refine (ksScan_walks w _ _ (by rw [List.length_drop]; omega)).mono ?_
  rintro _ ⟨list,laid,framed⟩
  rw [laid] at data
  refine ⟨.shares list,⟨?_,framed⟩,rfl,data.symm⟩
  rw [Extension.data,← data,List.length_take]
  omega

theorem extAlpn_walks (there : n ≤ p.length) (small : n < 65536) :
    Walks (extAlpn p n) r fun _ => ∃ e, Laid 16 (p.take n) e := by
  rw [extAlpn]
  refine Walks.listLength there fun w _ size data => ?_
  refine (alpnScan_walks w _ _ (by rw [List.length_drop]; omega)).mono ?_
  rintro _ ⟨list,laid,framed⟩
  rw [laid] at data
  refine ⟨.protocols list,⟨?_,framed⟩,rfl,data.symm⟩
  rw [Extension.data,← data,List.length_take]
  omega

theorem extSni_walks (there : n ≤ p.length) (small : n < 65536) :
    Walks (extSni p n) r fun _ => ∃ e, Laid 0 (p.take n) e := by
  rw [extSni]
  refine Walks.listLength there fun w _ size data => ?_
  have whole : (p.take n).length = n := List.length_take_of_le there
  split
  · next empty =>
    refine Walks.pure ⟨.names [] [],⟨?_,List.forall_mem_nil _,fun _ => rfl⟩,rfl,?_⟩
    · exact (by decide : 2 < 65536)
    · rw [data,empty]
      rfl
  next full =>
  refine Walks.refuseIf fun three => Walks.ldrb (by rw [List.length_drop]; omega) fun type found =>
    Walks.ldrh (by rw [List.length_drop]; omega) fun length small' laid => Walks.refuseIf fun inside => ?_
  have entry : (p.drop 2).take w = (ServerName.mk type (((p.drop 2).drop 3).take length)).octets ++
      ((p.drop 2).drop (3+length)).take (w-(3+length)) := by
    have name : (((p.drop 2).drop 3).take length).length = length :=
      List.length_take_of_le (by rw [List.length_drop,List.length_drop]; omega)
    obtain ⟨m,rfl⟩ := Nat.exists_eq_add_of_le (show 3 + length ≤ w by omega)
    rw [List.take_add,Nat.add_sub_cancel_left,ServerName.octets,vec16,name,← laid]
    generalize p.drop 2 = q at found ⊢
    cases q with
    | nil => cases found
    | cons octet q =>
      obtain rfl : octet = type := Option.some.inj found
      rw [List.take_add (i := 3),List.take_add (i := 1) (j := 2)]
      rfl
  have done : ∃ e, Laid 0 (p.take n) e := by
    have name : (((p.drop 2).drop 3).take length).length < 65536 := by
      rw [List.length_take]
      omega
    refine ⟨.names [⟨type,((p.drop 2).drop 3).take length⟩] (((p.drop 2).drop (3+length)).take (w-(3+length))),
      ⟨?_,List.forall_mem_singleton.mpr name,nofun⟩,rfl,?_⟩
    all_goals rw [Extension.data,List.flatMap_cons,List.flatMap_nil,List.append_nil,← entry,← data]
    rw [whole]
    exact small
  split
  · refine Walks.setFlags _ fun r' => ?_
    split
    · refine Walks.ldrn (by rw [List.length_drop,List.length_drop]; omega) ?_
      split
      · exact ⟨ChangesOnly.refl _ _,done⟩
      · exact Walks.pure done
    · exact Walks.pure done
  · exact Walks.pure done

theorem extension_walks (there : n ≤ p.length) (small : n < 65536) {type : Nat} (low : type < 65536) :
    Walks (extension type p n) r fun _ => ∃ e, Laid type (p.take n) e := by
  rw [extension]
  split
  · next same => exact same ▸ extVersions_walks there small
  split
  · next same => exact same ▸ extGroups_walks there small
  split
  · next same => exact same ▸ extKeyshare_walks there small
  split
  · next same => exact same ▸ extAlpn_walks there small
  split
  · next same => exact same ▸ extSni_walks there small
  next versions groups shares protocols names =>
  have whole : (p.take n).length = n := List.length_take_of_le there
  refine Walks.pure ⟨.other type (p.take n),⟨by rw [Extension.data,whole]; exact small,low,?_⟩,rfl,rfl⟩
  simp only [interpreted,List.mem_cons,List.not_mem_nil,or_false,not_or]
  exact ⟨versions,groups,shares,protocols,names⟩

end

theorem extLoop_walks (p : Cursor) (r : Registers) :
    Walks (extLoop p) r fun _ => ∃ list : List Extension, p = list.flatMap Extension.octets ∧ ∀ e ∈ list, e.Framed := by
  induction h : p.length using Nat.strongRecOn generalizing p r with
  | ind n ih =>
    subst h
    rw [extLoop]
    by_cases ended : p = []
    · rw [if_pos ended]
      exact Walks.pure ⟨[],ended,List.forall_mem_nil _⟩
    rw [if_neg ended]
    by_cases short : p.length < 4
    · rw [dif_pos short]
      exact Walks.refuse _
    rw [dif_neg short]
    refine Walks.ldrh (by omega) fun type low laid => Walks.ldrh (by omega) fun length small laid' =>
      Walks.refuseIf fun inside => ?_
    refine (extension_walks (by omega) small low).bind fun _ r' found => ?_
    obtain ⟨e,framed,rfl,data⟩ := found
    have count : ((p.drop 4).take length).length = length := List.length_take_of_le (by omega)
    refine (ih _ ?_ _ r' rfl).mono ?_
    · rw [List.length_drop,List.length_drop]
      omega
    rintro _ ⟨list,rest,others⟩
    refine ⟨e :: list,?_,List.forall_mem_cons.mpr ⟨framed,others⟩⟩
    have header : p = p.take 2 ++ ((p.drop 2).take 2 ++ p.drop 4) := by
      rw [← List.drop_drop (i := 2) (j := 2),List.take_append_drop,List.take_append_drop]
    rw [List.flatMap_cons,← rest,Extension.octets,vec16,data,count,← laid,← laid',List.append_assoc,List.append_assoc,
      List.take_append_drop]
    exact header

/-! ### The message that is read -/

section
variable {r : Registers} {p : Cursor}

theorem sessionId_walks (there : 0 < p.length) :
    Walks (sessionId p) r fun q => ∃ id : List UInt8, id.length ≤ 32 ∧ p = vec8 id ++ q := by
  rw [sessionId]
  refine Walks.ldrb there fun length found => Walks.refuseIf fun short => Walks.refuseIf fun inside => ?_
  refine Walks.put ⟨(440,8),by decide,Nat.le_refl _,Nat.le_of_eq (by rw [length_u64])⟩ fun r' => Walks.ldrn (by omega) ?_
  have count : ((p.drop 1).take length.toNat).length = length.toNat := List.length_take_of_le (by omega)
  refine Walks.put ⟨(448,32),by decide,Nat.le_refl _,by rw [count]; dsimp only; omega⟩ fun r' => ?_
  refine Walks.pure ⟨(p.drop 1).take length.toNat,by rw [count]; omega,?_⟩
  rw [vec8,count,UInt8.ofNat_toNat,List.cons_append,List.take_append_drop]
  cases p with
  | nil => cases found
  | cons octet p =>
    cases found
    rfl

theorem cipherSuites_walks : Walks (cipherSuites p) r fun q =>
    ∃ suites : List Nat, (suites ≠ [] ∧ suites.length < 32768 ∧ ∀ s ∈ suites, s < 65536) ∧
    p = vec16 (suites.flatMap u16) ++ q := by
  rw [cipherSuites]
  refine Walks.refuseIf fun two => Walks.ldrh (by omega) fun length small laid => Walks.refuseIf fun some =>
    Walks.refuseIf fun even => Walks.refuseIf fun inside => ?_
  refine (scan_walks _ _ _ _ _ (by omega)).bind fun _ r' found => ?_
  obtain ⟨suites,count,octets,values⟩ := found
  have size := length_flatMap_u16 suites
  rw [show 2 * (length / 2) = length by omega] at octets
  refine Walks.pure ⟨suites,⟨List.ne_nil_of_length_pos (by omega),by omega,values⟩,?_⟩
  rw [vec16,size,count,show 2 * (length / 2) = length by omega,← octets,← laid,List.append_assoc,List.take_append_drop]
  exact (List.take_append_drop 2 p).symm

theorem compressionMethods_walks : Walks (compressionMethods p) r fun q => p = vec8 [0] ++ q := by
  rw [compressionMethods]
  refine Walks.refuseIf fun full => ?_
  have some : 0 < p.length := List.length_pos_of_ne_nil full
  refine Walks.ldrb some fun length found => Walks.refuseIf fun inside => Walks.refuseIf fun one => ?_
  rw [not_not] at one
  refine Walks.ldrb (by omega) fun method zero => Walks.refuseIf fun null => Walks.pure ?_
  cases p with
  | nil => cases found
  | cons octet p =>
    cases p with
    | nil => cases zero
    | cons next p =>
      obtain rfl : octet = length := Option.some.inj found
      obtain rfl : next = 0 := (Option.some.inj zero).trans (not_not.mp null)
      obtain rfl : octet = 1 := UInt8.toNat_inj.mp one
      rfl

theorem extensions_walks : Walks (extensions p) r fun _ => ∃ there : Option (List Extension),
    (∀ list, there = some list → (list.flatMap Extension.octets).length < 65536 ∧ ∀ e ∈ list, e.Framed) ∧
      p = there.elim [] fun list => vec16 (list.flatMap Extension.octets) := by
  rw [extensions]
  split
  · next ended => exact Walks.pure ⟨none,nofun,ended⟩
  refine Walks.refuseIf fun two => Walks.ldrh (by omega) fun length small laid => Walks.refuseIf fun fills => ?_
  refine (extLoop_walks (p.drop 2) r).mono ?_
  rintro _ ⟨list,octets,framed⟩
  have size : (list.flatMap Extension.octets).length = length := by
    rw [← octets]
    exact not_not.mp fills
  refine ⟨some list,?_,?_⟩
  · rintro _ ⟨⟩
    exact ⟨by omega,framed⟩
  · rw [Option.elim,vec16,size,← octets,← laid]
    exact (List.take_append_drop 2 p).symm

end

/-- Whatever is gone through to its end is laid out. -/
theorem fields_walks (body : Cursor) (r : Registers) :
    Walks (fields body) r fun _ => ∃ h : ClientHello, h.Framed ∧ h.compression = [0] ∧ body = h.octets := by
  rw [fields]
  refine Walks.refuseIf fun long => Walks.ldrn (by rw [List.length_drop]; omega) ?_
  have random : ((body.drop 2).take 32).length = 32 := List.length_take_of_le (by rw [List.length_drop]; omega)
  refine Walks.put ⟨(16,32),by decide,Nat.le_refl _,Nat.le_of_eq (by rw [random])⟩ fun r' => ?_
  refine (sessionId_walks (by rw [List.length_drop,List.length_drop]; omega)).bind fun p₁ r₁ found => ?_
  obtain ⟨id,short,first⟩ := found
  refine cipherSuites_walks.bind fun p₂ r₂ found => ?_
  obtain ⟨suites,offered,second⟩ := found
  refine compressionMethods_walks.bind fun p₃ r₃ third => ?_
  refine extensions_walks.mono ?_
  rintro _ ⟨there,framed,last⟩
  obtain ⟨version,low,front⟩ : ∃ version, version < 65536 ∧ body.take 2 = u16 version := by
    have two : 2 ≤ body.length := by omega
    obtain ⟨a,b,rest,rfl⟩ : ∃ a b rest, body = a :: b :: rest := by
      rcases body with _ | ⟨a,_ | ⟨b,rest⟩⟩
      · exact absurd two (by simp)
      · exact absurd two (by simp)
      · exact ⟨a,b,rest,rfl⟩
    exact ⟨_,(u16_octets a b).2,(u16_octets a b).1.symm⟩
  refine ⟨⟨version,(body.drop 2).take 32,id,suites,[0],there⟩,
    ⟨low,random,short,offered,show 1 < 256 by decide,framed⟩,rfl,?_⟩
  rw [ClientHello.octets]
  dsimp only
  rw [← last,← third,← second,← first,List.take_append_drop,← front,List.take_append_drop]

/-! ### The requirements -/

/-- Nothing that is asked for is missing, and a host name that has been seen matched. -/
structure Flags.Enough (f : Flags) : Prop where
  tls13 : f.tls13 = true
  cipher : f.cipher = true
  group : f.group = true
  keyshare : f.keyshare = true
  alpn : f.alpn = true
  name : f.sniSeen = true → f.sniMatch = true

/-- The protocol is recorded. -/
def agreed (r : Registers) : Registers := ⟨r.x11,blit (blit r.state 416 (ofBytes (u64 2)) 8) 424 (ofBytes (ascii "h2")) 2⟩

theorem refuseIf_stops {β : Type} {r : Registers} {c : Prop} [Decidable c] {a : Alert} {k : Unit → Parser β} (bad : c) :
    (refuseIf c a >>= k) r = .error (.alert a) r := by
  change EStateM.bind (refuseIf c a) k r = _
  rw [EStateM.bind,refuseIf,if_pos bad]
  rfl

theorem requirements_eq (r : Registers) :
    (r.x11.Enough ∧ requirements r = .ok () (agreed r)) ∨
    (¬r.x11.Enough ∧ ∃ a, requirements r = .error (.alert a) r) := by
  have start {k : Registers → Parser Unit} : (get >>= k) r = k r r := bind_run rfl
  rw [requirements,start]
  by_cases tls13 : r.x11.tls13 = false
  · exact .inr ⟨fun enough => Bool.false_ne_true (tls13.symm.trans enough.tls13),_,refuseIf_stops tls13⟩
  rw [refuseIf_run tls13]
  by_cases cipher : r.x11.cipher = false
  · exact .inr ⟨fun enough => Bool.false_ne_true (cipher.symm.trans enough.cipher),_,refuseIf_stops cipher⟩
  rw [refuseIf_run cipher]
  by_cases shared : r.x11.group = false ∨ r.x11.keyshare = false
  · refine .inr ⟨fun enough => ?_,_,refuseIf_stops shared⟩
    rw [enough.group,enough.keyshare] at shared
    simp at shared
  rw [refuseIf_run shared]
  by_cases alpn : r.x11.alpn = false
  · exact .inr ⟨fun enough => Bool.false_ne_true (alpn.symm.trans enough.alpn),_,refuseIf_stops alpn⟩
  rw [refuseIf_run alpn]
  by_cases name : r.x11.sniSeen = true ∧ r.x11.sniMatch = false
  · refine .inr ⟨fun enough => ?_,_,refuseIf_stops name⟩
    rw [enough.name name.1] at name
    cases name.2
  rw [refuseIf_run name]
  simp only [not_or,Bool.not_eq_false,not_and] at tls13 cipher shared alpn name
  exact .inl ⟨⟨tls13,cipher,shared.1,shared.2,alpn,name⟩,rfl⟩

theorem agreed_changes (r : Registers) : ChangesOnly [(416,8),(424,2)] r.state (agreed r).state := by
  intro i outside
  have length := outside (416,8) (by simp)
  have name := outside (424,2) (by simp)
  exact (blit_outside name).trans (blit_outside length)

/-! ### The flags -/

def Flags.join (f g : Flags) : Flags :=
  ⟨f.tls13 || g.tls13,f.cipher || g.cipher,f.group || g.group,f.keyshare || g.keyshare,f.alpn || g.alpn,
    f.sniSeen || g.sniSeen,f.sniMatch || g.sniMatch⟩

/-- What an extension sets. -/
def Extension.flags : Extension → Flags
  | .versions list => { noFlags with tls13 := 0x0304 ∈ list }
  | .groups list => { noFlags with group := x25519Group ∈ list }
  | .shares list => { noFlags with keyshare := ∃ s ∈ list, s.group = x25519Group }
  | .protocols list => { noFlags with alpn := ascii "h2" ∈ list }
  | .names (n :: _) _ => { noFlags with sniSeen := n.type = 0,sniMatch := n.type = 0 ∧ n.name = hostname }
  | .names [] _ => noFlags
  | .other _ _ => noFlags

theorem join_noFlags (f : Flags) : f.join noFlags = f := by simp [Flags.join,noFlags]

theorem shares_x11 (list : List KeyShare) (r : Registers) :
    (list.foldl KeyShare.effect r).x11 = r.x11.join (Extension.flags (.shares list)) := by
  induction list generalizing r with
  | nil => exact (join_noFlags r.x11).symm
  | cons s list ih =>
    rw [List.foldl_cons,ih,KeyShare.effect]
    split <;> simp [*,Flags.join,Extension.flags,noFlags]

theorem effect_x11 (r : Registers) (e : Extension) : (Extension.effect r e).x11 = r.x11.join e.flags := by
  cases e with
  | versions list | groups list | protocols list =>
    rw [Extension.effect,Extension.flags]
    split <;> simp [*,Flags.join,noFlags]
  | shares list => exact shares_x11 list r
  | names list rest =>
    cases list with
    | nil => exact (join_noFlags r.x11).symm
    | cons n list =>
      rw [Extension.effect,Extension.flags]
      split <;> simp [*,Flags.join,noFlags]
  | other type data => exact (join_noFlags r.x11).symm

/-- A flag is set that was set before or that an extension sets. -/
theorem fold_flag {flag : Flags → Bool} (joins : ∀ f g, flag (f.join g) = (flag f || flag g))
    (list : List Extension) (r : Registers) :
    flag (list.foldl Extension.effect r).x11 = true ↔ flag r.x11 = true ∨ ∃ e ∈ list, flag e.flags = true := by
  induction list generalizing r with
  | nil => simp
  | cons e list ih => simp [ih,effect_x11,joins,or_assoc]

theorem ClientHello.Framed.of_mem {h : ClientHello} (framed : h.Framed) {e : Extension} (there : e ∈ h.list) :
    e.Framed := by
  rw [ClientHello.list] at there
  cases list : h.extensions with
  | none => rw [list] at there; cases there
  | some exts => exact (framed.extensions exts list).2 e (by rwa [list] at there)

section
variable (e : Extension)

theorem flags_tls13 : e.flags.tls13 = true ↔ ∃ list, e = .versions list ∧ 0x0304 ∈ list := by
  rcases e with _ | _ | _ | _ | ⟨_ | _,_⟩ | _ <;> simp [Extension.flags,noFlags]

theorem flags_group : e.flags.group = true ↔ ∃ list, e = .groups list ∧ x25519Group ∈ list := by
  rcases e with _ | _ | _ | _ | ⟨_ | _,_⟩ | _ <;> simp [Extension.flags,noFlags]

theorem flags_keyshare : e.flags.keyshare = true ↔ ∃ list, e = .shares list ∧ ∃ s ∈ list, s.group = x25519Group := by
  rcases e with _ | _ | _ | _ | ⟨_ | _,_⟩ | _ <;> simp [Extension.flags,noFlags]

theorem flags_alpn : e.flags.alpn = true ↔ ∃ list, e = .protocols list ∧ ascii "h2" ∈ list := by
  rcases e with _ | _ | _ | _ | ⟨_ | _,_⟩ | _ <;> simp [Extension.flags,noFlags]

theorem flags_sniSeen : e.flags.sniSeen = true ↔ ∃ n list rest, e = .names (n :: list) rest ∧ n.type = 0 := by
  rcases e with _ | _ | _ | _ | ⟨_ | _,_⟩ | _ <;> simp [Extension.flags,noFlags]

theorem flags_sniMatch :
    e.flags.sniMatch = true ↔ ∃ n list rest, e = .names (n :: list) rest ∧ n.type = 0 ∧ n.name = hostname := by
  rcases e with _ | _ | _ | _ | ⟨_ | _,_⟩ | _ <;> simp [Extension.flags,noFlags]

end

section
variable {h : ClientHello} (state : Mem)

theorem effect_flag {flag : Flags → Bool} (joins : ∀ f g, flag (f.join g) = (flag f || flag g))
    (unset : flag noFlags = false)
    (other : flag { noFlags with cipher := true } = false) :
    flag (h.effect ⟨noFlags,state⟩).x11 = true ↔ ∃ e ∈ h.list, flag e.flags = true := by
  rw [ClientHello.effect,fold_flag joins]
  split <;> simp [unset,other]

theorem effect_cipher : (h.effect ⟨noFlags,state⟩).x11.cipher = true ↔ 0x1301 ∈ h.suites := by
  have none : ∀ e : Extension, e.flags.cipher = false := by
    intro e
    cases e with
    | names list rest => cases list <;> rfl
    | _ => rfl
  rw [ClientHello.effect,@fold_flag Flags.cipher fun _ _ => rfl]
  split <;> simp [*,noFlags]

theorem Flags.enough_iff (f : Flags) :
    f.Enough ↔ (f.tls13 = true ∧ f.cipher = true ∧ f.group = true ∧ f.keyshare = true ∧ f.alpn = true) ∧
    (f.sniSeen = true → f.sniMatch = true) :=
  ⟨fun enough => ⟨⟨enough.tls13,enough.cipher,enough.group,enough.keyshare,enough.alpn⟩,enough.name⟩,
    fun ⟨⟨tls13,cipher,group,keyshare,alpn⟩,name⟩ => ⟨tls13,cipher,group,keyshare,alpn,name⟩⟩

/-- Each thing that is offered is in an extension of its kind. -/
theorem offers_iff (null : h.compression = [0]) (framed : h.Framed) :
    h.Offers ↔ (∃ e ∈ h.list, e.flags.tls13 = true) ∧ 0x1301 ∈ h.suites ∧
    (∃ e ∈ h.list, e.flags.group = true) ∧ (∃ e ∈ h.list, e.flags.keyshare = true) ∧
    ∃ e ∈ h.list, e.flags.alpn = true := by
  simp only [flags_tls13,flags_group,flags_keyshare,flags_alpn]
  constructor
  · rintro ⟨_,⟨versions,there,tls13⟩,cipher,⟨groups,there',group⟩,⟨shares,there₁,key,_,share⟩,⟨protocols,there₂,alpn⟩⟩
    exact ⟨⟨_,there,_,rfl,tls13⟩,cipher,⟨_,there',_,rfl,group⟩,⟨_,there₁,_,rfl,_,share,rfl⟩,⟨_,there₂,_,rfl,alpn⟩⟩
  · rintro ⟨⟨_,there,versions,rfl,tls13⟩,cipher,⟨_,there',groups,rfl,group⟩,⟨_,there₁,shares,rfl,⟨_,key⟩,share,rfl⟩,
      ⟨_,there₂,protocols,rfl,alpn⟩⟩
    exact ⟨null,⟨_,there,tls13⟩,cipher,⟨_,there',group⟩,
      ⟨_,there₁,key,((framed.of_mem there₁).2 _ share).2.2 rfl,share⟩,⟨_,there₂,alpn⟩⟩

/-- The flags that a message leaves say what it offers. -/
theorem effect_enough (null : h.compression = [0]) (framed : h.Framed) :
    (h.effect ⟨noFlags,state⟩).x11.Enough ↔ h.Offers ∧
      ((∃ e ∈ h.list, e.flags.sniSeen = true) → ∃ e ∈ h.list, e.flags.sniMatch = true) := by
  have tls13 := @effect_flag h state Flags.tls13 (fun _ _ => rfl) rfl rfl
  have group := @effect_flag h state Flags.group (fun _ _ => rfl) rfl rfl
  have keyshare := @effect_flag h state Flags.keyshare (fun _ _ => rfl) rfl rfl
  have alpn := @effect_flag h state Flags.alpn (fun _ _ => rfl) rfl rfl
  have seen := @effect_flag h state Flags.sniSeen (fun _ _ => rfl) rfl rfl
  have matched := @effect_flag h state Flags.sniMatch (fun _ _ => rfl) rfl rfl
  have cipher := @effect_cipher h state
  rw [Flags.enough_iff,tls13,cipher,group,keyshare,alpn,seen,matched,offers_iff null framed]

end

/-! ### What is kept of a message -/

theorem share_changes {s : KeyShare} (proper : s.group = x25519Group → s.key.length = 32) (r : Registers) :
    ChangesOnly [(80,32)] r.state (KeyShare.effect r s).state := by
  rw [KeyShare.effect]
  split
  · next own =>
    intro i outside
    have out := outside (80,32) (by simp)
    exact blit_outside (by rw [proper own]; exact out)
  · exact ChangesOnly.refl _ _

theorem effect_changes {e : Extension} (framed : e.Framed) (r : Registers) :
    ChangesOnly [(80,32)] r.state (Extension.effect r e).state := by
  cases e with
  | versions list | groups list | protocols list =>
    rw [Extension.effect]
    split <;> exact ChangesOnly.refl _ _
  | shares list =>
    exact List.foldlRecOn list KeyShare.effect (motive := fun r' => ChangesOnly [(80,32)] r.state r'.state)
      (ChangesOnly.refl _ _)
      fun r' changes s mem => changes.trans (share_changes (framed.2 s mem).2.2 r')
  | names list rest =>
    cases list with
    | nil => exact ChangesOnly.refl _ _
    | cons n list =>
      rw [Extension.effect]
      split <;> exact ChangesOnly.refl _ _
  | other type data => exact ChangesOnly.refl _ _

section
variable {h : ClientHello}

/-- The key that is kept is one of a share of the message. -/
theorem keyshare_kept (framed : h.Framed) (r : Registers) (unset : r.x11.keyshare = false)
    (kept : (h.effect r).x11.keyshare = true) :
    ∃ list, .shares list ∈ h.list ∧ ⟨x25519Group,slice (h.effect r).state 80 32⟩ ∈ list := by
  revert kept
  refine List.foldlRecOn h.list Extension.effect (motive := fun r' : Registers => r'.x11.keyshare = true →
    ∃ list, .shares list ∈ h.list ∧ ⟨x25519Group,slice r'.state 80 32⟩ ∈ list) ?_ fun r' ih e there => ?_
  · intro set
    dsimp only at set
    split at set <;> exact absurd (set.symm.trans unset) (by decide)
  · cases e with
    | versions list | groups list | protocols list =>
      rw [Extension.effect]
      split <;> exact ih
    | shares list =>
      refine List.foldlRecOn list KeyShare.effect (motive := fun r' : Registers => r'.x11.keyshare = true →
        ∃ list, .shares list ∈ h.list ∧ ⟨x25519Group,slice r'.state 80 32⟩ ∈ list) ih fun r₁ ih₁ s mem => ?_
      rw [KeyShare.effect]
      split
      · next own =>
        have size := ((framed.of_mem there).2 s mem).2.2 own
        refine fun _ => ⟨list,there,?_⟩
        have octets := slice_ofBytes s.key
        rw [size] at octets
        dsimp only
        rw [size,slice_blit_same,octets,← own]
        exact mem
      · exact ih₁
    | names list rest =>
      cases list with
      | nil => exact ih
      | cons n list =>
        rw [Extension.effect]
        split <;> exact ih
    | other type data => exact ih

/-- The fields in front of the extensions are kept as they are. -/
theorem effect_fields (framed : h.Framed) (r : Registers) : slice (h.effect r).state 16 32 = h.random ∧
    slice (h.effect r).state 440 8 = u64 h.sessionId.length ∧
    slice (h.effect r).state 448 h.sessionId.length = h.sessionId := by
  have short := framed.sessionId
  have random := slice_ofBytes h.random
  have length := slice_ofBytes (u64 h.sessionId.length)
  have id := slice_ofBytes h.sessionId
  rw [framed.random] at random
  rw [length_u64] at length
  rw [ClientHello.effect,framed.random,length_u64]
  dsimp only
  generalize (if 0x1301 ∈ h.suites then { r.x11 with cipher := true } else r.x11 : Flags) = x11
  have changes : ∀ r' : Registers, ChangesOnly [(80,32)] r'.state (h.list.foldl Extension.effect r').state := fun r' =>
    List.foldlRecOn h.list Extension.effect (motive := fun r'' => ChangesOnly [(80,32)] r'.state r''.state)
      (ChangesOnly.refl _ _)
      fun r'' changes e there => changes.trans (effect_changes (framed.of_mem there) r'')
  refine ⟨?_,?_,?_⟩
  · rw [(changes _).slice (by simp),slice_blit_before (by omega),slice_blit_before (by omega),slice_blit_same,random]
  · rw [(changes _).slice (by simp),slice_blit_before (by omega),slice_blit_same,length]
  · rw [(changes _).slice (by simp),slice_blit_same,id]

end

/-! ### The parser -/

section
variable {body : List UInt8} {state : Mem}

/-- The parser of a message that is laid out says whether it offers what is asked for. -/
theorem parse_laid {h : ClientHello} (framed : h.Framed) (null : h.compression = [0]) (state : Mem) :
    ((h.effect ⟨noFlags,state⟩).x11.Enough ∧
      tls_parse_client_hello h.octets state = (.ok (),(agreed (h.effect ⟨noFlags,state⟩)).state)) ∨
    (¬(h.effect ⟨noFlags,state⟩).x11.Enough ∧
      ∃ a, tls_parse_client_hello h.octets state = (.error (.alert a),(h.effect ⟨noFlags,state⟩).state)) := by
  rw [tls_parse_client_hello,parseBody,bind_run (fields_run framed null ⟨noFlags,state⟩)]
  rcases requirements_eq (h.effect ⟨noFlags,state⟩) with ⟨enough,run⟩ | ⟨missing,a,run⟩
  · rw [run]
    exact .inl ⟨enough,rfl⟩
  · rw [run]
    exact .inr ⟨missing,a,rfl⟩

theorem requirements_walks (r : Registers) : Walks requirements r fun _ => True := by
  rw [Walks]
  rcases requirements_eq r with ⟨_,run⟩ | ⟨_,a,run⟩
  · rw [run]
    exact ⟨(agreed_changes r).mono (by simp [writable]),trivial⟩
  · rw [run]
    exact ChangesOnly.refl _ _

/-- Nothing is read outside of the body and nothing is written but the fields, and what is accepted is
    laid out. -/
theorem parse_walks (body : List UInt8) (state : Mem) : (tls_parse_client_hello body state).1 ≠ .error .outside ∧
    ChangesOnly writable state (tls_parse_client_hello body state).2 ∧
    ((tls_parse_client_hello body state).1 = .ok () → ∃ h : ClientHello, h.Framed ∧ h.compression = [0] ∧
    body = h.octets) := by
  have walks : Walks (parseBody body) ⟨noFlags,state⟩ fun _ => ∃ h : ClientHello, h.Framed ∧ h.compression = [0] ∧
    body = h.octets :=
    (fields_walks body ⟨noFlags,state⟩).bind fun _ r' found => (requirements_walks r').mono fun _ _ => found
  rw [Walks] at walks
  rw [tls_parse_client_hello]
  generalize parseBody body ⟨noFlags,state⟩ = result at walks ⊢
  cases result with
  | ok u r' => exact ⟨nofun,walks.1,fun _ => walks.2⟩
  | error e r' =>
    cases e with
    | alert a => exact ⟨nofun,walks,nofun⟩
    | outside => exact absurd walks id

end

/-- Every ClientHello body: no octet outside of it is read, nothing is written but the fields; what
    does not fit is refused; what is accepted offers all that is asked for, and its random, its
    session id and one of its keys are kept; and a well-formed message that offers it all and names no
    other host is accepted. -/
theorem client_hello_parsed (body : List UInt8) (state : Mem) :
    let (result,state') := tls_parse_client_hello body state
    result ≠ .error .outside ∧ ChangesOnly writable state state' ∧
    ((¬∃ h : ClientHello, h.Framed ∧ body = h.octets) → ∃ a, result = .error (.alert a)) ∧
    (result = .ok () → ∃ h : ClientHello, h.Framed ∧ body = h.octets ∧ h.Offers ∧ slice state' 16 32 = h.random ∧
      slice state' 440 8 = u64 h.sessionId.length ∧ slice state' 448 h.sessionId.length = h.sessionId ∧
      (∃ list, .shares list ∈ h.list ∧ ⟨x25519Group,slice state' 80 32⟩ ∈ list) ∧
      slice state' 416 8 = u64 2 ∧ slice state' 424 2 = ascii "h2") ∧
    ∀ h : ClientHello, h.WellFormed → body = h.octets → h.Offers → h.Named → result = .ok () := by
  obtain ⟨inside,changes,laid⟩ := parse_walks body state
  have complete : ∀ h : ClientHello, h.WellFormed → body = h.octets → h.Offers → h.Named →
      (tls_parse_client_hello body state).1 = .ok () := by
    rintro h formed rfl offers named
    rcases parse_laid formed.framed offers.compression state with ⟨_,accepted⟩ | ⟨missing,_⟩
    · rw [accepted]
    refine absurd ((effect_enough state offers.compression formed.framed).mpr ⟨offers,?_⟩) missing
    simp only [flags_sniSeen,flags_sniMatch]
    rintro ⟨_,there,n,list,rest,rfl,host⟩
    exact ⟨_,there,n,list,rest,rfl,host,named _ _ there n (List.mem_cons_self ..) host⟩
  have sound : (tls_parse_client_hello body state).1 = .ok () → ∃ h : ClientHello, h.Framed ∧ body = h.octets ∧ h.Offers ∧
      (tls_parse_client_hello body state).2 = (agreed (h.effect ⟨noFlags,state⟩)).state ∧
      (h.effect ⟨noFlags,state⟩).x11.keyshare = true := by
    intro accepted
    obtain ⟨h,framed,null,rfl⟩ := laid accepted
    rcases parse_laid framed null state with ⟨enough,same⟩ | ⟨_,a,refused⟩
    · exact ⟨h,framed,rfl,((effect_enough state null framed).mp enough).1,congrArg Prod.snd same,enough.keyshare⟩
    · rw [refused] at accepted
      cases accepted
  generalize tls_parse_client_hello body state = result at inside changes laid complete sound ⊢
  obtain ⟨result,state'⟩ := result
  dsimp only at inside changes laid complete sound ⊢
  refine ⟨inside,changes,fun unfit => ?_,fun accepted => ?_,complete⟩
  · rcases result with (a | _) | _
    · exact ⟨a,rfl⟩
    · exact absurd rfl inside
    · obtain ⟨h,framed,_,same⟩ := laid rfl
      exact absurd ⟨h,framed,same⟩ unfit
  · obtain ⟨h,framed,same,offers,rfl,kept⟩ := sound accepted
    obtain ⟨random,length,id⟩ := effect_fields framed ⟨noFlags,state⟩
    have more := agreed_changes (h.effect ⟨noFlags,state⟩)
    have short := framed.sessionId
    refine ⟨h,framed,same,offers,?_,?_,?_,?_,?_,?_⟩
    · rw [more.slice (by simp),random]
    · rw [more.slice (by simp),length]
    · rw [more.slice (by simp),id]
    · rw [more.slice (by simp)]
      exact keyshare_kept framed _ rfl kept
    · rw [agreed]
      dsimp only
      rw [slice_blit_before (by omega),slice_blit_same]
      exact (congrArg _ (length_u64 2).symm).trans (slice_ofBytes (u64 2))
    · rw [agreed]
      dsimp only
      rw [slice_blit_same]
      exact slice_ofBytes (ascii "h2")

/-- A message with these extensions. -/
def helloWith (list : List Extension) : ClientHello := ⟨0x0303,List.replicate 32 7,[],[0x1301],[0],some list⟩

def offered : List Extension :=
  [.versions [0x0304],.groups [x25519Group],.shares [⟨x25519Group,List.replicate 32 9⟩],.protocols [ascii "h2"]]

theorem helloWith_wellFormed {list : List Extension}
    (formed : 8 ≤ (list.flatMap Extension.octets).length ∧ (list.flatMap Extension.octets).length < 65536 ∧
    ∀ e ∈ list, e.WellFormed) :
    (helloWith list).WellFormed where
  version := show 0x0303 < 65536 by decide
  random := List.length_replicate
  sessionId := Nat.zero_le _
  suites := ⟨List.cons_ne_nil _ _,show 1 ≤ 32767 by decide,show ∀ s ∈ [0x1301],s < 65536 by decide⟩
  compression := show 0 < 1 ∧ 1 < 256 by decide
  extensions := fun _ there => Option.some.inj there ▸ formed

theorem helloWith_offers {list : List Extension} (offers : ∀ e ∈ offered, e ∈ list) : (helloWith list).Offers where
  compression := rfl
  tls13 := ⟨[0x0304],offers _ (by decide),by decide⟩
  cipher := List.mem_singleton.mpr rfl
  group := ⟨[x25519Group],offers _ (by decide),by decide⟩
  keyshare := ⟨[⟨x25519Group,List.replicate 32 9⟩],offers _ (by decide),List.replicate 32 9,List.length_replicate,
    List.mem_singleton.mpr rfl⟩
  alpn := ⟨[ascii "h2"],offers _ (by decide),List.mem_singleton.mpr rfl⟩

theorem helloWith_named {list : List Extension}
    (named : ∀ e ∈ list, ∀ l rest, e = .names l rest → ∀ n ∈ l, n.type = 0 → n.name = hostname) :
    (helloWith list).Named :=
  fun l rest there => named _ there l rest rfl

/-- What a client for the configured host sends. -/
def onceNamed : ClientHello := helloWith (offered ++ [.names [⟨0,hostname⟩] []])

theorem onceNamed_named : onceNamed.Named := by
  refine helloWith_named fun e there l rest same n mem host => ?_
  simp only [offered,List.cons_append,List.nil_append,List.mem_cons,List.not_mem_nil,or_false] at there
  rcases there with rfl | rfl | rfl | rfl | rfl <;> cases same
  exact congrArg ServerName.name (List.mem_singleton.mp mem)

theorem client_hello_parsed_named : (tls_parse_client_hello onceNamed.octets fun _ => 0).1 = .ok () := by
  generalize same : onceNamed.octets = body
  have parsed := client_hello_parsed body fun _ => 0
  have formed : onceNamed.WellFormed := helloWith_wellFormed (by decide +kernel)
  have offers : onceNamed.Offers := helloWith_offers fun e there => List.mem_append_left _ there
  generalize tls_parse_client_hello body (fun _ => 0) = result at parsed ⊢
  obtain ⟨result,state'⟩ := result
  exact parsed.2.2.2.2 onceNamed formed same.symm offers onceNamed_named

/-! ### What is not counted -/

/-- Two server names of different hosts. -/
def twiceNamed : ClientHello := helloWith (offered ++ [.names [⟨0,hostname⟩] [],.names [⟨0,ascii "other"⟩] []])

theorem twiceNamed_framed : twiceNamed.Framed := (helloWith_wellFormed (by decide +kernel)).framed

theorem twiceNamed_accepted (state : Mem) : (tls_parse_client_hello twiceNamed.octets state).1 = .ok () := by
  rcases parse_laid twiceNamed_framed rfl state with ⟨_,accepted⟩ | ⟨missing,_⟩
  · rw [accepted]
  · refine absurd ((effect_enough state rfl twiceNamed_framed).mpr ⟨?_,?_⟩) missing
    · exact helloWith_offers fun e there => List.mem_append_left _ there
    · simp only [flags_sniSeen,flags_sniMatch]
      refine fun _ => ⟨_,List.mem_append_right offered (.head _),⟨0,hostname⟩,[],[],rfl,rfl,rfl⟩

/-- Two members of a list that has at most one such are the same. -/
theorem countP_le_one {α : Type} {p : α → Bool} {l : List α} (once : l.countP p ≤ 1) {a b : α} (ha : a ∈ l)
    (pa : p a = true) (hb : b ∈ l)
    (pb : p b = true) : a = b := by
  rw [List.countP_eq_length_filter] at once
  have a' := List.mem_filter.mpr ⟨ha,pa⟩
  have b' := List.mem_filter.mpr ⟨hb,pb⟩
  generalize l.filter p = found at once a' b'
  rcases found with _ | ⟨c,_ | ⟨d,rest⟩⟩
  · cases a'
  · rw [List.mem_singleton.mp a',List.mem_singleton.mp b']
  · simp at once

end Sarm.Hello
