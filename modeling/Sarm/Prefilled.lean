import Sarm.Transport
import Sarm.TlsRecord
import Sarm.Hkdf

/-!
Reading a record of which a part has been read before: what the reader comes to is what it would
have come to on the whole stream, however the rest is split into reads.
-/
namespace Sarm.Tls
open Sarm.Memory
open Sarm.H2 (ReadEvent)

/-! ### The stream -/

/-- What the reads bring, octet by octet; a failure is `none`. -/
def stream : List ReadEvent → List (Option UInt8)
  | [] => []
  | .data first rest :: reads => some first :: rest.map some ++ stream reads
  | .interrupted :: reads => stream reads
  | .failed :: reads => none :: stream reads

/-- The octets that there are of `n`, what comes behind them, and whether they are all there. -/
def takeOctets : Nat → List (Option UInt8) → List UInt8 × List (Option UInt8) × Bool
  | 0,s => ([],s,true)
  | _ + 1,[] => ([],[],false)
  | _ + 1,none :: s => ([],s,false)
  | n + 1,some octet :: s => match takeOctets n s with
    | (octets,left,whole) => (octet :: octets,left,whole)

theorem takeOctets_map (octets : List UInt8) (n : Nat) (s : List (Option UInt8)) :
    takeOctets (octets.length + n) (octets.map some ++ s) =
      (octets ++ (takeOctets n s).1,(takeOctets n s).2.1,(takeOctets n s).2.2) := by
  induction octets with
  | nil => rw [List.length_nil,Nat.zero_add]; rfl
  | cons octet octets ih => rw [List.length_cons,Nat.add_right_comm,List.map_cons,List.cons_append,takeOctets,ih]; rfl

theorem takeOctets_length : ∀ (n : Nat) (s : List (Option UInt8)), (takeOctets n s).1.length ≤ n ∧
    ((takeOctets n s).2.2 = true → (takeOctets n s).1.length = n) := by
  intro n
  induction n with
  | zero => exact fun s => ⟨Nat.le_refl _,fun _ => rfl⟩
  | succ n ih =>
    rintro (_ | ⟨_ | octet,s⟩)
    · exact ⟨Nat.zero_le _,nofun⟩
    · exact ⟨Nat.zero_le _,nofun⟩
    · obtain ⟨short,whole⟩ := ih s
      exact ⟨Nat.succ_le_succ short,fun all => congrArg Nat.succ (whole all)⟩

/-! ### The code -/

/-- `raw_read_exact`: whatever has arrived is in the buffer, also when the rest does not come. -/
def raw_read_exact : List ReadEvent → Mem → Nat → Nat → List ReadEvent × Mem × Bool
  | reads,m,_,0 => (reads,m,true)
  | [],m,_,_ + 1 => ([],m,false)
  | .data first rest :: reads,m,x20,x21 + 1 =>
    if rest.length ≤ x21 then
      raw_read_exact reads (blit m x20 (ofBytes (first :: rest)) (rest.length + 1)) (x20 + (rest.length + 1))
        (x21 - rest.length)
    else match rest.drop x21 with
      | [] => (reads,blit m x20 (ofBytes (first :: rest)) (x21 + 1),true)
      | next :: left => (.data next left :: reads,blit m x20 (ofBytes (first :: rest)) (x21 + 1),true)
  | .interrupted :: reads,m,x20,x21 + 1 => raw_read_exact reads m x20 (x21 + 1)
  | .failed :: reads,m,_,_ + 1 => (reads,m,false)

/-- A record that has been read, or what was wrong with it; the memory; and what the socket has not given yet. -/
abbrev Reading := Except RecordError Parsed × Mem × List ReadEvent

/-- The part of `tls_read_record` behind the header. -/
def readFragment (reads : List ReadEvent) (m : Mem) (buf cap : Nat) : Reading :=
  let w9 := be16 m (buf+3)
  let x22 := w9 + 5
  if cap < x22 then (.error .length,m,reads)
  else match raw_read_exact reads m (buf+5) w9 with
    | (reads,m,false) => (.error .short,m,reads)
    | (reads,m,true) => (tls_record_parse m buf x22,m,reads)

def tls_read_record (reads : List ReadEvent) (m : Mem) (buf cap : Nat) : Reading :=
  match raw_read_exact reads m buf 5 with
  | (reads,m,false) => (.error .short,m,reads)
  | (reads,m,true) => readFragment reads m buf cap

/-- The part of `tls_read_record_prefilled` behind the header, with `x23` octets there. -/
def readShortfall (reads : List ReadEvent) (m : Mem) (buf cap x23 : Nat) : Reading :=
  let x22 := be16 m (buf+3) + 5
  if cap < x22 then (.error .length,m,reads)
  else if x23 = x22 then (tls_record_parse m buf x22,m,reads)
  else if x22 < x23 then (.error .length,m,reads)
  else match raw_read_exact reads m (buf+x23) (x22-x23) with
    | (reads,m,false) => (.error .short,m,reads)
    | (reads,m,true) => (tls_record_parse m buf x22,m,reads)

def tls_read_record_prefilled (reads : List ReadEvent) (m : Mem) (buf cap x23 : Nat) : Reading :=
  if 5 ≤ x23 then readShortfall reads m buf cap x23
  else match raw_read_exact reads m (buf+x23) (5-x23) with
    | (reads,m,false) => (.error .short,m,reads)
    | (reads,m,true) => readShortfall reads m buf cap 5

/-! ### What a read leaves -/

theorem blit_append (m : Mem) (dst : Nat) (front back : List UInt8) :
    blit (blit m dst (ofBytes front) front.length) (dst + front.length) (ofBytes back) back.length =
      blit m dst (ofBytes (front ++ back)) (front ++ back).length := by
  have first : blit m dst (ofBytes front) front.length = blit m dst (ofBytes (front ++ back)) front.length :=
    blit_congr fun i inside => by rw [ofBytes,ofBytes,List.getD_append _ _ _ _ inside]
  have second : ∀ i < back.length, ofBytes back i = shift (ofBytes (front ++ back)) front.length i := fun i _ => by
    rw [shift,ofBytes,ofBytes,List.getD_append_right _ _ _ _ (Nat.le_add_right _ _),Nat.add_sub_cancel_left]
  rw [first,blit_congr second,blit_blit,List.length_append]

/-- A read that brings more than is asked for leaves the others. -/
theorem takeOctets_part (octets : List UInt8) {n : Nat} (inside : n ≤ octets.length) (s : List (Option UInt8)) :
    takeOctets n (octets.map some ++ s) = (octets.take n,(octets.drop n).map some ++ s,true) := by
  have count : (octets.take n).length = n := List.length_take_of_le inside
  have taken := takeOctets_map (octets.take n) 0 ((octets.drop n).map some ++ s)
  rw [count,Nat.add_zero,← List.append_assoc,← List.map_append,List.take_append_drop] at taken
  rw [taken,takeOctets,List.append_nil]

/-- Reading exactly is taking octets off the stream. -/
theorem raw_read_exact_takes (reads : List ReadEvent) (m : Mem) (x20 x21 : Nat) :
    stream (raw_read_exact reads m x20 x21).1 = (takeOctets x21 (stream reads)).2.1 ∧
      (raw_read_exact reads m x20 x21).2.1 =
        blit m x20 (ofBytes (takeOctets x21 (stream reads)).1) (takeOctets x21 (stream reads)).1.length ∧
      (raw_read_exact reads m x20 x21).2.2 = (takeOctets x21 (stream reads)).2.2 := by
  fun_induction raw_read_exact reads m x20 x21 with
  | case1 reads m x20 => exact ⟨rfl,(blit_zero _ _ _).symm,rfl⟩
  | case2 m x20 x21 => exact ⟨rfl,(blit_zero _ _ _).symm,rfl⟩
  | case3 first rest reads m x20 x21 whole ih =>
    have taken := takeOctets_map (first :: rest) (x21 - rest.length) (stream reads)
    rw [List.length_cons,show rest.length + 1 + (x21 - rest.length) = x21 + 1 by omega,List.map_cons] at taken
    obtain ⟨left,memory,all⟩ := ih
    rw [stream,show x21.succ = x21 + 1 from rfl,taken]
    exact ⟨left,memory.trans (blit_append m x20 (first :: rest) _),all⟩
  | case4 first rest reads m x20 x21 part none =>
    have count := congrArg List.length none
    rw [List.length_drop,List.length_nil] at count
    omega
  | case5 first rest reads m x20 x21 part next left behind =>
    have inside : x21 + 1 ≤ (first :: rest).length := by rw [List.length_cons]; omega
    have taken := takeOctets_part _ inside (stream reads)
    rw [List.map_cons,List.drop_succ_cons,behind] at taken
    rw [stream,stream,show x21.succ = x21 + 1 from rfl,taken]
    refine ⟨rfl,?_,rfl⟩
    rw [List.length_take_of_le inside]
    refine blit_congr fun i low => ?_
    rw [ofBytes,ofBytes,List.getD_eq_getElem?_getD,List.getD_eq_getElem?_getD,List.getElem?_take_of_lt low]
  | case6 reads m x20 x21 ih => exact ih
  | case7 reads m x20 x21 => exact ⟨rfl,(blit_zero _ _ _).symm,rfl⟩

theorem raw_read_exact_changes (reads : List ReadEvent) (m : Mem) (x20 x21 : Nat) :
    ChangesOnly [(x20,x21)] m (raw_read_exact reads m x20 x21).2.1 := by
  intro i outside
  have out := outside (x20,x21) (by simp)
  have short := (takeOctets_length x21 (stream reads)).1
  rw [(raw_read_exact_takes reads m x20 x21).2.1]
  exact blit_outside (by omega)

/-- All that has been asked for is there. -/
theorem raw_read_exact_slice {reads : List ReadEvent} {m : Mem} {x20 x21 : Nat}
    (whole : (takeOctets x21 (stream reads)).2.2 = true) :
    slice (raw_read_exact reads m x20 x21).2.1 x20 x21 = (takeOctets x21 (stream reads)).1 := by
  have count := (takeOctets_length x21 (stream reads)).2 whole
  have octets := slice_ofBytes (takeOctets x21 (stream reads)).1
  rw [count] at octets
  rw [(raw_read_exact_takes reads m x20 x21).2.1,count,slice_blit_same,octets]

/-! ### The two readers -/

/-- Two readings come to the same, the one with the socket some octets further on. -/
structure Agree (buf ahead : Nat) (a b : Reading) : Prop where
  result : a.1 = b.1
  record : ∀ parsed, a.1 = .ok parsed → slice a.2.1 buf parsed.total = slice b.2.1 buf parsed.total
  position : stream a.2.2 = (stream b.2.2).drop ahead

theorem be16_slice {m m' : Mem} {a : Nat} {n : Nat} (same : slice m' a n = slice m a n) (inside : 5 ≤ n) :
    be16 m' (a+3) = be16 m (a+3) := by
  rw [slice_eq_iff] at same
  rw [be16,be16,Nat.add_assoc,same 3 (by omega),same 4 (by omega)]

/-- The parser reads the record only. -/
theorem tls_record_parse_slice {m m' : Mem} {a n : Nat} (same : slice m' a n = slice m a n) :
    tls_record_parse m' a n = tls_record_parse m a n := by
  rw [tls_record_parse,tls_record_parse]
  split
  · rfl
  have octets := slice_eq_iff.mp same
  have first := octets 0 (by omega)
  have length := be16_slice same (by omega)
  have version : be16 m' (a+1) = be16 m (a+1) := by
    rw [be16,be16,Nat.add_assoc,octets 1 (by omega),octets 2 (by omega)]
  rw [Nat.add_zero] at first
  rw [first,length,version]

theorem tls_record_parse_total {m : Mem} {a n : Nat} {parsed : Parsed} (accepted : tls_record_parse m a n = .ok parsed) :
    parsed.total = be16 m (a+3) + 5 := by
  rw [tls_record_parse] at accepted
  split at accepted
  · cases accepted
  split at accepted
  · cases accepted
  split at accepted
  · cases accepted
  dsimp only at accepted
  generalize (if m a = applicationData then maxCiphertext else maxPlaintext) = limit at accepted
  split at accepted
  · cases accepted
  split at accepted
  · cases accepted
  cases accepted
  rfl

section
variable {reads reads' : List ReadEvent} {m m' : Mem} {buf cap : Nat}

/-- Behind the header: `j` octets are there of a record that has at least as many, and the other
    reader has the same ones before it. -/
theorem readShortfall_agrees {j : Nat} (there : 5 ≤ j) (inside : j ≤ be16 m (buf+3) + 5)
    (header : slice m' buf 5 = slice m buf 5)
    (same : stream reads' = (slice m (buf+5) (j-5)).map some ++ stream reads) :
    Agree buf (if cap < be16 m (buf+3) + 5 then j - 5 else 0) (readShortfall reads m buf cap j)
    (readFragment reads' m' buf cap) := by
  have length := be16_slice header (Nat.le_refl 5)
  rw [readShortfall,readFragment,length]
  by_cases long : cap < be16 m (buf+3) + 5
  · rw [if_pos long,if_pos long,if_pos long]
    refine ⟨rfl,nofun,?_⟩
    rw [same]
    exact (List.drop_left' (by simp)).symm
  rw [if_neg long,if_neg long,if_neg long]
  -- What is asked for beyond the octets that are there.
  obtain ⟨more,count⟩ := Nat.exists_eq_add_of_le inside
  have taken := takeOctets_map (slice m (buf+5) (j-5)) more (stream reads)
  rw [slice_length,show j - 5 + more = be16 m (buf+3) by omega,← same] at taken
  obtain ⟨left,_,whole⟩ := raw_read_exact_takes reads' m' (buf+5) (be16 m (buf+3))
  have read := @raw_read_exact_slice reads' m' (buf+5) (be16 m (buf+3))
  have front : slice (raw_read_exact reads' m' (buf+5) (be16 m (buf+3))).2.1 buf 5 = slice m' buf 5 :=
    (raw_read_exact_changes reads' m' (buf+5) (be16 m (buf+3))).slice (by simp)
  rw [taken] at left whole read
  dsimp only at left whole read
  generalize raw_read_exact reads' m' (buf+5) (be16 m (buf+3)) = other at left whole read front ⊢
  obtain ⟨reads₁,m₁,ok⟩ := other
  dsimp only at left whole read front ⊢
  -- What either has in the buffer when all has arrived.
  have record : ∀ m₂, slice m₂ buf j = slice m buf j → slice m₂ (buf+j) more = (takeOctets more (stream reads)).1 →
      (takeOctets more (stream reads)).2.2 = true →
        slice m₂ buf (be16 m (buf+3) + 5) = slice m₁ buf (be16 m (buf+3) + 5) := by
    intro m₂ kept added all
    have split : slice m₂ buf j = slice m buf 5 ++ slice m (buf+5) (j-5) := by
      rw [kept,← slice_add]
      congr 1
      omega
    have whole : slice m₁ buf (be16 m (buf+3) + 5) = slice m buf 5 ++
        (slice m (buf+5) (j-5) ++ (takeOctets more (stream reads)).1) := by
      rw [Nat.add_comm _ 5,slice_add,front,header,read all]
    rw [whole,count,slice_add,split,added,List.append_assoc]
  have position := left
  cases more with
  | zero =>
    subst whole
    have held := record m rfl rfl rfl
    rw [if_pos (by omega)]
    dsimp only [takeOctets]
    refine ⟨tls_record_parse_slice held,fun parsed accepted => ?_,left.symm⟩
    dsimp only at accepted ⊢
    rw [tls_record_parse_total accepted]
    exact held
  | succ more =>
    obtain ⟨left',_,whole'⟩ := raw_read_exact_takes reads m (buf+j) (more+1)
    have read' := @raw_read_exact_slice reads m (buf+j) (more+1)
    have kept : slice (raw_read_exact reads m (buf+j) (more+1)).2.1 buf j = slice m buf j :=
      (raw_read_exact_changes reads m (buf+j) (more+1)).slice (by simp)
    rw [if_neg (by omega),if_neg (by omega),show be16 m (buf+3) + 5 - j = more + 1 by omega]
    generalize raw_read_exact reads m (buf+j) (more+1) = one at left' whole' read' kept ⊢
    obtain ⟨reads₂,m₂,ok'⟩ := one
    dsimp only at left' whole' read' kept ⊢
    obtain rfl := whole.trans whole'.symm
    cases ok with
    | false => exact ⟨rfl,nofun,left'.trans left.symm⟩
    | true =>
      have held := record m₂ kept (read' whole.symm) whole.symm
      dsimp only
      refine ⟨tls_record_parse_slice held,fun parsed accepted => ?_,left'.trans left.symm⟩
      dsimp only at accepted ⊢
      rw [tls_record_parse_total accepted,be16_slice kept there]
      exact held

/-- The header, of which `k` octets are there. -/
theorem header_same {k : Nat} (short : k < 5) (same : stream reads' = (slice m buf k).map some ++ stream reads) :
    (raw_read_exact reads m (buf+k) (5-k)).2.2 = (raw_read_exact reads' m' buf 5).2.2 ∧
      stream (raw_read_exact reads m (buf+k) (5-k)).1 = stream (raw_read_exact reads' m' buf 5).1 ∧
      ((raw_read_exact reads' m' buf 5).2.2 = true →
        slice (raw_read_exact reads' m' buf 5).2.1 buf 5 = slice (raw_read_exact reads m (buf+k) (5-k)).2.1 buf 5) := by
  have taken := takeOctets_map (slice m buf k) (5-k) (stream reads)
  rw [slice_length,show k + (5-k) = 5 by omega,← same] at taken
  obtain ⟨left,_,whole⟩ := raw_read_exact_takes reads' m' buf 5
  obtain ⟨left',_,whole'⟩ := raw_read_exact_takes reads m (buf+k) (5-k)
  have read := @raw_read_exact_slice reads' m' buf 5
  have read' := @raw_read_exact_slice reads m (buf+k) (5-k)
  have kept : slice (raw_read_exact reads m (buf+k) (5-k)).2.1 buf k = slice m buf k :=
    (raw_read_exact_changes reads m (buf+k) (5-k)).slice (by simp)
  rw [taken] at left whole read
  refine ⟨whole'.trans whole.symm,left'.trans left.symm,fun all => ?_⟩
  rw [whole] at all
  have split := slice_add (raw_read_exact reads m (buf+k) (5-k)).2.1 buf k (5-k)
  rw [show k + (5-k) = 5 by omega,kept,read' all] at split
  rw [read all,split]

theorem readShortfall_changes (reads : List ReadEvent) (m : Mem) (j : Nat) :
    ChangesOnly [(buf,cap)] m (readShortfall reads m buf cap j).2.1 := by
  rw [readShortfall]
  split
  · exact ChangesOnly.refl _ _
  split
  · exact ChangesOnly.refl _ _
  split
  · exact ChangesOnly.refl _ _
  have changes := raw_read_exact_changes reads m (buf+j) (be16 m (buf+3) + 5 - j)
  generalize raw_read_exact reads m (buf+j) (be16 m (buf+3) + 5 - j) = read at changes ⊢
  obtain ⟨reads,m₁,ok⟩ := read
  cases ok <;> exact changes.mono (by simp; omega)

/-- The first `k` octets of a stream are in the buffer and the others are still to come, in whatever
    reads. With no more of them than the record has, what is made of it is what the reader of
    records makes of the whole stream, and the socket is left where that leaves it; only a record
    too long for the buffer, of which that reader takes the header, has as many octets gone as there
    were. With more of them than the record has nothing is read. Nothing is written behind the buffer. -/
theorem read_record_prefilled_same {k : Nat} (same : stream reads' = (slice m buf k).map some ++ stream reads) :
    ((5 ≤ k → k ≤ be16 m (buf+3) + 5) →
      Agree buf (if 5 ≤ k ∧ cap < be16 m (buf+3) + 5 then k - 5 else 0) (tls_read_record_prefilled reads m buf cap k)
        (tls_read_record reads' m' buf cap)) ∧
    (5 ≤ k → be16 m (buf+3) + 5 < k → tls_read_record_prefilled reads m buf cap k = (.error .length,m,reads)) ∧
    (5 ≤ cap → ChangesOnly [(buf,cap)] m (tls_read_record_prefilled reads m buf cap k).2.1) := by
  refine ⟨fun inside => ?_,fun there more => ?_,fun room => ?_⟩
  · rw [tls_read_record_prefilled,tls_read_record]
    by_cases there : 5 ≤ k
    · have taken := takeOctets_part (slice m buf k) (n := 5) (by rw [slice_length]; exact there) (stream reads)
      obtain ⟨rest,rfl⟩ := Nat.exists_eq_add_of_le there
      rw [← same,slice_add m buf 5 rest,List.take_left' (slice_length ..),List.drop_left' (slice_length ..)] at taken
      obtain ⟨left,_,whole⟩ := raw_read_exact_takes reads' m' buf 5
      have read := @raw_read_exact_slice reads' m' buf 5
      rw [taken] at left whole read
      have read := read rfl
      rw [if_pos there]
      generalize raw_read_exact reads' m' buf 5 = other at left whole read ⊢
      obtain ⟨reads₁,m₁,ok⟩ := other
      dsimp only at left whole read ⊢
      subst whole
      have agree := @readShortfall_agrees reads reads₁ m m₁ buf cap (5+rest) there (inside there) read
        (by rw [left,Nat.add_sub_cancel_left])
      simp only [there,true_and]
      exact agree
    · obtain ⟨whole,left,header⟩ := @header_same reads reads' m m' buf k (by omega) same
      rw [if_neg there,if_neg fun both => there both.1]
      generalize raw_read_exact reads m (buf+k) (5-k) = one at whole left header ⊢
      generalize raw_read_exact reads' m' buf 5 = other at whole left header ⊢
      obtain ⟨reads₁,m₁,ok⟩ := one
      obtain ⟨reads₂,m₂,ok'⟩ := other
      dsimp only at whole left header ⊢
      subst whole
      cases ok with
      | false => exact ⟨rfl,nofun,left⟩
      | true =>
        have agree :=
          @readShortfall_agrees reads₁ reads₂ m₁ m₂ buf cap 5 (Nat.le_refl 5) (by omega) (header rfl) left.symm
        rw [Nat.sub_self,ite_self] at agree
        exact agree
  · rw [tls_read_record_prefilled,if_pos there,readShortfall]
    by_cases long : cap < be16 m (buf+3) + 5
    · exact if_pos long
    · rw [if_neg long,if_neg (by omega)]
      exact if_pos more
  · rw [tls_read_record_prefilled]
    split
    · exact readShortfall_changes reads m k
    · have changes := raw_read_exact_changes reads m (buf+k) (5-k)
      generalize raw_read_exact reads m (buf+k) (5-k) = read at changes ⊢
      obtain ⟨reads₁,m₁,ok⟩ := read
      have header : ChangesOnly [(buf,cap)] m m₁ := changes.mono (by simp; omega)
      cases ok with
      | false => exact header
      | true => exact header.trans (readShortfall_changes reads₁ m₁ 5)

end

/-- A record of seven octets of which four are there. -/
theorem read_record_prefilled_same_short :
    Agree 0 0 (tls_read_record_prefilled [.interrupted,.data 2 [8],.data 9 [1]] (ofBytes [22,3,3,0]) 0 16384 4)
      (tls_read_record [.data 22 [3,3,0,2,8,9,1]] (ofBytes []) 0 16384) :=
  (@read_record_prefilled_same [.interrupted,.data 2 [8],.data 9 [1]] [.data 22 [3,3,0,2,8,9,1]]
    (ofBytes [22,3,3,0]) (ofBytes []) 0 16384 4
    (by decide)).1 (by decide)

/-- A record that the buffer has no room for leaves the socket behind what has been read before. -/
theorem read_record_prefilled_long : ¬∀ (reads reads' : List ReadEvent) (m m' : Mem) (buf cap k : Nat),
    stream reads' = (slice m buf k).map some ++ stream reads → (5 ≤ k → k ≤ be16 m (buf+3) + 5) →
      (tls_read_record_prefilled reads m buf cap k).1 = (tls_read_record reads' m' buf cap).1 ∧
        stream (tls_read_record_prefilled reads m buf cap k).2.2 = stream (tls_read_record reads' m' buf cap).2.2 := by
  intro claim
  have both :=
    claim [.data 7 []] [.data 22 [3,3,64,0,7,7]] (ofBytes [22,3,3,64,0,7]) (ofBytes []) 0 8192 6 (by decide)
    (by decide)
  exact absurd both.2 (by decide)

end Sarm.Tls
