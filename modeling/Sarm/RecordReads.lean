import Sarm.Prefilled
import Sarm.SecureTransport

/-!
What a reader of records takes off the socket: the octets of the record that it parses, all of them and no
others, with those in front that had been read before; and what is made of such a record where it is.
-/
namespace Sarm.Tls
open Sarm.Memory Sarm.Neon Sarm.Ghash Sarm.Gcm
open Sarm.H2 (ReadEvent)

theorem takeOctets_split : ∀ (n : Nat) (s : List (Option UInt8)), (takeOctets n s).2.2 = true →
    s = (takeOctets n s).1.map some ++ (takeOctets n s).2.1 := by
  intro n
  induction n with
  | zero => exact fun s _ => rfl
  | succ n ih =>
    intro s whole
    rcases s with _ | ⟨_ | octet,s⟩
    · cases whole
    · cases whole
    · exact congrArg (some octet :: ·) (ih s whole)

/-- A record of either version. -/
def wholeRecord (type version : UInt8) (text : List UInt8) : List UInt8 :=
  [type,3,version,UInt8.ofNat (text.length / 256),UInt8.ofNat text.length] ++ text

/-- One that the parser takes. -/
structure Proper (type version : UInt8) (text : List UInt8) : Prop where
  known : version = 1 ∨ version = 3
  content : isContentType type.toNat = true
  short : text.length ≤ if type = applicationData then maxCiphertext else maxPlaintext

theorem wholeRecord_length {type version : UInt8} {text : List UInt8} :
    (wholeRecord type version text).length = text.length + 5 :=
  rfl

theorem Proper.small {type version : UInt8} {text : List UInt8} (proper : Proper type version text) :
    text.length < 65536 := by
  have short := proper.short
  rw [maxCiphertext,maxPlaintext] at short
  split at short <;> omega

section
variable {reads reads' : List ReadEvent} {m m' : Mem} {buf cap : Nat}

/-- What is in the buffer is what has come off the stream. -/
theorem raw_read_exact_reads {x20 x21 : Nat} (read : raw_read_exact reads m x20 x21 = (reads',m',true)) :
    stream reads = (slice m' x20 x21).map some ++ stream reads' := by
  obtain ⟨left,_,whole⟩ := raw_read_exact_takes reads m x20 x21
  have text := @raw_read_exact_slice reads m x20 x21
  rw [read] at left whole text
  rw [text whole.symm,left]
  exact takeOctets_split x21 (stream reads) whole.symm

/-- A record that is accepted. -/
theorem tls_record_parse_whole {a n : Nat} {parsed : Parsed} (accepted : tls_record_parse m a n = .ok parsed) :
    parsed.fragment = a + 5 ∧ parsed.total = parsed.length + 5 ∧ ∃ version,
      Proper parsed.type version (slice m parsed.fragment parsed.length) ∧
        slice m a parsed.total = wholeRecord parsed.type version (slice m parsed.fragment parsed.length) := by
  rw [tls_record_parse] at accepted
  split at accepted
  · cases accepted
  split at accepted
  · cases accepted
  next content =>
  split at accepted
  · cases accepted
  next known =>
  dsimp only at accepted
  generalize bound : (if m a = applicationData then maxCiphertext else maxPlaintext) = limit at accepted
  split at accepted
  · cases accepted
  next short =>
  split at accepted
  · cases accepted
  cases accepted
  have low := (m (a+2)).toNat_lt
  simp only [be16,show a + 1 + 1 = a + 2 from rfl] at known
  refine ⟨rfl,rfl,m (a+2),⟨?_,by simpa using content,?_⟩,?_⟩
  · rw [← UInt8.toNat_inj,← UInt8.toNat_inj]
    change (m (a+2)).toNat = 1 ∨ (m (a+2)).toNat = 3
    omega
  · rw [slice_length]
    exact (not_lt.mp short).trans bound.ge
  · have high : m (a+1) = 3 := by
      rw [← UInt8.toNat_inj]
      change (m (a+1)).toNat = 3
      omega
    have first := (m (a+3)).toNat_lt
    have second := (m (a+4)).toNat_lt
    have front : UInt8.ofNat (be16 m (a+3) / 256) = m (a+3) := by
      rw [← UInt8.toNat_inj,UInt8.toNat_ofNat',be16]
      simp only [show a + 3 + 1 = a + 4 from rfl]
      omega
    have back : UInt8.ofNat (be16 m (a+3)) = m (a+4) := by
      rw [← UInt8.toNat_inj,UInt8.toNat_ofNat',be16]
      simp only [show a + 3 + 1 = a + 4 from rfl]
      omega
    dsimp only
    rw [Nat.add_comm (be16 m (a+3)),slice_add,wholeRecord,slice_length,front,back,← high]
    rfl

/-- A record at `buf`, and what has come off the stream for it behind the first `k` octets. -/
structure Delivers (buf cap k : Nat) (reads reads' : List ReadEvent) (m' : Mem) (parsed : Parsed) : Prop where
  parses : tls_record_parse m' buf parsed.total = .ok parsed
  fits : parsed.total ≤ cap
  header : 5 ≤ parsed.total
  given : k ≤ parsed.total
  came : stream reads = (slice m' (buf+k) (parsed.total-k)).map some ++ stream reads'

theorem parse_delivers {k n : Nat} {parsed : Parsed} (length : be16 m' (buf+3) + 5 = n)
    (parses : tls_record_parse m' buf n = .ok parsed) (fits : n ≤ cap) (given : k ≤ n)
    (came : stream reads = (slice m' (buf+k) (n-k)).map some ++ stream reads') :
    Delivers buf cap k reads reads' m' parsed := by
  obtain rfl : parsed.total = n := (tls_record_parse_total parses).trans length
  exact ⟨parses,fits,by omega,given,came⟩

/-- One read behind the other. -/
theorem came_append {reads₁ reads₂ : List ReadEvent} {m₁ m₂ : Mem} {a n k : Nat}
    (first : stream reads = (slice m₁ a n).map some ++ stream reads₁) (kept : slice m₂ a n = slice m₁ a n)
    (second : stream reads₁ = (slice m₂ (a+n) k).map some ++ stream reads₂) :
    stream reads = (slice m₂ a (n+k)).map some ++ stream reads₂ := by
  rw [first,second,← kept,slice_add,List.map_append,List.append_assoc]

theorem readShortfall_delivers {j : Nat} {parsed : Parsed} (there : 5 ≤ j)
    (read : readShortfall reads m buf cap j = (.ok parsed,m',reads')) :
    Delivers buf cap j reads reads' m' parsed ∧ slice m' buf j = slice m buf j := by
  rw [readShortfall] at read
  split at read
  · cases read
  next fits =>
  split at read
  · next all =>
    simp only [Prod.mk.injEq] at read
    obtain ⟨parses,rfl,rfl⟩ := read
    refine ⟨parse_delivers rfl parses (by omega) (by omega) ?_,rfl⟩
    rw [← all,Nat.sub_self]
    rfl
  next some_ =>
  split at read
  · cases read
  next few =>
  cases more : raw_read_exact reads m (buf+j) (be16 m (buf+3) + 5 - j) with
  | mk reads₁ result =>
    obtain ⟨m₁,ok⟩ := result
    rw [more] at read
    cases ok with
    | false => cases read
    | true =>
      simp only [Prod.mk.injEq] at read
      obtain ⟨parses,rfl,rfl⟩ := read
      have changes := raw_read_exact_changes reads m (buf+j) (be16 m (buf+3) + 5 - j)
      rw [more] at changes
      have kept : slice m₁ buf j = slice m buf j := changes.slice (by simp)
      exact ⟨parse_delivers (by rw [be16_slice kept there]) parses (by omega) (by omega) (raw_read_exact_reads more),kept⟩

/-- The record is of the octets that were there and the ones that have come. -/
theorem read_record_prefilled_delivers {k : Nat} {parsed : Parsed}
    (read : tls_read_record_prefilled reads m buf cap k = (.ok parsed,m',reads')) :
    Delivers buf cap k reads reads' m' parsed ∧ slice m' buf k = slice m buf k := by
  rw [tls_read_record_prefilled] at read
  split at read
  · next there => exact readShortfall_delivers there read
  next short =>
  cases first : raw_read_exact reads m (buf+k) (5-k) with
  | mk reads₁ result =>
    obtain ⟨m₁,ok⟩ := result
    rw [first] at read
    cases ok with
    | false => cases read
    | true =>
      obtain ⟨delivers,kept⟩ := readShortfall_delivers le_rfl read
      have changes := raw_read_exact_changes reads m (buf+k) (5-k)
      rw [first] at changes
      have octets := slice_eq_iff.mp kept
      have part : slice m' (buf+k) (5-k) = slice m₁ (buf+k) (5-k) := slice_congr fun i inside => by
        rw [Nat.add_assoc]
        exact octets (k+i) (by omega)
      have came := delivers.came
      rw [show buf + 5 = buf + k + (5-k) by omega] at came
      have all := came_append (raw_read_exact_reads first) part came
      have header := delivers.header
      refine ⟨⟨delivers.parses,delivers.fits,header,by omega,?_⟩,?_⟩
      · rw [all]
        congr 3
        omega
      · have front : slice m' buf k = slice m₁ buf k := slice_congr fun i inside => octets i (by omega)
        exact front.trans (changes.slice (by simp))

theorem read_record_prefilled_changes (reads : List ReadEvent) (m : Mem) (k : Nat) (room : 5 ≤ cap) :
    ChangesOnly [(buf,cap)] m (tls_read_record_prefilled reads m buf cap k).2.1 := by
  rw [tls_read_record_prefilled]
  split
  · exact readShortfall_changes reads m k
  have changes := raw_read_exact_changes reads m (buf+k) (5-k)
  cases first : raw_read_exact reads m (buf+k) (5-k) with
  | mk reads₁ result =>
    obtain ⟨m₁,ok⟩ := result
    rw [first] at changes
    have header : ChangesOnly [(buf,cap)] m m₁ := changes.mono (by simp; omega)
    cases ok with
    | false => exact header
    | true => exact header.trans (readShortfall_changes reads₁ m₁ 5)

/-- With nothing read before, both readers are the same. -/
theorem tls_read_record_eq : tls_read_record reads m buf cap = tls_read_record_prefilled reads m buf cap 0 := by
  rw [tls_read_record,tls_read_record_prefilled,if_neg (by decide)]
  cases raw_read_exact reads m buf 5 with
  | mk reads₁ result =>
    obtain ⟨m₁,ok⟩ := result
    cases ok with
    | false => rfl
    | true =>
      dsimp only
      rw [readFragment,readShortfall]
      split
      · rfl
      · next fits =>
        by_cases none : be16 m₁ (buf+3) = 0
        · rw [none,raw_read_exact]
          rfl
        · rw [if_neg (by omega),if_neg (by omega),Nat.add_sub_cancel]

theorem tls_read_record_delivers {parsed : Parsed} (read : tls_read_record reads m buf cap = (.ok parsed,m',reads')) :
    Delivers buf cap 0 reads reads' m' parsed :=
  (read_record_prefilled_delivers (tls_read_record_eq.symm.trans read)).1

/-- Every record takes octets off the stream. -/
theorem tls_read_record_shorter {parsed : Parsed} (read : tls_read_record reads m buf cap = (.ok parsed,m',reads')) :
    (stream reads').length < (stream reads).length := by
  have delivers := tls_read_record_delivers read
  have header := delivers.header
  rw [delivers.came,List.length_append,List.length_map,slice_length]
  omega

theorem tls_read_record_changes (reads : List ReadEvent) (m : Mem) (room : 5 ≤ cap) :
    ChangesOnly [(buf,cap)] m (tls_read_record reads m buf cap).2.1 := by
  rw [tls_read_record_eq]
  exact read_record_prefilled_changes reads m 0 room

/-! ### A record that is there -/

variable {type version : UInt8} {text : List UInt8} {s : List (Option UInt8)}

/-- What the header of it says. -/
theorem be16_wholeRecord {m : Mem} (held : slice m buf 5 = (wholeRecord type version text).take 5)
    (small : text.length < 65536) :
    m buf = type ∧ be16 m (buf+1) = 768 + version.toNat ∧ be16 m (buf+3) = text.length := by
  have octets : [m buf,m (buf+1),m (buf+2),m (buf+3),m (buf+4)] =
      [type,3,version,UInt8.ofNat (text.length / 256),UInt8.ofNat text.length] := held
  simp only [List.cons.injEq,and_true] at octets
  obtain ⟨first,second,third,high,low⟩ := octets
  refine ⟨first,?_,?_⟩
  · rw [be16,second,show buf + 1 + 1 = buf + 2 from rfl,third]
    rfl
  · rw [be16,high,show buf + 3 + 1 = buf + 4 from rfl,low,UInt8.toNat_ofNat',UInt8.toNat_ofNat']
    omega

theorem parse_wholeRecord {m : Mem} {n : Nat} (proper : Proper type version text)
    (held : slice m buf 5 = (wholeRecord type version text).take 5) (there : text.length + 5 ≤ n) :
    tls_record_parse m buf n = .ok ⟨type,buf + 5,text.length,text.length + 5⟩ := by
  obtain ⟨first,words,length⟩ := be16_wholeRecord held proper.small
  have version : be16 m (buf+1) = 0x0303 ∨ be16 m (buf+1) = 0x0301 := by
    rw [words]
    rcases proper.known with rfl | rfl
    · exact .inr rfl
    · exact .inl rfl
  rw [tls_record_parse,if_neg (by omega),first,proper.content,if_neg (by decide),if_neg (by omega),length]
  dsimp only
  rw [if_neg (not_lt.mpr proper.short),if_neg (by omega)]

/-- Octets that are there are read. -/
theorem raw_read_exact_there {reads : List ReadEvent} {octets : List UInt8} {a n : Nat} (m : Mem)
    (there : stream reads = octets.map some ++ s) (count : octets.length = n) :
    ∃ reads' m', raw_read_exact reads m a n = (reads',m',true) ∧ slice m' a n = octets ∧ stream reads' = s ∧
      ChangesOnly [(a,n)] m m' := by
  have taken := takeOctets_part octets (n := n) count.ge s
  rw [← there,List.take_of_length_le count.le,List.drop_of_length_le count.le] at taken
  obtain ⟨left,_,whole⟩ := raw_read_exact_takes reads m a n
  have read := @raw_read_exact_slice reads m a n (by rw [taken])
  have changes := raw_read_exact_changes reads m a n
  rw [taken] at left whole read
  generalize raw_read_exact reads m a n = result at left whole read changes
  obtain ⟨reads',m',ok⟩ := result
  dsimp only at whole
  subst whole
  exact ⟨reads',m',rfl,read,left,changes⟩

/-- The rest of a record that is there. -/
theorem readShortfall_reads {reads : List ReadEvent} {m : Mem} {j : Nat} (proper : Proper type version text)
    (fits : text.length + 5 ≤ cap) (header : 5 ≤ j) (few : j ≤ text.length + 5)
    (front : slice m buf j = (wholeRecord type version text).take j)
    (rest : stream reads = ((wholeRecord type version text).drop j).map some ++ s) :
    ∃ m' reads', readShortfall reads m buf cap j = (.ok ⟨type,buf + 5,text.length,text.length + 5⟩,m',reads') ∧
      slice m' buf (text.length + 5) = wholeRecord type version text ∧ stream reads' = s := by
  have size := @wholeRecord_length type version text
  have five {m : Mem} (held : slice m buf j = (wholeRecord type version text).take j) :
      slice m buf 5 = (wholeRecord type version text).take 5 := by
    have taken := congrArg (List.take 5) held
    rw [List.take_take,Nat.min_eq_left header] at taken
    rw [← taken,← List.drop_zero (l := slice m buf j),slice_drop_take (by omega),Nat.add_zero]
  rw [readShortfall,(be16_wholeRecord (five front) proper.small).2.2,if_neg (by omega)]
  by_cases all : j = text.length + 5
  · rw [if_pos all,parse_wholeRecord proper (five front) le_rfl]
    subst all
    rw [List.take_of_length_le (by omega)] at front
    rw [List.drop_of_length_le (by omega)] at rest
    exact ⟨m,reads,rfl,front,rest⟩
  · rw [if_neg all,if_neg (by omega)]
    obtain ⟨reads',m',read,behind,left,changes⟩ := @raw_read_exact_there _ _ _ (buf+j) (text.length + 5 - j) m rest
      (by rw [List.length_drop,size])
    have kept : slice m' buf j = (wholeRecord type version text).take j := (changes.slice (by simp)).trans front
    rw [read]
    refine ⟨m',reads',?_,?_,left⟩
    · dsimp only
      rw [parse_wholeRecord proper (five kept) le_rfl]
    · rw [show text.length + 5 = j + (text.length + 5 - j) by omega,slice_add,kept,behind,List.take_append_drop]

/-- A record that is there is read, with as much of it as there was before. -/
theorem read_record_prefilled_reads {reads : List ReadEvent} {m : Mem} {k : Nat} (proper : Proper type version text)
    (fits : text.length + 5 ≤ cap) (few : k ≤ text.length + 5)
    (there : (slice m buf k).map some ++ stream reads = (wholeRecord type version text).map some ++ s) :
    ∃ m' reads', tls_read_record_prefilled reads m buf cap k =
        (.ok ⟨type,buf + 5,text.length,text.length + 5⟩,m',reads') ∧
      slice m' buf (text.length + 5) = wholeRecord type version text ∧ stream reads' = s := by
  have size := @wholeRecord_length type version text
  rw [← List.take_append_drop k (wholeRecord type version text),List.map_append,List.append_assoc] at there
  obtain ⟨first,rest⟩ := List.append_inj there (by rw [List.length_map,List.length_map,slice_length,List.length_take]; omega)
  have front := List.map_injective_iff.mpr (Option.some_injective _) first
  rw [tls_read_record_prefilled]
  by_cases header : 5 ≤ k
  · rw [if_pos header]
    exact readShortfall_reads proper fits header few front rest
  · rw [if_neg header]
    have split : (wholeRecord type version text).drop k =
        ((wholeRecord type version text).drop k).take (5-k) ++ (wholeRecord type version text).drop 5 := by
      conv_lhs => rw [← List.take_append_drop (5-k) ((wholeRecord type version text).drop k),List.drop_drop]
      rw [show k + (5-k) = 5 by omega]
    rw [split,List.map_append,List.append_assoc] at rest
    obtain ⟨reads',m',read,behind,left,changes⟩ := @raw_read_exact_there _ _ _ (buf+k) (5-k) m rest
      (by rw [List.length_take,List.length_drop,size]; omega)
    rw [read]
    refine readShortfall_reads proper fits le_rfl (by omega) ?_ left
    have kept : slice m' buf k = (wholeRecord type version text).take k := (changes.slice (by simp)).trans front
    rw [show (5:Nat) = k + (5-k) by omega,slice_add,List.take_add,kept,behind]

end

/-! ### Nonces -/

/-- The number can be read off the nonce. -/
theorem recordNonce_injective {iv : List UInt8} (width : iv.length = 12) {a b : BitVec 64}
    (same : recordNonce iv a = recordNonce iv b) : a = b := by
  refine word_ext 8 (by decide) fun k inside => ?_
  have nonce (v : BitVec 64) : (recordNonce iv v)[11-k]? = some (iv.get ⟨11-k,by omega⟩ ^^^ octet v k) := by
    rw [recordNonce,List.getElem?_zipWith,List.getElem?_append_right (by simp; omega),
      List.getElem?_eq_getElem (l := iv) (by omega)]
    simp only [List.length_cons,List.length_nil,List.getElem?_map]
    rw [List.getElem?_range (by omega)]
    simp only [Option.map_some]
    congr 3
    omega
  have both := (nonce a).symm.trans ((congrArg (fun l => l[11-k]?) same).trans (nonce b))
  exact (UInt8.xor_right_inj _).mp (Option.some.inj both)

/-! ### Opening a record where it is -/

section
variable {m m' : Mem} {a a' : Nat}

theorem lastNonzero_slice : ∀ {n : Nat}, slice m a n = slice m' a' n → lastNonzero m a n = lastNonzero m' a' n := by
  intro n
  induction n with
  | zero => exact fun _ => rfl
  | succ n ih =>
    intro same
    have octets := slice_eq_iff.mp same
    rw [lastNonzero,lastNonzero,octets n (Nat.lt_succ_self n),ih (slice_congr fun i inside => octets i (by omega))]

theorem lastNonzero_lt : ∀ {n k : Nat}, lastNonzero m a n = some k → k < n := by
  intro n
  induction n with
  | zero => exact fun {k} none => by cases none
  | succ n ih =>
    intro k found
    rw [lastNonzero] at found
    split at found
    · exact (ih found).trans (Nat.lt_succ_self n)
    · cases found
      exact Nat.lt_succ_self n

/-- The type is looked for in these octets. -/
theorem innerType_slice {n : Nat} (same : slice m a n = slice m' a' n) : innerType m a n = innerType m' a' n := by
  rw [innerType,innerType,lastNonzero_slice same]
  cases found : lastNonzero m' a' n with
  | none => rfl
  | some k =>
    dsimp only
    rw [slice_eq_iff.mp same k (lastNonzero_lt found)]

theorem innerType_lt {n k : Nat} {type : UInt8} (marked : innerType m a n = .ok (k,type)) : k < n := by
  rw [innerType] at marked
  cases found : lastNonzero m a n with
  | none =>
    rw [found] at marked
    cases marked
  | some k' =>
    rw [found] at marked
    dsimp only at marked
    split at marked
    · cases marked
      exact lastNonzero_lt found
    · cases marked

/-- What is opened is what the keys open. -/
theorem decrypt_epoch {key : List UInt8} {sp record total ctx iv out : Nat} {seq : BitVec 64}
    (context : Context key m ctx) (below : out ≤ record+5) (frameRecord : Apart (sp+56) 12 record total)
    (frameContext : Apart (sp+56) 12 ctx 304) (width : be16 m (record+3) + 5 = total) :
    ∃ reply m', tls_record_decrypt m sp record total ctx iv seq out = (reply,m') ∧
      ChangesOnly [(out,total),(sp+56,12)] m m' ∧
      match Epoch.open ⟨aes128 key,slice m iv 12⟩ seq (slice m record total) with
      | some (text,type) => reply = .ok (text.length,type) ∧ slice m' out text.length = text
      | none => ∃ e, reply = .error e := by
  have field : be16 (ofBytes (slice m record total)) 3 = be16 m (record+3) := by
    rw [be16,be16,ofBytes_slice (by omega),ofBytes_slice (by omega)]
  rw [Epoch.open,field,slice_length]
  dsimp only
  by_cases unfit : be16 m (record+3) < 17 ∨ maxAead < be16 m (record+3) ∨ total < be16 m (record+3) + 5
  · obtain ⟨e,refused⟩ := @decrypt_unfit m record sp ctx iv total out seq unfit
    rw [if_pos unfit]
    exact ⟨.error e,m,refused,.refl _ _,e,rfl⟩
  rw [if_neg unfit]
  obtain ⟨n,length⟩ : ∃ n, be16 m (record+3) = n + 16 := ⟨be16 m (record+3) - 16,by omega⟩
  have opened := @decrypt_behind m record key sp n ctx iv total out seq context (.inl below)
    (by rw [← width,length] at frameRecord; exact frameRecord) frameContext length (by omega) (by omega) (by omega)
  have front : (slice m record total).take 5 = slice m record 5 := by
    rw [← List.drop_zero (l := slice m record total),slice_drop_take (by omega),Nat.add_zero]
  have middle : ((slice m record total).drop 5).take n = slice m (record+5) n := slice_drop_take (by omega)
  have back : ((slice m record total).drop (5+n)).take 16 = slice m (record+5+n) 16 := by
    rw [slice_drop_take (by omega),Nat.add_assoc]
  rw [length,Nat.add_sub_cancel,front,middle,back]
  rw [openedRecord] at opened
  generalize decrypt (aes128 key) (recordNonce (slice m iv 12) seq) (slice m record 5) (slice m (record+5) n)
    (slice m (record+5+n) 16) = plain at opened
  cases plain with
  | none =>
    obtain ⟨m',run,kept⟩ := opened
    exact ⟨_,m',run,fun i outside => kept i (outside (sp+56,12) (by simp)),_,rfl⟩
  | some inner =>
    obtain ⟨m',run,text,kept⟩ := opened
    have size : inner.length = n := by rw [← text,slice_length]
    have same : slice m' out n = slice (ofBytes inner) 0 n := by
      rw [text,← size,slice_ofBytes]
    refine ⟨_,m',run,fun i outside => ?_,?_⟩
    · have first := outside (out,total) (by simp)
      exact kept i (by omega) (outside (sp+56,12) (by simp))
    · dsimp only
      rw [size,innerType_slice same]
      cases marked : innerType (ofBytes inner) 0 n with
      | error e => exact ⟨e,rfl⟩
      | ok pair =>
        obtain ⟨k,type⟩ := pair
        have inside := innerType_lt marked
        refine ⟨?_,?_⟩
        · rw [List.length_take,size,Nat.min_eq_left inside.le]
        · rw [List.length_take,size,Nat.min_eq_left inside.le,← text,← List.drop_zero (l := slice m' out n),
            slice_drop_take (by omega),Nat.add_zero]

end
end Sarm.Tls
