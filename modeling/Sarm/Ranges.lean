import Sarm.Http1Response

/-!
The `range` field. The two protocols take the same octets for a range and resolve it to
the same window of a file, which is the one the single byte-range-spec stands for.
-/
namespace Sarm.Http1
open Sarm.Memory Sarm.H2
open Sarm.Hpack (ascii)

/-! ### Byte ranges -/

/-- The number a string of digits stands for. -/
def number (digits : List UInt8) : Nat := digits.foldl (fun value digit => 10 * value + (digit.toNat - '0'.toNat)) 0

/-- A position of a byte-range-spec, which may be left out. -/
def position (digits : List UInt8) : Option Nat := if digits = [] then none else some (number digits)

/-- `bytes=first-last`, `bytes=first-` or `bytes=-count`: a single byte-range-spec that is
    valid, with its positions. The unit is compared without case. -/
def ByteRangeSpec (value : List UInt8) (r : ByteRange) : Prop :=
  ∃ unit first last, value = unit ++ '='.toUInt8 :: (first ++ '-'.toUInt8 :: last) ∧ unit.length = 5 ∧
    streqnI unit (ascii "bytes") ∧ first.all isDigit ∧ last.all isDigit ∧ r = ⟨position first,position last⟩ ∧
    (r.start ≠ none ∨ r.end ≠ none) ∧ ∀ i ∈ r.start, ∀ j ∈ r.end, i ≤ j

/-- The octets of a file it selects: from the first position up to the last one, or as
    many as the count from the end of the file. -/
def Selects (r : ByteRange) (size i : Nat) : Prop :=
  i < size ∧ match r.start with
    | some first => first ≤ i ∧ ∀ last ∈ r.end, i ≤ last
    | none => ∀ count ∈ r.end, size ≤ i + count

/-- A range can be satisfied: it starts inside the file, or its count is not zero. -/
def Satisfiable (r : ByteRange) (size : Nat) : Prop :=
  match r.start with
  | some first => first < size
  | none => r.end ≠ some 0

/-- What a server that takes the range may do: send the octets it selects, the whole file
    if there are none to select, or say that it cannot be satisfied. -/
def Resolves (r : ByteRange) (size : Nat) : RangeReply → Prop
  | .window start «end» => start ≤ «end» ∧ «end» < size ∧ ∀ i, Selects r size i ↔ start ≤ i ∧ i ≤ «end»
  | .whole => Satisfiable r size ∧ size = 0
  | .unsatisfiable => ¬Satisfiable r size

/-! ### The digits -/

variable {value rest digits first last : List UInt8}

/-- Behind the value of a field there is the end of its line. -/
theorem lineDigits_return (free : ∀ octet ∈ value, octet ≠ '\r'.toUInt8 ∧ octet ≠ '\n'.toUInt8)
    (rest digits : List UInt8) :
    lineDigits (value ++ '\r'.toUInt8 :: rest) digits = endDigits value digits := by
  induction value generalizing digits with
  | nil => rw [List.nil_append,lineDigits,endDigits,if_pos rfl]
  | cons octet value ih =>
    obtain ⟨noReturn,noFeed⟩ := free octet (by simp)
    rw [List.cons_append,lineDigits,endDigits,if_neg noReturn,if_neg (not_or.2 ⟨noReturn,noFeed⟩),
      ih (fun octet mem => free octet (by simp [mem]))]

theorem startDigits_return (value rest digits : List UInt8) :
    startDigits (value ++ '\r'.toUInt8 :: rest) digits =
      (startDigits value digits).map fun (first,last) => (first,last ++ '\r'.toUInt8 :: rest) := by
  induction value generalizing digits with
  | nil =>
    rw [List.nil_append,startDigits,startDigits,if_neg (by decide),if_neg (by decide)]
    rfl
  | cons octet value ih =>
    rw [List.cons_append,startDigits,startDigits,ih]
    split
    · rfl
    split
    · split <;> rfl
    · rfl

/-- What `startDigits` takes is what is in front of the dash. -/
theorem startDigits_some (parsed : startDigits value digits = some (first,rest)) :
    ∃ more, first = digits ++ more ∧ value = more ++ '-'.toUInt8 :: rest ∧ more.all isDigit ∧
      (digits.length ≤ 18 → first.length ≤ 18) := by
  induction value generalizing digits with
  | nil => cases parsed
  | cons octet value ih =>
    rw [startDigits] at parsed
    split at parsed
    · next dash =>
      cases parsed
      exact ⟨[],by simp,by simp [dash],rfl,id⟩
    split at parsed
    · next digit =>
      split at parsed
      · contradiction
      next room =>
      obtain ⟨more,rfl,rfl,all,short⟩ := ih parsed
      refine ⟨octet :: more,by simp,rfl,by simp only [List.all_cons,digit,all,Bool.and_self],fun _ => short ?_⟩
      simp only [List.length_append,List.length_singleton]
      omega
    · contradiction

theorem endDigits_some (free : ∀ octet ∈ value, octet ≠ '\r'.toUInt8 ∧ octet ≠ '\n'.toUInt8)
    (parsed : endDigits value digits = some last) :
    last = digits ++ value ∧ value.all isDigit ∧ (digits.length ≤ 18 → last.length ≤ 18) := by
  induction value generalizing digits with
  | nil => cases parsed; simp
  | cons octet value ih =>
    obtain ⟨noReturn,noFeed⟩ := free octet (by simp)
    rw [endDigits,if_neg (not_or.2 ⟨noReturn,noFeed⟩)] at parsed
    split at parsed
    · next digit =>
      split at parsed
      · contradiction
      next room =>
      obtain ⟨rfl,all,short⟩ := ih (fun octet mem => free octet (by simp [mem])) parsed
      refine ⟨by simp,by simp only [List.all_cons,digit,all,Bool.and_self],fun _ => short ?_⟩
      simp only [List.length_append,List.length_singleton]
      omega
    · contradiction

theorem rangeBound_some {bound : Option Nat} (made : rangeBound digits = some bound) : bound = position digits := by
  rw [rangeBound] at made
  rw [position]
  split at made
  · next none => cases made; rw [if_pos none]
  · next some =>
    rw [if_neg some]
    rw [atoiN] at made
    split at made
    · cases made
    · cases made; rfl

/-! ### The value -/

/-- The end of a range behind its start. -/
theorem range_bounds {start «end» : Option Nat} {r : ByteRange}
    (made : (match start, «end» with
      | none, none => none
      | some start, some «end» => if «end» < start then none else some ⟨some start,some «end»⟩
      | _, _ => some ⟨start,«end»⟩) = some r) :
    r = ⟨start,«end»⟩ ∧ (start ≠ none ∨ «end» ≠ none) ∧ ∀ i ∈ start, ∀ j ∈ «end», i ≤ j := by
  cases start with
  | none =>
    cases «end» with
    | none => cases made
    | some j => cases made; simp
  | some i =>
    cases «end» with
    | none => cases made; simp
    | some j =>
      dsimp only at made
      split at made
      · cases made
      · next le => cases made; simp; omega

theorem rangeValue_ordered {r : ByteRange} (parsed : rangeValue value = some r) : ∀ i ∈ r.start, ∀ j ∈ r.end, i ≤ j := by
  rw [rangeValue] at parsed
  split at parsed
  · contradiction
  split at parsed
  · contradiction
  simp only [Option.bind_eq_bind,Option.bind_eq_some_iff] at parsed
  obtain ⟨_,_,start,_,_,_,«end»,_,made⟩ := parsed
  obtain ⟨rfl,_,ordered⟩ := range_bounds made
  exact ordered

/-- The two protocols read a value alike. -/
theorem rangeValue_return (free : ∀ octet ∈ value, octet ≠ '\r'.toUInt8 ∧ octet ≠ '\n'.toUInt8) (rest : List UInt8) :
    rangeValue (value ++ '\r'.toUInt8 :: rest) = h2ParseRange value := by
  rw [rangeValue,h2ParseRange]
  dsimp only
  by_cases short : value.length < 6
  · -- the carriage return stands where the unit or the equals sign should
    rw [if_pos short]
    split
    · rfl
    next long =>
    refine if_pos ?_
    by_cases unit : value.length = 5
    · right
      simp [unit]
      decide
    · left
      rw [Bool.eq_false_iff]
      intro same
      have length : ((value ++ '\r'.toUInt8 :: rest).take 5).length = (ascii "bytes").length := by
        rw [List.length_take_of_le (by omega)]
        rfl
      have folded := (streqnI_iff length (by decide +kernel)).1 same
      have present : '\r'.toUInt8 ∈ (value ++ '\r'.toUInt8 :: rest).take 5 := by
        rw [List.take_append,show 5 - value.length = 5 - value.length - 1 + 1 by omega,List.take_succ_cons]
        simp
      have inUnit : foldCase '\r'.toUInt8 ∈ (ascii "bytes").map foldCase := folded ▸ List.mem_map_of_mem present
      exact absurd inUnit (by decide)
  · rw [if_neg short,if_neg (by simp; omega),List.take_append_of_le_length (by omega),List.drop_append_of_le_length
      (by omega),List.getElem?_append_left (by omega),startDigits_return]
    refine ite_congr rfl (fun _ => rfl) fun _ => ?_
    cases parsed : startDigits (value.drop 6) [] with
    | none => rfl
    | some digits =>
      obtain ⟨first,behind⟩ := digits
      obtain ⟨more,_,split,_,_⟩ := startDigits_some parsed
      have behindFree : ∀ octet ∈ behind, octet ≠ '\r'.toUInt8 ∧ octet ≠ '\n'.toUInt8 := by
        intro octet mem
        have : octet ∈ value.drop 6 := by rw [split]; simp [mem]
        exact free octet (List.mem_of_mem_drop this)
      have line := lineDigits_return behindFree rest []
      rw [Option.map_some]
      refine congrArg (Option.bind (rangeBound first)) (funext fun start => ?_)
      exact congrArg (fun reply => Option.bind reply _) line

/-- A range that is taken is a single byte-range-spec, of a few octets. -/
theorem h2ParseRange_spec (free : ∀ octet ∈ value, octet ≠ '\r'.toUInt8 ∧ octet ≠ '\n'.toUInt8) {r : ByteRange}
    (parsed : h2ParseRange value = some r) : ByteRangeSpec value r ∧ value.length < rangeBufSize := by
  rw [h2ParseRange] at parsed
  dsimp only at parsed
  split at parsed
  · contradiction
  next long =>
  split at parsed
  · contradiction
  next prefixed =>
  simp only [not_or,Bool.not_eq_false,ne_eq,not_not] at prefixed
  simp only [Option.bind_eq_bind,Option.bind_eq_some_iff] at parsed
  obtain ⟨⟨first,behind⟩,firstParsed,start,startBound,last,lastParsed,«end»,endBound,made⟩ := parsed
  obtain ⟨_,rfl,split,firstDigits,firstShort⟩ := startDigits_some firstParsed
  have inside : ∀ octet ∈ behind, octet ∈ value := by
    intro octet mem
    have : octet ∈ value.drop 6 := by rw [split]; simp [mem]
    exact List.mem_of_mem_drop this
  obtain ⟨rfl,lastDigits,lastShort⟩ := endDigits_some (fun octet mem => free octet (inside octet mem)) lastParsed
  obtain rfl := rangeBound_some startBound
  obtain rfl := rangeBound_some endBound
  obtain ⟨rfl,bounded,ordered⟩ := range_bounds made
  have whole : value = value.take 5 ++ '='.toUInt8 :: value.drop 6 := by
    obtain ⟨inside,equals⟩ := List.getElem?_eq_some_iff.1 prefixed.2
    calc value = value.take 5 ++ value.drop 5 := (List.take_append_drop 5 value).symm
      _ = value.take 5 ++ '='.toUInt8 :: value.drop 6 := by rw [List.drop_eq_getElem_cons inside,equals]
  constructor
  · exact ⟨value.take 5,_,_,split ▸ whole,List.length_take_of_le (by omega),prefixed.1,firstDigits,lastDigits,rfl,
      bounded,ordered⟩
  · have first := firstShort (by simp)
    have last := lastShort (by simp)
    have behind := congrArg List.length split
    simp only [List.length_drop,List.length_append,List.length_cons] at behind first last
    rw [rangeBufSize]
    omega

/-! ### The window -/

variable {r : ByteRange} {size : Nat}

/-- HTTP/2 looks at the order of the positions again, HTTP/1 at the start of the window. -/
theorem getRange_resolve (ordered : ∀ i ∈ r.start, ∀ j ∈ r.end, i ≤ j) : getRange r size = h2ResolveRange r size := by
  obtain ⟨start,«end»⟩ := r
  rw [getRange,h2ResolveRange]
  cases start with
  | none =>
    dsimp only
    split
    · rfl
    split
    · rfl
    split
    · exact if_neg (by omega)
    · exact if_neg (by omega)
  | some start =>
    dsimp only
    by_cases empty : size = 0
    · rw [if_pos (.inl empty),if_pos empty]
    by_cases behind : size ≤ start
    · rw [if_pos (.inr behind),if_neg empty,if_pos behind]
    rw [if_neg (not_or.2 ⟨empty,behind⟩),if_neg empty,if_neg behind]
    cases «end» with
    | none => exact if_neg behind
    | some «end» =>
      have order : start ≤ «end» := ordered start rfl «end» rfl
      dsimp only
      rw [if_neg (by omega : ¬«end» < start)]
      exact if_neg behind

/-- What a range comes to is what it stands for. -/
theorem resolve_resolves (bounded : r.start ≠ none ∨ r.end ≠ none) (ordered : ∀ i ∈ r.start, ∀ j ∈ r.end, i ≤ j) :
    Resolves r size (h2ResolveRange r size) := by
  obtain ⟨start,«end»⟩ := r
  rw [h2ResolveRange]
  cases start with
  | none =>
    cases «end» with
    | none => simp at bounded
    | some count =>
      simp only [Option.getD_some]
      split
      · next zero => simp [Resolves,Satisfiable,zero]
      next counted =>
      split
      · next empty => simp [Resolves,Satisfiable,counted,empty]
      split
      · refine ⟨by omega,by omega,fun i => ?_⟩
        simp only [Selects,Option.mem_def,Option.some.injEq,forall_eq']
        omega
      · refine ⟨by omega,by omega,fun i => ?_⟩
        simp only [Selects,Option.mem_def,Option.some.injEq,forall_eq']
        omega
  | some start =>
    dsimp only
    split
    · next empty => simp [Resolves,Satisfiable,empty]
    split
    · next behind => simp [Resolves,Satisfiable,behind]
    next inside =>
    cases «end» with
    | none =>
      refine ⟨by omega,by omega,fun i => ?_⟩
      simp only [Selects,Option.mem_def,reduceCtorEq,false_implies,implies_true,and_true]
      omega
    | some «end» =>
      have order : start ≤ «end» := ordered start rfl «end» rfl
      dsimp only
      rw [if_neg (by omega : ¬«end» < start)]
      refine ⟨by split <;> omega,by split <;> omega,fun i => ?_⟩
      simp only [Selects,Option.mem_def,Option.some.injEq,forall_eq']
      split <;> omega

theorem parseRange_ordered {hdr : Mem} {len : Nat} (parsed : parseRange hdr len = .ok (some r)) :
    ∀ i ∈ r.start, ∀ j ∈ r.end, i ≤ j := by
  rw [parseRange] at parsed
  split at parsed
  · cases parsed
  · cases parsed
  · simp only [Except.ok.injEq] at parsed
    exact rangeValue_ordered parsed

/-- A window that HTTP/1 makes of a range it has read lies in the file. -/
theorem getRange_inside {hdr : Mem} {len start «end» : Nat} (parsed : parseRange hdr len = .ok (some r))
    (chosen : getRange r size = .window start «end») : start ≤ «end» ∧ «end» < size :=
  resolve_inside (getRange_resolve (parseRange_ordered parsed) ▸ chosen)

/-! ### The two protocols -/

/-- What the range of a header comes to on a file. -/
def http1Range (hdr : Mem) (len size : Nat) : Except Nat RangeReply :=
  (parseRange hdr len).map fun range => range.elim .whole (getRange · size)

/-- What the value of a `range` field comes to. -/
def h2Range (value : List UInt8) (size : Nat) : RangeReply := (h2ParseRange value).elim .whole (h2ResolveRange · size)

/-- What `get` does for a range of the file. -/
def Session.ranged (files : List Resource) (s : Session) (hdr : Mem) (file : Resource) : RangeReply → Session
  | .unsatisfiable => s.replyStatus files hdr 416
  | .whole => s.respond files hdr (resourceReply file none)
  | .window start «end» => s.respond files hdr (resourceReply file (some (start,«end»)))

/-- What the answer of HTTP/2 is for it. -/
def rangedAnswer (file : EmbeddedFile) : RangeReply → Answer
  | .unsatisfiable => .status 416
  | .whole => .body (fileResponse file none)
  | .window start «end» => .body (fileResponse file (some (start,«end»)))

theorem get_ranged {files : List Resource} {s : Session} {hdr : Mem} {len : Nat} {file : Resource} {reply : RangeReply}
    (setup : getSetup files s.req = .ok file) (comes : http1Range hdr len file.content.length = .ok reply) :
    s.get files hdr len = s.ranged files hdr file reply := by
  rw [Session.get,setup]
  rw [http1Range] at comes
  dsimp only
  cases parsed : parseRange hdr len with
  | error code => rw [parsed] at comes; cases comes
  | ok range =>
    rw [parsed] at comes
    cases range with
    | none => cases comes; rfl
    | some range =>
      simp only [Except.map,Option.elim,Except.ok.injEq] at comes
      dsimp only
      rw [comes]
      cases reply <;> rfl

theorem answerFile_ranged {req : Request} {file : EmbeddedFile} (method : req.method = .get) (field : req.range = true) :
    answerFile req file = rangedAnswer file (h2Range (slice req.rangeBuf 0 req.rangeLength) file.content.length) := by
  rw [answerFile,if_neg (by simp [method]),if_pos field,h2Range]
  cases h2ParseRange (slice req.rangeBuf 0 req.rangeLength) with
  | none => rfl
  | some range =>
    simp only [Option.elim]
    cases h2ResolveRange range file.content.length <;> rfl

/-- A value that has been cut off at the size of the buffer was no range before. -/
theorem h2ParseRange_take (free : ∀ octet ∈ value, octet ≠ '\r'.toUInt8 ∧ octet ≠ '\n'.toUInt8) :
    h2ParseRange (value.take rangeBufSize) = h2ParseRange value := by
  by_cases fits : value.length ≤ rangeBufSize
  · rw [List.take_of_length_le fits]
  have long : (value.take rangeBufSize).length = rangeBufSize := List.length_take_of_le (by omega)
  cases whole : h2ParseRange value with
  | some r => exact absurd (h2ParseRange_spec free whole).2 (by omega)
  | none =>
    cases front : h2ParseRange (value.take rangeBufSize) with
    | none => rfl
    | some r =>
      have short := (h2ParseRange_spec (fun octet mem => free octet (List.mem_of_mem_take mem)) front).2
      omega

/-- The range of a header whose field has the value. -/
theorem http1Range_value {hdr : Mem} {len start remaining : Nat} {value rest : List UInt8}
    (found : getHeaderField hdr len (ascii "range") = .found start remaining)
    (line : slice hdr start remaining = value ++ '\r'.toUInt8 :: rest)
    (free : ∀ octet ∈ value, octet ≠ '\r'.toUInt8 ∧ octet ≠ '\n'.toUInt8) (size : Nat) :
    http1Range hdr len size = .ok (h2Range value size) := by
  have parsed : parseRange hdr len = .ok (h2ParseRange value) := by
    rw [parseRange,found]
    dsimp only
    rw [line,rangeValue_return free]
  rw [http1Range,parsed,h2Range]
  cases whole : h2ParseRange value with
  | none => rfl
  | some r =>
    obtain ⟨_,_,_,_,_,_,_,_,_,_,ordered⟩ := (h2ParseRange_spec free whole).1
    exact congrArg Except.ok (getRange_resolve ordered)

/-- The answer to a record with the value, cut off at the size of its buffer. -/
theorem answerFile_value {req : Request} {file : EmbeddedFile} {value : List UInt8}
    (free : ∀ octet ∈ value, octet ≠ '\r'.toUInt8 ∧ octet ≠ '\n'.toUInt8) (method : req.method = .get)
    (field : req.range = true)
    (record : slice req.rangeBuf 0 req.rangeLength = value.take rangeBufSize) :
    answerFile req file = rangedAnswer file (h2Range value file.content.length) := by
  rw [answerFile_ranged method field,record,h2Range,h2ParseRange_take free]
  rfl

/-- On a header whose `range` field has this value, and on a record with it, the two
    handlers do the same with a file: they send it whole, or what the byte-range-spec of
    the value stands for. The reader of a header goes past the blanks in front of a
    value, so that this one does not begin with a blank. -/
theorem ranges_agree {files : List Resource} {s : Session} {hdr : Mem} {len start remaining : Nat} {file : Resource}
    {req : Request} {value rest : List UInt8} (found : getHeaderField hdr len (ascii "range") = .found start remaining)
    (line : slice hdr start remaining = value ++ '\r'.toUInt8 :: rest)
    (free : ∀ octet ∈ value, octet ≠ '\r'.toUInt8 ∧ octet ≠ '\n'.toUInt8) (setup : getSetup files s.req = .ok file)
    (method : req.method = .get) (field : req.range = true)
    (record : slice req.rangeBuf 0 req.rangeLength = value.take rangeBufSize) :
    ∃ reply, s.get files hdr len = s.ranged files hdr file reply ∧
      answerFile req file.toEmbeddedFile = rangedAnswer file.toEmbeddedFile reply ∧
      (reply = .whole ∨ ∃ r, ByteRangeSpec value r ∧ Resolves r file.content.length reply) := by
  refine ⟨h2Range value file.content.length,get_ranged setup (http1Range_value found line free _),
    answerFile_value free method field record,?_⟩
  cases whole : h2ParseRange value with
  | none => exact .inl (by rw [h2Range,whole]; rfl)
  | some r =>
    have spec := (h2ParseRange_spec free whole).1
    obtain ⟨_,_,_,_,_,_,_,_,_,bounded,ordered⟩ := id spec
    refine .inr ⟨r,spec,?_⟩
    rw [h2Range,whole]
    exact resolve_resolves bounded ordered

/-- The last two octets of a file of three. -/
theorem ranges_agree_suffix :
    let file : Resource := ⟨⟨ascii "www/a.txt",ascii "abc",ascii "text/plain",false⟩,[]⟩
    let text := ascii "GET /a.txt HTTP/1.0\r\nRange:  BYTES=-2\r\n\r\n"
    let zero : Mem := fun _ => 0
    let req : Request :=
      ⟨.get,0,9,false,0,false,true,8,false,ofBytes (ascii "www/a.txt"),zero,zero,ofBytes (ascii "BYTES=-2")⟩
    let s : Session := ⟨req,0,0,false,[]⟩
    ∃ reply, s.get [file] (ofBytes text) text.length = s.ranged [file] (ofBytes text) file reply ∧
      answerFile req file.toEmbeddedFile = rangedAnswer file.toEmbeddedFile reply ∧
      (reply = .whole ∨ ∃ r, ByteRangeSpec (ascii "BYTES=-2") r ∧ Resolves r 3 reply) := by
  intro file text zero req s
  have found : getHeaderField (ofBytes text) text.length (ascii "range") = .found 29 12 := by decide
  have line : slice (ofBytes text) 29 12 = ascii "BYTES=-2" ++ '\r'.toUInt8 :: ascii "\n\r\n" := by decide
  exact ranges_agree found line (by decide +kernel) rfl rfl rfl (by decide +kernel)

/-- A blank in front of the value is no part of it to the reader of a header; HTTP/2 finds
    no unit behind it. -/
theorem ranges_agree_blank : ¬∀ (value : List UInt8) (size : Nat),
    (∀ octet ∈ value, octet ≠ '\r'.toUInt8 ∧ octet ≠ '\n'.toUInt8) →
      let text := ascii "GET / HTTP/1.0\r\nRange:" ++ value ++ ascii "\r\n\r\n"
      http1Range (ofBytes text) text.length size = .ok (h2Range value size) := by
  intro agree
  exact absurd (agree (ascii " bytes=0-0") 1 (by decide +kernel)) (by decide +kernel)

end Sarm.Http1
