import Sarm.HeaderEnd
import Sarm.HeaderReads

/-!
The rule on keeping a connection, over the lines of a header. A body announces itself by
a line with its length or its encoding; what else there is to a header is its version
and the first `Connection` line.
-/
namespace Sarm.Http1
open Sarm.Memory Sarm.H2
open Sarm.Hpack (ascii)

/-! ### Lines -/

/-- The end of a line at an index. -/
def LineEnd (hdr : Mem) (i : Nat) : Prop := hdr i = '\r'.toUInt8 ∧ hdr (i + 1) = '\n'.toUInt8

/-- A string is there, ignoring case. -/
def Reads (hdr : Mem) (start : Nat) (s : List UInt8) : Prop := (slice hdr start s.length).map foldCase = s.map foldCase

/-- Behind the end of a line there is one with this field name, inside the header. -/
structure FieldLine (hdr : Mem) (len : Nat) (name : List UInt8) (i : Nat) : Prop where
  lineEnd : LineEnd hdr i
  reads : Reads hdr (i + 2) name
  colon : hdr (i + 2 + name.length) = ':'.toUInt8
  inside : i + 2 + name.length < len

def HasField (hdr : Mem) (len : Nat) (name : List UInt8) : Prop := ∃ i, FieldLine hdr len name i

def Blank (octet : UInt8) : Prop := octet = ' '.toUInt8 ∨ octet = '\t'.toUInt8

/-- The value behind a colon starts at the first octet that is no blank. -/
def ValueAt (hdr : Mem) (colon start : Nat) : Prop :=
  colon < start ∧ (∀ k, colon < k → k < start → Blank (hdr k)) ∧ ¬Blank (hdr start)

variable {hdr : Mem} {len : Nat} {name : List UInt8}

theorem ValueAt.unique {colon start start' : Nat} (value : ValueAt hdr colon start)
    (value' : ValueAt hdr colon start') : start = start' := by
  obtain ⟨past,blanks,octet⟩ := value
  obtain ⟨past',blanks',octet'⟩ := value'
  rcases Nat.lt_trichotomy start start' with before | same | after
  · exact absurd (blanks' start past before) octet
  · exact same
  · exact absurd (blanks start' past' after) octet'

/-- No line of a header is empty but the last. -/
theorem FirstEnd.no_gap (head : FirstEnd hdr len) {i : Nat} (inside : i + 4 < len) (first : LineEnd hdr i) :
    ¬LineEnd hdr (i + 2) := by
  intro second
  refine head.first (i + 4) inside ⟨slice hdr 0 i,?_⟩
  have four : slice hdr i 4 = headerEnd := by
    simp only [slice_succ,slice_zero,first.1,first.2,second.1,second.2]
    rfl
  rw [slice_add,Nat.zero_add,four]

/-! ### The search for a field -/

theorem skipBlanks_present (hdr : Mem) : ∀ (left i : Nat), skipBlanks hdr left i ≠ .absent := by
  intro left
  induction left with
  | zero => rintro i ⟨⟩
  | succ left ih =>
    intro i
    rw [skipBlanks]
    split
    · exact ih (i + 1)
    · rintro ⟨⟩

theorem skipBlanks_value {start remaining : Nat} : ∀ (left i : Nat), skipBlanks hdr left i = .found start remaining →
    ValueAt hdr i start := by
  intro left
  induction left with
  | zero => rintro i ⟨⟩
  | succ left ih =>
    intro i found
    rw [skipBlanks] at found
    split at found
    · next blank =>
      obtain ⟨past,blanks,octet⟩ := ih (i + 1) found
      refine ⟨by omega,fun k low high => ?_,octet⟩
      by_cases first : k = i + 1
      · rw [first]
        exact blank
      · exact blanks k (by omega) high
    · next octet =>
      cases found
      exact ⟨by omega,fun k low high => by omega,octet⟩

/-- The value of a line that starts with the name. -/
theorem fieldValue_value (hdr : Mem) (left i : Nat) :
    match fieldValue hdr left i with
    | .status _ => True
    | .absent => False
    | .found start _ => 0 < left ∧ hdr i = ':'.toUInt8 ∧ ValueAt hdr i start := by
  cases left with
  | zero => trivial
  | succ left =>
    rw [fieldValue]
    by_cases colon : hdr i = ':'.toUInt8
    · rw [if_pos colon]
      have value : ∀ {start remaining}, skipBlanks hdr left i = .found start remaining → ValueAt hdr i start :=
        skipBlanks_value left i
      have present := skipBlanks_present hdr left i
      generalize skipBlanks hdr left i = reply at value present ⊢
      cases reply with
      | status code => trivial
      | absent => exact present rfl
      | found start remaining => exact ⟨Nat.succ_pos left,colon,value rfl⟩
    · rw [if_neg colon]
      trivial

/-- What the search from an index on says about the lines: none has the name, or the first
    that has it has the value. -/
def Searched (hdr : Mem) (len : Nat) (name : List UInt8) (i : Nat) : FieldReply → Prop
  | .status _ => True
  | .absent => ∀ j, i ≤ j → ¬FieldLine hdr len name j
  | .found start remaining => start + remaining = len ∧ ∃ j, i ≤ j ∧ FieldLine hdr len name j ∧
      (∀ k, i ≤ k → k < j → ¬FieldLine hdr len name k) ∧ ValueAt hdr (j + 2 + name.length) start

/-- What holds from a later index on holds from here, if there is no such line in between. -/
theorem Searched.earlier {i n : Nat} {reply : FieldReply} (later : Searched hdr len name (i + n) reply)
    (between : ∀ j, i ≤ j → j < i + n → ¬FieldLine hdr len name j) : Searched hdr len name i reply := by
  cases reply with
  | status code => trivial
  | absent =>
    intro j low
    by_cases before : j < i + n
    · exact between j low before
    · exact later j (by omega)
  | found start remaining =>
    obtain ⟨inside,j,low,line,first,value⟩ := later
    refine ⟨inside,j,by omega,line,fun k low' high => ?_,value⟩
    by_cases before : k < i + n
    · exact between k low' before
    · exact first k (by omega) high

/-- Every line of a header is looked at. -/
theorem scanField_searched (head : FirstEnd hdr len) (proper : ∀ octet ∈ name, octet ≠ 0) :
    ∀ (left i : Nat), i + left = len →
    Searched hdr len name i (scanField hdr name left i) := by
  intro left
  induction left using Nat.strong_induction_on with
  | h left ih =>
    intro i whole
    have short : left < 3 → ∀ j, i ≤ j → ¬FieldLine hdr len name j := by
      intro few j low line
      have := line.inside
      omega
    match left, ih, whole, short with
    | 0, _, _, short => exact short (by omega)
    | 1, _, _, short => exact short (by omega)
    | 2, _, _, short => exact short (by omega)
    | left+3, ih, whole, _ =>
      -- An octet that ends no line.
      have next : ¬LineEnd hdr i → Searched hdr len name i (scanField hdr name (left + 2) (i + 1)) := by
        intro none_
        refine (ih (left + 2) (by omega) (i + 1) (by omega)).earlier fun j low high line => ?_
        obtain rfl : j = i := by omega
        exact none_ line.lineEnd
      rw [scanField]
      split
      · next carriage =>
        split
        · next feed =>
          split
          · trivial
          split
          · next few =>
            intro j low line
            have := line.inside
            omega
          next room =>
          have compare := streqnI_iff (a := slice hdr (i + 2) name.length) (b := name) (slice_length _ _ _) proper
          split
          · next same =>
            have found := fieldValue_value hdr (left + 1 - name.length) (i + 2 + name.length)
            have remains : ∀ {start remaining}, fieldValue hdr (left + 1 - name.length) (i + 2 + name.length) =
              .found start remaining →
                start + remaining = i + 2 + name.length + (left + 1 - name.length) := fieldValue_inside
            generalize fieldValue hdr (left + 1 - name.length) (i + 2 + name.length) = reply at found remains ⊢
            cases reply with
            | status code => trivial
            | absent => exact found.elim
            | found start remaining =>
              obtain ⟨some_,colon,value⟩ := found
              have inside := remains rfl
              refine ⟨by omega,i,Nat.le_refl i,⟨⟨carriage,feed⟩,compare.mp same,colon,by omega⟩,fun k low high =>
                by omega,value⟩
          · next other =>
            refine (ih left (by omega) (i + 3) (by omega)).earlier fun j low high line => ?_
            obtain rfl | rfl | rfl : j = i ∨ j = i + 1 ∨ j = i + 2 := by omega
            · exact other (compare.mpr line.reads)
            · exact absurd (feed.symm.trans line.lineEnd.1) (by decide)
            · have := line.inside
              exact head.no_gap (by omega) ⟨carriage,feed⟩ line.lineEnd
        · next other => exact next fun line => other line.2
      · next other => exact next fun line => other line.1

theorem getHeaderField_searched (head : FirstEnd hdr len) (proper : ∀ octet ∈ name, octet ≠ 0) :
    Searched hdr len name 0 (getHeaderField hdr len name) :=
  scanField_searched head proper len 0 (Nat.zero_add len)

theorem absent_field (head : FirstEnd hdr len) (proper : ∀ octet ∈ name, octet ≠ 0)
    (absent : getHeaderField hdr len name = .absent) : ¬HasField hdr len name := by
  have searched := getHeaderField_searched head proper
  rw [absent] at searched
  rintro ⟨i,line⟩
  exact searched i (Nat.zero_le i) line

theorem found_field (head : FirstEnd hdr len) (proper : ∀ octet ∈ name, octet ≠ 0) {start remaining : Nat}
    (found : getHeaderField hdr len name = .found start remaining) : HasField hdr len name := by
  have searched := getHeaderField_searched head proper
  rw [found] at searched
  obtain ⟨_,i,_,line,_⟩ := searched
  exact ⟨i,line⟩

/-! ### The rule -/

/-- A value begins with an option of the `Connection` field. -/
def Begins (hdr : Mem) (len start : Nat) (option : List UInt8) : Prop :=
  start + option.length < len ∧ Reads hdr start option ∧ optionEnd (hdr (start + option.length))

/-- The first `Connection` line asks for an option. -/
def Asks (hdr : Mem) (len : Nat) (option : List UInt8) : Prop :=
  ∃ i start, FieldLine hdr len (ascii "Connection") i ∧ (∀ k < i, ¬FieldLine hdr len (ascii "Connection") k) ∧
    ValueAt hdr (i + 2 + (ascii "Connection").length) start ∧ Begins hdr len start option

/-- What is in front of an index ends in the version 1.0. -/
def Ends10 (hdr : Mem) (i : Nat) : Prop := 8 ≤ i ∧ Reads hdr (i - 8) (ascii "HTTP/1.0")

/-- The request line, which the first end of a line ends, is one of HTTP/1.0. -/
def Http10 (hdr : Mem) : Prop := ∃ i, LineEnd hdr i ∧ (∀ j < i, ¬LineEnd hdr j) ∧ Ends10 hdr i

/-- What is in front of the first carriage return is. -/
def Front10 (hdr : Mem) : Prop := ∃ i, hdr i = '\r'.toUInt8 ∧ (∀ j < i, hdr j ≠ '\r'.toUInt8) ∧ Ends10 hdr i

/-- The rule as it is documented: when a connection is kept. -/
def Kept (hdr : Mem) (len : Nat) (method : Method) (status : Nat) : Prop :=
  method ≠ .unknown ∧ ¬lostSync status ∧ ¬HasField hdr len (ascii "Content-Length") ∧
    ¬HasField hdr len (ascii "Transfer-Encoding") ∧ ¬Asks hdr len (ascii "close") ∧
      (Http10 hdr → Asks hdr len (ascii "keep-alive"))

/-- A line that the lookups of the rule do not come back from. -/
def Malformed (hdr : Mem) (len : Nat) : Prop :=
  ∃ name ∈ [ascii "Content-Length",ascii "Transfer-Encoding",
    ascii "Connection"], ∃ code, getHeaderField hdr len name = .status code

theorem findReturn_first : ∀ (left i : Nat),
    match findReturn hdr left i with
    | some k => i ≤ k ∧ hdr k = '\r'.toUInt8 ∧ ∀ j, i ≤ j → j < k → hdr j ≠ '\r'.toUInt8
    | none => ∀ j, i ≤ j → j < i + left → hdr j ≠ '\r'.toUInt8 := by
  intro left
  induction left with
  | zero => intro i j low high; omega
  | succ left ih =>
    intro i
    have rest := ih (i + 1)
    rw [findReturn]
    by_cases here : hdr i = '\r'.toUInt8
    · rw [if_pos here]
      exact ⟨Nat.le_refl i,here,fun j low high => by omega⟩
    · rw [if_neg here]
      generalize findReturn hdr left (i + 1) = reply at rest ⊢
      have first : ∀ {j n}, i ≤ j → j < n → (∀ j, i + 1 ≤ j → j < n → hdr j ≠ '\r'.toUInt8) → hdr j ≠ '\r'.toUInt8 := by
        intro j n low high behind
        by_cases same : j = i
        · rw [same]
          exact here
        · exact behind j (by omega) high
      cases reply with
      | none => exact fun j low high => first low (n := i + (left + 1)) high fun j low high => rest j low (by omega)
      | some k => exact ⟨by omega,rest.2.1,fun j low high => first low high rest.2.2⟩

theorem FirstEnd.octets (head : FirstEnd hdr len) : LineEnd hdr (len - 4) ∧ hdr (len - 1) = '\n'.toUInt8 := by
  have long := head.length
  obtain ⟨k,rfl⟩ := Nat.exists_eq_add_of_le' long
  obtain ⟨front,ends⟩ := head.ends
  rw [slice_add,Nat.zero_add] at ends
  have four : headerEnd = slice hdr k 4 := (List.append_inj' ends (by rw [slice_length]; rfl)).2
  have octets : '\r'.toUInt8 = hdr k ∧ '\n'.toUInt8 = hdr (k + 1) ∧ '\n'.toUInt8 = hdr (k + 3) := by
    simp only [slice_succ,slice_zero,headerEnd] at four
    simp [ascii] at four
    exact ⟨four.1,four.2.1,four.2.2.2⟩
  rw [Nat.add_sub_cancel,show k + 4 - 1 = k + 3 by omega]
  exact ⟨⟨octets.1.symm,octets.2.1.symm⟩,octets.2.2.symm⟩

theorem isHttp10_iff (head : FirstEnd hdr len) : isHttp10 hdr len = true ↔ Front10 hdr := by
  have first := @findReturn_first hdr len 0
  rw [isHttp10]
  cases found : findReturn hdr len 0 with
  | none =>
    rw [found] at first
    exact absurd head.octets.1.1 (first (len - 4) (Nat.zero_le _) (by have := head.length; omega))
  | some k =>
    rw [found] at first
    obtain ⟨_,here,before⟩ := first
    have compare :=
      streqnI_iff (a := slice hdr (k - 8) 8) (b := ascii "HTTP/1.0") (slice_length _ _ _) (by decide +kernel)
    simp only [Bool.and_eq_true,decide_eq_true_eq,compare]
    constructor
    · rintro ⟨long,reads⟩
      exact ⟨k,here,fun j low => before j (Nat.zero_le j) low,long,reads⟩
    · rintro ⟨i,there,none_,long,reads⟩
      obtain rfl : i = k := by
        rcases Nat.lt_trichotomy i k with low | same | high
        · exact absurd there (before i (Nat.zero_le i) low)
        · exact same
        · exact absurd here (none_ k high)
      exact ⟨long,reads⟩

/-- Inside a header there is an octet behind an option. -/
theorem hasOption_iff (head : FirstEnd hdr len) {start remaining : Nat} (inside : start + remaining = len)
    {option : List UInt8}
    (proper : ∀ octet ∈ option, octet ≠ 0 ∧ foldCase octet ≠ '\n'.toUInt8) (some_ : option ≠ []) :
    hasOption hdr start remaining option = true ↔ Begins hdr len start option := by
  have compare :=
    streqnI_iff (a := slice hdr start option.length) (b := option) (slice_length _ _ _)
    (fun octet mem => (proper octet mem).1)
  have length : 0 < option.length := List.length_pos_iff.mpr some_
  -- The last octet of a header is no octet of an option.
  have last : Reads hdr start option → start + option.length ≠ len := by
    intro reads whole
    have here := congrArg (·[option.length - 1]?) reads
    have octet : hdr (start + (option.length - 1)) = '\n'.toUInt8 := by
      rw [show start + (option.length - 1) = len - 1 by omega]
      exact head.octets.2
    have inside : option.length - 1 < option.length := by omega
    simp [slice,inside,octet] at here
    exact (proper _ (List.getElem_mem inside)).2 here.symm
  simp only [hasOption,Bool.and_eq_true,Bool.or_eq_true,decide_eq_true_eq,compare]
  constructor
  · rintro ⟨⟨fits,reads⟩,whole | boundary⟩
    · exact absurd (by omega) (last reads)
    · exact ⟨by have := last reads; omega,reads,boundary⟩
  · rintro ⟨fits,reads,boundary⟩
    exact ⟨⟨by omega,reads⟩,.inr boundary⟩

/-- What the lookup of the `Connection` field says of its options. -/
theorem asks_iff (head : FirstEnd hdr len) (option : List UInt8)
    (proper : ∀ octet ∈ option, octet ≠ 0 ∧ foldCase octet ≠ '\n'.toUInt8) (some_ : option ≠ []) :
    match getHeaderField hdr len (ascii "Connection") with
    | .status _ => True
    | .absent => ¬Asks hdr len option
    | .found start remaining => hasOption hdr start remaining option = true ↔ Asks hdr len option := by
  have searched : Searched hdr len (ascii "Connection") 0 (getHeaderField hdr len (ascii "Connection")) :=
    getHeaderField_searched head (by decide +kernel)
  generalize getHeaderField hdr len (ascii "Connection") = reply at searched ⊢
  cases reply with
  | status code => trivial
  | absent =>
    rintro ⟨i,_,line,_⟩
    exact searched i (Nat.zero_le i) line
  | found start remaining =>
    obtain ⟨inside,i,_,line,first,value⟩ := searched
    dsimp only
    rw [hasOption_iff head inside proper some_]
    constructor
    · intro begins
      exact ⟨i,start,line,fun k low => first k (Nat.zero_le k) low,value,begins⟩
    · rintro ⟨i',start',line',first',value',begins⟩
      obtain rfl : i' = i := by
        rcases Nat.lt_trichotomy i' i with low | same | high
        · exact absurd line' (first i' (Nat.zero_le _) low)
        · exact same
        · exact absurd line (first' i high)
      rwa [value.unique value']

/-! ### The decision -/

theorem lookup_absent (head : FirstEnd hdr len) (proper : ∀ octet ∈ name, octet ≠ 0) (none_ : ¬HasField hdr len name)
    (sound : ∀ code, getHeaderField hdr len name ≠ .status code) : getHeaderField hdr len name = .absent := by
  cases looked : getHeaderField hdr len name with
  | absent => rfl
  | found start remaining => exact absurd (found_field head proper looked) none_
  | status code => exact absurd looked (sound code)

/-- Without a body, and with what the lookups come back from, the options decide, and the
    version in front of the first carriage return. -/
theorem connectionRule_keep (head : FirstEnd hdr len)
    (sound : ∀ code, getHeaderField hdr len (ascii "Connection") ≠ .status code) :
    connectionRule hdr (isHttp10 hdr len) (getHeaderField hdr len (ascii "Connection")) = .keep ↔
      ¬Asks hdr len (ascii "close") ∧ (Front10 hdr → Asks hdr len (ascii "keep-alive")) := by
  have close := asks_iff head (ascii "close") (by decide +kernel) (by decide +kernel)
  have keep := asks_iff head (ascii "keep-alive") (by decide +kernel) (by decide +kernel)
  rw [← isHttp10_iff head]
  cases looked : getHeaderField hdr len (ascii "Connection") with
  | status code => exact absurd looked (sound code)
  | absent =>
    rw [looked] at close keep
    rw [connectionRule]
    cases isHttp10 hdr len with
    | true => simp [keep]
    | false => simpa using close
  | found start remaining =>
    rw [looked] at close keep
    dsimp only at close keep
    rw [connectionRule,← close,← keep]
    cases hasOption hdr start remaining (ascii "close") with
    | true => simp
    | false => cases hasOption hdr start remaining (ascii "keep-alive") <;> cases isHttp10 hdr len <;> simp

theorem connectionRule_sound {http10 : Bool} {reply : FieldReply} (sound : ∀ code, reply ≠ .status code) :
    ∀ code, connectionRule hdr http10 reply ≠ .status code := by
  intro code
  rw [connectionRule.eq_def]
  split
  · next code => exact absurd rfl (sound code)
  · split <;> nofun
  · split
    · nofun
    split
    · nofun
    split <;> nofun

/-- The lookups, where the method and the status do not decide. -/
theorem shouldKeepAlive_lookups {method : Method} {status : Nat} (long : len ≠ 0) (known : method ≠ .unknown)
    (kept : ¬lostSync status) :
    shouldKeepAlive hdr len method status = match getHeaderField hdr len (ascii "Content-Length") with
      | .status code => .status code
      | .found _ _ => .close
      | .absent => match getHeaderField hdr len (ascii "Transfer-Encoding") with
        | .status code => .status code
        | .found _ _ => .close
        | .absent => connectionRule hdr (isHttp10 hdr len) (getHeaderField hdr len (ascii "Connection")) :=
  if_neg (by simp [known,kept,long])

/-- Were the condition false, a GET that is answered 200 would be kept where the rule closes, or the
    other way round. -/
theorem front_of_kept (head : FirstEnd hdr len)
    (meets : (∀ code, shouldKeepAlive hdr len .get 200 ≠ .status code) →
      (shouldKeepAlive hdr len .get 200 = .keep ↔ Kept hdr len .get 200)) :
    (Front10 hdr ↔ Http10 hdr) ∨ HasField hdr len (ascii "Content-Length") ∨
      HasField hdr len (ascii "Transfer-Encoding") ∨ Asks hdr len (ascii "close") ∨ Asks hdr len (ascii "keep-alive") ∨
      Malformed hdr len := by
  have long := head.length
  by_contra fails
  simp only [not_or,Malformed,not_exists,not_and] at fails
  obtain ⟨versions,length,encoding,close,keep,sound⟩ := fails
  have lengthAbsent := lookup_absent head (by decide +kernel) length (sound _ (by simp))
  have encodingAbsent := lookup_absent head (by decide +kernel) encoding (sound _ (by simp))
  have connection := sound (ascii "Connection") (by simp)
  have decided : shouldKeepAlive hdr len .get 200 =
      connectionRule hdr (isHttp10 hdr len) (getHeaderField hdr len (ascii "Connection")) := by
    rw [shouldKeepAlive_lookups (by omega) (show Method.get ≠ .unknown by decide) (by decide),lengthAbsent,encodingAbsent]
  have answer := meets (by rw [decided]; exact connectionRule_sound connection)
  rw [decided,connectionRule_keep head connection,Kept] at answer
  simp only [length,encoding,close,keep] at answer
  apply versions
  have lost : ¬lostSync 200 := by decide
  rw [← not_iff_not]
  simpa [lost] using answer

theorem kept_of_front (head : FirstEnd hdr len)
    (condition : (Front10 hdr ↔ Http10 hdr) ∨ HasField hdr len (ascii "Content-Length") ∨
      HasField hdr len (ascii "Transfer-Encoding") ∨ Asks hdr len (ascii "close") ∨ Asks hdr len (ascii "keep-alive") ∨
      Malformed hdr len)
    (method : Method) (status : Nat) :
    (shouldKeepAlive hdr len method status = .keep →
      ¬HasField hdr len (ascii "Content-Length") ∧ ¬HasField hdr len (ascii "Transfer-Encoding")) ∧
    ((∀ code, shouldKeepAlive hdr len method status ≠ .status code) →
      (shouldKeepAlive hdr len method status = .keep ↔ Kept hdr len method status)) := by
  have long := head.length
  rw [Kept]
  by_cases known : method = .unknown
  · have closed : shouldKeepAlive hdr len method status = .close := if_pos (.inr (.inl known))
    rw [closed]
    simp [known]
  by_cases lost : lostSync status
  · have closed : shouldKeepAlive hdr len method status = .close := lostSync_close method lost
    rw [closed]
    simp [lost]
  rw [shouldKeepAlive_lookups (by omega) known lost]
  cases length : getHeaderField hdr len (ascii "Content-Length") with
  | status code => simp
  | found start remaining =>
    have field := found_field head (by decide +kernel) length
    simp [field]
  | absent =>
    have noLength := absent_field head (by decide +kernel) length
    cases encoding : getHeaderField hdr len (ascii "Transfer-Encoding") with
    | status code => simp
    | found start remaining =>
      have field := found_field head (by decide +kernel) encoding
      simp [field]
    | absent =>
      have noEncoding := absent_field head (by decide +kernel) encoding
      refine ⟨fun _ => ⟨noLength,noEncoding⟩,fun answered => ?_⟩
      have sound : ∀ code, getHeaderField hdr len (ascii "Connection") ≠ .status code := by
        intro code malformed
        exact answered code (by dsimp only; rw [malformed]; rfl)
      dsimp only
      rw [connectionRule_keep head sound]
      rcases condition with versions | field | field | close | keep | malformed
      · simp [known,lost,noLength,noEncoding,versions]
      · exact absurd field noLength
      · exact absurd field noEncoding
      · simp [close]
      · simp [keep,known,lost,noLength,noEncoding]
      · obtain ⟨name,mem,code,malformed⟩ := malformed
        simp only [List.mem_cons,List.not_mem_nil,or_false] at mem
        rcases mem with rfl | rfl | rfl
        · cases length.symm.trans malformed
        · cases encoding.symm.trans malformed
        · exact absurd malformed (sound code)

/-- A connection is kept behind no header that announces a body; and the answer is the one
    the rule gives, as long as there is one, exactly if the version in front of the
    first carriage return is that of the request line, or does not matter. -/
theorem keepAlive_iff {count : Nat} (found : parseHeaderEnd hdr count = some len) :
    (∀ method status,
      (shouldKeepAlive hdr len method status = .keep →
        ¬HasField hdr len (ascii "Content-Length") ∧ ¬HasField hdr len (ascii "Transfer-Encoding")) ∧
      ((∀ code, shouldKeepAlive hdr len method status ≠ .status code) →
        (shouldKeepAlive hdr len method status = .keep ↔ Kept hdr len method status))) ↔
    (Front10 hdr ↔ Http10 hdr) ∨ HasField hdr len (ascii "Content-Length") ∨
    HasField hdr len (ascii "Transfer-Encoding") ∨
      Asks hdr len (ascii "close") ∨ Asks hdr len (ascii "keep-alive") ∨ Malformed hdr len := by
  have head : FirstEnd hdr len := (parseHeaderEnd_iff.mp found).2
  exact ⟨fun meets => front_of_kept head (meets .get 200).2,kept_of_front head⟩

instance (hdr : Mem) (i : Nat) : Decidable (LineEnd hdr i) := inferInstanceAs (Decidable (_ ∧ _))

instance (hdr : Mem) (i : Nat) : Decidable (Ends10 hdr i) := inferInstanceAs (Decidable (8 ≤ i ∧ _ = _))

/-- A request of HTTP/1.0 that asks to be kept. -/
def lastingRequest : List UInt8 := ascii "GET / HTTP/1.0\r\nConnection: keep-alive\r\n\r\n"

theorem keepAlive_iff_lasting : parseHeaderEnd (ofBytes lastingRequest) 42 = some 42 ∧ ∀ method status,
    (shouldKeepAlive (ofBytes lastingRequest) 42 method status = .keep →
      ¬HasField (ofBytes lastingRequest) 42 (ascii "Content-Length") ∧
    ¬HasField (ofBytes lastingRequest) 42 (ascii "Transfer-Encoding")) ∧
    ((∀ code, shouldKeepAlive (ofBytes lastingRequest) 42 method status ≠ .status code) →
      (shouldKeepAlive (ofBytes lastingRequest) 42 method status = .keep ↔
    Kept (ofBytes lastingRequest) 42 method status)) := by
  have found : parseHeaderEnd (ofBytes lastingRequest) 42 = some 42 := by decide +kernel
  refine ⟨found,(keepAlive_iff found).mpr (.inl ⟨fun _ => ?_,fun _ => ?_⟩)⟩
  · exact ⟨14,by decide +kernel⟩
  · exact ⟨14,by decide +kernel⟩

/-- A carriage return in the request line, with the version behind it. -/
def splitRequest : List UInt8 := ascii "GET / \rHTTP/1.0\r\n\r\n"

/-- The request is accepted as one of HTTP/1.0, and kept without having asked for it. -/
theorem keepAlive_split :
    parseHeaderEnd (ofBytes splitRequest) 19 = some 19 ∧ verifyHttpVersion (ofBytes splitRequest) 19 = none ∧
    (parseRequest (ofBytes splitRequest) 19 ⟨.get,0,0,false,0,false,false,0,false,ofBytes [],ofBytes [],ofBytes [],
    ofBytes []⟩).2 = .parsed ∧
      shouldKeepAlive (ofBytes splitRequest) 19 .get 200 = .keep ∧ ¬Kept (ofBytes splitRequest) 19 .get 200 := by
  have found : parseHeaderEnd (ofBytes splitRequest) 19 = some 19 := by decide +kernel
  refine ⟨found,by decide +kernel,by decide +kernel,by decide +kernel,?_⟩
  rintro ⟨_,_,_,_,_,asks⟩
  have version : Http10 (ofBytes splitRequest) := ⟨15,by decide +kernel⟩
  obtain ⟨i,_,line,_⟩ := asks version
  have absent : getHeaderField (ofBytes splitRequest) 19 (ascii "Connection") = .absent := by decide +kernel
  exact absent_field (parseHeaderEnd_iff.mp found).2 (by decide +kernel) absent ⟨i,line⟩

end Sarm.Http1
