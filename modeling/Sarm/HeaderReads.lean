import Sarm.Child

/-!
What the parsers of a request read lies inside its header: they come to the same on
two buffers that have the same header in front.
-/
namespace Sarm.Http1
open Sarm.Memory Sarm.H2
open Sarm.Hpack (ascii)

/-- Two buffers that agree on their first octets. -/
def Same (len : Nat) (a b : Mem) : Prop := ∀ i < len, a i = b i

variable {a b : Mem} {len : Nat}

theorem Same.slice (same : Same len a b) {i n : Nat} (inside : i + n ≤ len) : slice a i n = slice b i n :=
  slice_congr fun j before => same (i + j) (by omega)

/-! ### Fields -/

theorem skipBlanks_same (same : Same len a b) : ∀ (left i : Nat), i + left < len →
    skipBlanks a left i = skipBlanks b left i := by
  intro left
  induction left with
  | zero => intro i _; rfl
  | succ left ih =>
    intro i inside
    rw [skipBlanks,skipBlanks,same (i + 1) (by omega),ih (i + 1) (by omega)]

theorem fieldValue_same (same : Same len a b) {left i : Nat} (inside : i + left ≤ len) :
    fieldValue a left i = fieldValue b left i := by
  cases left with
  | zero => rfl
  | succ left => rw [fieldValue,fieldValue,same i (by omega),skipBlanks_same same left i (by omega)]

theorem scanField_same (same : Same len a b) (name : List UInt8) : ∀ (left i : Nat), i + left ≤ len →
    scanField a name left i = scanField b name left i := by
  intro left
  induction left using Nat.strong_induction_on with
  | h left ih =>
    intro i inside
    match left, ih, inside with
    | 0, _, _ => rfl
    | 1, _, _ => rfl
    | 2, _, _ => rfl
    | left+3, ih, inside =>
      rw [scanField,scanField,same i (by omega),same (i + 1) (by omega),same (i + 2) (by omega),
        ih left (by omega) (i + 3) (by omega),ih (left + 2) (by omega) (i + 1) (by omega)]
      by_cases short : left + 1 < name.length
      · simp only [if_pos short]
      · rw [same.slice (by omega),fieldValue_same same (by omega)]

theorem getHeaderField_same (same : Same len a b) (name : List UInt8) :
    getHeaderField a len name = getHeaderField b len name :=
  scanField_same same name len 0 (by omega)

theorem skipBlanks_inside {left i start remaining : Nat} (found : skipBlanks a left i = .found start remaining) :
    start + remaining = i + 1 + left := by
  induction left generalizing i with
  | zero => cases found
  | succ left ih =>
    rw [skipBlanks] at found
    split at found
    · have := ih found
      omega
    · cases found
      omega

theorem fieldValue_inside {left i start remaining : Nat} (found : fieldValue a left i = .found start remaining) :
    start + remaining = i + left := by
  cases left with
  | zero => cases found
  | succ left =>
    rw [fieldValue] at found
    split at found
    · have := skipBlanks_inside found
      omega
    · cases found

theorem scanField_inside {name : List UInt8} {start remaining : Nat} : ∀ (left i : Nat),
    scanField a name left i = .found start remaining → start + remaining = i + left := by
  intro left
  induction left using Nat.strong_induction_on with
  | h left ih =>
    intro i found
    match left, ih, found with
    | 0, _, found => cases found
    | 1, _, found => cases found
    | 2, _, found => cases found
    | left+3, ih, found =>
      rw [scanField] at found
      split at found
      · split at found
        · split at found
          · cases found
          split at found
          · cases found
          split at found
          · have := fieldValue_inside found
            omega
          · have := ih left (by omega) (i + 3) found
            omega
        · have := ih (left + 2) (by omega) (i + 1) found
          omega
      · have := ih (left + 2) (by omega) (i + 1) found
        omega

/-- A value found lies at the end of the header. -/
theorem getHeaderField_inside {name : List UInt8} {start remaining : Nat}
    (found : getHeaderField a len name = .found start remaining) : start + remaining = len := by
  have inside := scanField_inside len 0 found
  omega

theorem skipBlanks_status {hdr : Mem} {code : Nat} :
    ∀ (left i : Nat), skipBlanks hdr left i = .status code → code = 400 := by
  intro left
  induction left with
  | zero => rintro i ⟨⟩; rfl
  | succ left ih =>
    intro i malformed
    rw [skipBlanks] at malformed
    split at malformed
    · exact ih _ malformed
    · cases malformed

/-- A malformed field is answered with 400. -/
theorem scanField_status {hdr : Mem} {name : List UInt8} {code : Nat} :
    ∀ (left i : Nat), scanField hdr name left i = .status code →
    code = 400 := by
  intro left
  induction left using Nat.strong_induction_on with
  | h left ih =>
    intro i malformed
    match left, ih, malformed with
    | 0, _, malformed => cases malformed
    | 1, _, malformed => cases malformed
    | 2, _, malformed => cases malformed
    | left+3, ih, malformed =>
      rw [scanField] at malformed
      split at malformed
      · split at malformed
        · split at malformed
          · cases malformed; rfl
          split at malformed
          · cases malformed
          split at malformed
          · rw [fieldValue.eq_def] at malformed
            split at malformed
            · cases malformed; rfl
            · split at malformed
              · exact skipBlanks_status _ _ malformed
              · cases malformed; rfl
          · exact ih left (by omega) (i + 3) malformed
        · exact ih (left + 2) (by omega) (i + 1) malformed
      · exact ih (left + 2) (by omega) (i + 1) malformed

/-! ### The decision to keep the connection -/

theorem findReturn_same (same : Same len a b) :
    ∀ (left i : Nat), i + left ≤ len → findReturn a left i = findReturn b left i := by
  intro left
  induction left with
  | zero => intro i _; rfl
  | succ left ih =>
    intro i inside
    rw [findReturn,findReturn,same i (by omega),ih (i + 1) (by omega)]

theorem findReturn_inside {i : Nat} : ∀ (left k : Nat), findReturn a left k = some i → i < k + left := by
  intro left
  induction left with
  | zero => rintro k ⟨⟩
  | succ left ih =>
    intro k found
    rw [findReturn] at found
    split at found
    · cases found; omega
    · have := ih (k + 1) found
      omega

theorem isHttp10_same (same : Same len a b) : isHttp10 a len = isHttp10 b len := by
  rw [isHttp10,isHttp10,findReturn_same same len 0 (by omega)]
  cases found : findReturn b len 0 with
  | none => rfl
  | some i =>
    have inside := findReturn_inside len 0 found
    dsimp only
    by_cases long : 8 ≤ i
    · rw [same.slice (by omega)]
    · simp [long]

theorem hasOption_same (same : Same len a b) {start remaining : Nat} (inside : start + remaining ≤ len)
    (option : List UInt8) :
    hasOption a start remaining option = hasOption b start remaining option := by
  rw [hasOption,hasOption]
  by_cases fits : option.length ≤ remaining
  · rw [same.slice (by omega)]
    by_cases whole : remaining = option.length
    · simp [whole]
    · rw [same (start + option.length) (by omega)]
  · simp [fits]

theorem shouldKeepAlive_same (same : Same len a b) (method : Method) (status : Nat) :
    shouldKeepAlive a len method status = shouldKeepAlive b len method status := by
  have rule : connectionRule a (isHttp10 a len) (getHeaderField a len (ascii "Connection")) =
      connectionRule b (isHttp10 b len) (getHeaderField b len (ascii "Connection")) := by
    rw [isHttp10_same same,getHeaderField_same same]
    cases found : getHeaderField b len (ascii "Connection") with
    | found start remaining =>
      have inside := getHeaderField_inside found
      rw [connectionRule,connectionRule,hasOption_same same (by omega),hasOption_same same (by omega)]
    | absent => rfl
    | status code => rfl
  rw [shouldKeepAlive,shouldKeepAlive,getHeaderField_same same,getHeaderField_same same,rule]

theorem lostSync_close {a : Mem} {len status : Nat} (method : Method) (lost : lostSync status) :
    shouldKeepAlive a len method status = .close :=
  if_pos (.inr (.inr lost))

theorem parseRange_same (same : Same len a b) : parseRange a len = parseRange b len := by
  rw [parseRange,parseRange,getHeaderField_same same]
  cases found : getHeaderField b len (ascii "range") with
  | found start remaining =>
    have inside := getHeaderField_inside found
    dsimp only
    rw [same.slice (by omega)]
  | absent => rfl
  | status code => rfl

/-! ### The request line -/

theorem lineEnd_same (same : Same len a b) : ∀ (left i : Nat), i + left ≤ len → lineEnd a left i = lineEnd b left i := by
  intro left
  induction left using Nat.strong_induction_on with
  | h left ih =>
    intro i inside
    match left, ih, inside with
    | 0, _, _ => rfl
    | 1, _, _ => rfl
    | left+2, ih, inside =>
      rw [lineEnd,lineEnd,same i (by omega),same (i + 1) (by omega),ih left (by omega) (i + 2) (by omega),
        ih (left + 1) (by omega) (i + 1) (by omega)]

theorem lineEnd_inside {i : Nat} : ∀ (left k : Nat), lineEnd a left k = some i → i < k + left := by
  intro left
  induction left using Nat.strong_induction_on with
  | h left ih =>
    intro k found
    match left, ih, found with
    | 0, _, found => cases found
    | 1, _, found => cases found
    | left+2, ih, found =>
      rw [lineEnd] at found
      split at found
      · split at found
        · cases found
          omega
        · have := ih left (by omega) (k + 2) found
          omega
      · have := ih (left + 1) (by omega) (k + 1) found
        omega

theorem verifyHttpVersion_same (same : Same len a b) : verifyHttpVersion a len = verifyHttpVersion b len := by
  rw [verifyHttpVersion,verifyHttpVersion,lineEnd_same same len 0 (by omega),getHeaderField_same same]
  cases found : lineEnd b len 0 with
  | none => rfl
  | some i =>
    have inside := lineEnd_inside len 0 found
    dsimp only
    by_cases short : i < 9
    · rw [if_pos short,if_pos short]
    · rw [same.slice (by omega),same.slice (by omega)]

/-- A request line with a version leaves room for a method. -/
theorem verifyHttpVersion_length (accepted : verifyHttpVersion a len = none) : 9 < len := by
  rw [verifyHttpVersion] at accepted
  cases found : lineEnd a len 0 with
  | none => simp [found] at accepted
  | some i =>
    have inside := lineEnd_inside len 0 found
    by_cases short : i < 9
    · simp [found,short] at accepted
    · omega

theorem requestMethod_same (same : Same len a b) (room : 8 ≤ len) : requestMethod a = requestMethod b := by
  rw [requestMethod,requestMethod,same.slice (by omega),same.slice (by omega),same.slice (by omega)]

/-! ### The target -/

theorem findTarget_same (same : Same len a b) : ∀ (left i : Nat) (previous : UInt8), i + left ≤ len →
    findTarget a left i previous = findTarget b left i previous := by
  intro left
  induction left with
  | zero => intro i previous _; rfl
  | succ left ih =>
    intro i previous inside
    rw [findTarget,findTarget,same i (by omega),ih (i + 1) (b i) (by omega)]

theorem filenameLoop_same (same : Same len a b) (default : Bool) :
    ∀ (left read written : Nat) (slash : Bool) (query : Option Nat) (bufs : PathBufs), read + left ≤ len →
      filenameLoop a default left read written slash query bufs =
      filenameLoop b default left read written slash query bufs := by
  intro left
  induction left with
  | zero => intros; rfl
  | succ left ih =>
    intro read written slash query bufs inside
    rw [filenameLoop,filenameLoop,same read (by omega)]
    simp only [ih (read + 1) _ _ _ _ (by omega : read + 1 + left ≤ len)]

theorem parsePath_same (same : Same len a b) (default : Bool) (bufs : PathBufs) :
    parsePath a len default bufs = parsePath b len default bufs := by
  rw [parsePath,parsePath]
  by_cases short : len < searchWindow
  · rw [if_pos short,if_pos short]
  rw [if_neg short,if_neg short,findTarget_same same _ _ _ (by omega)]
  cases findTarget b searchWindow 0 1 with
  | none => rfl
  | some i =>
    dsimp only
    by_cases last : len ≤ i + 1
    · rw [if_pos last,if_pos last]
    · rw [same i (by omega),same (i + 1) (by omega),filenameLoop_same same _ _ _ _ _ _ _ (by omega)]

theorem copyHost_same (same : Same len a b) : ∀ (left read written : Nat) (buf : Mem), read + left ≤ len →
    copyHost a left read written buf = copyHost b left read written buf := by
  intro left
  induction left with
  | zero => intros; rfl
  | succ left ih =>
    intro read written buf inside
    rw [copyHost,copyHost,same read (by omega),ih (read + 1) (written + 1) _ (by omega)]

theorem storeHost_same (same : Same len a b) (r : Request) : storeHost a len r = storeHost b len r := by
  rw [storeHost,storeHost,getHeaderField_same same]
  cases found : getHeaderField b len (ascii "Host") with
  | found start remaining =>
    have inside := getHeaderField_inside found
    dsimp only
    rw [copyHost_same same remaining start 0 _ (by omega)]
  | absent => rfl
  | status code => rfl

theorem parseTarget_same (same : Same len a b) (r : Request) : parseTarget a len r = parseTarget b len r := by
  simp only [parseTarget,parsePath_same same,storeHost_same same]

theorem parseRequest_same (same : Same len a b) (room : 8 ≤ len) (r : Request) :
    parseRequest a len r = parseRequest b len r := by
  rw [parseRequest,parseRequest,requestMethod_same same room,parseTarget_same same]

/-! ### The response -/

theorem writeResponse_same {s : Session} (same : Same s.headerLen a b) (r : Reply) :
    s.writeResponse a r = s.writeResponse b r := by
  rw [Session.writeResponse,Session.writeResponse,shouldKeepAlive_same same]

/-- What a response leaves of a session. -/
theorem writeResponse_headerLen (s : Session) (hdr : Mem) (r : Reply) :
    (s.writeResponse hdr r).1.headerLen = s.headerLen := by
  rw [Session.writeResponse]
  split
  · rfl
  split
  · rfl
  · dsimp only
    split <;> rfl

theorem replyStatus_same (files : List Resource) {s : Session} (same : Same s.headerLen a b) (status : Nat) :
    s.replyStatus files a status = s.replyStatus files b status := by
  rw [Session.replyStatus,Session.replyStatus,writeResponse_same same]
  have length := writeResponse_headerLen s b (statusReply files status)
  generalize s.writeResponse b (statusReply files status) = written at length ⊢
  obtain ⟨s',_ | _ | code⟩ := written
  · rfl
  · rfl
  · dsimp only at length ⊢
    rw [writeResponse_same (by rwa [length])]

theorem replyStatus_headerLen (files : List Resource) (s : Session) (hdr : Mem) (status : Nat) :
    (s.replyStatus files hdr status).headerLen = s.headerLen := by
  rw [Session.replyStatus]
  have length := writeResponse_headerLen s hdr (statusReply files status)
  generalize s.writeResponse hdr (statusReply files status) = written at length ⊢
  obtain ⟨s',_ | _ | code⟩ := written
  · exact length
  · exact length
  · exact (writeResponse_headerLen s' hdr _).trans length

theorem respond_same (files : List Resource) {s : Session} (same : Same s.headerLen a b) (r : Reply) :
    s.respond files a r = s.respond files b r := by
  rw [Session.respond,Session.respond,writeResponse_same same]
  have length := writeResponse_headerLen s b r
  generalize s.writeResponse b r = written at length ⊢
  obtain ⟨s',_ | _ | code⟩ := written
  · rfl
  · exact replyStatus_same files (by rwa [length]) 500
  · exact replyStatus_same files (by rwa [length]) code

theorem respond_headerLen (files : List Resource) (s : Session) (hdr : Mem) (r : Reply) :
    (s.respond files hdr r).headerLen = s.headerLen := by
  rw [Session.respond]
  have length := writeResponse_headerLen s hdr r
  generalize s.writeResponse hdr r = written at length ⊢
  obtain ⟨s',_ | _ | code⟩ := written
  · exact length
  · exact (replyStatus_headerLen files s' hdr 500).trans length
  · exact (replyStatus_headerLen files s' hdr code).trans length

/-! ### The methods -/

theorem get_same (files : List Resource) {s : Session} (same : Same s.headerLen a b) :
    s.get files a s.headerLen = s.get files b s.headerLen := by
  simp only [Session.get,parseRange_same same,replyStatus_same files same,respond_same files same]

theorem head_same (files : List Resource) {s : Session} (same : Same s.headerLen a b) :
    s.head files a = s.head files b := by
  simp only [Session.head,replyStatus_same files same,respond_same files same]

theorem options_same (files : List Resource) {s : Session} (same : Same s.headerLen a b) :
    s.options files a = s.options files b := by
  simp only [Session.options,replyStatus_same files same]

/-- What is done with a request depends on its header alone. -/
theorem request_same (files : List Resource) (s : Session) (same : Same len a b) :
    s.request files a len = s.request files b len := by
  rw [Session.request,Session.request,verifyHttpVersion_same same]
  dsimp only
  cases accepted : verifyHttpVersion b len with
  | some code => exact replyStatus_same files same code
  | none =>
    have room := verifyHttpVersion_length accepted
    rw [parseRequest_same same (by omega)]
    obtain ⟨req,_ | _ | code⟩ := parseRequest b len s.req
    · dsimp only
      cases req.method with
      | get => exact get_same files (s := { s with headerLen := len, budget := _, req := req }) same
      | head => exact head_same files same
      | options => exact options_same files same
      | unknown => exact replyStatus_same files same 501
    · exact replyStatus_same files same 400
    · exact replyStatus_same files same code

theorem get_headerLen (files : List Resource) (s : Session) (hdr : Mem) (len : Nat) :
    (s.get files hdr len).headerLen = s.headerLen := by
  rw [Session.get]
  split
  · exact replyStatus_headerLen files s hdr _
  split
  · exact replyStatus_headerLen files s hdr _
  · exact respond_headerLen files s hdr _
  split
  · exact replyStatus_headerLen files s hdr 416
  · exact respond_headerLen files s hdr _
  · exact respond_headerLen files s hdr _

theorem head_headerLen (files : List Resource) (s : Session) (hdr : Mem) :
    (s.head files hdr).headerLen = s.headerLen := by
  rw [Session.head]
  split
  · exact replyStatus_headerLen files s hdr _
  · exact respond_headerLen files s hdr _

theorem options_headerLen (files : List Resource) (s : Session) (hdr : Mem) :
    (s.options files hdr).headerLen = s.headerLen := by
  rw [Session.options]
  split
  · exact replyStatus_headerLen files s hdr 204
  · split <;> exact replyStatus_headerLen files s hdr _

theorem request_headerLen (files : List Resource) (s : Session) (hdr : Mem) (len : Nat) :
    (s.request files hdr len).headerLen = len := by
  rw [Session.request]
  split
  · exact replyStatus_headerLen files _ hdr _
  split
  · exact replyStatus_headerLen files _ hdr 400
  · exact replyStatus_headerLen files _ hdr _
  split
  · exact get_headerLen files _ hdr len
  · exact head_headerLen files _ hdr
  · exact options_headerLen files _ hdr
  · exact replyStatus_headerLen files _ hdr 501

end Sarm.Http1
