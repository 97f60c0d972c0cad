import Sarm.Messages
import Sarm.RequestIsolation

/-!
The responses of a connection as its client reads them: each ends where its head says it
does, by `Content-Length` or by the method and the status of a response without a body.
-/
namespace Sarm.Http1
open Sarm.Memory Sarm.H2 Sarm.Messages
open Sarm.Hpack (ascii)

/-! ### Reading a response -/

def contentLength : List UInt8 := ascii "content-length"

/-- A status line of a response that has no body. -/
def noBody (line : List UInt8) : Bool :=
  let status := (line.drop 9).take 3
  status = ascii "204" || status = ascii "304" || status.head? = some '1'.toUInt8

/-- What the client of a request knows: the response to HEAD has no body either. -/
def bareTo (head : Bool) (line : List UInt8) : Bool := head || noBody line

/-- The request's method is HEAD. -/
def isHead (header : List UInt8) : Bool := header.take 5 = ascii "HEAD "

theorem itoa_dark (n : Nat) : ∀ d ∈ itoa n, isBlank d = false ∧ d ≠ cr := by
  intro d mem
  obtain ⟨low,_⟩ := itoa_digits n d mem
  have number : 48 ≤ d.toNat := low
  refine ⟨?_,?_⟩
  · rw [isBlank,Bool.or_eq_false_iff,decide_eq_false_iff_not,decide_eq_false_iff_not]
    exact ⟨by rintro rfl; contradiction,by rintro rfl; contradiction⟩
  · rintro rfl
    contradiction

/-! ### The lines of a response -/

def lengthLines (r : Response) : List (List UInt8) :=
  (ascii "Content-Length: " ++ itoa r.length) :: match r.range with
    | none => []
    | some (start,«end») =>
      [ascii "Content-Range: bytes " ++ itoa start ++ ['-'.toUInt8] ++ itoa «end» ++
        ['/'.toUInt8] ++ itoa r.contentLength]

def startLines (r : Reply) : List (List UInt8) :=
  (if r.status = 204 then []
    else lengthLines r.toResponse ++ if r.contentLength = 0 then [] else [ascii "Content-Type: " ++ r.contentType]) ++
  (if r.gzip then [ascii "Content-Encoding: gzip"] else []) ++
  (if r.etag = [] then [] else [ascii "ETag: " ++ r.etag])

def tailLines (keep : Bool) : List (List UInt8) :=
  [ascii (if keep then "Connection: keep-alive" else "Connection: close"),ascii "X-Frame-Options: DENY",
    ascii "Referrer-Policy: no-referrer",ascii "Allow: GET, HEAD, OPTIONS",ascii "Accept-Ranges: bytes",
      ascii "Server: sarm"]

def replyLines (r : Reply) (keep : Bool) : List (List UInt8) := statusLine r.status :: (startLines r ++ tailLines keep)

theorem headerStart_lay (r : Reply) : headerStart r = statusLine r.status ++ layBehind (startLines r) := by
  have length : lengthFields r.toResponse = layBehind (lengthLines r.toResponse) := by
    rw [lengthFields,lengthLines,show ascii "\r\nContent-Length: " = [cr,lf] ++ ascii "Content-Length: " from rfl]
    cases r.range with
    | none => simp [layBehind]
    | some window =>
      simp only [show ascii "\r\nContent-Range: bytes " = [cr,lf] ++ ascii "Content-Range: bytes " from rfl]
      simp [layBehind]
  rw [headerStart,startLines,length,layBehind_append,layBehind_append,List.append_assoc,List.append_assoc,
    List.append_assoc]
  refine congrArg _ (congrArg₂ _ ?_ (congrArg₂ _ ?_ ?_))
  · split
    · rfl
    · rw [layBehind_append]
      refine congrArg _ ?_
      split
      · rfl
      · rw [show ascii "\r\nContent-Type: " = [cr,lf] ++ ascii "Content-Type: " from rfl]
        simp [layBehind]
  · split <;> rfl
  · split
    · rfl
    · rw [show ascii "\r\nETag: " = [cr,lf] ++ ascii "ETag: " from rfl]
      simp [layBehind]

theorem headerTail_lay (keep : Bool) : headerTail keep = layBehind (tailLines keep) ++ [cr,lf] ++ [cr,lf] := by
  cases keep <;> decide +kernel

theorem encode_lay (r : Reply) (keep : Bool) : encode r keep = lay (replyLines r keep) ++ r.body := by
  rw [encode,replyLines,lay_cons,headerStart_lay,headerTail_lay,layBehind_append]
  simp only [List.append_assoc]

/-- What the build puts beside the files: a content type, and a tag that is a line; a size is
    one of 64 bits. -/
structure Built (files : List Resource) : Prop where
  embedded : Embedded files
  lines : ∀ file ∈ files, cr ∉ file.etag
  sizes : ∀ file ∈ files, file.content.length < 2^64

/-- A response that is as long as it says, to a client that knows of the method. -/
structure Delimited (head : Bool) (r : Reply) : Prop where
  contentType : r.contentLength = 0 ∨ r.contentType ∈ mimeTypes
  etag : cr ∉ r.etag
  small : r.length < 10^20
  body : r.body.length = if head ∨ r.status = 204 then 0 else r.length

theorem statusLine_listed (status : Nat) : (∃ row ∈ statusTable, row.1 = status ∧ statusLine status = ascii row.2) ∨
    (status ≠ 204 ∧ statusLine status = ascii "HTTP/1.1 500 Internal Server Error") := by
  rw [statusLine]
  split
  · next row found =>
    exact .inl ⟨row,List.mem_of_find?_eq_some found,by simpa using List.find?_some found,rfl⟩
  · next missing =>
    refine .inr ⟨?_,rfl⟩
    rintro rfl
    revert missing
    decide

/-- A status line is a line, shows 204 alone of the statuses without a body, and names no field. -/
theorem statusLine_line (status : Nat) : Plain (statusLine status) ∧ noBody (statusLine status) = decide (status = 204) ∧
    valueOf contentLength (statusLine status) = none := by
  have listed : ∀ row ∈ statusTable, Plain (ascii row.2) ∧ noBody (ascii row.2) = decide (row.1 = 204) ∧
      valueOf contentLength (ascii row.2) = none := by decide +kernel
  rcases statusLine_listed status with ⟨row,mem,rfl,line⟩ | ⟨other,line⟩
  · rw [line]
    exact listed row mem
  · rw [line,decide_eq_false other]
    exact listed (500,"HTTP/1.1 500 Internal Server Error") (by simp [statusTable])

theorem plain_append {a b : List UInt8} (plain : Plain a) (rest : cr ∉ b) : Plain (a ++ b) := by
  refine ⟨by simp [plain.1],?_⟩
  rw [List.mem_append,not_or]
  exact ⟨plain.2,rest⟩

theorem itoa_plain (n : Nat) : cr ∉ itoa n := fun mem => (itoa_dark n cr mem).2 rfl

theorem lengthLines_plain (r : Response) : ∀ line ∈ lengthLines r, Plain line := by
  have length : Plain (ascii "Content-Length: " ++ itoa r.length) := plain_append (by decide) (itoa_plain _)
  intro line mem
  rw [lengthLines,List.mem_cons] at mem
  rcases mem with rfl | mem
  · exact length
  · split at mem
    · cases mem
    · rw [List.mem_singleton] at mem
      subst mem
      refine plain_append (plain_append (plain_append (plain_append (plain_append (by decide) ?_) ?_) ?_) ?_) ?_
      · exact itoa_plain _
      · decide
      · exact itoa_plain _
      · decide
      · exact itoa_plain _

theorem replyLines_plain {head : Bool} {r : Reply} (delimited : Delimited head r) (keep : Bool) :
    ∀ line ∈ replyLines r keep, Plain line := by
  intro line mem
  rw [replyLines,List.mem_cons,List.mem_append,startLines,List.mem_append,List.mem_append] at mem
  rcases mem with rfl | ((mem | mem) | mem) | mem
  · exact (statusLine_line r.status).1
  · split at mem
    · cases mem
    rw [List.mem_append] at mem
    rcases mem with mem | mem
    · exact lengthLines_plain _ line mem
    split at mem
    · cases mem
    next full =>
    rw [List.mem_singleton] at mem
    subst mem
    have types : ∀ contentType ∈ mimeTypes, cr ∉ contentType := by decide +kernel
    exact plain_append (by decide) (types _ (delimited.contentType.resolve_left full))
  · split at mem
    · rw [List.mem_singleton] at mem
      subst mem
      decide
    · cases mem
  · split at mem
    · cases mem
    · rw [List.mem_singleton] at mem
      subst mem
      exact plain_append (by decide) delimited.etag
  · have tails : ∀ keep, ∀ line ∈ tailLines keep, Plain line := by
      intro keep
      cases keep <;> decide
    exact tails keep line mem

/-- A response is a whole message to its client. -/
theorem encode_whole {head : Bool} {r : Reply} (delimited : Delimited head r) (keep : Bool) :
    Whole contentLength (bareTo head) (encode r keep) := by
  refine ⟨replyLines r keep,r.body,encode_lay r keep,replyLines_plain delimited keep,?_⟩
  rw [replyLines,List.headD_cons,bareTo,(statusLine_line r.status).2.1,bodyLength,delimited.body]
  by_cases bare : head ∨ r.status = 204
  · rw [if_pos bare,if_pos (by simpa using bare)]
  rw [if_neg bare,if_neg (by simpa using bare)]
  rw [not_or] at bare
  have value : valueOf contentLength (ascii "Content-Length: " ++ itoa r.length) = some (itoa r.length) :=
    @valueOf_line contentLength (ascii "Content-Length") (by decide) (itoa r.length) fun d mem => (itoa_dark _ d mem).1
  have lines : startLines r ++ tailLines keep = (ascii "Content-Length: " ++ itoa r.length) ::
      (startLines r ++ tailLines keep).tail := by
    rw [startLines,if_neg bare.2,lengthLines]
    rfl
  rw [announced,lines,List.findSome?_cons_of_isNone (by rw [(statusLine_line r.status).2.2]; rfl),
    List.findSome?_cons_of_isSome (by rw [value]; rfl),value]
  exact itoa_decimal delimited.small

/-! ### The responses of the handlers -/

variable {files : List Resource}

theorem resource_delimited (built : Built files) {file : Resource} (mem : file ∈ files) :
    Delimited false (resourceReply file none) := by
  have size := built.sizes file mem
  refine ⟨.inr (built.embedded file mem).1,built.lines file mem,?_,rfl⟩
  show file.content.length < 10^20
  omega

theorem window_delimited (built : Built files) {file : Resource} (mem : file ∈ files) {start «end» : Nat}
    (order : start ≤ «end»)
    (inside : «end» < file.content.length) : Delimited false (resourceReply file (some (start,«end»))) := by
  have size := built.sizes file mem
  refine ⟨.inr (built.embedded file mem).1,built.lines file mem,?_,?_⟩
  · show «end» - start + 1 < 10^20
    omega
  · show ((file.content.drop start).take («end» - start + 1)).length = «end» - start + 1
    rw [List.length_take,List.length_drop]
    omega

theorem head_delimited (built : Built files) {file : Resource} (mem : file ∈ files) :
    Delimited true { resourceReply file none with body := [] } := by
  have size := built.sizes file mem
  refine ⟨.inr (built.embedded file mem).1,built.lines file mem,?_,rfl⟩
  show file.content.length < 10^20
  omega

/-- The page of a status is delimited, unless it has octets and goes to a client that expects none. -/
theorem status_delimited (built : Built files) {head : Bool} {status : Nat}
    (quiet : head = true → (statusReply files status).body = []) : Delimited head (statusReply files status) := by
  have bare : Delimited head (bareReply status) := by
    refine ⟨.inl rfl,List.not_mem_nil,show 0 < 10^20 by decide,?_⟩
    split <;> rfl
  rw [statusReply] at quiet ⊢
  split
  · exact bare
  next error =>
  rw [if_neg error] at quiet
  split
  · exact bare
  next file found =>
  rw [found] at quiet
  have mem := lookupResource_mem found
  have size := built.sizes file mem
  refine ⟨.inr (built.embedded file mem).1,built.lines file mem,show file.content.length < 10^20 by omega,?_⟩
  have proper : status ≠ 204 := by omega
  cases head with
  | true => exact congrArg List.length (quiet rfl)
  | false =>
    rw [if_neg (by simp [proper])]
    rfl

/-! ### One response -/

/-- The status that goes out for a status: another, if a field that the response asks after is malformed. -/
def shown (hdr : Mem) (len : Nat) (method : Method) (status : Nat) : Nat :=
  match shouldKeepAlive hdr len method status with
  | .status code => code
  | _ => status

theorem replyStatus_sent (embedded : Embedded files) (s : Session) (hdr : Mem) (status : Nat) :
    ∃ keep, (s.replyStatus files hdr status).sent =
      s.sent ++ [encode (statusReply files (shown hdr s.headerLen s.req.method status)) keep] := by
  have written := writeResponse_fits s hdr (statusReply_short embedded status)
  rw [statusReply_status] at written
  rw [Session.replyStatus,shown]
  cases decided : shouldKeepAlive hdr s.headerLen s.req.method status with
  | status code =>
    obtain rfl := shouldKeepAlive_status decided
    rw [decided] at written
    have again := writeResponse_fits s hdr (statusReply_short embedded 400)
    rw [statusReply_status,lostSync_close s.req.method (by decide)] at again
    obtain ⟨keep,again⟩ := again
    dsimp only at written ⊢
    rw [written]
    dsimp only
    rw [again]
    exact ⟨keep,rfl⟩
  | keep | close =>
    rw [decided] at written
    obtain ⟨keep,written⟩ := written
    dsimp only
    rw [written]
    exact ⟨keep,rfl⟩

/-- The response of a handler, or the page of a status if a field is malformed. -/
theorem respond_sent (embedded : Embedded files) (s : Session) (hdr : Mem) {r : Reply} (fits : Fits r) :
    (∃ keep, (∀ code, shouldKeepAlive hdr s.headerLen s.req.method r.status ≠ .status code) ∧
        (s.respond files hdr r).sent = s.sent ++ [encode r keep]) ∨
      ∃ code keep, shouldKeepAlive hdr s.headerLen s.req.method r.status = .status code ∧
        (s.respond files hdr r).sent =
            s.sent ++ [encode (statusReply files (shown hdr s.headerLen s.req.method code)) keep] := by
  have written := writeResponse_fits s hdr fits
  rw [Session.respond]
  cases decided : shouldKeepAlive hdr s.headerLen s.req.method r.status with
  | status code =>
    obtain rfl := shouldKeepAlive_status decided
    rw [decided] at written
    dsimp only at written
    rw [written]
    obtain ⟨keep,sent⟩ := replyStatus_sent embedded s hdr 400
    exact .inr ⟨400,keep,rfl,sent⟩
  | keep | close =>
    rw [decided] at written
    obtain ⟨keep,written⟩ := written
    rw [written]
    exact .inl ⟨keep,by rintro code ⟨⟩,rfl⟩

/-- The statuses that a request may be answered with instead of a file. -/
inductive Refusal (files : List Resource) (r : Request) (hdr : Mem) (len : Nat) : Nat → Prop where
  | version {code : Nat} (version : verifyHttpVersion hdr len = some code) :
      Refusal files r hdr len (shown hdr len r.method code)
  | failed (version : verifyHttpVersion hdr len = none) (failed : (parseRequest hdr len r).2 = .failed) :
      Refusal files r hdr len (shown hdr len (requestMethod hdr) 400)
  | status {code : Nat} (version : verifyHttpVersion hdr len = none)
    (status : (parseRequest hdr len r).2 = .status code) :
      Refusal files r hdr len (shown hdr len (requestMethod hdr) code)
  | missing {code : Nat} (version : verifyHttpVersion hdr len = none) (parsed : (parseRequest hdr len r).2 = .parsed)
      (missing : getSetup files (parseRequest hdr len r).1 = .error code) :
      Refusal files r hdr len (shown hdr len (requestMethod hdr) code)
  | field {code : Nat} {file : Resource} (version : verifyHttpVersion hdr len = none)
      (parsed : (parseRequest hdr len r).2 = .parsed) (there : getSetup files (parseRequest hdr len r).1 = .ok file)
      (malformed : shouldKeepAlive hdr len (requestMethod hdr) 200 = .status code) :
      Refusal files r hdr len (shown hdr len (requestMethod hdr) code)

theorem parseTarget_method (hdr : Mem) (len : Nat) (r : Request) : (parseTarget hdr len r).1.method = r.method := by
  have host : ∀ r : Request, (storeHost hdr len r).1.method = r.method := by
    intro r
    rw [storeHost]
    split <;> rfl
  rw [parseTarget]
  split
  · rfl
  · rfl
  dsimp only
  split
  · rfl
  split
  · rfl
  · exact host _

theorem parseRequest_method (hdr : Mem) (len : Nat) (r : Request) :
    (parseRequest hdr len r).1.method = requestMethod hdr := by
  rw [parseRequest]
  dsimp only
  split
  · rfl
  · exact parseTarget_method hdr len _

theorem getSetup_listed {r : Request} {file : Resource} (there : getSetup files r = .ok file) : file ∈ files := by
  rw [getSetup] at there
  split at there
  · cases there
  split at there
  · cases there
  · next found =>
    cases there
    exact lookupResource_mem found

/-- The statuses of a header that is not accepted are those of errors. -/
theorem verifyHttpVersion_code {hdr : Mem} {len code : Nat} (refused : verifyHttpVersion hdr len = some code) :
    400 ≤ code := by
  rw [verifyHttpVersion] at refused
  split at refused
  · cases refused; decide
  split at refused
  · cases refused; decide
  split at refused
  · split at refused
    · next code field => cases refused; rw [scanField_status _ _ field]
    · cases refused; decide
    · cases refused
  split at refused
  · cases refused
  split at refused <;> cases refused <;> decide

theorem filenameLoop_code {hdr : Mem} {default : Bool} {code : Nat} : ∀ (left read written : Nat) (slash : Bool)
    (query : Option Nat)
    (bufs : PathBufs), (filenameLoop hdr default left read written slash query bufs).2 = .status code → 400 ≤ code := by
  have ends : ∀ {query length bufs}, (parseEnd query length bufs).2 = .status code → 400 ≤ code := by
    intro query length bufs reply
    rw [parseEnd.eq_def] at reply
    split at reply
    · cases reply
    split at reply <;> cases reply
    decide
  intro left
  induction left with
  | zero => intro read written slash query bufs reply; cases reply
  | succ left ih =>
    intro read written slash query bufs reply
    rw [filenameLoop] at reply
    split at reply
    · cases reply; decide
    dsimp only at reply
    split at reply
    · cases reply
    split at reply
    · rw [filenameDone] at reply
      split at reply
      · split at reply <;> exact ends reply
      · exact ends reply
    split at reply
    · cases reply
    split at reply
    · exact ih _ _ _ _ _ reply
    split at reply
    · split at reply <;> exact ih _ _ _ _ _ reply
    split at reply <;> exact ih _ _ _ _ _ reply

theorem parsePath_code {hdr : Mem} {len code : Nat} {default : Bool} {bufs : PathBufs}
    (reply : (parsePath hdr len default bufs).2 = .status code) : 400 ≤ code := by
  rw [parsePath] at reply
  split at reply
  · cases reply; decide
  split at reply
  · cases reply
  split at reply
  · cases reply
  split at reply
  · split at reply <;> cases reply
    decide
  · exact filenameLoop_code _ _ _ _ _ _ reply

theorem parseRequest_code {hdr : Mem} {len code : Nat} {r : Request}
    (reply : (parseRequest hdr len r).2 = .status code) : 400 ≤ code := by
  rw [parseRequest] at reply
  dsimp only at reply
  split at reply
  · cases reply
  rw [parseTarget] at reply
  split at reply
  · cases reply
  · next parsed => cases reply; exact parsePath_code (congrArg Prod.snd parsed)
  dsimp only at reply
  split at reply
  · cases reply
  split at reply
  · cases reply
  rw [storeHost] at reply
  split at reply
  · next field => cases reply; rw [scanField_status _ _ field]
  · cases reply
  · cases reply

theorem getSetup_code {r : Request} {code : Nat} (missing : getSetup files r = .error code) : 400 ≤ code := by
  rw [getSetup] at missing
  split at missing
  · cases missing; decide
  split at missing <;> cases missing
  decide

theorem parseRange_code {hdr : Mem} {len code : Nat} (malformed : parseRange hdr len = .error code) : 400 ≤ code := by
  rw [parseRange] at malformed
  split at malformed <;> cases malformed
  next field => rw [scanField_status _ _ field]

/-- What a header is answered with: its file, a window of it, the file's header alone, or the page of
    a status. -/
inductive Served (files : List Resource) (r : Request) (hdr : Mem) (len : Nat) : Reply → Prop where
  | whole {file : Resource} (get : requestMethod hdr = .get)
    (there : getSetup files (parseRequest hdr len r).1 = .ok file) :
      Served files r hdr len (resourceReply file none)
  | window {file : Resource} {start «end» : Nat} (get : requestMethod hdr = .get)
      (there : getSetup files (parseRequest hdr len r).1 = .ok file) (order : start ≤ «end»)
        (inside : «end» < file.content.length) :
      Served files r hdr len (resourceReply file (some (start,«end»)))
  | bare {file : Resource} (head : requestMethod hdr = .head)
    (there : getSetup files (parseRequest hdr len r).1 = .ok file)
      (accepted : ∀ code, ¬ Refusal files r hdr len code) :
        Served files r hdr len { resourceReply file none with body := [] }
  | status {code : Nat} (proper : 400 ≤ code ∨ code = 204)
    (refused : requestMethod hdr = .head → Refusal files r hdr len code) :
      Served files r hdr len (statusReply files code)

/-- One response, of those. -/
def Replies (files : List Resource) (r : Request) (hdr : Mem) (len : Nat) (s t : Session) : Prop :=
  ∃ reply keep, t.sent = s.sent ++ [encode reply keep] ∧ Served files r hdr len reply

theorem shown_proper {hdr : Mem} {len status : Nat} {method : Method} (proper : 400 ≤ status ∨ status = 204) :
    400 ≤ shown hdr len method status ∨ shown hdr len method status = 204 := by
  rw [shown]
  split
  · next malformed => rw [shouldKeepAlive_status malformed]; exact .inl (Nat.le_refl _)
  · exact proper

section
variable {r : Request} {hdr : Mem} {len : Nat}

theorem replyStatus_replies (embedded : Embedded files) (s : Session) {status : Nat}
    (proper : 400 ≤ status ∨ status = 204)
    (refused : requestMethod hdr = .head → Refusal files r hdr len (shown hdr s.headerLen s.req.method status)) :
    Replies files r hdr len s (s.replyStatus files hdr status) := by
  obtain ⟨keep,sent⟩ := replyStatus_sent embedded s hdr status
  exact ⟨_,keep,sent,.status (shown_proper proper) refused⟩

theorem respond_replies (embedded : Embedded files) (s : Session) {reply : Reply} (fits : Fits reply)
    (served : (∀ code, shouldKeepAlive hdr s.headerLen s.req.method reply.status ≠ .status code) →
      Served files r hdr len reply)
    (refused : requestMethod hdr = .head → ∀ code, shouldKeepAlive hdr s.headerLen s.req.method reply.status =
      .status code →
      Refusal files r hdr len (shown hdr s.headerLen s.req.method code)) :
    Replies files r hdr len s (s.respond files hdr reply) := by
  rcases respond_sent embedded s hdr fits with ⟨keep,fine,sent⟩ | ⟨code,keep,malformed,sent⟩
  · exact ⟨reply,keep,sent,served fine⟩
  · have proper : 400 ≤ code := by rw [shouldKeepAlive_status malformed]
    exact ⟨_,keep,sent,.status (shown_proper (.inl proper)) fun head => refused head code malformed⟩

theorem get_replies (built : Built files) (s : Session) (get : requestMethod hdr = .get)
    (record : (parseRequest hdr len r).1 = s.req) : Replies files r hdr len s (s.get files hdr len) := by
  have other : requestMethod hdr ≠ .head := by rw [get]; decide
  have refused := fun status proper =>
    @replyStatus_replies files r hdr len built.embedded s status proper fun head => absurd head other
  rw [Session.get]
  split
  · next code missing => exact refused _ (.inl (getSetup_code missing))
  next file there =>
  have mem := getSetup_listed there
  rw [← record] at there
  have whole := @respond_replies files r hdr len built.embedded s (resourceReply file none)
    (resourceReply_fits built.embedded mem none)
    (fun _ => .whole get there) fun head => absurd head other
  split
  · next code malformed => exact refused _ (.inl (parseRange_code malformed))
  · exact whole
  next range parsed =>
  split
  · exact refused _ (.inl (by decide))
  · exact whole
  next start stop chosen =>
  obtain ⟨order,inside⟩ := getRange_inside parsed chosen
  exact respond_replies built.embedded s (resourceReply_fits built.embedded mem _) (fun _ =>
    .window get there order inside)
    fun head => absurd head other

theorem head_replies (built : Built files) (s : Session) (version : verifyHttpVersion hdr len = none)
    (accepted : (parseRequest hdr len r).2 = .parsed) (head : requestMethod hdr = .head)
    (record : (parseRequest hdr len r).1 = s.req) (method : s.req.method = requestMethod hdr) (read : s.headerLen = len) :
    Replies files r hdr len s (s.head files hdr) := by
  rw [Session.head]
  dsimp only
  split
  · next code missing =>
    refine replyStatus_replies built.embedded s (.inl (getSetup_code missing)) fun _ => ?_
    rw [read,method]
    exact .missing version accepted (by rw [record]; exact missing)
  · next file there =>
    have mem := getSetup_listed there
    rw [← record] at there
    refine respond_replies built.embedded s (resourceReply_fits built.embedded mem none) (fun fine => ?_)
      fun _ code malformed => ?_
    · rw [read,method] at fine
      refine .bare head there fun code refusal => ?_
      -- Each way to be refused is ruled out.
      cases refusal with
      | version refused => cases version.symm.trans refused
      | failed _ failed => cases accepted.symm.trans failed
      | status _ status => cases accepted.symm.trans status
      | missing _ _ missing => cases there.symm.trans missing
      | field _ _ _ malformed => exact fine _ malformed
    · rw [read,method] at malformed ⊢
      exact .field version accepted there malformed

theorem options_replies (built : Built files) (s : Session) (other : requestMethod hdr ≠ .head) :
    Replies files r hdr len s (s.options files hdr) := by
  have refused := fun status proper =>
    @replyStatus_replies files r hdr len built.embedded s status proper fun head => absurd head other
  rw [Session.options]
  split
  · exact refused _ (.inr rfl)
  split
  · exact refused _ (.inl (by decide))
  · exact refused _ (.inr rfl)

end

/-- A request has one response. -/
theorem request_replies (built : Built files) (s : Session) (hdr : Mem) (len : Nat) :
    Replies files s.req hdr len s (s.request files hdr len) := by
  have method := parseRequest_method hdr len s.req
  rw [Session.request]
  dsimp only
  split
  · next code version =>
    exact replyStatus_replies built.embedded { s with headerLen := len, budget := s.budget - 1 }
      (.inl (verifyHttpVersion_code version))
      fun _ => .version version
  next version =>
  split
  · next req parsed =>
    rw [parsed] at method
    refine replyStatus_replies built.embedded { s with headerLen := len, budget := s.budget - 1, req := req }
      (.inl (Nat.le_refl 400)) fun _ => ?_
    dsimp only
    rw [show req.method = requestMethod hdr from method]
    exact .failed version (by rw [parsed])
  · next req code parsed =>
    rw [parsed] at method
    have reply : (parseRequest hdr len s.req).2 = .status code := by rw [parsed]
    refine replyStatus_replies built.embedded { s with headerLen := len, budget := s.budget - 1, req := req }
      (.inl (parseRequest_code reply)) fun _ => ?_
    dsimp only
    rw [show req.method = requestMethod hdr from method]
    exact .status version reply
  next req parsed =>
  have accepted : (parseRequest hdr len s.req).2 = .parsed := by rw [parsed]
  have record : (parseRequest hdr len s.req).1 = req := by rw [parsed]
  rw [record] at method
  split
  · next get =>
    exact get_replies built { s with headerLen := len, budget := s.budget - 1, req := req } (method.symm.trans get) record
  · next head =>
    exact head_replies built { s with headerLen := len, budget := s.budget - 1, req := req } version accepted
      (method.symm.trans head) record method rfl
  · next options =>
    refine options_replies built { s with headerLen := len, budget := s.budget - 1, req := req } ?_
    rw [← method,options]
    decide
  · next unknown =>
    refine replyStatus_replies built.embedded { s with headerLen := len, budget := s.budget - 1, req := req }
      (.inl (by decide))
      fun head => ?_
    rw [← method,unknown] at head
    cases head

/-- One response, and delimited. -/
def Responds (head : Bool) (s t : Session) : Prop := ∃ r keep, t.sent = s.sent ++ [encode r keep] ∧ Delimited head r

/-- A response is delimited for its client, unless it is one to HEAD with the page of a status. -/
theorem request_responds (built : Built files) (s : Session) (hdr : Mem) (len : Nat)
    (quiet : requestMethod hdr = .head → ∀ code, Refusal files s.req hdr len code → (statusReply files code).body = []) :
    Responds (decide (requestMethod hdr = .head)) s (s.request files hdr len) := by
  obtain ⟨reply,keep,sent,served⟩ := request_replies built s hdr len
  refine ⟨reply,keep,sent,?_⟩
  cases served with
  | whole get there =>
    rw [get]
    exact resource_delimited built (getSetup_listed there)
  | window get there order inside =>
    rw [get]
    exact window_delimited built (getSetup_listed there) order inside
  | bare head there =>
    rw [head]
    exact head_delimited built (getSetup_listed there)
  | status _ refused =>
    refine status_delimited built fun isHead => ?_
    have head : requestMethod hdr = .head := by simpa using isHead
    exact quiet head _ (refused head)

/-! ### Runs -/

/-- The header that a step answers. -/
def Child.header (c : Child) : Option (List UInt8) :=
    if c.ended then none else (parseHeaderEnd c.buf c.count).map (slice c.buf 0)

/-- The headers found in the steps of a run, in order. -/
def headers (files : List Resource) (c : Child) (n : Nat) : List (List UInt8) :=
  (List.range n).filterMap fun i => (run files c i).header

/-- No request with HEAD is answered with the page of a status that has octets. -/
def Child.Quiet (files : List Resource) (c : Child) : Prop :=
  ∀ len, parseHeaderEnd c.buf c.count = some len → isHead (slice c.buf 0 len) = true →
    ∀ code, Refusal files c.session.req (store c.buf c.count 0) len code → (statusReply files code).body = []

/-- The statuses of an answer without a request. -/
def finalStatuses : List Nat := [400,408,431,500]

/-- The responses of a run, to the headers that were found, and behind them perhaps the error that
    ends the connection. -/
structure FramedBy (files : List Resource) (c : Child) (headers : List (List UInt8)) (final : Option Nat) : Prop where
  whole : List.Forall₂ (Whole contentLength)
    (headers.map (fun header => bareTo (isHead header)) ++ final.toList.map fun _ => bareTo false)
    c.session.sent
  ended : ∀ status ∈ final, status ∈ finalStatuses ∧ c.ended = true ∧
    ∃ keep, c.session.sent.getLast? = some (encode (statusReply files status) keep)

theorem resume_sent (c : Child) (session : Session) : (c.resume session).session.sent = session.sent := by
  rw [Child.resume]
  split <;> rfl

theorem isHead_method {buf : Mem} {len : Nat} (first : FirstEnd buf len) :
    isHead (slice buf 0 len) = decide (requestMethod buf = .head) := by
  have long := first.length
  have front : ∀ n ≤ len, (slice buf 0 len).take n = slice buf 0 n := by
    intro n inside
    obtain ⟨rest,rfl⟩ := Nat.exists_eq_add_of_le inside
    rw [slice_add,List.take_left' (slice_length _ _ _)]
  have distinct : ∀ {text : List UInt8}, slice buf 0 5 = ascii "HEAD " → slice buf 0 4 = text → text = ascii "HEAD" := by
    intro text five four
    rw [← four]
    have shorter := congrArg (List.take 4) five
    rw [show (5 : Nat) = 4 + 1 from rfl,slice_add,List.take_left' (slice_length _ _ _)] at shorter
    exact shorter
  rw [isHead]
  by_cases short : len = 4
  · -- The header is its end.
    have whole : slice buf 0 4 = headerEnd := by
      have ends := first.ends
      rw [short] at ends
      exact (ends.eq_of_length (by rw [slice_length]; rfl)).symm
    have other : requestMethod buf ≠ .head := by
      rw [requestMethod]
      split
      · simp
      split
      · next five =>
        have four := distinct five whole
        revert four
        decide
      split <;> simp
    rw [decide_eq_false other,short,whole]
    decide
  · rw [front 5 (by omega),requestMethod]
    by_cases five : slice buf 0 5 = ascii "HEAD "
    · have four : slice buf 0 4 ≠ ascii "GET " := by
        intro four
        have same := distinct five four
        revert same
        decide
      rw [if_neg four,if_pos five,five]
      rfl
    · rw [decide_eq_false five]
      symm
      rw [decide_eq_false_iff_not]
      split
      · simp
      split <;> simp

theorem serve_framed (built : Built files) {c : Child} {headers : List (List UInt8)} {len : Nat}
    (framed : FramedBy files c headers none)
    (found : parseHeaderEnd c.buf c.count = some len) (quiet : c.Quiet files) :
    FramedBy files (c.serve files len) (headers ++ [slice c.buf 0 len]) none := by
  obtain ⟨inside,first⟩ := parseHeaderEnd_iff.mp found
  have front : ∀ i < len, store c.buf c.count 0 i = c.buf i := fun i before => store_other _ _ (by omega)
  have first' := first.congr front
  have text : slice (store c.buf c.count 0) 0 len = slice c.buf 0 len :=
    slice_eq_iff.mpr fun i before => by rw [Nat.zero_add,front i before]
  obtain ⟨r,keep,sent,delimited⟩ := request_responds built c.session
    (store c.buf c.count 0) len fun isHead code refusal =>
    quiet len found (by rw [← text,isHead_method first',isHead]; rfl) code refusal
  have after : (c.serve files len).session.sent = c.session.sent ++ [encode r keep] := by
    rw [Child.serve,resume_sent]
    exact sent
  refine ⟨?_,by simp⟩
  have before := framed.whole
  rw [after]
  simp only [Option.toList_none,List.map_nil,List.append_nil,List.map_append,List.map_cons] at before ⊢
  refine List.rel_append before (.cons ?_ .nil)
  rw [← text,isHead_method first']
  exact encode_whole delimited keep

/-- An error without a request ends the connection. -/
theorem reply_framed (built : Built files) {c : Child} {headers : List (List UInt8)} {status : Nat}
    (framed : FramedBy files c headers none)
    (final : status ∈ finalStatuses) : FramedBy files (c.reply files status) headers (some status) := by
  have lost : lostSync status = true := by
    simp only [finalStatuses,List.mem_cons,List.not_mem_nil,or_false] at final
    rcases final with rfl | rfl | rfl | rfl <;> rfl
  obtain ⟨keep,sent⟩ := replyStatus_sent built.embedded c.session c.buf status
  rw [shown,lostSync_close _ lost] at sent
  have closed := (replyStatus_lost built.embedded c.session c.buf c.buf lost).2
  have after : (c.reply files status).session.sent = c.session.sent ++ [encode (statusReply files status) keep] := by
    rw [Child.reply,resume_sent]
    exact sent
  have before := framed.whole
  have page : Delimited false (statusReply files status) := status_delimited built (absurd · Bool.false_ne_true)
  refine ⟨?_,?_⟩
  · rw [after]
    simp only [Option.toList_none,List.map_nil,List.append_nil] at before
    exact List.rel_append before (.cons (encode_whole page keep) .nil)
  · rintro status' ⟨⟩
    refine ⟨final,?_,keep,by rw [after,List.getLast?_concat]⟩
    rw [Child.reply,Child.resume,closed]
    rfl

theorem FramedBy.same {c c' : Child} {headers : List (List UInt8)} (framed : FramedBy files c headers none)
    (sent : c'.session.sent = c.session.sent) : FramedBy files c' headers none :=
  ⟨by rw [sent]; exact framed.whole,by simp⟩

theorem read_framed (built : Built files) {c : Child} {headers : List (List UInt8)}
    (framed : FramedBy files c headers none) :
    ∃ final, FramedBy files (c.read files) headers final := by
  rw [Child.read]
  split
  · rw [Child.endOfStream]
    split
    · exact ⟨none,framed.same rfl⟩
    · exact ⟨some 400,reply_framed built framed (by decide)⟩
  · next errno reads _ =>
    have read : FramedBy files { c with reads := reads } headers none := framed.same rfl
    rw [Child.readFailed.eq_def]
    split
    · exact ⟨none,read⟩
    · exact ⟨some 408,reply_framed built read (by decide)⟩
    · exact ⟨some 408,reply_framed built read (by decide)⟩
    · exact ⟨none,read.same rfl⟩
    · exact ⟨none,read.same rfl⟩
    · exact ⟨none,read.same rfl⟩
    · exact ⟨none,read.same rfl⟩
    · exact ⟨none,read.same rfl⟩
    · exact ⟨none,read.same rfl⟩
    · exact ⟨none,read.same rfl⟩
    · exact ⟨none,read.same rfl⟩
    · exact ⟨some 500,reply_framed built read (by decide)⟩
  · exact ⟨none,framed.same rfl⟩

theorem step_framed (built : Built files) {c : Child} {headers : List (List UInt8)} {final : Option Nat}
    (framed : FramedBy files c headers final) (quiet : c.Quiet files) :
    ∃ final, FramedBy files (c.step files) (headers ++ c.header.toList) final := by
  rw [Child.step,Child.header]
  by_cases finished : c.ended = true
  · rw [if_pos finished,if_pos finished]
    simp only [Option.toList_none,List.append_nil]
    exact ⟨final,framed⟩
  rw [if_neg finished,if_neg finished]
  obtain rfl : final = none := by
    by_contra some_
    obtain ⟨status,rfl⟩ := Option.ne_none_iff_exists'.mp some_
    exact finished (framed.ended status rfl).2.1
  cases found : parseHeaderEnd c.buf c.count with
  | some len => exact ⟨none,serve_framed built framed found quiet⟩
  | none =>
    simp only [Option.map_none,Option.toList_none,List.append_nil]
    split
    · exact ⟨some 431,reply_framed built framed (by decide)⟩
    · exact read_framed built framed

theorem run_framed (built : Built files) {c : Child} (start : FramedBy files c [] none) (n : Nat)
    (quiet : ∀ i < n, (run files c i).Quiet files) :
        ∃ final, FramedBy files (run files c n) (headers files c n) final := by
  induction n with
  | zero => exact ⟨none,start⟩
  | succ n ih =>
    obtain ⟨final,framed⟩ := ih fun i before => quiet i (by omega)
    have more : headers files c (n + 1) = headers files c n ++ (run files c n).header.toList := by
      rw [headers,List.range_succ,List.filterMap_append]
      rfl
    rw [more,run,Function.iterate_succ_apply']
    exact step_framed built framed (quiet n (by omega))

/-! ### Errors inside a response -/

/-- `reply_status` with room for so many of them inside each other: a response that meets a malformed
    field is dropped for that of the field's status. -/
def Session.replyWithin (files : List Resource) (hdr : Mem) : Nat → Session → Nat → Option Session
  | 0, _, _ => none
  | depth+1, s, status => match s.writeResponse hdr (statusReply files status) with
    | (s,.status code) => s.replyWithin files hdr depth code
    | (s,_) => some s

/-- The second of them does not look at fields. -/
theorem replyWithin_two (embedded : Embedded files) (s : Session) (hdr : Mem) (status depth : Nat) :
    s.replyWithin files hdr (depth + 2) status = some (s.replyStatus files hdr status) := by
  have written := writeResponse_fits s hdr (statusReply_short embedded status)
  rw [statusReply_status] at written
  rw [Session.replyWithin,Session.replyStatus]
  cases decided : shouldKeepAlive hdr s.headerLen s.req.method status with
  | status code =>
    rw [decided] at written
    have again := writeResponse_fits s hdr (statusReply_short embedded 400)
    rw [statusReply_status,lostSync_close s.req.method (by decide)] at again
    obtain ⟨keep,again⟩ := again
    dsimp only at written
    rw [written]
    dsimp only
    rw [Session.replyWithin,again]
  | keep | close =>
    rw [decided] at written
    obtain ⟨keep,written⟩ := written
    rw [written]

/-- What the client reads of a connection so far: one response for each header that was found, in
    order, and behind them perhaps the error that ends the connection. -/
def Framed (files : List Resource) (c : Child) (n : Nat) : Prop :=
  let sent := (run files c n).session.sent
  ∃ final : Option Nat,
    readMessages contentLength
      ((headers files c n).map (fun header => bareTo (isHead header)) ++ final.toList.map fun _ => bareTo false)
      sent.flatten = some sent ∧
    ∀ status ∈ final, status ∈ finalStatuses ∧ (run files c n).ended = true ∧
      ∃ keep, sent.getLast? = some (encode (statusReply files status) keep)

/-- As long as no request with HEAD is answered with the page of a status, the client reads one
    response to each request; and an error met inside a response is the last. -/
theorem responses_framed (built : Built files) {previous c : Child} {reads : List Read}
    (accepted : accept previous reads = some c)
    (n : Nat) (quiet : ∀ i < n, (run files c i).Quiet files) :
    Framed files c n ∧ ∀ (s : Session) (hdr : Mem) (status depth : Nat),
      s.replyWithin files hdr (depth + 2) status = some (s.replyStatus files hdr status) := by
  have start : FramedBy files c [] none := by
    have nothing : c.session.sent = [] := by
      match reads, accepted with
      | .data first rest :: reads, accepted =>
        rw [accept] at accepted
        dsimp only at accepted
        split at accepted
        · cases accepted
          rfl
        · cases accepted
    exact ⟨by rw [nothing]; exact .nil,by simp⟩
  obtain ⟨final,framed⟩ := run_framed built start n quiet
  exact ⟨⟨final,readMessages_whole framed.whole,framed.ended⟩,replyWithin_two built.embedded⟩

/-! ### Requests with HEAD -/

def headOf (path : String) : List UInt8 := ascii "HEAD " ++ ascii path ++ ascii " HTTP/1.1\r\nHost: a\r\n\r\n"

theorem homeSite_pageless (status : Nat) : (statusReply homeSite status).body = [] := by
  have missing : ∀ rest, lookupResource homeSite (ascii "www/err/" ++ rest) = none := by
    intro rest
    rw [lookupResource,homeSite,List.find?_cons_of_neg,List.find?_nil]
    rw [Bool.and_eq_true,not_and]
    exact fun _ => by simp [ascii,streqn]
  rw [statusReply]
  split
  · rfl
  · rw [List.append_assoc,missing]
    rfl

/-- HEAD of the default file and of none, and the file behind them. -/
theorem responses_framed_head : ∃ c, accept .idle (whole (headOf "/" ++ headOf "/a" ++ getHome)) = some c ∧
    Framed homeSite c 3 := by
  have accepted : (accept .idle (whole (headOf "/" ++ headOf "/a" ++ getHome))).isSome := by decide
  obtain ⟨c,here⟩ := Option.isSome_iff_exists.mp accepted
  have built : Built homeSite := ⟨by decide,by decide,by decide⟩
  exact ⟨c,here,(responses_framed built here 3 fun _ _ _ _ _ status _ => homeSite_pageless status).1⟩

/-- The site with a page for what is not found. -/
def pagedSite : List Resource :=
  homeSite ++ [⟨⟨ascii "www/err/404.html",ascii "no page",ascii "text/html; charset=utf-8",false⟩,
    List.replicate 66 '"'.toUInt8⟩]

def headMissing : Child := (accept .idle (whole (headOf "/a"))).get (by decide)

/-- The page is sent to HEAD, on a connection that is kept; the client takes it for the start of the
    next response. -/
theorem headMissing_page : accept .idle (whole (headOf "/a")) = some headMissing ∧
    (run pagedSite headMissing 1).ended = false ∧
    headers pagedSite headMissing 1 = [headOf "/a"] ∧
    (readMessage contentLength (bareTo true) (run pagedSite headMissing 1).session.sent.flatten).map Prod.snd =
      some (ascii "no page") ∧
    ¬ Framed pagedSite headMissing 1 := by
  obtain ⟨going,found,page,unread⟩ : (run pagedSite headMissing 1).ended = false ∧
    headers pagedSite headMissing 1 = [headOf "/a"] ∧
      (readMessage contentLength (bareTo true) (run pagedSite headMissing 1).session.sent.flatten).map Prod.snd =
        some (ascii "no page") ∧
      readMessages contentLength ([headOf "/a"].map fun header => bareTo (isHead header))
        (run pagedSite headMissing 1).session.sent.flatten = none := by decide +kernel
  refine ⟨(Option.some_get _).symm,going,found,page,?_⟩
  rintro ⟨final,reads,ends⟩
  cases final with
  | none =>
    rw [found,Option.toList_none,List.map_nil,List.append_nil,unread] at reads
    cases reads
  | some status => exact Bool.noConfusion (going.symm.trans (ends status rfl).2.1)

end Sarm.Http1
