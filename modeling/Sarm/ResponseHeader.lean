import Sarm.SameAnswer

/-!
The header of a response of HTTP/1, as it is composed: piece by piece into a buffer, each
only if it fits, and what the header that goes out says of the body behind it.
-/
namespace Sarm.Http1
open Sarm.Memory Sarm.H2 Sarm.Messages
open Sarm.Hpack (ascii)

/-! ### The buffer -/

/-- `x13` and `x14`: where the next piece goes, and how much there is with it. -/
structure Composer where
  mem : Mem
  next : Nat
  count : Nat

/-- A piece is counted first, and copied if it fits. -/
def Composer.append (c : Composer) (piece : List UInt8) : Composer × Bool :=
  if responseHeaderSize < c.count + piece.length then ({ c with count := c.count + piece.length },false)
  else (⟨blit c.mem c.next (ofBytes piece) piece.length,c.next + piece.length,c.count + piece.length⟩,true)

def Composer.appendAll : Composer → List (List UInt8) → Composer × Bool
  | c, [] => (c,true)
  | c, piece :: pieces => match c.append piece with
    | (c,false) => (c,false)
    | (c,true) => c.appendAll pieces

/-- The pieces of `lengthFields`. -/
def lengthPieces (r : Response) : List (List UInt8) :=
  [ascii "\r\nContent-Length: ",itoa r.length] ++
    match r.range with
    | none => []
    | some (start,«end») =>
      [ascii "\r\nContent-Range: bytes ",itoa start,['-'.toUInt8],itoa «end»,['/'.toUInt8],itoa r.contentLength]

/-- The pieces of `headerStart`. -/
def startPieces (r : Reply) : List (List UInt8) :=
  [statusLine r.status] ++
    (if r.status = 204 then []
      else lengthPieces r.toResponse ++
        if r.contentLength = 0 then [] else [ascii "\r\nContent-Type: ",r.contentType]) ++
    (if r.gzip then [ascii "\r\nContent-Encoding: gzip"] else []) ++
    (if r.etag = [] then [] else [ascii "\r\nETag: ",r.etag])

/-- `http1_write_response` over the memory that `header_buf` is in. -/
def Session.composeResponse (s : Session) (hdr m : Mem) (header_buf : Nat) (r : Reply) : (Session × Written) × Mem :=
  match Composer.appendAll ⟨m,header_buf,0⟩ (startPieces r) with
  | (c,false) => ((s,.tooBig),c.mem)
  | (c,true) => match shouldKeepAlive hdr s.headerLen s.req.method r.status with
    | .status code => ((s,.status code),c.mem)
    | reply =>
      let keep := reply = .keep ∧ 0 < s.budget
      let s := { s with decision := keep }
      match c.append (headerTail keep) with
      | (c,false) => ((s,.tooBig),c.mem)
      | (c,true) => (({ s with sent := s.sent ++ [slice c.mem header_buf c.count ++ r.body] },.done),c.mem)

theorem startPieces_flatten (r : Reply) : (startPieces r).flatten = headerStart r := by
  have length : (lengthPieces r.toResponse).flatten = lengthFields r.toResponse := by
    rw [lengthPieces,lengthFields]
    cases r.range with
    | none => simp
    | some window => simp
  rw [startPieces,headerStart,List.flatten_append,List.flatten_append,List.flatten_append,List.flatten_singleton]
  refine congrArg₂ _ (congrArg₂ _ (congrArg _ ?_) ?_) ?_
  · split
    · rfl
    · rw [List.flatten_append,length]
      split <;> simp
  · split <;> simp
  · split <;> simp

/-- What is in the buffer, and that nothing is written beside it. -/
structure Composer.Holds (header_buf : Nat) (m : Mem) (text : List UInt8) (c : Composer) : Prop where
  next : c.next = header_buf + text.length
  count : c.count = text.length
  fits : text.length ≤ responseHeaderSize
  text : slice c.mem header_buf text.length = text
  beside : ∀ i, i < header_buf ∨ header_buf + responseHeaderSize ≤ i → c.mem i = m i

section
variable {header_buf : Nat} {m : Mem} {text : List UInt8} {c : Composer}

/-- A piece more, or no room for it. -/
theorem append_holds (holds : c.Holds header_buf m text) (piece : List UInt8) :
    match c.append piece with
    | (c',true) => c'.Holds header_buf m (text ++ piece)
    | (c',false) => responseHeaderSize < (text ++ piece).length ∧ c'.mem = c.mem := by
  obtain ⟨next,count,fits,inside,beside⟩ := holds
  rw [Composer.append,count,next,List.length_append]
  by_cases long : responseHeaderSize < text.length + piece.length
  · rw [if_pos long]
    exact ⟨long,rfl⟩
  rw [if_neg long]
  refine ⟨?_,?_,?_,?_,fun i away => ?_⟩
  · rw [List.length_append,Nat.add_assoc]
  · rw [List.length_append]
  · rw [List.length_append]
    exact Nat.not_lt.mp long
  · rw [List.length_append,slice_add,slice_blit_before (by omega),slice_blit_same,slice_ofBytes,inside]
  · dsimp only
    rw [blit_outside (by omega)]
    exact beside i away

theorem appendAll_holds : ∀ (pieces : List (List UInt8)) {text : List UInt8} {c : Composer}, c.Holds header_buf m text →
    match c.appendAll pieces with
    | (c',true) => c'.Holds header_buf m (text ++ pieces.flatten)
    | (c',false) => responseHeaderSize < (text ++ pieces.flatten).length ∧
        ∀ i, i < header_buf ∨ header_buf + responseHeaderSize ≤ i → c'.mem i = m i := by
  intro pieces
  induction pieces with
  | nil =>
    intro text c holds
    rw [Composer.appendAll,List.flatten_nil,List.append_nil]
    exact holds
  | cons piece pieces ih =>
    intro text c holds
    have first := append_holds holds piece
    rw [Composer.appendAll]
    cases appended : c.append piece with
    | mk c₁ ok =>
      rw [appended] at first
      cases ok with
      | false =>
        obtain ⟨long,same⟩ := first
        refine ⟨?_,fun i away => ?_⟩
        · rw [List.flatten_cons,← List.append_assoc,List.length_append]
          omega
        · rw [same]
          exact holds.beside i away
      | true =>
        rw [List.flatten_cons,← List.append_assoc]
        exact ih first

end

/-- The header is composed inside its buffer, and what comes of it is what the header as a
    whole comes to: it goes out with the body if it fits, and nothing does if it does not. -/
theorem composeResponse_eq (s : Session) (hdr m : Mem) (header_buf : Nat) (r : Reply) :
    (s.composeResponse hdr m header_buf r).1 = s.writeResponse hdr r ∧
      ∀ i, i < header_buf ∨ header_buf + responseHeaderSize ≤ i → (s.composeResponse hdr m header_buf r).2 i = m i := by
  have start := @appendAll_holds header_buf m (startPieces r) [] ⟨m,header_buf,0⟩
    ⟨rfl,rfl,Nat.zero_le _,rfl,fun _ _ => rfl⟩
  rw [List.nil_append,startPieces_flatten] at start
  rw [Session.composeResponse,Session.writeResponse]
  cases composed : Composer.appendAll ⟨m,header_buf,0⟩ (startPieces r) with
  | mk c ok =>
    rw [composed] at start
    cases ok with
    | false =>
      obtain ⟨long,beside⟩ := start
      dsimp only
      rw [if_pos long]
      exact ⟨rfl,beside⟩
    | true =>
      dsimp only at start ⊢
      rw [if_neg (Nat.not_lt.mpr start.fits)]
      -- The tail follows the decision, whichever it is.
      have finish (keep : Bool) : ∀ result : (Session × Written) × Mem, result = (match c.append (headerTail keep) with
          | (c,false) => (({ s with decision := keep },.tooBig),c.mem)
          | (c,true) => (({ s with decision := keep, sent := s.sent ++ [slice c.mem header_buf c.count ++ r.body] },
            .done),c.mem)) →
          result.1 = (if responseHeaderSize < (headerStart r ++ headerTail keep).length then
            ({ s with decision := keep },.tooBig)
            else ({ s with decision := keep, sent := s.sent ++ [headerStart r ++ headerTail keep ++ r.body] },.done)) ∧
            ∀ i, i < header_buf ∨ header_buf + responseHeaderSize ≤ i → result.2 i = m i := by
        rintro result rfl
        have tail := append_holds start (headerTail keep)
        cases appended : c.append (headerTail keep) with
        | mk c' ok =>
          rw [appended] at tail
          cases ok with
          | false =>
            obtain ⟨long,same⟩ := tail
            rw [if_pos long]
            exact ⟨rfl,fun i away => (congrFun same i).trans (start.beside i away)⟩
          | true =>
            dsimp only at tail ⊢
            rw [if_neg (Nat.not_lt.mpr tail.fits),tail.count,tail.text]
            exact ⟨rfl,tail.beside⟩
      cases shouldKeepAlive hdr s.headerLen s.req.method r.status with
      | status code => exact ⟨rfl,start.beside⟩
      | keep | close => exact finish _ _ rfl

theorem writeResponse_whole (s : Session) (hdr : Mem) (r : Reply) :
    match s.writeResponse hdr r with
    | (t,.done) => ∃ header, header.length ≤ responseHeaderSize ∧ t.sent = s.sent ++ [header ++ r.body]
    | (t,_) => t.sent = s.sent := by
  rw [Session.writeResponse]
  by_cases long : responseHeaderSize < (headerStart r).length
  · rw [if_pos long]
  rw [if_neg long]
  cases shouldKeepAlive hdr s.headerLen s.req.method r.status with
  | status code => rfl
  | keep | close =>
    dsimp only
    split
    · next whole =>
      split at whole
      · cases whole
      · next fits =>
        cases whole
        exact ⟨_,Nat.not_lt.mp fits,rfl⟩
    · next other whole =>
      split at whole
      · cases whole
        rfl
      · cases whole
        exact absurd rfl other

/-! ### What the header says -/

/-- A header and the body behind it, to a client that knows whether it has asked with HEAD, for
    a resource of this content. -/
structure Agrees (head : Bool) (content : List UInt8) (status : Nat) (lines : List (List UInt8))
    (body : List UInt8) : Prop where
  bare : head = true → body = []
  length : announced contentLength lines =
    some (if head then (if status = 200 then content.length else 0) else body.length)
  whole : head = false → status = 200 → body = content
  ranged : (valueShown (ascii "content-range") lines).isSome = decide (status = 206)
  window : status = 206 → ∃ first last a b c, valueShown (ascii "content-range") lines =
      some (ascii "bytes " ++ (a ++ ['-'.toUInt8] ++ b ++ ['/'.toUInt8] ++ c)) ∧
    decimal a = some first ∧ decimal b = some last ∧ decimal c = some content.length ∧
    first ≤ last ∧ last < content.length ∧ body = (content.drop first).take (last - first + 1)

/-- A response whose header fits its buffer and agrees with the body, unless it is one of 204. -/
def Consistent (head : Bool) (content response : List UInt8) : Prop :=
  ∃ status lines body, response = lay lines ++ body ∧ lines.head? = some (statusLine status) ∧
    (∀ line ∈ lines, Plain line) ∧
    (lay lines).length ≤ responseHeaderSize ∧ (status ≠ 204 → Agrees head content status lines body)

section
variable {head : Bool} {content : List UInt8} {r : Reply} (keep : Bool)

theorem length_shown (typed : r.contentLength = 0 ∨ r.contentType ∈ mimeTypes) (proper : r.status ≠ 204) :
    valueShown (ascii "content-length") (replyLines r keep) = some (itoa r.length) := by
  have first : ((bodyFields r.toResponse).find? fun field => field.1.map lower = ascii "content-length") =
      some (ascii "Content-Length",itoa r.length) := by
    rw [bodyFields]
    exact List.find?_cons_of_pos (by rw [decide_eq_true_eq]; exact names_lower.1)
  rw [valueShown_lines typed keep (by decide),startFields_value r (by decide),if_neg proper,first]
  rfl

theorem range_shown (typed : r.contentLength = 0 ∨ r.contentType ∈ mimeTypes) (proper : r.status ≠ 204) :
    valueShown (ascii "content-range") (replyLines r keep) = r.range.map fun window =>
      ascii "bytes " ++ (itoa window.1 ++ ['-'.toUInt8] ++ itoa window.2 ++ ['/'.toUInt8] ++ itoa r.contentLength) := by
  obtain ⟨length,range,type,_⟩ := names_lower
  have length_range : ascii "content-length" ≠ ascii "content-range" := by decide
  have type_range : ascii "content-type" ≠ ascii "content-range" := by decide
  have range_encoding : ascii "content-range" ≠ ascii "content-encoding" := by decide
  rw [valueShown_lines typed keep (by decide),startFields_value r (by decide),if_neg proper,
    if_neg fun both => range_encoding both.2,Option.or_none,bodyFields]
  cases window : r.range with
  | none => by_cases empty : r.contentLength = 0 <;> simp [*]
  | some window => simp [*]

/-- A reply that says what it has. -/
structure Fitting (head : Bool) (content : List UInt8) (r : Reply) : Prop where
  bare : head = true → r.body = []
  length : r.length = if head then (if r.status = 200 then content.length else 0) else r.body.length
  whole : head = false → r.status = 200 → r.body = content
  ranged : r.range.isSome = decide (r.status = 206)
  window : ∀ start stop, r.range = some (start,stop) → start ≤ stop ∧ stop < content.length ∧
    r.contentLength = content.length ∧
    r.body = (content.drop start).take (stop - start + 1)
  small : content.length < 2^64

theorem encode_consistent (delimited : Delimited head r) (fits : Fits r)
    (fitting : r.status ≠ 204 → Fitting head content r) :
    Consistent head content (encode r keep) := by
  refine ⟨r.status,replyLines r keep,r.body,encode_lay r keep,rfl,replyLines_plain delimited keep,?_,fun proper => ?_⟩
  · have whole : encode r keep = headerStart r ++ headerTail keep ++ r.body := rfl
    rw [encode_lay] at whole
    rw [List.append_cancel_right whole]
    exact fits keep
  · obtain ⟨bare,length,whole,ranged,window,small⟩ := fitting proper
    have typed := delimited.contentType
    refine ⟨bare,?_,whole,?_,fun partial_ => ?_⟩
    · have shown := length_shown keep typed proper
      rw [announced,show contentLength = ascii "content-length" from rfl,← valueShown,shown,Option.bind_some,
        itoa_decimal delimited.small,length]
    · rw [range_shown keep typed proper,Option.isSome_map,ranged]
    · rw [partial_,decide_eq_true rfl] at ranged
      obtain ⟨⟨start,stop⟩,chosen⟩ := Option.isSome_iff_exists.mp ranged
      obtain ⟨order,inside,total,body⟩ := window start stop chosen
      refine ⟨start,stop,itoa start,itoa stop,itoa r.contentLength,?_,?_,?_,?_,order,inside,body⟩
      · rw [range_shown keep typed proper,chosen]
        rfl
      · exact itoa_decimal (by omega)
      · exact itoa_decimal (by omega)
      · rw [itoa_decimal (by omega),total]

end

/-! ### The replies -/

variable {files : List Resource}

/-- The octets of the file that a header names, if there is one. -/
def named (files : List Resource) (r : Request) (hdr : Mem) (len : Nat) : List UInt8 :=
  match getSetup files (parseRequest hdr len r).1 with
  | .error _ => []
  | .ok file => file.content

/-- The page of a status, unless it has octets and goes to a client that expects none. -/
theorem status_fitting {head : Bool} {content : List UInt8} {code : Nat} (proper : 400 ≤ code)
    (small : content.length < 2^64) (quiet : head = true → (statusReply files code).body = []) :
    Fitting head content (statusReply files code) := by
  have status := statusReply_status files code
  have plain : (statusReply files code).range = none ∧ (statusReply files code).contentLength =
      (statusReply files code).body.length := by
    rw [statusReply]
    split
    · exact ⟨rfl,rfl⟩
    split
    · exact ⟨rfl,rfl⟩
    · exact ⟨rfl,rfl⟩
  obtain ⟨unranged,total⟩ := plain
  have error : code ≠ 200 ∧ code ≠ 206 := by omega
  refine ⟨quiet,?_,fun _ same => absurd (status.symm.trans same) error.1,?_,fun start stop chosen => ?_,small⟩
  · rw [Response.length,unranged]
    dsimp only
    rw [total]
    cases head with
    | true => rw [quiet rfl,if_pos rfl,status,if_neg error.1,List.length_nil]
    | false => rfl
  · rw [unranged,status,decide_eq_false error.2]
    rfl
  · rw [unranged] at chosen
    cases chosen

/-- What a header is answered with agrees with what is sent, unless it is the page of a status, with
    octets, to HEAD. -/
theorem served_consistent (built : Built files) {r : Request} {hdr : Mem} {len : Nat} {reply : Reply} (keep : Bool)
    (served : Served files r hdr len reply)
    (quiet : requestMethod hdr = .head → ∀ code, Refusal files r hdr len code → (statusReply files code).body = []) :
    Consistent (decide (requestMethod hdr = .head)) (named files r hdr len) (encode reply keep) := by
  have small : (named files r hdr len).length < 2^64 := by
    rw [named]
    split
    · decide
    · next file there => exact built.sizes file (getSetup_listed there)
  cases served with
  | @whole file get there =>
    have content : named files r hdr len = file.content := by rw [named,there]
    have mem := getSetup_listed there
    rw [get]
    refine encode_consistent keep (resource_delimited built mem) (resourceReply_fits built.embedded mem none) fun _ => ?_
    exact ⟨nofun,rfl,fun _ _ => content.symm,rfl,fun _ _ chosen => (nomatch chosen),small⟩
  | @window file start stop get there order inside =>
    have content : named files r hdr len = file.content := by rw [named,there]
    have mem := getSetup_listed there
    have delimited := window_delimited built mem order inside
    rw [get]
    refine encode_consistent keep delimited (resourceReply_fits built.embedded mem _) fun _ => ?_
    refine ⟨nofun,?_,fun _ other => absurd (show 206 = 200 from other) (by decide),rfl,?_,small⟩
    · have count := delimited.body
      rw [if_neg (by rintro (wrong | wrong) <;> cases wrong)] at count
      exact count.symm
    · rintro first last ⟨⟩
      rw [content]
      exact ⟨order,inside,rfl,rfl⟩
  | @bare file head there =>
    have content : named files r hdr len = file.content := by rw [named,there]
    have mem := getSetup_listed there
    rw [head]
    refine encode_consistent keep (head_delimited built mem) (resourceReply_fits built.embedded mem none) fun _ => ?_
    refine ⟨fun _ => rfl,?_,nofun,rfl,fun _ _ chosen => (nomatch chosen),small⟩
    rw [content]
    rfl
  | @status code proper refused =>
    have silent : decide (requestMethod hdr = .head) = true → (statusReply files code).body = [] := fun isHead => by
      have head : requestMethod hdr = .head := by simpa using isHead
      exact quiet head _ (refused head)
    refine encode_consistent keep (status_delimited built silent) (statusReply_short built.embedded code) fun other => ?_
    rw [statusReply_status] at other
    exact status_fitting (proper.resolve_right other) small silent

theorem Refusal.error {r : Request} {hdr : Mem} {len code : Nat} (refusal : Refusal files r hdr len code) :
    code ≠ 204 := by
  have shown_error {status : Nat} {method : Method} (error : 400 ≤ status) : shown hdr len method status ≠ 204 := by
    rw [shown]
    split
    · next malformed => rw [shouldKeepAlive_status malformed]; decide
    · omega
  cases refusal with
  | version version => exact shown_error (verifyHttpVersion_code version)
  | failed => exact shown_error (Nat.le_refl 400)
  | status _ status => exact shown_error (parseRequest_code status)
  | missing _ _ missing => exact shown_error (getSetup_code missing)
  | field _ _ _ malformed => exact shown_error (by rw [shouldKeepAlive_status malformed])

/-- There is one way to be refused. -/
theorem Refusal.unique {r : Request} {hdr : Mem} {len code code' : Nat} (first : Refusal files r hdr len code)
    (second : Refusal files r hdr len code') : code = code' := by
  cases first with
  | version version =>
    cases second with
    | version version' => cases version.symm.trans version'; rfl
    | failed version' | status version' | missing version' | field version' => cases version.symm.trans version'
  | failed version failed =>
    cases second with
    | version version' => cases version.symm.trans version'
    | failed => rfl
    | status _ status => cases failed.symm.trans status
    | missing _ parsed => cases failed.symm.trans parsed
    | field _ parsed => cases failed.symm.trans parsed
  | status version status =>
    cases second with
    | version version' => cases version.symm.trans version'
    | failed _ failed => cases status.symm.trans failed
    | status _ status' => cases status.symm.trans status'; rfl
    | missing _ parsed => cases status.symm.trans parsed
    | field _ parsed => cases status.symm.trans parsed
  | missing version parsed missing =>
    cases second with
    | version version' => cases version.symm.trans version'
    | failed _ failed => cases parsed.symm.trans failed
    | status _ status => cases parsed.symm.trans status
    | missing _ _ missing' => cases missing.symm.trans missing'; rfl
    | field _ _ there => cases missing.symm.trans there
  | field version parsed there malformed =>
    cases second with
    | version version' => cases version.symm.trans version'
    | failed _ failed => cases parsed.symm.trans failed
    | status _ status => cases parsed.symm.trans status
    | missing _ _ missing => cases there.symm.trans missing
    | field _ _ _ malformed' => cases malformed.symm.trans malformed'; rfl

/-- To HEAD the head is all there is. -/
theorem consistent_bare {content : List UInt8} {r : Reply} {keep : Bool} (plain : ∀ line ∈ replyLines r keep, Plain line)
    (proper : r.status ≠ 204) (consistent : Consistent true content (encode r keep)) : r.body = [] := by
  obtain ⟨status,lines,body,laid,first,plain',_,agrees⟩ := consistent
  rw [encode_lay] at laid
  obtain ⟨n,enough,enough'⟩ : ∃ n, (replyLines r keep).length < n ∧ lines.length < n :=
    ⟨(replyLines r keep).length + lines.length + 1,by omega,by omega⟩
  have cut := cutHead_lay plain enough r.body
  rw [laid,cutHead_lay plain' enough' body,Option.some.injEq,Prod.mk.injEq] at cut
  obtain ⟨rfl,rfl⟩ := cut
  have line : statusLine r.status = statusLine status := Option.some.inj first
  have known := (statusLine_line r.status).2.1
  rw [line,(statusLine_line status).2.1,decide_eq_false proper,decide_eq_false_iff_not] at known
  exact (agrees known).bare rfl

/-! ### The law -/

/-- One response, and its header agrees with the body. -/
def Answers (files : List Resource) (s : Session) (hdr : Mem) (len : Nat) : Prop :=
  ∃ response, (s.request files hdr len).sent = s.sent ++ [response] ∧
    Consistent (decide (requestMethod hdr = .head)) (named files s.req hdr len) response

/-- Whatever is composed stays in its buffer, and goes out whole or not at all; and the header of
    every response agrees with its body, unless the page of a status, with octets, goes to HEAD. -/
theorem headers_consistent (built : Built files) :
    (∀ (s : Session) (hdr m : Mem) (header_buf : Nat) (r : Reply),
      (s.composeResponse hdr m header_buf r).1 = s.writeResponse hdr r ∧
      (∀ i, i < header_buf ∨ header_buf + responseHeaderSize ≤ i → (s.composeResponse hdr m header_buf r).2 i = m i) ∧
      match s.writeResponse hdr r with
      | (t,.done) => ∃ header, header.length ≤ responseHeaderSize ∧ t.sent = s.sent ++ [header ++ r.body]
      | (t,_) => t.sent = s.sent) ∧
    (∀ (s : Session) (hdr : Mem) (len : Nat), Answers files s hdr len ↔
      (requestMethod hdr = .head → ∀ code, Refusal files s.req hdr len code → (statusReply files code).body = [])) ∧
    ∀ (s : Session) (hdr : Mem) (status : Nat), 400 ≤ status →
      ∃ response, (s.replyStatus files hdr status).sent = s.sent ++ [response] ∧ Consistent false [] response := by
  refine ⟨fun s hdr m header_buf r => ?_,fun s hdr len => ⟨?_,fun quiet => ?_⟩,fun s hdr status error => ?_⟩
  · obtain ⟨same,beside⟩ := composeResponse_eq s hdr m header_buf r
    refine ⟨same,beside,?_⟩
    exact writeResponse_whole s hdr r
  · rintro ⟨response,sent,consistent⟩ head code refusal
    obtain ⟨reply,keep,sent',served⟩ := request_replies built s hdr len
    rw [sent'] at sent
    obtain rfl : encode reply keep = response := List.singleton_inj.mp (List.append_cancel_left sent)
    rw [decide_eq_true head] at consistent
    cases served with
    | whole get => cases head.symm.trans get
    | window get => cases head.symm.trans get
    | bare _ _ accepted => exact absurd refusal (accepted code)
    | @status code' proper refused =>
      obtain rfl := (refused head).unique refusal
      have error : code' ≠ 204 := refusal.error
      have delimited : Delimited false (statusReply files code') := status_delimited built nofun
      refine consistent_bare (replyLines_plain delimited keep) ?_ consistent
      rw [statusReply_status]
      exact error
  · obtain ⟨reply,keep,sent,served⟩ := request_replies built s hdr len
    exact ⟨encode reply keep,sent,served_consistent built keep served quiet⟩
  · obtain ⟨keep,sent⟩ := replyStatus_sent built.embedded s hdr status
    refine ⟨_,sent,?_⟩
    have error' : 400 ≤ shown hdr s.headerLen s.req.method status := by
      rw [shown]
      split
      · next malformed => rw [shouldKeepAlive_status malformed]
      · exact error
    exact encode_consistent keep (status_delimited built nofun) (statusReply_short built.embedded _) fun _ =>
      status_fitting error' (by decide) nofun

/-- HEAD of the default file. -/
theorem headers_consistent_head : Answers homeSite newSession (ofBytes (headOf "/")) (headOf "/").length := by
  have built : Built homeSite := ⟨by decide,by decide,by decide⟩
  exact ((headers_consistent built).2.1 _ _ _).mpr fun _ code _ => homeSite_pageless code

/-- HEAD of a file that is not there, on a site with a page for that. -/
theorem page_to_head : ¬ Answers pagedSite newSession (ofBytes (headOf "/a")) (headOf "/a").length := by
  rintro ⟨response,sent,consistent⟩
  have page : (newSession.request pagedSite (ofBytes (headOf "/a")) (headOf "/a").length).sent =
      newSession.sent ++ [encode (statusReply pagedSite 404) true] := by decide +kernel
  rw [page] at sent
  obtain rfl : encode (statusReply pagedSite 404) true = response := List.singleton_inj.mp (List.append_cancel_left sent)
  have head : requestMethod (ofBytes (headOf "/a")) = .head := by decide +kernel
  rw [decide_eq_true head] at consistent
  have empty := consistent_bare (by decide +kernel) (by decide +kernel) consistent
  revert empty
  decide +kernel

end Sarm.Http1
