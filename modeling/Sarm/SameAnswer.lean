import Sarm.Framing
import Sarm.HeaderBlock
import Sarm.HeaderList

/-!
The two protocols on one request: what a header and a header list that say the same are
answered with. The file is the same and so is the window of it, but not the page of a
status, which HTTP/2 leaves out.
-/
namespace Sarm.Http1
open Sarm.Memory Sarm.H2 Sarm.Messages
open Sarm.Hpack (ascii Field FieldRef HpackState Ptr)

/-! ### The fields of a response -/

/-- The value of a line. -/
def valueShown (name : List UInt8) (lines : List (List UInt8)) : Option (List UInt8) := lines.findSome? (valueOf name)

/-- The value of a field. -/
def valueListed (name : List UInt8) (fields : List Field) : Option (List UInt8) :=
  (fields.find? fun field => field.name = name).map Field.value

/-- The fields of a response that both protocols have. -/
def sharedNames : List (List UInt8) := ["content-length","content-range","content-type","content-encoding"].map ascii

/-- The fields that speak of a body, in the order of HTTP/1. -/
def bodyFields (r : Response) : List (List UInt8 × List UInt8) :=
  (ascii "Content-Length",itoa r.length) ::
    ((match r.range with
      | none => []
      | some (start,«end») => [(ascii "Content-Range",
          ascii "bytes " ++ (itoa start ++ ['-'.toUInt8] ++ itoa «end» ++ ['/'.toUInt8] ++ itoa r.contentLength))]) ++
    if r.contentLength = 0 then [] else [(ascii "Content-Type",r.contentType)])

/-- The lines between the status line and the tail, as fields. -/
def startFields (r : Reply) : List (List UInt8 × List UInt8) :=
  (if r.status = 204 then [] else bodyFields r.toResponse) ++
    (if r.gzip then [(ascii "Content-Encoding",ascii "gzip")] else []) ++
    (if r.etag = [] then [] else [(ascii "ETag",r.etag)])

theorem startLines_fields (r : Reply) : startLines r = (startFields r).map fieldLine := by
  have length : ascii "Content-Length: " = ascii "Content-Length" ++ [colon,32] := by decide
  have range : ascii "Content-Range: bytes " = ascii "Content-Range" ++ [colon,32] ++ ascii "bytes " := by decide
  have type : ascii "Content-Type: " = ascii "Content-Type" ++ [colon,32] := by decide
  have encoding : ascii "Content-Encoding: gzip" = ascii "Content-Encoding" ++ [colon,32] ++ ascii "gzip" := by decide
  have etag : ascii "ETag: " = ascii "ETag" ++ [colon,32] := by decide
  rw [startLines,startFields,bodyFields,lengthLines,List.map_append,List.map_append,length,range,type,encoding,etag]
  refine congrArg₂ _ (congrArg₂ _ ?_ ?_) ?_
  · split
    · rfl
    · by_cases empty : r.contentLength = 0 <;> cases r.range <;> simp [fieldLine,empty]
  · split <;> simp [fieldLine]
  · split <;> simp [fieldLine]

/-- A content type is a value without a blank at its ends. -/
theorem mimeTypes_trimmed : ∀ contentType ∈ mimeTypes, Trimmed contentType := by decide +kernel

theorem startFields_proper {r : Reply} (typed : r.contentLength = 0 ∨ r.contentType ∈ mimeTypes) {name : List UInt8}
    (shared : name ∈ sharedNames) :
    ∀ field ∈ startFields r, colon ∉ field.1 ∧ (field.1.map lower = name → Trimmed field.2) := by
  have number : ∀ n, Trimmed (itoa n) := fun n => trimmed_dark fun d mem => (itoa_dark n d mem).1
  intro field mem
  rw [startFields,List.mem_append,List.mem_append] at mem
  rcases mem with (mem | mem) | mem
  · split at mem
    · cases mem
    rw [bodyFields,List.mem_cons,List.mem_append] at mem
    rcases mem with rfl | mem | mem
    · exact ⟨show colon ∉ ascii "Content-Length" by decide,fun _ => number _⟩
    · split at mem
      · cases mem
      next start stop _ =>
      rw [List.mem_singleton] at mem
      subst mem
      refine ⟨show colon ∉ ascii "Content-Range" by decide,fun _ => ?_⟩
      have bytes : ascii "bytes " = 'b'.toUInt8 :: ascii "ytes " := by decide
      show Trimmed (ascii "bytes " ++ (itoa start ++ ['-'.toUInt8] ++ itoa stop ++ ['/'.toUInt8] ++ itoa r.contentLength))
      rw [bytes,← List.append_assoc,List.cons_append]
      exact trimmed_append (by decide) (itoaLoop_ne_nil 20 _ [] (.inr (by decide))) fun d mem => (itoa_dark _ d mem).1
    · split at mem
      · cases mem
      next full =>
      rw [List.mem_singleton] at mem
      subst mem
      exact ⟨show colon ∉ ascii "Content-Type" by decide,fun _ => mimeTypes_trimmed _ (typed.resolve_left full)⟩
  · split at mem
    · rw [List.mem_singleton] at mem
      subst mem
      exact ⟨by decide,fun _ => by decide⟩
    · cases mem
  · split at mem
    · cases mem
    · rw [List.mem_singleton] at mem
      subst mem
      have other : (ascii "ETag").map lower ∉ sharedNames := by decide
      exact ⟨show colon ∉ ascii "ETag" by decide,fun same => absurd (same ▸ shared) other⟩

/-- The lines before and behind have no such field. -/
theorem valueShown_lines {r : Reply} (typed : r.contentLength = 0 ∨ r.contentType ∈ mimeTypes) (keep : Bool)
    {name : List UInt8}
    (shared : name ∈ sharedNames) :
    valueShown name (replyLines r keep) = ((startFields r).find? fun field => field.1.map lower = name).map Prod.snd := by
  have status : ∀ row ∈ statusTable, ∀ name ∈ sharedNames, valueOf name (ascii row.2) = none := by decide +kernel
  have tails : ∀ keep, ∀ name ∈ sharedNames, (tailLines keep).findSome? (valueOf name) = none := by
    intro keep
    cases keep <;> decide
  have first : valueOf name (statusLine r.status) = none := by
    rcases statusLine_listed r.status with ⟨row,mem,_,line⟩ | ⟨_,line⟩
    · rw [line]
      exact status row mem name shared
    · rw [line]
      exact status (500,"HTTP/1.1 500 Internal Server Error") (by simp [statusTable]) name shared
  have free : ∀ name ∈ sharedNames, colon ∉ name := by decide
  rw [valueShown,replyLines,List.findSome?_cons_of_isNone (by rw [first]; rfl),List.findSome?_append,
    tails keep name shared,
    Option.or_none,startLines_fields,valueOf_fieldLines (free name shared) (startFields_proper typed shared)]

/-- The names are different ones. -/
theorem names_apart :
    ([":status","content-length","content-range","content-type","content-encoding","etag"].map ascii).Nodup := by
  decide

theorem names_lower : (ascii "Content-Length").map lower = ascii "content-length" ∧
    (ascii "Content-Range").map lower = ascii "content-range" ∧ (ascii "Content-Type").map lower = ascii "content-type" ∧
    (ascii "Content-Encoding").map lower = ascii "content-encoding" ∧ (ascii "ETag").map lower = ascii "etag" := by decide

/-- The value of a name that is not that of the tag. -/
theorem startFields_value (r : Reply) {name : List UInt8} (shared : name ∈ sharedNames) :
    ((startFields r).find? fun field => field.1.map lower = name).map Prod.snd =
      (if r.status = 204 then none else ((bodyFields r.toResponse).find? fun field =>
        field.1.map lower = name).map Prod.snd).or
        (if r.gzip ∧ name = ascii "content-encoding" then some (ascii "gzip") else none) := by
  obtain ⟨_,_,_,encoding,tag⟩ := names_lower
  have other : ascii "etag" ∉ sharedNames := by decide
  have tagless : (if r.etag = [] then [] else [(ascii "ETag",r.etag)]).find? (fun field =>
      field.1.map lower = name) = none := by
    split
    · rfl
    · refine List.find?_cons_of_neg ?_
      rw [decide_eq_true_eq]
      dsimp only
      rw [tag]
      exact fun same => other (same ▸ shared)
  rw [startFields,List.find?_append,List.find?_append,tagless,Option.or_none,Option.map_or]
  refine congrArg₂ _ (by split <;> rfl) ?_
  cases r.gzip with
  | false => simp
  | true =>
    by_cases named : name = ascii "content-encoding"
    · simp [encoding,named]
    · simp [encoding,named,Ne.symm named]

/-- The fields that speak of a body, in the order of HTTP/2. -/
def bodyListed (r : Response) : List Field :=
  (if r.contentLength = 0 then [] else [⟨ascii "content-type",r.contentType⟩]) ++
    [⟨ascii "content-length",ascii r.length.repr⟩] ++
    (match r.range with
    | none => []
    | some (start,«end») => [⟨ascii "content-range",rangeText start «end» r.contentLength⟩])

theorem fields_value (r : Response) {name : List UInt8} (shared : name ∈ sharedNames) :
    valueListed name r.fields = (if r.status = 204 then none else valueListed name (bodyListed r)).or
      (if r.gzip ∧ name = ascii "content-encoding" then some (ascii "gzip") else none) := by
  have other : ascii ":status" ∉ sharedNames := by decide
  have status : [(⟨ascii ":status",ascii r.status.repr⟩ : Field)].find? (fun field => field.name = name) = none :=
    List.find?_cons_of_neg (by rw [decide_eq_true_eq]; rintro rfl; exact other shared)
  rw [valueListed,Response.fields,List.find?_append,List.find?_append,status,Option.none_or,Option.map_or]
  refine congrArg₂ _ (by split <;> rfl) ?_
  cases r.gzip with
  | false => simp
  | true =>
    by_cases named : name = ascii "content-encoding"
    · simp [named]
    · simp [named,Ne.symm named]

/-- The two lists are in another order, and HTTP/1 has a unit in front of a range. -/
theorem body_value {r : Response} (sized : r.Sized) :
    (∀ name ∈ ["content-length","content-type","content-encoding"].map ascii,
      ((bodyFields r).find? fun field => field.1.map lower = name).map Prod.snd = valueListed name (bodyListed r)) ∧
    ((bodyFields r).find? fun field => field.1.map lower = ascii "content-range").map Prod.snd =
      (valueListed (ascii "content-range") (bodyListed r)).map (ascii "bytes " ++ ·) := by
  obtain ⟨length,range,type,_⟩ := names_lower
  have apart := names_apart
  simp only [List.map_cons,List.map_nil,List.nodup_cons,List.mem_cons,List.not_mem_nil,or_false,not_or] at apart
  obtain ⟨_,⟨length_range,length_type,length_encoding,_⟩,⟨range_type,range_encoding,_⟩,⟨type_encoding,_⟩,_⟩ := apart
  have number := itoa_repr sized.length
  rw [bodyFields,bodyListed,valueListed]
  constructor
  · simp only [List.map_cons,List.map_nil,List.mem_cons,List.not_mem_nil,or_false,forall_eq_or_imp,forall_eq]
    refine ⟨?_,?_,?_⟩ <;> by_cases empty : r.contentLength = 0 <;> cases r.range <;>
      simp [*,valueListed,Ne.symm length_type]
  · cases window : r.range with
    | none => by_cases empty : r.contentLength = 0 <;> simp [*,Ne.symm range_type]
    | some bounds =>
      obtain ⟨start,stop⟩ := bounds
      obtain ⟨order,inside⟩ := sized.range start stop window
      have size := sized.contentLength
      have small : start < 2^64 ∧ stop < 2^64 := by omega
      have full : r.contentLength ≠ 0 := by omega
      have positions : rangeText start stop r.contentLength =
          itoa start ++ ['-'.toUInt8] ++ itoa stop ++ ['/'.toUInt8] ++ itoa r.contentLength := by
        rw [rangeText,itoa_repr small.1,itoa_repr small.2,itoa_repr size]
      simp [*,Ne.symm range_type]

/-- The values that the two protocols show of a response are the same, but for a unit in front of a range. -/
theorem values_agree {r : Reply} (sized : r.toResponse.Sized)
    (typed : r.contentLength = 0 ∨ r.contentType ∈ mimeTypes) (keep : Bool) :
    (∀ name ∈ ["content-length","content-type","content-encoding"].map ascii,
      valueShown name (replyLines r keep) = valueListed name r.toResponse.fields) ∧
    ∃ unit, valueShown (ascii "content-range") (replyLines r keep) =
      (valueListed (ascii "content-range") r.toResponse.fields).map (unit ++ ·) := by
  obtain ⟨values,range⟩ := body_value sized
  have shared : ∀ name ∈ ["content-length","content-type","content-encoding"].map ascii, name ∈ sharedNames := by decide
  constructor
  · intro name mem
    rw [valueShown_lines typed keep (shared name mem),startFields_value r (shared name mem),
      fields_value _ (shared name mem),
      values name mem]
  · have other : ascii "content-range" ≠ ascii "content-encoding" := by decide
    have mem : ascii "content-range" ∈ sharedNames := by decide
    have unencoded : ¬(r.gzip ∧ ascii "content-range" = ascii "content-encoding") := fun both => other both.2
    refine ⟨ascii "bytes ",?_⟩
    rw [valueShown_lines typed keep mem,startFields_value r mem,fields_value _ mem,range,if_neg unencoded,Option.or_none,
      Option.or_none]
    split <;> rfl

/-! ### One request -/

/-- Where both front ends have room for a target they come to the same. -/
theorem targetText_same {default : Bool} {Room Room' : List UInt8 → Prop} [DecidablePred Room] [DecidablePred Room']
    {p : List UInt8}
    {a b : List UInt8 × Option (List UInt8)} (first : targetText default Room p = some a)
      (second : targetText default Room' p = some b) :
    a = b := by
  cases p with
  | nil => cases first
  | cons octet rest =>
    rw [targetText] at first second
    split at first
    · next slash =>
      rw [if_pos slash] at second
      split at first
      · split at second
        · exact Option.some.inj (first.symm.trans second)
        · cases second
      · cases first
    · next slash =>
      rw [if_neg slash] at second
      exact Option.some.inj (first.symm.trans second)

/-- Any target but the asterisk has a name behind the docroot. -/
theorem targetText_docroot {default : Bool} {Room : List UInt8 → Prop} [DecidablePred Room] {p name : List UInt8}
    {query : Option (List UInt8)} (made : targetText default Room p = some (name,query)) (other : p ≠ asterisk) :
    ∃ rest, name = wwwPrefix ++ rest := by
  cases p with
  | nil => cases made
  | cons octet rest =>
    rw [targetText,if_neg other] at made
    split at made
    · split at made
      · simp only [Option.some.injEq,Prod.mk.injEq] at made
        rw [← made.1,withDefault]
        split
        · exact ⟨_,List.append_assoc _ _ _⟩
        · exact ⟨_,rfl⟩
      · cases made
    · cases made

/-- Decoding keeps the first letter of the docroot. -/
theorem decodeText_docroot {rest path : List UInt8} (decoded : decodeText (wwwPrefix ++ rest) = some path) :
    path.head? = some 'w'.toUInt8 := by
  have front : wwwPrefix ++ rest = 'w'.toUInt8 :: (ascii "ww/" ++ rest) := rfl
  rw [front,decodeText.eq_def] at decoded
  dsimp only at decoded
  rw [if_neg (by decide),if_neg (by decide),Option.map_eq_some_iff] at decoded
  obtain ⟨more,_,rfl⟩ := decoded
  rfl

/-- The method of a request line. -/
theorem requestMethod_line {hdr : Mem} {len : Nat} {method : Method} {token p : List UInt8}
    (known : methodToken method = some token)
    (line : RequestLine hdr len token p) : requestMethod hdr = method := by
  have front : slice hdr 0 (token.length + 1) = token ++ [' '.toUInt8] := by
    have whole := line.octets
    rw [show token.length + (p.length + 7) = token.length + 1 + (p.length + 6) by omega,slice_add,
      ← List.singleton_append,← List.append_assoc] at whole
    exact (List.append_inj whole (by rw [slice_length,List.length_append,List.length_singleton])).1
  have part : ∀ n ≤ token.length + 1, slice hdr 0 n = (token ++ [' '.toUInt8]).take n := by
    intro n small
    rw [← front]
    exact (@slice_drop_take hdr 0 (token.length + 1) 0 n (by omega)).symm
  rw [requestMethod]
  cases method with
  | unknown => cases known
  | get =>
    cases known
    rw [part 4 (by decide),if_pos (by decide)]
  | head =>
    cases known
    rw [part 4 (by decide),part 5 (by decide),if_neg (by decide),if_pos (by decide)]
  | options =>
    cases known
    rw [part 4 (by decide),part 5 (by decide),part 8 (by decide),if_neg (by decide),
      if_neg (by decide),if_pos (by decide)]

theorem storeHost_path (hdr : Mem) (len : Nat) (r : Request) :
    (storeHost hdr len r).1.filenameBuf = r.filenameBuf ∧ (storeHost hdr len r).1.pathLength = r.pathLength := by
  rw [storeHost]
  split
  · exact ⟨rfl,rfl⟩
  · exact ⟨rfl,rfl⟩
  · exact ⟨rfl,rfl⟩

/-- The record of an accepted header: the path is what the target comes to once it is decoded. -/
theorem parseRequest_says {hdr : Mem} {len : Nat} {method : Method} {token p : List UInt8}
    (known : methodToken method = some token)
    (line : RequestLine hdr len token p) (clean : Clean p) {r : Request} (parsed : (parseRequest hdr len r).2 = .parsed) :
    ∃ name query, targetText (method ≠ .options) (FitsH1 wwwPrefix.length true) p = some (name,query) ∧
      decodeText name = some (slice (parseRequest hdr len r).1.filenameBuf 0 (parseRequest hdr len r).1.pathLength) := by
  have proper : method ≠ .unknown := by rintro rfl; cases known
  have text := parsePath_text known line clean (method ≠ .options) ⟨r.filenameBuf,r.queryBuf⟩
  rw [parseRequest,requestMethod_line known line] at parsed ⊢
  dsimp only at parsed ⊢
  rw [if_neg proper] at parsed ⊢
  rw [parseTarget] at parsed ⊢
  dsimp only at parsed ⊢
  generalize parsePath hdr len (method ≠ .options) ⟨r.filenameBuf,r.queryBuf⟩ = found at parsed text ⊢
  obtain ⟨bufs,reply⟩ := found
  cases reply with
  | noMatch => cases parsed
  | status code => cases parsed
  | path target =>
    rw [resolved] at text
    have decoded := decodeUrl_text bufs.filename target.length
    dsimp only at parsed ⊢
    generalize decodeUrl bufs.filename target.length = done at parsed decoded ⊢
    obtain ⟨filename,length⟩ := done
    cases length with
    | none => cases parsed
    | some n =>
      dsimp only at parsed ⊢
      by_cases refused : pathForbidden filename n = true
      · rw [if_pos refused] at parsed
        cases parsed
      · rw [if_neg refused]
        obtain ⟨buf,length⟩ := storeHost_path hdr len _
        rw [buf,length]
        exact ⟨_,_,text.symm,decoded.symm⟩

/-! ### The answers -/

/-- The response of an answer of HTTP/2. -/
def answered : Answer → Response
  | .status code => statusResponse code
  | .headers r => r
  | .body r => r

/-- The statuses that an accepted request is answered with. -/
def answerStatuses : List Nat := [200,204,206,404,416]

/-- What goes to the clients of the two protocols is the same response, but for the page of a status
    from 400 on, which HTTP/2 leaves out: the status is the same, and so are the body and the fields
    that are shown of it. A window of a file is the same; its field has the same text, behind a unit. -/
structure SameAnswer (files : List Resource) (reply : Reply) (keep : Bool) (a : Answer) : Prop where
  status : valueListed (ascii ":status") (answered a).fields = some (((statusLine reply.status).drop 9).take 3)
  response : reply.toResponse = answered a ∨
    400 ≤ reply.status ∧ a = .status reply.status ∧ reply = statusReply files reply.status
  frame : ∀ streamId extra st, ∃ f, headersFrame (answered a) streamId extra = some f ∧
    decodedFields f.payload st = some (answered a).fields
  shown : reply.toResponse = answered a →
    (∀ name ∈ ["content-length","content-type","content-encoding"].map ascii,
      valueShown name (replyLines reply keep) = valueListed name (answered a).fields) ∧
    ∃ unit, valueShown (ascii "content-range") (replyLines reply keep) =
      (valueListed (ascii "content-range") (answered a).fields).map (unit ++ ·)

theorem status_value (r : Response) : valueListed (ascii ":status") r.fields = some (ascii r.status.repr) := by
  rw [valueListed,Response.fields,List.singleton_append,List.cons_append,List.find?_cons_of_pos (by simp)]
  rfl

theorem appendStr_le (s : List UInt8) : (appendStr s).length ≤ s.length + 11 := by
  have loop : ∀ fuel n, (lengthLoop fuel n).length ≤ fuel := by
    intro fuel
    induction fuel with
    | zero => exact fun n => Nat.le_refl _
    | succ fuel ih =>
      intro n
      rw [lengthLoop]
      split
      · simp
      · exact Nat.succ_le_succ (ih _)
  have octets := loop 10 (s.length - 127)
  rw [appendStr]
  split
  · simp only [List.length_cons,List.length_append]
    omega
  · simp only [List.length_cons]
    omega

theorem headerBlock_short {r : Response} (type : r.contentType.length ≤ 71) :
    (headerBlock r).length ≤ maxHeaderBlock := by
  have number := itoa_length
  have status : (statusField r).length ≤ 32 := by
    have text := appendStr_le (itoa r.status)
    have digits := number r.status
    rw [statusField]
    split
    · simp
    · simp only [List.length_cons]
      omega
  have types : (typeField r).length ≤ 84 := by
    have text := appendStr_le r.contentType
    rw [typeField]
    split
    · simp
    · simp only [List.length_cons,List.length_append,List.length_nil]
      omega
  have lengths : (lengthField r).length ≤ 33 := by
    have text := appendStr_le (itoa r.length)
    have digits := number r.length
    rw [lengthField]
    simp only [List.length_cons,List.length_append,List.length_nil]
    omega
  have ranges : (rangeField r).length ≤ 75 := by
    rw [rangeField]
    split
    · simp
    · next start stop _ =>
      have text := appendStr_le (itoa start ++ ['-'.toUInt8] ++ itoa stop ++ ['/'.toUInt8] ++ itoa r.contentLength)
      have first := number start
      have last := number stop
      have size := number r.contentLength
      simp only [List.length_cons,List.length_append,List.length_nil] at text ⊢
      omega
  have encoding : (encodingField r).length ≤ 17 := by
    rw [encodingField]
    split
    · decide
    · simp
  rw [headerBlock,maxHeaderBlock,defaultMaxFrameSize]
  split
  · simp only [List.length_append,List.length_nil]
    omega
  · simp only [List.length_append]
    omega

/-- A response that is the same is shown the same. -/
theorem same_sameAnswer {files : List Resource} {reply : Reply} {a : Answer} (keep : Bool)
    (same : reply.toResponse = answered a)
    (listed : reply.status ∈ answerStatuses) (sized : reply.toResponse.Sized)
    (typed : reply.contentLength = 0 ∧ reply.contentType = [] ∨ reply.contentType ∈ mimeTypes) :
        SameAnswer files reply keep a := by
  have lines : ∀ status ∈ answerStatuses, ((statusLine status).drop 9).take 3 = ascii status.repr := by decide
  have short : reply.contentType.length ≤ 71 := by
    rcases typed with ⟨_,empty⟩ | known
    · rw [empty]
      exact Nat.zero_le _
    · exact mimeTypes_length _ known
  refine ⟨?_,.inl same,?_,fun _ => ?_⟩
  · rw [status_value,lines _ listed,← same]
  · intro streamId extra st
    have made : headersFrame (answered a) streamId extra =
        some ⟨frameHeaders,flagEndHeaders ||| extra,streamId,headerBlock (answered a)⟩ := by
      rw [headersFrame,← same]
      exact if_neg (Nat.not_lt.mpr (headerBlock_short short))
    refine ⟨_,made,headersFrame_decoded (same ▸ sized) (fun _ _ => ?_) made st⟩
    rw [← same]
    omega
  · rw [← same]
    exact values_agree sized (typed.imp And.left id) keep

/-- A status is the same whatever its page is. -/
theorem status_sameAnswer (files : List Resource) (keep : Bool) {status : Nat} (listed : status ∈ answerStatuses) :
    SameAnswer files (statusReply files status) keep (.status status) := by
  have small : ∀ status ∈ answerStatuses, status < 2^64 := by decide
  have sized : (statusResponse status).Sized := ⟨small status listed,show 0 < 2^64 by decide,fun _ _ window =>
    nomatch window⟩
  have shown := statusReply_status files status
  by_cases same : (statusReply files status).toResponse = statusResponse status
  · refine same_sameAnswer keep same (shown.symm ▸ listed) (same ▸ sized) (.inl ⟨?_,?_⟩)
    · exact congrArg Response.contentLength same
    · exact congrArg Response.contentType same
  · have bare : SameAnswer files (bareReply status) keep (.status status) :=
      same_sameAnswer keep rfl listed sized (.inl ⟨rfl,rfl⟩)
    refine ⟨?_,.inr ⟨?_,by rw [shown],by rw [shown]⟩,bare.frame,fun whole => absurd whole same⟩
    · rw [shown]
      exact bare.status
    · rw [shown]
      by_contra low
      exact same (by rw [statusReply,if_pos (.inl (by omega))]; rfl)

variable {files : List Resource}

/-- A whole file, or its header alone. -/
theorem file_sameAnswer (built : Built files) {file : Resource} (mem : file ∈ files) (keep : Bool) :
    SameAnswer files (resourceReply file none) keep (.body (fileResponse file.toEmbeddedFile none)) ∧
      SameAnswer files { resourceReply file none with body := [] } keep
        (.headers { fileResponse file.toEmbeddedFile none with body := [] }) := by
  have listed : 200 ∈ answerStatuses := by decide
  have sized : ∀ body, Response.Sized ⟨200,file.contentType,file.content.length,none,body,file.gzip⟩ :=
    fun _ => ⟨show 200 < 2^64 by decide,built.sizes file mem,fun _ _ window => nomatch window⟩
  have known := (built.embedded file mem).1
  exact ⟨same_sameAnswer keep rfl listed (sized _) (.inr known),same_sameAnswer keep rfl listed (sized _) (.inr known)⟩

/-- A window of a file. -/
theorem window_sameAnswer (built : Built files) {file : Resource} (mem : file ∈ files) {start «end» : Nat}
    (order : start ≤ «end»)
    (inside : «end» < file.content.length) (keep : Bool) :
    SameAnswer files (resourceReply file (some (start,«end»))) keep
        (.body (fileResponse file.toEmbeddedFile (some (start,«end»)))) := by
  refine same_sameAnswer keep rfl
    (show 206 ∈ answerStatuses by decide) ⟨show 206 < 2^64 by decide,built.sizes file mem,?_⟩
    (.inr (built.embedded file mem).1)
  rintro _ _ ⟨⟩
  exact ⟨order,inside⟩

/-! ### The same request -/

/-- A request in the form of both protocols: a header that begins with its request line, and a header
    list that names the same method, target and range. The reader of a header goes past the blanks in
    front of a value, so that the range does not begin with a blank. -/
structure SameRequest (method : Method) (token target : List UInt8) (range : Option (List UInt8)) (hdr : Mem) (len : Nat)
    (read : Ptr → Mem) (fields : List FieldRef) : Prop where
  known : methodToken method = some token
  clean : Clean target
  line : RequestLine hdr len token target
  free : ∀ value ∈ range, ∀ octet ∈ value, octet ≠ '\r'.toUInt8 ∧ octet ≠ '\n'.toUInt8
  ranged : match range with
    | none => getHeaderField hdr len (ascii "range") = .absent
    | some value => ∃ start remaining rest, getHeaderField hdr len (ascii "range") = .found start remaining ∧
      slice hdr start remaining = value ++ '\r'.toUInt8 :: rest
  method : valueIn read (isNamed read ":method") fields = some token
  path : valueIn read (isNamed read ":path") fields = some target
  range : valueIn read (isRange read) fields = range

/-- HTTP/1 accepts the request: its version, its target, and the fields that a response asks after. -/
structure Accepts (s : Session) (hdr : Mem) (len : Nat) : Prop where
  version : verifyHttpVersion hdr len = none
  target : (parseRequest hdr len s.req).2 = .parsed
  fields : ∀ code, shouldKeepAlive hdr len (requestMethod hdr) 200 ≠ .status code

/-- No field is asked after differently for another status. -/
theorem shouldKeepAlive_status_eq {hdr : Mem} {len : Nat} {method : Method} {status : Nat}
    (sync : lostSync status = false) :
    shouldKeepAlive hdr len method status = shouldKeepAlive hdr len method 200 := by
  have other : lostSync 200 = false := by decide
  rw [shouldKeepAlive,shouldKeepAlive,sync,other]

theorem shown_fine {hdr : Mem} {len : Nat} {method : Method} {status : Nat}
    (fine : ∀ code, shouldKeepAlive hdr len method 200 ≠ .status code) (sync : lostSync status = false) :
    shown hdr len method status = status := by
  rw [shown,shouldKeepAlive_status_eq sync]
  cases decided : shouldKeepAlive hdr len method 200 with
  | status code => exact absurd decided (fine code)
  | keep | close => rfl

/-- Both find the same file. -/
theorem lookup_same (files : List Resource) (path : List UInt8) :
    lookupEmbedded (files.map Resource.toEmbeddedFile) path =
        (lookupResource files path).map Resource.toEmbeddedFile := by
  rw [lookupEmbedded,lookupResource,List.find?_map]
  rfl

/-- The response that goes out, if no field is malformed. -/
def Sends (files : List Resource) (s t : Session) (a : Answer) : Prop :=
  ∃ reply keep, t.sent = s.sent ++ [encode reply keep] ∧ SameAnswer files reply keep a

theorem replyStatus_sends (built : Built files) {s : Session} {hdr : Mem} {status : Nat} (listed : status ∈ [204,404,416])
    (fine : ∀ code, shouldKeepAlive hdr s.headerLen s.req.method 200 ≠ .status code) :
    Sends files s (s.replyStatus files hdr status) (.status status) := by
  have sync : ∀ status ∈ [204,404,416], lostSync status = false ∧ status ∈ answerStatuses := by decide
  obtain ⟨keep,sent⟩ := replyStatus_sent built.embedded s hdr status
  rw [shown_fine fine (sync status listed).1] at sent
  exact ⟨_,keep,sent,status_sameAnswer files keep (sync status listed).2⟩

theorem respond_sends (built : Built files) {s : Session} {hdr : Mem} {r : Reply} (fits : Fits r)
    (sync : lostSync r.status = false)
    (fine : ∀ code, shouldKeepAlive hdr s.headerLen s.req.method 200 ≠ .status code) {a : Answer}
    (same : ∀ keep, SameAnswer files r keep a) : Sends files s (s.respond files hdr r) a := by
  rcases respond_sent built.embedded s hdr fits with ⟨keep,_,sent⟩ | ⟨code,keep,malformed,_⟩
  · exact ⟨r,keep,sent,same keep⟩
  · rw [shouldKeepAlive_status_eq sync] at malformed
    exact absurd malformed (fine code)

/-- GET of a file with what a range comes to. -/
theorem ranged_sends (built : Built files) {s : Session} {hdr : Mem} {file : Resource} (mem : file ∈ files)
    (fine : ∀ code, shouldKeepAlive hdr s.headerLen s.req.method 200 ≠ .status code) {reply : RangeReply}
    (proper : ∀ start «end», reply = .window start «end» → start ≤ «end» ∧ «end» < file.content.length) :
    Sends files s (s.ranged files hdr file reply) (rangedAnswer file.toEmbeddedFile reply) := by
  have fits := resourceReply_fits built.embedded mem
  cases reply with
  | unsatisfiable => exact replyStatus_sends built (by decide) fine
  | whole =>
    exact respond_sends built (fits none) (show lostSync 200 = false by decide) fine fun keep =>
      (file_sameAnswer built mem keep).1
  | window start stop =>
    obtain ⟨order,inside⟩ := proper start stop rfl
    exact @respond_sends files built s hdr _ (fits (some (start,stop))) (show lostSync 206 = false by decide) fine _
      (window_sameAnswer built mem order inside)

theorem h2Range_inside {value : List UInt8} {size start «end» : Nat}
    (window : h2Range value size = .window start «end») : start ≤ «end» ∧ «end» < size := by
  rw [h2Range] at window
  cases parsed : h2ParseRange value with
  | none => rw [parsed] at window; cases window
  | some r =>
    rw [parsed] at window
    exact resolve_inside window

section
variable {method : Method} {token target : List UInt8} {range : Option (List UInt8)} {hdr : Mem} {len : Nat}
  {read : Ptr → Mem}
  {fields : List FieldRef}

/-- GET of a file that is there. -/
theorem get_sends (built : Built files) (same : SameRequest method token target range hdr len read fields) {s : Session}
    {file : Resource} (there : getSetup files s.req = .ok file)
    (fine : ∀ code, shouldKeepAlive hdr s.headerLen s.req.method 200 ≠ .status code) {r : Request} (get : r.method = .get)
    (asked : r.range = range.isSome)
    (record : ∀ value ∈ range, slice r.rangeBuf 0 r.rangeLength = value.take rangeBufSize) :
    Sends files s (s.get files hdr len) (answerFile r file.toEmbeddedFile) := by
  have mem := getSetup_listed there
  have ranged := same.ranged
  cases range with
  | none =>
    have plain : parseRange hdr len = .ok none := by rw [parseRange,ranged]
    have whole : http1Range hdr len file.content.length = .ok .whole := by rw [http1Range,plain]; rfl
    rw [get_ranged there whole,answerFile,get,if_neg (by decide),asked,if_neg (by decide)]
    exact @ranged_sends files built s hdr file mem fine .whole (by rintro _ _ ⟨⟩)
  | some value =>
    obtain ⟨start,remaining,rest,found,line⟩ := ranged
    have free := same.free value rfl
    rw [get_ranged there (http1Range_value found line free _),answerFile_value free get asked (record value rfl)]
    exact ranged_sends built mem fine fun _ _ window => h2Range_inside window

/-- HEAD of a file that is there. -/
theorem head_sends (built : Built files) {s : Session} {file : Resource} (there : getSetup files s.req = .ok file)
    (fine : ∀ code, shouldKeepAlive hdr s.headerLen s.req.method 200 ≠ .status code) {r : Request}
    (head : r.method = .head) : Sends files s (s.head files hdr) (answerFile r file.toEmbeddedFile) := by
  have mem := getSetup_listed there
  rw [Session.head,there,answerFile,if_pos head]
  exact @respond_sends files built s hdr { resourceReply file none with body := [] }
    (resourceReply_fits built.embedded mem none)
    (show lostSync 200 = false by decide) fine _ fun keep => (file_sameAnswer built mem keep).2

/-- Both protocols look for a file by the same path, which is not the asterisk. -/
theorem setup_same (same : SameRequest method token target range hdr len read fields) (other : target ≠ asterisk)
    {req : Request} (accepted : (parseRequest hdr len req).2 = .parsed) {streamId : Nat} {prior r : Request}
    (made : h2BuildRequest read streamId fields prior = (r,true)) (files : List Resource) :
    slice (parseRequest hdr len req).1.filenameBuf 0 (parseRequest hdr len req).1.pathLength =
        slice r.filenameBuf 0 r.pathLength ∧
      (parseRequest hdr len req).1.filenameBuf 0 ≠ '*'.toUInt8 ∧
      getSetup files (parseRequest hdr len req).1 =
        (lookupResource files (slice r.filenameBuf 0 r.pathLength)).elim (.error 404) .ok := by
  obtain ⟨name,query,text,decoded⟩ := parseRequest_says same.known same.line same.clean accepted
  obtain ⟨_,⟨name',query',text',decoded'⟩,_⟩ := build_says made same.known same.method same.path
  obtain ⟨rfl,_⟩ := Prod.mk.inj (targetText_same text text')
  revert decoded
  generalize (parseRequest hdr len req).1 = found
  intro decoded
  have path : slice found.filenameBuf 0 found.pathLength = slice r.filenameBuf 0 r.pathLength :=
    Option.some.inj (decoded.symm.trans decoded')
  have proper : found.filenameBuf 0 ≠ '*'.toUInt8 := by
    obtain ⟨rest,docroot⟩ := targetText_docroot text other
    have first := decodeText_docroot (docroot ▸ decoded)
    cases length : found.pathLength with
    | zero => rw [length] at first; cases first
    | succ n =>
      rw [length,slice_succ,List.head?_cons,Option.some.injEq] at first
      rw [first]
      decide
  refine ⟨path,proper,?_⟩
  rw [getSetup,if_neg proper,path]
  cases lookupResource files (slice r.filenameBuf 0 r.pathLength) <;> rfl

/-- Every request that both protocols accept, the asterisk apart, is answered with the same response,
    the page of a status apart. -/
theorem protocols_agree (built : Built files) (same : SameRequest method token target range hdr len read fields)
    (other : target ≠ asterisk) {s : Session} (accepts : Accepts s hdr len) {streamId : Nat} {prior r : Request}
    (made : h2BuildRequest read streamId fields prior = (r,true)) (allowed : r.forbidden = false) :
    Sends files s (s.request files hdr len) (answer (files.map Resource.toEmbeddedFile) r) := by
  obtain ⟨path,proper,setup⟩ := setup_same same other accepts.target made files
  obtain ⟨methodIs,_,asked,record⟩ := build_says made same.known same.method same.path
  rw [same.range] at asked record
  have fine := accepts.fields
  have requested := requestMethod_line same.known same.line
  have recordMethod := (parseRequest_method hdr len s.req).trans requested
  rw [requested] at fine
  have parsed : parseRequest hdr len s.req = ((parseRequest hdr len s.req).1,.parsed) := Prod.ext rfl accepts.target
  revert path proper setup recordMethod parsed
  generalize (parseRequest hdr len s.req).1 = req
  intro path proper setup recordMethod parsed
  have found := lookup_same files (slice r.filenameBuf 0 r.pathLength)
  rw [Session.request,accepts.version]
  dsimp only
  rw [parsed]
  dsimp only
  rw [recordMethod]
  let t : Session := { s with headerLen := len, budget := s.budget - 1, req := req }
  have wellFormed : ∀ code, shouldKeepAlive hdr t.headerLen t.req.method 200 ≠ .status code := recordMethod.symm ▸ fine
  rw [answer,if_neg (by rw [allowed]; decide),methodIs,found]
  have known := same.known
  cases method with
  | unknown => cases known
  | get =>
    show Sends files t (t.get files hdr len) _
    cases there : lookupResource files (slice r.filenameBuf 0 r.pathLength) with
    | none =>
      rw [there] at setup
      rw [Session.get,setup]
      exact replyStatus_sends built (by decide) wellFormed
    | some file =>
      rw [there] at setup
      exact get_sends built same setup wellFormed methodIs asked record
  | head =>
    show Sends files t (t.head files hdr) _
    cases there : lookupResource files (slice r.filenameBuf 0 r.pathLength) with
    | none =>
      rw [there] at setup
      rw [Session.head,setup]
      exact replyStatus_sends built (by decide) wellFormed
    | some file =>
      rw [there] at setup
      exact head_sends built setup wellFormed methodIs
  | options =>
    show Sends files t (t.options files hdr) _
    rw [Session.options,if_neg proper,path]
    cases lookupResource files (slice r.filenameBuf 0 r.pathLength) with
    | none => exact replyStatus_sends built (by decide) wellFormed
    | some file => exact replyStatus_sends built (by decide) wellFormed

end

/-! ### Requests in both forms -/

/-- The pointers of a header list into its names and values, one behind the other. -/
def listFields (pairs : List (String × String)) : List FieldRef :=
  pairs.zipIdx.map fun (pair,i) => ⟨.block (2 * i),(ascii pair.1).length,.block (2 * i + 1),(ascii pair.2).length⟩

def listRead (pairs : List (String × String)) : Ptr → Mem
  | .block i => ofBytes (((pairs.flatMap fun pair => [ascii pair.1,ascii pair.2])[i]?).getD [])
  | _ => fun _ => 0

def blankRecord : Request := ⟨.unknown,0,0,false,0,false,false,0,false,fun _ => 0,fun _ => 0,fun _ => 0,fun _ => 0⟩

def newSession : Session := ⟨blankRecord,0,100,false,[]⟩

/-- The record of a header list. -/
def listRecord (pairs : List (String × String)) : Request :=
  (h2BuildRequest (listRead pairs) 1 (listFields pairs) blankRecord).1

def windowHeader : List UInt8 := ascii "GET / HTTP/1.1\r\nHost: a\r\nRange: bytes=1-2\r\n\r\n"

def windowList : List (String × String) := [(":method","GET"),(":scheme","http"),(":path","/"),("range","bytes=1-2")]

/-- A window of the default file. -/
theorem protocols_agree_window :
    Sends homeSite newSession (newSession.request homeSite (ofBytes windowHeader) windowHeader.length)
      (answer (homeSite.map Resource.toEmbeddedFile) (listRecord windowList)) := by
  have built : Built homeSite := ⟨by decide +kernel,by decide +kernel,by decide +kernel⟩
  have same : SameRequest .get (ascii "GET") (ascii "/") (some (ascii "bytes=1-2"))
    (ofBytes windowHeader) windowHeader.length
      (listRead windowList) (listFields windowList) := by
    refine ⟨rfl,by decide +kernel,⟨by decide +kernel,by decide +kernel⟩,?_,?_,by decide +kernel,by decide +kernel,
      by decide +kernel⟩
    · rintro _ ⟨⟩
      decide +kernel
    · exact ⟨32,13,ascii "\n\r\n",by decide +kernel,by decide +kernel⟩
  have keeps : shouldKeepAlive (ofBytes windowHeader) windowHeader.length
      (requestMethod (ofBytes windowHeader)) 200 = .keep := by
    decide +kernel
  have accepts : Accepts newSession (ofBytes windowHeader) windowHeader.length :=
    ⟨by decide +kernel,by decide +kernel,fun code malformed => by rw [keeps] at malformed; cases malformed⟩
  have taken : (h2BuildRequest (listRead windowList) 1 (listFields windowList) blankRecord).2 = true := by decide +kernel
  have made : h2BuildRequest (listRead windowList) 1 (listFields windowList) blankRecord =
      (listRecord windowList,true) := by
    rw [listRecord,← taken]
  have allowed : (listRecord windowList).forbidden = false := by decide +kernel
  exact protocols_agree built same (by decide +kernel) accepts made allowed

/-- What HTTP/1 sends for a header with the two lines. -/
def sentFor (files : List Resource) (line : String) : List (List UInt8) :=
  let header := ascii line ++ ascii "\r\nHost: a\r\n\r\n"
  (newSession.request files (ofBytes header) header.length).sent

/-- What HTTP/2 answers to a method and a path. -/
def answerTo (files : List Resource) (method path : String) : Response :=
  answered (answer (files.map Resource.toEmbeddedFile)
    (listRecord [(":method",method),(":scheme","http"),(":path",path)]))

/-- A page that only HTTP/1 sends, the asterisk form, and the unit of a window. -/
theorem protocols_agree_apart :
    (sentFor pagedSite "GET /a HTTP/1.1" = [encode (statusReply pagedSite 404) true] ∧
      (statusReply pagedSite 404).body = ascii "no page" ∧ (answerTo pagedSite "GET" "/a").status = 404 ∧
      (answerTo pagedSite "GET" "/a").body = []) ∧
    (sentFor homeSite "OPTIONS * HTTP/1.1" = [encode (statusReply homeSite 204) true] ∧
      (answerTo homeSite "OPTIONS" "*").status = 404) ∧
    (newSession.request homeSite (ofBytes windowHeader) windowHeader.length).sent =
      (homeSite.map fun file => encode (resourceReply file (some (1,2))) true) ∧
    (homeSite.map fun file => valueShown (ascii "content-range") (replyLines (resourceReply file (some (1,2))) true)) =
      [some (ascii "bytes 1-2/5")] ∧
    valueListed (ascii "content-range")
      (answered (answer (homeSite.map Resource.toEmbeddedFile) (listRecord windowList))).fields =
      some (ascii "1-2/5") := by
  decide +kernel

end Sarm.Http1
