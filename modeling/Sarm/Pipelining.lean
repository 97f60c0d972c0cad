import Sarm.Decimal
import Sarm.HeaderReads
import Sarm.Simulation

/-!
The responses of a connection depend on the octets of its stream, not on the reads
that bring them. A connection that works on the stream as a whole (`Pipeline`) cuts
one header after the other off it and answers each; the loop, which sees as much of
the stream as it has read, is simulated by it.
-/
namespace Sarm.Http1
open Sarm.Memory Sarm.H2
open Sarm.Hpack (ascii)
open Sarm.Simulation (Simulates)

/-! ### The stream -/

/-- The octets reads bring up to a failure that counts, and that failure. -/
def delivered : List Read → List UInt8 × Option Errno
  | [] => ([],none)
  | .data first rest :: reads => (first :: rest ++ (delivered reads).1,(delivered reads).2)
  | .failed .eintr :: reads => delivered reads
  | .failed errno :: _ => ([],some errno)

/-- A request in a read of its own. -/
def whole : List UInt8 → List Read
  | [] => []
  | first :: rest => [.data first rest]

/-- How many octets reads have. -/
def unread : List Read → Nat
  | [] => 0
  | .data _ rest :: reads => rest.length + 1 + unread reads
  | .failed _ :: reads => unread reads

theorem delivered_leaving (octets : List UInt8) (n : Nat) (reads : List Read) :
    delivered (leaving octets n reads) = (octets.drop n ++ (delivered reads).1,(delivered reads).2) := by
  rw [leaving]
  cases octets.drop n <;> rfl

theorem leaving_unread (octets : List UInt8) (n : Nat) (reads : List Read) :
    unread (leaving octets n reads) = octets.length - n + unread reads := by
  rw [leaving,← List.length_drop]
  cases octets.drop n with
  | nil => simp
  | cons first rest => rfl

theorem leaving_length (octets : List UInt8) (n : Nat) (reads : List Read) :
    (leaving octets n reads).length ≤ reads.length + 1 := by
  rw [leaving]
  cases octets.drop n with
  | nil => simp
  | cons first rest => exact Nat.le_refl _

/-! ### The table of files -/

/-- The content types that `mime_type` knows. -/
def mimeTypes : List (List UInt8) :=
  ["text/html; charset=utf-8","text/css; charset=utf-8","text/csv; charset=utf-8","text/xml; charset=utf-8",
    "text/javascript; charset=utf-8","application/json","application/wasm","image/png","image/jpeg","image/gif",
    "image/svg+xml","image/x-icon","image/webp","image/avif","image/bmp","image/tiff","image/apng","font/woff",
    "font/woff2","font/ttf","font/otf","text/plain; charset=utf-8","application/pdf","application/msword",
    "application/vnd.openxmlformats-officedocument.wordprocessingml.document","application/epub+zip",
    "application/rtf","video/mp4","video/webm","video/x-matroska","video/x-msvideo","video/quicktime","audio/mpeg",
    "audio/ogg","audio/wav","audio/flac","audio/aac","audio/mp4","audio/opus","application/zip","application/gzip",
    "application/x-tar","application/x-7z-compressed","application/x-bzip2","application/vnd.rar"].map ascii

/-- What the build puts beside a file: a content type, and a hash of 64 digits in quotes. -/
def Embedded (files : List Resource) : Prop := ∀ file ∈ files, file.contentType ∈ mimeTypes ∧ file.etag.length = 66

instance (files : List Resource) : Decidable (Embedded files) :=
  inferInstanceAs (Decidable (∀ file ∈ files, _ ∧ _))

theorem mimeTypes_length : ∀ contentType ∈ mimeTypes, contentType.length ≤ 71 := by decide

theorem lengthFields_length (r : Response) : (lengthFields r).length ≤ 123 := by
  have digits := itoa_length r.length
  have length : (ascii "\r\nContent-Length: ").length = 18 := by decide
  have range : (ascii "\r\nContent-Range: bytes ").length = 23 := by decide
  rw [lengthFields]
  split
  · simp only [List.length_append,List.length_nil]
    omega
  · next start «end» _ =>
    have first := itoa_length start
    have last := itoa_length «end»
    have all := itoa_length r.contentLength
    simp only [List.length_append,List.length_singleton]
    omega

/-- A header is not long but for its content type and its entity tag. -/
theorem headerStart_length (r : Reply) :
    (headerStart r).length ≤ (statusLine r.status).length + r.contentType.length + r.etag.length + 171 := by
  have contentType : (ascii "\r\nContent-Type: ").length = 16 := by decide
  have encoding : (ascii "\r\nContent-Encoding: gzip").length = 24 := by decide
  have tag : (ascii "\r\nETag: ").length = 8 := by decide
  have fields := lengthFields_length r.toResponse
  have body : (if r.status = 204 then [] else lengthFields r.toResponse ++
      if r.contentLength = 0 then [] else ascii "\r\nContent-Type: " ++ r.contentType).length ≤ 139 +
        r.contentType.length := by
    split
    · exact Nat.zero_le _
    rw [List.length_append]
    split
    · rw [List.length_nil]
      omega
    · rw [List.length_append]
      omega
  have gzip : (if r.gzip then ascii "\r\nContent-Encoding: gzip" else []).length ≤ 24 := by
    split
    · exact Nat.le_of_eq encoding
    · exact Nat.zero_le _
  have etag : (if r.etag = [] then [] else ascii "\r\nETag: " ++ r.etag).length ≤ 8 + r.etag.length := by
    split
    · exact Nat.zero_le _
    · rw [List.length_append]
      omega
  rw [headerStart,List.length_append,List.length_append,List.length_append]
  omega

theorem lookupResource_mem {files : List Resource} {path : List UInt8} {file : Resource}
    (found : lookupResource files path = some file) : file ∈ files :=
  List.mem_of_find?_eq_some found

/-- The pages of the table fit. -/
theorem statusReply_fits {files : List Resource} (embedded : Embedded files) {status : Nat} (lost : lostSync status) :
    (headerStart (statusReply files status)).length ≤ responseHeaderSize := by
  have lines : ∀ status ∈ [400,408,413,431,500], (statusLine status).length ≤ 64 := by decide
  have line := lines status (by simpa [lostSync] using lost)
  rw [statusReply]
  split
  · have bound := headerStart_length (bareReply status)
    simp only [bareReply,List.length_nil] at bound
    simp only [bareReply,responseHeaderSize]
    omega
  split
  · have bound := headerStart_length (bareReply status)
    simp only [bareReply,List.length_nil] at bound
    simp only [bareReply,responseHeaderSize]
    omega
  · next file found =>
    obtain ⟨known,tag⟩ := embedded file (lookupResource_mem found)
    have contentType := mimeTypes_length _ known
    refine (headerStart_length _).trans ?_
    simp only [responseHeaderSize]
    omega

/-! ### Answers without a request -/

theorem statusReply_status (files : List Resource) (status : Nat) : (statusReply files status).status = status := by
  rw [statusReply]
  split
  · rfl
  · split <;> rfl

/-- Where the header may be out of step, it is not looked at. -/
theorem writeResponse_lost (s : Session) {r : Reply} (lost : lostSync r.status)
    (fits : (headerStart r).length ≤ responseHeaderSize) :
    ∃ s' written, (∀ hdr, s.writeResponse hdr r = (s',written)) ∧ s'.decision = false ∧
      (written = .done ∨ written = .tooBig) := by
  by_cases long : responseHeaderSize < (headerStart r).length + (headerTail false).length
  · refine ⟨{ s with decision := false },.tooBig,?_,rfl,.inr rfl⟩
    intro hdr
    simp only [Session.writeResponse,lostSync_close s.req.method lost,if_neg (Nat.not_lt.mpr fits)]
    simp [long]
  · refine ⟨{ s with decision := false, sent := s.sent ++ [headerStart r ++ headerTail false ++ r.body] },.done,?_,
      rfl,.inl rfl⟩
    intro hdr
    simp only [Session.writeResponse,lostSync_close s.req.method lost,if_neg (Nat.not_lt.mpr fits)]
    simp [long]

/-- Such an answer does not look at the header, and ends the connection. -/
theorem replyStatus_lost {files : List Resource} (embedded : Embedded files) (s : Session) (a b : Mem) {status : Nat}
    (lost : lostSync status) :
    s.replyStatus files a status = s.replyStatus files b status ∧ (s.replyStatus files a status).decision = false := by
  obtain ⟨s',written,reply,closed,either⟩ := writeResponse_lost s (by rwa [statusReply_status])
    (statusReply_fits embedded lost)
  rw [Session.replyStatus,Session.replyStatus,reply a,reply b]
  rcases either with rfl | rfl
  · exact ⟨rfl,closed⟩
  · exact ⟨rfl,closed⟩

/-! ### The connection as a whole -/

/-- What is in front of a stream. -/
inductive Front where
  | request (len : Nat)
  | tooLong
  | short
  deriving DecidableEq, Repr

/-- A header is looked for in as much of the stream as the buffer holds. -/
def front (stream : List UInt8) : Front :=
  match parseHeaderEnd (ofBytes stream) (min bufSize stream.length) with
  | some len => .request len
  | none => if bufSize ≤ stream.length then .tooLong else .short

structure Pipeline where
  session : Session
  stream : List UInt8
  ended : Bool

/-- A request is answered, and cut off if the connection is kept. -/
def Pipeline.serve (files : List Resource) (p : Pipeline) (len : Nat) : Pipeline :=
  let session := p.session.request files (ofBytes p.stream) len
  if session.decision then
    { p with session := { session with req := http1ResetRequest session.req }, stream := p.stream.drop len }
  else { p with session := session, ended := true }

/-- A last answer, without a request. -/
def Pipeline.reply (files : List Resource) (p : Pipeline) (status : Nat) : Pipeline :=
  { p with session := p.session.replyStatus files (ofBytes p.stream) status, ended := true }

/-- There is no more of the stream. -/
def Pipeline.stop (files : List Resource) (p : Pipeline) : Option Errno → Pipeline
  | none => if p.stream = [] then { p with ended := true } else p.reply files 400
  | some .etimedout | some .eagain => p.reply files 408
  | some .other => p.reply files 500
  | some _ => { p with ended := true }

def Pipeline.step (files : List Resource) (failure : Option Errno) (p : Pipeline) : Pipeline :=
  if p.ended then p
  else match front p.stream with
    | .request len => p.serve files len
    | .tooLong => p.reply files 431
    | .short => p.stop files failure

/-! ### The loop and the whole -/

/-- What is read and what is not make up the stream. -/
structure Tracks (failure : Option Errno) (c : Child) (p : Pipeline) : Prop where
  session : c.session = p.session
  ended : c.ended = p.ended
  stream : c.ended = false → slice c.buf 0 c.count ++ (delivered c.reads).1 = p.stream
  failed : c.ended = false → (delivered c.reads).2 = failure
  fits : c.count ≤ bufSize

theorem ofBytes_front {m : Mem} {n : Nat} {stream rest : List UInt8} (split : slice m 0 n ++ rest = stream) :
    Same n m (ofBytes stream) := by
  intro i inside
  rw [← split,ofBytes,List.getD_append _ _ _ _ (by simpa using inside),← ofBytes,ofBytes_slice inside,Nat.zero_add]

theorem parseHeaderEnd_same {a b : Mem} {n n' len : Nat} (same : Same n a b) (more : n ≤ n')
    (found : parseHeaderEnd a n = some len) : parseHeaderEnd b n' = some len := by
  obtain ⟨inside,first⟩ := parseHeaderEnd_iff.mp found
  exact parseHeaderEnd_iff.mpr ⟨by omega,first.congr fun i before => (same i (by omega)).symm⟩

variable {files : List Resource} {failure : Option Errno} {c : Child} {p : Pipeline}

theorem Tracks.length (tracks : Tracks failure c p) (going : c.ended = false) :
    p.stream.length = c.count + (delivered c.reads).1.length := by
  rw [← tracks.stream going,List.length_append,slice_length]

theorem Tracks.request (tracks : Tracks failure c p) (going : c.ended = false) {len : Nat}
    (found : parseHeaderEnd c.buf c.count = some len) : front p.stream = .request len := by
  have length := tracks.length going
  have fits := tracks.fits
  rw [front,parseHeaderEnd_same (ofBytes_front (tracks.stream going)) (by omega) found]

/-- Nothing is missing of what is looked at, and there is no header in it. -/
theorem Tracks.nothing (tracks : Tracks failure c p) (going : c.ended = false)
    (none_ : parseHeaderEnd c.buf c.count = none)
    (all : c.count = min bufSize p.stream.length) :
    front p.stream = if bufSize ≤ p.stream.length then .tooLong else .short := by
  have same := ofBytes_front (tracks.stream going)
  rw [front]
  cases found : parseHeaderEnd (ofBytes p.stream) (min bufSize p.stream.length) with
  | none => rfl
  | some len =>
    rw [← all] at found
    rw [parseHeaderEnd_same (fun i inside => (same i inside).symm) (Nat.le_refl _) found] at none_
    cases none_

/-- A last answer. -/
theorem reply_tracks (embedded : Embedded files) (session : c.session = p.session) (fits : c.count ≤ bufSize)
    {status : Nat}
    (lost : lostSync status) : Tracks failure (c.reply files status) (p.reply files status) := by
  obtain ⟨same,closed⟩ := replyStatus_lost embedded c.session c.buf (ofBytes p.stream) lost
  rw [Child.reply,Child.resume,closed]
  refine ⟨?_,rfl,(nomatch ·),(nomatch ·),fits⟩
  rw [Pipeline.reply,← session]
  exact same

theorem close_tracks (session : c.session = p.session) (fits : c.count ≤ bufSize) :
    Tracks failure { c with ended := true } { p with ended := true } :=
  ⟨session,rfl,(nomatch ·),(nomatch ·),fits⟩

/-- A read that has failed for good. -/
theorem failed_tracks (embedded : Embedded files) (session : c.session = p.session) (fits : c.count ≤ bufSize)
    {errno : Errno}
    (counts : errno ≠ .eintr) : Tracks failure (c.readFailed files errno) (p.stop files (some errno)) := by
  cases errno with
  | eintr => exact absurd rfl counts
  | etimedout | eagain => exact reply_tracks embedded session fits (by decide)
  | other => exact reply_tracks embedded session fits (by decide)
  | econnreset | econnaborted | epipe | enetdown | enetunreach | enetreset | ehostdown | ehostunreach =>
    exact close_tracks session fits

/-- A request: the loop sees its header where the stream has it. -/
theorem Tracks.serve (tracks : Tracks failure c p) (going : c.ended = false) {len : Nat} (inside : len ≤ c.count) :
    Tracks failure (c.serve files len) (p.serve files len) := by
  have front : Same len (store c.buf c.count 0) (ofBytes p.stream) := by
    intro i before
    rw [store_other _ _ (by omega)]
    exact ofBytes_front (tracks.stream going) i (by omega)
  have request := request_same files c.session front
  have headerLen := request_headerLen files c.session (store c.buf c.count 0) len
  rw [Child.serve,Child.resume,Pipeline.serve,← tracks.session,← request]
  dsimp only
  generalize c.session.request files (store c.buf c.count 0) len = session at headerLen ⊢
  subst headerLen
  cases kept : session.decision with
  | false => exact ⟨rfl,rfl,(nomatch ·),(nomatch ·),tracks.fits⟩
  | true =>
    refine ⟨rfl,tracks.ended,?_,tracks.failed,(Nat.sub_le _ _).trans tracks.fits⟩
    intro _
    -- What is behind the header, at the front of the buffer now.
    have behind : slice (if session.headerLen < c.count then
          Hpack.memcpy (store c.buf c.count 0) 0 session.headerLen
            (c.count - session.headerLen) else store c.buf c.count 0)
        0 (c.count - session.headerLen) = (slice c.buf 0 c.count).drop session.headerLen := by
      obtain ⟨rest,whole⟩ := Nat.exists_eq_add_of_le inside
      rw [whole,slice_add,List.drop_left' (slice_length _ _ _),Nat.zero_add,Nat.add_sub_cancel_left]
      split
      · rw [Hpack.memcpy_forward _ _ (.inl (Nat.zero_le _)),slice_blit_same,slice_shift]
        exact slice_congr fun i before => store_other _ _ (by omega)
      · rw [show rest = 0 by omega]
        rfl
    calc _ = (slice c.buf 0 c.count).drop session.headerLen ++ (delivered c.reads).1 := congrArg (· ++ _) behind
      _ = (slice c.buf 0 c.count ++ (delivered c.reads).1).drop session.headerLen :=
        (List.drop_append_of_le_length (by simpa using inside)).symm
      _ = p.stream.drop session.headerLen := by rw [tracks.stream going]

/-! ### Reads -/

theorem slice_ofBytes_take (octets : List UInt8) {n : Nat} (fits : n ≤ octets.length) :
    slice (ofBytes octets) 0 n = octets.take n := by
  have front : ((slice (ofBytes octets) 0 octets.length).drop 0).take n = slice (ofBytes octets) (0 + 0) n :=
    slice_drop_take (by omega)
  rw [slice_ofBytes] at front
  exact front.symm

/-- Octets are read: the stream is what it was. -/
theorem Tracks.data {first : UInt8} {rest : List UInt8} {reads : List Read} {n : Nat} (tracks : Tracks failure c p)
    (going : c.ended = false) (here : c.reads = .data first rest :: reads) (some_ : n ≤ rest.length + 1)
    (fits : c.count + n ≤ bufSize) :
    Tracks failure
      { c with
        buf := blit c.buf c.count (ofBytes (first :: rest)) n
        count := c.count + n
        reads := leaving (first :: rest) n reads } p := by
  refine ⟨tracks.session,tracks.ended,?_,?_,fits⟩
  · intro _
    have stream := tracks.stream going
    rw [here,delivered] at stream
    dsimp only
    rw [delivered_leaving,slice_add,Nat.zero_add,slice_blit_before (by omega),slice_blit_same,
      slice_ofBytes_take _ (show n ≤ (first :: rest).length from some_),List.append_assoc,
      ← List.append_assoc (List.take n _),List.take_append_drop]
    exact stream
  · intro _
    have failed := tracks.failed going
    rw [here,delivered] at failed
    rw [delivered_leaving]
    exact failed

theorem Pipeline.step_short (going : p.ended = false) (short : front p.stream = .short) :
    p.step files failure = p.stop files failure := by
  rw [Pipeline.step,if_neg (by simp [going]),short]

/-- The read behind what is there, where no header is. -/
theorem Tracks.read (embedded : Embedded files) (tracks : Tracks failure c p) (going : c.ended = false)
    (none_ : parseHeaderEnd c.buf c.count = none) (room : c.count < bufSize) :
    Tracks failure (c.read files) p ∨ Tracks failure (c.read files) (p.step files failure) := by
  -- What there is when nothing more of the stream comes.
  have last : (delivered c.reads).1 = [] → p.step files failure = p.stop files failure ∧
      (p.stream = [] ↔ c.count = 0) := by
    intro nothing
    have length := tracks.length going
    rw [nothing,List.length_nil,Nat.add_zero] at length
    refine ⟨Pipeline.step_short (tracks.ended ▸ going) ?_,by rw [← List.length_eq_zero_iff,length]⟩
    rw [tracks.nothing going none_ (by omega),if_neg (by omega)]
  have failed := tracks.failed going
  rw [Child.read]
  cases here : c.reads with
  | nil =>
    rw [here] at last failed
    obtain ⟨stop,empty⟩ := last rfl
    obtain rfl : none = failure := failed
    right
    rw [stop,Child.endOfStream,Pipeline.stop]
    by_cases zero : c.count = 0
    · rw [if_pos zero,if_pos (empty.mpr zero)]
      exact close_tracks tracks.session tracks.fits
    · rw [if_neg zero,if_neg (mt empty.mp zero)]
      exact reply_tracks embedded tracks.session tracks.fits (by decide)
  | cons read reads =>
    cases read with
    | data first rest =>
      left
      exact tracks.data going here (Nat.min_le_right _ _) (by omega)
    | failed errno =>
      by_cases again : errno = .eintr
      · subst again
        left
        have stream := tracks.stream going
        rw [here] at stream failed
        exact ⟨tracks.session,tracks.ended,fun _ => stream,fun _ => failed,tracks.fits⟩
      · have counts : delivered c.reads = ([],some errno) := by
          rw [here]
          cases errno with
          | eintr => exact absurd rfl again
          | _ => rfl
        rw [counts] at last failed
        obtain rfl : some errno = failure := failed
        right
        rw [(last rfl).1]
        change Tracks _ (Child.readFailed files { c with reads := reads } errno) _
        exact failed_tracks (c := { c with reads := reads }) embedded tracks.session tracks.fits again

/-- One step of the loop is one of the whole, or none. -/
theorem Tracks.step (embedded : Embedded files) (tracks : Tracks failure c p) (going : c.ended = false) :
    Tracks failure (c.step files) p ∨ Tracks failure (c.step files) (p.step files failure) := by
  have running : p.ended = false := tracks.ended ▸ going
  rw [Child.step,if_neg (by simp [going])]
  cases found : parseHeaderEnd c.buf c.count with
  | some len =>
    right
    rw [Pipeline.step,if_neg (show ¬ p.ended = true by simp [running]),tracks.request going found]
    exact tracks.serve going (parseHeaderEnd_iff.mp found).1
  | none =>
    dsimp only
    by_cases full : bufSize ≤ c.count
    · have length := tracks.length going
      have fits := tracks.fits
      right
      rw [if_pos full,Pipeline.step,if_neg (show ¬ p.ended = true by simp [running]),tracks.nothing going found
        (by omega),if_pos (by omega)]
      exact reply_tracks embedded tracks.session fits (by decide)
    · rw [if_neg full]
      exact tracks.read embedded going found (by omega)

/-! ### Every run ends -/

/-- What a connection can still do. -/
def Child.size (c : Child) : Nat := if c.ended then 0 else c.count + 2 * unread c.reads + c.reads.length + 1

theorem Child.size_going (going : c.ended = false) : c.size = c.count + 2 * unread c.reads + c.reads.length + 1 := by
  rw [Child.size,if_neg (by simp [going])]

theorem Child.size_ended (ended : c.ended = true) : c.size = 0 := if_pos ended

theorem reply_ended (embedded : Embedded files) {status : Nat} (lost : lostSync status) :
    (c.reply files status).ended = true := by
  have closed := (replyStatus_lost embedded c.session c.buf c.buf lost).2
  rw [Child.reply,Child.resume,closed]
  rfl

/-- A request has four octets at least. -/
theorem serve_smaller (going : c.ended = false) {len : Nat} (inside : len ≤ c.count) (long : 4 ≤ len) :
    (c.serve files len).size < c.size := by
  have headerLen := request_headerLen files c.session (store c.buf c.count 0) len
  rw [Child.size_going going,Child.serve,Child.resume]
  dsimp only
  cases kept : (c.session.request files (store c.buf c.count 0) len).decision with
  | false => exact Nat.succ_pos _
  | true =>
    rw [if_pos rfl,Child.size_going (by exact going)]
    dsimp only
    omega

theorem read_smaller (embedded : Embedded files) (going : c.ended = false) (room : c.count < bufSize) :
    (c.read files).size < c.size := by
  have less : ∀ {c' : Child}, c'.ended = true → c'.size < c.size := by
    intro c' ended
    rw [Child.size_ended ended,Child.size_going going]
    exact Nat.succ_pos _
  rw [Child.read]
  cases here : c.reads with
  | nil =>
    apply less
    change (c.endOfStream files).ended = true
    rw [Child.endOfStream]
    by_cases zero : c.count = 0
    · rw [if_pos zero]
    · rw [if_neg zero]
      exact reply_ended embedded (by decide)
  | cons read reads =>
    cases read with
    | data first rest =>
      have octets := leaving_unread (first :: rest) (min (bufSize - c.count) (rest.length + 1)) reads
      have length := leaving_length (first :: rest) (min (bufSize - c.count) (rest.length + 1)) reads
      rw [Child.size_going going,Child.size_going (by exact going),here,unread]
      rw [List.length_cons] at octets ⊢
      dsimp only
      omega
    | failed errno =>
      cases errno with
      | eintr =>
        change Child.size { c with reads := reads } < c.size
        rw [Child.size_going going,Child.size_going (by exact going),here,unread,List.length_cons]
        dsimp only
        omega
      | etimedout | eagain | other => exact less (reply_ended embedded (by decide))
      | econnreset | econnaborted | epipe | enetdown | enetunreach | enetreset | ehostdown | ehostunreach =>
        exact less rfl

theorem step_smaller (embedded : Embedded files) (going : c.ended = false) : (c.step files).size < c.size := by
  rw [Child.step,if_neg (show ¬ c.ended = true by simp [going])]
  cases found : parseHeaderEnd c.buf c.count with
  | some len =>
    obtain ⟨inside,first⟩ := parseHeaderEnd_iff.mp found
    exact serve_smaller going inside first.length
  | none =>
    dsimp only
    split
    · rw [Child.size_ended (reply_ended embedded (by decide)),Child.size_going going]
      exact Nat.succ_pos _
    · exact read_smaller embedded going (by omega)

/-- The loop is simulated by the whole. -/
def simulated (embedded : Embedded files) (failure : Option Errno) :
    Simulates (Child.step files) (Pipeline.step files failure) where
  Rel := Tracks failure
  Over c := c.ended = true
  size := Child.size
  step tracks going := tracks.step embedded (by simpa using going)
  smaller _ going := step_smaller embedded (by simpa using going)
  stays ended := if_pos ended
  fixed tracks ended := if_pos (tracks.ended ▸ ended)

/-! ### Connections -/

/-- What a connection starts with. -/
def startSession (previous : Child) : Session :=
  { previous.session with req := http1ScrubPathBuffers previous.session.req, budget := keepaliveBudget, sent := [] }

theorem accept_tracks {previous : Child} {reads : List Read} (accepted : accept previous reads = some c) :
    Tracks (delivered reads).2 c ⟨startSession previous,(delivered reads).1,false⟩ := by
  match reads, accepted with
  | .data first rest :: reads, accepted =>
    rw [accept] at accepted
    dsimp only at accepted
    split at accepted
    · cases accepted
      refine ⟨rfl,rfl,?_,?_,Nat.min_le_left _ _⟩
      · intro _
        dsimp only
        rw [slice_blit_same,slice_ofBytes_take (first :: rest) (Nat.min_le_right bufSize (rest.length + 1)),
          delivered_leaving,← List.append_assoc,
          List.take_append_drop]
        rfl
      · intro _
        dsimp only
        rw [delivered_leaving]
        rfl
    · cases accepted

/-- However the octets of a sequence of requests come, the responses are those to the
    requests one by one. -/
theorem responses_same (embedded : Embedded files) {previous : Child} {requests : List (List UInt8)}
    {ending reads : List Read} {c c' : Child} (split : delivered reads = delivered (requests.flatMap whole ++ ending))
    (accepted : accept previous reads = some c) (apart : accept previous (requests.flatMap whole ++ ending) = some c') :
    (∃ n, (run files c n).ended = true) ∧ (∃ n, (run files c' n).ended = true) ∧
      ∀ n n', (run files c n).ended = true → (run files c' n').ended = true →
        (run files c n).session.sent = (run files c' n').session.sent := by
  have tracks := accept_tracks accepted
  have tracks' := accept_tracks apart
  rw [← split] at tracks'
  refine ⟨(simulated embedded _).ends tracks,(simulated embedded _).ends tracks',?_⟩
  intro n n' ended ended'
  obtain ⟨p,here,here'⟩ := (simulated embedded _).agree tracks tracks' ended ended'
  rw [run,run,here.session,here'.session]

/-! ### Two requests, octet by octet -/

/-- A process that has done nothing yet. -/
def Child.idle : Child := ⟨⟨Core.initial.req,0,0,false,[]⟩,fun _ => 0,0,0,[],true⟩

/-- A table with the default file in it. -/
def homeSite : List Resource :=
  [⟨⟨ascii "www/index.html",ascii "hello",ascii "text/html; charset=utf-8",false⟩,List.replicate 66 '"'.toUInt8⟩]

def getHome : List UInt8 := ascii "GET / HTTP/1.1\r\nHost: a\r\n\r\n"

/-- Every octet in a read of its own, and an interrupted read between two. -/
def octets (stream : List UInt8) : List Read := stream.flatMap fun octet => [.data octet [],.failed .eintr]

theorem responses_same_octets : ∃ c c' n n', accept .idle (octets (getHome ++ getHome)) = some c ∧
    accept .idle ([getHome,getHome].flatMap whole ++ []) = some c' ∧ (run homeSite c n).ended = true ∧
      (run homeSite c' n').ended = true ∧ (run homeSite c n).session.sent = (run homeSite c' n').session.sent := by
  have accepted : (accept .idle (octets (getHome ++ getHome))).isSome := by decide
  have apart : (accept .idle ([getHome,getHome].flatMap whole ++ [])).isSome := by decide
  obtain ⟨c,here⟩ := Option.isSome_iff_exists.mp accepted
  obtain ⟨c',here'⟩ := Option.isSome_iff_exists.mp apart
  obtain ⟨⟨n,ended⟩,⟨n',ended'⟩,same⟩ := responses_same (show Embedded homeSite by decide) (by decide) here here'
  exact ⟨c,c',n,n',here,here',ended,ended',same n n' ended ended'⟩

end Sarm.Http1
