import Sarm.ConnErrors
import Sarm.ServeOnce
import Mathlib.Data.List.Induction

/-!
What is said on a stream: HEADERS, then DATA, with END_STREAM on the last frame
alone, and perhaps RST_STREAM to cut it short. A response that fails behind its
HEADERS frame is answered with a second one, and a stream that is being served may
be reset under its response. Where neither happens the frames sent on a stream
are lawful in every run.
-/
namespace Sarm.H2
open Sarm.Memory Sarm.Trace

/-! ### The words of a stream -/

/-- A frame on a stream, with END_STREAM or without. -/
inductive Say where
  | headers (last : Bool)
  | data (last : Bool)
  | reset
  | other
  deriving DecidableEq, Repr

def OutFrame.say (f : OutFrame) : Say :=
  if f.type = frameHeaders then .headers (hasFlag f.flags flagEndStream)
  else if f.type = frameData then .data (hasFlag f.flags flagEndStream)
  else if f.type = frameRstStream then .reset
  else .other

/-- What an event says on a stream: a frame that the transport takes. -/
def Event.word (id : Nat) : Event → Option Say
  | .sent f true => if f.streamId = id then some f.say else none
  | .data _ _ f => if f.streamId = id then some f.say else none
  | _ => none

/-- The frames sent on a stream. -/
def words (id : Nat) (log : List Event) : List Say := log.filterMap (Event.word id)

/-- What has been said of a response: HEADERS, DATA*, and END_STREAM on the last frame
    of a complete one only. -/
inductive Partial : List Say → Prop where
  | nothing : Partial []
  | alone : Partial [.headers true]
  | begun (n : Nat) : Partial (.headers false :: List.replicate n (.data false))
  | whole (n : Nat) : Partial (.headers false :: List.replicate n (.data false) ++ [.data true])

/-- A response, or a part of one, that may be cut by RST_STREAM. -/
def Lawful (words : List Say) : Prop := Partial words ∨ ∃ before, words = before ++ [.reset] ∧ Partial before

theorem Partial.headers_first {words : List Say} (partly : Partial words) : ∀ last, .headers last ∉ words.tail := by
  intro last
  cases partly <;> simp

/-- HEADERS is said once at most, and first. -/
theorem Lawful.headers_first {words : List Say} (lawful : Lawful words) : ∀ last, .headers last ∉ words.tail := by
  intro last
  rcases lawful with partly | ⟨before,rfl,partly⟩
  · exact partly.headers_first last
  · have first := partly.headers_first last
    cases before with
    | nil => simp
    | cons w before => simpa using first

/-- Where a stream is. -/
inductive Phase where
  | silent
  | speaking
  | complete
  | cut
  deriving DecidableEq, Repr

/-- How a frame moves it. -/
def Phase.next : Phase → Say → Option Phase
  | .silent, .headers last => some (if last then .complete else .speaking)
  | .speaking, .data last => some (if last then .complete else .speaking)
  | .cut, _ => none
  | _, .reset => some .cut
  | _, _ => none

/-- Where the frames sent on a stream have taken it, if every one had its place. -/
def phase (words : List Say) : Option Phase := words.foldlM Phase.next .silent

theorem phase_snoc (words : List Say) (w : Say) : phase (words ++ [w]) = (phase words).bind (·.next w) := by
  rw [phase,List.foldlM_append]
  simp [phase]

/-- The words that lead to a phase. -/
def Phase.Reached : Phase → List Say → Prop
  | .silent, words => words = []
  | .speaking, words => ∃ n, words = .headers false :: List.replicate n (.data false)
  | .complete, words =>
    words = [.headers true] ∨ ∃ n, words = .headers false :: List.replicate n (.data false) ++ [.data true]
  | .cut, words => ∃ before, words = before ++ [.reset] ∧ Partial before

theorem Phase.Reached.partly {p : Phase} {words : List Say} (reached : p.Reached words) (whole : p ≠ .cut) :
    Partial words := by
  cases p with
  | silent => rw [show words = [] from reached]; exact .nothing
  | speaking => obtain ⟨n,rfl⟩ := reached; exact .begun n
  | complete =>
    rcases reached with rfl | ⟨n,rfl⟩
    · exact .alone
    · exact .whole n
  | cut => exact absurd rfl whole

theorem next_reached {p q : Phase} {words : List Say} {w : Say} (reached : p.Reached words) (next : p.next w = some q) :
    q.Reached (words ++ [w]) := by
  have reset : p ≠ .cut → w = .reset → Phase.Reached .cut (words ++ [w]) := by
    rintro whole rfl
    exact ⟨words,rfl,reached.partly whole⟩
  cases p with
  | silent =>
    obtain rfl : words = [] := reached
    cases w with
    | headers last =>
      cases last with
      | false => cases next; exact ⟨0,rfl⟩
      | true => cases next; exact .inl rfl
    | reset => cases next; exact reset (by simp) rfl
    | _ => cases next
  | speaking =>
    cases w with
    | data last =>
      obtain ⟨n,rfl⟩ := reached
      cases last with
      | false => cases next; exact ⟨n + 1,by rw [List.replicate_succ']; rfl⟩
      | true => cases next; exact .inr ⟨n,rfl⟩
    | reset => cases next; exact reset (by simp) rfl
    | _ => cases next
  | complete =>
    cases w with
    | reset => cases next; exact reset (by simp) rfl
    | _ => cases next
  | cut => cases w <;> cases next

theorem phase_reached (words : List Say) : ∀ p, phase words = some p → p.Reached words := by
  induction words using List.reverseRecOn with
  | nil =>
    rintro p reached
    cases reached
    rfl
  | append_singleton words w ih =>
    intro q reached
    rw [phase_snoc,Option.bind_eq_some_iff] at reached
    obtain ⟨p,before,next⟩ := reached
    exact next_reached (ih p before) next

/-- A stream whose frames all had their place has said nothing unlawful. -/
theorem phase_lawful {words : List Say} (placed : (phase words).isSome) : Lawful words := by
  obtain ⟨p,reached⟩ := Option.isSome_iff_exists.mp placed
  have words := phase_reached _ p reached
  by_cases cut : p = .cut
  · subst cut
    exact .inr words
  · exact .inl (words.partly cut)

theorem words_snoc (id : Nat) (log : List Event) (e : Event) :
    words id (log ++ [e]) = words id log ++ (e.word id).toList := by
  rw [words,List.filterMap_append]
  cases word : e.word id <;> simp [words,word]

theorem phase_quiet {id : Nat} {log : List Event} {e : Event} (quiet : e.word id = none) :
    phase (words id (log ++ [e])) = phase (words id log) := by
  rw [words_snoc,quiet,Option.toList_none,List.append_nil]

theorem phase_word {id : Nat} {log : List Event} {e : Event} {w : Say} (word : e.word id = some w) :
    phase (words id (log ++ [e])) = (phase (words id log)).bind (·.next w) := by
  rw [words_snoc,word,Option.toList_some,phase_snoc]

/-! ### Streams and what has been said on them -/

/-- The stream on which a frame is rejected with a stream error. -/
def Event.rejected : Event → Option Nat
  | .frame before _ hdr payload =>
    if (h2DispatchFrame before hdr payload).error.any H2Error.isStream then some hdr.streamId else none
  | _ => none

/-- A response under way is silent until its HEADERS frame is sent. -/
def Phase.under (begun : Bool) : Phase := if begun then .speaking else .silent

/-- What has been said, with the streams under way and whether their HEADERS frames
    are sent. A stream that has not been served has at most been reset; one that has
    been reset has had a frame rejected. -/
structure Voice (log : List Event) (stack : List (Nat × Bool)) : Prop where
  proper : ∀ v ∈ stack, v.1 ≠ 0 ∧ v.1 ∈ served log
  distinct : (stack.map Prod.fst).Nodup
  under : ∀ v ∈ stack, phase (words v.1 log) = some (.under v.2)
  placed : ∀ id ≠ 0, (phase (words id log)).isSome
  unserved : ∀ id ≠ 0, id ∉ served log → phase (words id log) = some .silent ∨ phase (words id log) = some .cut
  cut : ∀ id ≠ 0, phase (words id log) = some .cut → some id ∈ log.map Event.rejected

variable {log : List Event} {stack : List (Nat × Bool)} {id : Nat} {e : Event}

theorem served_after {e : Event} (before : id ∈ served log) : id ∈ served (log ++ [e]) := by
  rw [served_snoc]
  exact List.mem_append_left _ before

theorem Voice.pop {v : Nat × Bool} (voice : Voice log (v :: stack)) : Voice log stack :=
  ⟨fun v' member => voice.proper v' (List.mem_cons_of_mem _ member),(List.nodup_cons.mp voice.distinct).2,
    fun v' member => voice.under v' (List.mem_cons_of_mem _ member),voice.placed,voice.unserved,voice.cut⟩

theorem Voice.push {begun : Bool} (voice : Voice log stack) (proper : id ≠ 0) (known : id ∈ served log)
    (outside : id ∉ stack.map Prod.fst) (under : phase (words id log) = some (.under begun)) :
    Voice log ((id,begun) :: stack) :=
  ⟨List.forall_mem_cons.mpr ⟨⟨proper,known⟩,voice.proper⟩,List.nodup_cons.mpr ⟨outside,voice.distinct⟩,
    List.forall_mem_cons.mpr ⟨under,voice.under⟩,voice.placed,voice.unserved,voice.cut⟩

/-- An event that speaks on one stream at most, and that not one under way. -/
theorem Voice.advance {p : Phase} (voice : Voice log stack) (others : ∀ other, other ≠ id → e.word other = none)
    (next : phase (words id (log ++ [e])) = some p) (outside : id ∉ stack.map Prod.fst)
    (known : id ∈ served log ∨ p = .cut) (cut : p = .cut → some id ∈ log.map Event.rejected) :
    Voice (log ++ [e]) stack := by
  refine ⟨?_,voice.distinct,?_,?_,?_,?_⟩
  · intro v member
    exact ⟨(voice.proper v member).1,served_after (voice.proper v member).2⟩
  · intro v member
    have other : v.1 ≠ id := fun same => outside (by rw [← same]; exact List.mem_map_of_mem member)
    rw [phase_quiet (others _ other)]
    exact voice.under v member
  · intro other proper
    by_cases here : other = id
    · rw [here,next]
      rfl
    · rw [phase_quiet (others _ here)]
      exact voice.placed other proper
  · intro other proper unknown
    have before : other ∉ served log := fun member => unknown (served_after member)
    by_cases here : other = id
    · subst here
      rcases known with member | rfl
      · exact absurd member before
      · exact .inr next
    · rw [phase_quiet (others _ here)]
      exact voice.unserved other proper before
  · intro other proper reset
    rw [List.map_append]
    by_cases here : other = id
    · subst here
      rw [next] at reset
      cases reset
      exact List.mem_append_left _ (cut rfl)
    · rw [phase_quiet (others _ here)] at reset
      exact List.mem_append_left _ (voice.cut other proper reset)

/-- An event that says nothing. -/
theorem Voice.quiet (voice : Voice log stack) (quiet : ∀ id ≠ 0, e.word id = none) : Voice (log ++ [e]) stack := by
  refine ⟨?_,voice.distinct,?_,?_,?_,?_⟩
  · intro v member
    exact ⟨(voice.proper v member).1,served_after (voice.proper v member).2⟩
  · intro v member
    rw [phase_quiet (quiet _ (voice.proper v member).1)]
    exact voice.under v member
  · intro id proper
    rw [phase_quiet (quiet id proper)]
    exact voice.placed id proper
  · intro id proper unknown
    rw [phase_quiet (quiet id proper)]
    exact voice.unserved id proper (fun member => unknown (served_after member))
  · intro id proper reset
    rw [phase_quiet (quiet id proper)] at reset
    rw [List.map_append]
    exact List.mem_append_left _ (voice.cut id proper reset)

/-- The last frame of a response under way. -/
theorem Voice.last {begun : Bool} {w : Say} (voice : Voice log ((id,begun) :: stack)) (word : e.word id = some w)
    (others : ∀ other, other ≠ id → e.word other = none) (next : (Phase.under begun).next w = some .complete) :
    Voice (log ++ [e]) stack := by
  refine voice.pop.advance others (p := .complete) ?_ (List.nodup_cons.mp voice.distinct).1
    (.inl (voice.proper _ List.mem_cons_self).2) (by rintro ⟨⟩)
  rw [phase_word word,voice.under _ List.mem_cons_self]
  exact next

/-- Another frame of it. -/
theorem Voice.goes {begun : Bool} {w : Say} (voice : Voice log ((id,begun) :: stack)) (word : e.word id = some w)
    (others : ∀ other, other ≠ id → e.word other = none) (next : (Phase.under begun).next w = some .speaking) :
    Voice (log ++ [e]) ((id,true) :: stack) := by
  obtain ⟨proper,known⟩ := voice.proper _ List.mem_cons_self
  have outside := (List.nodup_cons.mp voice.distinct).1
  have speaking : phase (words id (log ++ [e])) = some .speaking := by
    rw [phase_word word,voice.under _ List.mem_cons_self]
    exact next
  exact (voice.pop.advance others speaking outside (.inl known) (by rintro ⟨⟩)).push proper
    (served_after known) outside speaking

/-- RST_STREAM on a stream that is not under way and that has not been reset. -/
theorem Voice.reset (voice : Voice log stack) (proper : id ≠ 0) (word : e.word id = some .reset)
    (others : ∀ other, other ≠ id → e.word other = none) (outside : id ∉ stack.map Prod.fst)
    (uncut : phase (words id log) ≠ some .cut) (rejected : some id ∈ log.map Event.rejected) :
    Voice (log ++ [e]) stack := by
  refine voice.advance others (p := .cut) ?_ outside (.inr rfl) (fun _ => rejected)
  obtain ⟨p,reached⟩ := Option.isSome_iff_exists.mp (voice.placed id proper)
  rw [phase_word word,reached]
  rw [reached] at uncut
  cases p <;> first | rfl | exact absurd rfl uncut

/-- The stream of a request that is served for the first time. -/
theorem Voice.serve (voice : Voice log stack) (proper : id ≠ 0) (quiet : ∀ id ≠ 0, e.word id = none)
    (known : id ∈ served (log ++ [e])) (first : id ∉ served log) (uncut : phase (words id log) ≠ some .cut) :
    Voice (log ++ [e]) ((id,false) :: stack) := by
  refine (voice.quiet quiet).push proper known ?_ ?_
  · intro inside
    obtain ⟨v,member,same⟩ := List.mem_map.mp inside
    exact first (by rw [← same]; exact (voice.proper v member).2)
  · rw [phase_quiet (quiet id proper)]
    rcases voice.unserved id proper first with silent | reset
    · exact silent
    · exact absurd reset uncut

/-! ### Frames sent -/

/-- The streams under way, and whether their HEADERS frames are sent. -/
def voices (stack : List Serve) : List (Nat × Bool) := stack.map fun serve => (serve.streamId,serve.staged.isNone)

theorem voices_ids (stack : List Serve) : (voices stack).map Prod.fst = stack.map Serve.streamId := by
  rw [voices,List.map_map]
  rfl

/-- Every response under way has said what its state says. -/
def Server.Speaks (s : Server) : Prop := Voice s.log (voices s.stack)

/-- A frame speaks on its own stream only. -/
theorem sent_others (f : OutFrame) (ok : Bool) : ∀ other, other ≠ f.streamId → (Event.sent f ok).word other = none := by
  intro other different
  cases ok with
  | false => rfl
  | true => exact if_neg (Ne.symm different)

theorem sent_word (f : OutFrame) : (Event.sent f true).word f.streamId = some f.say := if_pos rfl

/-- A frame of the connection speaks on no stream. -/
theorem sent_quiet {f : OutFrame} (connection : f.streamId = 0) (ok : Bool) :
    ∀ id ≠ 0, (Event.sent f ok).word id = none := by
  intro id proper
  exact sent_others f ok id (by rw [connection]; exact proper)

/-- The HEADERS frame of a response: nothing is said if it does not go, and if it goes
    END_STREAM decides whether anything is to follow. -/
theorem send_voice {s : Server} {f : OutFrame} (voice : Voice s.log ((f.streamId,false) :: stack)) {last : Bool}
    (say : f.say = .headers last) :
    ((s.send f).2 = false → Voice (s.send f).1.log ((f.streamId,false) :: stack)) ∧
      ((s.send f).2 = true → last = false → Voice (s.send f).1.log ((f.streamId,true) :: stack)) ∧
        ((s.send f).2 = true → last = true → Voice (s.send f).1.log stack) := by
  rw [send_log]
  refine ⟨?_,?_,?_⟩
  · intro failed
    rw [failed]
    exact voice.quiet (fun _ _ => rfl)
  · rintro ok rfl
    rw [ok]
    exact voice.goes (sent_word f) (sent_others f true) (by rw [say]; rfl)
  · rintro ok rfl
    rw [ok]
    exact voice.last (sent_word f) (sent_others f true) (by rw [say]; rfl)

theorem headers_say (serve : Serve) (block : List UInt8) : (serve.headers block).say = .headers false := by
  simp [OutFrame.say,Serve.headers,hasFlag,flagEndHeaders,flagEndStream]

theorem headersFrame_say {r : Response} {streamId extra : Nat} {f : OutFrame}
    (made : headersFrame r streamId extra = some f) :
    f.streamId = streamId ∧ f.say = .headers (hasFlag (flagEndHeaders ||| extra) flagEndStream) := by
  rw [headersFrame] at made
  split at made
  · contradiction
  · cases made
    exact ⟨rfl,rfl⟩

/-- A response of HEADERS alone. -/
theorem writeHeaders_voice {s : Server} {r : Response} (voice : Voice s.log ((id,false) :: stack)) :
    ((s.writeHeaders r id flagEndStream).2 = true → Voice (s.writeHeaders r id flagEndStream).1.log stack) ∧
      ((s.writeHeaders r id flagEndStream).2 = false →
    Voice (s.writeHeaders r id flagEndStream).1.log ((id,false) :: stack)) := by
  rw [Server.writeHeaders]
  split
  · exact ⟨by rintro ⟨⟩,fun _ => voice⟩
  · next f made =>
    obtain ⟨rfl,say⟩ := headersFrame_say made
    obtain ⟨failed,_,done⟩ := send_voice voice say
    exact ⟨fun ok => done ok (by decide),failed⟩

theorem replyStatus_voice {s : Server} (voice : Voice s.log ((id,false) :: stack)) (status : Nat) :
    Voice (s.replyStatus id status).log stack := by
  obtain ⟨done,failed⟩ := writeHeaders_voice (r := statusResponse status) voice
  rw [Server.replyStatus]
  cases ok : (s.writeHeaders (statusResponse status) id flagEndStream).2 with
  | true => exact done ok
  | false => exact (failed ok).pop

/-- A response that ends. -/
theorem finish_speaks {s : Server} {serve : Serve} {rest : List Serve} (served : s.stack = serve :: rest)
    (voice : Voice s.log (voices rest)) : s.finish.Speaks := by
  rw [Server.Speaks,finish_log,Server.finish,served]
  exact voice

/-- A response that fails before its HEADERS frame is sent. -/
theorem abort_speaks {s : Server} {serve : Serve} {rest : List Serve} (served : s.stack = serve :: rest)
    (voice : Voice s.log ((serve.streamId,false) :: voices rest)) : s.abort.Speaks := by
  rw [Server.abort,served]
  exact finish_speaks (writeHeaders_serving.trans served) (replyStatus_voice voice 500)

theorem setTop_speaks {s : Server} {serve : Serve} {rest : List Serve} {staged : Option (List UInt8)} {body : List UInt8}
    (served : s.stack = serve :: rest) (voice : Voice s.log ((serve.streamId,staged.isNone) :: voices rest)) :
    (s.setTop staged body).Speaks := by
  rw [Server.Speaks,setTop_log,Server.setTop,served]
  exact voice

theorem respond_speaks {s : Server} {serve : Serve} {rest : List Serve} (served : s.stack = serve :: rest)
    (voice : Voice s.log ((serve.streamId,false) :: voices rest)) (a : Answer) : (s.respond serve.streamId a).Speaks := by
  cases a with
  | status code => exact finish_speaks (writeHeaders_serving.trans served) (replyStatus_voice voice code)
  | headers r =>
    obtain ⟨done,failed⟩ := writeHeaders_voice (r := r) voice
    have kept : (s.writeHeaders r serve.streamId flagEndStream).1.stack = serve :: rest :=
      writeHeaders_serving.trans served
    rw [Server.respond]
    split
    · next s' ok => rw [ok] at done kept; exact finish_speaks kept (done rfl)
    · next s' ok => rw [ok] at failed kept; exact abort_speaks kept (failed rfl)
  | body r =>
    rw [Server.respond]
    split
    · exact abort_speaks served voice
    · next f made =>
      split
      · exact setTop_speaks served voice
      · obtain ⟨stream,say⟩ := headersFrame_say made
        rw [← stream] at voice
        obtain ⟨failed,done,_⟩ := send_voice voice say
        rw [stream] at failed done
        have kept : (s.send f).1.stack = serve :: rest := (send_stack s f).trans served
        split
        · next s' ok => rw [ok] at done kept; exact setTop_speaks kept (done rfl (by decide))
        · next s' ok => rw [ok] at failed kept; exact abort_speaks kept (failed rfl)

/-! ### The body writer's failures -/

/-- What does not disturb a response: a stream error of a frame concerns a stream
    that is not being served and that has had none before, and is not served
    afterwards; no frame that the body writer reads has a connection error with which
    the response fails, or fails to come. -/
def Undisturbed (before : List Event) : Event → Prop
  | .frame c serving hdr payload => ∀ e ∈ (h2DispatchFrame c hdr payload).error,
      if e.isStream then hdr.streamId = 0 ∨ (hdr.streamId ∉ serving ∧ some hdr.streamId ∉ before.map Event.rejected)
      else serving = [] ∨ carrySet e = false
  | .refused _ serving _ => serving = []
  | .waitFailed _ _ => False
  | .serve _ _ streamId _ => some streamId ∉ before.map Event.rejected
  | _ => True

instance (before : List Event) : DecidablePred (Undisturbed before)
  | .frame c serving hdr payload => inferInstanceAs (Decidable (∀ e ∈ (h2DispatchFrame c hdr payload).error,
      if e.isStream then hdr.streamId = 0 ∨ (hdr.streamId ∉ serving ∧ some hdr.streamId ∉ before.map Event.rejected)
      else serving = [] ∨ carrySet e = false))
  | .refused _ serving _ => inferInstanceAs (Decidable (serving = []))
  | .waitFailed _ _ => inferInstanceAs (Decidable False)
  | .serve _ _ streamId _ => inferInstanceAs (Decidable (some streamId ∉ before.map Event.rejected))
  | .waiting _ | .sent _ _ | .data _ _ _ => isTrue trivial

/-- The octets in front of a chunk: its frame header, behind the HEADERS frame if that
    waits. -/
def Serve.front (serve : Serve) (chunk : Nat) : List UInt8 :=
  ((serve.staged.map fun block => (serve.headers block).encode).getD []) ++ (dataFrame serve chunk).wireHeader

/-- A chunk, if one is to be sent, is taken by the transport. -/
def Server.ChunkTaken (s : Server) : Prop := ∀ serve ∈ s.stack.head?,
  (chunkLength s.core serve = 0 ∧ serve.body ≠ []) ∨
    (s.transport.writev (serve.front (chunkLength s.core serve))
      (dataFrame serve (chunkLength s.core serve)).payload).2 = true

instance (s : Server) : Decidable s.ChunkTaken :=
  inferInstanceAs (Decidable (∀ serve ∈ s.stack.head?, _ ∨ _))

/-- Nothing has disturbed a response, and no stream has been served twice. -/
def Calm (log : List Event) : Prop := Always Undisturbed log ∧ (served log).Nodup

theorem Calm.of_prefix {log log' : List Event} (shorter : log <+: log') (calm : Calm log') : Calm log := by
  obtain ⟨new,rfl⟩ := shorter
  refine ⟨?_,?_⟩
  · rintro before e after rfl
    exact calm.1 before e (after ++ new) (by simp)
  · have distinct := calm.2
    rw [served,List.filterMap_append] at distinct
    exact (List.nodup_append.mp distinct).1

theorem Calm.last {log : List Event} {e : Event} {new : List Event} (calm : Calm (log ++ e :: new)) :
    Undisturbed log e := calm.1 log e new rfl

/-- The request behind a frame. -/
theorem hook_speaks (files : List EmbeddedFile) {s : Server} (speaks : s.Speaks) (streamId : Nat)
    (calm : Calm (s.hook files streamId).log) : (s.hook files streamId).Speaks := by
  revert calm
  rw [Server.hook]
  split
  · exact fun _ => speaks
  next proper =>
  split
  · exact fun _ => speaks
  next slot found =>
  split
  · intro calm
    obtain ⟨new,log,_⟩ :=
      respond_adds ((s.emit (.serve s.core s.serving streamId slot)).push ⟨streamId,slot,none,[]⟩) streamId
      (answer files s.core.req)
    have whole : (s.processRequest files streamId slot).log = s.log ++ .serve s.core s.serving streamId slot :: new := by
      rw [show (s.processRequest files streamId slot).log =
        (s.log ++ [.serve s.core s.serving streamId slot]) ++ new from log,List.append_assoc]
      rfl
    rw [whole] at calm
    have unrejected : some streamId ∉ s.log.map Event.rejected := calm.last
    have first : streamId ∉ served s.log := by
      have distinct := calm.2
      rw [served,List.filterMap_append] at distinct
      intro before
      exact (List.nodup_append.mp distinct).2.2 streamId before streamId (by simp [Event.served]) rfl
    have voice : Voice (s.log ++ [.serve s.core s.serving streamId slot]) ((streamId,false) :: voices s.stack) := by
      refine speaks.serve proper (fun _ _ => rfl) ?_ first (fun reset => unrejected (speaks.cut _ proper reset))
      rw [served_snoc]
      simp [Event.served]
    exact respond_speaks (s := (s.emit (.serve s.core s.serving streamId slot)).push ⟨streamId,slot,none,[]⟩) rfl voice _
  · exact fun _ => speaks

/-! ### Frames received -/

theorem sendAll_speaks : ∀ (frames : List OutFrame) (s : Server), (∀ f ∈ frames, f.streamId = 0) → s.Speaks →
    (s.sendAll frames).Speaks := by
  intro frames
  induction frames with
  | nil => intro s _ speaks; exact speaks
  | cons f frames ih =>
    intro s connection speaks
    rw [List.forall_mem_cons] at connection
    rw [sendAll_cons]
    refine ih _ connection.2 ?_
    rw [Server.Speaks,send_log,send_stack]
    exact Voice.quiet speaks (sent_quiet connection.1 _)

theorem Server.Speaks.same {s s' : Server} (speaks : s.Speaks) (log : s'.log = s.log) (stack : s'.stack = s.stack) :
    s'.Speaks := by
  rw [Server.Speaks,log,stack]
  exact speaks

theorem Server.Speaks.quiet {s s' : Server} {e : Event} (speaks : s.Speaks) (log : s'.log = s.log ++ [e])
    (stack : s'.stack = s.stack) (quiet : ∀ id ≠ 0, e.word id = none) : s'.Speaks := by
  rw [Server.Speaks,log,stack]
  exact Voice.quiet speaks quiet

/-- A frame and the replies to it. -/
theorem handled_speaks {s : Server} (speaks : s.Speaks) (hdr : FrameHeader) (payload : Mem) :
    ((s.handled hdr payload).sendAll (h2DispatchFrame s.core hdr payload).replies).Speaks := by
  have handled : (s.handled hdr payload).Speaks := speaks.quiet rfl rfl (fun _ _ => rfl)
  exact sendAll_speaks _ _ (dispatch_connection _ _ _) handled

/-- The stream of a frame with a stream error is reset. -/
theorem reset_speaks {s : Server} {hdr : FrameHeader} {payload : Mem} {e : H2Error} {s' : Server}
    (speaks : s.Speaks) (log : s'.log = (s.handled hdr payload).log) (stack : s'.stack = s.stack)
    (error : (h2DispatchFrame s.core hdr payload).error = some e) (stream : e.isStream = true) (proper : hdr.streamId ≠ 0)
    (undisturbed : Undisturbed s.log (.frame s.core s.serving hdr payload)) : (s'.reset hdr.streamId e).Speaks := by
  have spared := undisturbed e error
  rw [if_pos stream] at spared
  obtain ⟨outside,unrejected⟩ := spared.resolve_left proper
  have handled : s'.Speaks := speaks.quiet (log.trans rfl) stack (fun _ _ => rfl)
  rw [Server.Speaks,reset_log,reset_stack]
  cases (s'.send (h2SendRstStream hdr.streamId e)).2 with
  | false => exact Voice.quiet handled (fun _ _ => rfl)
  | true =>
    refine Voice.reset handled proper (sent_word (h2SendRstStream hdr.streamId e))
      (sent_others (h2SendRstStream hdr.streamId e) true)
      ?_ ?_ ?_
    · rw [voices_ids,stack]
      exact outside
    · intro reset
      rw [log,show (s.handled hdr payload).log = s.log ++ [.frame s.core s.serving hdr payload] from rfl,
        phase_quiet (by rfl)] at reset
      exact unrejected (Voice.cut speaks _ proper reset)
    · rw [log,show (s.handled hdr payload).log = s.log ++ [.frame s.core s.serving hdr payload] from rfl,List.map_append]
      refine List.mem_append_right _ ?_
      simp [Event.rejected,error,stream]

/-- The log behind a frame. -/
theorem calm_handled {s s' : Server} {hdr : FrameHeader} {payload : Mem} {frames : List OutFrame} {new : List Event}
    (log : s'.log = ((s.handled hdr payload).sendAll frames).log ++ new) (calm : Calm s'.log) :
    Undisturbed s.log (.frame s.core s.serving hdr payload) := by
  obtain ⟨replies,sent,_⟩ := sendAll_log frames (s.handled hdr payload)
  rw [log,sent,show (s.handled hdr payload).log = s.log ++ [.frame s.core s.serving hdr payload] from rfl,
    List.append_assoc,List.append_assoc] at calm
  exact calm.last

theorem connectionTurn_speaks (files : List EmbeddedFile) {s : Server} (speaks : s.Speaks)
    (calm : Calm (s.connectionTurn files).log) : (s.connectionTurn files).Speaks := by
  revert calm
  rw [Server.connectionTurn]
  split
  · next s1 short =>
    have filled := fill_filled short
    exact fun _ => speaks.same filled.log filled.stack
  next s1 enough =>
  have filled := fill_filled enough
  have speaks1 : s1.Speaks := speaks.same filled.log filled.stack
  dsimp only
  generalize h2ParseFrameHeader (shift s1.buf s1.cursor) = hdr
  split
  · next e invalid =>
    intro _
    have refused : ((s1.consume wireHeaderLen).emit (.refused s1.core s1.serving hdr)).Speaks :=
      speaks1.quiet rfl rfl (fun _ _ => rfl)
    exact refused.quiet rfl rfl (sent_quiet rfl _)
  next valid =>
  split
  · next s3 short =>
    have filled3 := fill_filled short
    exact fun _ => speaks1.same filled3.log filled3.stack
  next s3 enough3 =>
  have filled3 := fill_filled enough3
  have speaks3 : s3.Speaks := speaks1.same filled3.log filled3.stack
  generalize shift s3.buf s3.cursor = payload
  rw [dispatch_eq]
  have handled := handled_speaks speaks3 hdr payload
  split
  · next s4 done =>
    obtain ⟨rfl,error⟩ := Prod.mk.inj done
    have consumed : Server.Speaks
        (((s3.handled hdr payload).sendAll (h2DispatchFrame s3.core hdr payload).replies).consume hdr.length) :=
      handled.same rfl rfl
    exact hook_speaks files consumed _
  · next s4 e failed =>
    obtain ⟨rfl,error⟩ := Prod.mk.inj failed
    rw [dispatch_error_replies error] at handled ⊢
    split
    · next stream =>
      split
      · exact fun _ => handled.same rfl rfl
      · next proper =>
        intro calm
        refine reset_speaks speaks3 ?_ ?_ error stream proper ?_
        · rfl
        · rfl
        · exact @calm_handled s3 _ hdr payload [] _ rfl calm
    · intro _
      exact handled.quiet rfl rfl (sent_quiet rfl _)

theorem waitFrame_speaks (files : List EmbeddedFile) {s : Server} {serve : Serve} {rest : List Serve}
    (speaks : s.Speaks) (stack : s.stack = serve :: rest) (calm : Calm (Server.waitFrame files s).log) :
    (Server.waitFrame files s).Speaks := by
  have busy : s.serving ≠ [] := by rw [Server.serving,stack]; exact List.cons_ne_nil _ _
  have failed : ∀ {s1 : Server}, Calm (s1.waitLost s.transport).abort.log → False := by
    intro s1 calm
    obtain ⟨new,log,_⟩ := abort_adds (s1.waitLost s.transport)
    rw [log,Server.waitLost,Server.emit,List.append_assoc] at calm
    exact calm.last
  revert calm
  rw [Server.waitFrame]
  dsimp only
  split
  · exact fun calm => (failed calm).elim
  next s1 read =>
  obtain ⟨core1,stack1,log1,_⟩ := waitRead_same read
  have speaks1 : s1.Speaks := speaks.same log1 stack1
  have busy1 : s1.serving ≠ [] := by rw [Server.serving,stack1]; exact busy
  generalize h2ParseFrameHeader s1.waitBuf = hdr
  split
  · next e invalid =>
    intro calm
    obtain ⟨new,log,_⟩ := abort_adds (s1.emit (.refused s1.core s1.serving hdr))
    rw [log,Server.emit,List.append_assoc] at calm
    exact absurd calm.last busy1
  next valid =>
  split
  · exact fun calm => (failed calm).elim
  next s2 read2 =>
  obtain ⟨core2,stack2,log2,_⟩ := waitRead_same read2
  have speaks2 : s2.Speaks := speaks1.same log2 stack2
  have busy2 : s2.serving ≠ [] := by rw [Server.serving,stack2]; exact busy1
  generalize s2.waitBuf = payload
  rw [dispatch_eq]
  have handled := handled_speaks speaks2 hdr payload
  split
  · next s4 done =>
    obtain ⟨rfl,error⟩ := Prod.mk.inj done
    exact hook_speaks files handled _
  · next s4 e failed =>
    obtain ⟨rfl,error⟩ := Prod.mk.inj failed
    rw [dispatch_error_replies error] at handled ⊢
    split
    · next stream =>
      split
      · exact fun _ => handled
      · next proper =>
        intro calm
        refine reset_speaks speaks2 ?_ ?_ error stream proper ?_
        · rfl
        · rfl
        · exact @calm_handled s2 _ hdr payload [] _ rfl calm
    · next fatal =>
      have busy3 : s2.stack = serve :: rest := stack2.trans (stack1.trans stack)
      split
      · next carry =>
        intro calm
        obtain ⟨new,log,_⟩ := abort_adds ((s2.handled hdr payload).sendAll [])
        have spared := calm_handled log calm e error
        rw [if_neg fatal,carry] at spared
        exact absurd (spared.resolve_right (by simp)) busy2
      · intro _
        exact finish_speaks busy3 (Voice.pop (v := (serve.streamId,serve.staged.isNone))
          (by rw [show _ :: voices rest = voices s2.stack by rw [busy3]; rfl]; exact handled))

theorem waitTurn_speaks (files : List EmbeddedFile) {s : Server} {serve : Serve} {rest : List Serve} (speaks : s.Speaks)
    (stack : s.stack = serve :: rest) (calm : Calm (s.waitTurn files serve).log) : (s.waitTurn files serve).Speaks := by
  have voice : Voice s.log ((serve.streamId,serve.staged.isNone) :: voices rest) := by
    rw [show _ :: voices rest = voices s.stack by rw [stack]; rfl]
    exact speaks
  revert calm
  rw [Server.waitTurn]
  split
  · have waiting : (s.emit (.waiting s.count)).Speaks := speaks.quiet rfl rfl (fun _ _ => rfl)
    exact waitFrame_speaks files waiting stack
  · next block staged =>
    rw [staged] at voice
    obtain ⟨failed,done,_⟩ := send_voice (f := serve.headers block) voice (headers_say serve block)
    have kept : (s.send (serve.headers block)).1.stack = serve :: rest := stack
    split
    · next s1 ok =>
      rw [ok] at failed kept
      exact fun _ => abort_speaks kept (failed rfl)
    · next s1 ok =>
      rw [ok] at done kept
      have top : (s1.setTop none serve.body).Speaks := setTop_speaks kept (done rfl rfl)
      have waiting : ((s1.setTop none serve.body).emit (.waiting (s1.setTop none serve.body).count)).Speaks :=
        top.quiet rfl rfl (fun _ _ => rfl)
      have stack : ((s1.setTop none serve.body).emit (.waiting (s1.setTop none serve.body).count)).stack =
          { serve with staged := none } :: rest := by
        show (s1.setTop none serve.body).stack = _
        rw [Server.setTop,kept]
      exact waitFrame_speaks files waiting stack

theorem dataFrame_say (serve : Serve) (chunk : Nat) :
    (dataFrame serve chunk).say = .data (chunk = serve.body.length) := by
  by_cases whole : chunk = serve.body.length
  · simp [OutFrame.say,dataFrame,whole,frameData,frameHeaders,hasFlag,flagEndStream]
  · simp [OutFrame.say,dataFrame,whole,frameData,frameHeaders,hasFlag,flagEndStream]

/-- A chunk that the transport takes, behind the HEADERS frame or alone. -/
theorem sendChunk_speaks {s : Server} {serve : Serve} {rest : List Serve} (speaks : s.Speaks)
    (stack : s.stack = serve :: rest)
    (taken : (s.transport.writev (serve.front (chunkLength s.core serve))
      (dataFrame serve (chunkLength s.core serve)).payload).2 = true) :
    (s.sendChunk serve (chunkLength s.core serve)).Speaks := by
  have fits : chunkLength s.core serve ≤ serve.body.length := Nat.min_le_right _ _
  generalize chunkLength s.core serve = chunk at *
  have voice : Voice s.log ((serve.streamId,serve.staged.isNone) :: voices rest) := by
    rw [show _ :: voices rest = voices s.stack by rw [stack]; rfl]
    exact speaks
  rw [Server.sendChunk]
  dsimp only
  split
  · next t failed =>
    rw [Serve.front,failed] at taken
    cases taken
  next t done =>
  -- The HEADERS frame is sent, now or before.
  have begun : Voice (Server.emitStaged { s with transport := t } serve).log ((serve.streamId,true) :: voices rest) := by
    rw [Server.emitStaged]
    cases staged : serve.staged with
    | none => rw [staged] at voice; exact voice
    | some block =>
      rw [staged] at voice
      exact voice.goes (sent_word (serve.headers block)) (sent_others (serve.headers block) true)
        (by rw [headers_say]; rfl)
  have kept : (Server.emitStaged { s with transport := t } serve).stack = serve :: rest := by
    rw [(emitStaged_same _ _).2.1]
    exact stack
  generalize Server.emitStaged { s with transport := t } serve = s1 at begun kept ⊢
  have word : (Event.data s1.core (s1.core.charge serve.slot chunk) (dataFrame serve chunk)).word serve.streamId =
      some (.data (chunk = serve.body.length)) := by
    rw [← dataFrame_say]
    exact if_pos rfl
  have others : ∀ other, other ≠ serve.streamId →
      (Event.data s1.core (s1.core.charge serve.slot chunk) (dataFrame serve chunk)).word other = none :=
    fun other different => if_neg (Ne.symm different)
  have charged : (s1.emitChunk serve chunk).stack = serve :: rest := kept
  split
  · next finished =>
    have whole : chunk = serve.body.length := by
      have := List.drop_eq_nil_iff.mp finished
      omega
    exact finish_speaks charged (begun.last word others (by simp [whole,Phase.under,Phase.next]))
  · next more =>
    have short : chunk ≠ serve.body.length := by
      rintro rfl
      exact more (List.drop_length)
    exact setTop_speaks charged (begun.goes word others (by simp [short,Phase.under,Phase.next]))

theorem step_speaks (files : List EmbeddedFile) {s : Server} (speaks : s.Speaks) (taken : s.ChunkTaken)
    (calm : Calm (s.step files).log) : (s.step files).Speaks := by
  revert calm
  rw [Server.step]
  split
  · exact fun _ => speaks
  split
  · exact connectionTurn_speaks files speaks
  · next serve rest stack =>
    rw [Server.bodyTurn]
    split
    · exact waitTurn_speaks files speaks stack
    · next sends =>
      exact fun _ => sendChunk_speaks speaks stack ((taken serve (by rw [stack]; rfl)).resolve_left sends)

/-! ### Runs -/

theorem enter_speaks (e : Entry) : (h2ConnectionLoop e).Speaks := by
  have entered := enter_entered e
  rw [Server.Speaks,entered.stack]
  have nothing : Voice [] [] :=
    ⟨by simp,List.nodup_nil,by simp,fun _ _ => rfl,fun _ _ _ => .inl rfl,by intro _ _ reset; cases reset⟩
  rcases entered.log with none | ⟨ok,settings⟩
  · rw [none]
    exact nothing
  · rw [settings]
    exact nothing.quiet (sent_quiet rfl ok)

theorem run_speaks (files : List EmbeddedFile) (e : Entry) : ∀ n, Calm (run files (h2ConnectionLoop e) n).log →
    (∀ k < n, (run files (h2ConnectionLoop e) k).ChunkTaken) → (run files (h2ConnectionLoop e) n).Speaks := by
  intro n
  induction n with
  | zero => intro _ _; exact enter_speaks e
  | succ n ih =>
    intro calm taken
    have succ : run files (h2ConnectionLoop e) (n + 1) = (run files (h2ConnectionLoop e) n).step files :=
      Function.iterate_succ_apply' _ _ _
    rw [succ] at calm ⊢
    have before : Calm (run files (h2ConnectionLoop e) n).log := calm.of_prefix (path_grows (step_path files _))
    exact step_speaks files (ih before fun k earlier => taken k (Nat.lt_succ_of_lt earlier))
      (taken n (Nat.lt_succ_self n)) calm

/-- Where no response is disturbed and the transport takes every chunk, the frames
    sent on a stream are HEADERS and DATA*, perhaps not all of them, with END_STREAM on
    the last one of a complete response alone, and RST_STREAM may cut them short once. -/
theorem output_lawful (files : List EmbeddedFile) (e : Entry) (n : Nat)
    (undisturbed : Always Undisturbed (run files (h2ConnectionLoop e) n).log)
    (taken : ∀ k < n, (run files (h2ConnectionLoop e) k).ChunkTaken) :
    ∀ id ≠ 0, Lawful (words id (run files (h2ConnectionLoop e) n).log) := by
  intro id proper
  exact phase_lawful ((run_speaks files e n ⟨undisturbed,served_once files e n⟩ taken).placed id proper)

/-- The page is asked for without credit, which comes an octet at a time. -/
def slowCredit : List UInt8 :=
  noCredit.encode ++ (getIndex 1).encode ++ (OutFrame.mk frameWindowUpdate 0 1 (octets 4 1)).encode ++
    (OutFrame.mk frameWindowUpdate 0 1 (octets 4 1)).encode

theorem output_lawful_slow : words 1 (run welcomeSite (h2ConnectionLoop (.client slowCredit)) 6).log =
      [.headers false,.data false,.data true] ∧
    Lawful (words 1 (run welcomeSite (h2ConnectionLoop (.client slowCredit)) 6).log) :=
  ⟨by decide +kernel,output_lawful welcomeSite (.client slowCredit) 6 (by decide +kernel) (by decide +kernel) 1
    (by decide)⟩

/-- The same without any credit: the client leaves while the page waits. -/
def noCreditLeft : List UInt8 := noCredit.encode ++ (getIndex 1).encode

/-- The response that has begun is answered with status 500. -/
theorem output_unlawful : ¬ Lawful (words 1 (run welcomeSite (h2ConnectionLoop (.client noCreditLeft)) 3).log) := by
  have said : words 1 (run welcomeSite (h2ConnectionLoop (.client noCreditLeft)) 3).log =
      [.headers false,.headers true] := by
    decide +kernel
  rw [said]
  intro lawful
  exact lawful.headers_first true (by simp)

end Sarm.H2
