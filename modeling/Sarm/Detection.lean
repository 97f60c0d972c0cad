import Sarm.Server
import Mathlib.Data.List.GetD
import Mathlib.Data.List.Infix

/-!
Which protocol a connection speaks. The read at accept time decides: a TLS
handshake record, octets that the HTTP/2 preface begins with, or anything else.
What is read later has no say.
-/
namespace Sarm.H2
open Sarm.Memory

/-- `BUF_SIZE`. -/
def bufSize : Nat := 16384

/-- `TLS_RECORD_HANDSHAKE`. -/
def tlsRecordHandshake : UInt8 := 0x16

inductive Protocol where
  | tls
  | http1
  | http2
  deriving DecidableEq, Repr

/-- The comparison from octet `i` on, `left` octets of it. -/
def probeLoop (buf : Mem) : Nat → Nat → Bool
  | 0, _ => true
  | left+1, i => if buf i = h2Preface.getD i 0 then probeLoop buf left (i + 1) else false

/-- Whether the octets there are begin the preface. No octets do not. -/
def h2Probe (buf : Mem) (count : Nat) : Bool :=
  if count = 0 then false else probeLoop buf (min count prefaceLen) 0

/-- `child_with_data` up to its probe, and `_main` before it. -/
def detectProtocol (buf : Mem) (count : Nat) : Protocol :=
  if buf 0 = tlsRecordHandshake then .tls else if h2Probe buf count then .http2 else .http1

/-- The read at accept time. A read that fails or brings nothing ends the connection. -/
def mainServe (old : Mem) : List ReadEvent → Option Protocol
  | .data first rest :: _ =>
    some (detectProtocol (blit old 0 (ofBytes (first :: rest)) (rest.length + 1)) (rest.length + 1))
  | _ => none

/-- The reads bring the octets of a stream, as many at a time as the buffer holds. -/
structure Splits (reads : List ReadEvent) (stream : List UInt8) : Prop where
  octets : arriving reads = stream
  each : ∀ r ∈ reads, ∃ first rest, r = .data first rest ∧ rest.length < bufSize

/-- What the octets of the first read come to. -/
def choice (octets : List UInt8) : Protocol :=
  if octets.head? = some tlsRecordHandshake then .tls
  else if octets.take prefaceLen <+: h2Preface then .http2 else .http1

theorem probeLoop_iff {buf : Mem} : ∀ (left i : Nat), i + left ≤ prefaceLen →
    (probeLoop buf left i = true ↔ slice buf i left = (h2Preface.drop i).take left) := by
  intro left
  induction left with
  | zero => intro i _; simp [probeLoop]
  | succ left ih =>
    intro i fits
    have inside : i < h2Preface.length := by
      have whole : h2Preface.length = 24 := by decide
      rw [prefaceLen] at fits
      omega
    rw [probeLoop,slice_succ,List.drop_eq_getElem_cons inside,List.take_succ_cons,List.cons.injEq,
      List.getD_eq_getElem _ _ inside]
    split
    · next same => rw [ih (i + 1) (by omega)]; simp [same]
    · next other => simp [other]

/-- The front of the buffer after a read into it. -/
theorem slice_read (old : Mem) (octets : List UInt8) {n : Nat} (fits : n ≤ octets.length) :
    slice (blit old 0 (ofBytes octets) octets.length) 0 n = octets.take n := by
  have whole : slice (blit old 0 (ofBytes octets) octets.length) 0 octets.length = octets := by
    rw [slice_blit_same,slice_ofBytes]
  have front : ((slice (blit old 0 (ofBytes octets) octets.length) 0 octets.length).drop 0).take n =
      slice (blit old 0 (ofBytes octets) octets.length) (0 + 0) n := slice_drop_take (by omega)
  rw [whole] at front
  exact front.symm

/-- The read is all that the choice depends on. -/
theorem mainServe_choice (old : Mem) (first : UInt8) (rest : List UInt8) (reads : List ReadEvent) :
    mainServe old (.data first rest :: reads) = some (choice (first :: rest)) := by
  have count : (first :: rest).length = rest.length + 1 := rfl
  have length : ((first :: rest).take prefaceLen).length = min (rest.length + 1) prefaceLen := by
    rw [List.length_take,count,Nat.min_comm]
  have head := slice_read old (first :: rest) (show 1 ≤ (first :: rest).length by omega)
  have read := slice_read old (first :: rest) (show min (rest.length + 1) prefaceLen ≤ (first :: rest).length by omega)
  have all : (first :: rest).take (min (rest.length + 1) prefaceLen) = (first :: rest).take prefaceLen := by
    rw [List.take_eq_take_iff]
    omega
  rw [all,count] at read
  rw [count,slice_succ,slice_zero] at head
  have start : blit old 0 (ofBytes (first :: rest)) (rest.length + 1) 0 = first := (List.cons.inj head).1
  have begins : probeLoop (blit old 0 (ofBytes (first :: rest)) (rest.length + 1))
    (min (rest.length + 1) prefaceLen) 0 = true ↔
      (first :: rest).take prefaceLen <+: h2Preface := by
    rw [probeLoop_iff _ _ (by omega),List.drop_zero,read,List.prefix_iff_eq_take,length]
  rw [mainServe,detectProtocol,choice,start,List.head?_cons,h2Probe,if_neg (Nat.succ_ne_zero _)]
  simp only [Option.some.injEq,begins]

/-! ### Fragmentation -/

/-- The first read of a stream takes some octets from its front. -/
theorem splits_first {reads : List ReadEvent} {stream : List UInt8} (splits : Splits reads stream)
    (nonempty : stream ≠ [])
    (old : Mem) : ∃ octets, octets ≠ [] ∧ octets <+: stream ∧ mainServe old reads = some (choice octets) := by
  obtain ⟨octets,each⟩ := splits
  cases reads with
  | nil => exact absurd octets.symm nonempty
  | cons read reads =>
    obtain ⟨first,rest,rfl,_⟩ := each read List.mem_cons_self
    exact ⟨first :: rest,by simp,⟨arriving reads,octets⟩,mainServe_choice old first rest reads⟩

/-- A stream in reads of one octet. -/
def singles (stream : List UInt8) : List ReadEvent := stream.map fun octet => .data octet []

theorem singles_splits (stream : List UInt8) : Splits (singles stream) stream := by
  refine ⟨?_,?_⟩
  · induction stream with
    | nil => rfl
    | cons octet rest ih => exact congrArg (octet :: ·) ih
  · intro read member
    obtain ⟨octet,_,rfl⟩ := List.mem_map.mp member
    exact ⟨octet,[],rfl,by decide⟩

/-- Octets in a read of their own, before reads of one octet. -/
theorem front_splits {first : UInt8} {rest : List UInt8} (fits : rest.length < bufSize) (behind : List UInt8) :
    Splits (.data first rest :: singles behind) (first :: rest ++ behind) := by
  obtain ⟨octets,each⟩ := singles_splits behind
  refine ⟨by rw [arriving,octets],?_⟩
  intro read member
  rcases List.mem_cons.mp member with rfl | later
  · exact ⟨first,rest,rfl,fits⟩
  · exact each read later

/-- The first octet of the preface. -/
def prefaceFirst : UInt8 := 'P'.toUInt8

/-- A stream whose first octets all tell the same. -/
def Telling (stream : List UInt8) : Prop := stream.head? ≠ some prefaceFirst ∨ stream.take prefaceLen <+: h2Preface

instance (stream : List UInt8) : Decidable (Telling stream) := inferInstanceAs (Decidable (_ ∨ _))

theorem preface_first {octets : List UInt8} (nonempty : octets ≠ []) (begins : octets.take prefaceLen <+: h2Preface) :
    octets.head? = some prefaceFirst := by
  cases octets with
  | nil => exact absurd rfl nonempty
  | cons first rest =>
    have whole : h2Preface = prefaceFirst :: h2Preface.tail := by decide
    rw [prefaceLen,List.take_succ_cons,whole,List.cons_prefix_cons] at begins
    rw [begins.1,List.head?_cons]

theorem telling_choice {stream octets : List UInt8} (telling : Telling stream) (nonempty : octets ≠ [])
    (front : octets <+: stream) :
    choice octets = choice stream := by
  have head : octets.head? = stream.head? := by
    obtain ⟨behind,rfl⟩ := front
    cases octets with
    | nil => exact absurd rfl nonempty
    | cons first rest => rfl
  have part : octets.take prefaceLen <+: stream.take prefaceLen := front.take prefaceLen
  have filled : stream ≠ [] := by
    rintro rfl
    exact nonempty (List.prefix_nil.mp front)
  rw [choice,choice,head]
  rcases telling with other | begins
  · have never : ∀ octets : List UInt8, octets ≠ [] → octets.head? = stream.head? →
      ¬ octets.take prefaceLen <+: h2Preface :=
      fun octets nonempty head begins => other (head ▸ preface_first nonempty begins)
    rw [if_neg (never octets nonempty head),if_neg (never stream filled rfl)]
  · rw [if_pos (part.trans begins),if_pos begins]

/-- The choice is the same for every way a stream comes in exactly when the stream
    does not begin as the preface does, or goes on as the preface does. -/
theorem choice_unfragmented (stream : List UInt8) :
    (∀ old old' reads reads', Splits reads stream → Splits reads' stream → mainServe old reads = mainServe old' reads') ↔
      Telling stream := by
  constructor
  · intro same
    by_contra untold
    rw [Telling,not_or,Classical.not_not] at untold
    obtain ⟨first,strays⟩ := untold
    cases stream with
    | nil => cases first
    | cons octet rest =>
      rw [List.head?_cons,Option.some.injEq] at first
      subst first
      have short : (rest.take 23).length < bufSize := by
        rw [List.length_take,bufSize]
        omega
      have front : Splits (.data prefaceFirst (rest.take 23) :: singles (rest.drop 23))
          (prefaceFirst :: rest.take 23 ++ rest.drop 23) := front_splits short _
      rw [List.cons_append,List.take_append_drop] at front
      have chosen := same (fun _ => 0) (fun _ => 0) _ _ (singles_splits (prefaceFirst :: rest)) front
      rw [singles,List.map_cons,mainServe_choice,mainServe_choice,Option.some.injEq] at chosen
      have early : choice [prefaceFirst] = .http2 := by decide
      have late : choice (prefaceFirst :: rest.take 23) = .http1 := by
        have whole : (prefaceFirst :: rest.take 23).take prefaceLen = (prefaceFirst :: rest).take prefaceLen := by
          rw [prefaceLen,List.take_succ_cons,List.take_succ_cons,List.take_take,Nat.min_self]
        rw [choice,if_neg (by rw [List.head?_cons]; decide),whole,if_neg strays]
      rw [early,late] at chosen
      contradiction
  · intro telling old old' reads reads' splits splits'
    by_cases nonempty : stream = []
    · subst nonempty
      have none : ∀ reads, Splits reads [] → reads = [] := by
        intro reads splits
        obtain ⟨octets,each⟩ := splits
        cases reads with
        | nil => rfl
        | cons read reads =>
          obtain ⟨first,rest,rfl,_⟩ := each read List.mem_cons_self
          cases octets
      rw [none reads splits,none reads' splits']
      rfl
    · obtain ⟨octets,some_,front,chosen⟩ := splits_first splits nonempty old
      obtain ⟨octets',some',front',chosen'⟩ := splits_first splits' nonempty old'
      rw [chosen,chosen',telling_choice telling some_ front,telling_choice telling some' front']

/-- A request of HTTP/1, a method that is answered with 501. -/
def postRequest : List UInt8 := Hpack.ascii "POST / HTTP/1.1\r\nHost: a\r\n\r\n"

/-- Read at once the request is HTTP/1. With its first octet in a read of its own it
    is HTTP/2, and the connection is closed without an answer. -/
theorem choice_fragmented :
    mainServe (fun _ => 0) [.data 'P'.toUInt8 postRequest.tail] = some .http1 ∧
      mainServe (fun _ => 0) [.data 'P'.toUInt8 [],.data 'O'.toUInt8 postRequest.tail.tail] = some .http2 ∧
      (h2ConnectionLoop { Entry.client [] with
        buf := ofBytes ['P'.toUInt8], buffered := 1, reads := [.data 'O'.toUInt8 postRequest.tail.tail] }).halted = true ∧
      (h2ConnectionLoop { Entry.client [] with
        buf := ofBytes ['P'.toUInt8], buffered := 1, reads :=
          [.data 'O'.toUInt8 postRequest.tail.tail] }).transport.wire = [] := by
  decide +kernel

end Sarm.H2
