import Sarm.Flushing

/-!
What the reads of a connection get: consecutive slices of what the socket brings, or of
what the peer has put into its records, wherever the socket and the peer cut it.
-/
namespace Sarm.H2

/-! ### Reading off a stream -/

/-- Consecutive slices of these lengths, as far as there is enough for them. -/
def slices : List Nat → List UInt8 → List (List UInt8)
  | [], _ => []
  | n :: ns, stream => if n ≤ stream.length then stream.take n :: slices ns (stream.drop n) else []

/-- The slices tile the front of the stream. -/
theorem slices_tile : ∀ (ns : List Nat) (stream : List UInt8), (slices ns stream).flatten <+: stream := by
  intro ns
  induction ns with
  | nil => intro stream; exact List.nil_prefix
  | cons n ns ih =>
    intro stream
    rw [slices]
    split
    · rw [List.flatten_cons]
      obtain ⟨rest,tiled⟩ := ih (stream.drop n)
      exact ⟨rest,by rw [List.append_assoc,tiled,List.take_append_drop]⟩
    · exact List.nil_prefix

/-- The lengths that the reads among these calls ask for. -/
def wanted : List Call → List Nat
  | [] => []
  | .read n :: calls => n :: wanted calls
  | _ :: calls => wanted calls

section
variable {σ : Type} (serve : σ → (c : Call) → σ × c.Result)

/-- What the reads among these calls get, up to one that fails. -/
def delivered : σ → List Call → List (List UInt8)
  | _, [] => []
  | t, .read n :: calls => match serve t (.read n) with
    | (_,none) => []
    | (t,some bytes) => bytes :: delivered t calls
  | t, c :: calls => delivered (serve t c).1 calls

/-- What is staged can be written wherever one of these calls reads. -/
def Flushes : σ → List Call → Prop
  | _, [] => True
  | t, .read n :: calls => (serve t .flush).2 = true ∧ Flushes (serve t (.read n)).1 calls
  | t, c :: calls => Flushes (serve t c).1 calls

/-- Reads take what they get off the front of a stream, and fail in front of its end only
    if something staged cannot be written. The other calls leave it as it is. -/
structure Streams (stream : σ → List UInt8) : Prop where
  got : ∀ t t' n bytes, serve t (.read n) = (t',some bytes) →
    n ≤ (stream t).length ∧ bytes = (stream t).take n ∧ stream t' = (stream t).drop n
  failed : ∀ t t' n, serve t (.read n) = (t',none) → n ≤ (stream t).length → (serve t .flush).2 = false
  wrote : ∀ t data, stream (serve t (.write data)).1 = stream t
  gathered : ∀ t header body, stream (serve t (.writev header body)).1 = stream t
  flushed : ∀ t, stream (serve t .flush).1 = stream t
  closed : ∀ t, stream (serve t .close).1 = stream t

variable {serve} {stream : σ → List UInt8}

theorem Streams.delivered_prefix (law : Streams serve stream) : ∀ (calls : List Call) (t : σ),
    delivered serve t calls <+: slices (wanted calls) (stream t) := by
  intro calls
  induction calls with
  | nil => intro t; exact List.nil_prefix
  | cons c calls ih =>
    intro t
    cases c with
    | read n =>
      rw [delivered,wanted,slices]
      cases read : serve t (.read n) with
      | mk t' result =>
        cases result with
        | none => exact List.nil_prefix
        | some bytes =>
          obtain ⟨enough,front,rest⟩ := law.got t t' n bytes read
          rw [if_pos enough,front,← rest]
          exact List.prefix_cons_inj _ |>.mpr (ih t')
    | write data => exact law.wrote t data ▸ ih _
    | writev header body => exact law.gathered t header body ▸ ih _
    | flush => exact law.flushed t ▸ ih _
    | close => exact law.closed t ▸ ih _

theorem Streams.delivered_all (law : Streams serve stream) : ∀ (calls : List Call) (t : σ), Flushes serve t calls →
    delivered serve t calls = slices (wanted calls) (stream t) := by
  intro calls
  induction calls with
  | nil => intro t _; rfl
  | cons c calls ih =>
    intro t writes
    cases c with
    | read n =>
      rw [delivered,wanted,slices]
      obtain ⟨flushed,later⟩ := writes
      cases read : serve t (.read n) with
      | mk t' result =>
        cases result with
        | none =>
          -- A read that fails has run into the end of the stream.
          have short : ¬ n ≤ (stream t).length := fun enough => by
            rw [law.failed t t' n read enough] at flushed
            cases flushed
          exact (if_neg short).symm
        | some bytes =>
          obtain ⟨enough,front,rest⟩ := law.got t t' n bytes read
          rw [read] at later
          rw [if_pos enough,front,← rest]
          exact congrArg _ (ih t' later)
    | write data => exact law.wrote t data ▸ ih _ writes
    | writev header body => exact law.gathered t header body ▸ ih _ writes
    | flush => exact law.flushed t ▸ ih _ writes
    | close => exact law.closed t ▸ ih _ writes

/-- Reads alone have nothing to write in front of them if nothing is staged at first. -/
theorem reads_flush {idle : σ → Prop} (kept : ∀ t n, idle t → idle (serve t (.read n)).1)
    (flushes : ∀ t, idle t → (serve t .flush).2 = true) : ∀ (ns : List Nat) (t : σ), idle t →
        Flushes serve t (ns.map .read) := by
  intro ns
  induction ns with
  | nil => intro t _; trivial
  | cons n ns ih => intro t start; exact ⟨flushes t start,ih _ (kept t n start)⟩

theorem wanted_reads : ∀ ns : List Nat, wanted (ns.map .read) = ns
  | [] => rfl
  | _ :: ns => congrArg _ (wanted_reads ns)

variable (serve stream)

/-- The reads among any calls get consecutive slices off the front of the stream, one
    behind the other, and all of them if the writes in between do not fail. -/
structure ReadsSlices (idle : σ → Prop) (t : σ) (calls : List Call) : Prop where
  front : delivered serve t calls <+: slices (wanted calls) (stream t)
  tiled : (delivered serve t calls).flatten <+: stream t
  all : Flushes serve t calls → delivered serve t calls = slices (wanted calls) (stream t)
  alone : idle t → ∀ ns : List Nat, delivered serve t (ns.map .read) = slices ns (stream t)

variable {serve stream}

theorem Streams.readsSlices (law : Streams serve stream) {idle : σ → Prop}
    (kept : ∀ t n, idle t → idle (serve t (.read n)).1)
    (flushes : ∀ t, idle t → (serve t .flush).2 = true) (t : σ) (calls : List Call) :
        ReadsSlices serve stream idle t calls := by
  have front := law.delivered_prefix calls t
  refine ⟨front,?_,law.delivered_all calls t,fun start ns => ?_⟩
  · obtain ⟨rest,whole⟩ := front
    refine List.IsPrefix.trans ?_ (slices_tile (wanted calls) (stream t))
    rw [← whole,List.flatten_append]
    exact List.prefix_append _ _
  · rw [law.delivered_all _ t (reads_flush kept flushes ns t start),wanted_reads]

end

/-! ### A plaintext connection -/

/-- The octets that the socket brings before it fails or ends. -/
def steady : List ReadEvent → List UInt8
  | .data first rest :: reads => first :: rest ++ steady reads
  | .interrupted :: reads => steady reads
  | _ => []

/-- What the reads of a plaintext connection are served from. -/
def Transport.stream (t : Transport) : List UInt8 := t.readStage ++ steady t.reads

theorem rawWriteAll_ok : ∀ (writes : List WriteEvent) (data : List UInt8) (t t' : Transport),
    (rawWriteAll writes data t).2 = (rawWriteAll writes data t').2 := by
  intro writes
  induction writes with
  | nil => intro data t t'; cases data <;> rfl
  | cons event writes ih =>
    intro data t t'
    cases data with
    | nil => rfl
    | cons octet data =>
      cases event with
      | accepted n => rw [rawWriteAll,rawWriteAll]; exact ih _ _ _
      | interrupted => rw [rawWriteAll,rawWriteAll]; exact ih _ _ _; all_goals simp
      | failed => rfl

theorem flush_ok (t : Transport) (stage : List UInt8) : (Transport.flush { t with readStage := stage }).2 =
    t.flush.2 := by
  rw [Transport.flush,Transport.flush]
  split
  · rfl
  · exact rawWriteAll_ok _ _ _ _

/-- What a read of `n` octets has to do behind those got before. -/
structure Slice (stream : List UInt8) (n : Nat) (got : List UInt8) (bytes : List UInt8) (left : List UInt8) : Prop where
  enough : n ≤ stream.length
  front : bytes = got ++ stream.take n
  rest : left = stream.drop n

/-- A stage used up before the rest is read. -/
theorem Slice.behind {stage stream got bytes left : List UInt8} {n : Nat} (short : stage.length ≤ n)
    (slice : Slice stream (n - stage.length) (got ++ stage) bytes left) : Slice (stage ++ stream) n got bytes left := by
  obtain ⟨enough,front,rest⟩ := slice
  refine ⟨?_,?_,?_⟩
  · rw [List.length_append]
    omega
  · rw [front,List.append_assoc,List.take_append,List.take_of_length_le short]
  · rw [rest,List.drop_append,List.drop_of_length_le short,List.nil_append]

theorem slice_staged {stage stream : List UInt8} {n : Nat} (got : List UInt8) (enough : n ≤ stage.length) :
    Slice (stage ++ stream) n got (got ++ stage.take n) (stage.drop n ++ stream) := by
  refine ⟨?_,?_,?_⟩
  · rw [List.length_append]
    omega
  · rw [List.take_append_of_le_length enough]
  · rw [List.drop_append_of_le_length enough]

theorem readLoop_slice : ∀ (reads : List ReadEvent) (wanted : Nat) (got : List UInt8) (t t' : Transport)
    (bytes : List UInt8),
    readLoop reads wanted got t = (t',some bytes) → Slice (t.readStage ++ steady reads) wanted got bytes t'.stream := by
  intro reads
  induction reads with
  | nil =>
    intro wanted got t t' bytes read
    rw [readLoop] at read
    split at read
    · next enough => cases read; exact slice_staged got enough
    · split at read <;> cases read
  | cons event reads ih =>
    intro wanted got t t' bytes read
    rw [readLoop] at read
    split at read
    · next enough => cases read; exact slice_staged got enough
    · next short =>
      have flushed := (flush_input { t with readStage := [] }).2
      split at read
      · cases read
      · next t₁ done =>
        rw [done] at flushed
        refine Slice.behind (Nat.le_of_not_le short) ?_
        cases event with
        | data first rest => exact ih _ _ _ _ _ read
        | interrupted =>
          have later := ih _ _ _ _ _ read
          rw [flushed] at later
          exact later
        | failed => cases read

/-- With an empty write stage a read fails only in front of the end. -/
theorem readLoop_short : ∀ (reads : List ReadEvent) (wanted : Nat) (got : List UInt8)
    (t t' : Transport), t.flush.2 = true →
    readLoop reads wanted got t = (t',none) → (t.readStage ++ steady reads).length < wanted := by
  intro reads
  induction reads with
  | nil =>
    intro wanted got t t' flushes read
    rw [readLoop] at read
    split at read
    · cases read
    · rw [show steady [] = [] from rfl,List.append_nil]
      omega
  | cons event reads ih =>
    intro wanted got t t' flushes read
    rw [readLoop] at read
    split at read
    · cases read
    · next short =>
      have flushed := (flush_input { t with readStage := [] }).2
      have empty := flush_empty { t with readStage := [] }
      rw [← flush_ok t []] at flushes
      split at read
      · next t₁ failed =>
        rw [failed] at flushes
        cases flushes
      · next t₁ done =>
        rw [done] at flushed empty
        rw [List.length_append]
        cases event with
        | data first rest =>
          have later := ih _ _ { t₁ with readStage := first :: rest } _ (by rw [Transport.flush,if_pos empty]) read
          rw [List.length_append] at later
          rw [steady,List.length_append]
          dsimp only at later
          omega
        | interrupted =>
          have later := ih _ _ _ _ (by rw [Transport.flush,if_pos empty]) read
          rw [flushed] at later
          dsimp only [List.nil_append] at later
          rw [steady]
          omega
        | failed =>
          rw [steady]
          · rw [List.length_nil]
            omega
          · rintro _ _ _ ⟨⟩
          · rintro _ ⟨⟩

/-- Reading stages nothing for writing. -/
theorem readLoop_idle : ∀ (reads : List ReadEvent) (wanted : Nat) (got : List UInt8) (t : Transport), t.writeStage = [] →
    (readLoop reads wanted got t).1.writeStage = [] := by
  intro reads
  induction reads with
  | nil =>
    intro wanted got t start
    have flushes : Transport.flush { t with readStage := [] } = ({ t with readStage := [] },true) := if_pos start
    rw [readLoop,flushes]
    split <;> exact start
  | cons event reads ih =>
    intro wanted got t start
    have flushes : Transport.flush { t with readStage := [] } = ({ t with readStage := [] },true) := if_pos start
    rw [readLoop,flushes]
    split
    · exact start
    · cases event with
      | data first rest => exact ih _ _ _ start
      | interrupted => exact ih _ _ _ start
      | failed => exact start

theorem SameInput.stream {t t' : Transport} (same : SameInput t t') : t'.stream = t.stream := by
  rw [Transport.stream,Transport.stream,same.1,same.2]

theorem serve_streams : Streams Transport.serve Transport.stream where
  got t t' n bytes read := by
    obtain ⟨enough,front,rest⟩ := readLoop_slice _ _ _ _ _ _ read
    exact ⟨enough,front,rest⟩
  failed t t' n read enough := by
    cases flushes : t.flush.2 with
    | false => exact flushes
    | true => exact absurd (readLoop_short _ _ _ _ _ flushes read) (Nat.not_lt.mpr enough)
  wrote t data := (write_input t data).stream
  gathered t header body := (writev_input t header body).stream
  flushed t := (flush_input t).stream
  closed t := (flush_input t).stream

end Sarm.H2

namespace Sarm.Tls
open Sarm.Memory Sarm.Gcm
open Sarm.H2 (ReadEvent arriving steady Streams ReadsSlices Slice slice_staged Call)

/-! ### An encrypted connection -/

/-- The record in front of these octets, if it is whole and of application data. -/
def firstRecord (octets : List UInt8) : Option (List UInt8) :=
  let w9 := be16 (ofBytes (octets.take 5)) 3
  if octets.length < 5 ∨ 16448 < w9 + 5 ∨ octets.length < w9 + 5 then none
  else match tls_record_parse (ofBytes (octets.take (w9 + 5))) 0 (w9 + 5) with
    | .error _ => none
    | .ok parsed => if parsed.type = applicationData then some (octets.take (w9 + 5)) else none

theorem firstRecord_front {octets record : List UInt8} (first : firstRecord octets = some record) :
    5 ≤ record.length ∧ record.length ≤ octets.length ∧ record = octets.take record.length := by
  rw [firstRecord] at first
  split at first
  · cases first
  · next there =>
    have count : (octets.take (be16 (ofBytes (octets.take 5)) 3 + 5)).length = be16 (ofBytes (octets.take 5)) 3 + 5 :=
      List.length_take_of_le (by omega)
    split at first
    · cases first
    · split at first <;> cases first
      rw [count]
      refine ⟨?_,?_,rfl⟩ <;> omega

/-- What records are opened to, one behind the other, up to one that is not opened. -/
def plaintext (e : Epoch) (seq : BitVec 64) (octets : List UInt8) : List UInt8 :=
  match _ : firstRecord octets with
  | none => []
  | some record => match e.open seq record with
    | none => []
    | some (content,type) => if type = applicationData then content ++ plaintext e (seq + 1)
      (octets.drop record.length) else []
termination_by octets.length
decreasing_by
  have := firstRecord_front ‹_›
  rw [List.length_drop]
  omega

section
variable {e : Epoch} {seq : BitVec 64} {octets record : List UInt8}

theorem plaintext_none (first : firstRecord octets = none) : plaintext e seq octets = [] := by
  rw [plaintext]
  split
  · rfl
  · next read => exact absurd (first.symm.trans read) nofun

theorem plaintext_some (first : firstRecord octets = some record) :
    plaintext e seq octets = match e.open seq record with
      | none => []
      | some (content,type) => if type = applicationData then content ++ plaintext e (seq + 1)
          (octets.drop record.length) else [] := by
  rw [plaintext]
  split
  · next read => exact absurd (first.symm.trans read) nofun
  · next read =>
    cases first.symm.trans read
    rfl

end

/-- What the reads of an encrypted connection are served from. -/
def Transport.stream (k : Keys) (t : Transport) : List UInt8 :=
    t.readStage ++ plaintext k.client t.clientSeq (steady t.reads)

/-! ### Records of the peer -/

/-- A fragment of application data, with the padding that hides its length. -/
structure Fragment where
  content : List UInt8
  padding : Nat
  fits : content.length + padding ≤ maxPlaintext

/-- `TLSInnerPlaintext`. -/
def Fragment.inner (f : Fragment) : List UInt8 := innerPlaintext f.content applicationData f.padding

/-- The record that a peer makes of a fragment. -/
def Fragment.record (e : Epoch) (seq : BitVec 64) (f : Fragment) : List UInt8 := protect e.ciph e.iv seq f.inner

/-- The records of fragments, one behind the other. -/
def records (e : Epoch) : BitVec 64 → List Fragment → List UInt8
  | _, [] => []
  | seq, f :: fragments => f.record e seq ++ records e (seq + 1) fragments

section
variable (e : Epoch) (seq : BitVec 64) (f : Fragment)

theorem inner_length : f.inner.length = f.content.length + 1 + f.padding := innerPlaintext_length _ _ _

theorem inner_fits : f.inner.length ≤ 16385 := by
  have fits := f.fits
  rw [maxPlaintext] at fits
  rw [inner_length]
  omega

theorem record_length : (f.record e seq).length = f.inner.length + 21 := protect_length _ _ _ _

theorem record_held : slice (ofBytes (f.record e seq)) 0 (f.inner.length + 21) = protect e.ciph e.iv seq f.inner := by
  rw [← record_length e seq]
  exact slice_ofBytes _

theorem record_field : be16 (ofBytes (f.record e seq)) 3 = f.inner.length + 16 := by
  have fits := inner_fits f
  exact protect_length_field (record_held e seq f) (by omega)

theorem firstRecord_record (tail : List UInt8) : firstRecord (f.record e seq ++ tail) = some (f.record e seq) := by
  have fits := inner_fits f
  have width := record_length e seq f
  have field : be16 (ofBytes ((f.record e seq ++ tail).take 5)) 3 = f.inner.length + 16 := by
    rw [List.take_append_of_le_length (show 5 ≤ (f.record e seq).length by omega),← record_field e seq f]
    rw [be16,be16]
    simp only [ofBytes,List.getD_eq_getElem?_getD,List.getElem?_take]
    rfl
  rw [firstRecord,field]
  have whole : (f.record e seq ++ tail).take (f.inner.length + 16 + 5) = f.record e seq := by
    rw [show f.inner.length + 16 + 5 = (f.record e seq).length by omega]
    exact List.take_left
  have room : ¬ ((f.record e seq ++ tail).length < 5 ∨ 16448 < f.inner.length + 16 + 5 ∨
      (f.record e seq ++ tail).length < f.inner.length + 16 + 5) := by
    rw [List.length_append]
    omega
  rw [if_neg room,whole,parse_protect (record_held e seq f) (by rw [maxCiphertext]; omega)
    (Nat.le_refl (f.inner.length + 21))]
  rfl

theorem open_record : e.open seq (f.record e seq) = some (f.content,applicationData) := by
  have fits := inner_fits f
  have width := record_length e seq f
  have count := inner_length f
  rw [Epoch.open,record_field]
  dsimp only
  rw [if_neg (by rw [maxAead,width]; omega),Nat.add_sub_cancel]
  obtain ⟨text,tag⟩ := encrypt_length e.ciph (recordNonce e.iv seq) (protectedHeader f.inner) f.inner
  have opens := decrypt_encrypt e.ciph (recordNonce e.iv seq) (protectedHeader f.inner) f.inner
  have parts : f.record e seq =
    protectedHeader f.inner ++ (encrypt e.ciph (recordNonce e.iv seq) (protectedHeader f.inner) f.inner).1 ++
      (encrypt e.ciph (recordNonce e.iv seq) (protectedHeader f.inner) f.inner).2 := rfl
  generalize encrypt e.ciph (recordNonce e.iv seq) (protectedHeader f.inner) f.inner = sealed at text tag opens parts
  have header : (f.record e seq).take 5 = protectedHeader f.inner := by
    rw [parts,List.append_assoc]
    exact List.take_left' rfl
  have middle : ((f.record e seq).drop 5).take f.inner.length = sealed.1 := by
    rw [parts,List.append_assoc,List.drop_left' (i := 5) (protectedHeader_length _)]
    exact List.take_left' text
  have last : ((f.record e seq).drop (5 + f.inner.length)).take 16 = sealed.2 := by
    rw [parts,List.drop_left' (by rw [List.length_append,text]; rfl)]
    exact List.take_of_length_le tag.le
  rw [header,middle,last,opens]
  have held : slice (ofBytes f.inner) 0 (f.content.length + 1 + f.padding) =
      innerPlaintext f.content applicationData f.padding := by
    rw [← inner_length]
    exact slice_ofBytes _
  dsimp only
  rw [inner_length,(innerType_inner (by decide) held).1]
  dsimp only
  rw [Fragment.inner,innerPlaintext,List.take_left]

end

theorem plaintext_records (e : Epoch) (tail : List UInt8) : ∀ (fragments : List Fragment) (seq : BitVec 64),
    plaintext e seq (records e seq fragments ++ tail) =
      (fragments.map Fragment.content).flatten ++ plaintext e (seq + BitVec.ofNat 64 fragments.length) tail := by
  intro fragments
  induction fragments with
  | nil => intro seq; rw [records,List.nil_append,List.length_nil,BitVec.add_zero]; rfl
  | cons f fragments ih =>
    intro seq
    rw [records,List.append_assoc,plaintext_some (firstRecord_record e seq f _),open_record]
    dsimp only
    rw [if_pos rfl,List.drop_left,ih,List.map_cons,List.flatten_cons,List.append_assoc,List.length_cons,BitVec.add_assoc]
    congr 3
    rw [Nat.add_comm,BitVec.ofNat_add]
    rfl

/-! ### Records off the socket -/

/-- What a read of exactly so many octets does to what arrives. -/
def Exactly (reads : List ReadEvent) (wanted : Nat) (got : List UInt8) : List ReadEvent × Option (List UInt8) × Nat → Prop
  | (reads',some bytes,_) => Slice (steady reads) wanted got bytes (steady reads')
  | (_,none,_) => (steady reads).length < wanted

theorem rawReadExact_exactly : ∀ (reads : List ReadEvent) (wanted : Nat) (got : List UInt8),
    Exactly reads wanted got (rawReadExact reads wanted got) := by
  intro reads
  induction reads with
  | nil =>
    intro wanted got
    cases wanted with
    | zero => exact ⟨Nat.zero_le _,(List.append_nil got).symm,rfl⟩
    | succ wanted => exact Nat.succ_pos _
  | cons event reads ih =>
    intro wanted got
    cases wanted with
    | zero => rw [rawReadExact]; exact ⟨Nat.zero_le _,(List.append_nil got).symm,rfl⟩
    | succ wanted =>
      rw [rawReadExact.eq_def]
      cases event with
      | failed => exact Nat.succ_pos _
      | interrupted =>
        have later := ih (wanted + 1) got
        dsimp only
        generalize rawReadExact reads (wanted + 1) got = result at later ⊢
        obtain ⟨reads',result,times⟩ := result
        cases result <;> exact later
      | data first rest =>
        dsimp only
        split
        · next whole =>
          have later := ih (wanted - rest.length) (got ++ first :: rest)
          have left : wanted + 1 - (first :: rest).length = wanted - rest.length := by
            rw [List.length_cons]
            omega
          rw [← left] at later ⊢
          cases more : rawReadExact reads (wanted + 1 - (first :: rest).length) (got ++ first :: rest) with
          | mk reads' result =>
            rw [more] at later
            obtain ⟨result,times⟩ := result
            cases result with
            | none =>
              rw [Exactly] at later ⊢
              rw [steady,List.length_append]
              omega
            | some bytes => exact Slice.behind (by rw [List.length_cons]; omega) later
        · next part =>
          have staged := @slice_staged (first :: rest) (steady reads) (wanted + 1) got (by rw [List.length_cons]; omega)
          have count : (rest.drop wanted).length = rest.length - wanted := List.length_drop ..
          cases dropped : rest.drop wanted with
          | nil =>
            rw [dropped,List.length_nil] at count
            omega
          | cons next left =>
            rw [List.drop_succ_cons,dropped] at staged
            exact staged

/-- What a record that is read does to what arrives. -/
def Record (reads : List ReadEvent) : List ReadEvent × Option (List UInt8) × Nat → Prop
  | (reads',some record,_) => firstRecord (steady reads) = some record ∧ steady reads' = (steady reads).drop record.length
  | (_,none,_) => firstRecord (steady reads) = none

theorem readRecord_first (reads : List ReadEvent) : Record reads (readRecord reads) := by
  rw [readRecord]
  have header := rawReadExact_exactly reads 5 []
  cases read : rawReadExact reads 5 [] with
  | mk reads₁ result =>
    rw [read] at header
    obtain ⟨result,times₁⟩ := result
    cases result with
    | none => exact if_pos (.inl header)
    | some bytes =>
      obtain ⟨five,rfl,rest₁⟩ := header
      rw [List.nil_append]
      dsimp only
      generalize length : be16 (ofBytes ((steady reads).take 5)) 3 = w9
      split
      · next long => exact if_pos (.inr (.inl (by rw [length]; exact long)))
      · next fits =>
        have fragment := rawReadExact_exactly reads₁ w9 []
        cases read₂ : rawReadExact reads₁ w9 [] with
        | mk reads₂ result =>
          rw [read₂] at fragment
          obtain ⟨result,times₂⟩ := result
          cases result with
          | none =>
            rw [Exactly,rest₁,List.length_drop] at fragment
            refine if_pos (.inr (.inr ?_))
            rw [length]
            omega
          | some bytes =>
            obtain ⟨there,rfl,rest₂⟩ := fragment
            rw [rest₁,List.length_drop] at there
            have whole : (steady reads).take 5 ++ ([] ++ (steady reads₁).take w9) = (steady reads).take (w9 + 5) := by
              rw [List.nil_append,rest₁,Nat.add_comm,List.take_add]
            have count : ((steady reads).take (w9 + 5)).length = w9 + 5 := List.length_take_of_le (by omega)
            dsimp only
            rw [whole]
            have same : firstRecord (steady reads) =
                match tls_record_parse (ofBytes ((steady reads).take (w9 + 5))) 0 (w9 + 5) with
                | .error _ => none
                | .ok parsed => if parsed.type = applicationData then some ((steady reads).take (w9 + 5)) else none := by
              rw [firstRecord,length]
              exact if_neg (by omega)
            cases parse : tls_record_parse (ofBytes ((steady reads).take (w9 + 5))) 0 (w9 + 5) with
            | error e =>
              rw [parse] at same
              exact same
            | ok parsed =>
              rw [parse] at same
              dsimp only at same ⊢
              by_cases data : parsed.type = applicationData
              · rw [if_pos data] at same ⊢
                refine ⟨same,?_⟩
                rw [count,rest₂,rest₁,List.drop_drop]
                congr 1
                omega
              · rw [if_neg data] at same ⊢
                exact same

/-! ### The reads -/

theorem flush_done {now : Sealed → List UInt8 → Sealed × Bool} {w w' : Staging.Stage Sealed} {done : Bool}
    (flushed : w.flush now = (w',done)) : w'.flush now = (w',true) := by
  have empty : w'.len = 0 := by
    rw [Staging.Stage.flush] at flushed
    split at flushed
    · cases flushed
      assumption
    · exact congrArg (fun r : _ × Bool => r.1.len) flushed.symm
  exact if_pos empty

section
variable (k : Keys)

/-- What a read does to a stream: it gets its slice, or the stream is too short for it
    if what is staged can be written. -/
def Served (stream : List UInt8) (wanted : Nat) (got : List UInt8) (flushes : Bool) :
    Transport × Option (List UInt8) → Prop
  | (t',some bytes) => Slice stream wanted got bytes (t'.stream k)
  | (_,none) => flushes = true → stream.length < wanted

theorem readLoop_served (wanted : Nat) (got : List UInt8) (t : Transport) :
    Served k (t.stream k) wanted got (t.stage.flush (writeRecords k.server)).2 (t.readLoop k wanted got).1 := by
  have first := readRecord_first t.reads
  fun_induction Transport.readLoop k wanted got t with
  | case1 wanted got t enough => exact slice_staged got enough
  | case2 wanted got t short stage failed =>
    intro flushes
    rw [failed] at flushes
    cases flushes
  | case3 wanted got t short stage done reads times read =>
    -- The socket has ended, or what it brings is no record.
    intro _
    rw [read] at first
    rw [Transport.stream,plaintext_none first,List.append_nil]
    exact Nat.not_le.mp short
  | case4 wanted got t short stage done reads record times read _ refused =>
    intro _
    rw [read] at first
    rw [Transport.stream,plaintext_some first.1,refused,List.append_nil]
    exact Nat.not_le.mp short
  | case5 wanted got t short stage done reads record times read t' content result waits more opened ih =>
    rw [read] at first
    obtain ⟨first,rest⟩ := first
    have later := ih (readRecord_first _)
    rw [more] at later
    have all : t.stream k = t.readStage ++ Transport.stream k { t' with readStage := content } := by
      rw [Transport.stream,plaintext_some first,opened,Transport.stream]
      dsimp only
      rw [if_pos rfl,rest]
    rw [all]
    obtain ⟨t₁,result⟩ := result
    cases result with
    | none =>
      intro _
      have few := later (congrArg Prod.snd (flush_done done))
      rw [List.length_append]
      omega
    | some bytes => exact Slice.behind (Nat.le_of_not_le short) later
  | case6 wanted got t short stage done reads record times read _ content type opened other =>
    intro _
    rw [read] at first
    rw [Transport.stream,plaintext_some first.1,opened]
    dsimp only
    rw [if_neg other,List.append_nil]
    exact Nat.not_le.mp short

variable {k}

theorem serve_streams : Streams (Transport.serve k) (Transport.stream k) where
  got t t' n bytes read := by
    have served := readLoop_served k n [] t
    rw [show (t.readLoop k n []).1 = (t',some bytes) from read] at served
    exact ⟨served.enough,served.front,served.rest⟩
  failed t t' n read enough := by
    have served := readLoop_served k n [] t
    rw [show (t.readLoop k n []).1 = (t',none) from read] at served
    cases flushes : (t.stage.flush (writeRecords k.server)).2 with
    | false => exact flushes
    | true => exact absurd (served flushes) (Nat.not_lt.mpr enough)
  wrote t data := rfl
  gathered t header body := rfl
  flushed t := rfl
  closed t := rfl

theorem readLoop_idle (wanted : Nat) (got : List UInt8) (t : Transport) (start : t.stage.len = 0) :
    (t.readLoop k wanted got).1.1.stage.len = 0 := by
  have flushes : t.stage.flush (writeRecords k.server) = (t.stage,true) := if_pos start
  fun_induction Transport.readLoop k wanted got t with
  | case1 => exact start
  | case2 wanted got t short stage failed => cases flushes.symm.trans failed
  | case3 wanted got t short stage done reads times read => cases flushes.symm.trans done; exact start
  | case4 wanted got t short stage done reads record times read _ refused => cases flushes.symm.trans done; exact start
  | case5 wanted got t short stage done reads record times read t' content result waits more opened ih =>
    cases flushes.symm.trans done
    rw [more] at ih
    exact ih start flushes
  | case6 wanted got t short stage done reads record times read _ content type opened other =>
    cases flushes.symm.trans done
    exact start

end

/-! ### The law -/

/-- Both transports give their reads consecutive slices of a stream: of what the socket
    brings before it fails or ends, however it is cut, and of the content of the records
    that arrive, however the peer has cut it. -/
theorem reads_deliver (k : Keys) :
    (∀ (t : H2.Transport) (calls : List Call),
      ReadsSlices H2.Transport.serve H2.Transport.stream (fun t => t.writeStage = []) t calls) ∧
    (∀ (t : Transport) (calls : List Call),
      ReadsSlices (Transport.serve k) (Transport.stream k) (fun t => t.stage.len = 0) t calls) ∧
    ∀ (seq : BitVec 64) (fragments : List Fragment) (tail : List UInt8),
      plaintext k.client seq (records k.client seq fragments ++ tail) =
        (fragments.map Fragment.content).flatten ++ plaintext k.client (seq + BitVec.ofNat 64 fragments.length) tail := by
  refine ⟨fun t calls => ?_,fun t calls => ?_,fun seq fragments tail => plaintext_records k.client tail fragments seq⟩
  · exact H2.serve_streams.readsSlices (fun t n start => H2.readLoop_idle _ n [] t start)
      (fun t start => congrArg Prod.snd (if_pos start)) t calls
  · exact serve_streams.readsSlices (fun t n start => readLoop_idle n [] t start)
      (fun t start => congrArg Prod.snd
        (show t.stage.flush (writeRecords k.server) = (t.stage,true) from if_pos start)) t calls

end Sarm.Tls
