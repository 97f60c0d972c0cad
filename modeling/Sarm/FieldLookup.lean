import Sarm.KeepAlive
import Sarm.Strings
import Sarm.Watch

/-!
The lookup of a header field with all that it reads: the octets of the header, those of
the field's name, and the blocks in which the two are compared. It comes to what the lookup
on the header's octets comes to, reads nothing but the header and the name, and gives up
only for a line that is no proper one.
-/
namespace Sarm.Strings.Watched
open Sarm.Memory Sarm.Neon Sarm.Watch
open Sarm.H2 (foldCase)

/-- Octets that are read: so many from an address on. -/
structure Span where
  start : Nat
  count : Nat
  deriving DecidableEq, Repr

abbrev ReadM := Noting Span Empty Unit

def load (a n : Nat) : ReadM Unit := note fun _ => ⟨a,n⟩

variable (m : Mem)

def streqnIBytes : Nat → Nat → Nat → ReadM Bool
  | 0, _, _ => pure true
  | left+1, a, b => do
    load a 1
    load b 1
    if m a = 0 ∧ m b = 0 then pure true
    else if m a = 0 then pure false
    else if m b = 0 then pure false
    else if foldCase (m a) ≠ foldCase (m b) then pure false
    else streqnIBytes left (a + 1) (b + 1)

def streqnIBlocks (left a b : Nat) : ReadM Bool :=
  if left < 16 then streqnIBytes m left a b
  else do
    load a 16
    load b 16
    let stop := stopsI (ld1 m a) (ld1 m b)
    if lo stop ||| hi stop ≠ 0 then streqnIBytes m left a b
    else if left - 16 = 0 then pure true
    else streqnIBlocks (left - 16) (a + 16) (b + 16)
termination_by left

/-- `streqn_i`, with what it reads. -/
def streqnI (a b n : Nat) : ReadM Bool :=
  if n = 0 then pure true
  else if n < 16 then streqnIBytes m n a b
  else streqnIBlocks m n a b

variable {m : Mem} {Ok : Span → Prop} {s : Unit}

theorem streqnIBytes_does : ∀ (left a b : Nat), (∀ i < left, Ok ⟨a + i,1⟩ ∧ Ok ⟨b + i,1⟩) →
    Does Ok (fun _ _ => True) (streqnIBytes m left a b) (pure (Strings.streqnIBytes m left a b)) s := by
  intro left
  induction left with
  | zero => intro a b _; exact pure_does trivial
  | succ left ih =>
    intro a b each
    have first := each 0 (Nat.succ_pos left)
    rw [streqnIBytes,Strings.streqnIBytes]
    refine note_does first.1 (note_does first.2 ?_)
    split
    · exact pure_does trivial
    split
    · exact pure_does trivial
    split
    · exact pure_does trivial
    split
    · exact pure_does trivial
    · refine ih (a + 1) (b + 1) fun i inside => ?_
      rw [Nat.add_right_comm,Nat.add_right_comm b]
      exact each (i + 1) (Nat.succ_lt_succ inside)

theorem streqnIBlocks_does (left a b : Nat) (each : ∀ i n, i + n ≤ left → Ok ⟨a + i,n⟩ ∧ Ok ⟨b + i,n⟩) :
    Does Ok (fun _ _ => True) (streqnIBlocks m left a b) (pure (Strings.streqnIBlocks m left a b)) s := by
  have bytes : Does Ok (fun _ _ => True) (streqnIBytes m left a b) (pure (Strings.streqnIBytes m left a b)) s :=
    streqnIBytes_does left a b fun i inside => each i 1 inside
  induction left using Nat.strong_induction_on generalizing a b with
  | _ left ih =>
    rw [streqnIBlocks,Strings.streqnIBlocks]
    split
    · exact bytes
    have block := each 0 16 (by omega)
    refine note_does block.1 (note_does block.2 ?_)
    dsimp only
    split
    · exact bytes
    split
    · exact pure_does trivial
    · have later : ∀ i n, i + n ≤ left - 16 → Ok ⟨a + 16 + i,n⟩ ∧ Ok ⟨b + 16 + i,n⟩ := by
        intro i n inside
        rw [Nat.add_assoc,Nat.add_assoc]
        exact each (16 + i) n (by omega)
      exact ih (left - 16) (by omega) _ _ later (streqnIBytes_does _ _ _ fun i inside => later i 1 inside)

/-- The comparison reads nothing but the two strings. -/
theorem streqnI_does (a b n : Nat) (each : ∀ i k, i + k ≤ n → Ok ⟨a + i,k⟩ ∧ Ok ⟨b + i,k⟩) :
    Does Ok (fun _ _ => True) (streqnI m a b n) (pure (Strings.streqnI m a b n)) s := by
  rw [streqnI,Strings.streqnI]
  split
  · exact pure_does trivial
  split
  · exact streqnIBytes_does n a b fun i inside => each i 1 inside
  · exact streqnIBlocks_does n a b each

end Sarm.Strings.Watched

namespace Sarm.Http1
open Sarm.Memory Sarm.Watch Sarm.H2
open Sarm.Strings.Watched (Span ReadM load)
open Sarm.Hpack (ascii)

/-- The value is given by its address. -/
def FieldReply.based (base : Nat) : FieldReply → FieldReply
  | .found start remaining => .found (base + start) remaining
  | reply => reply

namespace Watched
variable (m : Mem) (x19 x20 : Nat)

/-- `ghf_skip_ws`, with the index in front of the next octet. -/
def skipBlanks (x21 : Nat) : ReadM FieldReply :=
  if _inside : x20 ≤ x21 + 1 then pure (.status 400)
  else do
    load (x19 + (x21 + 1)) 1
    if m (x19 + (x21 + 1)) = ' '.toUInt8 ∨ m (x19 + (x21 + 1)) = '\t'.toUInt8 then skipBlanks (x21 + 1)
    else pure (.found (x19 + (x21 + 1)) (x20 - (x21 + 1)))
termination_by x20 - x21

/-- Behind the name, at an index. -/
def fieldValue (x21 : Nat) : ReadM FieldReply :=
  if x20 ≤ x21 then pure (.status 400)
  else do
    load (x19 + x21) 1
    if m (x19 + x21) = ':'.toUInt8 then skipBlanks m x19 x20 x21 else pure (.status 400)

/-- `ghf_scan`. -/
def scanField (x23 x24 x21 : Nat) : ReadM FieldReply :=
  if _inside : x20 ≤ x21 then pure .absent
  else do
    load (x19 + x21) 1
    if m (x19 + x21) = '\r'.toUInt8 then
      if x20 ≤ x21 + 1 then pure .absent
      else do
        load (x19 + (x21 + 1)) 1
        if m (x19 + (x21 + 1)) = '\n'.toUInt8 then
          if x20 ≤ x21 + 2 then pure .absent
          else do
            load (x19 + (x21 + 2)) 1
            if m (x19 + (x21 + 2)) = ' '.toUInt8 ∨ m (x19 + (x21 + 2)) = '\t'.toUInt8 then pure (.status 400)
            else if x20 - (x21 + 2) < x24 then pure .absent
            else do
              let same ← Strings.Watched.streqnI m (x19 + (x21 + 2)) x23 x24
              if same then fieldValue m x19 x20 (x21 + 2 + x24)
              else scanField x23 x24 (x21 + 3)
        else scanField x23 x24 (x21 + 1)
    else scanField x23 x24 (x21 + 1)
termination_by x20 - x21

/-- `get_header_field`, with what it reads. -/
def getHeaderField (x0 x1 x2 x3 : Nat) : ReadM FieldReply := scanField m x0 x1 x2 x3 0

/-! ### Against the lookup on the octets -/

/-- Inside the header, or inside the name. -/
def Inside (x0 x1 x2 x3 : Nat) (t : Span) : Prop :=
  (x0 ≤ t.start ∧ t.start + t.count ≤ x0 + x1) ∨ (x2 ≤ t.start ∧ t.start + t.count ≤ x2 + x3)

variable {m : Mem} {x0 x1 x2 x3 : Nat} {s : Unit}

theorem head_inside {i n : Nat} (inside : i + n ≤ x1) : Inside x0 x1 x2 x3 ⟨x0 + i,n⟩ :=
  .inl ⟨Nat.le_add_right x0 i,by dsimp only; omega⟩

theorem name_inside {i n : Nat} (inside : i + n ≤ x3) : Inside x0 x1 x2 x3 ⟨x2 + i,n⟩ :=
  .inr ⟨Nat.le_add_right x2 i,by dsimp only; omega⟩

theorem skipBlanks_does : ∀ (left i : Nat), i + 1 + left = x1 →
    Does (Inside x0 x1 x2 x3) (fun _ _ => True) (skipBlanks m x0 x1 i)
      (pure ((Http1.skipBlanks (shift m x0) left i).based x0)) s := by
  intro left
  induction left with
  | zero =>
    intro i whole
    rw [skipBlanks,dif_pos (by omega)]
    exact pure_does trivial
  | succ left ih =>
    intro i whole
    rw [skipBlanks,dif_neg (by omega),Http1.skipBlanks]
    refine note_does (head_inside (by omega)) ?_
    by_cases blank : m (x0 + (i + 1)) = ' '.toUInt8 ∨ m (x0 + (i + 1)) = '\t'.toUInt8
    · rw [if_pos blank,if_pos (show shift m x0 (i + 1) = _ ∨ shift m x0 (i + 1) = _ from blank)]
      exact ih (i + 1) (by omega)
    · rw [if_neg blank,if_neg (show ¬(shift m x0 (i + 1) = _ ∨ shift m x0 (i + 1) = _) from blank),
        show x1 - (i + 1) = left + 1 by omega]
      exact pure_does trivial

theorem fieldValue_does (left i : Nat) (whole : i + left = x1) :
    Does (Inside x0 x1 x2 x3) (fun _ _ => True) (fieldValue m x0 x1 i)
      (pure ((Http1.fieldValue (shift m x0) left i).based x0)) s := by
  rw [fieldValue]
  cases left with
  | zero =>
    rw [if_pos (by omega)]
    exact pure_does trivial
  | succ left =>
    rw [if_neg (by omega),Http1.fieldValue]
    refine note_does (head_inside (by omega)) ?_
    by_cases colon : m (x0 + i) = ':'.toUInt8
    · rw [if_pos colon,if_pos (show shift m x0 i = _ from colon)]
      exact skipBlanks_does left i (by omega)
    · rw [if_neg colon,if_neg (show ¬shift m x0 i = _ from colon)]
      exact pure_does trivial

/-- The comparison at a line is that of the lists. -/
theorem streqnI_line {i : Nat} (room : i + x3 ≤ x1) :
    Does (Inside x0 x1 x2 x3) (fun _ _ => True) (Strings.Watched.streqnI m (x0 + i) x2 x3)
      (pure (H2.streqnI (slice (shift m x0) i x3) (slice m x2 x3))) s := by
  rw [slice_shift,← Strings.streqnI_list]
  refine Strings.Watched.streqnI_does _ _ _ fun k n inside => ⟨?_,name_inside inside⟩
  rw [Nat.add_assoc]
  exact head_inside (by omega)

theorem scanField_short {hdr : Mem} {name : List UInt8} {left i : Nat} (few : left < 3) :
    Http1.scanField hdr name left i = .absent := by
  match left, few with
  | 0, _ | 1, _ | 2, _ => rfl

/-- An octet at which no line ends is gone past. -/
theorem scanField_next {hdr : Mem} {name : List UInt8} {left i : Nat} (other : ¬LineEnd hdr i) :
    Http1.scanField hdr name (left + 1) i = Http1.scanField hdr name left (i + 1) := by
  match left with
  | 0 | 1 => rfl
  | left+2 =>
    rw [Http1.scanField]
    by_cases carriage : hdr i = '\r'.toUInt8
    · rw [if_pos carriage,if_neg fun feed => other ⟨carriage,feed⟩]
    · rw [if_neg carriage]

theorem scanField_does : ∀ (left i : Nat), i + left = x1 →
    Does (Inside x0 x1 x2 x3) (fun _ _ => True) (scanField m x0 x1 x2 x3 i)
      (pure ((Http1.scanField (shift m x0) (slice m x2 x3) left i).based x0)) s := by
  intro left
  induction left using Nat.strong_induction_on with
  | h left ih =>
    intro i whole
    rw [scanField]
    by_cases none_ : x1 ≤ i
    · rw [dif_pos none_]
      obtain rfl : left = 0 := by omega
      exact pure_does trivial
    rw [dif_neg none_]
    refine note_does (head_inside (by omega)) ?_
    obtain ⟨left,rfl⟩ := Nat.exists_eq_add_of_le' (show 1 ≤ left by omega)
    have next : ¬LineEnd (shift m x0) i → Does (Inside x0 x1 x2 x3) (fun _ _ => True)
        (scanField m x0 x1 x2 x3 (i + 1))
        (pure ((Http1.scanField (shift m x0) (slice m x2 x3) (left + 1) i).based x0)) s := by
      intro other
      rw [scanField_next other]
      exact ih left (Nat.lt_succ_self left) (i + 1) (by omega)
    by_cases carriage : m (x0 + i) = '\r'.toUInt8
    swap
    · rw [if_neg carriage]
      exact next fun line => carriage line.1
    rw [if_pos carriage]
    by_cases last : x1 ≤ i + 1
    · rw [if_pos last,scanField_short (by omega)]
      exact pure_does trivial
    rw [if_neg last]
    refine note_does (head_inside (by omega)) ?_
    by_cases feed : m (x0 + (i + 1)) = '\n'.toUInt8
    swap
    · rw [if_neg feed]
      exact next fun line => feed line.2
    rw [if_pos feed]
    by_cases final : x1 ≤ i + 2
    · rw [if_pos final,scanField_short (by omega)]
      exact pure_does trivial
    -- Behind the end of a line there is an octet, which the line starts with.
    obtain ⟨rest,rfl⟩ := Nat.exists_eq_add_of_le' (show 2 ≤ left by omega)
    rw [if_neg final,Http1.scanField,if_pos (show shift m x0 i = _ from carriage),
      if_pos (show shift m x0 (i + 1) = _ from feed)]
    refine note_does (head_inside (by omega)) ?_
    by_cases blank : m (x0 + (i + 2)) = ' '.toUInt8 ∨ m (x0 + (i + 2)) = '\t'.toUInt8
    · rw [if_pos blank,if_pos (show shift m x0 (i + 2) = _ ∨ shift m x0 (i + 2) = _ from blank)]
      exact pure_does trivial
    rw [if_neg blank,if_neg (show ¬(shift m x0 (i + 2) = _ ∨ shift m x0 (i + 2) = _) from blank),slice_length]
    by_cases few : x1 - (i + 2) < x3
    · rw [if_pos few,if_pos (by omega)]
      exact pure_does trivial
    rw [if_neg few,if_neg (by omega)]
    refine value_does (streqnI_line (by omega)) fun _ => ?_
    split
    · exact fieldValue_does _ _ (by omega)
    · exact ih rest (by omega) (i + 3) (by omega)

/-- The lookup comes to what it comes to on the octets, and reads nothing but the header
    and the name. -/
theorem getHeaderField_does (m : Mem) (x0 x1 x2 x3 : Nat) :
    Does (Inside x0 x1 x2 x3) (fun _ _ => True) (getHeaderField m x0 x1 x2 x3)
      (pure ((Http1.getHeaderField (shift m x0) x1 (slice m x2 x3)).based x0)) () :=
  scanField_does x1 0 (Nat.zero_add x1)

end Watched

/-! ### What is refused -/

/-- A line that starts with a blank, or with the name but no colon right behind it. -/
def Refused (hdr : Mem) (len : Nat) (name : List UInt8) (i : Nat) : Prop :=
  LineEnd hdr i ∧ i + 2 < len ∧ (Blank (hdr (i + 2)) ∨
    i + 2 + name.length ≤ len ∧ Reads hdr (i + 2) name ∧
      ¬(i + 2 + name.length < len ∧ hdr (i + 2 + name.length) = ':'.toUInt8))

variable {hdr : Mem} {len : Nat} {name : List UInt8}

/-- The last octet of a header is neither a colon nor a blank. -/
theorem FirstEnd.last (head : FirstEnd hdr len) : hdr (len - 1) ≠ ':'.toUInt8 ∧ ¬Blank (hdr (len - 1)) := by
  rw [head.octets.2]
  refine ⟨by decide,?_⟩
  rintro (space | tab)
  · exact absurd space (by decide)
  · exact absurd tab (by decide)

/-- Blanks are not gone past to the end where there is something else in front of it. -/
theorem skipBlanks_ends {code : Nat} : ∀ (left i k : Nat), i < k → k ≤ i + left → ¬Blank (hdr k) →
    skipBlanks hdr left i ≠ .status code := by
  intro left
  induction left with
  | zero => intro i k behind inside; omega
  | succ left ih =>
    intro i k behind inside other
    rw [skipBlanks]
    split
    · next blank =>
      have further : k ≠ i + 1 := by
        rintro rfl
        exact other blank
      exact ih (i + 1) k (by omega) (by omega) other
    · rintro ⟨⟩

/-- Behind a name, all that is refused is what is no colon. -/
theorem fieldValue_refused (head : FirstEnd hdr len) {left i code : Nat} (whole : i + left = len)
    (refused : fieldValue hdr left i = .status code) : ¬(i < len ∧ hdr i = ':'.toUInt8) := by
  rintro ⟨inside,colon⟩
  obtain ⟨noColon,noBlank⟩ := head.last
  obtain ⟨left,rfl⟩ := Nat.exists_eq_add_of_le' (show 1 ≤ left by omega)
  have behind : i ≠ len - 1 := by
    rintro rfl
    exact noColon colon
  rw [fieldValue,if_pos colon] at refused
  exact skipBlanks_ends left i (len - 1) (by omega) (by omega) noBlank refused

theorem scanField_refused (head : FirstEnd hdr len) (proper : ∀ octet ∈ name, octet ≠ 0) {code : Nat} :
    ∀ (left i : Nat), i + left = len → scanField hdr name left i = .status code → ∃ j, Refused hdr len name j := by
  intro left
  induction left using Nat.strong_induction_on with
  | h left ih =>
    intro i whole refused
    match left, ih, whole, refused with
    | 0, _, _, refused => cases refused
    | 1, _, _, refused => cases refused
    | 2, _, _, refused => cases refused
    | left+3, ih, whole, refused =>
      rw [scanField] at refused
      split at refused
      · next carriage =>
        split at refused
        · next feed =>
          have line : LineEnd hdr i := ⟨carriage,feed⟩
          split at refused
          · next blank => exact ⟨i,line,by omega,.inl blank⟩
          split at refused
          · cases refused
          next room =>
          split at refused
          · next same =>
            have reads : Reads hdr (i + 2) name := (streqnI_iff (slice_length _ _ _) proper).mp same
            have colon := fieldValue_refused head (by omega) refused
            exact ⟨i,line,by omega,.inr ⟨by omega,reads,colon⟩⟩
          · exact ih left (by omega) (i + 3) (by omega) refused
        · exact ih (left + 2) (by omega) (i + 1) (by omega) refused
      · exact ih (left + 2) (by omega) (i + 1) (by omega) refused

/-! ### The lookup -/

/-- What a reply says of the lines of a header. -/
def LookupReply (hdr : Mem) (base len : Nat) (name : List UInt8) : FieldReply → Prop
  | .status code => code = 400 ∧ ∃ i, Refused hdr len name i
  | .absent => ∀ i, ¬FieldLine hdr len name i
  | .found address remaining => ∃ i start, address = base + start ∧ start + remaining = len ∧ start < len ∧
      FieldLine hdr len name i ∧ (∀ k < i, ¬FieldLine hdr len name k) ∧ ValueAt hdr (i + 2 + name.length) start

/-- A value lies in front of the end. -/
theorem ValueAt.inside (head : FirstEnd hdr len) {colon start : Nat} (value : ValueAt hdr colon start)
    (inside : colon < len) (octet : hdr colon = ':'.toUInt8) : start < len := by
  obtain ⟨noColon,noBlank⟩ := head.last
  have behind : colon ≠ len - 1 := by
    rintro rfl
    exact noColon octet
  refine Nat.not_le.mp ?_
  intro past
  exact noBlank (value.2.1 (len - 1) (by omega) (by omega))

theorem getHeaderField_reply (head : FirstEnd hdr len) (proper : ∀ octet ∈ name, octet ≠ 0) (base : Nat) :
    LookupReply hdr base len name ((getHeaderField hdr len name).based base) := by
  have searched := getHeaderField_searched head proper
  cases looked : getHeaderField hdr len name with
  | status code => exact ⟨scanField_status _ _ looked,scanField_refused head proper len 0 (Nat.zero_add len) looked⟩
  | absent =>
    rw [looked] at searched
    exact fun i => searched i (Nat.zero_le i)
  | found start remaining =>
    rw [looked] at searched
    obtain ⟨inside,i,_,line,first,value⟩ := searched
    exact ⟨i,start,rfl,inside,value.inside head line.inside line.colon,line,fun k before =>
      first k (Nat.zero_le k) before,value⟩

/-- The lookup in a header in memory, with all that it reads. -/
theorem fieldLookup {m : Mem} {x0 x1 x2 x3 : Nat} (head : FirstEnd (shift m x0) x1)
    (proper : ∀ octet ∈ slice m x2 x3, octet ≠ 0) :
    ∃ reply log, Watched.getHeaderField m x0 x1 x2 x3 ((),[]) = .ok reply ((),log) ∧
      (∀ t ∈ log, Watched.Inside x0 x1 x2 x3 t) ∧ LookupReply (shift m x0) x0 x1 (slice m x2 x3) reply := by
  obtain ⟨log,inside,run⟩ := (Watched.getHeaderField_does m x0 x1 x2 x3).run
  exact ⟨_,log,run,inside,getHeaderField_reply head proper x0⟩

/-- A header with the name of a field behind it. -/
def lastingLookup : Mem := ofBytes (lastingRequest ++ ascii "connection")

theorem fieldLookup_lasting :
    ∃ reply log, Watched.getHeaderField lastingLookup 0 42 42 10 ((),[]) = .ok reply ((),log) ∧
      (∀ t ∈ log, Watched.Inside 0 42 42 10 t) ∧
    LookupReply (shift lastingLookup 0) 0 42 (slice lastingLookup 42 10) reply := by
  have found : parseHeaderEnd (shift lastingLookup 0) 42 = some 42 := by decide +kernel
  exact fieldLookup (parseHeaderEnd_iff.mp found).2 (by decide +kernel)

end Sarm.Http1
