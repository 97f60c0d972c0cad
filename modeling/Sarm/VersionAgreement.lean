import Sarm.KeepAlive
import Mathlib.Algebra.Group.Nat.Even
import Mathlib.Data.Nat.Find

/-!
The version of a request, as it is verified and as the rule on keeping the connection
takes it. The one looks for the end of the request line, carriage returns in pairs with
the octets behind them; the other for the first carriage return.
-/
namespace Sarm.Http1
open Sarm.Memory Sarm.H2
open Sarm.Hpack (ascii)

/-- The versions that are accepted. -/
inductive Version where
  | v10
  | v11
  deriving DecidableEq, Repr

/-- The version that `verify_http_version` recognises at the end of the request line. -/
def recognised (hdr : Mem) (len : Nat) : Option Version :=
  match lineEnd hdr len 0 with
  | none => none
  | some i =>
    if i < 9 then none
    else if slice hdr (i - 9) 8 = ascii "HTTP/1.1" then some .v11
    else if slice hdr (i - 9) 8 = ascii "HTTP/1.0" then some .v10
    else none

/-- The version that `http1_should_keep_alive` goes by. -/
def classified (hdr : Mem) (len : Nat) : Version := if isHttp10 hdr len then .v10 else .v11

/-- The two come to the same. -/
def VersionsAgree (hdr : Mem) (len : Nat) : Prop :=
  (classified hdr len = .v11 ↔ recognised hdr len = some .v11) ∧
    (classified hdr len = .v10 ↔ recognised hdr len = some .v10)

/-- The carriage returns directly in front of an index. -/
def returnsBefore (hdr : Mem) : Nat → Nat
  | 0 => 0
  | i+1 => if hdr i = '\r'.toUInt8 then returnsBefore hdr i + 1 else 0

/-- The carriage return at an index is the first that ends a line, those behind another
    that does not end one left out. -/
structure EndsRequestLine (hdr : Mem) (len i : Nat) : Prop where
  lineEnd : LineEnd hdr i
  inside : i + 1 < len
  unpaired : Even (returnsBefore hdr i)
  first : ∀ j < i, LineEnd hdr j → ¬Even (returnsBefore hdr j)

/-- There is a carriage return before the one that ends the request line, and what is in
    front of the first is not of the version that the line is of. -/
def Misled (hdr : Mem) (i : Nat) : Prop :=
  ∃ f < i, hdr f = '\r'.toUInt8 ∧ (∀ j < f, hdr j ≠ '\r'.toUInt8) ∧
    ¬(Ends10 hdr f ↔ slice hdr (i - 8) 8 = ascii "HTTP/1.0")

variable {hdr : Mem} {len : Nat}

theorem returnsBefore_return {i : Nat} (carriage : hdr i = '\r'.toUInt8) :
    returnsBefore hdr (i + 1) = returnsBefore hdr i + 1 :=
  if_pos carriage

theorem returnsBefore_other {i : Nat} (other : hdr i ≠ '\r'.toUInt8) : returnsBefore hdr (i + 1) = 0 := if_neg other

/-- The search for the end of the request line, from an index on that no pair spans. -/
theorem lineEnd_ends : ∀ (left i : Nat), Even (returnsBefore hdr i) →
    (∀ j < i, LineEnd hdr j → ¬Even (returnsBefore hdr j)) →
    ∀ k ∈ lineEnd hdr left i, ∃ j, k = j + 1 ∧ EndsRequestLine hdr (i + left) j := by
  intro left
  induction left using Nat.strong_induction_on with
  | _ left ih =>
    intro i unpaired before k found
    match left, ih, found with
    | 0, _, found => cases found
    | 1, _, found => cases found
    | left + 2, ih, found =>
      rw [lineEnd] at found
      split at found
      · next carriage =>
        have one := returnsBefore_return carriage
        split at found
        · next feed =>
          cases found
          exact ⟨i,rfl,⟨carriage,feed⟩,by omega,unpaired,before⟩
        · next other =>
          have even : Even (returnsBefore hdr (i + 2)) := by
            by_cases second : hdr (i + 1) = '\r'.toUInt8
            · rw [returnsBefore_return second,one,Nat.add_assoc]
              exact unpaired.add (by decide)
            · rw [returnsBefore_other second]
              exact Even.zero
          have passed : ∀ j < i + 2, LineEnd hdr j → ¬Even (returnsBefore hdr j) := by
            intro j low ends
            rcases Nat.lt_or_ge j i with earlier | later
            · exact before j earlier ends
            obtain rfl | rfl : j = i ∨ j = i + 1 := by omega
            · exact absurd ends.2 other
            · rw [one,Nat.even_add_one,not_not]
              exact unpaired
          obtain ⟨j,same,ends⟩ := ih left (by omega) (i + 2) even passed k found
          exact ⟨j,same,by rw [show i + (left + 2) = i + 2 + left by omega]; exact ends⟩
      · next plain =>
        have passed : ∀ j < i + 1, LineEnd hdr j → ¬Even (returnsBefore hdr j) := by
          intro j low ends
          rcases Nat.lt_or_ge j i with earlier | later
          · exact before j earlier ends
          · obtain rfl : j = i := by omega
            exact absurd ends.1 plain
        obtain ⟨j,same,ends⟩ := ih (left + 1) (by omega) (i + 1)
          (by rw [returnsBefore_other plain]; exact Even.zero) passed k found
        exact ⟨j,same,by rw [show i + (left + 2) = i + 1 + (left + 1) by omega]; exact ends⟩

theorem EndsRequestLine.unique {i i' : Nat} (here : EndsRequestLine hdr len i) (there : EndsRequestLine hdr len i') :
    i = i' := by
  rcases Nat.lt_trichotomy i i' with before | same | after
  · exact absurd here.unpaired (there.first i before here.lineEnd)
  · exact same
  · exact absurd there.unpaired (here.first i' after there.lineEnd)

/-- What an accepted request line ends in. -/
theorem accepted_line (accepted : verifyHttpVersion hdr len = none) : ∃ i, EndsRequestLine hdr len i ∧ 8 ≤ i ∧
    ((slice hdr (i - 8) 8 = ascii "HTTP/1.1" ∧ recognised hdr len = some .v11) ∨
      (slice hdr (i - 8) 8 = ascii "HTTP/1.0" ∧ recognised hdr len = some .v10)) := by
  rw [verifyHttpVersion] at accepted
  rw [recognised]
  cases found : lineEnd hdr len 0 with
  | none => rw [found] at accepted; cases accepted
  | some k =>
    obtain ⟨i,rfl,ends⟩ := lineEnd_ends len 0 Even.zero (fun j low => absurd low (Nat.not_lt_zero j)) k found
    rw [Nat.zero_add] at ends
    rw [found] at accepted
    dsimp only at accepted ⊢
    rw [show i + 1 - 9 = i - 8 by omega] at accepted ⊢
    by_cases short : i + 1 < 9
    · rw [if_pos short] at accepted; cases accepted
    rw [if_neg short] at accepted ⊢
    refine ⟨i,ends,by omega,?_⟩
    by_cases one : slice hdr (i - 8) 8 = ascii "HTTP/1.1"
    · exact .inl ⟨one,if_pos one⟩
    rw [if_neg one] at accepted ⊢
    by_cases zero : slice hdr (i - 8) 8 = ascii "HTTP/1.0"
    · exact .inr ⟨zero,if_pos zero⟩
    rw [if_neg zero] at accepted
    split at accepted <;> cases accepted

/-- The rule goes by what is in front of the first carriage return. -/
theorem classified_first {f : Nat} (inside : f < len) (carriage : hdr f = '\r'.toUInt8)
    (first : ∀ j < f, hdr j ≠ '\r'.toUInt8) :
    classified hdr len = .v10 ↔ Ends10 hdr f := by
  have search := @findReturn_first hdr len 0
  rw [classified,isHttp10]
  cases found : findReturn hdr len 0 with
  | none =>
    rw [found] at search
    exact absurd carriage (search f (Nat.zero_le f) (by omega))
  | some k =>
    rw [found] at search
    obtain ⟨_,here,before⟩ := search
    obtain rfl : k = f := by
      rcases Nat.lt_trichotomy k f with low | same | high
      · exact absurd here (first k low)
      · exact same
      · exact absurd carriage (before f (Nat.zero_le f) high)
    have compare := streqnI_iff (a := slice hdr (k - 8) 8) (b := ascii "HTTP/1.0") (slice_length _ _ _)
      (by decide +kernel)
    rw [Ends10,Reads,show (ascii "HTTP/1.0").length = 8 by decide,← compare]
    simp

theorem first_return {i : Nat} (carriage : hdr i = '\r'.toUInt8) : ∃ f ≤ i, hdr f = '\r'.toUInt8 ∧
    ∀ j < f, hdr j ≠ '\r'.toUInt8 := by
  have some_ : ∃ f, hdr f = '\r'.toUInt8 := ⟨i,carriage⟩
  exact ⟨Nat.find some_,Nat.find_min' some_ carriage,Nat.find_spec some_,fun j low => Nat.find_min some_ low⟩

/-- The end of the request line itself does not mislead. -/
theorem ends10_line {i : Nat} (long : 8 ≤ i)
    (version : slice hdr (i - 8) 8 = ascii "HTTP/1.1" ∨ slice hdr (i - 8) 8 = ascii "HTTP/1.0") :
    Ends10 hdr i ↔ slice hdr (i - 8) 8 = ascii "HTTP/1.0" := by
  rw [Ends10,Reads,show (ascii "HTTP/1.0").length = 8 by decide]
  rcases version with version | version
  · rw [version]
    exact iff_of_false (fun ends => absurd ends.2 (by decide +kernel)) (by decide)
  · rw [version]
    exact iff_of_true ⟨long,rfl⟩ rfl

/-- The two agree on an accepted request unless a carriage return inside its request line
    misleads the rule. -/
theorem agree_iff (accepted : verifyHttpVersion hdr len = none) :
    VersionsAgree hdr len ↔ ¬∃ i, EndsRequestLine hdr len i ∧ Misled hdr i := by
  obtain ⟨i,ends,long,versions⟩ := accepted_line accepted
  obtain ⟨f,low,carriage,first⟩ := first_return ends.lineEnd.1
  have rule : classified hdr len = .v10 ↔ Ends10 hdr f := classified_first (by have := ends.inside; omega) carriage first
  have same : VersionsAgree hdr len ↔ (Ends10 hdr f ↔ slice hdr (i - 8) 8 = ascii "HTTP/1.0") := by
    have apart : ascii "HTTP/1.1" ≠ ascii "HTTP/1.0" := by decide
    rw [VersionsAgree,← rule]
    rcases versions with ⟨octets,version⟩ | ⟨octets,version⟩
    · rw [octets,version]
      cases classified hdr len <;> simp [apart]
    · rw [octets,version]
      cases classified hdr len <;> simp
  rw [same]
  constructor
  · rintro agree ⟨i',ends',f',low',carriage',first',differ⟩
    obtain rfl := ends.unique ends'
    obtain rfl : f' = f := by
      rcases Nat.lt_trichotomy f' f with before | equal | after
      · exact absurd carriage' (first f' before)
      · exact equal
      · exact absurd carriage (first' f after)
    exact differ agree
  · intro led
    rcases Nat.eq_or_lt_of_le low with rfl | before
    · exact ends10_line long (versions.imp And.left And.left)
    · by_contra differ
      exact led ⟨i,ends,f,before,carriage,first,differ⟩

/-- A request line without another carriage return. -/
def plainHead : List UInt8 := ascii "GET / HTTP/1.0\r\n\r\n"

theorem agree_iff_plain : VersionsAgree (ofBytes plainHead) plainHead.length ↔
    ¬∃ i, EndsRequestLine (ofBytes plainHead) plainHead.length i ∧ Misled (ofBytes plainHead) i :=
  agree_iff (by decide +kernel)

/-- A request line of HTTP/1.0 with a carriage return in front of its version. -/
def misleadingHead : List UInt8 := ascii "GET / \rHTTP/1.0\r\n\r\n"

theorem versions_disagree : verifyHttpVersion (ofBytes misleadingHead) misleadingHead.length = none ∧
    recognised (ofBytes misleadingHead) misleadingHead.length = some .v10 ∧
    classified (ofBytes misleadingHead) misleadingHead.length = .v11 := by
  decide +kernel

end Sarm.Http1
