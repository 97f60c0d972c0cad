import Sarm.Isolation
import Sarm.Octets
import Sarm.PathConfinement

/-!
Percent-decoding by RFC 3986, and where the decoder of paths departs from it. The
decoder folds the case of a digit by setting bit 5 before it tests the ranges, which
also takes the control octets 0x10 to 0x19 to decimal digits.
-/
namespace Sarm.H2
open Sarm.Memory
open Sarm.Octets (forall_octet)
open Sarm.Hpack (ascii)

/-! ### Escapes -/

/-- The value of a hexadecimal digit. -/
def hexDigit (octet : UInt8) : Option Nat :=
  if '0'.toUInt8 ≤ octet ∧ octet ≤ '9'.toUInt8 then some (octet.toNat - '0'.toNat)
  else if 'A'.toUInt8 ≤ octet ∧ octet ≤ 'F'.toUInt8 then some (octet.toNat - 'A'.toNat + 10)
  else if 'a'.toUInt8 ≤ octet ∧ octet ≤ 'f'.toUInt8 then some (octet.toNat - 'a'.toNat + 10)
  else none

/-- A control octet that differs from a decimal digit in bit 5 only. -/
def ControlDigit (octet : UInt8) : Prop := 0x10 ≤ octet ∧ octet ≤ 0x19

instance (octet : UInt8) : Decidable (ControlDigit octet) := inferInstanceAs (Decidable (_ ∧ _))

/-- Hexadecimal digits, and the control octets that pass for some. -/
def looseDigit (octet : UInt8) : Option Nat :=
  if ControlDigit octet then some (octet.toNat - 0x10) else hexDigit octet

/-- Two digits that denote an octet other than NUL. -/
def Denoting (digit : UInt8 → Option Nat) (high low : UInt8) : Prop :=
  ∃ a b, digit high = some a ∧ digit low = some b ∧ UInt8.ofNat (16 * a + b) ≠ 0

/-- Two such digits behind an index. -/
def EscapeAt (digit : UInt8 → Option Nat) (s : List UInt8) (i : Nat) : Prop :=
  ∃ high low, s[i+1]? = some high ∧ s[i+2]? = some low ∧ Denoting digit high low

/-- Behind every percent sign there are two such digits. -/
def Escaped (digit : UInt8 → Option Nat) (s : List UInt8) : Prop := ∀ i, s[i]? = some '%'.toUInt8 → EscapeAt digit s i

/-- The octets that a string stands for: an escape for the octet its digits denote,
    any other octet for itself. -/
def percentDecode : List UInt8 → List UInt8
  | [] => []
  | octet :: rest =>
    if octet = '%'.toUInt8 then
      match rest with
      | high :: low :: rest => UInt8.ofNat (16 * (hexDigit high).getD 0 + (hexDigit low).getD 0) :: percentDecode rest
      | _ => octet :: rest
    else octet :: percentDecode rest

/-- One of the two octets behind a percent sign is a control octet. -/
def ControlBehind (s : List UInt8) (i : Nat) : Prop :=
  ∃ octet, (s[i+1]? = some octet ∨ s[i+2]? = some octet) ∧ ControlDigit octet

/-- Nothing is wrong with the escapes but for control octets in the place of digits. -/
def LooseEscapes (s : List UInt8) : Prop :=
  Escaped looseDigit s ∧ ∃ i, s[i]? = some '%'.toUInt8 ∧ ControlBehind s i

theorem escaped_cons {digit : UInt8 → Option Nat} {octet : UInt8} {rest : List UInt8} :
    Escaped digit (octet :: rest) ↔ (octet = '%'.toUInt8 → EscapeAt digit (octet :: rest) 0) ∧ Escaped digit rest := by
  rw [Escaped,← Nat.and_forall_add_one]
  simp [Escaped,EscapeAt]

theorem escaped_plain {digit : UInt8 → Option Nat} {octet : UInt8} {rest : List UInt8} (plain : octet ≠ '%'.toUInt8) :
    Escaped digit (octet :: rest) ↔ Escaped digit rest := by
  rw [escaped_cons]
  exact ⟨And.right,fun later => ⟨fun mark => absurd mark plain,later⟩⟩

/-- A digit is not a percent sign. -/
theorem escaped_escape {digit : UInt8 → Option Nat} (none : digit '%'.toUInt8 = none) {high low : UInt8}
    {rest : List UInt8} :
    Escaped digit ('%'.toUInt8 :: high :: low :: rest) ↔
      Denoting digit high low ∧ Escaped digit rest := by
  have other : ∀ {octet a}, digit octet = some a → octet ≠ '%'.toUInt8 := by
    rintro octet a known rfl
    rw [none] at known
    cases known
  rw [escaped_cons]
  constructor
  · rintro ⟨here,later⟩
    obtain ⟨high',low',first,second,pair⟩ := here rfl
    simp only [Nat.zero_add,List.getElem?_cons_succ,List.getElem?_cons_zero,Option.some.injEq] at first second
    subst first second
    obtain ⟨a,b,left,right,_⟩ := id pair
    rw [escaped_plain (other left),escaped_plain (other right)] at later
    exact ⟨pair,later⟩
  · rintro ⟨pair,later⟩
    obtain ⟨a,b,left,right,_⟩ := id pair
    rw [escaped_plain (other left),escaped_plain (other right)]
    exact ⟨fun _ => ⟨high,low,rfl,rfl,pair⟩,later⟩

/-- A percent sign at the end, or before the last octet. -/
theorem escaped_short {digit : UInt8 → Option Nat} {rest : List UInt8} (short : rest.length < 2) :
    ¬Escaped digit ('%'.toUInt8 :: rest) := by
  rw [escaped_cons]
  rintro ⟨here,_⟩
  obtain ⟨_,low,_,second,_⟩ := here rfl
  rw [List.getElem?_eq_none (by rw [List.length_cons]; omega)] at second
  cases second

/-! ### Digits -/

/-- The classifier knows the digits, and the control octets. -/
theorem hexToVal_loose : ∀ octet, hexToVal octet = looseDigit octet := forall_octet (by decide +kernel)

theorem looseDigit_percent : looseDigit '%'.toUInt8 = none := by decide

theorem hexDigit_percent : hexDigit '%'.toUInt8 = none := by decide

/-- A control octet is no hexadecimal digit. -/
theorem hexDigit_control {octet : UInt8} (control : ControlDigit octet) : hexDigit octet = none := by
  have apart : ∀ octet, ControlDigit octet → hexDigit octet = none := forall_octet (by decide +kernel)
  exact apart octet control

theorem looseDigit_hex {octet : UInt8} {a : Nat} (known : hexDigit octet = some a) : looseDigit octet = some a := by
  rw [looseDigit]
  split
  · next control => rw [hexDigit_control control] at known; cases known
  · exact known

theorem hexDigit_loose {octet : UInt8} {a : Nat} (known : looseDigit octet = some a) (plain : ¬ControlDigit octet) :
    hexDigit octet = some a := by
  rwa [looseDigit,if_neg plain] at known

/-- Proper escapes pass. -/
theorem Escaped.loose {s : List UInt8} (proper : Escaped hexDigit s) : Escaped looseDigit s := by
  intro i mark
  obtain ⟨high,low,first,second,a,b,left,right,nonzero⟩ := proper i mark
  exact ⟨high,low,first,second,a,b,looseDigit_hex left,looseDigit_hex right,nonzero⟩

/-- Proper escapes have no control octets in the place of digits. -/
theorem Escaped.plain {s : List UInt8} (proper : Escaped hexDigit s) {i : Nat} (mark : s[i]? = some '%'.toUInt8) :
    ¬ControlBehind s i := by
  rintro ⟨octet,place,control⟩
  obtain ⟨high,low,first,second,a,b,left,right,_⟩ := proper i mark
  have unknown := hexDigit_control control
  rcases place with here | here
  · rw [first,Option.some.injEq] at here
    rw [← here,left] at unknown
    cases unknown
  · rw [second,Option.some.injEq] at here
    rw [← here,right] at unknown
    cases unknown

/-- Escapes that pass without control octets are proper. -/
theorem Escaped.proper {s : List UInt8} (loose : Escaped looseDigit s) (plain : ¬LooseEscapes s) :
    Escaped hexDigit s := by
  intro i mark
  obtain ⟨high,low,first,second,a,b,left,right,nonzero⟩ := loose i mark
  have apart : ∀ {octet}, s[i+1]? = some octet ∨ s[i+2]? = some octet → ¬ControlDigit octet :=
    fun place control => plain ⟨loose,i,mark,_,place,control⟩
  exact ⟨high,low,first,second,a,b,hexDigit_loose left (apart (.inl first)),
    hexDigit_loose right (apart (.inr second)),nonzero⟩

/-- Without control octets there are none in the place of digits. -/
theorem looseEscapes_control {s : List UInt8} (plain : ∀ octet ∈ s, ¬ControlDigit octet) : ¬LooseEscapes s := by
  rintro ⟨_,i,_,octet,place,control⟩
  rcases place with here | here
  · exact plain octet (List.mem_of_getElem? here) control
  · exact plain octet (List.mem_of_getElem? here) control

/-! ### The decoder -/

/-- An escape at the front. -/
theorem decodeText_escape (high low : UInt8) (rest : List UInt8) :
    decodeText ('%'.toUInt8 :: high :: low :: rest) =
      match hexText high low with
      | none => none
      | some octet => if octet = 0 then none else (decodeText rest).map (octet :: ·) := by
  rw [decodeText.eq_def]
  dsimp only
  rw [if_neg (by decide)]
  exact if_pos rfl

/-- Two octets that pass for digits, and what they denote. -/
theorem denoting_iff {high low : UInt8} :
    Denoting looseDigit high low ↔ ∃ octet, hexText high low = some octet ∧ octet ≠ 0 := by
  rw [Denoting,hexText,hexToVal_loose,hexToVal_loose]
  cases looseDigit high with
  | none => simp
  | some a =>
    cases looseDigit low with
    | none => simp
    | some b => simp

/-- Digits mean the same to the decoder. -/
theorem hexText_hexDigit {high low : UInt8} {a b : Nat} (left : hexDigit high = some a) (right : hexDigit low = some b) :
    hexText high low = some (UInt8.ofNat (16 * a + b)) := by
  rw [hexText,hexToVal_loose,hexToVal_loose,looseDigit_hex left,looseDigit_hex right]

/-- Fewer than two octets. -/
theorem short_rest {rest : List UInt8} (short : ∀ high low tail, rest = high :: low :: tail → False) :
    rest = [] ∨ ∃ octet, rest = [octet] := by
  cases rest with
  | nil => exact .inl rfl
  | cons high rest =>
    cases rest with
    | nil => exact .inr ⟨high,rfl⟩
    | cons low rest => exact (short high low rest rfl).elim

/-- A string is decoded if and only if its escapes pass. -/
theorem decodeText_isSome : ∀ s : List UInt8, (∀ octet ∈ s, octet ≠ 0) →
    ((decodeText s).isSome ↔ Escaped looseDigit s) := by
  intro s
  induction s using decodeText.induct with
  | case1 => intro _; simp [decodeText,Escaped]
  | case2 rest => intro text; exact absurd rfl (text 0 List.mem_cons_self)
  | case3 high low rest bad nul =>
    intro _
    rw [decodeText_escape,escaped_escape looseDigit_percent,denoting_iff,bad]
    simp
  | case4 high low rest nul value =>
    intro _
    rw [decodeText_escape,escaped_escape looseDigit_percent,denoting_iff,value]
    simp
  | case5 high low rest octet value proper nul ih =>
    intro text
    have later := ih (fun octet member => text octet (by simp [member]))
    rw [decodeText_escape,escaped_escape looseDigit_percent,denoting_iff,value]
    simp [proper,later]
  | case6 rest short nul =>
    intro _
    rcases short_rest short with rfl | ⟨high,rfl⟩
    · simp [decodeText,escaped_short,nul]
    · simp [decodeText,escaped_short,nul]
  | case7 octet rest nul percent ih =>
    intro text
    have later := ih (fun octet member => text octet (List.mem_cons_of_mem _ member))
    rw [decodeText.eq_def]
    simp [nul,percent,escaped_plain percent,later]

/-- Proper escapes are decoded to what they stand for. -/
theorem decodeText_proper : ∀ s : List UInt8, (∀ octet ∈ s, octet ≠ 0) → Escaped hexDigit s →
    decodeText s = some (percentDecode s) := by
  intro s
  induction s using decodeText.induct with
  | case1 => intro _ _; rfl
  | case2 rest => intro text; exact absurd rfl (text 0 List.mem_cons_self)
  | case3 high low rest bad nul =>
    intro _ proper
    rw [escaped_escape hexDigit_percent] at proper
    obtain ⟨⟨a,b,left,right,_⟩,_⟩ := proper
    rw [hexText_hexDigit left right] at bad
    cases bad
  | case4 high low rest nul value =>
    intro _ proper
    rw [escaped_escape hexDigit_percent] at proper
    obtain ⟨⟨a,b,left,right,nonzero⟩,_⟩ := proper
    rw [hexText_hexDigit left right,Option.some.injEq] at value
    exact absurd value nonzero
  | case5 high low rest octet value other nul ih =>
    intro text proper
    rw [escaped_escape hexDigit_percent] at proper
    obtain ⟨⟨a,b,left,right,_⟩,behind⟩ := proper
    have later := ih (fun octet member => text octet (by simp [member])) behind
    have same : octet = UInt8.ofNat (16 * a + b) := by
      rw [hexText_hexDigit left right,Option.some.injEq] at value
      exact value.symm
    rw [decodeText_escape,value,percentDecode,if_pos rfl]
    dsimp only
    rw [if_neg other,later,left,right,same]
    rfl
  | case6 rest short nul =>
    intro _ proper
    rcases short_rest short with rfl | ⟨high,rfl⟩
    · exact absurd proper (escaped_short (by simp))
    · exact absurd proper (escaped_short (by simp))
  | case7 octet rest nul percent ih =>
    intro text proper
    have later := ih (fun octet member => text octet (List.mem_cons_of_mem _ member)) ((escaped_plain percent).mp proper)
    rw [decodeText.eq_def,percentDecode.eq_def]
    simp [nul,percent,later]

/-- Where decoding ends: at a NUL, no further on than what was read, and nothing behind
    it is changed. -/
theorem decodeLoop_ends (left read written : Nat) (buf : Mem) :
    ∀ n ∈ (decodeLoop left read written buf).2, written ≤ n ∧ n ≤ written + left ∧
      (decodeLoop left read written buf).1 n = 0 ∧ ∀ i > n, (decodeLoop left read written buf).1 i = buf i := by
  have end_ : ∀ (left written : Nat) (buf : Mem), ∀ n ∈ some written, written ≤ n ∧ n ≤ written + left ∧
      store buf written 0 n = 0 ∧ ∀ i > n, store buf written 0 i = buf i := by
    rintro left written buf n ⟨⟩
    exact ⟨Nat.le_refl _,Nat.le_add_right _ _,store_same _ _ _,fun i after => store_other _ _ (by omega)⟩
  have next : ∀ {left left' written : Nat} {buf result : Mem} {octet : UInt8} {end' : Option Nat}, left' < left →
      (∀ n ∈ end', written + 1 ≤ n ∧ n ≤ written + 1 + left' ∧ result n = 0 ∧
        ∀ i > n, result i = store buf written octet i) →
      ∀ n ∈ end', written ≤ n ∧ n ≤ written + left ∧ result n = 0 ∧ ∀ i > n, result i = buf i := by
    intro left left' written buf result octet end' fewer ends n here
    obtain ⟨low,high,nul,same⟩ := ends n here
    exact ⟨by omega,by omega,nul,fun i after => by rw [same i after,store_other _ _ (by omega)]⟩
  fun_induction decodeLoop left read written buf with
  | case1 read written buf => exact end_ 0 written buf
  | case2 left read written buf nul => exact end_ (left + 1) written buf
  | case3 | case4 | case6 => intro n none; cases none
  | case5 read written buf mark rest octet nul value proper ih => exact next (by omega) ih
  | case7 left read written buf nul percent ih => exact next (by omega) ih

/-- A string in a buffer, with a NUL behind it. -/
structure Terminated (buf : Mem) (s : List UInt8) : Prop where
  octets : slice buf 0 s.length = s
  nul : buf s.length = 0
  text : ∀ octet ∈ s, octet ≠ 0

/-- What the decoder is for: it accepts the strings whose escapes are proper, and
    leaves what they stand for in the buffer, with a NUL behind it and what is
    further on untouched. -/
structure Decoded (buf : Mem) (s : List UInt8) : Prop where
  accepted : (decodeUrl buf s.length).2.isSome ↔ Escaped hexDigit s
  decoded : ∀ n ∈ (decodeUrl buf s.length).2, n ≤ s.length ∧ slice (decodeUrl buf s.length).1 0 n = percentDecode s ∧
    (decodeUrl buf s.length).1 n = 0 ∧ ∀ i > n, (decodeUrl buf s.length).1 i = buf i

/-- The decoder treats as it should the strings without control octets in the place of
    digits, or with other faults, and no others. -/
theorem decodeUrl_rfc3986 {buf : Mem} {s : List UInt8} (here : Terminated buf s) : Decoded buf s ↔ ¬LooseEscapes s := by
  have result := decodeUrl_text buf s.length
  rw [here.octets] at result
  have passes : (decodeUrl buf s.length).2.isSome ↔ Escaped looseDigit s := by
    rw [← decodeText_isSome s here.text,← result,Option.isSome_map]
  constructor
  · rintro decoded ⟨loose,i,mark,control⟩
    exact (decoded.accepted.mp (passes.mpr loose)).plain mark control
  · intro plain
    have accepted : (decodeUrl buf s.length).2.isSome ↔ Escaped hexDigit s :=
      passes.trans ⟨fun loose => loose.proper plain,Escaped.loose⟩
    refine ⟨accepted,?_⟩
    intro n done
    obtain ⟨_,short,nul,same⟩ := decodeLoop_ends s.length 0 0 buf n done
    have proper := accepted.mp (by rw [Option.mem_def.mp done]; rfl)
    rw [decodeText_proper s here.text proper,Option.mem_def.mp done,Option.map_some,Option.some.injEq] at result
    exact ⟨by omega,result,nul,same⟩

/-- `a%2Eb`, which stands for `a.b`. -/
theorem decodeUrl_rfc3986_dot : Decoded (ofBytes (ascii "a%2Eb")) (ascii "a%2Eb") :=
  (decodeUrl_rfc3986 ⟨slice_ofBytes _,by decide,by decide +kernel⟩).mpr (looseEscapes_control (by decide +kernel))

/-- An escape whose digits are a control octet and a letter is taken for `J`. -/
def controlEscape : List UInt8 := ['%'.toUInt8,0x14,'a'.toUInt8]

theorem decodeUrl_takes_control :
    Terminated (ofBytes controlEscape) controlEscape ∧ ¬Escaped hexDigit controlEscape ∧
      (decodeUrl (ofBytes controlEscape) controlEscape.length).2 = some 1 := by
  refine ⟨⟨slice_ofBytes _,by decide,by decide +kernel⟩,?_,by decide⟩
  intro proper
  have mark : controlEscape[0]? = some '%'.toUInt8 := rfl
  exact proper.plain mark ⟨0x14,.inl rfl,by decide⟩

end Sarm.H2
