import Sarm.Request

/-!
The end of a header. The scan keeps how much of the blank line it has matched, and
finds the first blank line: what is behind it makes no difference.
-/
namespace Sarm.Http1
open Sarm.Memory
open Sarm.Hpack (ascii)

/-- `header_end`: the end of a line, and an empty line. -/
def headerEnd : List UInt8 := ascii "\r\n\r\n"

/-- The scan from `i` on, `left` octets of it, with so many octets of the end matched. -/
def headerEndLoop (buf : Mem) : Nat → Nat → Nat → Option Nat
  | 0, _, _ => none
  | left+1, i, matched =>
    if buf i = headerEnd.getD matched 0 then
      if 4 ≤ matched + 1 then some (i + 1) else headerEndLoop buf left (i + 1) (matched + 1)
    else headerEndLoop buf left (i + 1) (if buf i = '\r'.toUInt8 then 1 else 0)

/-- The index behind the first header in `len` octets. -/
def parseHeaderEnd (buf : Mem) (len : Nat) : Option Nat := headerEndLoop buf len 0 0

/-! ### What the scan keeps -/

/-- The octets read end in so many octets of the end, and in no more of them. -/
structure Matched (matched : Nat) (read : List UInt8) : Prop where
  suffix : headerEnd.take matched <:+ read
  longest : ∀ j ≤ 4, headerEnd.take j <:+ read → j ≤ matched

/-- Where the front of the end is what a longer part of it ends in, both go on alike. -/
theorem headerEnd_border : ∀ m < 4, ∀ j < m, headerEnd.take j <:+ headerEnd.take m →
    j = 0 ∨ headerEnd.getD j 0 = headerEnd.getD m 0 := by
  decide

theorem headerEnd_take : ∀ m < 4, headerEnd.take (m + 1) = headerEnd.take m ++ [headerEnd.getD m 0] := by
  decide

/-- What one octet more comes to. -/
theorem suffix_snoc {read : List UInt8} {octet : UInt8} {j : Nat} (inside : j < 4) :
    headerEnd.take (j + 1) <:+ read ++ [octet] ↔ headerEnd.take j <:+ read ∧ octet = headerEnd.getD j 0 := by
  rw [headerEnd_take j inside]
  constructor
  · rintro ⟨front,whole⟩
    rw [← List.append_assoc] at whole
    obtain ⟨same,last⟩ := List.append_inj' whole rfl
    exact ⟨⟨front,same⟩,(List.singleton_inj.mp last).symm⟩
  · rintro ⟨⟨front,rfl⟩,rfl⟩
    exact ⟨front,by rw [List.append_assoc]⟩

theorem Matched.next {matched : Nat} {read : List UInt8} (state : Matched matched read) (short : matched < 4) :
    Matched (matched + 1) (read ++ [headerEnd.getD matched 0]) := by
  refine ⟨(suffix_snoc short).mpr ⟨state.suffix,rfl⟩,?_⟩
  intro j bound suffix
  cases j with
  | zero => exact Nat.zero_le _
  | succ j => exact Nat.succ_le_succ (state.longest j (by omega) ((suffix_snoc (by omega)).mp suffix).1)

theorem Matched.back {matched : Nat} {read : List UInt8} {octet : UInt8} (state : Matched matched read)
    (short : matched < 4)
    (other : octet ≠ headerEnd.getD matched 0) :
    Matched (if octet = '\r'.toUInt8 then 1 else 0) (read ++ [octet]) := by
  constructor
  · split
    · next first =>
      refine (suffix_snoc (j := 0) (by decide)).mpr ⟨?_,first⟩
      rw [List.take_zero]
      exact List.nil_suffix
    · rw [List.take_zero]
      exact List.nil_suffix
  · intro j bound suffix
    cases j with
    | zero => exact Nat.zero_le _
    | succ j =>
      obtain ⟨part,octet⟩ := (suffix_snoc (by omega)).mp suffix
      have shorter : j < matched := by
        refine Nat.lt_of_le_of_ne (state.longest j (by omega) part) ?_
        rintro rfl
        exact other octet
      have border : headerEnd.take j <:+ headerEnd.take matched := by
        refine List.suffix_of_suffix_length_le part state.suffix ?_
        simp [headerEnd,ascii]
        omega
      rcases headerEnd_border matched short j shorter border with rfl | same
      · exact Nat.le_of_eq (if_pos (show _ = '\r'.toUInt8 from octet)).symm
      · exact absurd (octet.trans same) other

/-- The octets up to an index end in a blank line, and those up to no index before it do. -/
structure FirstEnd (buf : Mem) (k : Nat) : Prop where
  ends : headerEnd <:+ slice buf 0 k
  first : ∀ j < k, ¬ headerEnd <:+ slice buf 0 j

theorem slice_snoc (buf : Mem) (n : Nat) : slice buf 0 (n + 1) = slice buf 0 n ++ [buf n] := by
  rw [slice_add,Nat.zero_add]
  rfl

/-- The scan stops at the first end, and does not stop where there is none. -/
theorem headerEndLoop_first {buf : Mem} : ∀ (left i matched : Nat), matched < 4 → Matched matched (slice buf 0 i) →
    (∀ j ≤ i, ¬ headerEnd <:+ slice buf 0 j) →
      match headerEndLoop buf left i matched with
      | some k => i < k ∧ k ≤ i + left ∧ FirstEnd buf k
      | none => ∀ j ≤ i + left, ¬ headerEnd <:+ slice buf 0 j := by
  intro left
  induction left with
  | zero => intro i matched _ _ none; exact none
  | succ left ih =>
    intro i matched short state none
    have behind : ¬ headerEnd <:+ slice buf 0 (i + 1) → ∀ j ≤ i + 1, ¬ headerEnd <:+ slice buf 0 j := by
      intro here j inside
      rcases Nat.lt_or_eq_of_le inside with before | rfl
      · exact none j (by omega)
      · exact here
    rw [headerEndLoop]
    by_cases here : buf i = headerEnd.getD matched 0
    · have next := state.next short
      rw [← here,← slice_snoc] at next
      rw [if_pos here]
      by_cases whole : 4 ≤ matched + 1
      · rw [if_pos whole]
        refine ⟨by omega,by omega,?_,fun j before => none j (by omega)⟩
        have suffix := next.suffix
        rwa [List.take_of_length_le (by simp [headerEnd,ascii]; omega)] at suffix
      · rw [if_neg whole]
        have more := ih (i + 1) (matched + 1) (by omega) next (behind fun ends =>
          absurd (next.longest 4 (by omega) (by rwa [List.take_of_length_le (by simp [headerEnd,ascii])])) (by omega))
        rw [show i + 1 + left = i + (left + 1) by omega] at more
        generalize headerEndLoop buf left (i + 1) (matched + 1) = reply at more ⊢
        cases reply with
        | none => exact more
        | some k => exact ⟨by omega,more.2⟩
    · have back := state.back short here
      rw [← slice_snoc] at back
      rw [if_neg here]
      have bound : (if buf i = '\r'.toUInt8 then 1 else 0) < 4 := by split <;> omega
      have more := ih (i + 1) _ bound back (behind fun ends =>
        absurd (back.longest 4 (by omega) (by rwa [List.take_of_length_le (by simp [headerEnd,ascii])])) (by omega))
      rw [show i + 1 + left = i + (left + 1) by omega] at more
      generalize headerEndLoop buf left (i + 1) _ = reply at more ⊢
      cases reply with
      | none => exact more
      | some k => exact ⟨by omega,more.2⟩

/-- What is found is the end of the first header, and none is found exactly when there
    is none. -/
theorem parseHeaderEnd_iff {buf : Mem} {len k : Nat} : parseHeaderEnd buf len = some k ↔ k ≤ len ∧ FirstEnd buf k := by
  have nothing : ∀ j ≤ 0, ¬ headerEnd <:+ slice buf 0 j := by
    intro j zero
    rw [Nat.le_zero.mp zero,slice_zero]
    decide
  have scan := @headerEndLoop_first buf len 0 0 (by decide)
    ⟨List.nil_suffix,fun j bound suffix => by simpa [headerEnd,ascii,Nat.le_zero] using suffix.length_le⟩ nothing
  rw [Nat.zero_add] at scan
  rw [parseHeaderEnd]
  constructor
  · intro found
    rw [found] at scan
    exact scan.2
  · rintro ⟨inside,ends,first⟩
    cases found : headerEndLoop buf len 0 0 with
    | none =>
      rw [found] at scan
      exact absurd ends (scan k inside)
    | some k' =>
      rw [found] at scan
      obtain ⟨_,_,ends',first'⟩ := scan
      rcases Nat.lt_trichotomy k k' with before | rfl | after
      · exact absurd ends (first' k before)
      · rfl
      · exact absurd ends' (first k' after)

theorem FirstEnd.length {buf : Mem} {k : Nat} (first : FirstEnd buf k) : 4 ≤ k := by
  have length := first.ends.length_le
  rwa [slice_length] at length

/-- The end depends on the octets before it alone. -/
theorem FirstEnd.congr {buf buf' : Mem} {k : Nat} (first : FirstEnd buf k) (same : ∀ i < k, buf' i = buf i) :
    FirstEnd buf' k := by
  have slices : ∀ j ≤ k, slice buf' 0 j = slice buf 0 j := fun j inside => slice_congr fun i before => by
    rw [Nat.zero_add]
    exact same i (by omega)
  refine ⟨by rw [slices k (Nat.le_refl k)]; exact first.ends,?_⟩
  intro j before
  rw [slices j (by omega)]
  exact first.first j before

end Sarm.Http1
