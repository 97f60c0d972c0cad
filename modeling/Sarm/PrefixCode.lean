import Mathlib.Data.List.Induction
import Mathlib.Data.Nat.Bitwise
import Mathlib.Tactic.Common

/-!
Prefix codes over bits. A stream that spells symbols in a prefix-free code, up to
a rest that no code word begins, spells them in one way only. Code words are given
as numbers with a length, most significant bit first.
-/
namespace Sarm.PrefixCode

universe u
variable {α : Type u} (word : α → List Bool)

/-- No code word begins another. -/
def PrefixFree : Prop := ∀ a b, word a <+: word b → a = b

/-- No code word begins `rest`. -/
def Incomplete (rest : List Bool) : Prop := ∀ a, ¬ word a <+: rest

/-- A stream that begins with whole symbols spells them first. -/
theorem spelled_prefix (free : PrefixFree word) {rest : List Bool} (open_ : Incomplete word rest) :
    ∀ (t s : List α) (behind : List Bool), t.flatMap word ++ behind <+: s.flatMap word ++ rest →
      ∃ s', s = t ++ s' ∧ behind <+: s'.flatMap word ++ rest := by
  intro t
  induction t with
  | nil => intro s behind begins; exact ⟨s,rfl,begins⟩
  | cons a t ih =>
    intro s behind begins
    rw [List.flatMap_cons,List.append_assoc] at begins
    have first := (List.prefix_append (word a) _).trans begins
    cases s with
    | nil => exact absurd first (open_ a)
    | cons b s =>
      rw [List.flatMap_cons,List.append_assoc] at first begins
      have equal : a = b := by
        rcases List.prefix_or_prefix_of_prefix first (List.prefix_append (word b) _) with shorter | longer
        · exact free a b shorter
        · exact (free b a longer).symm
      subst equal
      obtain ⟨s',rfl,rest⟩ := ih s behind ((List.prefix_append_right_inj _).mp begins)
      exact ⟨s',rfl,rest⟩

theorem spelled_once (free : PrefixFree word) {rest rest' : List Bool} (open_ : Incomplete word rest)
    (open' : Incomplete word rest') (s t : List α) (same : s.flatMap word ++ rest = t.flatMap word ++ rest') : s = t := by
  obtain ⟨t',split,_⟩ := spelled_prefix word free open' s t rest (same ▸ List.prefix_rfl)
  obtain ⟨s',split',_⟩ := spelled_prefix word free open_ t s rest' (same ▸ List.prefix_rfl)
  have lengths := congrArg List.length split'
  rw [split,List.append_assoc,List.length_append,List.length_append] at lengths
  rw [split,List.eq_nil_of_length_eq_zero (show t'.length = 0 by omega),List.append_nil]

/-- The `len` low bits of `code`, the most significant first. -/
def bits : Nat → Nat → List Bool
  | 0, _ => []
  | len+1, code => bits len (code / 2) ++ [decide (code % 2 = 1)]

@[simp] theorem bits_length (len code : Nat) : (bits len code).length = len := by
  induction len generalizing code with
  | zero => rfl
  | succ len ih => simp [bits,ih]

/-- The first bits of a number are the bits of its quotient. -/
theorem bits_take (a : Nat) : ∀ (b code : Nat), (bits (a + b) code).take a = bits a (code / 2^b) := by
  intro b
  induction b with
  | zero =>
    intro code
    rw [Nat.pow_zero,Nat.div_one,List.take_of_length_le (by simp),Nat.add_zero]
  | succ b ih =>
    intro code
    have inside : a ≤ (bits (a + b) (code / 2)).length := by simp
    rw [← Nat.add_assoc,bits,List.take_append_of_le_length inside,ih,Nat.div_div_eq_div_mul,Nat.pow_succ']

theorem bits_injective : ∀ (len : Nat) {a b : Nat}, a < 2^len → b < 2^len → bits len a = bits len b → a = b := by
  intro len
  induction len with
  | zero => intro a b low high _; omega
  | succ len ih =>
    intro a b low high same
    rw [Nat.pow_succ] at low high
    have parts := List.append_inj' same rfl
    have half := ih (by omega) (by omega) parts.1
    have last := parts.2
    simp only [List.cons.injEq,and_true,decide_eq_decide] at last
    omega

/-- A code word that begins another is its quotient. -/
theorem quotient_of_prefix {la lb a b : Nat} (small : a < 2^la) (begins : bits la a <+: bits lb b)
    (big : b < 2^lb) : la ≤ lb ∧ b / 2^(lb - la) = a := by
  have shorter : la ≤ lb := by simpa using begins.length_le
  obtain ⟨d,rfl⟩ := Nat.exists_eq_add_of_le shorter
  have cut := List.prefix_iff_eq_take.mp begins
  rw [bits_length,bits_take] at cut
  refine ⟨shorter,?_⟩
  rw [Nat.add_sub_cancel_left]
  have quotient : b / 2^d < 2^la := by
    rw [Nat.div_lt_iff_lt_mul (Nat.two_pow_pos d),← Nat.pow_add]
    exact big
  exact (bits_injective la small quotient cut).symm

/-- Appending a bit to a number is doubling it. -/
theorem bits_snoc (len code bit : Nat) (small : bit < 2) :
    bits (len + 1) (2 * code + bit) = bits len code ++ [decide (bit = 1)] := by
  have half : (2 * code + bit) / 2 = code := by omega
  have low : (2 * code + bit) % 2 = bit := by omega
  rw [bits,half,low]

theorem bits_ones : ∀ (len : Nat), bits len (2^len - 1) = List.replicate len true := by
  intro len
  induction len with
  | zero => rfl
  | succ len ih =>
    have positive := Nat.two_pow_pos len
    have double : 2^(len+1) - 1 = 2 * (2^len - 1) + 1 := by rw [Nat.pow_succ]; omega
    rw [double,bits_snoc _ _ _ (by decide),ih,List.replicate_succ']
    rfl

/-- Bits as a number. -/
def number (l : List Bool) : Nat := l.foldl (fun n bit => 2 * n + bit.toNat) 0

theorem number_snoc (l : List Bool) (bit : Bool) : number (l ++ [bit]) = 2 * number l + bit.toNat := by
  rw [number,List.foldl_append]
  rfl

theorem number_lt (l : List Bool) : number l < 2^l.length := by
  induction l using List.reverseRecOn with
  | nil => decide
  | append_singleton l bit ih =>
    have binary := bit.toNat_lt
    rw [number_snoc,List.length_append,List.length_singleton,Nat.pow_succ]
    omega

theorem bits_number (l : List Bool) : bits l.length (number l) = l := by
  induction l using List.reverseRecOn with
  | nil => rfl
  | append_singleton l bit ih =>
    rw [number_snoc,List.length_append,List.length_singleton,bits_snoc _ _ _ bit.toNat_lt,ih]
    cases bit <;> rfl

end Sarm.PrefixCode
