import Mathlib.Data.List.DropRight
import Mathlib.Data.List.Forall2

/-!
Messages of a stream of octets: lines that end in CR LF, up to an empty one, and a body
behind them. A line is a name and a value with a colon between them; one name is that of
the body's length. Some messages have no body, whatever length they announce, and a
reader has to know which. What is written as whole messages is read as these.
-/
namespace Sarm.Messages

def cr : UInt8 := 13
def lf : UInt8 := 10
def colon : UInt8 := 58

/-- The first line, and what is behind it. -/
def cutLine : List UInt8 → Option (List UInt8 × List UInt8)
  | [] => none
  | octet :: rest =>
    if octet = cr ∧ rest.head? = some lf then some ([],rest.tail)
    else (cutLine rest).map fun (line,rest) => (octet :: line,rest)

/-- The lines up to the empty one. The recursion is on a number that is not less than theirs. -/
def cutHead : Nat → List UInt8 → Option (List (List UInt8) × List UInt8)
  | 0, _ => none
  | n+1, stream => match cutLine stream with
    | none => none
    | some ([],rest) => some ([],rest)
    | some (line,rest) => (cutHead n rest).map fun (lines,rest) => (line :: lines,rest)

/-- The number of digits. -/
def decimal (digits : List UInt8) : Option Nat :=
  if digits ≠ [] ∧ digits.all (fun digit => 48 ≤ digit && digit ≤ 57) then
    some (digits.foldl (fun value digit => 10 * value + (digit.toNat - 48)) 0)
  else none

def lower (octet : UInt8) : UInt8 := if 65 ≤ octet ∧ octet ≤ 90 then octet + 32 else octet

def isBlank (octet : UInt8) : Bool := octet = 32 || octet = 9

/-- The value of a line of the name, which is in lower case. -/
def valueOf (name text : List UInt8) : Option (List UInt8) :=
  if (text.take name.length).map lower = name ∧ text[name.length]? = some colon then
    some (((text.drop (name.length + 1)).dropWhile isBlank).rdropWhile isBlank)
  else none

/-- The length that the lines announce. -/
def announced (name : List UInt8) (lines : List (List UInt8)) : Option Nat :=
  (lines.findSome? (valueOf name)).bind decimal

section
variable (name : List UInt8)

/-- The octets behind the empty line that belong to a message. -/
def bodyLength (bare : Bool) (lines : List (List UInt8)) : Option Nat := if bare then some 0 else announced name lines

/-- The first message, and what is behind it. `bare` says of a first line that there is no body. -/
def readMessage (bare : List UInt8 → Bool) (stream : List UInt8) : Option (List UInt8 × List UInt8) := do
  let (lines,rest) ← cutHead (stream.length + 1) stream
  let n ← bodyLength name (bare (lines.headD [])) lines
  if rest.length < n then none else some (stream.take (stream.length - rest.length + n),rest.drop n)

/-- A message for each of `bares`, and nothing behind them. -/
def readMessages : List (List UInt8 → Bool) → List UInt8 → Option (List (List UInt8))
  | [], stream => if stream = [] then some [] else none
  | bare :: bares, stream => do
    let (message,rest) ← readMessage name bare stream
    let messages ← readMessages bares rest
    some (message :: messages)

end

/-! ### Whole messages -/

/-- Lines as they are written. -/
def lay (lines : List (List UInt8)) : List UInt8 := lines.flatMap (· ++ [cr,lf]) ++ [cr,lf]

/-- Lines behind another, each with the end of the one before it. -/
def layBehind (lines : List (List UInt8)) : List UInt8 := lines.flatMap ([cr,lf] ++ ·)

theorem layBehind_append (lines lines' : List (List UInt8)) :
    layBehind (lines ++ lines') = layBehind lines ++ layBehind lines' :=
  List.flatMap_append

theorem lay_cons (line : List UInt8) (lines : List (List UInt8)) :
    lay (line :: lines) = line ++ layBehind lines ++ [cr,lf] ++ [cr,lf] := by
  induction lines generalizing line with
  | nil => simp [lay,layBehind]
  | cons next lines ih =>
    have step : lay (line :: next :: lines) = line ++ [cr,lf] ++ lay (next :: lines) := by simp [lay]
    rw [step,ih]
    simp [layBehind]

/-- A line that neither ends the head nor goes over its end. -/
def Plain (line : List UInt8) : Prop := line ≠ [] ∧ cr ∉ line

instance (line : List UInt8) : Decidable (Plain line) := inferInstanceAs (Decidable (_ ∧ _))

theorem cutLine_line {line : List UInt8} (plain : cr ∉ line) (rest : List UInt8) :
    cutLine (line ++ cr :: lf :: rest) = some (line,rest) := by
  induction line with
  | nil => rfl
  | cons octet line ih =>
    rw [List.mem_cons,not_or] at plain
    rw [List.cons_append,cutLine,if_neg (fun ends => plain.1 ends.1.symm),ih plain.2]
    rfl

theorem cutHead_lay {lines : List (List UInt8)} (plain : ∀ line ∈ lines, Plain line) {n : Nat} (enough : lines.length < n)
    (rest : List UInt8) : cutHead n (lay lines ++ rest) = some (lines,rest) := by
  induction lines generalizing n with
  | nil =>
    obtain ⟨n,rfl⟩ : ∃ m, n = m + 1 := ⟨n - 1,by omega⟩
    rfl
  | cons line lines ih =>
    obtain ⟨n,rfl⟩ : ∃ m, n = m + 1 := ⟨n - 1,by omega⟩
    have first := plain line (by simp)
    have split : lay (line :: lines) ++ rest = line ++ cr :: lf :: (lay lines ++ rest) := by simp [lay]
    rw [split,cutHead,cutLine_line first.2]
    cases line with
    | nil => exact absurd rfl first.1
    | cons octet line =>
      dsimp only
      rw [ih (fun l mem => plain l (by simp [mem])) (by simp at enough; omega)]
      rfl

theorem lay_length (lines : List (List UInt8)) : lines.length < (lay lines).length := by
  induction lines with
  | nil => simp [lay]
  | cons line lines ih =>
    have step : lay (line :: lines) = line ++ [cr,lf] ++ lay lines := by simp [lay]
    rw [step]
    simp
    omega

/-- A message that is written whole: its lines, and the body they announce. -/
def Whole (name : List UInt8) (bare : List UInt8 → Bool) (message : List UInt8) : Prop :=
  ∃ lines body, message = lay lines ++ body ∧ (∀ line ∈ lines, Plain line) ∧
    bodyLength name (bare (lines.headD [])) lines = some body.length

variable {name : List UInt8}

theorem readMessage_whole {bare : List UInt8 → Bool} {message : List UInt8} (whole : Whole name bare message)
    (rest : List UInt8) : readMessage name bare (message ++ rest) = some (message,rest) := by
  obtain ⟨lines,body,rfl,plain,length⟩ := whole
  have enough := lay_length lines
  rw [readMessage,List.append_assoc,cutHead_lay plain (by simp; omega)]
  simp only [Option.bind_eq_bind,Option.bind_some]
  rw [length]
  simp only [Option.bind_some]
  rw [if_neg (by simp)]
  have all : (lay lines ++ (body ++ rest)).length - (body ++ rest).length + body.length = (lay lines ++ body).length := by
    simp only [List.length_append]
    omega
  rw [all,← List.append_assoc,List.take_left,List.drop_left]

/-- Whole messages, one behind the other, are read as they were written. -/
theorem readMessages_whole {bares : List (List UInt8 → Bool)} {messages : List (List UInt8)}
    (whole : List.Forall₂ (Whole name) bares messages) : readMessages name bares messages.flatten = some messages := by
  induction whole with
  | nil => rfl
  | cons first _ ih =>
    rw [List.flatten_cons,readMessages,readMessage_whole first]
    simp only [Option.bind_eq_bind,Option.bind_some]
    rw [ih]
    rfl

/-! ### Values -/

/-- A value without a blank at either end. -/
def Trimmed (value : List UInt8) : Prop := value.dropWhile isBlank = value ∧ value.rdropWhile isBlank = value

instance (value : List UInt8) : Decidable (Trimmed value) := inferInstanceAs (Decidable (_ ∧ _))

theorem trimmed_dark {value : List UInt8} (dark : ∀ octet ∈ value, isBlank octet = false) : Trimmed value := by
  constructor
  · rw [List.dropWhile_eq_self_iff]
    exact fun inside => by simp [dark _ (List.getElem_mem inside)]
  · rw [List.rdropWhile_eq_self_iff]
    exact fun some_ => by simp [dark _ (List.getLast_mem some_)]

theorem trimmed_append {octet : UInt8} {a b : List UInt8} (front : isBlank octet = false) (some_ : b ≠ [])
    (dark : ∀ octet ∈ b, isBlank octet = false) : Trimmed (octet :: a ++ b) := by
  constructor
  · rw [List.cons_append,List.dropWhile_cons_of_neg (by rw [front]; decide)]
  · rw [List.rdropWhile_eq_self_iff]
    intro nonempty
    rw [List.getLast_append_of_ne_nil nonempty some_,dark _ (List.getLast_mem some_)]
    decide

theorem valueOf_trimmed {name written : List UInt8} (folded : written.map lower = name) {value : List UInt8}
    (trimmed : Trimmed value) :
    valueOf name (written ++ colon :: 32 :: value) = some value := by
  have length : written.length = name.length := by rw [← folded,List.length_map]
  rw [valueOf,← length,List.take_left,folded,if_pos ⟨rfl,by simp⟩]
  have behind : (written ++ colon :: 32 :: value).drop (written.length + 1) = 32 :: value := by
    rw [← List.drop_drop,List.drop_left]
    rfl
  rw [behind,List.dropWhile_cons_of_pos (by decide),trimmed.1,trimmed.2]

theorem valueOf_line {name written : List UInt8} (folded : written.map lower = name) (value : List UInt8)
    (dark : ∀ octet ∈ value, isBlank octet = false) :
    valueOf name (written ++ colon :: 32 :: value) = some value :=
  valueOf_trimmed folded (trimmed_dark dark)

/-- A line of another name has no value for this one. -/
theorem valueOf_other {name written : List UInt8} (other : written.map lower ≠ name) (free : colon ∉ name)
    (free' : colon ∉ written)
    (value : List UInt8) : valueOf name (written ++ colon :: 32 :: value) = none := by
  rw [valueOf,if_neg]
  rintro ⟨front,ends⟩
  rcases Nat.lt_trichotomy name.length written.length with shorter | same | longer
  · rw [List.getElem?_append_left shorter] at ends
    exact free' (List.mem_of_getElem? ends)
  · rw [same,List.take_left] at front
    exact other front
  · have inside : colon ∈ (written ++ colon :: 32 :: value).take name.length := by
      rw [List.take_append,List.mem_append]
      right
      obtain ⟨more,length⟩ : ∃ more, name.length - written.length = more + 1 :=
        ⟨name.length - written.length - 1,by omega⟩
      rw [length,List.take_succ_cons]
      exact List.mem_cons_self
    have folded := List.mem_map_of_mem (f := lower) inside
    rw [front] at folded
    exact free folded

/-- A field as a line. -/
def fieldLine (field : List UInt8 × List UInt8) : List UInt8 := field.1 ++ colon :: 32 :: field.2

/-- The value of a name in lines that are fields is that of the first field of the name. -/
theorem valueOf_fieldLines {name : List UInt8} (free : colon ∉ name) {fields : List (List UInt8 × List UInt8)}
    (proper : ∀ field ∈ fields, colon ∉ field.1 ∧ (field.1.map lower = name → Trimmed field.2)) :
    (fields.map fieldLine).findSome? (valueOf name) =
      (fields.find? fun field => field.1.map lower = name).map Prod.snd := by
  induction fields with
  | nil => rfl
  | cons field fields ih =>
    obtain ⟨⟨free',trimmed⟩,rest⟩ := List.forall_mem_cons.mp proper
    rw [List.map_cons,fieldLine]
    by_cases named : field.1.map lower = name
    · have value := valueOf_trimmed named (trimmed named)
      rw [List.findSome?_cons_of_isSome (by rw [value]; rfl),value,List.find?_cons_of_pos (by simpa using named)]
      rfl
    · rw [List.findSome?_cons_of_isNone (by rw [valueOf_other named free free']; rfl),
        List.find?_cons_of_neg (by simpa using named),ih rest]

end Sarm.Messages
