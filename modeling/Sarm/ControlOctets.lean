import Mathlib.Data.List.TakeWhile
import Sarm.EmptyNames
import Sarm.PercentDecoding

/-!
Control octets in the path of a request. One that reaches the check of the decoded
path makes the request forbidden; but the decoder stops at a NUL before the check sees
it, and takes some for digits.
-/
namespace Sarm.H2
open Sarm.Memory
open Sarm.Octets (forall_octet)
open Sarm.Hpack (ascii Field FieldRef Ptr)
open Sarm.Http1 (asterisk collapse splitQuery withDefault FitsH2)

/-! ### Paths -/

/-- A control octet of ASCII. -/
def ControlOctet (octet : UInt8) : Prop := octet < 0x20 ∨ octet = 0x7f

/-- An escape denotes an octet. -/
def Denotes (p : List UInt8) (octet : UInt8) : Prop :=
  ∃ i high low a b, p[i]? = some '%'.toUInt8 ∧ p[i+1]? = some high ∧ p[i+2]? = some low ∧ hexDigit high = some a ∧
    hexDigit low = some b ∧ octet = UInt8.ofNat (16 * a + b)

/-- There is a control octet in a path, as it is or percent-encoded. -/
def HasControl (p : List UInt8) : Prop := ∃ octet, ControlOctet octet ∧ (octet ∈ p ∨ Denotes p octet)

/-- What is in front of the first NUL. -/
def beforeNul (p : List UInt8) : List UInt8 := p.takeWhile (· ≠ 0)

/-- A control octet that passes for a digit as that digit. -/
def asDigit (octet : UInt8) : UInt8 := if ControlDigit octet then octet + 0x20 else octet

/-- A path with the digits of its escapes as they are read. -/
def asDigits : List UInt8 → List UInt8
  | [] => []
  | octet :: rest =>
    if octet = '%'.toUInt8 then
      match rest with
      | high :: low :: rest => octet :: asDigit high :: asDigit low :: asDigits rest
      | _ => octet :: rest
    else octet :: asDigits rest

/-- A decoded path that is looked up: it is printable, and no segment of it is two dots. -/
def SafePath (path : List UInt8) : Prop :=
  (∀ octet ∈ path, 0x20 ≤ octet.toNat ∧ octet.toNat ≤ 0x7e) ∧ dotDot ∉ path.splitOn '/'.toUInt8

/-- A path that stands for one that is looked up. -/
def Servable (p : List UInt8) : Prop := Escaped hexDigit p ∧ SafePath (percentDecode p)

/-- A target that has a place in the buffers, and would be served if it ended at its
    first NUL and had digits where it has control octets for them. -/
def Impostor : List UInt8 → Prop
  | [] => False
  | octet :: rest => octet = '/'.toUInt8 ∧ FitsH2 wwwPrefix.length true rest ∧
    Servable (asDigits (beforeNul (splitQuery rest).1))

/-- The request is accepted and its path is looked up. -/
def Served (result : Request × Bool) : Prop := result.2 = true ∧ result.1.LooksUp

/-! ### Decoding up to a NUL -/

/-- Where a digit should be there is none. -/
theorem decodeText_digit {high : UInt8} {rest : List UInt8} (bad : looseDigit high = none) :
    decodeText ('%'.toUInt8 :: high :: rest) = none := by
  cases rest with
  | nil => rfl
  | cons low rest => rw [decodeText_escape,hexText,hexToVal_loose,hexToVal_loose,bad]

theorem looseDigit_nul : looseDigit 0 = none := by decide

theorem beforeNul_nul (rest : List UInt8) : beforeNul (0 :: rest) = [] := List.takeWhile_cons_of_neg (by simp)

theorem beforeNul_cons {octet : UInt8} (other : octet ≠ 0) (rest : List UInt8) :
    beforeNul (octet :: rest) = octet :: beforeNul rest := List.takeWhile_cons_of_pos (by simpa using other)

theorem beforeNul_text (p : List UInt8) : ∀ octet ∈ beforeNul p, octet ≠ 0 := by
  intro octet member
  have all := List.all_eq_true.mp (List.all_takeWhile (l := p)) octet member
  simpa using all

theorem decodeText_nul (rest : List UInt8) : decodeText (0 :: rest) = some [] := by
  rw [decodeText.eq_def]
  dsimp only
  rw [if_pos rfl]

/-- An octet that is copied. -/
theorem decodeText_plain {octet : UInt8} (nul : octet ≠ 0) (percent : octet ≠ '%'.toUInt8) (rest : List UInt8) :
    decodeText (octet :: rest) = (decodeText rest).map (octet :: ·) := by
  rw [decodeText.eq_def]
  dsimp only
  rw [if_neg nul,if_neg percent]

/-- The decoder does not see what is behind a NUL. -/
theorem decodeText_beforeNul (s : List UInt8) : decodeText (beforeNul s) = decodeText s := by
  -- Two octets behind a percent sign, of which one may be the NUL.
  have escape : ∀ high low rest, decodeText (beforeNul rest) = decodeText rest →
      decodeText (beforeNul ('%'.toUInt8 :: high :: low :: rest)) = decodeText ('%'.toUInt8 :: high :: low :: rest) := by
    intro high low rest same
    rw [beforeNul_cons (by decide)]
    by_cases first : high = 0
    · rw [first,beforeNul_nul,decodeText_digit looseDigit_nul]
      rfl
    rw [beforeNul_cons first]
    by_cases second : low = 0
    · rw [second,beforeNul_nul,decodeText_escape,hexText,hexToVal_loose,hexToVal_loose,looseDigit_nul]
      cases looseDigit high <;> rfl
    · rw [beforeNul_cons second,decodeText_escape,decodeText_escape,same]
  induction s using asDigits.induct with
  | case1 => rfl
  | case2 high low rest ih => exact escape high low rest ih
  | case3 rest short =>
    rcases short_rest short with rfl | ⟨high,rfl⟩
    · rfl
    · by_cases nul : high = 0
      · rw [nul]; rfl
      · rw [beforeNul_cons (by decide),beforeNul_cons nul]; rfl
  | case4 octet rest percent ih =>
    by_cases nul : octet = 0
    · rw [nul,beforeNul_nul,decodeText_nul]; rfl
    · rw [beforeNul_cons nul,decodeText_plain nul percent,decodeText_plain nul percent,ih]

/-! ### Control octets for digits -/

theorem asDigit_spec : ∀ octet, looseDigit octet = hexDigit (asDigit octet) ∧
    looseDigit (asDigit octet) = looseDigit octet ∧
    (octet ≠ 0 → asDigit octet ≠ 0) := forall_octet (by decide +kernel)

theorem asDigits_escape (high low : UInt8) (rest : List UInt8) :
    asDigits ('%'.toUInt8 :: high :: low :: rest) = '%'.toUInt8 :: asDigit high :: asDigit low :: asDigits rest := by
  rw [asDigits,if_pos rfl]

theorem asDigits_plain {octet : UInt8} (percent : octet ≠ '%'.toUInt8) (rest : List UInt8) :
    asDigits (octet :: rest) = octet :: asDigits rest := by
  rw [asDigits.eq_def]
  dsimp only
  rw [if_neg percent]

theorem asDigits_text {s : List UInt8} (text : ∀ octet ∈ s, octet ≠ 0) : ∀ octet ∈ asDigits s, octet ≠ 0 := by
  induction s using asDigits.induct with
  | case1 => exact text
  | case2 high low rest ih =>
    simp only [List.forall_mem_cons] at text
    rw [asDigits_escape]
    simp only [List.forall_mem_cons]
    exact ⟨text.1,(asDigit_spec high).2.2 text.2.1,(asDigit_spec low).2.2 text.2.2.1,ih text.2.2.2⟩
  | case3 rest short =>
    rcases short_rest short with rfl | ⟨high,rfl⟩
    · exact text
    · exact text
  | case4 octet rest percent ih =>
    rw [List.forall_mem_cons] at text
    rw [asDigits_plain percent,List.forall_mem_cons]
    exact ⟨text.1,ih text.2⟩

/-- Escapes pass for what they are with digits. -/
theorem escaped_asDigits (s : List UInt8) : Escaped looseDigit s ↔ Escaped hexDigit (asDigits s) := by
  induction s using asDigits.induct with
  | case1 => simp [Escaped,asDigits]
  | case2 high low rest ih =>
    rw [asDigits_escape,escaped_escape looseDigit_percent,escaped_escape hexDigit_percent,ih,Denoting,Denoting,
      (asDigit_spec high).1,(asDigit_spec low).1]
  | case3 rest short =>
    rcases short_rest short with rfl | ⟨high,rfl⟩
    · exact iff_of_false (escaped_short (by simp)) (escaped_short (by simp))
    · exact iff_of_false (escaped_short (by simp)) (escaped_short (by simp))
  | case4 octet rest percent ih => rw [asDigits_plain percent,escaped_plain percent,escaped_plain percent,ih]

theorem decodeText_asDigits (s : List UInt8) : decodeText (asDigits s) = decodeText s := by
  induction s using asDigits.induct with
  | case1 => rfl
  | case2 high low rest ih =>
    have pair : hexText (asDigit high) (asDigit low) = hexText high low := by
      rw [hexText,hexText,hexToVal_loose,hexToVal_loose,hexToVal_loose,hexToVal_loose,(asDigit_spec high).2.1,
        (asDigit_spec low).2.1]
    rw [asDigits_escape,decodeText_escape,decodeText_escape,pair,ih]
  | case3 rest short =>
    rcases short_rest short with rfl | ⟨high,rfl⟩
    · rfl
    · rfl
  | case4 octet rest percent ih =>
    rw [asDigits_plain percent]
    by_cases nul : octet = 0
    · rw [nul,decodeText_nul,decodeText_nul]
    · rw [decodeText_plain nul percent,decodeText_plain nul percent,ih]

/-- What a path is decoded to. -/
theorem decodeText_mem {p path : List UInt8} :
    path ∈ decodeText p ↔ Escaped hexDigit (asDigits (beforeNul p)) ∧ path = percentDecode (asDigits (beforeNul p)) := by
  have text := asDigits_text (beforeNul_text p)
  have passes := decodeText_isSome _ (beforeNul_text p)
  rw [decodeText_beforeNul,escaped_asDigits] at passes
  have value : Escaped hexDigit (asDigits (beforeNul p)) →
      decodeText p = some (percentDecode (asDigits (beforeNul p))) := by
    intro proper
    rw [← decodeText_beforeNul p,← decodeText_asDigits]
    exact decodeText_proper _ text proper
  constructor
  · intro decoded
    have proper := passes.mp (by rw [Option.mem_def.mp decoded]; rfl)
    exact ⟨proper,Option.some.inj ((Option.mem_def.mp decoded).symm.trans (value proper))⟩
  · rintro ⟨proper,rfl⟩
    exact value proper

/-! ### Slashes -/

/-- What the checks make of a decoded path, inside a segment. -/
def Passes (decoded : Option (List UInt8)) (dots count : Nat) : Prop :=
  ∃ path ∈ decoded, checkPathSafety path = true ∧ traversalLoop path dots count = true

theorem passes_none {dots count : Nat} : ¬Passes none dots count := by
  rintro ⟨path,member,_⟩
  cases member

/-- An octet at the front, and where it leaves the segment. -/
theorem passes_cons {decoded : Option (List UInt8)} {octet : UInt8} {dots count : Nat} :
    Passes (decoded.map (octet :: ·)) dots count ↔ checkPathSafety [octet] = true ∧
      if octet = '/'.toUInt8 ∨ octet = 0 then segmentSafe dots count = true ∧ Passes decoded 0 0
      else Passes decoded (if octet = '.'.toUInt8 then dots + 1 else dots) (count + 1) := by
  cases decoded with
  | none => simp [Passes]
  | some path =>
    simp only [Passes,Option.map_some,Option.mem_some_iff,exists_eq_left',traversalLoop]
    rw [show checkPathSafety (octet :: path) = (checkPathSafety [octet] && checkPathSafety path) by simp
      [checkPathSafety]]
    split
    · rw [Bool.and_eq_true,Bool.and_eq_true]; tauto
    · rw [Bool.and_eq_true]; tauto

theorem collapse_false (octet : UInt8) (rest : List UInt8) :
    collapse false (octet :: rest) = octet :: collapse (octet = '/'.toUInt8) rest := by
  rw [collapse,Http1.kept,if_neg (by simp)]
  rfl

theorem collapse_other {octet : UInt8} (other : octet ≠ '/'.toUInt8) (slash : Bool) (rest : List UInt8) :
    collapse slash (octet :: rest) = octet :: collapse false rest := by
  rw [collapse,Http1.kept,if_neg (by simp [other]),decide_eq_false other]
  rfl

theorem looseDigit_slash : looseDigit '/'.toUInt8 = none := by decide

/-- Runs of slashes make no difference to the checks. -/
theorem collapse_passes (s : List UInt8) : ∀ (slash : Bool) (dots count : Nat), (slash = true → dots = 0 ∧ count = 0) →
    (Passes (decodeText (collapse slash s)) dots count ↔ Passes (decodeText s) dots count) := by
  induction s using asDigits.induct with
  | case1 => intro _ _ _ _; rfl
  | case2 high low rest ih =>
    intro slash dots count _
    rw [collapse_other (by decide),collapse_false]
    by_cases bad : looseDigit high = none
    · rw [decodeText_digit bad,decodeText_digit bad]
    have first : high ≠ '/'.toUInt8 := by rintro rfl; exact bad looseDigit_slash
    rw [decide_eq_false first,collapse_false,decodeText_escape,decodeText_escape]
    cases value : hexText high low with
    | none => rfl
    | some octet =>
      have second : low ≠ '/'.toUInt8 := by
        rintro rfl
        rw [hexText,hexToVal_loose,hexToVal_loose,looseDigit_slash] at value
        cases known : looseDigit high <;> rw [known] at value <;> cases value
      dsimp only
      split
      · rfl
      · rw [decide_eq_false second,passes_cons,passes_cons,ih false 0 0 (absurd · Bool.false_ne_true),
          ih false _ _ (absurd · Bool.false_ne_true)]
  | case3 rest short =>
    intro slash dots count _
    rcases short_rest short with rfl | ⟨high,rfl⟩
    · rw [collapse_other (by decide)]; rfl
    · rw [collapse_other (by decide),collapse_false]; rfl
  | case4 octet rest percent ih =>
    intro slash dots count free
    by_cases nul : octet = 0
    · rw [nul,collapse_other (by decide),decodeText_nul,decodeText_nul]
    by_cases here : octet = '/'.toUInt8
    · subst here
      cases slash with
      | false =>
        rw [collapse_false,decide_eq_true rfl,decodeText_plain nul percent,decodeText_plain nul percent,passes_cons,
          passes_cons,
          if_pos (.inl rfl),if_pos (.inl rfl),ih true 0 0 fun _ => ⟨rfl,rfl⟩]
      | true =>
        obtain ⟨rfl,rfl⟩ := free rfl
        have dropped : collapse true ('/'.toUInt8 :: rest) = collapse true rest := by
          rw [collapse,Http1.kept,if_pos ⟨rfl,rfl⟩,decide_eq_true rfl,List.nil_append]
        rw [dropped,ih true 0 0 fun _ => ⟨rfl,rfl⟩,decodeText_plain nul percent,passes_cons,if_pos (.inl rfl)]
        exact ⟨fun passes => ⟨by decide,by decide,passes⟩,fun all => all.2.2⟩
    · rw [collapse_other here,decodeText_plain nul percent,decodeText_plain nul percent,passes_cons,passes_cons,
        if_neg (not_or.mpr ⟨here,nul⟩),if_neg (not_or.mpr ⟨here,nul⟩),
        ih false _ _ (absurd · Bool.false_ne_true)]

/-- The docroot is printable and one segment. -/
theorem passes_docroot (s : List UInt8) : Passes (decodeText (wwwPrefix ++ s)) 0 0 ↔ Passes (decodeText s) 0 0 := by
  have www : wwwPrefix ++ s = 'w'.toUInt8 :: 'w'.toUInt8 :: 'w'.toUInt8 :: '/'.toUInt8 :: s := rfl
  have letter : ∀ decoded count, Passes (Option.map ('w'.toUInt8 :: ·) decoded) 0 count ↔
      Passes decoded 0 (count + 1) := by
    intro decoded count
    rw [passes_cons,if_neg (by decide),if_neg (by decide)]
    exact ⟨And.right,fun passes => ⟨by decide,passes⟩⟩
  have slash : ∀ decoded, Passes (Option.map ('/'.toUInt8 :: ·) decoded) 0 3 ↔ Passes decoded 0 0 := by
    intro decoded
    rw [passes_cons,if_pos (.inl rfl)]
    exact ⟨fun all => all.2.2,fun passes => ⟨by decide,by decide,passes⟩⟩
  rw [www,decodeText_plain (by decide) (by decide),letter,decodeText_plain (by decide) (by decide),letter,
    decodeText_plain (by decide) (by decide),letter,decodeText_plain (by decide) (by decide),slash]

/-- The checks pass what stands for a path that is looked up. -/
theorem passes_servable (p : List UInt8) : Passes (decodeText p) 0 0 ↔ Servable (asDigits (beforeNul p)) := by
  have safe : ∀ path, (checkPathSafety path = true ∧ traversalLoop path 0 0 = true) ↔ SafePath path := by
    intro path
    rw [SafePath,checkPathSafety_iff]
    refine and_congr_right fun printable => ?_
    exact checkPathTraversal_iff fun octet member => by
      rintro rfl
      exact absurd (printable 0 member).1 (by decide)
  simp only [Passes,decodeText_mem,safe,Servable]
  constructor
  · rintro ⟨_,⟨proper,rfl⟩,passes⟩
    exact ⟨proper,passes⟩
  · rintro ⟨proper,passes⟩
    exact ⟨_,⟨proper,rfl⟩,passes⟩

/-! ### Requests -/

section Reading
variable {read : Ptr → Mem}

/-- A target is looked up if and only if its file name passes the checks. -/
theorem buildPath_served {method : Method} {streamId : Nat} {scan : Scan} {r : Request} (known : method ≠ .unknown) :
    Served (buildPath read method streamId scan r) ↔
      ∃ target ∈ slotText read scan.path, Passes (pathText (method ≠ .options) target) 0 0 := by
  rw [buildPath]
  rcases slot : scan.path with _ | ⟨value,len⟩
  · simp [slotText,Served]
  simp only [slotText,Option.map_some,Option.mem_some_iff,exists_eq_left']
  have text := @Http1.parseH2Path_text (read value) (slice (read value) 0 len)
    (method ≠ .options) ⟨r.filenameBuf,r.queryBuf⟩
    (by rw [slice_length])
  rw [slice_length] at text
  rw [pathText,← text]
  by_cases empty : len = 0
  · rw [if_pos empty,empty]
    simp [parseH2Path,Http1.resolvedH2,Served,Passes]
  rw [if_neg empty]
  generalize parseH2Path (read value) len (method ≠ .options) ⟨r.filenameBuf,r.queryBuf⟩ = parsed
  obtain ⟨bufs,_ | parsed⟩ := parsed
  · simp [Http1.resolvedH2,Served,Passes]
  simp only [Http1.resolvedH2,Option.map_some,Http1.text,Option.bind_some,← decodeUrl_text]
  generalize decodeUrl bufs.filename parsed.length = decoded
  obtain ⟨filename,_ | length⟩ := decoded
  · simp [Served,Passes]
  · have verdict : pathForbidden filename length = true ↔
        ¬(checkPathSafety (slice filename 0 length) = true ∧ traversalLoop (slice filename 0 length) 0 0 = true) := by
      rw [pathForbidden,checkPathTraversal,Bool.not_eq_true',← Bool.not_eq_true,Bool.and_eq_true]
    simp only [Passes,Option.map_some,Option.mem_some_iff,exists_eq_left']
    by_cases refused : pathForbidden filename length = true
    · rw [if_pos refused]
      exact iff_of_false (fun served => by cases served.2.1) (verdict.mp refused)
    · rw [if_neg refused]
      exact iff_of_true ⟨rfl,rfl,known⟩ (not_not.mp (mt verdict.mpr refused))

/-- The list is for a method that is served, and in order, as it is read. -/
def ForPath (read : Ptr → Mem) (fields : List FieldRef) : Prop :=
  Unmarked read fields ∧ Orderly [] (fields.map (fieldText read)) ∧
    ∃ method ∈ valueOf (ascii ":method") (fields.map (fieldText read)), method ∈ servedMethods

/-- A request is served if and only if it is handled and its file name passes the
    checks. -/
theorem build_served {streamId : Nat} {fields : List FieldRef} {r : Request} {target : List UInt8}
    (path : valueOf (ascii ":path") (fields.map (fieldText read)) = some target) :
    Served (h2BuildRequest read streamId fields r) ↔ ForPath read fields ∧
      ∃ method ∈ valueOf (ascii ":method") (fields.map (fieldText read)),
          Passes (pathText (method ≠ ascii "OPTIONS") target) 0 0 := by
  by_cases unmarked : Unmarked read fields
  · by_cases order : Orderly [] (fields.map (fieldText read))
    · obtain ⟨scan,pathSlot,built⟩ := @build_ordered read streamId fields r unmarked order
      rw [built,ForPath]
      cases valueOf (ascii ":method") (fields.map (fieldText read)) with
      | none => simp [Served]
      | some name =>
        simp only [Option.bind_some,Option.mem_some_iff,exists_eq_left',unmarked,order,true_and]
        rcases methodOf_cases name with ⟨empty,id⟩ | ⟨_,other,id⟩ | ⟨method,_,served,id,known,default⟩
        · rw [id,empty]
          exact iff_of_false (fun served => by cases served.1) fun all => absurd all.1 (by decide +kernel)
        · rw [id]
          exact iff_of_false (fun served => served.2.2 rfl) fun all => other all.1
        · have passes := @buildPath_served read method streamId scan { r with rangeBuf := scan.rangeBuf } known
          rw [pathSlot,path,default] at passes
          simp only [Option.mem_some_iff,exists_eq_left'] at passes
          rw [id]
          cases method with
          | unknown => exact absurd rfl known
          | get | head | options => exact passes.trans ⟨fun here => ⟨served,here⟩,And.right⟩
    · have rejected := @build_disordered read streamId fields r unmarked order
      exact iff_of_false (fun served => by rw [Served,rejected] at served; cases served.1) fun all => order all.1.2.1
  · have rejected := @build_marked read streamId fields r unmarked
    exact iff_of_false (fun served => by rw [Served,rejected] at served; cases served.1) fun all => unmarked all.1.1

/-! ### Control octets -/

theorem collapse_nil : ∀ (p : List UInt8) (slash : Bool), collapse slash p = [] → ∀ octet ∈ p, octet = '/'.toUInt8 := by
  intro p
  induction p with
  | nil => intro _ _ octet member; cases member
  | cons octet p ih =>
    intro slash none
    by_cases other : octet = '/'.toUInt8
    · rw [collapse,List.append_eq_nil_iff] at none
      exact List.forall_mem_cons.mpr ⟨other,ih _ none.2⟩
    · rw [collapse_other other] at none
      cases none

/-- A control octet, or the percent sign of an escape, is not a slash. -/
theorem HasControl.other {p : List UInt8} (control : HasControl p) : ∃ octet ∈ p, octet ≠ '/'.toUInt8 := by
  obtain ⟨octet,range,member | ⟨i,_,_,_,_,mark,_⟩⟩ := control
  · refine ⟨octet,member,?_⟩
    rintro rfl
    exact absurd range (by rw [ControlOctet]; decide)
  · exact ⟨'%'.toUInt8,List.mem_of_getElem? mark,by decide⟩

theorem splitQuery_plain {octet : UInt8} (plain : octet ≠ '?'.toUInt8) (rest : List UInt8) :
    (splitQuery (octet :: rest)).1 = octet :: (splitQuery rest).1 := by
  rw [splitQuery,if_neg plain]

/-- A target with a control octet passes the checks if and only if it is an impostor. -/
theorem control_passes {default : Bool} {target : List UInt8} (control : HasControl (splitQuery target).1) :
    Passes (pathText default target) 0 0 ↔ Impostor target := by
  cases target with
  | nil => exact iff_of_false passes_none id
  | cons octet rest =>
    rw [pathText,Http1.targetText,Impostor]
    by_cases slash : octet = '/'.toUInt8
    · subst slash
      rw [splitQuery_plain (by decide)] at control
      by_cases fits : FitsH2 wwwPrefix.length true rest
      · have named : withDefault default (wwwPrefix ++ collapse true (splitQuery rest).1) (splitQuery rest).2 =
            wwwPrefix ++ collapse true (splitQuery rest).1 := by
          rw [withDefault,if_neg]
          rintro ⟨_,empty,_⟩
          rw [List.length_append,Nat.add_eq_left,List.length_eq_zero_iff] at empty
          obtain ⟨octet,member,other⟩ := control.other
          rcases List.mem_cons.mp member with same | behind
          · exact other same
          · exact other (collapse_nil _ _ empty octet behind)
        rw [if_pos rfl,if_pos fits,Option.bind_some]
        dsimp only
        rw [named,passes_docroot,collapse_passes _ _ _ _ fun _ => ⟨rfl,rfl⟩,passes_servable]
        exact ⟨fun servable => ⟨rfl,fits,servable⟩,fun all => all.2.2⟩
      · rw [if_pos rfl,if_neg fits]
        exact iff_of_false passes_none fun all => fits all.2.1
    · rw [if_neg slash]
      by_cases star : octet :: rest = asterisk
      · rw [star] at control
        obtain ⟨octet,range,member | ⟨i,_,_,_,_,mark,_⟩⟩ := control
        · have same : octet = '*'.toUInt8 := by
            rw [asterisk,splitQuery_plain (by decide)] at member
            exact List.mem_singleton.mp member
          rw [same] at range
          exact absurd range (by rw [ControlOctet]; decide)
        · have percent : '%'.toUInt8 ∈ (splitQuery asterisk).1 := List.mem_of_getElem? mark
          exact absurd percent (by decide)
      · rw [if_neg star]
        exact iff_of_false passes_none fun all => slash all.1

/-! ### Impostors -/

theorem percentDecode_escape (high low : UInt8) (rest : List UInt8) :
    percentDecode ('%'.toUInt8 :: high :: low :: rest) =
      UInt8.ofNat (16 * (hexDigit high).getD 0 + (hexDigit low).getD 0) :: percentDecode rest := by
  rw [percentDecode,if_pos rfl]

theorem percentDecode_plain {octet : UInt8} (plain : octet ≠ '%'.toUInt8) (rest : List UInt8) :
    percentDecode (octet :: rest) = octet :: percentDecode rest := by
  rw [percentDecode.eq_def]
  dsimp only
  rw [if_neg plain]

theorem denotes_cons {head octet : UInt8} {rest : List UInt8} (other : head ≠ '%'.toUInt8)
    (denotes : Denotes (head :: rest) octet) :
    Denotes rest octet := by
  obtain ⟨i,high,low,a,b,mark,digits⟩ := denotes
  cases i with
  | zero =>
    rw [List.getElem?_cons_zero,Option.some.injEq] at mark
    exact absurd mark other
  | succ i => exact ⟨i,high,low,a,b,mark,digits⟩

/-- Octets that are no digits, and what escapes denote, are among those decoded. -/
theorem percentDecode_mem {p : List UInt8} (proper : Escaped hexDigit p) {octet : UInt8} (strange : hexDigit octet = none)
    (there : (octet ∈ p ∧ octet ≠ '%'.toUInt8) ∨ Denotes p octet) : octet ∈ percentDecode p := by
  have digit : ∀ {o a}, hexDigit o = some a → octet ≠ o ∧ o ≠ '%'.toUInt8 := by
    rintro o a known
    constructor
    · rintro rfl; rw [strange] at known; cases known
    · rintro rfl; rw [hexDigit_percent] at known; cases known
  induction p using asDigits.induct with
  | case1 =>
    rcases there with ⟨member,_⟩ | ⟨_,_,_,_,_,mark,_⟩
    · cases member
    · cases mark
  | case2 high low rest ih =>
    rw [escaped_escape hexDigit_percent] at proper
    obtain ⟨⟨a,b,left,right,_⟩,later⟩ := proper
    rw [percentDecode_escape,left,right,List.mem_cons]
    rcases there with ⟨member,other⟩ | denotes
    · simp only [List.mem_cons] at member
      exact .inr (ih later
        (.inl ⟨((member.resolve_left other).resolve_left (digit left).1).resolve_left (digit right).1,other⟩))
    · obtain ⟨i,high',low',a',b',mark,first,second,left',right',value⟩ := denotes
      match i, mark, first, second with
      | 0, _, first, second =>
        simp only [Nat.zero_add,List.getElem?_cons_succ,List.getElem?_cons_zero,Option.some.injEq] at first second
        subst first second
        rw [left,Option.some.injEq] at left'
        rw [right,Option.some.injEq] at right'
        rw [value,← left',← right']
        exact .inl rfl
      | 1, mark, _, _ => exact absurd (Option.some.inj mark) (digit left).2
      | 2, mark, _, _ => exact absurd (Option.some.inj mark) (digit right).2
      | i + 3, mark, first, second =>
        exact .inr (ih later (.inr ⟨i,high',low',a',b',mark,first,second,left',right',value⟩))
  | case3 rest short =>
    rcases short_rest short with rfl | ⟨high,rfl⟩
    · exact absurd proper (escaped_short (by simp))
    · exact absurd proper (escaped_short (by simp))
  | case4 head rest percent ih =>
    rw [percentDecode_plain percent,List.mem_cons]
    rcases there with ⟨member,other⟩ | denotes
    · rcases List.mem_cons.mp member with same | behind
      · exact .inl same
      · exact .inr (ih ((escaped_plain percent).mp proper) (.inl ⟨behind,other⟩))
    · exact .inr (ih ((escaped_plain percent).mp proper) (.inr (denotes_cons percent denotes)))

/-- A path with a control octet is not one that is looked up. -/
theorem servable_control {p : List UInt8} (control : HasControl p) : ¬Servable p := by
  have strange : ∀ octet, ControlOctet octet → hexDigit octet = none ∧ octet ≠ '%'.toUInt8 ∧
      ¬(0x20 ≤ octet.toNat ∧ octet.toNat ≤ 0x7e) := by
    simp only [ControlOctet]
    exact forall_octet (by decide +kernel)
  rintro ⟨proper,printable,_⟩
  obtain ⟨octet,range,there⟩ := control
  obtain ⟨none,other,unprintable⟩ := strange octet range
  exact unprintable (printable octet (percentDecode_mem proper none (there.imp_left fun member => ⟨member,other⟩)))

theorem asDigits_self (p : List UInt8) : (∀ i, p[i]? = some '%'.toUInt8 → ¬ControlBehind p i) → asDigits p = p := by
  induction p using asDigits.induct with
  | case1 => intro _; rfl
  | case2 high low rest ih =>
    intro plain
    have later : ∀ i, rest[i]? = some '%'.toUInt8 → ¬ControlBehind rest i := fun i mark => plain (i + 3) mark
    have digits : ¬ControlDigit high ∧ ¬ControlDigit low :=
      ⟨fun control => plain 0 rfl ⟨high,.inl rfl,control⟩,fun control => plain 0 rfl ⟨low,.inr rfl,control⟩⟩
    rw [asDigits_escape,asDigit,asDigit,if_neg digits.1,if_neg digits.2,ih later]
  | case3 rest short =>
    intro _
    rcases short_rest short with rfl | ⟨high,rfl⟩
    · rfl
    · rfl
  | case4 octet rest percent ih =>
    intro plain
    have later : ∀ i, rest[i]? = some '%'.toUInt8 → ¬ControlBehind rest i := fun i mark => plain (i + 1) mark
    rw [asDigits_plain percent,ih later]

/-- A path passes with a control octet only by a NUL, or by control octets for digits. -/
theorem impostor_marks {p : List UInt8} (control : HasControl p) (servable : Servable (asDigits (beforeNul p))) :
    0 ∈ p ∨ ∃ i, p[i]? = some '%'.toUInt8 ∧ ControlBehind p i := by
  by_contra neither
  obtain ⟨text,digits⟩ := not_or.mp neither
  have whole : beforeNul p = p := by
    refine List.takeWhile_eq_self_iff.mpr fun octet member => ?_
    have other : octet ≠ 0 := by
      rintro rfl
      exact text member
    simpa using other
  rw [whole,asDigits_self p fun i mark behind => digits ⟨i,mark,behind⟩] at servable
  exact servable_control control servable

/-- A request whose path has a control octet is not served, unless the path is an
    impostor in a list that is handled. -/
theorem control_refused {streamId : Nat} {fields : List FieldRef} {r : Request} {target : List UInt8}
    (path : valueOf (ascii ":path") (fields.map (fieldText read)) = some target)
      (control : HasControl (splitQuery target).1) :
    ¬Served (h2BuildRequest read streamId fields r) ↔ ¬(ForPath read fields ∧ Impostor target) := by
  rw [build_served path]
  refine not_congr (and_congr_right fun forPath => ?_)
  obtain ⟨_,_,method,named,_⟩ := forPath
  constructor
  · rintro ⟨method,_,passes⟩
    exact (control_passes control).mp passes
  · intro impostor
    exact ⟨method,named,(control_passes control).mpr impostor⟩

end Reading

/-- A path with a NUL, behind which there is more. -/
def nulPath : List UInt8 := ascii "/a.txt" ++ 0 :: ascii "b"

/-- A request for a path. -/
def listFor (target : List UInt8) : List Field := [⟨ascii ":method",ascii "GET"⟩,⟨ascii ":path",target⟩]

def noRecord : Request := ⟨.unknown,0,0,false,0,false,false,0,false,fun _ => 0,fun _ => 0,fun _ => 0,fun _ => 0⟩

/-- What is made of it. -/
def requestFor (target : List UInt8) : Request × Bool :=
  h2BuildRequest (listMemory 0 (listFor target)) 1 (listRefs (listFor target)) noRecord

theorem nulPath_control : HasControl (splitQuery nulPath).1 := ⟨0,by rw [ControlOctet]; decide,.inl (by decide +kernel)⟩

theorem control_refused_nul : ¬Served (requestFor nulPath) ↔
    ¬(ForPath (listMemory 0 (listFor nulPath)) (listRefs (listFor nulPath)) ∧ Impostor nulPath) :=
  control_refused (by rw [listRefs_text]; rfl) nulPath_control

/-- It is served as what is in front of the NUL. -/
theorem control_served : HasControl (splitQuery nulPath).1 ∧ Served (requestFor nulPath) ∧
    (requestFor nulPath).1.path = ascii "www/a.txt" := by
  refine ⟨nulPath_control,?_⟩
  rw [Served]
  decide +kernel

end Sarm.H2
