import Sarm.Isolation

/-!
What a header list says: its method, its path and its range, each by the first field of
that name. A list that is accepted has its record by these.
-/
namespace Sarm.H2
open Sarm.Memory
open Sarm.Hpack (ascii FieldRef Ptr)

/-! ### The fields -/

section
variable (read : Ptr → Mem)

def isNamed (name : String) (f : FieldRef) : Bool := h2NameEq (read f.name) f.nameLen name

/-- The name is compared without case. -/
def isRange (f : FieldRef) : Bool :=
  f.nameLen = (ascii "range").length && streqnI (slice (read f.name) 0 (ascii "range").length) (ascii "range")

/-- The value of the first field that a name is accepted of. -/
def valueIn (named : FieldRef → Bool) (fields : List FieldRef) : Option (List UInt8) :=
  (fields.find? named).map fun f => slice (read f.value) 0 f.valueLen

/-- What a slot of the scan holds. -/
def slotText (slot : Option (Ptr × Nat)) : Option (List UInt8) := slot.map fun (value,len) => slice (read value) 0 len

/-- The range that has been copied. -/
def Scan.wanted (scan : Scan) : Option (List UInt8) := scan.range.map (slice scan.rangeBuf 0)

variable {read}

theorem isNamed_alone {name name' : String} {f : FieldRef} (other : ascii name ≠ ascii name')
    (named : isNamed read name f = true) :
    isNamed read name' f = false := by
  rw [isNamed,h2NameEq,Bool.and_eq_true,decide_eq_true_eq,decide_eq_true_eq] at named
  rw [isNamed,h2NameEq,Bool.and_eq_false_iff,decide_eq_false_iff_not,decide_eq_false_iff_not]
  by_cases length : f.nameLen = (ascii name').length
  · right
    rw [named.2]
    exact other
  · exact .inl length

/-- A slot that is filled with the field, or left as it is. -/
theorem slotText_or {slot : Option (Ptr × Nat)} {f : FieldRef} (free : slot.isSome = false) :
    slotText read (some (f.value,f.valueLen)) = (slotText read slot).or (some (slice (read f.value) 0 f.valueLen)) := by
  rw [Option.isSome_eq_false_iff,Option.isNone_iff_eq_none] at free
  rw [free]
  rfl

/-- A pseudo-header goes to the slot of its name. -/
theorem pseudo_slots {scan next : Scan} {f : FieldRef} (taken : scan.pseudo read f = some next) :
    slotText read next.method = (slotText read scan.method).or (valueIn read (isNamed read ":method") [f]) ∧
      slotText read next.path = (slotText read scan.path).or (valueIn read (isNamed read ":path") [f]) ∧
      next.range = scan.range ∧ next.rangeBuf = scan.rangeBuf := by
  have missing : ∀ {name : String}, isNamed read name f = false → valueIn read (isNamed read name) [f] = none := by
    intro name other
    rw [valueIn,List.find?_cons_of_neg (by rw [other]; decide)]
    rfl
  have present : ∀ {name : String}, isNamed read name f = true →
      valueIn read (isNamed read name) [f] = some (slice (read f.value) 0 f.valueLen) := by
    intro name named
    rw [valueIn,List.find?_cons_of_pos named]
    rfl
  rw [Scan.pseudo] at taken
  split at taken
  · cases taken
  split at taken
  · next method =>
    split at taken
    · cases taken
    next free =>
    cases taken
    rw [present method,missing (isNamed_alone (by decide) method),Option.or_none]
    exact ⟨slotText_or (by simpa using free),rfl,rfl,rfl⟩
  next other =>
  rw [missing (show isNamed read ":method" f = false by simpa [isNamed] using other),Option.or_none]
  split at taken
  · next path =>
    split at taken
    · cases taken
    next free =>
    cases taken
    rw [present path]
    exact ⟨rfl,slotText_or (by simpa using free),rfl,rfl⟩
  next other =>
  rw [missing (show isNamed read ":path" f = false by simpa [isNamed] using other),Option.or_none]
  split at taken
  · split at taken <;> cases taken
    exact ⟨rfl,rfl,rfl,rfl⟩
  split at taken
  · split at taken <;> cases taken
    exact ⟨rfl,rfl,rfl,rfl⟩
  · cases taken

theorem isNamed_pseudo {name : String} {f : FieldRef} (regular : read f.name 0 ≠ ':'.toUInt8)
    (pseudo : (ascii name).head? = some ':'.toUInt8) : isNamed read name f = false := by
  rw [isNamed,h2NameEq,Bool.and_eq_false_iff,decide_eq_false_iff_not,decide_eq_false_iff_not]
  by_cases length : f.nameLen = (ascii name).length
  · right
    intro same
    rw [← same,length] at pseudo
    cases octets : (ascii name).length with
    | zero => rw [octets] at pseudo; cases pseudo
    | succ n =>
      rw [octets,slice_succ,List.head?_cons,Option.some.injEq] at pseudo
      exact regular pseudo
  · exact .inl length

/-- A name in the form of a pseudo-header is not that of the range. -/
theorem isRange_regular {f : FieldRef} (pseudo : read f.name 0 = ':'.toUInt8) : isRange read f = false := by
  rw [isRange,Bool.and_eq_false_iff]
  right
  rw [show (ascii "range").length = 4 + 1 by decide,slice_succ,pseudo,
    show ascii "range" = 'r'.toUInt8 :: ascii "ange" by decide,streqnI,if_neg (by decide),if_neg (by decide)]
  exact Bool.and_eq_false_iff.mpr (.inl (by decide))

/-- Any other field may be the range. -/
theorem field_slots (scan : Scan) (f : FieldRef) :
    (scan.field read f).method = scan.method ∧ (scan.field read f).path = scan.path ∧
      (scan.field read f).wanted = scan.wanted.or ((valueIn read (isRange read) [f]).map (List.take rangeBufSize)) := by
  rw [Scan.field]
  dsimp only
  by_cases name : isRange read f = true
  · have there := name
    rw [isRange,Bool.and_eq_true,decide_eq_true_eq] at there
    have value : valueIn read (isRange read) [f] = some (slice (read f.value) 0 f.valueLen) := by
      rw [valueIn,List.find?_cons_of_pos name]
      rfl
    rw [value,Option.map_some]
    by_cases first : scan.range = none
    · rw [if_pos ⟨there.1,there.2,first⟩]
      refine ⟨rfl,rfl,?_⟩
      rw [Scan.wanted,Scan.wanted,first,Option.map_none,Option.none_or,Option.map_some,slice_blit_same]
      have cut := @slice_drop_take (read f.value) 0 f.valueLen 0 (min f.valueLen rangeBufSize) (by omega)
      rw [List.drop_zero,Nat.zero_add] at cut
      rw [← cut,Option.some.injEq,List.take_eq_take_iff,slice_length]
      omega
    · rw [if_neg (fun all => first all.2.2)]
      refine ⟨rfl,rfl,?_⟩
      obtain ⟨length,some⟩ := Option.ne_none_iff_exists'.mp first
      rw [Scan.wanted,Scan.wanted,some]
      rfl
  · have value : valueIn read (isRange read) [f] = none := by
      rw [valueIn,List.find?_cons_of_neg name]
      rfl
    rw [isRange,Bool.and_eq_true,decide_eq_true_eq,not_and] at name
    rw [if_neg (fun all => name all.1 all.2.1),value,Option.map_none,Option.or_none]
    exact ⟨rfl,rfl,rfl⟩

theorem valueIn_cons (named : FieldRef → Bool) (f : FieldRef) (fields : List FieldRef) :
    valueIn read named (f :: fields) = (valueIn read named [f]).or (valueIn read named fields) := by
  rw [valueIn,valueIn,valueIn,List.find?_cons,List.find?_cons]
  cases named f <;> rfl

/-- What the slots come to hold is what the list says. -/
theorem scan_slots : ∀ (fields : List FieldRef) (scan scan' : Scan), scanFields read fields scan = (scan',true) →
    slotText read scan'.method = (slotText read scan.method).or (valueIn read (isNamed read ":method") fields) ∧
      slotText read scan'.path = (slotText read scan.path).or (valueIn read (isNamed read ":path") fields) ∧
      scan'.wanted = scan.wanted.or ((valueIn read (isRange read) fields).map (List.take rangeBufSize)) := by
  intro fields
  induction fields with
  | nil =>
    intro scan scan' scanned
    cases scanned
    simp [valueIn]
  | cons f fields ih =>
    intro scan scan' scanned
    rw [scanFields] at scanned
    rw [valueIn_cons (isNamed read ":method"),valueIn_cons (isNamed read ":path"),valueIn_cons (isRange read)]
    by_cases pseudo : read f.name 0 = ':'.toUInt8
    · rw [if_pos pseudo] at scanned
      cases taken : scan.pseudo read f with
      | none => rw [taken] at scanned; cases scanned
      | some next =>
        rw [taken] at scanned
        obtain ⟨method,path,range⟩ := ih next scan' scanned
        obtain ⟨method',path',count,buf⟩ := pseudo_slots taken
        have none : valueIn read (isRange read) [f] = none := by
          rw [valueIn,List.find?_cons_of_neg (by rw [isRange_regular pseudo]; decide)]
          rfl
        rw [none,Option.none_or]
        rw [method',Option.or_assoc] at method
        rw [path',Option.or_assoc] at path
        have same : next.wanted = scan.wanted := by rw [Scan.wanted,Scan.wanted,count,buf]
        exact ⟨method,path,same ▸ range⟩
    · rw [if_neg pseudo] at scanned
      obtain ⟨method,path,range⟩ := ih _ scan' scanned
      obtain ⟨method',path',range'⟩ := @field_slots read scan f
      have none : ∀ name, (ascii name).head? = some ':'.toUInt8 → valueIn read (isNamed read name) [f] = none := by
        intro name form
        rw [valueIn,List.find?_cons_of_neg (by rw [isNamed_pseudo pseudo form]; decide)]
        rfl
      rw [none ":method" (by decide),none ":path" (by decide),Option.none_or,Option.none_or]
      rw [method'] at method
      rw [path'] at path
      rw [range',Option.or_assoc,← Option.map_or] at range
      exact ⟨method,path,range⟩

/-- The id of a method whose name is in the slot. -/
theorem methodId_text {slot : Option (Ptr × Nat)} {method : Method} {token : List UInt8}
    (known : Http1.methodToken method = some token) (text : slotText read slot = some token) :
    methodId read slot = some method := by
  obtain ⟨⟨value,len⟩,rfl,here⟩ := Option.map_eq_some_iff.mp text
  dsimp only at here
  have length : len = token.length := by rw [← here,slice_length]
  have tests : ∀ name : String, h2NameEq (read value) len name = decide (token = ascii name) := by
    intro name
    rw [h2NameEq,here,length]
    by_cases same : token = ascii name
    · simp [same]
    · simp [same]
  rw [methodId,tests,tests,tests]
  cases method with
  | unknown => cases known
  | get | head | options =>
    cases known
    rw [length]
    decide

/-! ### The record -/

/-- The path of an accepted target, once it is decoded. -/
theorem buildPath_says {method : Method} {streamId : Nat} {scan : Scan} {prior r : Request} {target : List UInt8}
    (built : buildPath read method streamId scan prior = (r,true)) (path : slotText read scan.path = some target) :
    (∃ name query, Http1.targetText (method ≠ .options) (Http1.FitsH2 wwwPrefix.length true) target = some (name,query) ∧
      decodeText name = some (slice r.filenameBuf 0 r.pathLength)) ∧
      r.range = scan.range.isSome ∧ r.rangeLength = scan.range.getD 0 ∧ r.rangeBuf = prior.rangeBuf := by
  obtain ⟨⟨value,len⟩,slot,here⟩ := Option.map_eq_some_iff.mp path
  dsimp only at here
  have length : len = target.length := by rw [← here,slice_length]
  have text := Http1.parseH2Path_text (method ≠ .options) ⟨prior.filenameBuf,prior.queryBuf⟩ (length ▸ here)
  rw [buildPath,slot] at built
  dsimp only at built
  split at built
  · cases built
  rw [length] at built
  split at built
  · cases built
  next bufs parsed found =>
  rw [found,Http1.resolvedH2,Option.map_some] at text
  have decoded := decodeUrl_text bufs.filename parsed.length
  split at built
  · cases built
  next filename n done =>
  rw [done,Option.map_some] at decoded
  split at built
  · cases built
    exact ⟨⟨_,_,text.symm,decoded.symm⟩,rfl,rfl,rfl⟩
  · cases built
    exact ⟨⟨_,_,text.symm,decoded.symm⟩,rfl,rfl,rfl⟩

/-- The record of an accepted list is by what the list says. -/
theorem build_says {streamId : Nat} {fields : List FieldRef} {prior r : Request} {method : Method}
    {token target : List UInt8}
    (built : h2BuildRequest read streamId fields prior = (r,true)) (known : Http1.methodToken method = some token)
    (named : valueIn read (isNamed read ":method") fields = some token)
    (path : valueIn read (isNamed read ":path") fields = some target) :
    r.method = method ∧
    (∃ name query, Http1.targetText (method ≠ .options) (Http1.FitsH2 wwwPrefix.length true) target =
      some (name,query) ∧
        decodeText name = some (slice r.filenameBuf 0 r.pathLength)) ∧
      r.range = (valueIn read (isRange read) fields).isSome ∧
      ∀ value ∈ valueIn read (isRange read) fields, slice r.rangeBuf 0 r.rangeLength = value.take rangeBufSize := by
  rw [h2BuildRequest] at built
  split at built
  · cases built
  next scan scanned =>
  obtain ⟨methodSlot,pathSlot,range⟩ := scan_slots _ _ _ scanned
  have range : scan.wanted = (valueIn read (isRange read) fields).map (List.take rangeBufSize) := range
  rw [methodId_text known (methodSlot.trans named)] at built
  have made : buildPath read method streamId scan { prior with rangeBuf := scan.rangeBuf } = (r,true) := by
    cases method with
    | unknown => cases known
    | get | head | options => exact built
  obtain ⟨names,asked,length,buf⟩ := buildPath_says made (pathSlot.trans path)
  refine ⟨(buildPath_streamId made).2,names,?_,?_⟩
  · have asked' := congrArg Option.isSome range
    rw [Scan.wanted,Option.isSome_map,Option.isSome_map] at asked'
    rw [asked,asked']
  · intro value mem
    rw [Option.mem_def.mp mem,Option.map_some,Scan.wanted,Option.map_eq_some_iff] at range
    obtain ⟨n,some,copied⟩ := range
    rw [length,buf,some,Option.getD_some]
    exact copied

end
end Sarm.H2
