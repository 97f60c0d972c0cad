import Sarm.HeaderList
import Sarm.HpackFields
import Sarm.Trailers

/-!
What a request is made of. Of a decoded field the builder reads what the pointers and
lengths cover, and the first octet of the name, which is not the field's own if the
name is empty: then the octet decides whether the list is rejected.
-/
namespace Sarm.H2
open Sarm.Memory
open Sarm.Hpack (ascii Field FieldRef Ptr)

/-! ### Header lists -/

/-- The names of the pseudo-headers of a request. -/
def pseudoNames : List (List UInt8) := [ascii ":method",ascii ":path",ascii ":scheme",ascii ":authority"]

/-- A name in the form of a pseudo-header. -/
def PseudoForm (f : Field) : Prop := f.name.head? = some ':'.toUInt8

instance (f : Field) : Decidable (PseudoForm f) := inferInstanceAs (Decidable (_ = _))

/-- Behind the pseudo-headers of the given names come others, defined and not given
    yet, and then regular fields only. -/
def Orderly (seen : List (List UInt8)) : List Field → Prop
  | [] => True
  | f :: fields =>
    if PseudoForm f then f.name ∈ pseudoNames ∧ f.name ∉ seen ∧ Orderly (f.name :: seen) fields
    else ∀ f ∈ fields, ¬PseudoForm f

instance decidableOrderly : (seen : List (List UInt8)) → (fields : List Field) → Decidable (Orderly seen fields)
  | _, [] => isTrue trivial
  | seen, f :: fields =>
    have := decidableOrderly (f.name :: seen) fields
    inferInstanceAs (Decidable (if PseudoForm f then f.name ∈ pseudoNames ∧ f.name ∉ seen ∧
      Orderly (f.name :: seen) fields
      else ∀ f ∈ fields, ¬PseudoForm f))

/-- The value of the first field of a name. -/
def valueOf (name : List UInt8) (fields : List Field) : Option (List UInt8) :=
  (fields.find? fun f => f.name = name).map Field.value

/-- A file name for a target: it has a place in the buffers, and its escapes pass. -/
def pathText (default : Bool) (target : List UInt8) : Option (List UInt8) :=
  (Http1.targetText default (Http1.FitsH2 wwwPrefix.length true) target).bind fun named => decodeText named.1

/-- The methods that are served. -/
def servedMethods : List (List UInt8) := [ascii "GET",ascii "HEAD",ascii "OPTIONS"]

/-- A list that makes a request: its pseudo-headers come first and are in order, it has
    a method, and a path if it is for a method that is served. -/
structure WellFormed (fields : List Field) : Prop where
  orderly : Orderly [] fields
  method : ∃ method ∈ valueOf (ascii ":method") fields, method ≠ [] ∧
    (method ∈ servedMethods →
      ∃ target ∈ valueOf (ascii ":path") fields, (pathText (method ≠ ascii "OPTIONS") target).isSome)

section Reading
variable (read : Ptr → Mem)

/-- The strings of a decoded field. -/
def fieldText (f : FieldRef) : Field := ⟨slice (read f.name) 0 f.nameLen,slice (read f.value) 0 f.valueLen⟩

/-- The octet in the place of an empty name does not make it a pseudo-header. -/
def Unmarked (fields : List FieldRef) : Prop := ∀ f ∈ fields, f.nameLen = 0 → read f.name 0 ≠ ':'.toUInt8

/-- The slot of a pseudo-header. -/
def Scan.slot (scan : Scan) (name : List UInt8) : Option (Ptr × Nat) :=
  if name = ascii ":method" then scan.method
  else if name = ascii ":path" then scan.path
  else if name = ascii ":scheme" then scan.scheme
  else if name = ascii ":authority" then scan.authority
  else none

variable {read}

/-- A name that has octets is seen for what it is. -/
theorem pseudoForm_iff {f : FieldRef} (named : f.nameLen = 0 → read f.name 0 ≠ ':'.toUInt8) :
    PseudoForm (fieldText read f) ↔ read f.name 0 = ':'.toUInt8 := by
  rw [PseudoForm,fieldText]
  cases length : f.nameLen with
  | zero => simp [named length]
  | succ n => rw [slice_succ,List.head?_cons,Option.some.injEq]

theorem h2NameEq_iff {f : FieldRef} {name : String} :
    h2NameEq (read f.name) f.nameLen name = true ↔ (fieldText read f).name = ascii name := by
  rw [h2NameEq,fieldText,Bool.and_eq_true,decide_eq_true_eq,decide_eq_true_eq]
  refine ⟨And.right,fun same => ⟨?_,same⟩⟩
  rw [← same,slice_length]

/-- A pseudo-header goes to its slot, if it has one that is free and no regular field
    was before it. -/
theorem pseudo_spec (scan : Scan) (f : FieldRef) :
    ((scan.pseudo read f).isSome = true ↔
      scan.regular = false ∧ (fieldText read f).name ∈ pseudoNames ∧ scan.slot (fieldText read f).name = none) ∧
    ∀ next ∈ scan.pseudo read f, next.regular = scan.regular ∧ next.range = scan.range ∧ next.rangeBuf = scan.rangeBuf ∧
      ∀ name, next.slot name = if name = (fieldText read f).name then some (f.value,f.valueLen) else scan.slot name := by
  have apart : (ascii ":method" ≠ ascii ":path" ∧ ascii ":method" ≠ ascii ":scheme" ∧
    ascii ":method" ≠ ascii ":authority") ∧
      (ascii ":path" ≠ ascii ":scheme" ∧ ascii ":path" ≠ ascii ":authority") ∧ ascii ":scheme" ≠ ascii ":authority" := by
    decide +kernel
  rw [Scan.pseudo]
  simp only [h2NameEq_iff,pseudoNames,Scan.slot]
  generalize (fieldText read f).name = n
  generalize ascii ":method" = a at *
  generalize ascii ":path" = b at *
  generalize ascii ":scheme" = c at *
  generalize ascii ":authority" = d at *
  by_cases regular : scan.regular = true
  · simp [regular]
  rw [if_neg regular]
  simp only [List.mem_cons,List.not_mem_nil,or_false,Option.mem_def]
  have free : scan.regular = false := by simpa using regular
  by_cases one : n = a
  · subst one
    rw [if_pos rfl]
    cases scan.method <;> grind
  by_cases two : n = b
  · subst two
    rw [if_neg one,if_pos rfl]
    cases scan.path <;> grind
  by_cases three : n = c
  · subst three
    rw [if_neg one,if_neg two,if_pos rfl]
    cases scan.scheme <;> grind
  by_cases four : n = d
  · subst four
    rw [if_neg one,if_neg two,if_neg three,if_pos rfl]
    cases scan.authority <;> grind
  rw [if_neg one,if_neg two,if_neg three,if_neg four]
  grind

theorem start_slot (rangeBuf : Mem) (name : List UInt8) : (Scan.start rangeBuf).slot name = none := by
  rw [Scan.slot]
  split_ifs <;> rfl

theorem field_regular (scan : Scan) (f : FieldRef) : (scan.field read f).regular = true := by
  rw [Scan.field]
  dsimp only
  split <;> rfl

theorem field_slot (scan : Scan) (f : FieldRef) (name : List UInt8) : (scan.field read f).slot name = scan.slot name := by
  rw [Scan.field]
  dsimp only
  split <;> rfl

/-- A list is rejected for a colon in the place of an empty name. -/
theorem scan_marked : ∀ (fields : List FieldRef) (scan : Scan), ¬Unmarked read fields →
    (scanFields read fields scan).2 = false := by
  intro fields
  induction fields with
  | nil => intro scan marked; exact absurd (fun f member => absurd member List.not_mem_nil) marked
  | cons f fields ih =>
    intro scan marked
    rw [scanFields]
    by_cases colon : read f.name 0 = ':'.toUInt8
    · rw [if_pos colon]
      by_cases empty : f.nameLen = 0
      · rw [pseudo_empty scan empty]
      · have later : ¬Unmarked read fields := by
          intro rest
          exact marked (List.forall_mem_cons.mpr ⟨fun none => absurd none empty,rest⟩)
        cases scan.pseudo read f with
        | none => rfl
        | some next => exact ih next later
    · rw [if_neg colon]
      refine ih _ fun rest => ?_
      exact marked (List.forall_mem_cons.mpr ⟨fun _ => colon,rest⟩)

/-- Behind a regular field. -/
theorem scan_regular : ∀ (fields : List FieldRef) (scan : Scan), Unmarked read fields → scan.regular = true →
    ((scanFields read fields scan).2 = true ↔ ∀ f ∈ fields.map (fieldText read), ¬PseudoForm f) := by
  intro fields
  induction fields with
  | nil => intro scan _ _; simp [scanFields]
  | cons f fields ih =>
    intro scan unmarked regular
    obtain ⟨here,later⟩ := List.forall_mem_cons.mp unmarked
    rw [scanFields,List.map_cons,List.forall_mem_cons,pseudoForm_iff here]
    by_cases colon : read f.name 0 = ':'.toUInt8
    · have none : scan.pseudo read f = none := by rw [Scan.pseudo,if_pos regular]
      simp [colon,none]
    · rw [if_neg colon,ih _ later (field_regular _ _)]
      simp [colon]

/-- The fields are gone through to the end if and only if their order is right. -/
theorem scan_orderly : ∀ (fields : List FieldRef) (scan : Scan) (seen : List (List UInt8)), Unmarked read fields →
    scan.regular = false → (∀ name ∈ pseudoNames, name ∈ seen ↔ scan.slot name ≠ none) →
      ((scanFields read fields scan).2 = true ↔ Orderly seen (fields.map (fieldText read))) := by
  intro fields
  induction fields with
  | nil => intro scan seen _ _ _; simp [scanFields,Orderly]
  | cons f fields ih =>
    intro scan seen unmarked regular slots
    obtain ⟨here,later⟩ := List.forall_mem_cons.mp unmarked
    have form := pseudoForm_iff here
    rw [scanFields,List.map_cons,Orderly]
    by_cases colon : read f.name 0 = ':'.toUInt8
    · rw [if_pos colon,if_pos (form.mpr colon)]
      obtain ⟨accepted,step⟩ := @pseudo_spec read scan f
      cases taken : scan.pseudo read f with
      | none =>
        rw [taken] at accepted
        simp only [Option.isSome_none,Bool.false_eq_true,false_iff,not_and] at accepted
        refine ⟨(absurd · Bool.false_ne_true),?_⟩
        rintro ⟨named,fresh,_⟩
        have free : scan.slot (fieldText read f).name = none := by
          by_contra filled
          exact fresh ((slots _ named).mpr filled)
        exact absurd free (accepted regular named)
      | some next =>
        obtain ⟨same,_,_,filled⟩ := step next taken
        rw [taken] at accepted
        obtain ⟨_,named,free⟩ := accepted.mp rfl
        have fresh : (fieldText read f).name ∉ seen := fun old => (slots _ named).mp old free
        rw [ih next ((fieldText read f).name :: seen) later (same.trans regular)]
        · exact ⟨fun rest => ⟨named,fresh,rest⟩,fun all => all.2.2⟩
        · intro name known
          rw [filled name,List.mem_cons]
          by_cases new : name = (fieldText read f).name
          · simp [new]
          · simp [new,slots name known]
    · rw [if_neg colon,if_neg (mt form.mp colon)]
      exact scan_regular fields _ later (field_regular _ _)

theorem buildPath_accepts {method : Method} {streamId : Nat} {scan : Scan} {r : Request} :
    (buildPath read method streamId scan r).2 = true ↔
      ∃ target ∈ slotText read scan.path, (pathText (method ≠ .options) target).isSome := by
  rw [buildPath]
  rcases slot : scan.path with _ | ⟨value,len⟩
  · simp [slotText]
  simp only [slotText,Option.map_some,Option.mem_some_iff,exists_eq_left']
  have text := @Http1.parseH2Path_text (read value) (slice (read value) 0 len)
    (method ≠ .options) ⟨r.filenameBuf,r.queryBuf⟩
    (by rw [slice_length])
  rw [slice_length] at text
  rw [pathText,← text]
  by_cases empty : len = 0
  · rw [if_pos empty,empty]
    simp [parseH2Path,Http1.resolvedH2]
  rw [if_neg empty]
  generalize parseH2Path (read value) len (method ≠ .options) ⟨r.filenameBuf,r.queryBuf⟩ = parsed
  obtain ⟨bufs,_ | parsed⟩ := parsed
  · simp [Http1.resolvedH2]
  simp only [Http1.resolvedH2,Option.map_some,Http1.text,Option.bind_some,← decodeUrl_text,Option.isSome_map]
  generalize decodeUrl bufs.filename parsed.length = decoded
  obtain ⟨filename,_ | length⟩ := decoded
  · simp
  · dsimp only
    split <;> simp

/-- What a method comes to. -/
def methodOf (name : List UInt8) : Option Method :=
  if name = [] then none
  else if name = ascii "GET" then some .get
  else if name = ascii "HEAD" then some .head
  else if name = ascii "OPTIONS" then some .options
  else some .unknown

theorem methodId_of (slot : Option (Ptr × Nat)) : methodId read slot = (slotText read slot).bind methodOf := by
  rcases slot with _ | ⟨value,len⟩
  · rfl
  have tests : ∀ name : String, h2NameEq (read value) len name = decide (slice (read value) 0 len = ascii name) := by
    intro name
    rw [h2NameEq]
    by_cases same : slice (read value) 0 len = ascii name
    · have length : len = (ascii name).length := by rw [← same,slice_length]
      simp [same,length.symm]
    · simp [same]
  have empty : len = 0 ↔ slice (read value) 0 len = [] := by rw [← List.length_eq_zero_iff,slice_length]
  rw [methodId,tests,tests,tests,slotText,Option.map_some,Option.bind_some,methodOf]
  simp only [empty,decide_eq_true_eq]

/-- Slots hold the values of the names. -/
theorem valueIn_of (name : String) (fields : List FieldRef) :
    valueIn read (isNamed read name) fields = valueOf (ascii name) (fields.map (fieldText read)) := by
  have same : (isNamed read name) = (fun f : Field => decide (f.name = ascii name)) ∘ fieldText read := by
    funext f
    rw [Function.comp_apply,isNamed,Bool.eq_iff_iff,h2NameEq_iff,decide_eq_true_eq]
  rw [valueIn,valueOf,List.find?_map,same,Option.map_map]
  rfl

theorem build_marked {streamId : Nat} {fields : List FieldRef} {r : Request} (marked : ¬Unmarked read fields) :
    (h2BuildRequest read streamId fields r).2 = false := by
  have rejected := scan_marked fields (Scan.start r.rangeBuf) marked
  rw [h2BuildRequest]
  cases scanned : scanFields read fields (Scan.start r.rangeBuf) with | mk scan complete =>
  rw [scanned] at rejected
  dsimp only at rejected
  subst rejected
  rfl

/-- A list out of order is rejected. -/
theorem build_disordered {streamId : Nat} {fields : List FieldRef} {r : Request} (unmarked : Unmarked read fields)
    (disorder : ¬Orderly [] (fields.map (fieldText read))) : (h2BuildRequest read streamId fields r).2 = false := by
  have order := scan_orderly fields (Scan.start r.rangeBuf) [] unmarked rfl (fun name _ => by simp [start_slot])
  rw [h2BuildRequest]
  cases scanned : scanFields read fields (Scan.start r.rangeBuf) with | mk scan complete =>
  rw [scanned] at order
  have incomplete : complete = false := by simpa using mt order.mp disorder
  rw [incomplete]

/-- What is made of a list in order, from its method and its path. -/
theorem build_ordered {streamId : Nat} {fields : List FieldRef} {r : Request} (unmarked : Unmarked read fields)
    (order : Orderly [] (fields.map (fieldText read))) :
    ∃ scan, slotText read scan.path = valueOf (ascii ":path") (fields.map (fieldText read)) ∧
      h2BuildRequest read streamId fields r =
        match (valueOf (ascii ":method") (fields.map (fieldText read))).bind methodOf with
        | none => ({ r with rangeBuf := scan.rangeBuf },false)
        | some .unknown => (({ r with rangeBuf := scan.rangeBuf } : Request).storeMethod .unknown streamId scan,true)
        | some method => buildPath read method streamId scan { r with rangeBuf := scan.rangeBuf } := by
  have complete := (scan_orderly fields (Scan.start r.rangeBuf) [] unmarked rfl (fun name _ =>
    by simp [start_slot])).mpr order
  have scanned : scanFields read fields (Scan.start r.rangeBuf) =
    ((scanFields read fields (Scan.start r.rangeBuf)).1,true) :=
    Prod.ext rfl complete
  obtain ⟨methodSlot,pathSlot,_⟩ := scan_slots _ _ _ scanned
  rw [valueIn_of] at methodSlot pathSlot
  refine ⟨_,pathSlot,?_⟩
  have method := (methodId_of _).trans (congrArg (Option.bind · methodOf) methodSlot)
  rw [h2BuildRequest,scanned]
  dsimp only
  rw [method]
  rfl

theorem methodOf_cases (name : List UInt8) :
    (name = [] ∧ methodOf name = none) ∨ (name ≠ [] ∧ name ∉ servedMethods ∧ methodOf name = some .unknown) ∨
      ∃ method, name ≠ [] ∧ name ∈ servedMethods ∧ methodOf name = some method ∧ method ≠ .unknown ∧
        decide (method ≠ .options) = decide (name ≠ ascii "OPTIONS") := by
  rw [methodOf,servedMethods]
  by_cases empty : name = []
  · exact .inl ⟨empty,if_pos empty⟩
  by_cases get : name = ascii "GET"
  · subst get
    exact .inr (.inr ⟨.get,by decide +kernel⟩)
  by_cases head : name = ascii "HEAD"
  · subst head
    exact .inr (.inr ⟨.head,by decide +kernel⟩)
  by_cases options : name = ascii "OPTIONS"
  · subst options
    exact .inr (.inr ⟨.options,by decide +kernel⟩)
  · rw [if_neg empty,if_neg get,if_neg head,if_neg options]
    exact .inr (.inl ⟨empty,by simp [get,head,options],rfl⟩)

/-- A list is accepted if and only if it is well-formed, where no name is misread. -/
theorem build_accepts {streamId : Nat} {fields : List FieldRef} {r : Request} (unmarked : Unmarked read fields) :
    (h2BuildRequest read streamId fields r).2 = true ↔ WellFormed (fields.map (fieldText read)) := by
  by_cases order : Orderly [] (fields.map (fieldText read))
  · obtain ⟨scan,pathSlot,built⟩ := @build_ordered read streamId fields r unmarked order
    have reduces : WellFormed (fields.map (fieldText read)) ↔ _ := ⟨WellFormed.method,fun method => ⟨order,method⟩⟩
    rw [built,reduces]
    cases valueOf (ascii ":method") (fields.map (fieldText read)) with
    | none => simp
    | some name =>
      simp only [Option.bind_some,Option.mem_some_iff,exists_eq_left']
      rcases methodOf_cases name with ⟨empty,id⟩ | ⟨named,other,id⟩ | ⟨method,named,served,id,known,default⟩
      · rw [id]
        simp [empty]
      · rw [id]
        simp [named,other]
      · have accepts := @buildPath_accepts read method streamId scan { r with rangeBuf := scan.rangeBuf }
        rw [pathSlot,default] at accepts
        rw [id]
        cases method with
        | unknown => exact absurd rfl known
        | get | head | options => exact accepts.trans (by simp [named,served])
  · rw [build_disordered unmarked order]
    exact ⟨nofun,fun wellFormed => absurd wellFormed.orderly order⟩

end Reading

/-! ### Two states of memory -/

section Memories
variable {read read' : Ptr → Mem}

/-- Scans that have the same strings. -/
structure SameScans (read read' : Ptr → Mem) (scan scan' : Scan) : Prop where
  slots : ∀ name, slotText read (scan.slot name) = slotText read' (scan'.slot name)
  regular : scan.regular = scan'.regular
  range : scan.range = scan'.range
  rangeBuf : scan.rangeBuf = scan'.rangeBuf

/-- A field with the same strings goes to the same slot. -/
theorem pseudo_scans {scan scan' : Scan} {f f' : FieldRef} (same : SameScans read read' scan scan')
    (text : fieldText read f = fieldText read' f') :
    (scan.pseudo read f = none ∧ scan'.pseudo read' f' = none) ∨
      ∃ next next', scan.pseudo read f = some next ∧ scan'.pseudo read' f' = some next' ∧
          SameScans read read' next next' := by
  have free : ∀ name, scan.slot name = none ↔ scan'.slot name = none := by
    intro name
    have both := congrArg Option.isNone (same.slots name)
    rwa [slotText,slotText,Option.isNone_map,Option.isNone_map,Bool.eq_iff_iff,Option.isNone_iff_eq_none,
      Option.isNone_iff_eq_none] at both
  obtain ⟨accepts,step⟩ := @pseudo_spec read scan f
  obtain ⟨accepts',step'⟩ := @pseudo_spec read' scan' f'
  have both : (scan.pseudo read f).isSome = true ↔ (scan'.pseudo read' f').isSome = true := by
    rw [accepts,accepts',same.regular,text,free]
  cases taken : scan.pseudo read f with
  | none =>
    cases taken' : scan'.pseudo read' f' with
    | none => exact .inl ⟨rfl,rfl⟩
    | some next' => rw [taken,taken'] at both; simp at both
  | some next =>
    cases taken' : scan'.pseudo read' f' with
    | none => rw [taken,taken'] at both; simp at both
    | some next' =>
      obtain ⟨regular,range,rangeBuf,slots⟩ := step next taken
      obtain ⟨regular',range',rangeBuf',slots'⟩ := step' next' taken'
      refine .inr ⟨next,next',rfl,rfl,?_,by rw [regular,regular',same.regular],by rw [range,range',same.range],
        by rw [rangeBuf,rangeBuf',same.rangeBuf]⟩
      intro name
      rw [slots,slots',text]
      split
      · exact congrArg some (congrArg Field.value text)
      · exact same.slots name

theorem field_scans {scan scan' : Scan} {f f' : FieldRef} (same : SameScans read read' scan scan')
    (text : fieldText read f = fieldText read' f') : SameScans read read' (scan.field read f) (scan'.field read' f') := by
  obtain ⟨name,value⟩ := Field.mk.inj text
  have nameLen : f.nameLen = f'.nameLen := by rw [← slice_length (read f.name) 0 f.nameLen,name,slice_length]
  have valueLen : f.valueLen = f'.valueLen := by rw [← slice_length (read f.value) 0 f.valueLen,value,slice_length]
  have copied : blit scan.rangeBuf 0 (read f.value) (min f.valueLen rangeBufSize) =
      blit scan'.rangeBuf 0 (read' f'.value) (min f'.valueLen rangeBufSize) := by
    rw [same.rangeBuf,valueLen]
    apply blit_congr
    intro i inside
    rw [valueLen] at value
    have here := slice_eq_iff.mp value i (by omega)
    simpa using here
  have chosen : (f.nameLen = (ascii "range").length ∧
    streqnI (slice (read f.name) 0 (ascii "range").length) (ascii "range") ∧
        scan.range = none) ↔
      f'.nameLen = (ascii "range").length ∧ streqnI (slice (read' f'.name) 0 (ascii "range").length) (ascii "range") ∧
        scan'.range = none := by
    rw [nameLen,same.range]
    refine and_congr_right fun length => ?_
    rw [nameLen,length] at name
    rw [name]
  refine ⟨?_,by rw [field_regular,field_regular],?_,?_⟩
  · intro name
    rw [field_slot,field_slot]
    exact same.slots name
  all_goals
    rw [Scan.field,Scan.field]
    dsimp only
    by_cases copies : f.nameLen = (ascii "range").length ∧
        streqnI (slice (read f.name) 0 (ascii "range").length) (ascii "range") ∧ scan.range = none
    · rw [if_pos copies,if_pos (chosen.mp copies)]
      first | exact congrArg some (by rw [valueLen]) | exact copied
    · rw [if_neg copies,if_neg (mt chosen.mpr copies)]
      first | exact same.range | exact same.rangeBuf

/-- Lists with the same strings are gone through alike, where no name is misread. -/
theorem scan_same : ∀ (fields fields' : List FieldRef) (scan scan' : Scan),
    fields.map (fieldText read) = fields'.map (fieldText read') → Unmarked read fields → Unmarked read' fields' →
      SameScans read read' scan scan' →
        (scanFields read fields scan).2 = (scanFields read' fields' scan').2 ∧
          SameScans read read' (scanFields read fields scan).1 (scanFields read' fields' scan').1 := by
  intro fields
  induction fields with
  | nil =>
    intro fields' scan scan' texts _ _ same
    rw [List.map_nil,eq_comm,List.map_eq_nil_iff] at texts
    subst texts
    exact ⟨rfl,same⟩
  | cons f fields ih =>
    intro fields' scan scan' texts unmarked unmarked' same
    cases fields' with
    | nil => cases texts
    | cons f' fields' =>
      obtain ⟨text,texts⟩ := List.cons.inj texts
      obtain ⟨here,later⟩ := List.forall_mem_cons.mp unmarked
      obtain ⟨here',later'⟩ := List.forall_mem_cons.mp unmarked'
      have form : read f.name 0 = ':'.toUInt8 ↔ read' f'.name 0 = ':'.toUInt8 := by
        rw [← pseudoForm_iff here,← pseudoForm_iff here',text]
      rw [scanFields,scanFields]
      by_cases colon : read f.name 0 = ':'.toUInt8
      · rw [if_pos colon,if_pos (form.mp colon)]
        rcases pseudo_scans same text with ⟨none,none'⟩ | ⟨next,next',some,some',same'⟩
        · rw [none,none']
          exact ⟨rfl,same⟩
        · rw [some,some']
          exact ih fields' next next' texts later later' same'
      · rw [if_neg colon,if_neg (mt form.mpr colon)]
        exact ih fields' _ _ texts later later' (field_scans same text)

theorem queryLoop_congr {path path' : Mem} : ∀ (left at_ written : Nat) (query : Mem),
    (∀ i < at_ + left, path i = path' i) →
        queryLoop path left at_ written query = queryLoop path' left at_ written query := by
  intro left
  induction left with
  | zero => intro _ _ _ _; rfl
  | succ left ih =>
    intro at_ written query same
    rw [queryLoop,queryLoop,same at_ (by omega),ih _ _ _ fun i inside => same i (by omega)]

theorem fnameLoop_congr {path path' : Mem} {default : Bool} : ∀ (left at_ written : Nat) (slash : Bool) (bufs : PathBufs),
    (∀ i < at_ + left, path i = path' i) →
      fnameLoop path default left at_ written slash bufs = fnameLoop path' default left at_ written slash bufs := by
  intro left
  induction left with
  | zero => intro _ _ _ _ _; rfl
  | succ left ih =>
    intro at_ written slash bufs same
    have later : ∀ written slash bufs, fnameLoop path default left (at_ + 1) written slash bufs =
        fnameLoop path' default left (at_ + 1) written slash bufs :=
      fun written slash bufs => ih _ _ _ _ fun i inside => same i (by omega)
    rw [fnameLoop,fnameLoop,same at_ (by omega),queryLoop_congr left _ _ _ fun i inside =>
      same i (by omega),later,later,later]

/-- Of a target no more than its octets are read. -/
theorem parseH2Path_congr {path path' : Mem} {len : Nat} (default : Bool) (bufs : PathBufs)
    (same : slice path 0 len = slice path' 0 len) :
        parseH2Path path len default bufs = parseH2Path path' len default bufs := by
  have each : ∀ i < len, path i = path' i := by
    intro i inside
    have here := slice_eq_iff.mp same i inside
    simpa using here
  rw [parseH2Path,parseH2Path]
  by_cases empty : len = 0
  · simp [empty]
  rw [each 0 (by omega),fnameLoop_congr (len - 1) 1 _ _ _ fun i inside => each i (by omega)]

theorem slotText_cases {slot slot' : Option (Ptr × Nat)} (same : slotText read slot = slotText read' slot') :
    (slot = none ∧ slot' = none) ∨
      ∃ value value' len, slot = some (value,len) ∧ slot' = some (value',len) ∧
          slice (read value) 0 len = slice (read' value') 0 len := by
  rcases slot with _ | ⟨value,len⟩
  · rcases slot' with _ | ⟨value',len'⟩
    · exact .inl ⟨rfl,rfl⟩
    · cases same
  · rcases slot' with _ | ⟨value',len'⟩
    · cases same
    · simp only [slotText,Option.map_some,Option.some.injEq] at same
      have length : len = len' := by rw [← slice_length (read value) 0 len,same,slice_length]
      subst length
      exact .inr ⟨value,value',len,rfl,rfl,same⟩

theorem copyAuthority_same {buf : Mem} {slot slot' : Option (Ptr × Nat)}
    (same : slotText read slot = slotText read' slot') :
    copyAuthority read buf slot = copyAuthority read' buf slot' := by
  rcases slotText_cases same with ⟨rfl,rfl⟩ | ⟨value,value',len,rfl,rfl,text⟩
  · rfl
  · have copied : blit buf 0 (read value) (min len authorityBufSize) =
      blit buf 0 (read' value') (min len authorityBufSize) := by
      apply blit_congr
      intro i inside
      have here := slice_eq_iff.mp text i (by omega)
      simpa using here
    rw [copyAuthority,copyAuthority,copied]

/-- What is made of a path and an authority depends on their strings. -/
theorem buildPath_texts {method : Method} {streamId : Nat} {scan scan' : Scan} {r : Request}
    (same : SameScans read read' scan scan') :
        buildPath read method streamId scan r = buildPath read' method streamId scan' r := by
  have path := slotText_cases (same.slots (ascii ":path"))
  have authority : slotText read scan.authority = slotText read' scan'.authority := same.slots (ascii ":authority")
  have given : scan.authority.isSome = scan'.authority.isSome := by
    have both := congrArg Option.isSome authority
    rwa [slotText,slotText,Option.isSome_map,Option.isSome_map] at both
  have stored : ∀ (r : Request) (parsed : ParsedPath) (given forbidden : Bool),
      r.store method streamId parsed given forbidden scan = r.store method streamId parsed given forbidden scan' := by
    intro r parsed given forbidden
    rw [Request.store,Request.store,same.range]
  rw [buildPath,buildPath]
  rcases path with ⟨absent,absent'⟩ | ⟨value,value',len,there,there',text⟩
  · rw [show scan.path = none from absent,show scan'.path = none from absent']
  · rw [show scan.path = _ from there,show scan'.path = _ from there']
    dsimp only
    rw [parseH2Path_congr _ _ text,given]
    simp only [stored,copyAuthority_same authority]

/-- A request is made of the strings of its fields, where no name is misread. -/
theorem build_texts {streamId : Nat} {fields fields' : List FieldRef} {r : Request}
    (texts : fields.map (fieldText read) = fields'.map (fieldText read')) (unmarked : Unmarked read fields)
    (unmarked' : Unmarked read' fields') :
        h2BuildRequest read streamId fields r = h2BuildRequest read' streamId fields' r := by
  have start : SameScans read read' (Scan.start r.rangeBuf) (Scan.start r.rangeBuf) :=
    ⟨fun name => by rw [start_slot]; rfl,rfl,rfl,rfl⟩
  obtain ⟨complete,same⟩ := scan_same fields fields' _ _ texts unmarked unmarked' start
  rw [h2BuildRequest,h2BuildRequest]
  revert complete same
  generalize scanFields read fields (Scan.start r.rangeBuf) = result
  generalize scanFields read' fields' (Scan.start r.rangeBuf) = result'
  obtain ⟨scan,done⟩ := result
  obtain ⟨scan',done'⟩ := result'
  rintro rfl same
  cases done with
  | false => dsimp only; rw [same.rangeBuf]
  | true =>
    have method : methodId read scan.method = methodId read' scan'.method := by
      rw [methodId_of,methodId_of]
      exact congrArg (Option.bind · methodOf) (same.slots (ascii ":method"))
    have stored : ∀ r : Request, r.storeMethod .unknown streamId scan = r.storeMethod .unknown streamId scan' := by
      intro r
      rw [Request.storeMethod,Request.storeMethod,same.range]
    dsimp only
    rw [method,same.rangeBuf,stored]
    cases methodId read' scan'.method with
    | none => rfl
    | some method => cases method <;> first | rfl | exact buildPath_texts same

end Memories

/-- The same request, or the same error. -/
def SameOutcome (one two : Request × Bool) : Prop := one.2 = two.2 ∧ (one.2 = true → one.1 = two.1)

/-- A list whose outcome is the same in any two states of memory in which it has been
    decoded. -/
def Determined (L : List Field) : Prop :=
  ∀ (read read' : Ptr → Mem) (fields fields' : List FieldRef) (streamId : Nat) (r : Request),
    fields.map (fieldText read) = L → fields'.map (fieldText read') = L →
      SameOutcome (h2BuildRequest read streamId fields r) (h2BuildRequest read' streamId fields' r)

/-! ### A memory for a list -/

/-- The strings of a list, each with octets of one value behind it. -/
def listMemory (behind : UInt8) (L : List Field) : Ptr → Mem
  | .block k => fun i => ((L[k]?.map Field.name).getD []).getD i behind
  | .strBuf k => fun i => ((L[k]?.map Field.value).getD []).getD i behind
  | _ => fun _ => behind

def listRefs (L : List Field) : List FieldRef :=
  L.zipIdx.map fun (f,k) => ⟨.block k,f.name.length,.strBuf k,f.value.length⟩

theorem slice_behind (s : List UInt8) (behind : UInt8) : slice (fun i => s[i]?.getD behind) 0 s.length = s := by
  apply List.ext_getElem (by simp)
  intro i _ inside
  simp [slice,inside]

theorem listRefs_text (behind : UInt8) (L : List Field) : (listRefs L).map (fieldText (listMemory behind L)) = L := by
  apply List.ext_getElem (by simp [listRefs])
  intro k _ inside
  simp [listRefs,fieldText,listMemory,inside,slice_behind]

theorem listRefs_mem {L : List Field} {f : Field} (member : f ∈ L) : ∃ k, L[k]? = some f ∧
    ⟨.block k,f.name.length,.strBuf k,f.value.length⟩ ∈ listRefs L := by
  obtain ⟨k,here⟩ := List.mem_iff_getElem?.mp member
  refine ⟨k,here,List.mem_map.mpr ⟨(f,k),?_,rfl⟩⟩
  rw [List.mem_zipIdx_iff_getElem?]
  exact here

theorem listRefs_unmarked {behind : UInt8} (other : behind ≠ ':'.toUInt8) (L : List Field) :
    Unmarked (listMemory behind L) (listRefs L) := by
  intro f member empty
  obtain ⟨⟨field,k⟩,there,rfl⟩ := List.mem_map.mp member
  rw [List.mem_zipIdx_iff_getElem?] at there
  have none : field.name = [] := List.length_eq_zero_iff.mp empty
  simpa [listMemory,there,none] using other

theorem listRefs_marked {L : List Field} {f : Field} (member : f ∈ L) (empty : f.name = []) :
    ¬Unmarked (listMemory ':'.toUInt8 L) (listRefs L) := by
  intro unmarked
  obtain ⟨k,here,there⟩ := listRefs_mem member
  refine unmarked _ there (by rw [empty]; rfl) ?_
  simp [listMemory,here,empty]

theorem undetermined {L : List Field} {f : Field} (member : f ∈ L) (empty : f.name = []) (wellFormed : WellFormed L) :
    ¬Determined L := by
  intro determined
  have r : Request := ⟨.unknown,0,0,false,0,false,false,0,false,fun _ => 0,fun _ => 0,fun _ => 0,fun _ => 0⟩
  have same := determined (listMemory 0 L) (listMemory ':'.toUInt8 L) (listRefs L) (listRefs L) 1 r
    (listRefs_text _ L) (listRefs_text _ L)
  have accepted : (h2BuildRequest (listMemory 0 L) 1 (listRefs L) r).2 = true := by
    rw [build_accepts (listRefs_unmarked (by decide) L),listRefs_text]
    exact wellFormed
  have rejected : (h2BuildRequest (listMemory ':'.toUInt8 L) 1 (listRefs L) r).2 = false :=
    build_marked (listRefs_marked member empty)
  rw [SameOutcome,accepted,rejected] at same
  cases same.1
/-- The outcome of a list is determined by its strings if and only if no name is empty,
    or the list is rejected whatever its empty names are taken for. -/
theorem build_determined (L : List Field) : Determined L ↔ (∀ f ∈ L, f.name ≠ []) ∨ ¬WellFormed L := by
  constructor
  · intro determined
    by_contra both
    obtain ⟨empties,wellFormed⟩ := not_or.mp both
    simp only [not_forall,not_not] at empties wellFormed
    obtain ⟨f,member,empty⟩ := empties
    exact undetermined member empty wellFormed determined
  · intro either read read' fields fields' streamId r texts texts'
    rcases either with named | malformed
    · have unmarked : ∀ {read : Ptr → Mem} {fields : List FieldRef}, fields.map (fieldText read) = L →
        Unmarked read fields := by
        intro read fields texts f member empty
        have name := named (fieldText read f) (texts ▸ List.mem_map_of_mem member)
        rw [fieldText,empty] at name
        exact absurd rfl name
      rw [build_texts (texts.trans texts'.symm) (unmarked texts) (unmarked texts')]
      exact ⟨rfl,fun _ => rfl⟩
    · have rejected : ∀ {read : Ptr → Mem} {fields : List FieldRef}, fields.map (fieldText read) = L →
          (h2BuildRequest read streamId fields r).2 = false := by
        intro read fields texts
        by_cases unmarked : Unmarked read fields
        · rw [← Bool.not_eq_true,build_accepts unmarked,texts]
          exact malformed
        · exact build_marked unmarked
      rw [SameOutcome,rejected texts,rejected texts']
      exact ⟨rfl,nofun⟩

/-- A request with a header that has no name. -/
def namelessList : List Field := [⟨ascii ":method",ascii "GET"⟩,⟨ascii ":path",ascii "/"⟩,⟨[],ascii "a"⟩]

/-- What is in the place of the name decides whether it is accepted. -/
theorem build_undetermined : ¬Determined namelessList := by
  have nameless : (⟨[],ascii "a"⟩ : Field) ∈ namelessList := by decide
  refine undetermined nameless rfl ⟨by decide +kernel,ascii "GET",by decide +kernel,by decide,fun _ => ?_⟩
  exact ⟨ascii "/",by decide +kernel,by decide +kernel⟩

end Sarm.H2
