import Sarm.PathAgreement

/-!
The file name of a target with a query, beside that of the target without one. Both
parsers give the default file to a target without a path only if there is no query.
-/
namespace Sarm.Http1
open Sarm.Memory Sarm.H2
open Sarm.Hpack (ascii)

/-! ### Targets in a header -/

/-- A header in which a target is found: from its first octet on up to a space. -/
structure TargetLine (hdr : Mem) (len : Nat) (target : List UInt8) : Prop where
  long : searchWindow ≤ len
  found : ∃ i, findTarget hdr searchWindow 0 1 = some i ∧ slice hdr i (target.length + 1) = target ++ [' '.toUInt8] ∧
    i + target.length < len
  clean : Clean target

theorem findTarget_octet {hdr : Mem} : ∀ (left i : Nat) (previous : UInt8), ∀ k ∈ findTarget hdr left i previous,
    hdr k = '/'.toUInt8 ∨ hdr k = '*'.toUInt8 := by
  intro left
  induction left with
  | zero => intro i previous k none; cases none
  | succ left ih =>
    intro i previous k found
    rw [findTarget] at found
    split at found
    · next octet =>
      split at found
      · cases found; exact octet
      · cases found
    · split at found
      · cases found
      · exact ih _ _ k found

/-- What becomes of the target of a header. -/
theorem parsePath_target {hdr : Mem} {len : Nat} {target : List UInt8} (line : TargetLine hdr len target) (default : Bool)
    (bufs : PathBufs) : resolved (parsePath hdr len default bufs) =
        targetText default (FitsH1 wwwPrefix.length true) target := by
  obtain ⟨long,⟨i,found,octets,inside⟩,clean⟩ := line
  have first := findTarget_octet _ _ _ i found
  rw [parsePath,if_neg (by omega),found]
  cases target with
  | nil =>
    have space : hdr i = ' '.toUInt8 := (slice_next octets).1
    rw [space] at first
    exact absurd first (by decide)
  | cons octet rest =>
    obtain ⟨_,later⟩ := List.forall_mem_cons.mp clean
    rw [List.length_cons] at inside
    rw [List.length_cons,slice_succ,List.cons_append,List.cons.injEq] at octets
    obtain ⟨here,behind⟩ := octets
    dsimp only
    rw [if_neg (by omega),here,targetText]
    by_cases slash : octet = '/'.toUInt8
    · rw [if_pos slash,slash,if_neg (by decide),
        filenameLoop_text rest _ _ _ true _ wwwPrefix later behind (by omega) (docroot_written _) (Nat.le_refl _)]
    · have star : octet = '*'.toUInt8 := by
        rw [here] at first
        exact first.resolve_left slash
      rw [if_neg slash,if_pos star,star]
      cases rest with
      | nil =>
        have space : hdr (i + 1) = ' '.toUInt8 := (slice_next behind).1
        rw [if_neg (not_or.mpr ⟨by omega,by rw [space]; decide⟩),show ['*'.toUInt8] = asterisk from rfl,if_pos rfl]
        rfl
      | cons next rest =>
        have other : hdr (i + 1) ≠ ' '.toUInt8 := by
          rw [List.length_cons,slice_succ,List.cons_append,List.cons.injEq] at behind
          rw [behind.1]
          exact (later next List.mem_cons_self).2.1
        rw [if_pos (Or.inr other),if_neg (by simp [asterisk])]
        rfl

/-- The file name loop comes to an end at a space, with nothing before it that is not
    part of a target. -/
theorem filenameLoop_space {hdr : Mem} {default : Bool} : ∀ (left at_ written : Nat) (slash : Bool) (query : Option Nat)
    (bufs : PathBufs), (resolved (filenameLoop hdr default left at_ written slash query bufs)).isSome →
      ∃ n < left, hdr (at_ + n) = ' '.toUInt8 ∧ Clean (slice hdr at_ n) := by
  intro left
  induction left with
  | zero => intro at_ written slash query bufs done; cases done
  | succ left ih =>
    intro at_ written slash query bufs done
    have next : hdr at_ ≠ 0 → hdr at_ ≠ ' '.toUInt8 → ¬(hdr at_ = '\r'.toUInt8 ∨ hdr at_ = '\n'.toUInt8) →
        (∃ n < left, hdr (at_ + 1 + n) = ' '.toUInt8 ∧ Clean (slice hdr (at_ + 1) n)) →
          ∃ n < left + 1, hdr (at_ + n) = ' '.toUInt8 ∧ Clean (slice hdr at_ n) := by
      rintro nul space line ⟨n,inside,here,clean⟩
      obtain ⟨cr,lf⟩ := not_or.mp line
      refine ⟨n + 1,by omega,by rw [← here]; congr 1; omega,?_⟩
      rw [slice_succ]
      exact List.forall_mem_cons.mpr ⟨⟨nul,space,cr,lf⟩,clean⟩
    rw [filenameLoop] at done
    split at done
    · cases done
    dsimp only at done
    split at done
    · cases done
    next nul =>
    split at done
    · next space => exact ⟨0,by omega,space,fun _ member => absurd member List.not_mem_nil⟩
    next space =>
    split at done
    · cases done
    next line =>
    split at done
    · exact next nul space line (ih _ _ _ _ _ done)
    · split at done
      · split at done <;> exact next nul space line (ih _ _ _ _ _ done)
      · split at done <;> exact next nul space line (ih _ _ _ _ _ done)

/-- A header that is accepted has a target. -/
theorem accepted_target {hdr : Mem} {len : Nat} {default : Bool} {bufs : PathBufs}
    (accepted : (resolved (parsePath hdr len default bufs)).isSome) : ∃ target, TargetLine hdr len target := by
  rw [parsePath] at accepted
  split at accepted
  · cases accepted
  next long =>
  cases found : findTarget hdr searchWindow 0 1 with
  | none => rw [found] at accepted; cases accepted
  | some i =>
    have first := findTarget_octet _ _ _ i found
    rw [found] at accepted
    dsimp only at accepted
    split at accepted
    · cases accepted
    split at accepted
    · next star =>
      split at accepted
      · cases accepted
      · next behind =>
        obtain ⟨room,space⟩ := not_or.mp behind
        refine ⟨asterisk,by omega,⟨i,found,?_,?_⟩,by decide⟩
        · rw [show asterisk.length + 1 = 2 from rfl,slice_succ,slice_succ,slice_zero,star,not_not.mp space]
          rfl
        · rw [show asterisk.length = 1 from rfl]
          omega
    · next star =>
      obtain ⟨n,inside,space,clean⟩ := filenameLoop_space _ _ _ _ _ _ accepted
      have slash := first.resolve_right star
      refine ⟨hdr i :: slice hdr (i + 1) n,by omega,⟨i,found,?_,?_⟩,?_⟩
      · rw [List.length_cons,slice_length,slice_succ,slice_add,slice_succ,slice_zero,space,List.cons_append]
      · rw [List.length_cons,slice_length]
        omega
      · rw [slash]
        exact List.forall_mem_cons.mpr ⟨by decide,clean⟩

/-! ### With a query and without -/

/-- The file name that a target comes to. -/
def nameOf (r : Option (List UInt8 × Option (List UInt8))) : Option (List UInt8) := r.map Prod.fst

/-- There is something in the path. -/
def HasName (p : List UInt8) : Prop := ∃ octet ∈ p, octet ≠ '/'.toUInt8

instance (p : List UInt8) : Decidable (HasName p) := inferInstanceAs (Decidable (∃ octet ∈ p, octet ≠ '/'.toUInt8))

/-- Room for a target with a query is room for it without one. -/
def Shrinks (Room : List UInt8 → Prop) : Prop := ∀ p q, Room (p ++ '?'.toUInt8 :: q) → '?'.toUInt8 ∉ p → Room p

theorem splitQuery_append : ∀ {p : List UInt8} (q : List UInt8), '?'.toUInt8 ∉ p →
    splitQuery (p ++ '?'.toUInt8 :: q) = (p,some q) := by
  intro p
  induction p with
  | nil => intro q _; rw [List.nil_append,splitQuery,if_pos rfl]
  | cons octet p ih =>
    intro q plain
    obtain ⟨other,rest⟩ := not_or.mp (mt List.mem_cons.mpr plain)
    rw [List.cons_append,splitQuery,if_neg (Ne.symm other),ih q rest]

theorem splitQuery_none : ∀ {p : List UInt8}, '?'.toUInt8 ∉ p → splitQuery p = (p,none) := by
  intro p
  induction p with
  | nil => intro _; rfl
  | cons octet p ih =>
    intro plain
    obtain ⟨other,rest⟩ := not_or.mp (mt List.mem_cons.mpr plain)
    rw [splitQuery,if_neg (Ne.symm other),ih rest]

theorem fitsH1_shrinks (written : Nat) (slash : Bool) : Shrinks (FitsH1 written slash) := by
  intro p q fits plain
  rw [FitsH1,splitQuery_append q plain,Option.elim_some] at fits
  rw [FitsH1,splitQuery_none plain,Option.elim_none]
  dsimp only at fits ⊢
  omega

theorem fitsH2_shrinks (written : Nat) (slash : Bool) : Shrinks (FitsH2 written slash) := by
  intro p q fits plain
  have shorter := collapse_dropLast slash p
  rw [FitsH2,splitQuery_append q plain] at fits
  rw [FitsH2,splitQuery_none plain]
  dsimp only at fits ⊢
  exact .inr (by omega)

/-- Slashes collapse to nothing behind a slash, and only they do. -/
theorem collapse_nil : ∀ {p : List UInt8}, collapse true p = [] ↔ ¬HasName p := by
  intro p
  induction p with
  | nil => exact iff_of_true rfl (by simp [HasName])
  | cons octet p ih =>
    by_cases slash : octet = '/'.toUInt8
    · rw [collapse,kept,if_pos ⟨slash,rfl⟩,List.nil_append,decide_eq_true slash,ih]
      simp [HasName,slash]
    · refine iff_of_false ?_ fun none => none ⟨octet,List.mem_cons_self,slash⟩
      rw [collapse,kept,if_neg fun all => slash all.1]
      exact List.cons_ne_nil _ _

/-- The two come to the same name if and only if there is something in the path. -/
theorem targetText_apart {Room : List UInt8 → Prop} [DecidablePred Room] (shrinks : Shrinks Room) {p q : List UInt8}
    (plain : '?'.toUInt8 ∉ p) (accepted : (targetText true Room (p ++ '?'.toUInt8 :: q)).isSome) :
    nameOf (targetText true Room (p ++ '?'.toUInt8 :: q)) = nameOf (targetText true Room p) ↔ HasName p := by
  cases p with
  | nil => cases accepted
  | cons octet rest =>
    replace plain := (not_or.mp (mt List.mem_cons.mpr plain)).2
    rw [List.cons_append,targetText] at accepted ⊢
    by_cases slash : octet = '/'.toUInt8
    · subst slash
      rw [if_pos rfl] at accepted ⊢
      by_cases room : Room (rest ++ '?'.toUInt8 :: q)
      · rw [targetText,if_pos room,if_pos rfl,if_pos (shrinks _ _ room plain),splitQuery_append q plain,
        splitQuery_none plain]
        have named : HasName ('/'.toUInt8 :: rest) ↔ HasName rest := by simp [HasName]
        rw [nameOf,nameOf,Option.map_some,Option.map_some,Option.some.injEq,withDefault,withDefault,named,
          ← not_iff_not,← collapse_nil]
        dsimp only
        rw [if_neg (by simp)]
        by_cases empty : collapse true rest = []
        · rw [empty]
          refine iff_of_true ?_ rfl
          rw [List.append_nil,if_pos ⟨rfl,rfl,rfl⟩]
          decide
        · refine iff_of_false (not_not.mpr ?_) empty
          rw [if_neg]
          rintro ⟨_,length,_⟩
          rw [List.length_append,Nat.add_eq_left,List.length_eq_zero_iff] at length
          exact empty length
      · rw [if_neg room] at accepted
        cases accepted
    · rw [if_neg slash,if_neg] at accepted
      · cases accepted
      · intro star
        obtain ⟨_,tail⟩ := List.cons.inj star
        exact absurd tail (by simp)

/-- What the two protocols make of a target for GET and HEAD is the same file name with
    a query and without, if and only if there is something in the path. -/
theorem query_apart {method : Method} (file : method = .get ∨ method = .head) {p q : List UInt8}
    (plain : '?'.toUInt8 ∉ p) :
    (∀ (hdr hdr' : Mem) (len len' : Nat) (bufs bufs' : PathBufs), TargetLine hdr len (p ++ '?'.toUInt8 :: q) →
      TargetLine hdr' len' p → (resolved (parsePath hdr len (method ≠ .options) bufs)).isSome →
        (nameOf (resolved (parsePath hdr len (method ≠ .options) bufs)) =
          nameOf (resolved (parsePath hdr' len' (method ≠ .options) bufs')) ↔ HasName p)) ∧
    (∀ (path path' : Mem) (bufs bufs' : PathBufs), slice path 0 (p ++ '?'.toUInt8 :: q).length = p ++ '?'.toUInt8 :: q →
      slice path' 0 p.length = p →
      (resolvedH2 (parseH2Path path (p ++ '?'.toUInt8 :: q).length (method ≠ .options) bufs)).isSome →
        (nameOf (resolvedH2 (parseH2Path path (p ++ '?'.toUInt8 :: q).length (method ≠ .options) bufs)) =
          nameOf (resolvedH2 (parseH2Path path' p.length (method ≠ .options) bufs')) ↔ HasName p)) := by
  have default : decide (method ≠ .options) = true := by rcases file with rfl | rfl <;> decide
  rw [default]
  constructor
  · intro hdr hdr' len len' bufs bufs' line line' accepted
    rw [parsePath_target line] at accepted
    rw [parsePath_target line,parsePath_target line']
    exact targetText_apart (fitsH1_shrinks _ _) plain accepted
  · intro path path' bufs bufs' value value' accepted
    rw [parseH2Path_text true bufs value] at accepted
    rw [parseH2Path_text true bufs value,parseH2Path_text true bufs' value']
    exact targetText_apart (fitsH2_shrinks _ _) plain accepted

theorem getRequest_target (target : List UInt8) {i : Nat}
    (found : findTarget (ofBytes (getRequest target)) searchWindow 0 1 = some i)
    (octets : slice (ofBytes (getRequest target)) i (target.length + 1) = target ++ [' '.toUInt8])
    (inside : i + target.length < (getRequest target).length) (clean : Clean target) :
    TargetLine (ofBytes (getRequest target)) (getRequest target).length target := by
  refine ⟨?_,⟨i,found,octets,inside⟩,clean⟩
  have tail : (ascii " HTTP/1.1\r\n\r\n").length = 13 := by decide
  have token : (ascii "GET").length = 3 := by decide
  rw [getRequest,List.length_append,List.length_cons,List.length_append,tail,token,searchWindow]
  omega

/-- A path with a name. -/
theorem query_apart_name :
    nameOf (resolved (parsePath (ofBytes (getRequest (ascii "/a?b")))
      (getRequest (ascii "/a?b")).length true ⟨fun _ => 0,fun _ => 0⟩)) =
      nameOf (resolved (parsePath (ofBytes (getRequest (ascii "/a"))) (getRequest (ascii "/a")).length true ⟨fun _ =>
        0,fun _ => 0⟩)) :=
  ((@query_apart .get (.inl rfl) (ascii "/a") (ascii "b") (by decide)).1 (ofBytes (getRequest (ascii "/a?b")))
    (ofBytes (getRequest (ascii "/a"))) (getRequest (ascii "/a?b")).length (getRequest (ascii "/a")).length _ _
    (@getRequest_target (ascii "/a?b") 4 (by decide +kernel) (by decide +kernel) (by decide +kernel) (by decide +kernel))
    (@getRequest_target (ascii "/a") 4 (by decide +kernel) (by decide +kernel) (by decide +kernel) (by decide +kernel))
    (by decide +kernel)).mpr (by decide +kernel)

/-- The docroot with a query is not the default file, over either protocol. -/
theorem query_names_another :
    nameOf (resolved (parsePath (ofBytes (getRequest (ascii "/?b"))) (getRequest (ascii "/?b")).length true ⟨fun _ =>
      0,fun _ => 0⟩)) =
      some (ascii "www/") ∧
    nameOf (resolved (parsePath (ofBytes (getRequest (ascii "/"))) (getRequest (ascii "/")).length true ⟨fun _ =>
      0,fun _ => 0⟩)) =
      some (ascii "www/index.html") ∧
    nameOf (resolvedH2 (parseH2Path (ofBytes (ascii "/?b")) 3 true ⟨fun _ => 0,fun _ => 0⟩)) = some (ascii "www/") ∧
    nameOf (resolvedH2 (parseH2Path (ofBytes (ascii "/")) 1 true ⟨fun _ => 0,fun _ => 0⟩)) =
        some (ascii "www/index.html") := by
  decide +kernel

end Sarm.Http1
