import Sarm.Jacobian
import Sarm.P256Primes

/-!
The points of P-256 in Jacobian coordinates: doubling and addition, and the selection among the
candidates for a sum.
-/
namespace Sarm.P256
open Sarm.Memory Sarm.Words Sarm.Limbs Sarm.Jacobian

/-! ### The code -/

/-- Coordinates, as they follow each other in memory. -/
structure JacobianPoint where
  X : List Limb
  Y : List Limb
  Z : List Limb

def readPoint (m : Mem) (a : Nat) : JacobianPoint := ⟨limbs m a 4,limbs m (a+32) 4,limbs m (a+64) 4⟩

def storePoint (m : Mem) (a : Nat) (p : JacobianPoint) : Mem := storeLimbs m a (p.X ++ p.Y ++ p.Z)

/-- Products, sums and differences between scratch slots. -/
def feMul (a b : List Limb) : List Limb := mulRegs a b

def feSqr (a : List Limb) : List Limb := mulRegs a a

def feAdd (a b : List Limb) : List Limb := addMod p256_p a b

def feSub (a b : List Limb) : List Limb := subMod p256_p a b

def feEq (a b : List Limb) : Bool := a == b

def feCmov (dst src : List Limb) (cond : Bool) : List Limb := if cond then src else dst

/-- All coordinates of `src`, on one condition. -/
def pointCmov (dst src : JacobianPoint) (cond : Bool) : JacobianPoint :=
  ⟨feCmov dst.X src.X cond,feCmov dst.Y src.Y cond,feCmov dst.Z src.Z cond⟩

def isZero (a : List Limb) : Bool := a.foldr (· ||| ·) 0 == 0

/-- The slots of `p256_point_dbl`. -/
def pointDbl (p : JacobianPoint) : JacobianPoint :=
  let delta := feSqr p.Z
  let gamma := feSqr p.Y
  let beta := feMul p.X gamma
  let t1 := feSub p.X delta
  let t2 := feAdd p.X delta
  let alpha0 := feMul t1 t2
  let alpha := feAdd (feAdd alpha0 alpha0) alpha0
  let t3 := feSqr alpha
  let t4 := feAdd beta beta
  let t4 := feAdd t4 t4
  let t4 := feAdd t4 t4
  let X3 := feSub t3 t4
  let t5 := feAdd p.Y p.Z
  let t6 := feSqr t5
  let t7 := feSub t6 gamma
  let Z3 := feSub t7 delta
  let t8 := feAdd beta beta
  let t8 := feAdd t8 t8
  let t9 := feSub t8 X3
  let t10 := feMul alpha t9
  let t11 := feSqr gamma
  let t12 := feAdd t11 t11
  let t12 := feAdd t12 t12
  let t12 := feAdd t12 t12
  let Y3 := feSub t10 t12
  ⟨X3,Y3,Z3⟩

def p256_point_dbl (m : Mem) (x0 x1 : Nat) : Mem := storePoint m x0 (pointDbl (readPoint m x1))

/-- What the coordinates are compared by. -/
structure Compared where
  U1 : List Limb
  U2 : List Limb
  S1 : List Limb
  S2 : List Limb

def compared (P1 P2 : JacobianPoint) : Compared :=
  let Z1Z1 := feSqr P1.Z
  let Z2Z2 := feSqr P2.Z
  let Z2cubed := feMul P2.Z Z2Z2
  let Z1cubed := feMul P1.Z Z1Z1
  ⟨feMul P1.X Z2Z2,feMul P2.X Z1Z1,feMul P1.Y Z2cubed,feMul P2.Y Z1cubed⟩

/-- The sum of points with different coordinates. -/
def addGeneric (c : Compared) (Z1 Z2 : List Limb) : JacobianPoint :=
  let H := feSub c.U2 c.U1
  let r := feSub c.S2 c.S1
  let HH := feSqr H
  let HHH := feMul H HH
  let V := feMul c.U1 HH
  let rr := feSqr r
  let t_a := feSub rr HHH
  let twoV := feAdd V V
  let X3 := feSub t_a twoV
  let t_b := feSub V X3
  let t_c := feMul r t_b
  let t_d := feMul c.S1 HHH
  let Y3 := feSub t_c t_d
  let Z3 := feMul (feMul H Z1) Z2
  ⟨X3,Y3,Z3⟩

def zeros : List Limb := [0,0,0,0]

/-- Each selection replaces what the ones before have left. -/
def pointAdd (P1 P2 : JacobianPoint) : JacobianPoint :=
  let c := compared P1 P2
  let result := addGeneric c P1.Z P2.Z
  let dbl := pointDbl P1
  let eq_u := feEq c.U1 c.U2
  let eq_s := feEq c.S1 c.S2
  let result := pointCmov result dbl (eq_u && eq_s)
  let result := pointCmov result ⟨zeros,zeros,zeros⟩ (eq_u && !eq_s)
  let result := pointCmov result P1 (isZero P2.Z)
  pointCmov result P2 (isZero P1.Z)

def p256_point_add (m : Mem) (x0 x1 x2 : Nat) : Mem := storePoint m x0 (pointAdd (readPoint m x1) (readPoint m x2))

/-! ### Elements of the field -/

/-- Limbs in canonical form, and the residue that they are. -/
structure Holds (a : List Limb) (x : ZMod prime) : Prop where
  canonical : Canonical a
  same : (value a : ZMod prime) = x

section
variable {a b : List Limb} {x y : ZMod prime}

theorem Holds.of_eq (holds : Holds a x) (same : x = y) : Holds a y := same ▸ holds

theorem Holds.mul (first : Holds a x) (second : Holds b y) : Holds (feMul a b) (x * y) := by
  obtain ⟨canonical,product⟩ := mulRegs_spec first.canonical.length second.canonical.length
  refine ⟨canonical,?_⟩
  rw [feMul,product,ZMod.natCast_mod,Nat.cast_mul,first.same,second.same]

theorem Holds.sqr (holds : Holds a x) : Holds (feSqr a) (x^2) := (holds.mul holds).of_eq (sq x).symm

theorem Holds.add (first : Holds a x) (second : Holds b y) : Holds (feAdd a b) (x + y) := by
  obtain ⟨canonical,sum⟩ := addRegs_spec first.canonical second.canonical
  refine ⟨canonical,?_⟩
  rw [feAdd,sum,ZMod.natCast_mod,Nat.cast_add,first.same,second.same]

theorem Holds.sub (first : Holds a x) (second : Holds b y) : Holds (feSub a b) (x - y) := by
  obtain ⟨canonical,difference⟩ := subRegs_spec first.canonical second.canonical
  refine ⟨canonical,?_⟩
  rw [feSub,difference,ZMod.natCast_mod,Nat.cast_add,Nat.cast_sub second.canonical.small.le,ZMod.natCast_self,zero_sub,
    first.same,second.same,sub_eq_add_neg]

/-- Residues are equal if their limbs are. -/
theorem Holds.eq_iff (first : Holds a x) (second : Holds b y) : feEq a b = true ↔ x = y := by
  rw [feEq,beq_iff_eq]
  constructor
  · rintro rfl
    exact first.same.symm.trans second.same
  · rintro rfl
    have congruent := (ZMod.natCast_eq_natCast_iff' _ _ _).mp (first.same.trans second.same.symm)
    rw [Nat.mod_eq_of_lt first.canonical.small,Nat.mod_eq_of_lt second.canonical.small] at congruent
    exact value_inj (first.canonical.length.trans second.canonical.length.symm) congruent

attribute [irreducible] feMul feSqr feAdd feSub

theorem zeros_holds : Holds zeros 0 := ⟨⟨rfl,by decide⟩,by rw [show value zeros = 0 from rfl,Nat.cast_zero]⟩

theorem isZero_iff (length : a.length = 4) : isZero a = true ↔ a = zeros := by
  obtain ⟨x0,x1,x2,x3,rfl⟩ := List.length_eq_four.mp length
  have either (x y : Limb) : x ||| y = 0 ↔ x = 0 ∧ y = 0 := BitVec.or_eq_zero_iff
  simp only [isZero,zeros,List.foldr_cons,List.foldr_nil,beq_iff_eq,either,and_true,List.cons.injEq]

theorem Holds.zero_iff (holds : Holds a x) : isZero a = true ↔ x = 0 := by
  rw [isZero_iff holds.canonical.length,← holds.eq_iff zeros_holds,feEq,beq_iff_eq]

end

/-! ### Points -/

variable {b : ZMod prime}

/-- Coordinates that represent a point. -/
structure Stands (p : JacobianPoint) (P : (curve b).toAffine.Point) : Prop where
  first : Canonical p.X
  second : Canonical p.Y
  third : Canonical p.Z
  represents : Represents (value p.X : ZMod prime) (value p.Y) (value p.Z) P

theorem Stands.of {p : JacobianPoint} {X Y Z : ZMod prime} (first : Holds p.X X) (second : Holds p.Y Y)
    (third : Holds p.Z Z)
    {P : (curve b).toAffine.Point} (represents : Represents X Y Z P) : Stands p P :=
  ⟨first.canonical,second.canonical,third.canonical,by rw [first.same,second.same,third.same]; exact represents⟩

theorem two_ne_zero' : (2 : ZMod prime) ≠ 0 := by
  intro none
  have divides : prime ∣ 2 := (ZMod.natCast_eq_zero_iff 2 prime).mp none
  exact absurd (Nat.le_of_dvd (by decide) divides) (by decide)

theorem pointDbl_stands {p : JacobianPoint} {P : (curve b).toAffine.Point} (stands : Stands p P) :
    Stands (pointDbl p) (P + P) := by
  have x : Holds p.X (value p.X) := ⟨stands.first,rfl⟩
  have y : Holds p.Y (value p.Y) := ⟨stands.second,rfl⟩
  have z : Holds p.Z (value p.Z) := ⟨stands.third,rfl⟩
  have delta := z.sqr
  have gamma := y.sqr
  have beta := x.mul gamma
  have alpha0 := (x.sub delta).mul (x.add delta)
  have alpha := (alpha0.add alpha0).add alpha0
  have two := beta.add beta
  have four := two.add two
  have X3 := alpha.sqr.sub (four.add four)
  have Z3 := ((y.add z).sqr.sub gamma).sub delta
  have square := gamma.sqr
  have double := square.add square
  have quadruple := double.add double
  have Y3 := (alpha.mul (four.sub X3)).sub (quadruple.add quadruple)
  have doubled := stands.represents.double two_ne_zero'
  rw [pointDbl]
  refine Stands.of (X3.of_eq ?_) (Y3.of_eq ?_) Z3 doubled
  · ring
  · ring

/-- Coordinates over a common denominator. -/
structure Compares (c : Compared) (U U' S S' : ZMod prime) : Prop where
  U1 : Holds c.U1 U
  U2 : Holds c.U2 U'
  S1 : Holds c.S1 S
  S2 : Holds c.S2 S'

theorem compared_spec {P1 P2 : JacobianPoint} {P Q : (curve b).toAffine.Point} (stands : Stands P1 P)
    (stands' : Stands P2 Q) :
    Compares (compared P1 P2) (value P1.X * value P2.Z^2) (value P2.X * value P1.Z^2) (value P1.Y * value P2.Z^3)
      (value P2.Y * value P1.Z^3) := by
  have z : Holds P1.Z (value P1.Z) := ⟨stands.third,rfl⟩
  have z' : Holds P2.Z (value P2.Z) := ⟨stands'.third,rfl⟩
  have cubed := (z.mul z.sqr).of_eq (pow_succ' (value P1.Z : ZMod prime) 2).symm
  have cubed' := (z'.mul z'.sqr).of_eq (pow_succ' (value P2.Z : ZMod prime) 2).symm
  exact ⟨Holds.mul ⟨stands.first,rfl⟩ z'.sqr,Holds.mul ⟨stands'.first,rfl⟩ z.sqr,Holds.mul ⟨stands.second,rfl⟩ cubed',
    Holds.mul ⟨stands'.second,rfl⟩ cubed⟩

/-- The formula, for points with different first coordinates. -/
theorem addGeneric_stands {P1 P2 : JacobianPoint} {P Q : (curve b).toAffine.Point} (stands : Stands P1 P)
    (stands' : Stands P2 Q)
    (finite : (value P1.Z : ZMod prime) ≠ 0) (finite' : (value P2.Z : ZMod prime) ≠ 0)
    (distinct : (value P1.X : ZMod prime) * value P2.Z^2 ≠ value P2.X * value P1.Z^2) :
    Stands (addGeneric (compared P1 P2) P1.Z P2.Z) (P + Q) := by
  obtain ⟨U1,U2,S1,S2⟩ := compared_spec stands stands'
  have sum := stands.represents.add stands'.represents finite finite' distinct
  have H := U2.sub U1
  have r := S2.sub S1
  have HHH := H.mul H.sqr
  have V := U1.mul H.sqr
  have X3 := (r.sqr.sub HHH).sub (V.add V)
  have Y3 := (r.mul (V.sub X3)).sub (S1.mul HHH)
  have z : Holds P1.Z (value P1.Z) := ⟨stands.third,rfl⟩
  have z' : Holds P2.Z (value P2.Z) := ⟨stands'.third,rfl⟩
  have Z3 := (H.mul z).mul z'
  rw [addGeneric]
  refine Stands.of (X3.of_eq ?_) (Y3.of_eq ?_) Z3 sum
  · ring
  · ring

theorem pointCmov_eq (dst src : JacobianPoint) (cond : Bool) : pointCmov dst src cond = if cond then src else dst := by
  cases cond <;> rfl

/-- Which candidate is left: an infinite argument decides first. -/
theorem pointAdd_eq (P1 P2 : JacobianPoint) : pointAdd P1 P2 =
    if isZero P1.Z then P2 else if isZero P2.Z then P1 else
      let c := compared P1 P2
      if feEq c.U1 c.U2 then if feEq c.S1 c.S2 then pointDbl P1 else ⟨zeros,zeros,zeros⟩ else addGeneric c P1.Z P2.Z := by
  simp only [pointAdd,pointCmov_eq]
  generalize addGeneric (compared P1 P2) P1.Z P2.Z = sum
  generalize pointDbl P1 = double
  generalize feEq (compared P1 P2).U1 (compared P1 P2).U2 = eq_u
  generalize feEq (compared P1 P2).S1 (compared P1 P2).S2 = eq_s
  cases eq_u <;> cases eq_s <;> rfl

theorem pointAdd_stands {P1 P2 : JacobianPoint} {P Q : (curve b).toAffine.Point} (stands : Stands P1 P)
    (stands' : Stands P2 Q) :
    Stands (pointAdd P1 P2) (P + Q) := by
  have z : Holds P1.Z (value P1.Z) := ⟨stands.third,rfl⟩
  have z' : Holds P2.Z (value P2.Z) := ⟨stands'.third,rfl⟩
  obtain ⟨U1,U2,S1,S2⟩ := compared_spec stands stands'
  rw [pointAdd_eq]
  split
  · next zero =>
    rw [stands.represents.infinite.mp (z.zero_iff.mp zero),zero_add]
    exact stands'
  next finite =>
  split
  · next zero =>
    rw [stands'.represents.infinite.mp (z'.zero_iff.mp zero),add_zero]
    exact stands
  next finite' =>
  rw [z.zero_iff] at finite
  rw [z'.zero_iff] at finite'
  obtain ⟨equal,opposite⟩ := stands.represents.same_iff stands'.represents finite finite'
  dsimp only
  split
  · next eq_u =>
    rw [U1.eq_iff U2] at eq_u
    split
    · next eq_s =>
      rw [← equal ⟨eq_u,(S1.eq_iff S2).mp eq_s⟩]
      exact pointDbl_stands stands
    · next eq_s =>
      rw [opposite ⟨eq_u,mt (S1.eq_iff S2).mpr eq_s⟩]
      exact Stands.of zeros_holds zeros_holds zeros_holds (show (0 : ZMod prime) = 0 from rfl)
  · next eq_u => exact addGeneric_stands stands stands' finite finite' (mt (U1.eq_iff U2).mpr eq_u)

/-! ### In memory -/

/-- The constant of the curve. -/
def p256_b : List Limb := [0x3bce3c3e27d2604b,0x651d06b0cc53b0f6,0xb3ebbd55769886bc,0x5ac635d8aa3a93e7]

/-- The points of P-256. -/
abbrev CurvePoint := (curve (value p256_b : ZMod prime)).toAffine.Point

theorem Stands.stored {p : JacobianPoint} {P : (curve b).toAffine.Point} (stands : Stands p P) (m : Mem) (a : Nat) :
    readPoint (storePoint m a p) a = p ∧ ChangesOnly [(a,96)] m (storePoint m a p) := by
  obtain ⟨X,Y,Z⟩ := p
  obtain ⟨first,second,third,_⟩ := stands
  have length : (X ++ Y ++ Z).length = 12 := by
    rw [List.length_append,List.length_append,first.length,second.length,third.length]
  have whole : limbs (storePoint m a ⟨X,Y,Z⟩) a 12 = X ++ Y ++ Z := limbs_stored length
  refine ⟨?_,storeLimbs_changes length m a⟩
  rw [show 12 = 4 + (4 + 4) from rfl,limbs_add,limbs_add,List.append_assoc] at whole
  obtain ⟨same,rest⟩ := List.append_inj whole (by rw [limbs_length,first.length])
  obtain ⟨same',same''⟩ := List.append_inj rest (by rw [limbs_length,second.length])
  rw [readPoint,same,same',same'']

end Sarm.P256
