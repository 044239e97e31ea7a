/-
**Shared types: floats, vectors, quaternions, zones, constants.**

Machine floats are bit patterns of the 32-bit format, so that a value can be any pattern a client
puts on the wire; every operation rounds as the hardware does. A cast of a float to a 32-bit
integer out of range is undefined in the source language; here it gives the least integer, which
is what the x64 instruction gives.

* `Quat.compress`, `Quat.decompress`: the smallest-three packing;
* `ZoneCoord.fromWorldPos`, `ZoneCoord.isAdjacent`: the zone grid;
* `badCoords`: the check that handlers, snapshot and loader share.
-/

import KenshiMP.Lib.BinaryFacts

namespace KenshiMP

open Binary

/-- A machine float. -/
abbrev F32 := Flt binary32

abbrev EntityID := UInt32
abbrev PlayerID := UInt32

/-- A character has seven limbs, of which the first is zero. -/
instance limbs_neZero : NeZero 7 := ⟨by decide⟩

/-! ### Constants -/

def KMP_PROTOCOL_VERSION : UInt32 := 1
def KMP_MAX_NAME_LENGTH : Nat := 31
def KMP_MAX_SYNC_ENTITIES : Nat := 2048
def KMP_CHANNEL_RELIABLE_ORDERED : Nat := 0
def KMP_CHANNEL_RELIABLE_UNORDERED : Nat := 1
def KMP_CHANNEL_UNRELIABLE_SEQ : Nat := 2

/-- A decimal literal of the source, `num / den`. -/
def lit (num : Int) (den : Nat) : F32 := Flt.ofRatio num den

def KMP_ZONE_SIZE : F32 := lit 750 1
def KMP_POS_CHANGE_THRESHOLD : F32 := lit 1 10

/-! ### Casts -/

/-- A float cast to a signed 32-bit integer. -/
def toInt32 (x : F32) : Int32 :=
  if x.isFinite && decide (-2147483648 ≤ x.trunc) && decide (x.trunc ≤ 2147483647) then
    Int32.ofInt x.trunc
  else Int32.minValue

/-- `std::clamp`. -/
def clamp (v lo hi : F32) : F32 := if v.lt lo then lo else if hi.lt v then hi else v

/-! ### Vectors -/

structure Vec3 where
  x : F32 := lit 0 1
  y : F32 := lit 0 1
  z : F32 := lit 0 1
deriving DecidableEq

namespace Vec3

/-- No coordinate is infinite or not a number. -/
def isFinite (v : Vec3) : Bool := v.x.isFinite && v.y.isFinite && v.z.isFinite

/-- `dx*dx + dy*dy + dz*dz`, as the handlers compute the distance of two points. -/
def distSq (v w : Vec3) : F32 :=
  let dx := v.x.sub w.x
  let dy := v.y.sub w.y
  let dz := v.z.sub w.z
  ((dx.mul dx).add (dy.mul dy)).add (dz.mul dz)

end Vec3

/-- Coordinates a position may not have: not a number, infinite, or beyond a million. -/
def badCoords (x y z : F32) : Bool :=
  x.isNaN || y.isNaN || z.isNaN || x.isInf || y.isInf || z.isInf
    || (lit 1000000 1).lt x.abs || (lit 1000000 1).lt y.abs || (lit 1000000 1).lt z.abs

/-! ### Rotations -/

structure Quat where
  w : F32 := lit 1 1
  x : F32 := lit 0 1
  y : F32 := lit 0 1
  z : F32 := lit 0 1
deriving DecidableEq

namespace Quat

/-- No component is infinite or not a number. -/
def isFinite (q : Quat) : Bool := q.w.isFinite && q.x.isFinite && q.y.isFinite && q.z.isFinite

/-- The components as the source indexes them. -/
def comps (q : Quat) : Fin 4 → F32 := ![q.w, q.x, q.y, q.z]

/-- The index of the component of greatest magnitude, the first one on a tie. -/
def largest (q : Quat) : Fin 4 :=
  [1, 2, 3].foldl (fun largest i =>
    if (q.comps largest).abs.lt (q.comps i).abs then i else largest) (0 : Fin 4)

/-- The three indices that are kept, in order. -/
def kept (largest : Fin 4) : List (Fin 4) := [0, 1, 2, 3].filter (· ≠ largest)

/-- One kept component on ten bits. -/
def quantize (val : F32) : UInt32 :=
  let quantized := toInt32
    ((((val.add (lit 7071068 10000000)).div (lit 14142136 10000000)).mul (lit 1023 1)).add
      (lit 1 2))
  if quantized < 0 then 0 else if 1023 < quantized then 1023 else quantized.toUInt32

/-- Smallest-three compression: two bits of index, then three components. -/
def compress (q : Quat) : UInt32 :=
  let sign := if (q.comps q.largest).lt (lit 0 1) then lit (-1) 1 else lit 1 1
  (kept q.largest).zipIdx.foldl
    (fun packed entry =>
      packed ||| (quantize ((q.comps entry.1).mul sign) <<< UInt32.ofNat (entry.2 * 10)))
    (UInt32.ofNat q.largest.val <<< 30)

/-- The value of ten bits. -/
def dequantize (packed : UInt32) (slot : Nat) : F32 :=
  let quantized := (packed >>> UInt32.ofNat (slot * 10)) &&& 0x3FF
  (((Flt.ofInt quantized.toNat).div (lit 1023 1)).mul (lit 14142136 10000000)).sub
    (lit 7071068 10000000)

/-- The dropped component, from the three kept ones in order. -/
def restore (a b c : F32) : F32 :=
  let sumSq := (((lit 0 1).add (a.mul a)).add (b.mul b)).add (c.mul c)
  let rest := (lit 1 1).sub sumSq
  Flt.sqrt (if (lit 0 1).lt rest then rest else lit 0 1)

def decompress (packed : UInt32) : Quat :=
  let a := dequantize packed 0
  let b := dequantize packed 1
  let c := dequantize packed 2
  match (packed >>> 30).toNat with
  | 0 => ⟨restore a b c, a, b, c⟩
  | 1 => ⟨a, restore a b c, b, c⟩
  | 2 => ⟨a, b, restore a b c, c⟩
  | _ => ⟨a, b, c, restore a b c⟩

end Quat

/-! ### Zones -/

structure ZoneCoord where
  x : Int32 := 0
  y : Int32 := 0
deriving DecidableEq

namespace ZoneCoord

/-- `std::abs`, which keeps the least integer. -/
def magnitude (n : Int32) : Int32 := if n < 0 then -n else n

def isAdjacent (zone other : ZoneCoord) : Bool :=
  magnitude (zone.x - other.x) ≤ 1 && magnitude (zone.y - other.y) ≤ 1

/-- The zone coordinate of a world coordinate. -/
def cell (coord zoneSize : F32) : Int32 :=
  let quotient := coord.div zoneSize
  toInt32 (if quotient.isFinite then Flt.ofInt quotient.floor else quotient)

def fromWorldPos (pos : Vec3) : ZoneCoord :=
  if !pos.x.isFinite || !pos.z.isFinite then ⟨0, 0⟩
  else ⟨cell pos.x KMP_ZONE_SIZE, cell pos.z KMP_ZONE_SIZE⟩

end ZoneCoord

/-! ### Enumerations -/

inductive EntityState where
  | Inactive | Spawning | Active | Despawning | Frozen
deriving DecidableEq, Repr

inductive AuthorityType where
  | None | Server | Player | Transferring
deriving DecidableEq, Repr

/-- The number of entity types: `Turret` is the last one. -/
def EntityType.Turret : UInt8 := 6

def EntityType.PlayerCharacter : UInt8 := 0

def EntityType.NPC : UInt8 := 1

def EntityType.Building : UInt8 := 3

/-- The last status effect. -/
def StatusEffect_Bandaged : UInt8 := 4

/-! ### Decompressed rotations are finite -/

open Flt (Bounded)

theorem zero_bounded (j : Nat) : Bounded (lit 0 1) j := by
  refine ⟨by decide, ?_⟩
  have none : (lit 0 1).units = 0 := by decide
  rw [none]
  exact Nat.zero_le _

theorem one_bounded : Bounded (lit 1 1) 149 := by
  refine ⟨by decide +kernel, ?_⟩
  have one : (lit 1 1).units = 2 ^ 149 := by decide +kernel
  rw [one]

/-- What is above zero has no sign. -/
theorem neg_of_zero_lt {x : F32} (positive : (lit 0 1).lt x = true) : x.neg = false := by
  have order : (lit 0 1).key < x.key := by
    unfold Flt.lt at positive
    simp only [Bool.and_eq_true, decide_eq_true_eq] at positive
    exact positive.2
  have zero : (lit 0 1).key = 0 := by decide
  rw [zero] at order
  by_contra signed
  rw [Bool.not_eq_false] at signed
  unfold Flt.key at order
  rw [if_pos signed] at order
  omega

namespace Quat

theorem dequantize_bounded (packed : UInt32) (slot : Nat) : Bounded (dequantize packed slot) 152 := by
  set quantized := (packed >>> UInt32.ofNat (slot * 10)) &&& 0x3FF
  have small : quantized.toNat ≤ 2 ^ 10 := by
    have mask : quantized.toNat ≤ 0x3FF := by
      show ((packed >>> UInt32.ofNat (slot * 10)) &&& 0x3FF).toNat ≤ _
      rw [UInt32.toNat_and]
      exact Nat.and_le_right
    omega
  have whole : Bounded (Flt.ofInt quantized.toNat : F32) 159 :=
    Flt.ofInt_bounded (j := 10) small (by decide)
  have fraction : Bounded ((Flt.ofInt quantized.toNat).div (lit 1023 1)) 150 :=
    Flt.div_bounded (k := 158) whole (by decide +kernel) (by decide +kernel) (by decide) (by decide)
  have scaled := Flt.mul_bounded (i := 151) fraction
    (show Bounded (lit 14142136 10000000) 150 from ⟨by decide +kernel, by decide +kernel⟩)
    (by decide) (by decide)
  exact Flt.sub_bounded scaled
    (show Bounded (lit 7071068 10000000) 151 from ⟨by decide +kernel, by decide +kernel⟩) (by decide)

theorem restore_isFinite {a b c : F32} (first : Bounded a 152) (second : Bounded b 152)
    (third : Bounded c 152) : (restore a b c).isFinite = true := by
  have square {x : F32} (bounded : Bounded x 152) : Bounded (x.mul x) 155 :=
    Flt.mul_bounded bounded bounded (by decide) (by decide)
  have one := Flt.add_bounded (zero_bounded 155) (square first) (by decide)
  have two := Flt.add_bounded one ((square second).mono (by omega)) (by decide)
  have sumSq := Flt.add_bounded two ((square third).mono (by omega)) (by decide)
  have rest := Flt.sub_bounded (one_bounded.mono (by omega : 149 ≤ 158)) sumSq (by decide)
  unfold restore
  simp only
  split_ifs with positive
  · exact (Flt.sqrt_bounded (i := 154) rest (neg_of_zero_lt positive) (by decide) (by decide)).1
  · decide

/-- **A decompressed rotation is finite**, whatever the 32 bits. -/
theorem decompress_isFinite (packed : UInt32) : (decompress packed).isFinite = true := by
  have bounded := dequantize_bounded packed
  have restored := restore_isFinite (bounded 0) (bounded 1) (bounded 2)
  unfold decompress
  simp only
  split <;> simp [isFinite, (bounded 0).1, (bounded 1).1, (bounded 2).1, restored]

end Quat

/-! ### Counters -/

/-- A counter that is not at its end goes up, and not to zero. -/
theorem lt_succ_of_ne {n : UInt32} (notLast : n ≠ 0xFFFFFFFF) : n < n + 1 ∧ n + 1 ≠ 0 := by
  have different : n.toNat ≠ 0xFFFFFFFF := fun same => notLast (UInt32.toNat_inj.mp same)
  have bound := n.toNat_lt
  constructor
  · rw [UInt32.lt_iff_toNat_lt, UInt32.toNat_add]
    simp only [UInt32.reduceToNat]
    omega
  · intro zero
    have same := congrArg UInt32.toNat zero
    rw [UInt32.toNat_add] at same
    simp only [UInt32.reduceToNat] at same
    omega

end KenshiMP
