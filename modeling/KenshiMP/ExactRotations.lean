/-
**The compression of rotations, in exact arithmetic.**

The smallest-three compression over any ordered field with integer parts; the square root of the decompression
is a parameter, which is the real one over the real numbers.
-/

import Mathlib.Algebra.Order.Floor.Ring
import Mathlib.Tactic

namespace KenshiMP

namespace Exact

structure Quat (K : Type*) where
  w : K
  x : K
  y : K
  z : K
deriving DecidableEq

namespace Quat

variable {K : Type*}

/-- The components as the source indexes them. -/
def comps (q : Quat K) : ℕ → K
  | 0 => q.w
  | 1 => q.x
  | 2 => q.y
  | _ => q.z

def ofComps (comps : ℕ → K) : Quat K := ⟨comps 0, comps 1, comps 2, comps 3⟩

variable [Field K] [LinearOrder K] [FloorRing K]

/-- The index of the component of greatest magnitude, the first one on a tie. -/
def largest (q : Quat K) : ℕ :=
  [1, 2, 3].foldl (fun largest i => if |q.comps largest| < |q.comps i| then i else largest) 0

/-- The sign of the dropped component. -/
def sign (q : Quat K) : K := if q.comps q.largest < 0 then -1 else 1

/-- `static_cast<int>` -/
def truncate (val : K) : ℤ := if val < 0 then ⌈val⌉ else ⌊val⌋

/-- The bound of a kept component. -/
def limit : K := 7071068 / 10000000

/-- The width of the range of a kept component. -/
def range : K := 14142136 / 10000000

/-- The place of a kept component on the scale from 0 to 1023. -/
def scaled (val : K) : K := (val + limit) / range * 1023

/-- A kept component as an integer, before it is put into its range. -/
def quantized (val : K) : ℤ := truncate (scaled val + 5 / 10)

def clamped (n : ℤ) : UInt32 := if n < 0 then 0 else if 1023 < n then 1023 else UInt32.ofNat n.toNat

/-- Smallest-three compression: two bits of index, then three components. -/
def compress (q : Quat K) : UInt32 :=
  let pack : UInt32 × ℕ → ℕ → UInt32 × ℕ := fun (packed, slot) i =>
    if i = q.largest then (packed, slot)
    else (packed ||| clamped (quantized (q.comps i * q.sign)) <<< UInt32.ofNat (slot * 10), slot + 1)
  ([0, 1, 2, 3].foldl pack (UInt32.ofNat q.largest <<< 30, 0)).1

/-- The value of ten bits. -/
def dequantize (packed : UInt32) (slot : ℕ) : K :=
  let quantized := (packed >>> UInt32.ofNat (slot * 10)) &&& 0x3FF
  (quantized.toNat : K) / 1023 * range - limit

/-- The two bits of the index. -/
def index (packed : UInt32) : ℕ := ((packed >>> 30) &&& 0x3).toNat

def decompress (sqrt : K → K) (packed : UInt32) : Quat K :=
  let largest := index packed
  let unpack : (ℕ → K) × ℕ × K → ℕ → (ℕ → K) × ℕ × K := fun (comps, slot, sumSq) i =>
    if i = largest then (comps, slot, sumSq)
    else
      let comp : K := dequantize packed slot
      (Function.update comps i comp, slot + 1, sumSq + comp * comp)
  let (comps, _, sumSq) := [0, 1, 2, 3].foldl unpack (fun _ => 0, 0, 0)
  ofComps (Function.update comps largest (sqrt (max 0 (1 - sumSq))))

end Quat

end Exact

end KenshiMP
