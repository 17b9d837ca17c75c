import Mathlib

/-!
# A binary64 model of the floating-point operations a quorum computation uses

An IEEE 754 binary64 value is NaN, a signed infinity, or a signed finite magnitude. A finite
magnitude is kept scaled by `2 ^ 1074`, the inverse of the least subnormal, so that every
binary64 value is an integer multiple of the unit and no rational arithmetic is needed: the
value of `finite neg mag` is `± mag / 2 ^ 1074`.

`roundScaled A D` rounds the exact non-negative value `A / D` (in scaled units) to the nearest
binary64 magnitude, ties to an even significand, and reports overflow past the largest finite
value. The operations below are the exact operation followed by that rounding:

* `ofNat`: the conversion of an unsigned integer (`n as f64`);
* `ofDecimal`: the value of a decimal literal `m * 10 ^ -k`, rounded as the compiler does;
* `mul`, `div`, `add`: multiplication, division and addition, with the IEEE rules for NaN,
  infinities, zeros and signs; `neg` and `sub` (`a + (-b)`);
* `le`, `lt`: the comparisons, false whenever a NaN is compared; `F64.min`, which returns
  the other argument when one is NaN;
* `ceil`: rounding up to an integer, which is exact;
* `F64.round`: rounding to the nearest integer, halves away from zero, which is exact;
* `toUInt64Sat`: the saturating cast `x as u64` (NaN and negatives to `0`, large values to
  `u64::MAX`, truncation toward zero otherwise).

The module names nothing of the repository it serves.
-/

set_option autoImplicit false

namespace Binary64

/-- Significand width of binary64, the hidden bit included. -/
def precision : Nat := 53

/-- Scale of the magnitudes: the least subnormal is `2 ^ -1074`. -/
def scaleExp : Nat := 1074

/-- Scaled magnitudes from this bound on round to infinity: `2 ^ 1024` in scaled units. -/
def overflowMag : Nat := 2 ^ (1024 + scaleExp)

/-- A binary64 value; a finite one is `± mag / 2 ^ 1074`. -/
inductive F64 where
  | nan
  | inf (neg : Bool)
  | finite (neg : Bool) (mag : Nat)
  deriving DecidableEq, Repr

/-- `a / b` rounded to the nearest integer, ties to even. -/
def roundHalfEven (a b : Nat) : Nat :=
  if 2 * (a % b) < b then a / b
  else if b < 2 * (a % b) then a / b + 1
  else if a / b % 2 = 0 then a / b else a / b + 1

/-- `⌊log₂ (A / D)⌋` for `A, D > 0`: the estimate from the bit lengths is exact or one too
large. -/
def floorLog2 (A D : Nat) : Int :=
  let l : Int := (Nat.log2 A : Int) - Nat.log2 D
  if D * 2 ^ l.toNat ≤ A * 2 ^ (-l).toNat then l else l - 1

/-- Exponent of the unit in the last place at the scaled value `A / D`: `0` up to the top of
the first normal binade, then `⌊log₂ (A / D)⌋ - 52`. -/
def ulpExp (A D : Nat) : Nat :=
  if A = 0 then 0 else (floorLog2 A D - (precision - 1 : Nat)).toNat

/-- The scaled value `A / D` rounded to the nearest binary64 magnitude, ties to even;
`none` when the result overflows. -/
def roundScaled (A D : Nat) : Option Nat :=
  let p := ulpExp A D
  let mag := roundHalfEven A (D * 2 ^ p) * 2 ^ p
  if mag < overflowMag then some mag else none

/-- A signed rounded value: finite, or an infinity of that sign on overflow. -/
def ofRounded (neg : Bool) : Option Nat → F64
  | some mag => .finite neg mag
  | none => .inf neg

/-- The unsigned integer `n` converted to binary64 (`n as f64`). -/
def ofNat (n : Nat) : F64 := ofRounded false (roundScaled (n * 2 ^ scaleExp) 1)

/-- The decimal literal `m * 10 ^ -k`, rounded to the nearest binary64 value. -/
def ofDecimal (m k : Nat) : F64 := ofRounded false (roundScaled (m * 2 ^ scaleExp) (10 ^ k))

/-- `a * b` in binary64. -/
def mul : F64 → F64 → F64
  | .nan, _ => .nan
  | _, .nan => .nan
  | .inf s, .inf t => .inf (s != t)
  | .inf s, .finite t m => if m = 0 then .nan else .inf (s != t)
  | .finite s m, .inf t => if m = 0 then .nan else .inf (s != t)
  | .finite s m, .finite t n => ofRounded (s != t) (roundScaled (m * n) (2 ^ scaleExp))

/-- `a / b` in binary64: a zero divisor gives an infinity, or NaN for `0 / 0`. -/
def div : F64 → F64 → F64
  | .nan, _ => .nan
  | _, .nan => .nan
  | .inf _, .inf _ => .nan
  | .inf s, .finite t _ => .inf (s != t)
  | .finite s _, .inf t => .finite (s != t) 0
  | .finite s m, .finite t n =>
    if n = 0 then (if m = 0 then .nan else .inf (s != t))
    else ofRounded (s != t) (roundScaled (m * 2 ^ scaleExp) n)

/-- `a + b` in binary64; an exact zero sum of opposite signs is `+0`. -/
def add : F64 → F64 → F64
  | .nan, _ => .nan
  | _, .nan => .nan
  | .inf s, .inf t => if s = t then .inf s else .nan
  | .inf s, .finite _ _ => .inf s
  | .finite _ _, .inf t => .inf t
  | .finite s m, .finite t n =>
    if s = t then ofRounded s (roundScaled (m + n) 1)
    else if m = n then .finite false 0
    else if n < m then ofRounded s (roundScaled (m - n) 1)
    else ofRounded t (roundScaled (n - m) 1)

/-- `-a`: the sign flipped, NaN kept. -/
def neg : F64 → F64
  | .nan => .nan
  | .inf s => .inf (!s)
  | .finite s m => .finite (!s) m

/-- `a - b` in binary64, which IEEE 754 defines as `a + (-b)`. -/
def sub (a b : F64) : F64 := add a (neg b)

/-- The signed value of a finite magnitude, in scaled units. -/
def signedMag (neg : Bool) (m : Nat) : Int := if neg then -(m : Int) else m

/-- `a ≤ b` in binary64: false when either is NaN; the two zeros are equal. -/
def le : F64 → F64 → Bool
  | .nan, _ => false
  | _, .nan => false
  | .inf true, _ => true
  | _, .inf false => true
  | .inf false, _ => false
  | _, .inf true => false
  | .finite s m, .finite t n => decide (signedMag s m ≤ signedMag t n)

/-- `a < b` in binary64: false when either is NaN. -/
def lt (a b : F64) : Bool := le a b && !le b a

/-- `f64::min`: the lesser of two values, and the other one when either is NaN. In the
namespace of `F64`, as `F64.round` is. -/
def F64.min : F64 → F64 → F64
  | .nan, b => b
  | a, .nan => a
  | a, b => if le a b then a else b

/-- The least integer not below a value (`f64::ceil`); exact, so no rounding step. -/
def ceil : F64 → F64
  | .finite false m => .finite false ((m + 2 ^ scaleExp - 1) / 2 ^ scaleExp * 2 ^ scaleExp)
  | .finite true m => .finite true (m / 2 ^ scaleExp * 2 ^ scaleExp)
  | x => x

/-- The nearest integer, halves away from zero (`f64::round`); exact, so no rounding step. In
the namespace of `F64`, so that opening `Binary64` does not shadow `round` of the reals. -/
def F64.round : F64 → F64
  | .finite neg m => .finite neg ((m + 2 ^ (scaleExp - 1)) / 2 ^ scaleExp * 2 ^ scaleExp)
  | x => x

/-- The saturating cast `x as u64`. -/
def toUInt64Sat : F64 → UInt64
  | .nan => 0
  | .inf true => 0
  | .inf false => UInt64.ofNat (2 ^ 64 - 1)
  | .finite true _ => 0
  | .finite false m => UInt64.ofNat (min (m / 2 ^ scaleExp) (2 ^ 64 - 1))

end Binary64
