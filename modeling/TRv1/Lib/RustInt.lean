import Mathlib

/-!
# Rust's checked and saturating integer operations

Rust's `checked_*` operations return `None` where the exact result leaves the type, and the
`saturating_*` operations clamp to the type's range; the plain operators wrap in a release
build, which Lean's `UInt64` and `UInt32` arithmetic already does. This module gives the
`u64` operations on `UInt64`, the `i64` ones on `Int64`, and the `u128` ones on natural numbers
below `2 ^ 128` (Lean has no 128-bit type; every `u128` value of the modelled code comes from a
widened `u64` and checked operations, so it stays in range).

Each operation has a `toNat` (or `toInt`) characterization next to it; the models' proofs use
those and never unfold the operation. The module names nothing of the repository it serves.
-/

set_option autoImplicit false

namespace RustInt

/-- `a.checked_add(b)` on `u64`. -/
def checkedAdd (a b : UInt64) : Option UInt64 :=
  if a.toNat + b.toNat < 2 ^ 64 then some (a + b) else none

/-- `a.checked_sub(b)` on `u64`. -/
def checkedSub (a b : UInt64) : Option UInt64 :=
  if b ≤ a then some (a - b) else none

/-- `a.checked_mul(b)` on `u64`. -/
def checkedMul (a b : UInt64) : Option UInt64 :=
  if a.toNat * b.toNat < 2 ^ 64 then some (a * b) else none

/-- `a.checked_div(b)` on `u64`. -/
def checkedDiv (a b : UInt64) : Option UInt64 :=
  if b = 0 then none else some (a / b)

/-- `u64::MAX`. -/
def u64Max : UInt64 := UInt64.ofNat (2 ^ 64 - 1)

/-- `a.saturating_add(b)` on `u64`. -/
def saturatingAdd (a b : UInt64) : UInt64 :=
  if a.toNat + b.toNat < 2 ^ 64 then a + b else u64Max

/-- `a.saturating_sub(b)` on `u64`. -/
def saturatingSub (a b : UInt64) : UInt64 :=
  if b ≤ a then a - b else 0

/-- `a.saturating_mul(b)` on `u64`. -/
def saturatingMul (a b : UInt64) : UInt64 :=
  if a.toNat * b.toNat < 2 ^ 64 then a * b else u64Max

/-- `a.saturating_add(b)` on `u8`. -/
def saturatingAddU8 (a b : UInt8) : UInt8 :=
  if a.toNat + b.toNat < 2 ^ 8 then a + b else UInt8.ofNat (2 ^ 8 - 1)

/-- `a.saturating_add(b)` on `u32`. -/
def saturatingAddU32 (a b : UInt32) : UInt32 :=
  if a.toNat + b.toNat < 2 ^ 32 then a + b else UInt32.ofNat (2 ^ 32 - 1)

/-- `a.saturating_add(b)` on `u16`. -/
def saturatingAddU16 (a b : UInt16) : UInt16 :=
  if a.toNat + b.toNat < 2 ^ 16 then a + b else UInt16.ofNat (2 ^ 16 - 1)

/-- `a.checked_mul(b)` on `u128`. -/
def checkedMulU128 (a b : Nat) : Option Nat :=
  if a * b < 2 ^ 128 then some (a * b) else none

/-- `a.checked_div(b)` on `u128`. -/
def checkedDivU128 (a b : Nat) : Option Nat :=
  if b = 0 then none else some (a / b)

/-- `a.saturating_mul(b)` on `u128`. -/
def saturatingMulU128 (a b : Nat) : Nat :=
  min (a * b) (2 ^ 128 - 1)

/-- `u64::try_from(a)` for a `u128`. -/
def tryIntoU64 (a : Nat) : Option UInt64 :=
  if a < 2 ^ 64 then some (UInt64.ofNat a) else none

/-- `u16::try_from(a)` for a `u32`. -/
def tryIntoU16 (a : UInt32) : Option UInt16 :=
  if a.toNat < 2 ^ 16 then some a.toUInt16 else none

/-- `a.checked_add(b)` on `i64`. -/
def checkedAddI64 (a b : Int64) : Option Int64 :=
  if -2 ^ 63 ≤ a.toInt + b.toInt ∧ a.toInt + b.toInt < 2 ^ 63 then some (a + b) else none

/-- `a.checked_mul(b)` on `i64`. -/
def checkedMulI64 (a b : Int64) : Option Int64 :=
  if -2 ^ 63 ≤ a.toInt * b.toInt ∧ a.toInt * b.toInt < 2 ^ 63 then some (a * b) else none

theorem checkedAdd_eq_some {a b c : UInt64} :
    checkedAdd a b = some c ↔ a.toNat + b.toNat < 2 ^ 64 ∧ c.toNat = a.toNat + b.toNat := by
  unfold checkedAdd
  split
  · rename_i h
    -- the sum does not wrap
    have hsum : (a + b).toNat = a.toNat + b.toNat := by
      rw [UInt64.toNat_add, Nat.mod_eq_of_lt h]
    constructor
    · rintro ⟨⟩
      exact ⟨h, hsum⟩
    · rintro ⟨-, hc⟩
      congr 1
      apply UInt64.toNat_inj.mp
      rw [hc, hsum]
  · rename_i h
    simp only [reduceCtorEq, false_iff, not_and]
    exact fun h' => absurd h' h

theorem checkedSub_eq_some {a b c : UInt64} :
    checkedSub a b = some c ↔ b.toNat ≤ a.toNat ∧ c.toNat = a.toNat - b.toNat := by
  unfold checkedSub
  split
  · rename_i h
    have h' : b.toNat ≤ a.toNat := UInt64.le_iff_toNat_le.mp h
    constructor
    · rintro ⟨⟩
      exact ⟨h', UInt64.toNat_sub_of_le a b h⟩
    · rintro ⟨-, hc⟩
      congr 1
      apply UInt64.toNat_inj.mp
      rw [hc, UInt64.toNat_sub_of_le a b h]
  · rename_i h
    simp only [reduceCtorEq, false_iff, not_and]
    intro h'
    exact absurd (UInt64.le_iff_toNat_le.mpr h') h

theorem u64Max_toNat : u64Max.toNat = 2 ^ 64 - 1 := rfl

theorem saturatingAdd_toNat (a b : UInt64) :
    (saturatingAdd a b).toNat = min (a.toNat + b.toNat) (2 ^ 64 - 1) := by
  unfold saturatingAdd
  split
  · rename_i h
    rw [UInt64.toNat_add, Nat.mod_eq_of_lt h]
    omega
  · -- clamped to `u64::MAX`
    rename_i h
    rw [u64Max_toNat]
    omega

theorem saturatingAddU16_toNat (a b : UInt16) :
    (saturatingAddU16 a b).toNat = min (a.toNat + b.toNat) (2 ^ 16 - 1) := by
  unfold saturatingAddU16
  split
  · rename_i h
    rw [UInt16.toNat_add, Nat.mod_eq_of_lt h]
    omega
  · -- clamped to `u16::MAX`
    rename_i h
    rw [UInt16.toNat_ofNat']
    omega

theorem saturatingSub_toNat (a b : UInt64) : (saturatingSub a b).toNat = a.toNat - b.toNat := by
  unfold saturatingSub
  split
  · rename_i h
    rw [UInt64.toNat_sub_of_le _ _ h]
  · rename_i h
    rw [UInt64.le_iff_toNat_le] at h
    rw [UInt64.toNat_zero]
    omega

theorem saturatingMul_toNat (a b : UInt64) :
    (saturatingMul a b).toNat = min (a.toNat * b.toNat) (2 ^ 64 - 1) := by
  unfold saturatingMul
  split
  · rename_i h
    rw [UInt64.toNat_mul, Nat.mod_eq_of_lt h]
    omega
  · -- clamped to `u64::MAX`
    rename_i h
    rw [u64Max_toNat]
    omega

/-- Two widened `u64` values multiply in `u128` without saturating. -/
theorem saturatingMulU128_of_lt {a b : Nat} (ha : a < 2 ^ 64) (hb : b < 2 ^ 64) :
    saturatingMulU128 a b = a * b := by
  have : a * b < 2 ^ 128 :=
    calc a * b < 2 ^ 64 * 2 ^ 64 := Nat.mul_lt_mul'' ha hb
      _ = 2 ^ 128 := by rw [← Nat.pow_add]
  rw [saturatingMulU128]
  omega

theorem saturatingAdd_zero (a : UInt64) : saturatingAdd a 0 = a := by
  apply UInt64.toNat_inj.mp
  rw [saturatingAdd_toNat, UInt64.toNat_zero, Nat.add_zero]
  have := a.toNat_lt
  omega

theorem checkedMulU128_eq_some {a b c : Nat} :
    checkedMulU128 a b = some c → a * b < 2 ^ 128 ∧ c = a * b := by
  unfold checkedMulU128
  split
  · rename_i h
    rintro ⟨⟩
    exact ⟨h, rfl⟩
  · rintro ⟨⟩

theorem checkedDivU128_eq_some {a b c : Nat} : checkedDivU128 a b = some c → c = a / b := by
  unfold checkedDivU128
  split
  · rintro ⟨⟩
  · rintro ⟨⟩
    rfl

theorem checkedMulU128_of_lt {a b : Nat} (h : a * b < 2 ^ 128) :
    checkedMulU128 a b = some (a * b) :=
  if_pos h

/-- `try_into().unwrap_or(u64::MAX)` saturates at `u64::MAX`. -/
theorem tryIntoU64_getD_toNat (a : Nat) :
    ((tryIntoU64 a).getD u64Max).toNat = min a (2 ^ 64 - 1) := by
  unfold tryIntoU64
  split
  · rename_i h
    rw [Option.getD_some, UInt64.toNat_ofNat', Nat.mod_eq_of_lt h]
    omega
  · -- too large for `u64`: saturated below it
    rename_i h
    rw [Option.getD_none, u64Max_toNat]
    omega

/-- `try_into().unwrap_or(u64::MAX)` never exceeds the value it converts. -/
theorem tryIntoU16_eq_some {a : UInt32} {b : UInt16} :
    tryIntoU16 a = some b ↔ a.toNat < 2 ^ 16 ∧ b = a.toUInt16 := by
  unfold tryIntoU16
  split
  · rename_i h
    simp only [Option.some.injEq, h, true_and]
    exact eq_comm
  · rename_i h
    simp only [reduceCtorEq, false_iff, not_and]
    exact fun h' => absurd h' h

theorem tryIntoU64_getD_le (a : Nat) : ((tryIntoU64 a).getD u64Max).toNat ≤ a := by
  rw [tryIntoU64_getD_toNat]
  exact Nat.min_le_left _ _

/-- A wrapping `u64` sum that stays below `2 ^ 64` is the sum of the values. -/
theorem foldl_add_toNat_of_lt (a : UInt64) (l : List UInt64)
    (h : a.toNat + (l.map UInt64.toNat).sum < 2 ^ 64) :
    (l.foldl (· + ·) a).toNat = a.toNat + (l.map UInt64.toNat).sum := by
  induction l generalizing a with
  | nil => simp
  | cons x l ih =>
    have hsum : ((x :: l).map UInt64.toNat).sum = x.toNat + (l.map UInt64.toNat).sum := by simp
    have hx : (a + x).toNat = a.toNat + x.toNat := by
      rw [UInt64.toNat_add, Nat.mod_eq_of_lt (by omega)]
    calc ((x :: l).foldl (· + ·) a).toNat = (l.foldl (· + ·) (a + x)).toNat := rfl
      _ = (a + x).toNat + (l.map UInt64.toNat).sum := ih (a + x) (by omega)
      _ = a.toNat + ((x :: l).map UInt64.toNat).sum := by omega

/-! ## `u64::MAX` and the successor -/

theorem lt_u64Max_of_ne {a : UInt64} (h : a ≠ u64Max) : a < u64Max := by
  rw [UInt64.lt_iff_toNat_lt, u64Max_toNat]
  have hne : a.toNat ≠ 2 ^ 64 - 1 := fun h' => h (UInt64.toNat_inj.mp (h'.trans u64Max_toNat.symm))
  have := a.toNat_lt
  omega

theorem toNat_add_one_of_lt {a : UInt64} (h : a < u64Max) : (a + 1).toNat = a.toNat + 1 := by
  rw [UInt64.lt_iff_toNat_lt, u64Max_toNat] at h
  rw [UInt64.toNat_add, UInt64.toNat_one, Nat.mod_eq_of_lt (by omega)]

theorem saturatingAdd_one_of_lt {a : UInt64} (h : a < u64Max) : saturatingAdd a 1 = a + 1 := by
  rw [UInt64.lt_iff_toNat_lt, u64Max_toNat] at h
  unfold saturatingAdd
  rw [if_pos (by rw [UInt64.toNat_one]; omega)]

theorem add_one_le_of_lt {a b : UInt64} (h : a < b) : a + 1 ≤ b := by
  rw [UInt64.lt_iff_toNat_lt] at h
  rw [UInt64.le_iff_toNat_le, UInt64.toNat_add, UInt64.toNat_one]
  have := b.toNat_lt
  rw [Nat.mod_eq_of_lt (by omega)]
  omega

theorem le_add_one_of_lt {a : UInt64} (h : a < u64Max) : a ≤ a + 1 := by
  rw [UInt64.le_iff_toNat_le, toNat_add_one_of_lt h]
  omega

/-- `max` on `u64` (Rust's `Ord::max`), which core defines by a comparison. -/
theorem max_eq (a b : UInt64) : max a b = if a ≤ b then b else a := rfl

theorem le_max_left (a b : UInt64) : a ≤ max a b := by
  rw [max_eq]
  split
  · assumption
  · exact UInt64.le_refl a

theorem le_max_right (a b : UInt64) : b ≤ max a b := by
  rw [max_eq]
  split
  · exact UInt64.le_refl b
  · exact UInt64.le_of_lt (UInt64.not_le.mp ‹_›)

theorem max_cases (a b : UInt64) : max a b = a ∨ max a b = b := by
  rw [max_eq]
  split
  · exact .inr rfl
  · exact .inl rfl

theorem add_one_le_iff {a b : UInt64} (h : a < u64Max) : a + 1 ≤ b ↔ a < b := by
  rw [UInt64.le_iff_toNat_le, UInt64.lt_iff_toNat_lt, toNat_add_one_of_lt h]
  omega

theorem lt_add_one_of_lt {a : UInt64} (h : a < u64Max) : a < a + 1 := by
  rw [UInt64.lt_iff_toNat_lt, toNat_add_one_of_lt h]
  omega

theorem toNat_pos_of_ne_zero {x : UInt64} (h : x ≠ 0) : 0 < x.toNat := by
  rw [Nat.pos_iff_ne_zero]
  exact fun h0 => h (UInt64.toNat_inj.mp (by rw [h0, UInt64.toNat_zero]))

theorem sub_one_toNat {x : UInt64} (hx : 0 < x) : (x - 1).toNat = x.toNat - 1 := by
  rw [UInt64.lt_iff_toNat_lt, UInt64.toNat_zero] at hx
  rw [UInt64.toNat_sub_of_le _ _ (by rw [UInt64.le_iff_toNat_le, UInt64.toNat_one]; omega),
    UInt64.toNat_one]

theorem sub_one_lt {x : UInt64} (hx : 0 < x) : x - 1 < x := by
  rw [UInt64.lt_iff_toNat_lt, sub_one_toNat hx]
  rw [UInt64.lt_iff_toNat_lt, UInt64.toNat_zero] at hx
  omega

/-- Where a value stands against `x - 1` and `x`. -/
theorem lt_sub_one_or_eq_or_lt {x : UInt64} (hx : 0 < x) (y : UInt64) :
    y < x - 1 ∨ y = x - 1 ∨ y = x ∨ x < y := by
  have hsub := sub_one_toNat hx
  rw [UInt64.lt_iff_toNat_lt, UInt64.toNat_zero] at hx
  simp only [UInt64.lt_iff_toNat_lt, ← UInt64.toNat_inj, hsub]
  omega

end RustInt
