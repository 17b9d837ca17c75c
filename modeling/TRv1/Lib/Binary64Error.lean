import Mathlib
import TRv1.Lib.Binary64

/-!
# The rounding error of the binary64 model

The standard model of floating-point arithmetic, proved for `Binary64`: an operation on finite
values whose exact result `q` stays below `2 ^ 1023` in magnitude gives a finite value within
`|q| * unitRoundoff + underflowError` of `q`, where `unitRoundoff = 2 ^ -53` is the relative
error of rounding to nearest and `underflowError = 2 ^ -1075` is half the least subnormal.

Values are the exact rationals of `toRat?`. The proof has one rounding lemma
(`ofRounded_roundScaled`), from the half-unit bound of `roundHalfEven` and the lower bound of
`floorLog2`, which puts the unit of the last place at most `2 ^ -52` of the value in the normal
range; `mul_spec`, `div_spec`, `add_spec`, `sub_spec`, `ofNat_spec` and `ofDecimal_spec` each
instantiate it. `min_spec`, `neg_spec` and `toUInt64Sat_spec` are exact: the lesser value, the
negated value, and the floor of a value in the range of `u64`. `le_roundScaled` is the one
monotonicity fact: rounding to nearest does not fall below a value of 53 bits under the exact one.

The module names nothing of the repository it serves.
-/

set_option autoImplicit false

namespace Binary64

/-- The exact value of a finite binary64 value; NaN and the infinities have none. -/
def toRat? : F64 → Option ℚ
  | .finite neg mag => some ((signedMag neg mag : ℚ) / 2 ^ scaleExp)
  | _ => none

/-- The relative error of one rounding to nearest, `2 ^ -53`. -/
def unitRoundoff : ℚ := 1 / 2 ^ 53

/-- The absolute error of one rounding in the subnormal range, `2 ^ -1075`. -/
def underflowError : ℚ := 1 / (2 * 2 ^ scaleExp)

/-- Exact values below this bound in magnitude round to finite values. -/
def overflowBound : ℚ := 2 ^ 1023

theorem lt_overflowBound {x : ℚ} (h : x ≤ 2 ^ 100) : x < overflowBound := by
  unfold overflowBound
  exact h.trans_lt (pow_lt_pow_right₀ (by norm_num) (by norm_num))

theorem unitRoundoff_pos : 0 < unitRoundoff := by unfold unitRoundoff; positivity

theorem underflowError_pos : 0 < underflowError := by unfold underflowError; positivity

theorem underflowError_le : underflowError ≤ 1 / 2 ^ 100 := by
  unfold underflowError scaleExp
  rw [div_le_div_iff_of_pos_left one_pos (by positivity) (by positivity), ← pow_succ']
  exact pow_le_pow_right₀ (by norm_num) (by norm_num)

theorem toRat?_eq_some {a : F64} {x : ℚ} :
    toRat? a = some x ↔
      ∃ s m, a = .finite s m ∧ x = (signedMag s m : ℚ) / 2 ^ scaleExp := by
  cases a with
  | nan => simp [toRat?]
  | inf _ => simp [toRat?]
  | finite s m =>
    simp only [toRat?, Option.some.injEq, F64.finite.injEq]
    constructor
    · rintro rfl
      exact ⟨s, m, ⟨rfl, rfl⟩, rfl⟩
    · rintro ⟨s, m, ⟨rfl, rfl⟩, rfl⟩
      rfl

@[simp] theorem signedMag_false (m : Nat) : signedMag false m = m := rfl

@[simp] theorem signedMag_true (m : Nat) : signedMag true m = -(m : Int) := rfl

theorem abs_signedMag (s : Bool) (m : Nat) : |(signedMag s m : ℚ)| = m := by
  cases s <;> simp

theorem signedMag_mul (s t : Bool) (m n : Nat) :
    (signedMag s m : ℚ) * signedMag t n = signedMag (s != t) (m * n) := by
  cases s <;> cases t <;> simp

theorem signedMag_zero (s : Bool) : signedMag s 0 = 0 := by cases s <;> rfl

theorem signedMag_not (s : Bool) (m : Nat) : (signedMag (!s) m : ℚ) = -signedMag s m := by
  cases s <;> simp

theorem signedMag_add (s : Bool) (m n : Nat) :
    (signedMag s (m + n) : ℚ) = signedMag s m + signedMag s n := by
  cases s <;> simp only [signedMag_false, signedMag_true] <;> push_cast <;> ring

theorem signedMag_sub (s : Bool) {m n : Nat} (h : n ≤ m) :
    (signedMag s (m - n) : ℚ) = signedMag s m - signedMag s n := by
  cases s <;> simp only [signedMag_false, signedMag_true] <;> push_cast [Nat.cast_sub h] <;> ring

theorem signedMag_mul_right (s : Bool) (m k : Nat) :
    (signedMag s (m * k) : ℚ) = signedMag s m * k := by
  cases s <;> simp only [signedMag_false, signedMag_true] <;> push_cast <;> ring

/-- Opposite signs. -/
theorem eq_not_of_ne {s t : Bool} (h : ¬s = t) : t = !s := by
  cases s <;> cases t <;> first | rfl | exact absurd rfl h

/-! ## One rounding -/

/-- Round half to even is within half a divisor of the quotient. -/
theorem roundHalfEven_half (a : Nat) {b : Nat} (hb : 0 < b) :
    2 * (roundHalfEven a b * b) ≤ 2 * a + b ∧ 2 * a ≤ 2 * (roundHalfEven a b * b) + b := by
  have hdm := Nat.div_add_mod a b
  have hr := Nat.mod_lt a hb
  unfold roundHalfEven
  have hq : (a / b + 1) * b = b * (a / b) + b := by ring
  split_ifs <;> simp only [hq, Nat.mul_comm (a / b) b] <;> omega

/-- `floorLog2` is not above the binary logarithm of `A / D`: the estimate from the bit lengths
is kept when it passes the test, and one below it always does. -/
theorem floorLog2_low {A D : Nat} (hA : 0 < A) :
    D * 2 ^ (floorLog2 A D).toNat ≤ A * 2 ^ (-floorLog2 A D).toNat := by
  unfold floorLog2
  dsimp only
  split
  · assumption
  have hlowA : 2 ^ A.log2 ≤ A := Nat.log2_self_le (by omega)
  have hhighD : D < 2 ^ (D.log2 + 1) := Nat.lt_log2_self
  rcases le_or_gt (D.log2 + 1) A.log2 with h | h
  · -- `l - 1` is not negative: `D * 2 ^ (l - 1) < 2 ^ log₂ A ≤ A`
    rw [show ((A.log2 : Int) - D.log2 - 1).toNat = A.log2 - (D.log2 + 1) by omega,
      show (-((A.log2 : Int) - D.log2 - 1)).toNat = 0 by omega, pow_zero, Nat.mul_one]
    calc D * 2 ^ (A.log2 - (D.log2 + 1))
        ≤ 2 ^ (D.log2 + 1) * 2 ^ (A.log2 - (D.log2 + 1)) :=
          Nat.mul_le_mul_right _ hhighD.le
      _ = 2 ^ A.log2 := by rw [← pow_add, Nat.add_sub_cancel' h]
      _ ≤ A := hlowA
  · -- `l - 1` is negative: `D < 2 ^ (log₂ D + 1) ≤ A * 2 ^ (1 - l)`
    rw [show ((A.log2 : Int) - D.log2 - 1).toNat = 0 by omega,
      show (-((A.log2 : Int) - D.log2 - 1)).toNat = D.log2 + 1 - A.log2 by omega, pow_zero,
      Nat.mul_one]
    calc D ≤ 2 ^ (D.log2 + 1) := hhighD.le
      _ = 2 ^ A.log2 * 2 ^ (D.log2 + 1 - A.log2) := by
          rw [← pow_add, Nat.add_sub_cancel' h.le]
      _ ≤ A * 2 ^ (D.log2 + 1 - A.log2) := Nat.mul_le_mul_right _ hlowA

/-- In the normal range the unit in the last place is at most `2 ^ -52` of the value. -/
theorem ulpExp_le {A D : Nat} (hA : 0 < A) (hp : 0 < ulpExp A D) :
    D * 2 ^ (ulpExp A D + 52) ≤ A := by
  have hlow := floorLog2_low (D := D) hA
  unfold ulpExp precision at hp ⊢
  rw [if_neg (by omega)] at hp ⊢
  rw [show (floorLog2 A D).toNat = (floorLog2 A D - ((53 - 1 : Nat) : Int)).toNat + 52 by omega,
    show (-floorLog2 A D).toNat = 0 by omega, pow_zero, Nat.mul_one] at hlow
  exact hlow

/-- `2 ^ 52` units in the last place are at most the value, or `2 ^ 52` of the least. -/
theorem ulp_le (A D : Nat) : 2 ^ 52 * (D * 2 ^ ulpExp A D) ≤ A + 2 ^ 52 * D := by
  rcases Nat.eq_zero_or_pos (ulpExp A D) with hp | hp
  · rw [hp, pow_zero, Nat.mul_one]
    omega
  · have hA : 0 < A := by
      by_contra h0
      unfold ulpExp at hp
      rw [if_pos (by omega)] at hp
      exact absurd hp (Nat.lt_irrefl 0)
    have hle := ulpExp_le (D := D) hA hp
    rw [pow_add] at hle
    calc 2 ^ 52 * (D * 2 ^ ulpExp A D) = D * (2 ^ ulpExp A D * 2 ^ 52) := by ring
      _ ≤ A := hle
      _ ≤ A + 2 ^ 52 * D := Nat.le_add_right _ _

/-- Rounding half to even is not below the floor of the quotient. -/
theorem div_le_roundHalfEven (a b : Nat) : a / b ≤ roundHalfEven a b := by
  unfold roundHalfEven
  split_ifs <;> omega

/-- Rounding to nearest is not below a value of at most `53` significant bits that the exact
value is not below: where the unit in the last place divides that value, the floor of the
quotient is already at least it; where it does not, the exact value has `2 ^ 52` units. -/
theorem le_roundScaled {A D c e mag : Nat} (hD : 0 < D) (hc : c < 2 ^ 53)
    (h : c * 2 ^ e * D ≤ A) (hround : roundScaled A D = some mag) : c * 2 ^ e ≤ mag := by
  unfold roundScaled at hround
  dsimp only at hround
  split at hround
  · cases hround
    rcases le_or_gt (ulpExp A D) e with hpe | hpe
    · -- `c * 2 ^ e` is a whole number of units
      have hsplit : c * 2 ^ e = c * 2 ^ (e - ulpExp A D) * 2 ^ ulpExp A D := by
        rw [mul_assoc, ← pow_add, Nat.sub_add_cancel hpe]
      have hq : c * 2 ^ (e - ulpExp A D) ≤ A / (D * 2 ^ ulpExp A D) := by
        rw [Nat.le_div_iff_mul_le (by positivity)]
        calc c * 2 ^ (e - ulpExp A D) * (D * 2 ^ ulpExp A D)
            = c * 2 ^ e * D := by rw [hsplit]; ring
          _ ≤ A := h
      rw [hsplit]
      exact Nat.mul_le_mul_right _ (hq.trans (div_le_roundHalfEven _ _))
    · -- past the first binade the value has at least `2 ^ 52` units of `2 ^ (e + 1)`
      rcases Nat.eq_zero_or_pos c with rfl | hc0
      · rw [Nat.zero_mul]
        exact Nat.zero_le _
      have hA : 0 < A := lt_of_lt_of_le (Nat.mul_pos (Nat.mul_pos hc0 (Nat.two_pow_pos e)) hD) h
      have hq : 2 ^ 52 ≤ A / (D * 2 ^ ulpExp A D) := by
        rw [Nat.le_div_iff_mul_le (by positivity)]
        calc 2 ^ 52 * (D * 2 ^ ulpExp A D) = D * 2 ^ (ulpExp A D + 52) := by ring
          _ ≤ A := ulpExp_le hA (by omega)
      calc c * 2 ^ e ≤ 2 ^ 53 * 2 ^ e := Nat.mul_le_mul_right _ hc.le
        _ = 2 ^ 52 * 2 ^ (e + 1) := by ring
        _ ≤ 2 ^ 52 * 2 ^ ulpExp A D := Nat.mul_le_mul_left _ (Nat.pow_le_pow_right (by norm_num) hpe)
        _ ≤ roundHalfEven A (D * 2 ^ ulpExp A D) * 2 ^ ulpExp A D :=
          Nat.mul_le_mul_right _ (hq.trans (div_le_roundHalfEven _ _))
  · cases hround

/-- `roundScaled` of a value below `2 ^ 2097` scaled units does not overflow, and the magnitude
it returns is within `A / 2 ^ 53 + D / 2` of `A / D`, in units of `1 / D`. -/
theorem roundScaled_spec {A D : Nat} (hD : 0 < D) (hA : A < D * 2 ^ 2097) :
    ∃ mag, roundScaled A D = some mag ∧
      2 ^ 53 * (mag * D) ≤ 2 ^ 53 * A + A + 2 ^ 52 * D ∧
      2 ^ 53 * A ≤ 2 ^ 53 * (mag * D) + A + 2 ^ 52 * D := by
  unfold roundScaled
  dsimp only
  have hulp := ulp_le A D
  obtain ⟨hhi, hlo⟩ := roundHalfEven_half A (Nat.mul_pos hD (Nat.two_pow_pos (ulpExp A D)))
  generalize roundHalfEven A (D * 2 ^ ulpExp A D) = R at hhi hlo ⊢
  generalize 2 ^ ulpExp A D = P at hhi hlo hulp ⊢
  -- the rounded magnitude times `D` is the rounded quotient times the divisor `D * P`
  have hmag : R * P * D = R * (D * P) := by ring
  have hR : 2 ^ 53 * (R * (D * P)) ≤ 2 ^ 53 * A + A + 2 ^ 52 * D := by
    have := Nat.mul_le_mul_left (2 ^ 52) hhi
    omega
  have hR' : 2 ^ 53 * A ≤ 2 ^ 53 * (R * (D * P)) + A + 2 ^ 52 * D := by
    have := Nat.mul_le_mul_left (2 ^ 52) hlo
    omega
  rw [if_pos]
  · exact ⟨_, rfl, by rw [hmag]; exact hR, by rw [hmag]; exact hR'⟩
  · -- no overflow: the magnitude is below `2 ^ 2097 + 2 ^ 2045`
    unfold overflowMag scaleExp
    by_contra hov
    have hbig : 2 ^ 2098 * D ≤ R * P * D := Nat.mul_le_mul_right _ (by omega)
    rw [hmag] at hbig
    have := Nat.mul_le_mul_left (2 ^ 53) hbig
    omega

/-- One rounding: the exact value `±A / (D * 2 ^ 1074)` below `2 ^ 1023` in magnitude rounds to
a finite value within `|q| * unitRoundoff + underflowError` of it. -/
theorem ofRounded_roundScaled (neg : Bool) {A D : Nat} (hD : 0 < D) (hA : A < D * 2 ^ 2097) :
    ∃ r, toRat? (ofRounded neg (roundScaled A D)) = some r ∧
      |r - (signedMag neg A : ℚ) / (D * 2 ^ scaleExp)| ≤
        (A : ℚ) / (D * 2 ^ scaleExp) * unitRoundoff + underflowError := by
  obtain ⟨mag, hround, hhi, hlo⟩ := roundScaled_spec hD hA
  refine ⟨_, by rw [hround]; rfl, ?_⟩
  have hDq : (0 : ℚ) < D := by exact_mod_cast hD
  have hc : (0 : ℚ) < 2 ^ scaleExp := by positivity
  have hhiq : (2 : ℚ) ^ 53 * (mag * D) ≤ 2 ^ 53 * A + A + 2 ^ 52 * D := by exact_mod_cast hhi
  have hloq : (2 : ℚ) ^ 53 * A ≤ 2 ^ 53 * (mag * D) + A + 2 ^ 52 * D := by exact_mod_cast hlo
  -- the error, over the common denominator `D * 2 ^ 1074`
  have herr : (signedMag neg mag : ℚ) / 2 ^ scaleExp -
      (signedMag neg A : ℚ) / (D * 2 ^ scaleExp) =
      (signedMag neg mag * D - signedMag neg A : ℚ) / (D * 2 ^ scaleExp) := by
    field_simp
  have hbound : (A : ℚ) / (D * 2 ^ scaleExp) * unitRoundoff + underflowError =
      ((A : ℚ) + 2 ^ 52 * D) / 2 ^ 53 / (D * 2 ^ scaleExp) := by
    unfold unitRoundoff underflowError
    field_simp
  rw [herr, hbound, abs_div, abs_of_pos (by positivity : (0 : ℚ) < D * 2 ^ scaleExp)]
  apply div_le_div_of_nonneg_right _ (by positivity)
  rw [abs_le]
  cases neg <;> simp only [signedMag_false, signedMag_true, Int.cast_neg, Int.cast_natCast] <;>
    constructor <;> linarith

/-! ## The operations -/

section Operations

variable {a b : F64} {x y : ℚ}

/-- A magnitude bound on an exact value, as the bound on its scaled numerator. -/
theorem scaled_lt_of_abs_lt {A D : Nat} (hD : 0 < D)
    (h : (A : ℚ) / (D * 2 ^ scaleExp) < overflowBound) : A < D * 2 ^ 2097 := by
  have hpos : (0 : ℚ) < D * 2 ^ scaleExp := by positivity
  rw [overflowBound, div_lt_iff₀ hpos] at h
  have h' : (A : ℚ) < D * 2 ^ 2097 := by
    unfold scaleExp at h
    calc (A : ℚ) < 2 ^ 1023 * (D * 2 ^ 1074) := h
      _ = D * 2 ^ 2097 := by rw [mul_left_comm, ← pow_add]
  exact_mod_cast h'

/-- One rounding, for an operation whose exact result `q` has the scaled form
`±A / (D * 2 ^ 1074)`: each operation lemma below only proves that form. -/
theorem ofRounded_roundScaled_of_eq {neg : Bool} {A D : Nat} {q : ℚ} (hD : 0 < D)
    (hq : q = (signedMag neg A : ℚ) / (D * 2 ^ scaleExp)) (hbound : |q| < overflowBound) :
    ∃ r, toRat? (ofRounded neg (roundScaled A D)) = some r ∧
      |r - q| ≤ |q| * unitRoundoff + underflowError := by
  have habs : |q| = (A : ℚ) / (D * 2 ^ scaleExp) := by
    rw [hq, abs_div, abs_signedMag, abs_of_pos (by positivity)]
  rw [habs] at hbound ⊢
  rw [hq]
  exact ofRounded_roundScaled neg hD (scaled_lt_of_abs_lt hD hbound)

theorem mul_finite (s t : Bool) (m n : Nat) :
    mul (.finite s m) (.finite t n) = ofRounded (s != t) (roundScaled (m * n) (2 ^ scaleExp)) :=
  rfl

theorem div_finite (s t : Bool) (m : Nat) {n : Nat} (hn : n ≠ 0) :
    div (.finite s m) (.finite t n) =
      ofRounded (s != t) (roundScaled (m * 2 ^ scaleExp) n) := by
  simp only [div, if_neg hn]

theorem add_finite (s t : Bool) (m n : Nat) :
    add (.finite s m) (.finite t n) =
      if s = t then ofRounded s (roundScaled (m + n) 1)
      else if m = n then .finite false 0
      else if n < m then ofRounded s (roundScaled (m - n) 1)
      else ofRounded t (roundScaled (n - m) 1) :=
  rfl

theorem mul_spec (ha : toRat? a = some x) (hb : toRat? b = some y) (hxy : |x * y| < overflowBound) :
    ∃ r, toRat? (mul a b) = some r ∧
      |r - x * y| ≤ |x * y| * unitRoundoff + underflowError := by
  obtain ⟨s, m, rfl, rfl⟩ := toRat?_eq_some.mp ha
  obtain ⟨t, n, rfl, rfl⟩ := toRat?_eq_some.mp hb
  rw [mul_finite]
  -- the exact product is `±(m * n) / (2 ^ 1074 * 2 ^ 1074)`
  refine ofRounded_roundScaled_of_eq (by positivity) ?_ hxy
  rw [← signedMag_mul]
  push_cast
  ring

theorem div_spec (ha : toRat? a = some x) (hb : toRat? b = some y) (hy : y ≠ 0)
    (hxy : |x / y| < overflowBound) :
    ∃ r, toRat? (div a b) = some r ∧
      |r - x / y| ≤ |x / y| * unitRoundoff + underflowError := by
  obtain ⟨s, m, rfl, rfl⟩ := toRat?_eq_some.mp ha
  obtain ⟨t, n, rfl, rfl⟩ := toRat?_eq_some.mp hb
  have hn : n ≠ 0 := by
    rintro rfl
    rw [signedMag_zero, Int.cast_zero, zero_div] at hy
    exact hy rfl
  have hnq : (n : ℚ) ≠ 0 := by exact_mod_cast hn
  rw [div_finite s t m hn]
  -- the exact quotient is `±(m * 2 ^ 1074) / (n * 2 ^ 1074)`
  refine ofRounded_roundScaled_of_eq (Nat.pos_of_ne_zero hn) ?_ hxy
  have hc : (2 : ℚ) ^ scaleExp ≠ 0 := by positivity
  rw [signedMag_mul_right, Nat.cast_pow, Nat.cast_ofNat, mul_div_mul_right _ _ hc,
    div_div_div_cancel_right₀ hc]
  cases t
  · rw [Bool.bne_false, signedMag_false, Int.cast_natCast]
  · rw [Bool.bne_true, signedMag_not, signedMag_true, Int.cast_neg, Int.cast_natCast, div_neg,
      neg_div]

theorem add_spec (ha : toRat? a = some x) (hb : toRat? b = some y) (hxy : |x + y| < overflowBound) :
    ∃ r, toRat? (add a b) = some r ∧
      |r - (x + y)| ≤ |x + y| * unitRoundoff + underflowError := by
  obtain ⟨s, m, rfl, rfl⟩ := toRat?_eq_some.mp ha
  obtain ⟨t, n, rfl, rfl⟩ := toRat?_eq_some.mp hb
  rw [add_finite]
  have hc : (2 : ℚ) ^ scaleExp ≠ 0 := by positivity
  split_ifs with hst hmn hlt
  · -- equal signs: the magnitudes add
    subst hst
    refine ofRounded_roundScaled_of_eq one_pos ?_ hxy
    rw [signedMag_add, Nat.cast_one, one_mul, add_div]
  · -- opposite signs and equal magnitudes: an exact `+0`
    subst hmn
    rw [eq_not_of_ne hst, signedMag_not, neg_div, add_neg_cancel]
    refine ⟨0, by rw [toRat?, signedMag_zero, Int.cast_zero, zero_div], ?_⟩
    rw [sub_zero, abs_zero, zero_mul, zero_add]
    exact underflowError_pos.le
  · -- opposite signs: the larger magnitude keeps its sign
    refine ofRounded_roundScaled_of_eq one_pos ?_ hxy
    rw [eq_not_of_ne hst, signedMag_not, signedMag_sub s hlt.le, Nat.cast_one, one_mul,
      sub_div, neg_div, sub_eq_add_neg]
  · refine ofRounded_roundScaled_of_eq one_pos ?_ hxy
    rw [eq_not_of_ne (Ne.symm hst), signedMag_not, signedMag_sub t (by omega), Nat.cast_one,
      one_mul, sub_div, neg_div, sub_eq_add_neg, add_comm]

theorem neg_spec (ha : toRat? a = some x) : toRat? (neg a) = some (-x) := by
  obtain ⟨s, m, rfl, rfl⟩ := toRat?_eq_some.mp ha
  cases s <;> simp [neg, toRat?, neg_div]

theorem sub_spec (ha : toRat? a = some x) (hb : toRat? b = some y) (hxy : |x - y| < overflowBound) :
    ∃ r, toRat? (sub a b) = some r ∧
      |r - (x - y)| ≤ |x - y| * unitRoundoff + underflowError := by
  rw [sub_eq_add_neg] at hxy ⊢
  exact add_spec ha (neg_spec hb) hxy

theorem ofNat_spec {n : Nat} (hn : (n : ℚ) < overflowBound) :
    ∃ r, toRat? (ofNat n) = some r ∧ |r - n| ≤ n * unitRoundoff + underflowError := by
  -- the integer is `n * 2 ^ 1074 / (1 * 2 ^ 1074)`
  have hq : (n : ℚ) =
      (signedMag false (n * 2 ^ scaleExp) : ℚ) / (((1 : Nat) : ℚ) * 2 ^ scaleExp) := by
    rw [signedMag_mul_right, signedMag_false]
    push_cast
    field_simp
  obtain ⟨r, hr, herr⟩ := ofRounded_roundScaled_of_eq one_pos hq
    (by rw [Nat.abs_cast]; exact hn)
  rw [Nat.abs_cast] at herr
  exact ⟨r, hr, herr⟩

theorem ofDecimal_spec {m k : Nat} (hmk : (m : ℚ) / 10 ^ k < overflowBound) :
    ∃ r, toRat? (ofDecimal m k) = some r ∧
      |r - m / 10 ^ k| ≤ m / 10 ^ k * unitRoundoff + underflowError := by
  have hpos : (0 : ℚ) ≤ m / 10 ^ k :=
    div_nonneg (Nat.cast_nonneg m) (pow_nonneg (by norm_num) k)
  -- the decimal is `m * 2 ^ 1074 / (10 ^ k * 2 ^ 1074)`
  have hq : (m : ℚ) / 10 ^ k =
      (signedMag false (m * 2 ^ scaleExp) : ℚ) / (((10 ^ k : Nat) : ℚ) * 2 ^ scaleExp) := by
    rw [signedMag_mul_right, signedMag_false]
    push_cast
    field_simp
  obtain ⟨r, hr, herr⟩ := ofRounded_roundScaled_of_eq (Nat.pos_of_ne_zero (by positivity)) hq
    (by rw [abs_of_nonneg hpos]; exact hmk)
  rw [abs_of_nonneg hpos] at herr
  exact ⟨r, hr, herr⟩

theorem le_finite (s t : Bool) (m n : Nat) :
    le (.finite s m) (.finite t n) = decide (signedMag s m ≤ signedMag t n) := by
  cases s <;> cases t <;> rfl

/-- The comparison of two finite values is that of their exact values. -/
theorem le_spec (ha : toRat? a = some x) (hb : toRat? b = some y) : le a b = true ↔ x ≤ y := by
  obtain ⟨s, m, rfl, rfl⟩ := toRat?_eq_some.mp ha
  obtain ⟨t, n, rfl, rfl⟩ := toRat?_eq_some.mp hb
  rw [le_finite, decide_eq_true_iff, div_le_div_iff_of_pos_right (by positivity), Int.cast_le]

/-- `m as f64 / n as f64` for integers below `2 ^ 64` is within `2 ^ -50` of `m / n`,
relatively, and `2 ^ -90` absolutely. The two conversions are bounded over the common
denominator `n as f64`, at least `n / 2`; the division adds one rounding. -/
theorem div_ofNat_near {m n : Nat} (hm : m < 2 ^ 64) (hn : 0 < n) (hn' : n < 2 ^ 64) :
    ∃ Q, toRat? (div (ofNat m) (ofNat n)) = some Q ∧
      |Q - (m : ℚ) / n| ≤ (m : ℚ) / n / 2 ^ 50 + 1 / 2 ^ 90 := by
  have hη := underflowError_le
  have hη0 := underflowError_pos.le
  have h64 : (2 : ℚ) ^ 64 ≤ 2 ^ 100 := by norm_num
  have hmq : (m : ℚ) < 2 ^ 64 := by exact_mod_cast hm
  have hnq : (1 : ℚ) ≤ n := by exact_mod_cast hn
  have hnq' : (n : ℚ) < 2 ^ 64 := by exact_mod_cast hn'
  obtain ⟨E, hE, hEerr⟩ := ofNat_spec (n := m) (lt_overflowBound (by linarith))
  obtain ⟨F, hF, hFerr⟩ := ofNat_spec (n := n) (lt_overflowBound (by linarith))
  unfold unitRoundoff at hEerr hFerr
  set X : ℚ := (m : ℚ) / n with hX
  have hX0 : 0 ≤ X := by positivity
  have hXn : X * n = m := by rw [hX]; field_simp
  have hXη : X * underflowError ≤ X * (1 / 2 ^ 100) := mul_le_mul_of_nonneg_left hη hX0
  have hFlo : (n : ℚ) / 2 ≤ F := by linarith [(abs_le.mp hFerr).1]
  -- the converted numerator against `X` times the converted denominator
  have hnum : |E - X * F| ≤ 2 * (m * (1 / 2 ^ 53)) + (1 + X) * underflowError := by
    have hsplit : E - X * F = (E - m) - X * (F - n) := by rw [← hXn]; ring
    have hXF : |X * (F - n)| ≤ X * (n * (1 / 2 ^ 53) + underflowError) := by
      rw [abs_mul, abs_of_nonneg hX0]
      exact mul_le_mul_of_nonneg_left hFerr hX0
    have hXF' : X * (n * (1 / 2 ^ 53) + underflowError) =
        m * (1 / 2 ^ 53) + X * underflowError := by rw [← hXn]; ring
    rw [hsplit]
    calc |(E - m) - X * (F - n)| ≤ |E - m| + |X * (F - n)| := abs_sub _ _
      _ ≤ 2 * (m * (1 / 2 ^ 53)) + (1 + X) * underflowError := by linarith
  -- dividing by `F ≥ n / 2 ≥ 1 / 2`
  have hFpos : 0 < F := by linarith
  have hquot : |E / F - X| ≤ 4 * X * (1 / 2 ^ 53) + 2 * (1 + X) * underflowError := by
    rw [show E / F - X = (E - X * F) / F by field_simp, abs_div, abs_of_pos hFpos,
      div_le_iff₀ hFpos]
    have h₁ : 0 ≤ (4 * X * (1 / 2 ^ 53) + 2 * (1 + X) * underflowError) * (F - n / 2) :=
      mul_nonneg (by positivity) (by linarith)
    have h₂ : 0 ≤ (1 + X) * underflowError * (n - 1) :=
      mul_nonneg (mul_nonneg (by linarith) hη0) (by linarith)
    nlinarith
  have hEFX : |E / F| ≤ X + (4 * X * (1 / 2 ^ 53) + 2 * (1 + X) * underflowError) := by
    calc |E / F| = |(E / F - X) + X| := by ring_nf
      _ ≤ |E / F - X| + |X| := abs_add_le _ _
      _ ≤ _ := by rw [abs_of_nonneg hX0]; linarith
  have hX64 : X ≤ 2 ^ 64 := by
    rw [hX, div_le_iff₀ (by linarith)]
    nlinarith
  obtain ⟨Q, hQ, hQerr⟩ :=
    div_spec hE hF hFpos.ne' (lt_overflowBound (hEFX.trans (by linarith)))
  refine ⟨Q, hQ, ?_⟩
  unfold unitRoundoff at hQerr
  have hEFu : |E / F| * (1 / 2 ^ 53) ≤
      (X + (4 * X * (1 / 2 ^ 53) + 2 * (1 + X) * underflowError)) * (1 / 2 ^ 53) :=
    mul_le_mul_of_nonneg_right hEFX (by positivity)
  calc |Q - X| = |(Q - E / F) + (E / F - X)| := by ring_nf
    _ ≤ |Q - E / F| + |E / F - X| := abs_add_le _ _
    _ ≤ X / 2 ^ 50 + 1 / 2 ^ 90 := by nlinarith

/-- `f64::min` of two finite values is the lesser exact value. -/
theorem min_spec (ha : toRat? a = some x) (hb : toRat? b = some y) :
    toRat? (F64.min a b) = some (min x y) := by
  obtain ⟨s, m, rfl, -⟩ := toRat?_eq_some.mp ha
  obtain ⟨t, n, rfl, -⟩ := toRat?_eq_some.mp hb
  show toRat? (if le (.finite s m) (.finite t n) then _ else _) = _
  -- `le` compares the exact values
  by_cases h : x ≤ y
  · rw [if_pos ((le_spec ha hb).mpr h), min_eq_left h]
    exact ha
  · rw [if_neg (mt (le_spec ha hb).mp h), min_eq_right (not_le.mp h).le]
    exact hb

/-- The saturating cast of a value below `2 ^ 64` is its floor, `0` for a negative value. -/
theorem toUInt64Sat_spec (ha : toRat? a = some x) (h64 : x < 2 ^ 64) :
    (toUInt64Sat a).toNat = ⌊x⌋₊ := by
  obtain ⟨s, m, rfl, rfl⟩ := toRat?_eq_some.mp ha
  cases s with
  | true =>
    -- a negative sign leaves only `-0`, whose floor is `0`
    have hx : (signedMag true m : ℚ) / 2 ^ scaleExp ≤ 0 := by
      simp only [signedMag_true, Int.cast_neg, Int.cast_natCast, neg_div]
      exact neg_nonpos.mpr (by positivity)
    rw [Nat.floor_of_nonpos hx]
    rfl
  | false =>
    simp only [signedMag_false, Int.cast_natCast] at h64 ⊢
    have hfloor : ⌊(m : ℚ) / 2 ^ scaleExp⌋₊ = m / 2 ^ scaleExp := by
      exact_mod_cast Nat.floor_div_eq_div (K := ℚ) m (2 ^ scaleExp)
    have hlt : m / 2 ^ scaleExp < 2 ^ 64 := by
      rw [← hfloor]
      exact (Nat.floor_lt (by positivity)).mpr (by exact_mod_cast h64)
    rw [hfloor]
    show (UInt64.ofNat (min (m / 2 ^ scaleExp) (2 ^ 64 - 1))).toNat = _
    rw [min_eq_left (by omega), UInt64.toNat_ofNat_of_lt' hlt]

end Operations

end Binary64
