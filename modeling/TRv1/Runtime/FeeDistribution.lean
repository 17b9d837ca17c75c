import Mathlib
import TRv1.Lib.Binary64Error
import TRv1.Lib.RustInt
import TRv1.Runtime.Bank

/-!
# The four-way split of a block's fees

`fee_distribution_for_epoch` (`trv1_constants.rs`) moves the split of transaction fees between
burn, the validator, the treasury and dApp developers linearly from the launch percentages
`10 / 0 / 45 / 45` to the mature ones `25 / 25 / 25 / 25` over `FEE_TRANSITION_EPOCHS` epochs, in
`f64`. `calculate_reward_and_burn_fee_details` (`bank/fee_distribution.rs`) takes each share of
the block's total fee as `(total_fee as f64 * pct) as u64` and burns what the four truncated
shares leave; `distribute_transaction_fee_details` deposits the validator's share with the
leader, burns it when the deposit fails, burns the treasury and developer shares as well (they
have no recipient yet), and lowers the capitalization by everything burned.

The `f64` arithmetic is `Binary64`, and its rounding error is bounded by `Binary64Error`. The
bank is the part of it the distribution reads and writes (`FeeBank`); its rent is the `Rent` of
`Bank`, whose `is_exempt` is taken as given.

## What this module delivers

- `feeDistributionForEpoch_near`: for every epoch the four shares are finite, each within
  `2 ^ -47` of its exact linear interpolation at the exact progress `min(epoch / 1825, 1)`.
- `feeDistributionForEpoch_of_mature`: from epoch `1825` on, the shares are exactly the mature
  constants; the rounding of the progress never falls below `1.0` (`le_roundScaled`).
- `calculateRewardAndBurnFeeDetails_conserves`: below `2 ^ 40` lamports of fees, and with a
  signature fee collected, the four parts add up to exactly the total fee. The example after it
  shows that the bound is needed: `2 ^ 63` lamports are split into `2 ^ 63 + 256`.
- `distributeTransactionFeeDetails_capitalization`: distributing the fees keeps the
  capitalization equal to the lamports it counts. With no signature fee collected nothing is
  burned or credited at all (`distributeTransactionFeeDetails_of_transactionFee_zero`).
-/

set_option autoImplicit false

namespace TRv1.Runtime.Fees

open Binary64 RustInt

/-! ## The schedule (`trv1_constants.rs`) -/

/-- `FEE_TRANSITION_EPOCHS`. -/
def feeTransitionEpochs : UInt64 := 1825

/-- `LAUNCH_BURN_PCT`: `0.10`. -/
def launchBurnPct : F64 := ofDecimal 10 2

/-- `LAUNCH_VALIDATOR_PCT`: `0.00`. -/
def launchValidatorPct : F64 := ofDecimal 0 2

/-- `LAUNCH_TREASURY_PCT`: `0.45`. -/
def launchTreasuryPct : F64 := ofDecimal 45 2

/-- `LAUNCH_DEV_PCT`: `0.45`. -/
def launchDevPct : F64 := ofDecimal 45 2

/-- `MATURE_BURN_PCT`: `0.25`. -/
def matureBurnPct : F64 := ofDecimal 25 2

/-- `MATURE_VALIDATOR_PCT`: `0.25`. -/
def matureValidatorPct : F64 := ofDecimal 25 2

/-- `MATURE_TREASURY_PCT`: `0.25`. -/
def matureTreasuryPct : F64 := ofDecimal 25 2

/-- `MATURE_DEV_PCT`: `0.25`. -/
def matureDevPct : F64 := ofDecimal 25 2

/-- The literal `1.0`. -/
def one : F64 := ofDecimal 10 1

/-- The `progress` of `fee_distribution_for_epoch`:
`(current_epoch as f64 / FEE_TRANSITION_EPOCHS as f64).min(1.0)`. -/
def feeProgress (currentEpoch : UInt64) : F64 :=
  if feeTransitionEpochs = 0 then one
  else F64.min (div (ofNat currentEpoch.toNat) (ofNat feeTransitionEpochs.toNat)) one

/-- One share of `fee_distribution_for_epoch`: `launch + (progress * (mature - launch))`. -/
def interpolatePct (launch mature progress : F64) : F64 :=
  add launch (mul progress (sub mature launch))

/-- `fee_distribution_for_epoch`: `(burn_pct, validator_pct, treasury_pct, dev_pct)`. -/
def feeDistributionForEpoch (currentEpoch : UInt64) : F64 × F64 × F64 × F64 :=
  let progress := feeProgress currentEpoch
  (interpolatePct launchBurnPct matureBurnPct progress,
    interpolatePct launchValidatorPct matureValidatorPct progress,
    interpolatePct launchTreasuryPct matureTreasuryPct progress,
    interpolatePct launchDevPct matureDevPct progress)

theorem one_eq : one = .finite false (2 ^ scaleExp) := by decide +kernel

theorem toRat?_one : toRat? one = some 1 := by
  rw [one_eq, toRat?, signedMag_false, Int.cast_natCast, Nat.cast_pow, Nat.cast_ofNat,
    div_self (by positivity)]

/-! ## The progress -/

/-- The exact progress through the transition: `min(epoch / FEE_TRANSITION_EPOCHS, 1)`. -/
def exactProgress (currentEpoch : UInt64) : ℚ := min ((currentEpoch.toNat : ℚ) / 1825) 1

theorem unitRoundoff_eq : unitRoundoff = 1 / 2 ^ 53 := rfl

/-- `current_epoch as f64 / FEE_TRANSITION_EPOCHS as f64` is within `2 ^ -50` of the exact
quotient, relatively, and `2 ^ -90` absolutely. -/
theorem div_epoch_near (e : UInt64) :
    ∃ Q, toRat? (div (ofNat e.toNat) (ofNat feeTransitionEpochs.toNat)) = some Q ∧
      |Q - (e.toNat : ℚ) / 1825| ≤ (e.toNat : ℚ) / 1825 / 2 ^ 50 + 1 / 2 ^ 90 := by
  have h1825 : feeTransitionEpochs.toNat = 1825 := rfl
  rw [h1825]
  exact_mod_cast div_ofNat_near e.toNat_lt (by norm_num) (by norm_num)

/-- The progress is finite, at most `1` in magnitude, and within `2 ^ -48` of the exact
progress. Up to a quotient of `2` the rounding error of the quotient is that small; past it both
sides are `1`. -/
theorem feeProgress_near (e : UInt64) :
    ∃ p, toRat? (feeProgress e) = some p ∧ |p| ≤ 1 ∧ |p - exactProgress e| ≤ 1 / 2 ^ 48 := by
  obtain ⟨Q, hQ, hQerr⟩ := div_epoch_near e
  unfold feeProgress exactProgress
  rw [if_neg (by decide)]
  refine ⟨min Q 1, min_spec hQ toRat?_one, ?_, ?_⟩
  all_goals
    have hX0 : (0 : ℚ) ≤ (e.toNat : ℚ) / 1825 := by positivity
    obtain ⟨hlo, hhi⟩ := abs_le.mp hQerr
  · rw [abs_le]
    exact ⟨le_min (by linarith) (by norm_num), min_le_right _ _⟩
  · by_cases hX2 : (e.toNat : ℚ) / 1825 ≤ 2
    · calc |min Q 1 - min ((e.toNat : ℚ) / 1825) 1| ≤ |Q - (e.toNat : ℚ) / 1825| := by
            simpa using abs_min_sub_min_le_max Q 1 ((e.toNat : ℚ) / 1825) 1
        _ ≤ 1 / 2 ^ 48 := by rw [abs_le]; constructor <;> linarith
    · -- past a quotient of `2` the rounded quotient is above `1` as well
      have hQ1 : 1 ≤ Q := by linarith
      rw [min_eq_right hQ1, min_eq_right (by linarith), sub_self, abs_zero]
      positivity

/-- One share of the schedule: from constants within `2 ^ -52` of `L, M ∈ [0, 1]`, at a
progress `p` with `|p| ≤ 1`, `launch + progress * (mature - launch)` is within `2 ^ -48` of
`L + p * (M - L)`. Three roundings, each of a value below `3`. -/
theorem interpolatePct_near {launch mature progress : F64} {l m p L M : ℚ}
    (hl : toRat? launch = some l) (hm : toRat? mature = some m) (hp : toRat? progress = some p)
    (hlL : |l - L| ≤ 1 / 2 ^ 52) (hmM : |m - M| ≤ 1 / 2 ^ 52)
    (hL : 0 ≤ L ∧ L ≤ 1) (hM : 0 ≤ M ∧ M ≤ 1) (hp1 : |p| ≤ 1) :
    ∃ s, toRat? (interpolatePct launch mature progress) = some s ∧
      |s - (L + p * (M - L))| ≤ 1 / 2 ^ 48 := by
  have hη := underflowError_le
  have hη0 := underflowError_pos.le
  obtain ⟨hlL1, hlL2⟩ := abs_le.mp hlL
  obtain ⟨hmM1, hmM2⟩ := abs_le.mp hmM
  -- `mature - launch`
  have hml : |m - l| ≤ 2 := by rw [abs_le]; constructor <;> linarith
  obtain ⟨d, hd, hderr⟩ := sub_spec hm hl (lt_overflowBound (by linarith))
  rw [unitRoundoff_eq] at hderr
  have hdML : |d - (M - L)| ≤ 4 / 2 ^ 52 := by
    obtain ⟨h1, h2⟩ := abs_le.mp hderr
    rw [abs_le]; constructor <;> linarith
  have hdabs : |d| ≤ 2 := by
    obtain ⟨h1, h2⟩ := abs_le.mp hdML
    rw [abs_le]; constructor <;> linarith
  -- `progress * (mature - launch)`
  have hpd : |p * d| ≤ 2 := by
    rw [abs_mul]
    calc |p| * |d| ≤ 1 * 2 := mul_le_mul hp1 hdabs (abs_nonneg _) zero_le_one
      _ = 2 := one_mul 2
  obtain ⟨q, hq, hqerr⟩ := mul_spec hp hd (lt_overflowBound (by linarith))
  rw [unitRoundoff_eq] at hqerr
  have hpdML : |p * d - p * (M - L)| ≤ 4 / 2 ^ 52 := by
    rw [← mul_sub, abs_mul]
    exact (mul_le_of_le_one_left (abs_nonneg _) hp1).trans hdML
  have hqML : |q - p * (M - L)| ≤ 7 / 2 ^ 52 := by
    obtain ⟨h1, h2⟩ := abs_le.mp hqerr
    obtain ⟨h3, h4⟩ := abs_le.mp hpdML
    rw [abs_le]; constructor <;> linarith
  -- `launch + progress * (mature - launch)`
  have hpML : |p * (M - L)| ≤ 1 := by
    rw [abs_mul]
    calc |p| * |M - L| ≤ 1 * 1 := by
          refine mul_le_mul hp1 ?_ (abs_nonneg _) zero_le_one
          rw [abs_le]; constructor <;> linarith
      _ = 1 := one_mul 1
  have hlq : |l + q| ≤ 3 := by
    obtain ⟨h1, h2⟩ := abs_le.mp hqML
    obtain ⟨h3, h4⟩ := abs_le.mp hpML
    rw [abs_le]; constructor <;> linarith
  obtain ⟨s, hs, hserr⟩ := add_spec hl hq (lt_overflowBound (by linarith))
  rw [unitRoundoff_eq] at hserr
  refine ⟨s, hs, ?_⟩
  obtain ⟨h1, h2⟩ := abs_le.mp hserr
  obtain ⟨h3, h4⟩ := abs_le.mp hqML
  rw [abs_le]; constructor <;> linarith

/-! ## The schedule against its exact values -/

/-- The share of a split at an epoch in exact arithmetic: the launch percentage moved toward the
mature one by the exact progress. -/
def exactShare (launch mature : ℚ) (currentEpoch : UInt64) : ℚ :=
  launch + exactProgress currentEpoch * (mature - launch)

/-- A computed share is finite and within `2 ^ -47` of the exact share `q`. -/
def ShareNear (share : F64) (q : ℚ) : Prop :=
  ∃ r, toRat? share = some r ∧ |r - q| ≤ 1 / 2 ^ 47

theorem exactProgress_mem (e : UInt64) : 0 ≤ exactProgress e ∧ exactProgress e ≤ 1 :=
  ⟨le_min (by positivity) zero_le_one, min_le_right _ _⟩

/-- An exact share lies between its launch and its mature percentage. -/
theorem exactShare_mem {L M : ℚ} (hL : 0 ≤ L ∧ L ≤ 1) (hM : 0 ≤ M ∧ M ≤ 1) (e : UInt64) :
    0 ≤ exactShare L M e ∧ exactShare L M e ≤ 1 := by
  obtain ⟨hp0, hp1⟩ := exactProgress_mem e
  have hpM := mul_nonneg hp0 hM.1
  have hpL := mul_nonneg (sub_nonneg.mpr hp1) hL.1
  have hpM' := mul_nonneg hp0 (sub_nonneg.mpr hM.2)
  have hpL' := mul_nonneg (sub_nonneg.mpr hp1) (sub_nonneg.mpr hL.2)
  unfold exactShare
  constructor <;> nlinarith

/-- The four exact shares add up to `1` at every epoch. -/
theorem exactShare_sum (e : UInt64) :
    exactShare (1 / 10) (1 / 4) e + exactShare 0 (1 / 4) e + exactShare (9 / 20) (1 / 4) e +
      exactShare (9 / 20) (1 / 4) e = 1 := by
  unfold exactShare
  ring

/-- A percentage literal `m / 100` with `m ≤ 100` is within `2 ^ -52` of its value. -/
theorem ofDecimal_pct {m : Nat} (hm : m ≤ 100) :
    ∃ x, toRat? (ofDecimal m 2) = some x ∧ |x - (m : ℚ) / 100| ≤ 1 / 2 ^ 52 := by
  have hm1 : (m : ℚ) / 100 ≤ 1 := by
    rw [div_le_one (by norm_num)]
    exact_mod_cast hm
  have h100 : ((10 : ℚ) ^ 2) = 100 := by norm_num
  obtain ⟨x, hx, herr⟩ := ofDecimal_spec (m := m) (k := 2)
    (lt_overflowBound (by rw [h100]; linarith))
  refine ⟨x, hx, ?_⟩
  rw [h100, unitRoundoff_eq] at herr
  have hη := underflowError_le
  calc |x - m / 100| ≤ m / 100 * (1 / 2 ^ 53) + underflowError := herr
    _ ≤ 1 / 2 ^ 52 := by linarith

/-- One share of the schedule against its exact value: the rounding of the interpolation and the
error of the progress, scaled by `|M - L| ≤ 1`, stay within `2 ^ -47` together. -/
theorem interpolatePct_shareNear (lm mm : Nat) (L M : ℚ) (hlm : lm ≤ 100) (hmm : mm ≤ 100)
    (hL : (lm : ℚ) / 100 = L) (hM : (mm : ℚ) / 100 = M) (e : UInt64) :
    ShareNear (interpolatePct (ofDecimal lm 2) (ofDecimal mm 2) (feeProgress e))
      (exactShare L M e) := by
  have hunit : ∀ {n : Nat}, n ≤ 100 → 0 ≤ (n : ℚ) / 100 ∧ (n : ℚ) / 100 ≤ 1 := fun hn =>
    ⟨by positivity, by rw [div_le_one (by norm_num)]; exact_mod_cast hn⟩
  obtain ⟨l, hl, hlL⟩ := ofDecimal_pct hlm
  obtain ⟨m, hm, hmM⟩ := ofDecimal_pct hmm
  obtain ⟨p, hp, hp1, hpP⟩ := feeProgress_near e
  rw [hL] at hlL
  rw [hM] at hmM
  have hL01 := hL ▸ hunit hlm
  have hM01 := hM ▸ hunit hmm
  obtain ⟨s, hs, hserr⟩ := interpolatePct_near hl hm hp hlL hmM hL01 hM01 hp1
  refine ⟨s, hs, ?_⟩
  have hprog : |p * (M - L) - exactProgress e * (M - L)| ≤ 1 / 2 ^ 48 := by
    have hML : |M - L| ≤ 1 := abs_sub_le_iff.mpr ⟨by linarith, by linarith⟩
    rw [← sub_mul, abs_mul]
    calc |p - exactProgress e| * |M - L| ≤ 1 / 2 ^ 48 * 1 :=
          mul_le_mul hpP hML (abs_nonneg _) (by positivity)
      _ = 1 / 2 ^ 48 := mul_one _
  unfold exactShare
  have hsplit : s - (L + exactProgress e * (M - L)) =
      (s - (L + p * (M - L))) + (p * (M - L) - exactProgress e * (M - L)) := by ring
  calc |s - (L + exactProgress e * (M - L))|
      = |(s - (L + p * (M - L))) + (p * (M - L) - exactProgress e * (M - L))| := by rw [hsplit]
    _ ≤ |s - (L + p * (M - L))| + |p * (M - L) - exactProgress e * (M - L)| := abs_add_le _ _
    _ ≤ 1 / 2 ^ 47 := by linarith

/-- At every epoch the four percentages are finite, each within `2 ^ -47` of its exact linear
interpolation at the exact progress `min(epoch / 1825, 1)`. -/
theorem feeDistributionForEpoch_near (currentEpoch : UInt64) :
    ShareNear (feeDistributionForEpoch currentEpoch).1 (exactShare (1 / 10) (1 / 4) currentEpoch) ∧
      ShareNear (feeDistributionForEpoch currentEpoch).2.1
        (exactShare 0 (1 / 4) currentEpoch) ∧
      ShareNear (feeDistributionForEpoch currentEpoch).2.2.1
        (exactShare (9 / 20) (1 / 4) currentEpoch) ∧
      ShareNear (feeDistributionForEpoch currentEpoch).2.2.2
        (exactShare (9 / 20) (1 / 4) currentEpoch) := by
  have hsplit : feeDistributionForEpoch currentEpoch =
      (interpolatePct launchBurnPct matureBurnPct (feeProgress currentEpoch),
        interpolatePct launchValidatorPct matureValidatorPct (feeProgress currentEpoch),
        interpolatePct launchTreasuryPct matureTreasuryPct (feeProgress currentEpoch),
        interpolatePct launchDevPct matureDevPct (feeProgress currentEpoch)) := rfl
  rw [hsplit, launchBurnPct, launchValidatorPct, launchTreasuryPct, launchDevPct, matureBurnPct,
    matureValidatorPct, matureTreasuryPct, matureDevPct]
  dsimp only
  refine ⟨?_, ?_, ?_, ?_⟩
  · exact interpolatePct_shareNear 10 25 (1 / 10) (1 / 4) (by norm_num) (by norm_num)
      (by norm_num) (by norm_num) currentEpoch
  · exact interpolatePct_shareNear 0 25 0 (1 / 4) (by norm_num) (by norm_num) (by norm_num)
      (by norm_num) currentEpoch
  · exact interpolatePct_shareNear 45 25 (9 / 20) (1 / 4) (by norm_num) (by norm_num) (by norm_num)
      (by norm_num) currentEpoch
  · exact interpolatePct_shareNear 45 25 (9 / 20) (1 / 4) (by norm_num) (by norm_num) (by norm_num)
      (by norm_num) currentEpoch

/-! ## The mature schedule -/

/-- The four interpolations at a progress of exactly `1.0` give the mature constants: each
`launch + 1.0 * (mature - launch)` is computed without rounding error. -/
theorem interpolatePct_one :
    (interpolatePct launchBurnPct matureBurnPct one,
      interpolatePct launchValidatorPct matureValidatorPct one,
      interpolatePct launchTreasuryPct matureTreasuryPct one,
      interpolatePct launchDevPct matureDevPct one) =
    (matureBurnPct, matureValidatorPct, matureTreasuryPct, matureDevPct) := by
  decide +kernel

/-- An epoch from `FEE_TRANSITION_EPOCHS` on converts to a finite `f64` not below `1825`. -/
theorem ofNat_of_mature {currentEpoch : UInt64} (h : feeTransitionEpochs ≤ currentEpoch) :
    ∃ E, ofNat currentEpoch.toNat = .finite false E ∧ 1825 * 2 ^ scaleExp ≤ E := by
  have he : 1825 ≤ currentEpoch.toNat := UInt64.le_iff_toNat_le.mp h
  have hsmall : (currentEpoch.toNat : ℚ) ≤ 2 ^ 100 := by
    have h64 : (currentEpoch.toNat : ℚ) < 2 ^ 64 := by exact_mod_cast currentEpoch.toNat_lt
    linarith [show (2 : ℚ) ^ 64 ≤ 2 ^ 100 by norm_num]
  obtain ⟨r, hr, -⟩ := ofNat_spec (lt_overflowBound hsmall)
  cases hE : roundScaled (currentEpoch.toNat * 2 ^ scaleExp) 1 with
  | none =>
    rw [ofNat, hE] at hr
    cases hr
  | some E =>
    refine ⟨E, by rw [ofNat, hE]; rfl, le_roundScaled one_pos (by norm_num) ?_ hE⟩
    rw [Nat.mul_one]
    exact Nat.mul_le_mul_right _ he

/-- A quotient of at least `1` has `1.0` as its minimum with `1.0`: it rounds to infinity, or
to a magnitude not below `1.0`. -/
theorem min_div_one_of_le {E : Nat} (hE : 1825 * 2 ^ scaleExp ≤ E) :
    F64.min (div (.finite false E) (.finite false (1825 * 2 ^ scaleExp))) one = one := by
  have hden : 1825 * 2 ^ scaleExp ≠ 0 := Nat.mul_ne_zero (by norm_num) (Nat.two_pow_pos _).ne'
  rw [div_finite false false E hden, bne_self_eq_false, one_eq]
  cases hQ : roundScaled (E * 2 ^ scaleExp) (1825 * 2 ^ scaleExp) with
  | none => rfl
  | some Q =>
    have hnum : 1 * 2 ^ scaleExp * (1825 * 2 ^ scaleExp) ≤ E * 2 ^ scaleExp := by
      rw [Nat.one_mul, Nat.mul_comm (2 ^ scaleExp)]
      exact Nat.mul_le_mul_right _ hE
    have hQge : 1 * 2 ^ scaleExp ≤ Q :=
      le_roundScaled (Nat.pos_of_ne_zero hden) (by norm_num) hnum hQ
    show (if le (.finite false Q) (.finite false (2 ^ scaleExp)) then _ else _) = _
    rw [le_finite, signedMag_false, signedMag_false]
    split_ifs with hle
    · have hQle : Q ≤ 2 ^ scaleExp := Int.ofNat_le.mp (of_decide_eq_true hle)
      rw [Nat.le_antisymm hQle (by omega)]
      rfl
    · rfl

/-- From `FEE_TRANSITION_EPOCHS` on the progress is exactly `1.0`. -/
theorem feeProgress_of_mature {currentEpoch : UInt64} (h : feeTransitionEpochs ≤ currentEpoch) :
    feeProgress currentEpoch = one := by
  obtain ⟨E, hofNat, hE⟩ := ofNat_of_mature h
  have h1825 : ofNat feeTransitionEpochs.toNat = .finite false (1825 * 2 ^ scaleExp) := by
    decide +kernel
  unfold feeProgress
  rw [if_neg (by decide), hofNat, h1825]
  exact min_div_one_of_le hE

/-- From `FEE_TRANSITION_EPOCHS` on, the four percentages are exactly the mature constants. -/
theorem feeDistributionForEpoch_of_mature {currentEpoch : UInt64}
    (h : feeTransitionEpochs ≤ currentEpoch) :
    feeDistributionForEpoch currentEpoch =
      (matureBurnPct, matureValidatorPct, matureTreasuryPct, matureDevPct) := by
  simp only [feeDistributionForEpoch, feeProgress_of_mature h]
  exact interpolatePct_one

theorem mature_at_transition_end :
    feeTransitionEpochs ≤ feeTransitionEpochs ∧
      feeDistributionForEpoch feeTransitionEpochs =
        (matureBurnPct, matureValidatorPct, matureTreasuryPct, matureDevPct) :=
  ⟨by decide, feeDistributionForEpoch_of_mature (by decide)⟩

/-! ## The split of a block's fees (`bank/fee_distribution.rs`) -/

/-- `CollectorFeeDetails`: the signature fees and the priority fees the bank collected. -/
structure CollectorFeeDetails where
  transactionFee : UInt64
  priorityFee : UInt64
  deriving DecidableEq, Repr

/-- `CollectorFeeDetails::total_transaction_fee`. -/
def CollectorFeeDetails.totalTransactionFee (d : CollectorFeeDetails) : UInt64 :=
  saturatingAdd d.transactionFee d.priorityFee

/-- A signature fee makes the total fee nonzero: the saturating sum is at least its first term. -/
theorem CollectorFeeDetails.totalTransactionFee_ne_zero {d : CollectorFeeDetails}
    (h : d.transactionFee ≠ 0) : d.totalTransactionFee ≠ 0 := by
  intro h0
  have htoNat := saturatingAdd_toNat d.transactionFee d.priorityFee
  have hpos : 0 < d.transactionFee.toNat :=
    Nat.pos_of_ne_zero fun h' => h (UInt64.toNat_inj.mp (by rw [h']; rfl))
  have hzero : d.totalTransactionFee.toNat = 0 := by rw [h0]; rfl
  unfold CollectorFeeDetails.totalTransactionFee at hzero
  omega

/-- `FeeDistribution`: the parts of a block's fees for the leader, the burn, the treasury and
dApp developers. -/
structure FeeDistribution where
  deposit : UInt64
  burn : UInt64
  treasury : UInt64
  dev : UInt64
  deriving DecidableEq, Repr

/-- The lamports the four parts account for together. -/
def FeeDistribution.total (f : FeeDistribution) : Nat :=
  f.deposit.toNat + f.burn.toNat + f.treasury.toNat + f.dev.toNat

/-- `(total_fee as f64 * pct) as u64`. -/
def shareOf (totalFee : UInt64) (pct : F64) : UInt64 :=
  toUInt64Sat (mul (ofNat totalFee.toNat) pct)

/-- `calculate_reward_and_burn_fee_details` at the bank's epoch: nothing when no signature fee was
collected; otherwise each part is its share of the total fee, truncated, and the burn also takes
what the four shares leave of the total. -/
def calculateRewardAndBurnFeeDetails (currentEpoch : UInt64) (feeDetails : CollectorFeeDetails) :
    FeeDistribution :=
  if feeDetails.transactionFee = 0 then ⟨0, 0, 0, 0⟩
  else
    let totalFee := saturatingAdd feeDetails.transactionFee feeDetails.priorityFee
    let pcts := feeDistributionForEpoch currentEpoch
    let burn := shareOf totalFee pcts.1
    let deposit := shareOf totalFee pcts.2.1
    let treasury := shareOf totalFee pcts.2.2.1
    let dev := shareOf totalFee pcts.2.2.2
    let distributed := saturatingAdd (saturatingAdd (saturatingAdd burn deposit) treasury) dev
    let remainderBurn := saturatingSub totalFee distributed
    { deposit, burn := saturatingAdd burn remainderBurn, treasury, dev }

/-- A share of a total below `2 ^ 40` lamports, at a percentage near an exact `P ∈ [0, 1]`, is at
most `total * P + 1 / 16`: the conversion of the total, the product and the error of the
percentage stay below that, and the truncation only lowers it. -/
theorem shareOf_le {totalFee : UInt64} {pct : F64} {P : ℚ} (hT : totalFee.toNat < 2 ^ 40)
    (hnear : ShareNear pct P) (hP : 0 ≤ P ∧ P ≤ 1) :
    ((shareOf totalFee pct).toNat : ℚ) ≤ totalFee.toNat * P + 1 / 2 ^ 4 := by
  obtain ⟨p, hp, hpP⟩ := hnear
  have hTq : (totalFee.toNat : ℚ) < 2 ^ 40 := by exact_mod_cast hT
  have hT0 : (0 : ℚ) ≤ totalFee.toNat := Nat.cast_nonneg _
  have hη := underflowError_le
  have hη0 := underflowError_pos.le
  -- `total_fee as f64`
  obtain ⟨t, ht, hterr⟩ := ofNat_spec (n := totalFee.toNat) (lt_overflowBound (by linarith))
  rw [unitRoundoff_eq] at hterr
  have htT : |t - totalFee.toNat| ≤ 1 / 2 ^ 12 := by linarith
  have hp2 : |p| ≤ 2 := by
    obtain ⟨h1, h2⟩ := abs_le.mp hpP
    rw [abs_le]
    constructor <;> linarith
  have ht41 : |t| ≤ 2 ^ 41 := by
    obtain ⟨h1, h2⟩ := abs_le.mp htT
    rw [abs_le]
    constructor <;> linarith
  -- `total_fee as f64 * pct`
  have htp : |t * p| ≤ 2 ^ 42 := by
    rw [abs_mul]
    calc |t| * |p| ≤ 2 ^ 41 * 2 := mul_le_mul ht41 hp2 (abs_nonneg _) (by positivity)
      _ = 2 ^ 42 := by norm_num
  obtain ⟨z, hz, hzerr⟩ := mul_spec ht hp (lt_overflowBound (by linarith))
  rw [unitRoundoff_eq] at hzerr
  -- the product against `total * P`, split into the three errors
  have h₁ : |z - t * p| ≤ 1 / 2 ^ 10 := by linarith
  have h₂ : |(t - totalFee.toNat) * p| ≤ 1 / 2 ^ 11 := by
    rw [abs_mul]
    calc |t - totalFee.toNat| * |p| ≤ 1 / 2 ^ 12 * 2 := mul_le_mul htT hp2 (abs_nonneg _) (by positivity)
      _ = 1 / 2 ^ 11 := by norm_num
  have h₃ : |(totalFee.toNat : ℚ) * (p - P)| ≤ 1 / 2 ^ 7 := by
    rw [abs_mul, abs_of_nonneg hT0]
    calc (totalFee.toNat : ℚ) * |p - P| ≤ 2 ^ 40 * (1 / 2 ^ 47) :=
          mul_le_mul hTq.le hpP (abs_nonneg _) (by positivity)
      _ = 1 / 2 ^ 7 := by norm_num
  have hsplit : z - totalFee.toNat * P =
      (z - t * p) + (t - totalFee.toNat) * p + totalFee.toNat * (p - P) := by ring
  have hzle : z ≤ totalFee.toNat * P + 1 / 2 ^ 5 := by
    have := (abs_le.mp h₁).2
    have := (abs_le.mp h₂).2
    have := (abs_le.mp h₃).2
    linarith
  have hTP : (totalFee.toNat : ℚ) * P ≤ 2 ^ 40 := by nlinarith
  -- the truncation
  rw [shareOf, toUInt64Sat_spec hz (by linarith)]
  rcases le_or_gt 0 z with hz0 | hz0
  · exact (Nat.floor_le hz0).trans (by linarith)
  · rw [Nat.floor_of_nonpos hz0.le, Nat.cast_zero]
    have := mul_nonneg hT0 hP.1
    linarith

/-- Below `2 ^ 40` lamports of fees, and with a signature fee collected, the four parts account for
exactly the total fee: the truncated shares add up to at most the total, since the exact shares
add up to `1`, so the burn takes exactly what they leave. -/
theorem calculateRewardAndBurnFeeDetails_conserves (currentEpoch : UInt64)
    (feeDetails : CollectorFeeDetails) (hfee : feeDetails.transactionFee ≠ 0)
    (hsmall : feeDetails.totalTransactionFee.toNat < 2 ^ 40) :
    (calculateRewardAndBurnFeeDetails currentEpoch feeDetails).total =
      feeDetails.totalTransactionFee.toNat := by
  obtain ⟨hb, hv, ht, hd⟩ := feeDistributionForEpoch_near currentEpoch
  have hunit : ∀ {L M : ℚ}, 0 ≤ L ∧ L ≤ 1 → 0 ≤ M ∧ M ≤ 1 →
      0 ≤ exactShare L M currentEpoch ∧ exactShare L M currentEpoch ≤ 1 :=
    fun hL hM => exactShare_mem hL hM currentEpoch
  have h₁ := shareOf_le hsmall hb (hunit (by norm_num) (by norm_num))
  have h₂ := shareOf_le hsmall hv (hunit (by norm_num) (by norm_num))
  have h₃ := shareOf_le hsmall ht (hunit (by norm_num) (by norm_num))
  have h₄ := shareOf_le hsmall hd (hunit (by norm_num) (by norm_num))
  set T := feeDetails.totalTransactionFee with hTdef
  -- the four truncated shares add up to less than `T + 1`, so to at most `T`
  have hexact : (T.toNat : ℚ) * exactShare (1 / 10) (1 / 4) currentEpoch +
      T.toNat * exactShare 0 (1 / 4) currentEpoch +
      T.toNat * exactShare (9 / 20) (1 / 4) currentEpoch +
      T.toNat * exactShare (9 / 20) (1 / 4) currentEpoch = T.toNat := by
    rw [← mul_add, ← mul_add, ← mul_add, exactShare_sum, mul_one]
  have hsum : (shareOf T (feeDistributionForEpoch currentEpoch).1).toNat +
      (shareOf T (feeDistributionForEpoch currentEpoch).2.1).toNat +
      (shareOf T (feeDistributionForEpoch currentEpoch).2.2.1).toNat +
      (shareOf T (feeDistributionForEpoch currentEpoch).2.2.2).toNat ≤ T.toNat := by
    have hlt : (((shareOf T (feeDistributionForEpoch currentEpoch).1).toNat +
        (shareOf T (feeDistributionForEpoch currentEpoch).2.1).toNat +
        (shareOf T (feeDistributionForEpoch currentEpoch).2.2.1).toNat +
        (shareOf T (feeDistributionForEpoch currentEpoch).2.2.2).toNat : Nat) : ℚ) <
        T.toNat + 1 := by
      push_cast
      linarith
    exact Nat.lt_succ_iff.mp (by exact_mod_cast hlt)
  have hT : saturatingAdd feeDetails.transactionFee feeDetails.priorityFee = T := rfl
  unfold calculateRewardAndBurnFeeDetails FeeDistribution.total
  rw [if_neg hfee]
  dsimp only
  rw [hT, saturatingAdd_toNat, saturatingSub_toNat, saturatingAdd_toNat, saturatingAdd_toNat,
    saturatingAdd_toNat]
  omega

theorem launch_fees_conserved :
    (⟨5000, 2000⟩ : CollectorFeeDetails).transactionFee ≠ 0 ∧
      (⟨5000, 2000⟩ : CollectorFeeDetails).totalTransactionFee.toNat < 2 ^ 40 ∧
      (calculateRewardAndBurnFeeDetails 0 ⟨5000, 2000⟩).total =
        (⟨5000, 2000⟩ : CollectorFeeDetails).totalTransactionFee.toNat :=
  ⟨by decide, by decide, calculateRewardAndBurnFeeDetails_conserves 0 _ (by decide) (by decide)⟩

/-- The bound is needed: at launch, `2 ^ 63` lamports of fees are split into parts `256` lamports
larger than the fees, since `0.10`, `0.45` and `0.45` round to doubles whose sum exceeds `1`. -/
example : (calculateRewardAndBurnFeeDetails 0 ⟨2 ^ 63, 0⟩).total = 2 ^ 63 + 256 := by
  decide +kernel

/-! ## Distributing the fees -/

/-- `system_program::ID`, `11111111111111111111111111111111`: all zero bytes. -/
def systemProgramId : Pubkey := ⟨0⟩

/-- `DepositFeeError`. -/
inductive DepositFeeError where
  | invalidRentPayingAccount
  | lamportOverflow
  | invalidAccountOwner
  deriving DecidableEq, Repr

/-- The `RewardInfo` recorded for a deposited fee; its `reward_type` is always `Fee` and its
`commission_bps` always `None`. -/
structure RewardInfo where
  lamports : Int64
  postBalance : UInt64
  deriving DecidableEq, Repr

/-- The part of a `Bank` that `distribute_transaction_fee_details` reads and writes: the accounts
as `get_account_with_fixed_root_no_cache` finds them, the rent, the leader, the epoch, the fees
collected in the block, the capitalization and the rewards. -/
structure FeeBank where
  accounts : Pubkey → Option Account
  rent : Rent
  leaderId : Pubkey
  epoch : UInt64
  collectorFeeDetails : CollectorFeeDetails
  capitalization : UInt64
  rewards : List (Pubkey × RewardInfo)

namespace FeeBank

/-- The balance of the account at a key, as `unwrap_or_default` reads it. -/
def lamportsAt (b : FeeBank) (k : Pubkey) : UInt64 :=
  ((b.accounts k).getD Account.default).lamports

/-- `store_account`. -/
def storeAccount (b : FeeBank) (pubkey : Pubkey) (account : Account) : FeeBank :=
  { b with accounts := Function.update b.accounts pubkey (some account) }

/-- `deposit_fees`: the account, or the default one, must be owned by the system program, take the
fees without overflow and not become rent-paying; then it is stored, and its balance returned. -/
def depositFees (b : FeeBank) (pubkey : Pubkey) (fees : UInt64) :
    Except DepositFeeError (FeeBank × UInt64) := do
  let account := (b.accounts pubkey).getD Account.default
  if account.owner ≠ systemProgramId then throw .invalidAccountOwner
  let recipientPreRentState := getAccountRentState b.rent account.lamports account.data.length
  match checkedAdd account.lamports fees with
  | none => throw .lamportOverflow
  | some lamports =>
    let recipientPostRentState := getAccountRentState b.rent lamports account.data.length
    if !transitionAllowed recipientPreRentState recipientPostRentState then
      throw .invalidRentPayingAccount
    pure (b.storeAccount pubkey { account with lamports }, lamports)

/-- `deposit_or_burn_fee`: the deposit credited to the leader and recorded as a fee reward, with
nothing left to burn; or, when `deposit_fees` refuses it, the whole deposit to burn. -/
def depositOrBurnFee (b : FeeBank) (deposit : UInt64) : FeeBank × UInt64 :=
  if deposit = 0 then (b, 0)
  else
    match b.depositFees b.leaderId deposit with
    | .ok (b', postBalance) =>
      ({ b' with rewards := b'.rewards ++ [(b.leaderId, ⟨deposit.toInt64, postBalance⟩)] }, 0)
    | .error _ => (b, deposit)

/-- `distribute_transaction_fee_details`: nothing when no fee was collected; otherwise the
validator's part goes to the leader, and the burn, the treasury and developer parts (which have
no recipient yet) and a refused deposit are burned, lowering the capitalization (`fetch_sub`,
which wraps). -/
def distributeTransactionFeeDetails (b : FeeBank) : FeeBank :=
  let feeDetails := b.collectorFeeDetails
  if feeDetails.totalTransactionFee = 0 then b
  else
    let f := calculateRewardAndBurnFeeDetails b.epoch feeDetails
    let undeliverable := saturatingAdd f.treasury f.dev
    let deposited := b.depositOrBurnFee f.deposit
    let totalBurn := saturatingAdd (saturatingAdd deposited.2 f.burn) undeliverable
    { deposited.1 with capitalization := deposited.1.capitalization - totalBurn }

/-- An accepted deposit credits the account at `pubkey`, without overflow, and changes nothing
else the distribution reads. -/
theorem depositFees_eq_ok {b b' : FeeBank} {pubkey : Pubkey} {fees postBalance : UInt64}
    (h : b.depositFees pubkey fees = .ok (b', postBalance)) :
    (b.lamportsAt pubkey).toNat + fees.toNat < 2 ^ 64 ∧
      (∀ k, (b'.lamportsAt k).toNat =
        (b.lamportsAt k).toNat + if k = pubkey then fees.toNat else 0) ∧
      b'.capitalization = b.capitalization := by
  unfold depositFees at h
  dsimp only at h
  split at h
  · cases h
  · cases hadd : checkedAdd ((b.accounts pubkey).getD Account.default).lamports fees with
    | none =>
      rw [hadd] at h
      cases h
    | some lamports =>
      rw [hadd] at h
      dsimp only at h
      split at h
      · cases h
      · obtain ⟨hlt, hsum⟩ := checkedAdd_eq_some.mp hadd
        cases h
        refine ⟨hlt, fun k => ?_, rfl⟩
        by_cases hk : k = pubkey
        · subst hk
          simp [lamportsAt, storeAccount, hsum]
        · simp [lamportsAt, storeAccount, hk]

/-- `deposit_or_burn_fee` keeps the capitalization, and either credits the deposit to the leader
and leaves nothing to burn, or changes no balance and leaves the deposit to burn. -/
theorem depositOrBurnFee_cases (b : FeeBank) (deposit : UInt64) :
    (b.depositOrBurnFee deposit).1.capitalization = b.capitalization ∧
      (((∀ k, ((b.depositOrBurnFee deposit).1.lamportsAt k).toNat =
          (b.lamportsAt k).toNat + if k = b.leaderId then deposit.toNat else 0) ∧
          (b.depositOrBurnFee deposit).2 = 0) ∨
        ((∀ k, (b.depositOrBurnFee deposit).1.lamportsAt k = b.lamportsAt k) ∧
          (b.depositOrBurnFee deposit).2 = deposit)) := by
  unfold depositOrBurnFee
  split
  · exact ⟨rfl, .inr ⟨fun _ => rfl, by simp_all⟩⟩
  · split
    · rename_i b' postBalance hdep
      obtain ⟨-, hcredit, hcap⟩ := depositFees_eq_ok hdep
      exact ⟨hcap, .inl ⟨hcredit, rfl⟩⟩
    · exact ⟨rfl, .inr ⟨fun _ => rfl, rfl⟩⟩

/-- A block whose fees are all priority fees burns and credits nothing:
`calculate_reward_and_burn_fee_details` returns four zero parts when the signature fee is zero,
so its priority fees stay counted in the capitalization though no account holds them. -/
theorem distributeTransactionFeeDetails_of_transactionFee_zero (b : FeeBank)
    (hfee : b.collectorFeeDetails.transactionFee = 0) :
    distributeTransactionFeeDetails b = b := by
  have hzero : calculateRewardAndBurnFeeDetails b.epoch b.collectorFeeDetails = ⟨0, 0, 0, 0⟩ := by
    rw [calculateRewardAndBurnFeeDetails, if_pos hfee]
  have hdeposit : b.depositOrBurnFee 0 = (b, 0) := by
    rw [depositOrBurnFee, if_pos rfl]
  have hburn : saturatingAdd (saturatingAdd (0 : UInt64) 0) (saturatingAdd 0 0) = 0 := by decide
  unfold distributeTransactionFeeDetails
  dsimp only
  split
  · rfl
  · rw [hzero]
    dsimp only
    rw [hdeposit]
    dsimp only
    rw [hburn, UInt64.sub_zero]

/-- The distribution with fees collected: the leader's part through `deposit_or_burn_fee`, and the
capitalization lowered by everything burned. -/
theorem distributeTransactionFeeDetails_of_ne_zero {b : FeeBank}
    (h : b.collectorFeeDetails.totalTransactionFee ≠ 0) :
    distributeTransactionFeeDetails b =
      let f := calculateRewardAndBurnFeeDetails b.epoch b.collectorFeeDetails
      let deposited := b.depositOrBurnFee f.deposit
      let totalBurn := saturatingAdd (saturatingAdd deposited.2 f.burn) (saturatingAdd f.treasury f.dev)
      { deposited.1 with capitalization := deposited.1.capitalization - totalBurn } := by
  unfold distributeTransactionFeeDetails
  dsimp only
  rw [if_neg h]

/-- Distributing a block's fees keeps the capitalization equal to the lamports it counts: if, over
a set of accounts that holds the leader, the capitalization was their lamports and the block's
fees, it is their lamports after. The leader is credited its part or nothing, and all that it is
not credited is burned, since the four parts add up to the fees. -/
theorem distributeTransactionFeeDetails_capitalization (b : FeeBank) (K : Finset Pubkey)
    (hleader : b.leaderId ∈ K) (hfee : b.collectorFeeDetails.transactionFee ≠ 0)
    (hsmall : b.collectorFeeDetails.totalTransactionFee.toNat < 2 ^ 40)
    (hcap : b.capitalization.toNat =
      ∑ k ∈ K, (b.lamportsAt k).toNat + b.collectorFeeDetails.totalTransactionFee.toNat) :
    (distributeTransactionFeeDetails b).capitalization.toNat =
      ∑ k ∈ K, ((distributeTransactionFeeDetails b).lamportsAt k).toNat := by
  rw [distributeTransactionFeeDetails_of_ne_zero
    (CollectorFeeDetails.totalTransactionFee_ne_zero hfee)]
  dsimp only
  set f := calculateRewardAndBurnFeeDetails b.epoch b.collectorFeeDetails with hf
  have hconserve : f.total = b.collectorFeeDetails.totalTransactionFee.toNat :=
    calculateRewardAndBurnFeeDetails_conserves _ _ hfee hsmall
  unfold FeeDistribution.total at hconserve
  obtain ⟨hcapKept, hcases⟩ := depositOrBurnFee_cases b f.deposit
  -- the record update changes only the capitalization
  simp only [lamportsAt] at hcases hcap ⊢
  rw [hcapKept]
  rcases hcases with ⟨hcredit, hburned⟩ | ⟨hsame, hburned⟩
  · -- the leader is credited its part; the rest is burned
    have hsum : ∑ k ∈ K, ((((b.depositOrBurnFee f.deposit).1.accounts k).getD
          Account.default).lamports).toNat =
        ∑ k ∈ K, (((b.accounts k).getD Account.default).lamports).toNat + f.deposit.toNat := by
      rw [Finset.sum_congr rfl fun k _ => hcredit k, Finset.sum_add_distrib,
        Finset.sum_ite_eq' K b.leaderId, if_pos hleader]
    have hburn : (saturatingAdd (saturatingAdd (b.depositOrBurnFee f.deposit).2 f.burn)
        (saturatingAdd f.treasury f.dev)).toNat = f.burn.toNat + f.treasury.toNat + f.dev.toNat := by
      rw [hburned, saturatingAdd_toNat, saturatingAdd_toNat, saturatingAdd_toNat, UInt64.toNat_zero]
      omega
    rw [hsum, UInt64.toNat_sub_of_le _ _ (UInt64.le_iff_toNat_le.mpr (by omega)), hburn]
    omega
  · -- nothing is credited, and everything is burned
    have hsum : ∑ k ∈ K, ((((b.depositOrBurnFee f.deposit).1.accounts k).getD
          Account.default).lamports).toNat =
        ∑ k ∈ K, (((b.accounts k).getD Account.default).lamports).toNat :=
      Finset.sum_congr rfl fun k _ => by rw [hsame k]
    have hburn : (saturatingAdd (saturatingAdd (b.depositOrBurnFee f.deposit).2 f.burn)
        (saturatingAdd f.treasury f.dev)).toNat =
          f.deposit.toNat + f.burn.toNat + f.treasury.toNat + f.dev.toNat := by
      rw [hburned, saturatingAdd_toNat, saturatingAdd_toNat, saturatingAdd_toNat]
      omega
    rw [hsum, UInt64.toNat_sub_of_le _ _ (UInt64.le_iff_toNat_le.mpr (by omega)), hburn]
    omega

/-- The leader of `matureFeeBank`. -/
def leaderKey : Pubkey := ⟨7⟩

/-- A leader holding one SOL, rent-exempt, at the end of the transition, and a block of `5_000`
lamports of signature fees, with the capitalization counting both. -/
def matureFeeBank : FeeBank where
  accounts k := if k = leaderKey then some ⟨1000000000, [], systemProgramId⟩ else none
  rent := exampleRent
  leaderId := leaderKey
  epoch := 1825
  collectorFeeDetails := ⟨5000, 0⟩
  capitalization := 1000005000
  rewards := []

theorem mature_fees_keep_capitalization :
    matureFeeBank.leaderId ∈ ({leaderKey} : Finset Pubkey) ∧
      matureFeeBank.collectorFeeDetails.transactionFee ≠ 0 ∧
      matureFeeBank.collectorFeeDetails.totalTransactionFee.toNat < 2 ^ 40 ∧
      matureFeeBank.capitalization.toNat = ∑ k ∈ ({leaderKey} : Finset Pubkey),
        (matureFeeBank.lamportsAt k).toNat +
          matureFeeBank.collectorFeeDetails.totalTransactionFee.toNat ∧
      (distributeTransactionFeeDetails matureFeeBank).capitalization.toNat =
        ∑ k ∈ ({leaderKey} : Finset Pubkey),
          ((distributeTransactionFeeDetails matureFeeBank).lamportsAt k).toNat := by
  have hcap : matureFeeBank.capitalization.toNat = ∑ k ∈ ({leaderKey} : Finset Pubkey),
      (matureFeeBank.lamportsAt k).toNat +
        matureFeeBank.collectorFeeDetails.totalTransactionFee.toNat := by
    rw [Finset.sum_singleton]
    decide
  exact ⟨Finset.mem_singleton_self _, by decide, by decide, hcap,
    distributeTransactionFeeDetails_capitalization matureFeeBank _ (Finset.mem_singleton_self _)
      (by decide) (by decide) hcap⟩

end FeeBank

end TRv1.Runtime.Fees
