import TRv1.FeeMarket.Calculator
import Mathlib

/-!
# The base-fee adjustment on natural numbers

`calculate_next_base_fee` with a positive target `T` and a positive denominator `D` computes,
from the current fee `c` and the parent usage `p`, the value `adjust T D c p` and clamps it to
`[min_base_fee, max_base_fee]` (`toNat_calculateNextBaseFee`): no `u128` product saturates, the
`+1` floor and the casts are absorbed into `adjust`, and with a zero target the result is the
maximum fee after any usage. The properties of the calculator are read off `adjust`.

## What this module delivers

- `validateConfig_eq_ok`: what `validate_config` accepts.
- `toNat_calculateNextBaseFee`: the calculator on natural numbers.
- `base_fee_change_bounded`: with a positive target and a parent usage at most twice the target,
  the fee moves by at most `max 1 (c / D)`; `fee_jumps_beyond_bound` shows what happens outside.
- `base_fee_monotone`: the next fee is monotone in the parent usage and in the current fee.
-/

set_option autoImplicit false

namespace TRv1.FeeMarket

/-! ## Floor division -/

section FloorDiv

variable {c c' k M : ℕ}

/-- A fraction `k / M ≤ 1` of `c`, floored, is at most `c`. -/
theorem mul_div_le_self (hk : k ≤ M) : c * k / M ≤ c := by
  rcases Nat.eq_zero_or_pos M with hM | hM
  · rw [hM, Nat.div_zero]
    exact Nat.zero_le c
  · apply Nat.div_le_of_le_mul
    calc c * k ≤ c * M := Nat.mul_le_mul_left c hk
      _ = M * c := Nat.mul_comm c M

/-- With `k ≤ M`, raising `c` raises `c * k / M` by at most as much, so `c - c * k / M` is
monotone in `c`. -/
theorem sub_mul_div_mono (hk : k ≤ M) (h : c ≤ c') : c - c * k / M ≤ c' - c' * k / M := by
  have hle : c' * k / M ≤ c * k / M + (c' - c) := by
    rcases Nat.eq_zero_or_pos M with hM | hM
    · simp [hM]
    · have hsplit : c' * k = c * k + (c' - c) * k := by
        rw [← Nat.add_mul, Nat.add_sub_cancel' h]
      calc c' * k / M ≤ (c * k + (c' - c) * M) / M := by
            apply Nat.div_le_div_right
            rw [hsplit]
            exact Nat.add_le_add_left (Nat.mul_le_mul_left _ hk) _
        _ = c * k / M + (c' - c) := Nat.add_mul_div_right _ _ hM
  have := mul_div_le_self (c := c) hk
  omega

/-- A fraction `k / T ≤ 1` of `c / D`, taken in one floor. -/
theorem mul_div_mul_le_div {T D : ℕ} (hT : 0 < T) (hk : k ≤ T) : c * k / (T * D) ≤ c / D :=
  calc c * k / (T * D) ≤ c * T / (T * D) := Nat.div_le_div_right (Nat.mul_le_mul_left c hk)
    _ = c / D := by rw [Nat.mul_comm c T, Nat.mul_div_mul_left c D hT]

end FloorDiv

/-! ## The unclamped next fee -/

/-- The next fee before the clamp, for a positive target `T` and denominator `D`: unchanged at
the target, up by `max (c * (p - T) / (T * D)) 1` above it (saturating at `u64::MAX`), down by
`c * (T - p) / (T * D)` below it. -/
def adjust (T D c p : ℕ) : ℕ :=
  if p = T then c
  else if T < p then min (c + max (c * (p - T) / (T * D)) 1) (2 ^ 64 - 1)
  else c - c * (T - p) / (T * D)

section Adjust

variable {T D c c' p p' : ℕ}

theorem adjust_le_self (hp : p ≤ T) : adjust T D c p ≤ c := by
  unfold adjust
  generalize c * (p - T) / (T * D) = up
  generalize c * (T - p) / (T * D) = down
  split_ifs <;> omega

theorem self_le_adjust (hc : c < 2 ^ 64) (hp : T ≤ p) : c ≤ adjust T D c p := by
  unfold adjust
  generalize c * (p - T) / (T * D) = up
  generalize c * (T - p) / (T * D) = down
  split_ifs <;> omega

/-- More usage, a higher next fee: both sides of the target move the same way, and the target
separates a decrease from an increase. -/
theorem adjust_mono_gas (hc : c < 2 ^ 64) (hp : p ≤ p') : adjust T D c p ≤ adjust T D c p' := by
  by_cases hp'T : p' ≤ T
  · by_cases heq : p' = T
    · -- the parent at target: the fee stays, and a lower usage lowers it
      calc adjust T D c p ≤ c := adjust_le_self (by omega)
        _ = adjust T D c p' := by rw [adjust, if_pos heq]
    · -- both below target: the smaller deficit takes the smaller decrease
      have hdiv : c * (T - p') / (T * D) ≤ c * (T - p) / (T * D) :=
        Nat.div_le_div_right (Nat.mul_le_mul_left c (by omega))
      have h₁ : adjust T D c p = c - c * (T - p) / (T * D) := by
        rw [adjust, if_neg (by omega), if_neg (by omega)]
      have h₂ : adjust T D c p' = c - c * (T - p') / (T * D) := by
        rw [adjust, if_neg heq, if_neg (by omega)]
      rw [h₁, h₂]
      omega
  · by_cases hpT : p ≤ T
    · exact (adjust_le_self hpT).trans (self_le_adjust hc (by omega))
    · -- both above target: the larger excess takes the larger increase
      have hdiv : c * (p - T) / (T * D) ≤ c * (p' - T) / (T * D) :=
        Nat.div_le_div_right (Nat.mul_le_mul_left c (by omega))
      have h₁ : adjust T D c p = min (c + max (c * (p - T) / (T * D)) 1) (2 ^ 64 - 1) := by
        rw [adjust, if_neg (by omega), if_pos (by omega)]
      have h₂ : adjust T D c p' = min (c + max (c * (p' - T) / (T * D)) 1) (2 ^ 64 - 1) := by
        rw [adjust, if_neg (by omega), if_pos (by omega)]
      rw [h₁, h₂]
      omega

/-- A higher current fee, a higher next fee: below target the decrease grows by at most one
per unit of fee, since the deficit is at most `T ≤ T * D`. -/
theorem adjust_mono_fee (hD : 0 < D) (h : c ≤ c') :
    adjust T D c p ≤ adjust T D c' p := by
  unfold adjust
  split_ifs with heq habove
  · exact h
  · have : c * (p - T) / (T * D) ≤ c' * (p - T) / (T * D) :=
      Nat.div_le_div_right (Nat.mul_le_mul_right _ h)
    omega
  · have hk : T - p ≤ T * D := (Nat.sub_le T p).trans (Nat.le_mul_of_pos_right T hD)
    exact sub_mul_div_mono hk h

/-- Within twice the target, the fee moves by at most `max 1 (c / D)`. -/
theorem adjust_within (hc : c < 2 ^ 64) (hT : 0 < T) (hp : p ≤ 2 * T) :
    adjust T D c p ≤ c + max 1 (c / D) ∧ c ≤ adjust T D c p + c / D := by
  have hup : c * (p - T) / (T * D) ≤ c / D := mul_div_mul_le_div hT (by omega)
  have hdown : c * (T - p) / (T * D) ≤ c / D := mul_div_mul_le_div hT (by omega)
  unfold adjust
  generalize c * (p - T) / (T * D) = up at hup ⊢
  generalize c * (T - p) / (T * D) = down at hdown ⊢
  generalize c / D = q at hup hdown ⊢
  split_ifs <;> omega

end Adjust

/-! ## The calculator on natural numbers -/

theorem validateConfig_eq_ok (config : FeeMarketConfig) :
    validateConfig config = .ok () ↔ config.minBaseFee ≤ config.maxBaseFee ∧
      config.baseFeeChangeDenominator ≠ 0 ∧ config.targetUtilizationPct ≤ 100 := by
  unfold validateConfig
  split_ifs with h₁ h₂ h₃
  · simp only [false_iff, not_and]
    exact fun h => absurd h (UInt64.not_le.mpr h₁)
  · simp only [false_iff, not_and]
    exact fun _ h => absurd h₂ h
  · simp only [false_iff, not_and]
    exact fun _ _ h => absurd h (UInt8.not_le.mpr h₃)
  · simp only [true_iff]
    exact ⟨UInt64.not_lt.mp h₁, h₂, UInt8.not_lt.mp h₃⟩

theorem clamp_toNat {value min max : UInt64} (h : min ≤ max) :
    (clamp value min max).toNat = Max.max min.toNat (Min.min value.toNat max.toNat) := by
  rw [UInt64.le_iff_toNat_le] at h
  unfold clamp
  split_ifs with hlo hhi
  · rw [UInt64.lt_iff_toNat_lt] at hlo
    omega
  · rw [gt_iff_lt, UInt64.lt_iff_toNat_lt] at hhi
    omega
  · rw [gt_iff_lt, UInt64.lt_iff_toNat_lt] at hhi
    rw [UInt64.lt_iff_toNat_lt] at hlo
    omega

/-- The unclamped next fee of the source, for a positive target and denominator, is `adjust`:
the `u128` products do not saturate and the casts keep their values. -/
theorem unclamped_toNat {config : FeeMarketConfig} {state : BlockFeeState}
    (hT : config.targetGas ≠ 0) (hD : config.baseFeeChangeDenominator ≠ 0) :
    (if state.parentGasUsed = config.targetGas then state.baseFeePerCu
      else if state.parentGasUsed > config.targetGas then
        RustInt.saturatingAdd state.baseFeePerCu
          (if RustInt.saturatingMulU128 config.targetGas.toNat
              config.baseFeeChangeDenominator.toNat = 0 then state.baseFeePerCu
            else UInt64.ofNat (Min.min (Max.max (RustInt.saturatingMulU128
              state.baseFeePerCu.toNat
              (RustInt.saturatingSub state.parentGasUsed config.targetGas).toNat /
              RustInt.saturatingMulU128 config.targetGas.toNat
                config.baseFeeChangeDenominator.toNat) 1) (2 ^ 64 - 1)))
      else
        RustInt.saturatingSub state.baseFeePerCu
          (if RustInt.saturatingMulU128 config.targetGas.toNat
              config.baseFeeChangeDenominator.toNat = 0 then 0
            else UInt64.ofNat (Min.min (RustInt.saturatingMulU128 state.baseFeePerCu.toNat
              (RustInt.saturatingSub config.targetGas state.parentGasUsed).toNat /
              RustInt.saturatingMulU128 config.targetGas.toNat
                config.baseFeeChangeDenominator.toNat) (2 ^ 64 - 1)))).toNat =
      adjust config.targetGas.toNat config.baseFeeChangeDenominator.toNat
        state.baseFeePerCu.toNat state.parentGasUsed.toNat := by
  have hc := state.baseFeePerCu.toNat_lt
  have hsize : UInt64.size = 2 ^ 64 := rfl
  have hTpos := RustInt.toNat_pos_of_ne_zero hT
  have hDpos := RustInt.toNat_pos_of_ne_zero hD
  have hden : RustInt.saturatingMulU128 config.targetGas.toNat
      config.baseFeeChangeDenominator.toNat =
      config.targetGas.toNat * config.baseFeeChangeDenominator.toNat :=
    RustInt.saturatingMulU128_of_lt config.targetGas.toNat_lt
      config.baseFeeChangeDenominator.toNat_lt
  have hden0 : config.targetGas.toNat * config.baseFeeChangeDenominator.toNat ≠ 0 :=
    Nat.mul_ne_zero hTpos.ne' hDpos.ne'
  rw [hden, if_neg hden0, if_neg hden0]
  unfold adjust
  by_cases heq : state.parentGasUsed = config.targetGas
  · rw [if_pos heq, if_pos (congrArg UInt64.toNat heq)]
  · have heq' : state.parentGasUsed.toNat ≠ config.targetGas.toNat :=
      fun h => heq (UInt64.toNat_inj.mp h)
    rw [if_neg heq, if_neg heq']
    by_cases habove : config.targetGas < state.parentGasUsed
    · -- above target: the delta is at least one and capped at `u64::MAX`
      have habove' := UInt64.lt_iff_toNat_lt.mp habove
      rw [if_pos habove, if_pos habove', RustInt.saturatingAdd_toNat,
        RustInt.saturatingMulU128_of_lt hc (RustInt.saturatingSub _ _).toNat_lt,
        RustInt.saturatingSub_toNat, UInt64.toNat_ofNat_of_lt' (by omega)]
      omega
    · -- below target: the decrease is at most the current fee
      have hbelow : state.parentGasUsed.toNat < config.targetGas.toNat := by
        rw [UInt64.lt_iff_toNat_lt] at habove
        omega
      have hdec := mul_div_le_self (c := state.baseFeePerCu.toNat)
        (Nat.sub_le config.targetGas.toNat state.parentGasUsed.toNat |>.trans
          (Nat.le_mul_of_pos_right _ hDpos))
      rw [if_neg habove, if_neg (by omega), RustInt.saturatingSub_toNat,
        RustInt.saturatingMulU128_of_lt hc (RustInt.saturatingSub _ _).toNat_lt,
        RustInt.saturatingSub_toNat, UInt64.toNat_ofNat_of_lt' (by omega)]
      omega

/-- The calculator on natural numbers, for a config with `min_base_fee ≤ max_base_fee` and a
positive denominator. -/
theorem toNat_calculateNextBaseFee {config : FeeMarketConfig} (state : BlockFeeState)
    (hle : config.minBaseFee ≤ config.maxBaseFee) (hD : config.baseFeeChangeDenominator ≠ 0) :
    (calculateNextBaseFee config state).toNat =
      if config.targetGas = 0 then
        (if 0 < state.parentGasUsed.toNat then config.maxBaseFee.toNat
          else Max.max config.minBaseFee.toNat
            (Min.min state.baseFeePerCu.toNat config.maxBaseFee.toNat))
      else Max.max config.minBaseFee.toNat
        (Min.min (adjust config.targetGas.toNat config.baseFeeChangeDenominator.toNat
          state.baseFeePerCu.toNat state.parentGasUsed.toNat) config.maxBaseFee.toNat) := by
  unfold calculateNextBaseFee
  dsimp only
  by_cases hT : config.targetGas = 0
  · have hpos : state.parentGasUsed > 0 ↔ 0 < state.parentGasUsed.toNat := by
      rw [gt_iff_lt, UInt64.lt_iff_toNat_lt, UInt64.toNat_zero]
    rw [if_pos hT, if_pos hT]
    by_cases hp : state.parentGasUsed > 0
    · rw [if_pos hp, if_pos (hpos.mp hp)]
    · rw [if_neg hp, if_neg (mt hpos.mpr hp), clamp_toNat hle]
  · rw [if_neg hT, if_neg hT, clamp_toNat hle, unclamped_toNat hT hD]

/-! ## Bounded change -/

/-- For a config that `validate_config` accepts, with a positive target, and a state whose fee
lies in `[min_base_fee, max_base_fee]` and whose parent usage is at most twice the target, the
next fee differs from the current one by at most `max 1 (current / denominator)`. -/
theorem base_fee_change_bounded (config : FeeMarketConfig)
    (hvalid : validateConfig config = .ok ()) (state : BlockFeeState)
    (hmin : config.minBaseFee ≤ state.baseFeePerCu) (hmax : state.baseFeePerCu ≤ config.maxBaseFee)
    (hT : config.targetGas ≠ 0) (hp : state.parentGasUsed.toNat ≤ 2 * config.targetGas.toNat) :
    (calculateNextBaseFee config state).toNat ≤ state.baseFeePerCu.toNat +
        Max.max 1 (state.baseFeePerCu.toNat / config.baseFeeChangeDenominator.toNat) ∧
      state.baseFeePerCu.toNat ≤ (calculateNextBaseFee config state).toNat +
        Max.max 1 (state.baseFeePerCu.toNat / config.baseFeeChangeDenominator.toNat) := by
  obtain ⟨hle, hD, -⟩ := (validateConfig_eq_ok config).mp hvalid
  have hwithin := adjust_within (D := config.baseFeeChangeDenominator.toNat)
    state.baseFeePerCu.toNat_lt (RustInt.toNat_pos_of_ne_zero hT) hp
  rw [UInt64.le_iff_toNat_le] at hmin hmax
  rw [toNat_calculateNextBaseFee state hle hD, if_neg hT]
  -- the clamp to a range that holds the current fee only moves the result towards it
  generalize adjust _ _ _ _ = a at hwithin ⊢
  omega

theorem bounded_on_default :
    validateConfig FeeMarketConfig.default = .ok () ∧
      (calculateNextBaseFee FeeMarketConfig.default ⟨8000, 30000000, 0, 0⟩).toNat ≤ 8000 + 1000 ∧
      8000 ≤ (calculateNextBaseFee FeeMarketConfig.default ⟨8000, 30000000, 0, 0⟩).toNat + 1000 :=
  have hvalid : validateConfig FeeMarketConfig.default = .ok () := rfl
  ⟨hvalid, base_fee_change_bounded FeeMarketConfig.default hvalid ⟨8000, 30000000, 0, 0⟩
    (by decide) (by decide) (by decide) (by decide)⟩

/-- The default config with a zero target. -/
def zeroTargetConfig : FeeMarketConfig := { FeeMarketConfig.default with targetUtilizationPct := 0 }

/-- The default config with a target of a tenth of the block. -/
def lowTargetConfig : FeeMarketConfig :=
  { FeeMarketConfig.default with targetUtilizationPct := 10 }

/-- Outside a positive target and a usage within twice it, the fee jumps: with a zero target one
compute unit moves the fee from `5000` to the maximum, and with a target of a tenth of the block a
full block adds `9000` to a fee of `8000`, where `max 1 (8000 / 8) = 1000`. Both configs pass
`validate_config`, and both usages stay within the block. -/
theorem fee_jumps_beyond_bound :
    validateConfig zeroTargetConfig = .ok () ∧
      calculateNextBaseFee zeroTargetConfig ⟨5000, 1, 0, 0⟩ = 50000000 ∧
      validateConfig lowTargetConfig = .ok () ∧
      calculateNextBaseFee lowTargetConfig ⟨8000, 48000000, 0, 0⟩ = 17000 :=
  ⟨rfl, by decide, rfl, by decide⟩

/-! ## Monotonicity -/

/-- For a positive denominator and `min_base_fee ≤ max_base_fee`, the next fee is monotone in
the parent usage for a fixed current fee, and in the current fee for a fixed parent usage. -/
theorem base_fee_monotone (config : FeeMarketConfig) (hD : 1 ≤ config.baseFeeChangeDenominator)
    (hle : config.minBaseFee ≤ config.maxBaseFee) :
    (∀ s s' : BlockFeeState, s.baseFeePerCu = s'.baseFeePerCu →
      s.parentGasUsed ≤ s'.parentGasUsed →
        calculateNextBaseFee config s ≤ calculateNextBaseFee config s') ∧
    (∀ s s' : BlockFeeState, s.parentGasUsed = s'.parentGasUsed →
      s.baseFeePerCu ≤ s'.baseFeePerCu →
        calculateNextBaseFee config s ≤ calculateNextBaseFee config s') := by
  have hDpos : 0 < config.baseFeeChangeDenominator.toNat := by
    rw [UInt64.le_iff_toNat_le, UInt64.toNat_one] at hD
    exact hD
  have hD0 : config.baseFeeChangeDenominator ≠ 0 := fun h => by
    rw [h, UInt64.toNat_zero] at hDpos
    exact absurd hDpos (Nat.lt_irrefl 0)
  have hle' := UInt64.le_iff_toNat_le.mp hle
  refine ⟨fun s s' hc hp => ?_, fun s s' hp hc => ?_⟩
  · -- in the usage: the unclamped fee is monotone, and so is the clamp
    rw [UInt64.le_iff_toNat_le] at hp ⊢
    rw [toNat_calculateNextBaseFee s hle hD0, toNat_calculateNextBaseFee s' hle hD0, ← hc]
    have hmono := adjust_mono_gas (T := config.targetGas.toNat)
      (D := config.baseFeeChangeDenominator.toNat) s.baseFeePerCu.toNat_lt hp
    generalize adjust _ _ _ s.parentGasUsed.toNat = a at hmono ⊢
    generalize adjust _ _ _ s'.parentGasUsed.toNat = a' at hmono ⊢
    split_ifs <;> omega
  · -- in the fee: the same, with the decrease below target growing by at most one per unit
    rw [UInt64.le_iff_toNat_le] at hc ⊢
    rw [toNat_calculateNextBaseFee s hle hD0, toNat_calculateNextBaseFee s' hle hD0, ← hp]
    have hmono := adjust_mono_fee (T := config.targetGas.toNat) (p := s.parentGasUsed.toNat)
      hDpos hc
    generalize adjust _ _ s.baseFeePerCu.toNat _ = a at hmono ⊢
    generalize adjust _ _ s'.baseFeePerCu.toNat _ = a' at hmono ⊢
    split_ifs <;> omega

theorem monotone_on_default :
    calculateNextBaseFee FeeMarketConfig.default ⟨6000, 10000000, 0, 0⟩ ≤
        calculateNextBaseFee FeeMarketConfig.default ⟨6000, 30000000, 0, 0⟩ ∧
      calculateNextBaseFee FeeMarketConfig.default ⟨6000, 10000000, 0, 0⟩ ≤
        calculateNextBaseFee FeeMarketConfig.default ⟨7000, 10000000, 0, 0⟩ :=
  have h := base_fee_monotone FeeMarketConfig.default (by decide) (by decide)
  ⟨h.1 _ _ rfl (by decide), h.2 _ _ rfl (by decide)⟩

end TRv1.FeeMarket
