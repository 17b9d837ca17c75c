import TRv1.Lib.RustInt

/-!
# The fee market: configuration, block fee state and calculator

The fee market adjusts a base fee per compute unit every block, EIP-1559 style, from how far the
parent block's compute units were above or below a target, and prices each transaction as base
fee plus priority fee per compute unit. This module is the model of the crate's `config.rs`,
`state.rs`, `error.rs` and `calculator.rs`.

`calculate_next_base_fee` computes its fraction in `u128`, which is modelled by natural numbers
with the saturating `u128` product of `RustInt`; every other quantity is a `UInt64` with the
source's saturating operations. `BlockFeeState::utilization` is a float ratio that nothing of the
fee logic reads, and the error texts of `thiserror` are the display of an error, not data a
function computes; both are left out.
-/

set_option autoImplicit false

namespace TRv1.FeeMarket

/-- `FeeMarketConfig`. -/
structure FeeMarketConfig where
  minBaseFee : UInt64
  maxBaseFee : UInt64
  targetUtilizationPct : UInt8
  maxBlockComputeUnits : UInt64
  baseFeeChangeDenominator : UInt64
  minPriorityFee : UInt64
  deriving DecidableEq, Repr

namespace FeeMarketConfig

/-- `target_gas`: `max_block_compute_units * target_utilization_pct / 100`, the product
saturating. -/
def targetGas (config : FeeMarketConfig) : UInt64 :=
  RustInt.saturatingMul config.maxBlockComputeUnits config.targetUtilizationPct.toUInt64 / 100

/-- `FeeMarketConfig::default()`. -/
def default : FeeMarketConfig where
  minBaseFee := 5000
  maxBaseFee := 50000000
  targetUtilizationPct := 50
  maxBlockComputeUnits := 48000000
  baseFeeChangeDenominator := 8
  minPriorityFee := 0

end FeeMarketConfig

/-- `BlockFeeState`. -/
structure BlockFeeState where
  baseFeePerCu : UInt64
  parentGasUsed : UInt64
  currentGasUsed : UInt64
  height : UInt64
  deriving DecidableEq, Repr

namespace BlockFeeState

/-- `BlockFeeState::genesis`. -/
def genesis (initialBaseFee : UInt64) : BlockFeeState where
  baseFeePerCu := initialBaseFee
  parentGasUsed := 0
  currentGasUsed := 0
  height := 0

/-- `record_gas`: the running total raised by `cu`, saturating; returns the state and the new
total. -/
def recordGas (state : BlockFeeState) (cu : UInt64) : BlockFeeState × UInt64 :=
  let currentGasUsed := RustInt.saturatingAdd state.currentGasUsed cu
  ({ state with currentGasUsed }, currentGasUsed)

/-- `next_block`: the child's state, whose parent usage is this block's running total. -/
def nextBlock (state : BlockFeeState) (nextBaseFee nextHeight : UInt64) : BlockFeeState where
  baseFeePerCu := nextBaseFee
  parentGasUsed := state.currentGasUsed
  currentGasUsed := 0
  height := nextHeight

end BlockFeeState

/-- `TransactionFee`. -/
structure TransactionFee where
  baseFee : UInt64
  priorityFee : UInt64
  totalFee : UInt64
  deriving DecidableEq, Repr

/-- `FeeError`. -/
inductive FeeError
  | insufficientFee (offered required baseFeePerCu computeUnits : UInt64)
  | priorityFeeTooLow (offered minimum : UInt64)
  | invalidConfig (reason : String)
  | computeUnitsExceedMax (requested maxBlockCu : UInt64)
  | overflow
  deriving DecidableEq, Repr

/-- `clamp`. -/
def clamp (value min max : UInt64) : UInt64 :=
  if value < min then min else if value > max then max else value

/-- `calculate_next_base_fee`. -/
def calculateNextBaseFee (config : FeeMarketConfig) (state : BlockFeeState) : UInt64 :=
  let target := config.targetGas
  if target = 0 then
    -- every non-empty block is above a zero target
    if state.parentGasUsed > 0 then config.maxBaseFee
    else clamp state.baseFeePerCu config.minBaseFee config.maxBaseFee
  else
    let current := state.baseFeePerCu
    let next :=
      if state.parentGasUsed = target then current
      else if state.parentGasUsed > target then
        let excess := RustInt.saturatingSub state.parentGasUsed target
        let numerator := RustInt.saturatingMulU128 current.toNat excess.toNat
        let denominator :=
          RustInt.saturatingMulU128 target.toNat config.baseFeeChangeDenominator.toNat
        let delta :=
          if denominator = 0 then current
          else
            -- at least `+1` above target, and clamped to `u64` before the cast
            let d := max (numerator / denominator) 1
            UInt64.ofNat (min d (2 ^ 64 - 1))
        RustInt.saturatingAdd current delta
      else
        let deficit := RustInt.saturatingSub target state.parentGasUsed
        let numerator := RustInt.saturatingMulU128 current.toNat deficit.toNat
        let denominator :=
          RustInt.saturatingMulU128 target.toNat config.baseFeeChangeDenominator.toNat
        let delta :=
          if denominator = 0 then 0
          else UInt64.ofNat (min (numerator / denominator) (2 ^ 64 - 1))
        RustInt.saturatingSub current delta
    clamp next config.minBaseFee config.maxBaseFee

/-- `calculate_transaction_fee`: every product and the sum saturate. -/
def calculateTransactionFee (baseFeePerCu priorityFeePerCu computeUnitsUsed : UInt64) :
    TransactionFee :=
  let baseFee := RustInt.saturatingMul baseFeePerCu computeUnitsUsed
  let priorityFee := RustInt.saturatingMul priorityFeePerCu computeUnitsUsed
  { baseFee, priorityFee, totalFee := RustInt.saturatingAdd baseFee priorityFee }

/-- `validate_transaction_fee`. -/
def validateTransactionFee (offeredLamports priorityFeePerCu baseFeePerCu requestedCu : UInt64)
    (config : FeeMarketConfig) : Except FeeError TransactionFee :=
  if requestedCu > config.maxBlockComputeUnits then
    .error (.computeUnitsExceedMax requestedCu config.maxBlockComputeUnits)
  else if priorityFeePerCu < config.minPriorityFee then
    .error (.priorityFeeTooLow priorityFeePerCu config.minPriorityFee)
  else
    let fee := calculateTransactionFee baseFeePerCu priorityFeePerCu requestedCu
    if offeredLamports < fee.totalFee then
      .error (.insufficientFee offeredLamports fee.totalFee baseFeePerCu requestedCu)
    else .ok fee

/-- `validate_config`. -/
def validateConfig (config : FeeMarketConfig) : Except FeeError Unit :=
  if config.minBaseFee > config.maxBaseFee then
    .error (.invalidConfig ("min_base_fee (" ++ toString config.minBaseFee ++ ") > max_base_fee ("
      ++ toString config.maxBaseFee ++ ")"))
  else if config.baseFeeChangeDenominator = 0 then
    .error (.invalidConfig "base_fee_change_denominator must be > 0")
  else if config.targetUtilizationPct > 100 then
    .error (.invalidConfig ("target_utilization_pct (" ++ toString config.targetUtilizationPct ++
      ") must be 0–100"))
  else .ok ()

end TRv1.FeeMarket
