import TRv1.FeeMarket.Adjustment

/-!
# The fee market in the bank

The bank keeps one `BlockFeeState` per slot (`trv1_fee_integration.rs`). A child bank takes its
state from the parent's with `update_base_fee_for_new_block`, which prices the child from the
parent's state at the default config; each batch of executed transactions adds its compute units
with `record_transaction_compute`; and `validate_trv1_fee` checks a transaction against the
current base fee. `FeeEvent` names these two updates and `run` replays a sequence of them.

## What this module delivers

- `newBank_ignores_parent_usage`: the fee of a child bank is read from the parent's base fee and
  the parent's `parent_gas_used`, which is the usage of the grandparent; the compute units the
  parent block itself records do not enter it.
- `validateTrv1Fee_of_le`: a transaction the bank accepts stays accepted at a lower base fee and
  with a larger offer.
-/

set_option autoImplicit false

namespace TRv1.Runtime.FeeIntegration

open TRv1.FeeMarket

/-- `update_base_fee_for_new_block`: the child's fee state, from the parent's. -/
def updateBaseFeeForNewBlock (parent : BlockFeeState) (slot : UInt64) : BlockFeeState :=
  parent.nextBlock (calculateNextBaseFee FeeMarketConfig.default parent) slot

/-- `record_transaction_compute`. -/
def recordTransactionCompute (state : BlockFeeState) (computeUnitsUsed : UInt64) :
    BlockFeeState :=
  (state.recordGas computeUnitsUsed).1

/-- `validate_trv1_fee`: the transaction against the bank's current base fee. -/
def validateTrv1Fee (state : BlockFeeState)
    (offeredLamports priorityFeePerCu requestedCu : UInt64) : Except FeeError TransactionFee :=
  validateTransactionFee offeredLamports priorityFeePerCu state.baseFeePerCu requestedCu
    FeeMarketConfig.default

/-- What changes a bank's fee state: a child bank created at a slot, or a batch of executed
transactions with their total compute units. -/
inductive FeeEvent
  | newBank (slot : UInt64)
  | executed (totalCu : UInt64)
  deriving DecidableEq, Repr

/-- One event; the bank records a batch only when it used compute units. -/
def step (state : BlockFeeState) : FeeEvent → BlockFeeState
  | .newBank slot => updateBaseFeeForNewBlock state slot
  | .executed totalCu => if totalCu > 0 then recordTransactionCompute state totalCu else state

/-- The fee state after a sequence of events. -/
def run (state : BlockFeeState) (events : List FeeEvent) : BlockFeeState :=
  events.foldl step state

@[simp] theorem run_nil (state : BlockFeeState) : run state [] = state := rfl

@[simp] theorem run_cons (state : BlockFeeState) (e : FeeEvent) (events : List FeeEvent) :
    run state (e :: events) = run (step state e) events := rfl

theorem run_append (state : BlockFeeState) (events events' : List FeeEvent) :
    run state (events ++ events') = run (run state events) events' := by
  rw [run, run, run, List.foldl_append]

/-! ## What an executed batch leaves alone -/

/-- An executed batch changes the running total only. -/
theorem step_executed (state : BlockFeeState) (totalCu : UInt64) :
    (step state (.executed totalCu)).baseFeePerCu = state.baseFeePerCu ∧
      (step state (.executed totalCu)).parentGasUsed = state.parentGasUsed := by
  dsimp only [step]
  split_ifs
  · exact ⟨rfl, rfl⟩
  · exact ⟨rfl, rfl⟩

/-- A run of executed batches keeps the base fee and the parent usage. -/
theorem run_executed (state : BlockFeeState) (cus : List UInt64) :
    (run state (cus.map .executed)).baseFeePerCu = state.baseFeePerCu ∧
      (run state (cus.map .executed)).parentGasUsed = state.parentGasUsed := by
  induction cus generalizing state with
  | nil => exact ⟨rfl, rfl⟩
  | cons cu rest ih =>
    obtain ⟨hfee, hgas⟩ := step_executed state cu
    rw [List.map_cons, run_cons]
    exact ⟨(ih _).1.trans hfee, (ih _).2.trans hgas⟩

/-! ## The usage the child's fee reads -/

/-- `calculate_next_base_fee` reads the base fee and the parent usage of the state only. -/
theorem calculateNextBaseFee_congr (config : FeeMarketConfig) {s s' : BlockFeeState}
    (hfee : s.baseFeePerCu = s'.baseFeePerCu) (hgas : s.parentGasUsed = s'.parentGasUsed) :
    calculateNextBaseFee config s = calculateNextBaseFee config s' := by
  unfold calculateNextBaseFee
  rw [hfee, hgas]

/-- The base fee of a child bank does not depend on the compute units its parent block records:
`update_base_fee_for_new_block` prices the child from the parent's `parent_gas_used`, the usage
of the grandparent, and `next_block` only hands the parent's own usage down to the child, to
price the grandchild. Whatever batches `cus` and `cus'` the parent executes, the child gets the
same base fee. -/
theorem newBank_ignores_parent_usage (parent : BlockFeeState) (cus cus' : List UInt64)
    (slot : UInt64) :
    (run parent (cus.map .executed ++ [.newBank slot])).baseFeePerCu =
      (run parent (cus'.map .executed ++ [.newBank slot])).baseFeePerCu := by
  obtain ⟨hfee, hgas⟩ := run_executed parent cus
  obtain ⟨hfee', hgas'⟩ := run_executed parent cus'
  rw [run_append, run_append]
  exact calculateNextBaseFee_congr FeeMarketConfig.default (hfee.trans hfee'.symm)
    (hgas.trans hgas'.symm)

/-! ## Accepting a transaction -/

theorem validateTransactionFee_eq_ok {offered priority base cu : UInt64}
    {config : FeeMarketConfig} {fee : TransactionFee} :
    validateTransactionFee offered priority base cu config = .ok fee ↔
      cu ≤ config.maxBlockComputeUnits ∧ config.minPriorityFee ≤ priority ∧
        (calculateTransactionFee base priority cu).totalFee ≤ offered ∧
        fee = calculateTransactionFee base priority cu := by
  unfold validateTransactionFee
  dsimp only
  split_ifs with hcu hpr hoff
  · simp only [false_iff, not_and]
    exact fun h => absurd h (UInt64.not_le.mpr hcu)
  · simp only [false_iff, not_and]
    exact fun _ h => absurd h (UInt64.not_le.mpr hpr)
  · simp only [false_iff, not_and]
    exact fun _ _ h => absurd h (UInt64.not_le.mpr hoff)
  · rw [Except.ok.injEq]
    exact ⟨fun h => ⟨UInt64.not_lt.mp hcu, UInt64.not_lt.mp hpr, UInt64.not_lt.mp hoff, h.symm⟩,
      fun h => h.2.2.2.symm⟩

theorem totalFee_toNat (base priority cu : UInt64) :
    (calculateTransactionFee base priority cu).totalFee.toNat =
      min (min (base.toNat * cu.toNat) (2 ^ 64 - 1) + min (priority.toNat * cu.toNat) (2 ^ 64 - 1))
        (2 ^ 64 - 1) := by
  simp only [calculateTransactionFee, RustInt.saturatingAdd_toNat, RustInt.saturatingMul_toNat]

/-- A lower base fee asks a lower total: the saturating products and sum are monotone. -/
theorem totalFee_mono {base base' : UInt64} (priority cu : UInt64) (h : base' ≤ base) :
    (calculateTransactionFee base' priority cu).totalFee ≤
      (calculateTransactionFee base priority cu).totalFee := by
  rw [UInt64.le_iff_toNat_le] at h ⊢
  rw [totalFee_toNat, totalFee_toNat]
  have := Nat.mul_le_mul_right cu.toNat h
  omega

/-- A transaction the bank accepts is also accepted at any lower base fee and with any larger
offer, with the same compute units and priority fee. -/
theorem validateTrv1Fee_of_le {state state' : BlockFeeState}
    {offered offered' priority cu : UInt64} {fee : TransactionFee}
    (hok : validateTrv1Fee state offered priority cu = .ok fee)
    (hfee : state'.baseFeePerCu ≤ state.baseFeePerCu) (hoff : offered ≤ offered') :
    ∃ fee', validateTrv1Fee state' offered' priority cu = .ok fee' := by
  obtain ⟨hcu, hpr, htot, -⟩ := validateTransactionFee_eq_ok.mp hok
  refine ⟨_, validateTransactionFee_eq_ok.mpr ⟨hcu, hpr, ?_, rfl⟩⟩
  exact UInt64.le_trans (totalFee_mono priority cu hfee) (UInt64.le_trans htot hoff)

theorem accepted_at_lower_fee :
    ∃ fee', validateTrv1Fee (BlockFeeState.genesis 5000) 2000000000 10 200000 = .ok fee' :=
  validateTrv1Fee_of_le
    (show validateTrv1Fee (BlockFeeState.genesis 6000) 1500000000 10 200000 =
      .ok (calculateTransactionFee 6000 10 200000) from rfl) (by decide) (by decide)

end TRv1.Runtime.FeeIntegration
