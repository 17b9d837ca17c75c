import TRv1.PassiveStake.State
import TRv1.Runtime.Bank

/-!
# The passive-stake processor

One definition per handler of `processor.rs`, each a run of `Exec` over the transaction's
accounts, following the source line by line: the same checks in the same order with the same
errors, the same borrowed-account operations, and the same arithmetic (`checked_*` on `u64`,
`i64` and `u128`, and the saturating conversion of the new rewards to `u64`).

`id()` is the key the runtime invokes the program under, `ic.programId`; the instruction is
taken decoded (`limited_deserialize` of the bincode data is not modelled). The clock sysvar is
always present in a bank, so `get_clock` does not fail.
-/

set_option autoImplicit false

namespace TRv1.PassiveStake

open TRv1.Runtime

/-- `declare_id!("Pass1veStake1111111111111111111111111111111")`, by the number its 32 bytes
spell. -/
def ID : Pubkey :=
  ⟨2616846399261998376710883189263466614949024465495797315653017723790319157248⟩

/-- The instructions of the program, decoded. -/
inductive PassiveStakeInstruction where
  | initializePassiveStake (lockDays amount : UInt64)
  | claimRewards
  | unlock
  | earlyUnlock
  | calculateEpochRewards (currentEpoch validatorRewardRate : UInt64)
  deriving DecidableEq, Repr

section Processor

variable {n : Nat} (ic : InstructionContext)

/-- Fail with a program error. -/
def fail {α : Type} (e : PassiveStakeError) : Exec n α := throw e.into

/-- A computation that needs no account, its error becoming the instruction's (`?`). -/
def liftResult {α : Type} (x : Except PassiveStakeError α) : Exec n α :=
  liftExcept PassiveStakeError.into x

/-- `if c { return Err(e.into()) }`: the guard every handler is made of. -/
def rejectIf (c : Bool) (e : PassiveStakeError) : Exec n Unit := failIf c e.into

/-- Take the value of an option, or fail with a program error (`ok_or(e)?`). -/
def required {α : Type} (e : PassiveStakeError) (o : Option α) : Exec n α :=
  requireSome PassiveStakeError.into e o

/-- `PassiveStakeAccount::deserialize(&data).map_err(|_| InvalidAccountData)?`. -/
def loadState (data : List UInt8) : Exec n PassiveStakeAccount :=
  required .invalidAccountData (PassiveStakeAccount.deserialize data)

/-- `state.serialize_into(&mut buf).map_err(|_| InvalidAccountData)?` followed by
`set_data_from_slice(&buf)` on instruction account `i`. -/
def storeState (i : Nat) (state : PassiveStakeAccount) (buf : List UInt8) : Exec n Unit := do
  let data ← required .invalidAccountData (state.serializeInto buf)
  ic.setDataFromSlice i data

/-- The signer check and the key of instruction account `0` that every handler but
`CalculateEpochRewards` starts with. -/
def authorityKey : Exec n Pubkey := do
  let isSigner ← ic.isInstructionAccountSigner 0
  rejectIf (!isSigner) .missingAuthoritySignature
  ic.getKeyOfInstructionAccount 0

/-- The end of a lock that starts at `now` (`0` for no lock and for a permanent one): `now` plus
`lock_days` days with checked `i64` arithmetic, `none` on overflow. -/
def lockEndFor (lockDays : UInt64) (now : Int64) : Option Int64 :=
  if lockDays == permanentLockDays then some 0
  else if lockDays == tierNoLock then some 0
  else (RustInt.checkedMulI64 lockDays.toInt64 secondsPerDay).bind fun durationSecs =>
    RustInt.checkedAddI64 now durationSecs

/-- The position `InitializePassiveStake` writes, from the clock: the lock end and the vote
weight of the tier, no rewards, and the current epoch as the last rewarded one. -/
def newPosition (authority : Pubkey) (lockDays amount : UInt64) (clock : Clock) :
    Except PassiveStakeError PassiveStakeAccount := do
  let lockEnd ← okOr .arithmeticOverflow (lockEndFor lockDays clock.unixTimestamp)
  let voteWeight ← okOr .invalidLockTier (voteWeightBpsForTier lockDays)
  pure { authority := authority, amount := amount, lockDays := lockDays,
         lockStart := clock.unixTimestamp, lockEnd := lockEnd, unclaimedRewards := 0,
         lastRewardEpoch := clock.epoch, isPermanent := lockDays == permanentLockDays,
         voteWeightBps := voteWeight }

/-- `process_initialize_passive_stake`. -/
def processInitializePassiveStake (lockDays amount : UInt64) : Exec n Unit := do
  rejectIf (!isValidTier lockDays) .invalidLockTier
  rejectIf (amount == 0) .zeroStakeAmount
  ic.checkNumberOfInstructionAccounts 2
  let authorityPubkey ← authorityKey ic
  let stakeAccount ← ic.borrowAccount 1
  rejectIf (stakeAccount.owner != ic.programId) .invalidAccountOwner
  rejectIf (stakeAccount.data.head? == some passiveStakeAccountDiscriminator)
    .accountAlreadyInitialized
  let authorityAccount ← ic.borrowAccount 0
  rejectIf (decide (authorityAccount.lamports < amount)) .insufficientLamports
  ic.checkedSubLamports 0 amount
  ic.checkedAddLamports 1 amount
  let state ← liftResult (newPosition authorityPubkey lockDays amount ic.clock)
  let stakeAccount ← ic.borrowAccount 1
  -- a buffer shorter than the layout is zero-extended first
  let data := stakeAccount.data ++
    List.replicate (PassiveStakeAccount.serializedSize - stakeAccount.data.length) 0
  storeState ic 1 state data

/-- `process_claim_rewards`: the "rewards pool" is whatever account is at position `2`. -/
def processClaimRewards : Exec n Unit := do
  ic.checkNumberOfInstructionAccounts 3
  let authorityPubkey ← authorityKey ic
  let stakeAccount ← ic.borrowAccount 1
  rejectIf (stakeAccount.owner != ic.programId) .invalidAccountOwner
  let state ← loadState stakeAccount.data
  rejectIf (state.authority != authorityPubkey) .missingAuthoritySignature
  rejectIf (state.unclaimedRewards == 0) .noRewardsToClaim
  let rewardsToClaim := state.unclaimedRewards
  storeState ic 1 { state with unclaimedRewards := 0 } stakeAccount.data
  let poolAccount ← ic.borrowAccount 2
  rejectIf (decide (poolAccount.lamports < rewardsToClaim)) .insufficientLamports
  ic.checkedSubLamports 2 rewardsToClaim
  ic.checkedAddLamports 0 rewardsToClaim

/-- The checks `Unlock` and `EarlyUnlock` share: the stake account at position `1` is the
program's, holds a position of the signer at position `0`, and is not permanent. -/
def loadUnlockable : Exec n (Account × PassiveStakeAccount) := do
  ic.checkNumberOfInstructionAccounts 2
  let authorityPubkey ← authorityKey ic
  let stakeAccount ← ic.borrowAccount 1
  rejectIf (stakeAccount.owner != ic.programId) .invalidAccountOwner
  let state ← loadState stakeAccount.data
  rejectIf (state.authority != authorityPubkey) .missingAuthoritySignature
  rejectIf state.isPermanent .earlyUnlockNotAllowed
  pure (stakeAccount, state)

/-- Zero the stake account's data, take all its lamports, and credit `credit` to the
authority: the end of both unlocks. -/
def closePosition (stakeAccount : Account) (credit : UInt64) : Exec n Unit := do
  ic.setDataFromSlice 1 (List.replicate stakeAccount.data.length 0)
  let remaining := (← ic.borrowAccount 1).lamports
  ic.checkedSubLamports 1 remaining
  ic.checkedAddLamports 0 credit

/-- `process_unlock`: after the lock, the whole balance leaves the stake account and the
principal is credited. -/
def processUnlock : Exec n Unit := do
  let (stakeAccount, state) ← loadUnlockable ic
  -- the clock is read only for a timed lock; reading it cannot fail
  rejectIf (state.lockDays != tierNoLock && decide (ic.clock.unixTimestamp < state.lockEnd))
    .lockNotExpired
  closePosition ic stakeAccount state.amount

/-- What an early unlock returns: the principal less `amount * penalty_bps / 10_000`, with
checked `u64` arithmetic. -/
def earlyUnlockReturn (state : PassiveStakeAccount) : Except PassiveStakeError UInt64 := do
  let penaltyBps ← okOr .invalidLockTier (earlyUnlockPenaltyBpsForTier state.lockDays)
  let penalty ← okOr .arithmeticOverflow
    ((RustInt.checkedMul state.amount penaltyBps).bind fun p => RustInt.checkedDiv p bpsDenominator)
  okOr .arithmeticOverflow (RustInt.checkedSub state.amount penalty)

/-- `process_early_unlock`: the whole balance leaves the stake account and the principal less
the penalty is credited; the penalty is meant to be burned. -/
def processEarlyUnlock : Exec n Unit := do
  let (stakeAccount, state) ← loadUnlockable ic
  let returnAmount ← liftResult (earlyUnlockReturn state)
  closePosition ic stakeAccount returnAmount

/-- `amount * validator_rate * tier_rate / (10_000 * 10_000 * 365)` on `u128`, each step
checked. -/
def rewardPerEpoch (amount validatorRewardRate tierRateBps : UInt64) : Option Nat := do
  let denom ← (RustInt.checkedMulU128 10000 10000).bind fun d => RustInt.checkedMulU128 d 365
  let p ← RustInt.checkedMulU128 amount.toNat validatorRewardRate.toNat
  let p ← RustInt.checkedMulU128 p tierRateBps.toNat
  RustInt.checkedDivU128 p denom

/-- The position after crediting the epochs since `last_reward_epoch` at the given validator
rate: the arithmetic of `process_calculate_epoch_rewards`, the total saturating to `u64`. -/
def accrueRewards (state : PassiveStakeAccount) (currentEpoch validatorRewardRate : UInt64) :
    Except PassiveStakeError PassiveStakeAccount := do
  let epochsElapsed ← okOr .arithmeticOverflow
    (RustInt.checkedSub currentEpoch state.lastRewardEpoch)
  let tierRateBps ← okOr .invalidLockTier (rewardRateBpsForTier state.lockDays)
  let perEpoch ← okOr .arithmeticOverflow
    (rewardPerEpoch state.amount validatorRewardRate tierRateBps)
  let totalNewRewards ← okOr .arithmeticOverflow
    (RustInt.checkedMulU128 perEpoch epochsElapsed.toNat)
  let totalNewRewardsU64 := (RustInt.tryIntoU64 totalNewRewards).getD RustInt.u64Max
  let unclaimed ← okOr .arithmeticOverflow
    (RustInt.checkedAdd state.unclaimedRewards totalNewRewardsU64)
  pure { state with unclaimedRewards := unclaimed, lastRewardEpoch := currentEpoch }

/-- `process_calculate_epoch_rewards`: any caller, any epoch and rate from the instruction
data; nothing happens for an epoch at or before the last one. -/
def processCalculateEpochRewards (currentEpoch validatorRewardRate : UInt64) : Exec n Unit := do
  ic.checkNumberOfInstructionAccounts 1
  let stakeAccount ← ic.borrowAccount 0
  rejectIf (stakeAccount.owner != ic.programId) .invalidAccountOwner
  let state ← loadState stakeAccount.data
  if currentEpoch ≤ state.lastRewardEpoch then pure ()
  else
    let state' ← liftResult (accrueRewards state currentEpoch validatorRewardRate)
    storeState ic 0 state' stakeAccount.data

/-- The entrypoint: dispatch on the decoded instruction. -/
def process : PassiveStakeInstruction → Exec n Unit
  | .initializePassiveStake lockDays amount => processInitializePassiveStake ic lockDays amount
  | .claimRewards => processClaimRewards ic
  | .unlock => processUnlock ic
  | .earlyUnlock => processEarlyUnlock ic
  | .calculateEpochRewards currentEpoch rate => processCalculateEpochRewards ic currentEpoch rate

end Processor

/-- `Entrypoint`: the program as the bank runs it. -/
def entrypoint (instr : PassiveStakeInstruction) : Program := fun _ ic => process ic instr

end TRv1.PassiveStake
