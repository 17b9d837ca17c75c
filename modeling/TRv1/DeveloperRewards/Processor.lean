import TRv1.DeveloperRewards.State
import TRv1.Runtime.Bank

/-!
# The developer-rewards processor

One definition per handler of `processor.rs`, with the source's checks in the source's order
and its errors. `deserializeConfig` and `deserializeTracker` are the two readers of account
data, `writeSerialized` the tail that `serialize_config` and `serialize_tracker` share: the
bytes must fit in the account's current data, which `set_data_from_slice` then replaces by
exactly those bytes. `UpdateRevenueRecipient` and `AddRevenueSplit` share the authority check
and the rewrite (`updateAsAuthority`); `validateSplits` is the loop of `AddRevenueSplit` over
the new splits.

No handler compares an account with a key it should be: `RegisterRevenueRecipient` reads the
upgrade authority from whatever account is at position `2`, the config account is not checked
against the PDA of `program_id` (which no handler reads), `ClaimDeveloperFees` pays the account
at position `3` and never consults `revenue_recipient` or the splits, and
`CreditDeveloperFees` needs no signer.

`id()` is `ic.programId`; instructions are taken decoded (the Borsh of the instruction data is
not modelled), and the log messages and compute units are left out.
-/

set_option autoImplicit false

namespace TRv1.DeveloperRewards

open TRv1.Runtime

/-- `declare_id!("DevRew11111111111111111111111111111111111111")`, by the number its 32 bytes
spell. -/
def ID : Pubkey :=
  ⟨85040365146825770857405413430797519015705414532468907888701242623629679656960⟩

/-- The instructions of the program, decoded. -/
inductive DeveloperRewardsInstruction where
  | registerRevenueRecipient (programId recipient : Pubkey)
  | updateRevenueRecipient (programId newRecipient : Pubkey)
  | addRevenueSplit (programId : Pubkey) (splits : List RevenueSplit)
  | claimDeveloperFees (programId : Pubkey)
  | creditDeveloperFees (programId : Pubkey) (amount computeUnitsConsumed : UInt64)
  deriving DecidableEq, Repr

/-- `deserialize_config`: empty data or a zero first byte is no config; otherwise the whole data
must be one (`try_from_slice`). -/
def deserializeConfig (data : List UInt8) : Except InstructionError ProgramRevenueConfig :=
  if data.isEmpty || data.headD 0 == 0 then .error DeveloperRewardsError.configNotFound.into
  else okOr .invalidAccountData (ProgramRevenueConfig.deserialize data)

/-- `deserialize_tracker`: empty or all-zero data is a fresh tracker of version `1`. -/
def deserializeTracker (data : List UInt8) : Except InstructionError EpochFeeTracker :=
  if data.isEmpty || data.all (· == 0) then .ok ⟨1, 0, 0⟩
  else okOr .invalidAccountData (EpochFeeTracker.deserialize data)

/-- The loop of `process_add_revenue_split` from one split on, with the running `total_bps`: a
zero share is an error, then the share is added (saturating `u32`), then a recipient that comes
again further on is an error. -/
def validateSplits : List RevenueSplit → UInt32 → Except DeveloperRewardsError UInt32
  | [], total => .ok total
  | s :: rest, total =>
    if s.shareBps == 0 then .error .zeroShareInSplit
    else
      let total := RustInt.saturatingAddU32 total s.shareBps.toUInt32
      if rest.any (fun other => s.recipient == other.recipient) then .error .duplicateRecipient
      else validateSplits rest total

/-- The epoch roll-over of a config: a new epoch starts its `epoch_fees_earned` from zero. -/
def ProgramRevenueConfig.rollOver (c : ProgramRevenueConfig) (epoch : UInt64) :
    ProgramRevenueConfig :=
  if c.lastEpoch != epoch then { c with epochFeesEarned := 0, lastEpoch := epoch } else c

/-- The epoch roll-over of the tracker. -/
def EpochFeeTracker.rollOver (t : EpochFeeTracker) (epoch : UInt64) : EpochFeeTracker :=
  if t.epoch != epoch then { t with epoch := epoch, totalDeveloperFees := 0 } else t

/-- The config `process_register` builds: active, without splits, nothing earned, eligible
`COOLDOWN_SLOTS` after the slot it is registered in. -/
def registeredConfig (programId recipient signer : Pubkey) (slot : UInt64) :
    ProgramRevenueConfig :=
  { version := 1, programId := programId, revenueRecipient := recipient,
    updateAuthority := signer, isActive := true, revenueSplits := [], totalFeesEarned := 0,
    epochFeesEarned := 0, lastEpoch := 0,
    eligibleAfterSlot := RustInt.saturatingAdd slot cooldownSlots, unclaimedFees := 0 }

/-- The config that `process_credit` writes: `projected_program` as the epoch's fees, and
`amount` added (saturating) to the total and to the unclaimed fees. -/
def ProgramRevenueConfig.credit (c : ProgramRevenueConfig) (amount : UInt64) :
    ProgramRevenueConfig :=
  { c with
    epochFeesEarned := RustInt.saturatingAdd c.epochFeesEarned amount
    totalFeesEarned := RustInt.saturatingAdd c.totalFeesEarned amount
    unclaimedFees := RustInt.saturatingAdd c.unclaimedFees amount }

@[simp] theorem ProgramRevenueConfig.unclaimedFees_credit (c : ProgramRevenueConfig)
    (amount : UInt64) :
    (c.credit amount).unclaimedFees = RustInt.saturatingAdd c.unclaimedFees amount :=
  rfl

@[simp] theorem ProgramRevenueConfig.revenueSplits_credit (c : ProgramRevenueConfig)
    (amount : UInt64) : (c.credit amount).revenueSplits = c.revenueSplits :=
  rfl

/-- The tracker that `process_credit` writes: `projected_total` as the epoch's fees. -/
def EpochFeeTracker.credit (t : EpochFeeTracker) (amount : UInt64) : EpochFeeTracker :=
  { t with totalDeveloperFees := RustInt.saturatingAdd t.totalDeveloperFees amount }

@[simp] theorem EpochFeeTracker.totalDeveloperFees_credit (t : EpochFeeTracker)
    (amount : UInt64) :
    (t.credit amount).totalDeveloperFees = RustInt.saturatingAdd t.totalDeveloperFees amount :=
  rfl

/-- `max_allowed`: `MAX_PROGRAM_FEE_SHARE_BPS` of the projected total, in `u128`
(`saturating_mul`, then `checked_div(..).unwrap_or(0)`), cast back with `as u64`. -/
def maxAllowed (projectedTotal : UInt64) : UInt64 :=
  UInt64.ofNat ((RustInt.checkedDivU128
    (RustInt.saturatingMulU128 projectedTotal.toNat maxProgramFeeShareBps.toNat)
    totalBps.toNat).getD 0)

section Processor

variable {n : Nat} (ic : InstructionContext)

/-- `if c { return Err(e.into()) }`. -/
def rejectIf (c : Bool) (e : DeveloperRewardsError) : Exec n Unit := failIf c e.into

/-- A reader of account data, its error being the instruction's (`?`). -/
def liftResult {α : Type} (x : Except InstructionError α) : Exec n α := liftExcept id x

/-- The signer check on instruction account `0`: the runtime's `MissingRequiredSignature`. -/
def requireSigner : Exec n Unit := do
  let isSigner ← ic.isInstructionAccountSigner 0
  failIf (!isSigner) .missingRequiredSignature

/-- The signer check on instruction account `0`, then its key. -/
def signerKey : Exec n Pubkey := do
  requireSigner ic
  ic.getKeyOfInstructionAccount 0

/-- What `serialize_config` and `serialize_tracker` do after `borsh::to_vec` (whose failure is
`InvalidAccountData`): the data of the account at `i` must be at least as long as the bytes,
and becomes them. -/
def writeSerialized (serialized : Option (List UInt8)) (i : Nat) : Exec n Unit := do
  let serialized ← requireSome id .invalidAccountData serialized
  let account ← ic.borrowAccount i
  rejectIf (decide (account.data.length < serialized.length)) .accountDataTooSmall
  ic.setDataFromSlice i serialized

/-- `serialize_config` into the config account at position `1`. -/
def serializeConfig (config : ProgramRevenueConfig) : Exec n Unit :=
  writeSerialized ic config.toVec 1

/-- `serialize_tracker` into the tracker account at position `2`. -/
def serializeTracker (tracker : EpochFeeTracker) : Exec n Unit :=
  writeSerialized ic (some tracker.toBytes) 2

/-- `process_register`: the config account must hold no config; the account at position `2` is
read as programdata, whose upgrade authority (byte `12` the `Some` tag, bytes `13..45` the key)
must be the signer. Neither account is checked against `program_id`. -/
def processRegister (programId recipient : Pubkey) : Exec n Unit := do
  let signer ← signerKey ic
  let configAccount ← ic.borrowAccount 1
  rejectIf (!configAccount.data.isEmpty && configAccount.data.headD 0 != 0) .configAlreadyExists
  let programdata ← ic.borrowAccount 2
  rejectIf (decide (programdata.data.length < 45)) .unauthorizedSigner
  rejectIf (programdata.data.getD 12 0 != 1) .unauthorizedSigner
  -- `try_into` of the 32-byte slice cannot fail
  rejectIf (Pubkey.ofBytes ((programdata.data.drop 13).take 32) != signer) .unauthorizedSigner
  serializeConfig ic (registeredConfig programId recipient signer ic.clock.slot)

/-- The part `process_update_recipient` and `process_add_revenue_split` share: the signer must
be the `update_authority` of the config at position `1`, which is rewritten by `update`. -/
def updateAsAuthority (update : ProgramRevenueConfig → ProgramRevenueConfig) : Exec n Unit := do
  let signer ← signerKey ic
  let configAccount ← ic.borrowAccount 1
  let config ← liftResult (deserializeConfig configAccount.data)
  rejectIf (config.updateAuthority != signer) .unauthorizedUpdateAuthority
  serializeConfig ic (update config)

/-- `process_update_recipient`. -/
def processUpdateRecipient (newRecipient : Pubkey) : Exec n Unit :=
  updateAsAuthority ic fun config => { config with revenueRecipient := newRecipient }

/-- `process_add_revenue_split`: the splits are validated before any account is read. -/
def processAddRevenueSplit (splits : List RevenueSplit) : Exec n Unit := do
  rejectIf (decide (maxSplitRecipients < splits.length)) .tooManySplitRecipients
  let totalBps' ← liftExcept DeveloperRewardsError.into (validateSplits splits 0)
  rejectIf (totalBps' != totalBps.toUInt32) .invalidSplitTotal
  updateAsAuthority ic fun config => { config with revenueSplits := splits }

/-- `process_claim`: any signer; the config's unclaimed fees are zeroed, then leave the pool at
position `2` for the account at position `3`. -/
def processClaim : Exec n Unit := do
  requireSigner ic
  let configAccount ← ic.borrowAccount 1
  let config ← liftResult (deserializeConfig configAccount.data)
  rejectIf (!config.isActive) .configNotActive
  rejectIf (config.unclaimedFees == 0) .noFeesToClaim
  let claimAmount := config.unclaimedFees
  serializeConfig ic { config with unclaimedFees := 0 }
  ic.transferLamports 2 3 claimAmount DeveloperRewardsError.insufficientPoolFunds.into

/-- `process_credit`: no signer; the cap compares the program's fees of the epoch, this credit
included, with `MAX_PROGRAM_FEE_SHARE_BPS` of all developer fees of the epoch, this credit
included. -/
def processCredit (amount computeUnitsConsumed : UInt64) : Exec n Unit := do
  rejectIf (decide (computeUnitsConsumed < minComputeUnitsThreshold)) .belowMinComputeUnits
  let configAccount ← ic.borrowAccount 1
  let config ← liftResult (deserializeConfig configAccount.data)
  rejectIf (!config.isActive) .configNotActive
  rejectIf (decide (ic.clock.slot < config.eligibleAfterSlot)) .cooldownNotElapsed
  let config := config.rollOver ic.clock.epoch
  let trackerAccount ← ic.borrowAccount 2
  let tracker ← liftResult (deserializeTracker trackerAccount.data)
  let tracker := tracker.rollOver ic.clock.epoch
  let projectedProgram := RustInt.saturatingAdd config.epochFeesEarned amount
  let projectedTotal := RustInt.saturatingAdd tracker.totalDeveloperFees amount
  rejectIf (decide (maxAllowed projectedTotal < projectedProgram)) .epochFeeCapExceeded
  serializeTracker ic (tracker.credit amount)
  serializeConfig ic (config.credit amount)

/-- The dispatch of `Entrypoint`; no handler reads its `program_id` argument but `Register`. -/
def process : DeveloperRewardsInstruction → Exec n Unit
  | .registerRevenueRecipient programId recipient => processRegister ic programId recipient
  | .updateRevenueRecipient _ newRecipient => processUpdateRecipient ic newRecipient
  | .addRevenueSplit _ splits => processAddRevenueSplit ic splits
  | .claimDeveloperFees _ => processClaim ic
  | .creditDeveloperFees _ amount computeUnitsConsumed =>
    processCredit ic amount computeUnitsConsumed

end Processor

/-- `Entrypoint`: the program as the bank runs it. -/
def entrypoint (instr : DeveloperRewardsInstruction) : Program := fun _ ic => process ic instr

end TRv1.DeveloperRewards
