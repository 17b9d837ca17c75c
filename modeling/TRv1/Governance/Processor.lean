import TRv1.Governance.State
import TRv1.Runtime.Bank

/-!
# The governance processor

One definition per handler of `processor.rs`, each a run of `Exec` over the transaction's
accounts with the source's checks in the source's order and its errors. The helpers the
handlers share are single definitions here: `loadState` is `load_governance_config` and
`load_proposal` (they differ in the layout and in the error of bad data), `saveState` is
`save_governance_config`, `save_proposal` and the write of the vote record in `CastVote`, and
`requireUninitialized` is the owner-and-discriminator check that `InitializeGovernance`,
`CreateProposal` and `CastVote` make on the account they are about to write.

`ExecuteProposal` of an `Active` proposal writes the outcome of the vote (`tally`) and then
fails for every outcome but a pass; the runtime rolls the write back with the rest of the
instruction. `voting_power_from_passive_stake_data` reads a weight out of any account data at
fixed offsets; which account that is, and who owns it, is never checked.

`id()` is `ic.programId`; instructions are taken decoded (the bincode of the instruction data
is not modelled), and the log messages are left out.
-/

set_option autoImplicit false

namespace TRv1.Governance

open TRv1.Runtime

/-- `declare_id!("Governance1111111111111111111111111111111111")`, by the number its 32 bytes
spell. -/
def ID : Pubkey :=
  ⟨106245260549102260572642660490578278746181739989952819713344153751831749591040⟩

/-- The instructions of the program, decoded. -/
inductive GovernanceInstruction where
  | initializeGovernance (authority : Pubkey) (proposalThreshold votingPeriodEpochs : UInt64)
      (quorumBps passThresholdBps vetoThresholdBps : UInt16) (timelockEpochs : UInt64)
      (emergencyMultisig : Pubkey)
  | createProposal (title : List UInt8) (descriptionHash : Hash) (proposalType : ProposalType)
  | castVote (proposalId : UInt64) (vote : Vote)
  | executeProposal (proposalId : UInt64)
  | cancelProposal (proposalId : UInt64)
  | vetoProposal (proposalId : UInt64)
  | activateGovernance
  | updateConfig (proposalThreshold votingPeriodEpochs : UInt64)
      (quorumBps passThresholdBps vetoThresholdBps : UInt16) (timelockEpochs : UInt64)
      (emergencyMultisig : Pubkey)
  deriving DecidableEq, Repr

/-! ## Arithmetic of the handlers -/

/-- `voting_power_from_passive_stake_data`: at least 84 bytes starting with `1`, the `u64` at
offset `33` as the amount and the `u16` at offset `82` as the weight in bps; a zero weight is no
power, and the power is `amount * weight / 10_000` on `u128`, which must fit a `u64`. -/
def votingPowerFromPassiveStakeData (data : List UInt8) : Option (UInt64 × UInt64) :=
  if data.length < 84 then none
  else if data[0]? != some 1 then none
  else
    let amount := UInt64.ofNat (LittleEndian.decode ((data.drop 33).take 8))
    let weightBps := UInt16.ofNat (LittleEndian.decode ((data.drop 82).take 2))
    if weightBps == 0 then none
    else
      ((RustInt.checkedMulU128 amount.toNat weightBps.toNat).bind fun p =>
        RustInt.checkedDivU128 p bpsDenominator.toNat).bind fun power =>
      (RustInt.tryIntoU64 power).map fun powerU64 => (amount, powerU64)

/-- `total_votes`: the four tallies added with checked `u64` arithmetic. -/
def totalVotes (p : Proposal) : Option UInt64 :=
  ((RustInt.checkedAdd p.votesFor p.votesAgainst).bind fun t => RustInt.checkedAdd t p.votesAbstain)
    |>.bind fun t => RustInt.checkedAdd t p.vetoVotes

/-- `part * 10_000 / total` on `u128`: the share of `part` in `total`, in bps (`veto_pct`,
`for_pct`). -/
def bpsShare (part total : UInt64) : Option Nat :=
  (RustInt.checkedMulU128 part.toNat bpsDenominator.toNat).bind fun p =>
    RustInt.checkedDivU128 p total.toNat

/-- `effective_pass_threshold`: `8_000` bps for an `EmergencyUnlock`, the config's otherwise. -/
def effectivePassThreshold (proposal : Proposal) (config : GovernanceConfig) : UInt16 :=
  if proposal.isEmergencyUnlock then emergencyUnlockPassThresholdBps else config.passThresholdBps

/-- The vote `vote` of power `power` added to its tally, with checked `u64` arithmetic. -/
def applyVote (p : Proposal) (vote : Vote) (power : UInt64) : Except GovernanceError Proposal :=
  match vote with
  | .for => do
    let v ← okOr .arithmeticOverflow (RustInt.checkedAdd p.votesFor power)
    pure { p with votesFor := v }
  | .against => do
    let v ← okOr .arithmeticOverflow (RustInt.checkedAdd p.votesAgainst power)
    pure { p with votesAgainst := v }
  | .abstain => do
    let v ← okOr .arithmeticOverflow (RustInt.checkedAdd p.votesAbstain power)
    pure { p with votesAbstain := v }
  | .veto => do
    let v ← okOr .arithmeticOverflow (RustInt.checkedAdd p.vetoVotes power)
    pure { p with vetoVotes := v }

/-- The outcome `ExecuteProposal` computes for a closed vote, under the config it is given: the
status it writes and the error it then returns, `none` for a pass. Arithmetic errors come
before any write. -/
def tally (config : GovernanceConfig) (p : Proposal) :
    Except GovernanceError (ProposalStatus × Option GovernanceError) := do
  let total ← okOr .arithmeticOverflow (totalVotes p)
  if total == 0 then pure (.expired, some .proposalExpired)
  else
    let vetoPct ← okOr .arithmeticOverflow (bpsShare p.vetoVotes total)
    if config.vetoThresholdBps.toNat ≤ vetoPct then pure (.vetoed, some .vetoThresholdReached)
    else
      let decisiveVotes ← okOr .arithmeticOverflow (RustInt.checkedAdd p.votesFor p.votesAgainst)
      let passThreshold := effectivePassThreshold p config
      if decisiveVotes == 0 then pure (.rejected, some .passThresholdNotMet)
      else
        let forPct ← okOr .arithmeticOverflow (bpsShare p.votesFor decisiveVotes)
        if forPct < passThreshold.toNat then pure (.rejected, some .passThresholdNotMet)
        else pure (.timelocked, none)

/-- A bps value outside `1..=10_000`. -/
def invalidBps (bps : UInt16) : Bool := bps == 0 || decide (10000 < bps)

/-- The title copied into a zero-padded `[u8; 64]`; the handler has checked its length. -/
def padTitle (title : List UInt8) : Vector UInt8 64 :=
  ⟨((title ++ List.replicate 64 0).take 64).toArray, by simp⟩

section Processor

variable {n : Nat} (ic : InstructionContext)

/-- Fail with a program error. -/
def fail {α : Type} (e : GovernanceError) : Exec n α := throw e.into

/-- A computation that needs no account, its error becoming the instruction's (`?`). -/
def liftResult {α : Type} (x : Except GovernanceError α) : Exec n α :=
  liftExcept GovernanceError.into x

/-- `if c { return Err(e.into()) }`. -/
def rejectIf (c : Bool) (e : GovernanceError) : Exec n Unit := failIf c e.into

/-- Take the value of an option, or fail with a program error (`ok_or(e)?`). -/
def required {α : Type} (e : GovernanceError) (o : Option α) : Exec n α :=
  requireSome GovernanceError.into e o

/-- The signer check on instruction account `0`. -/
def requireSigner : Exec n Unit := do
  let isSigner ← ic.isInstructionAccountSigner 0
  rejectIf (!isSigner) .missingAuthoritySignature

/-- The signer check on instruction account `0`, then its key. -/
def signerKey : Exec n Pubkey := do
  requireSigner ic
  ic.getKeyOfInstructionAccount 0

/-- Load the account at `i`: owned by the program, else `InvalidAccountOwner`; data that does not
deserialize is the error `e`. -/
def loadState {α : Type} (deserialize : List UInt8 → Option α) (e : GovernanceError) (i : Nat) :
    Exec n α := do
  let account ← ic.borrowAccount i
  rejectIf (account.owner != ic.programId) .invalidAccountOwner
  required e (deserialize account.data)

/-- `load_governance_config`. -/
def loadGovernanceConfig (i : Nat) : Exec n GovernanceConfig :=
  loadState ic GovernanceConfig.deserialize .notInitialized i

/-- `load_proposal`. -/
def loadProposal (i : Nat) : Exec n Proposal :=
  loadState ic Proposal.deserialize .invalidAccountData i

/-- Write a value into the account at `i`: zero-extend its data to `size`, serialize over the
front, and `set_data_from_slice`. -/
def saveState (serializeInto : List UInt8 → Option (List UInt8)) (size i : Nat) : Exec n Unit := do
  let account ← ic.borrowAccount i
  let data ← required .invalidAccountData (serializeInto (zeroExtend account.data size))
  ic.setDataFromSlice i data

/-- `save_governance_config`. -/
def saveGovernanceConfig (i : Nat) (config : GovernanceConfig) : Exec n Unit :=
  saveState ic config.serializeInto GovernanceConfig.serializedSize i

/-- `save_proposal`. -/
def saveProposal (i : Nat) (proposal : Proposal) : Exec n Unit :=
  saveState ic proposal.serializeInto Proposal.serializedSize i

/-- The account at `i` is the program's and does not start with the discriminator `disc`, else
the error `e`. -/
def requireUninitialized (i : Nat) (disc : UInt8) (e : GovernanceError) : Exec n Unit := do
  let account ← ic.borrowAccount i
  rejectIf (account.owner != ic.programId) .invalidAccountOwner
  rejectIf (account.data.head? == some disc) e

/-- The checks of the config values that `InitializeGovernance` and `UpdateConfig` make. -/
def checkConfigValues (quorumBps passThresholdBps vetoThresholdBps : UInt16)
    (votingPeriodEpochs : UInt64) : Exec n Unit := do
  rejectIf (invalidBps quorumBps) .invalidConfigValue
  rejectIf (invalidBps passThresholdBps) .invalidConfigValue
  rejectIf (invalidBps vetoThresholdBps) .invalidConfigValue
  rejectIf (votingPeriodEpochs == 0) .invalidConfigValue

/-- `process_initialize_governance`: anyone who signs can initialise any empty config account
of the program, naming any authority. -/
def processInitializeGovernance (authority : Pubkey) (proposalThreshold votingPeriodEpochs : UInt64)
    (quorumBps passThresholdBps vetoThresholdBps : UInt16) (timelockEpochs : UInt64)
    (emergencyMultisig : Pubkey) : Exec n Unit := do
  ic.checkNumberOfInstructionAccounts 2
  requireSigner ic
  checkConfigValues quorumBps passThresholdBps vetoThresholdBps votingPeriodEpochs
  requireUninitialized ic 1 governanceConfigDiscriminator .alreadyInitialized
  saveGovernanceConfig ic 1
    { isActive := false, authority := authority, proposalThreshold := proposalThreshold,
      votingPeriodEpochs := votingPeriodEpochs, quorumBps := quorumBps,
      passThresholdBps := passThresholdBps, vetoThresholdBps := vetoThresholdBps,
      timelockEpochs := timelockEpochs, emergencyMultisig := emergencyMultisig,
      nextProposalId := 0 }

/-- Who may propose: under active governance, whoever shows stake data of enough power at
position `3`; otherwise only the config's authority. -/
def checkProposer (config : GovernanceConfig) (proposer : Pubkey) : Exec n Unit :=
  if config.isActive then do
    ic.checkNumberOfInstructionAccounts 4
    let stakeAccount ← ic.borrowAccount 3
    let stake ← required .insufficientStakeForProposal
      (votingPowerFromPassiveStakeData stakeAccount.data)
    rejectIf (decide (stake.2 < config.proposalThreshold)) .insufficientStakeForProposal
  else
    rejectIf (proposer != config.authority) .multisigOnly

/-- `process_create_proposal`: the proposal takes the config's next id and its periods, and is
`Active` under active governance, `Timelocked` otherwise. -/
def processCreateProposal (titleVec : List UInt8) (descriptionHash : Hash)
    (proposalType : ProposalType) : Exec n Unit := do
  ic.checkNumberOfInstructionAccounts 3
  let proposer ← signerKey ic
  rejectIf (decide (maxTitleLen < titleVec.length)) .titleTooLong
  let config ← loadGovernanceConfig ic 1
  checkProposer ic config proposer
  requireUninitialized ic 2 proposalDiscriminator .alreadyInitialized
  let currentEpoch := ic.clock.epoch
  let nextProposalId ← required .arithmeticOverflow (RustInt.checkedAdd config.nextProposalId 1)
  let votingEndsEpoch ← required .arithmeticOverflow
    (RustInt.checkedAdd currentEpoch config.votingPeriodEpochs)
  let executionEpoch ← required .arithmeticOverflow
    (RustInt.checkedAdd votingEndsEpoch config.timelockEpochs)
  saveGovernanceConfig ic 1 { config with nextProposalId := nextProposalId }
  saveProposal ic 2
    { id := config.nextProposalId, proposer := proposer, title := padTitle titleVec,
      descriptionHash := descriptionHash, proposalType := proposalType,
      status := if config.isActive then .active else .timelocked, createdEpoch := currentEpoch,
      votingEndsEpoch := votingEndsEpoch, executionEpoch := executionEpoch, votesFor := 0,
      votesAgainst := 0, votesAbstain := 0, vetoVotes := 0, executed := false }

/-- `process_cast_vote`: the power comes from whatever data is at position `3`, and the only
guard against a second vote is that the account at position `4` is not yet a vote record. -/
def processCastVote (proposalId : UInt64) (vote : Vote) : Exec n Unit := do
  ic.checkNumberOfInstructionAccounts 5
  let voter ← signerKey ic
  let config ← loadGovernanceConfig ic 2
  rejectIf (!config.isActive) .governanceNotActive
  let proposal ← loadProposal ic 1
  rejectIf (proposal.id != proposalId) .invalidAccountData
  rejectIf (proposal.status != .active) .invalidProposalStatus
  rejectIf (decide (proposal.votingEndsEpoch ≤ ic.clock.epoch)) .votingPeriodEnded
  requireUninitialized ic 4 voteRecordDiscriminator .alreadyVoted
  let stakeAccount ← ic.borrowAccount 3
  let stake ← required .noVotingPower (votingPowerFromPassiveStakeData stakeAccount.data)
  rejectIf (stake.2 == 0) .noVotingPower
  let proposal' ← liftResult (applyVote proposal vote stake.2)
  saveProposal ic 1 proposal'
  let voteRecord : VoteRecord :=
    { proposalId := proposalId, voter := voter, vote := vote, weight := stake.2,
      votedEpoch := ic.clock.epoch }
  saveState ic voteRecord.serializeInto VoteRecord.serializedSize 4

/-- The end of the `Active` branch of `ExecuteProposal`: after the voting period, write the
outcome of the tally, then fail unless the proposal passed. -/
def settleVote (config : GovernanceConfig) (proposal : Proposal) : Exec n Unit := do
  rejectIf (decide (ic.clock.epoch < proposal.votingEndsEpoch)) .votingPeriodNotEnded
  let outcome ← liftResult (tally config proposal)
  saveProposal ic 1 { proposal with status := outcome.1 }
  match outcome.2 with
  | some e => fail e
  | none => pure ()

/-- The execution itself: mark the proposal executed (what it does on-chain is only logged). -/
def markExecuted (proposal : Proposal) : Exec n Unit :=
  saveProposal ic 1 { proposal with status := .executed, executed := true }

/-- `process_execute_proposal`: the config is whatever program account is at position `2`. -/
def processExecuteProposal (proposalId : UInt64) : Exec n Unit := do
  ic.checkNumberOfInstructionAccounts 3
  let executor ← signerKey ic
  let config ← loadGovernanceConfig ic 2
  let proposal ← loadProposal ic 1
  rejectIf (proposal.id != proposalId) .invalidAccountData
  rejectIf (!config.isActive && executor != config.authority) .multisigOnly
  rejectIf proposal.executed .proposalAlreadyExecuted
  if config.isActive then
    match proposal.status with
    | .active => settleVote ic config proposal
    | .passed | .timelocked => do
      rejectIf (decide (ic.clock.epoch < proposal.executionEpoch)) .timelockNotExpired
      markExecuted ic proposal
    | _ => fail .invalidProposalStatus
  else do
    rejectIf (proposal.status != .timelocked) .invalidProposalStatus
    rejectIf (decide (ic.clock.epoch < proposal.executionEpoch)) .timelockNotExpired
    markExecuted ic proposal

/-- `process_cancel_proposal`: the emergency multisig of the config at position `2`. -/
def processCancelProposal (proposalId : UInt64) : Exec n Unit := do
  ic.checkNumberOfInstructionAccounts 3
  let signer ← signerKey ic
  let config ← loadGovernanceConfig ic 2
  rejectIf (signer != config.emergencyMultisig) .notEmergencyMultisig
  let proposal ← loadProposal ic 1
  rejectIf (proposal.id != proposalId) .invalidAccountData
  rejectIf (match proposal.status with
    | .active | .passed | .timelocked => false
    | _ => true) .invalidProposalStatus
  saveProposal ic 1 { proposal with status := .cancelled }

/-- `process_veto_proposal`: anyone, once the veto share reaches the threshold of the config
at position `2`. -/
def processVetoProposal (proposalId : UInt64) : Exec n Unit := do
  ic.checkNumberOfInstructionAccounts 3
  requireSigner ic
  let config ← loadGovernanceConfig ic 2
  let proposal ← loadProposal ic 1
  rejectIf (proposal.id != proposalId) .invalidAccountData
  rejectIf (match proposal.status with
    | .active | .timelocked => false
    | _ => true) .invalidProposalStatus
  let total ← required .arithmeticOverflow (totalVotes proposal)
  rejectIf (total == 0) .vetoThresholdReached
  let vetoPct ← required .arithmeticOverflow (bpsShare proposal.vetoVotes total)
  rejectIf (decide (vetoPct < config.vetoThresholdBps.toNat)) .invalidProposalStatus
  saveProposal ic 1 { proposal with status := .vetoed }

/-- `process_activate_governance`: the config's authority, once. -/
def processActivateGovernance : Exec n Unit := do
  ic.checkNumberOfInstructionAccounts 2
  let signer ← signerKey ic
  let config ← loadGovernanceConfig ic 1
  rejectIf (signer != config.authority) .authorityMismatch
  rejectIf config.isActive .governanceAlreadyActive
  saveGovernanceConfig ic 1 { config with isActive := true }

/-- `process_update_config`: the config's authority, with the checks of initialisation. -/
def processUpdateConfig (proposalThreshold votingPeriodEpochs : UInt64)
    (quorumBps passThresholdBps vetoThresholdBps : UInt16) (timelockEpochs : UInt64)
    (emergencyMultisig : Pubkey) : Exec n Unit := do
  ic.checkNumberOfInstructionAccounts 2
  let signer ← signerKey ic
  let config ← loadGovernanceConfig ic 1
  rejectIf (signer != config.authority) .authorityMismatch
  checkConfigValues quorumBps passThresholdBps vetoThresholdBps votingPeriodEpochs
  saveGovernanceConfig ic 1
    { config with
      proposalThreshold := proposalThreshold, votingPeriodEpochs := votingPeriodEpochs,
      quorumBps := quorumBps, passThresholdBps := passThresholdBps,
      vetoThresholdBps := vetoThresholdBps, timelockEpochs := timelockEpochs,
      emergencyMultisig := emergencyMultisig }

/-- The entrypoint: dispatch on the decoded instruction. -/
def process : GovernanceInstruction → Exec n Unit
  | .initializeGovernance authority proposalThreshold votingPeriodEpochs quorumBps
      passThresholdBps vetoThresholdBps timelockEpochs emergencyMultisig =>
    processInitializeGovernance ic authority proposalThreshold votingPeriodEpochs quorumBps
      passThresholdBps vetoThresholdBps timelockEpochs emergencyMultisig
  | .createProposal title descriptionHash proposalType =>
    processCreateProposal ic title descriptionHash proposalType
  | .castVote proposalId vote => processCastVote ic proposalId vote
  | .executeProposal proposalId => processExecuteProposal ic proposalId
  | .cancelProposal proposalId => processCancelProposal ic proposalId
  | .vetoProposal proposalId => processVetoProposal ic proposalId
  | .activateGovernance => processActivateGovernance ic
  | .updateConfig proposalThreshold votingPeriodEpochs quorumBps passThresholdBps
      vetoThresholdBps timelockEpochs emergencyMultisig =>
    processUpdateConfig ic proposalThreshold votingPeriodEpochs quorumBps passThresholdBps
      vetoThresholdBps timelockEpochs emergencyMultisig

end Processor

/-- `Entrypoint`: the program as the bank runs it. -/
def entrypoint (instr : GovernanceInstruction) : Program := fun _ ic => process ic instr

end TRv1.Governance
