import TRv1.Runtime.TransactionContext

/-!
# Governance accounts, their layouts and the program's errors

The three account types of `state.rs`, each behind its discriminator byte: `GovernanceConfig`
(`1`, 104 bytes), `Proposal` (`2`, written into accounts of 512 bytes) and `VoteRecord` (`3`,
58 bytes). The enums `ProposalType`, `ProposalStatus` and `Vote` are Borsh enums, a one-byte tag
then the variant's fields; fixed arrays (`title`, `memo`) are `Vector`s, so that a title of any
other length cannot be built. Every layout reads back what it writes, with whatever the
buffer held after it left as it was (`deserialize_serializeInto` in each namespace).

`GovernanceError` keeps its discriminants, which `InstructionError::Custom` carries.
-/

set_option autoImplicit false

namespace TRv1.Governance

open TRv1.Runtime

/-- `BPS_DENOMINATOR`. -/
def bpsDenominator : UInt64 := 10000

/-- `EMERGENCY_UNLOCK_PASS_THRESHOLD_BPS`: the supermajority an `EmergencyUnlock` needs. -/
def emergencyUnlockPassThresholdBps : UInt16 := 8000

/-- `MAX_TITLE_LEN`. -/
def maxTitleLen : Nat := 64

/-- `GovernanceError`, by discriminant. -/
inductive GovernanceError where
  | invalidAccountOwner
  | missingAuthoritySignature
  | authorityMismatch
  | alreadyInitialized
  | notInitialized
  | invalidAccountData
  | arithmeticOverflow
  | governanceNotActive
  | governanceAlreadyActive
  | insufficientStakeForProposal
  | invalidProposalStatus
  | votingPeriodNotEnded
  | votingPeriodEnded
  | timelockNotExpired
  | proposalAlreadyExecuted
  | quorumNotReached
  | passThresholdNotMet
  | vetoThresholdReached
  | notEmergencyMultisig
  | alreadyVoted
  | noVotingPower
  | invalidWeightProof
  | titleTooLong
  | tooManyActiveProposals
  | invalidConfigValue
  | multisigOnly
  | invalidProposalType
  | proposalExpired
  deriving DecidableEq, Repr

/-- The discriminant. -/
def GovernanceError.code : GovernanceError → UInt32
  | .invalidAccountOwner => 0
  | .missingAuthoritySignature => 1
  | .authorityMismatch => 2
  | .alreadyInitialized => 3
  | .notInitialized => 4
  | .invalidAccountData => 5
  | .arithmeticOverflow => 6
  | .governanceNotActive => 7
  | .governanceAlreadyActive => 8
  | .insufficientStakeForProposal => 9
  | .invalidProposalStatus => 10
  | .votingPeriodNotEnded => 11
  | .votingPeriodEnded => 12
  | .timelockNotExpired => 13
  | .proposalAlreadyExecuted => 14
  | .quorumNotReached => 15
  | .passThresholdNotMet => 16
  | .vetoThresholdReached => 17
  | .notEmergencyMultisig => 18
  | .alreadyVoted => 19
  | .noVotingPower => 20
  | .invalidWeightProof => 21
  | .titleTooLong => 22
  | .tooManyActiveProposals => 23
  | .invalidConfigValue => 24
  | .multisigOnly => 25
  | .invalidProposalType => 26
  | .proposalExpired => 27

/-- The conversion into `InstructionError` through `ToPrimitive`. -/
def GovernanceError.into (e : GovernanceError) : InstructionError := .custom e.code

/-- `GOVERNANCE_CONFIG_DISCRIMINATOR`. -/
def governanceConfigDiscriminator : UInt8 := 1

/-- `PROPOSAL_DISCRIMINATOR`. -/
def proposalDiscriminator : UInt8 := 2

/-- `VOTE_RECORD_DISCRIMINATOR`. -/
def voteRecordDiscriminator : UInt8 := 3

/-! ## The configuration -/

/-- `GovernanceConfig`: one account per governance, though nothing stops anyone from
initialising another. -/
structure GovernanceConfig where
  isActive : Bool
  authority : Pubkey
  proposalThreshold : UInt64
  votingPeriodEpochs : UInt64
  quorumBps : UInt16
  passThresholdBps : UInt16
  vetoThresholdBps : UInt16
  timelockEpochs : UInt64
  emergencyMultisig : Pubkey
  nextProposalId : UInt64
  deriving DecidableEq, Repr

namespace GovernanceConfig

/-- `SERIALIZED_SIZE`: the discriminator and 103 bytes of fields. -/
def serializedSize : Nat := 104

/-- The Borsh reader of the fields, in declaration order. -/
def reader : Borsh.Reader GovernanceConfig := do
  let isActive ← Borsh.bool
  let authority ← Pubkey.reader
  let proposalThreshold ← Borsh.u64
  let votingPeriodEpochs ← Borsh.u64
  let quorumBps ← Borsh.u16
  let passThresholdBps ← Borsh.u16
  let vetoThresholdBps ← Borsh.u16
  let timelockEpochs ← Borsh.u64
  let emergencyMultisig ← Pubkey.reader
  let nextProposalId ← Borsh.u64
  pure ⟨isActive, authority, proposalThreshold, votingPeriodEpochs, quorumBps, passThresholdBps,
    vetoThresholdBps, timelockEpochs, emergencyMultisig, nextProposalId⟩

/-- The Borsh bytes of the fields. -/
def toBytes (c : GovernanceConfig) : List UInt8 :=
  Borsh.boolBytes c.isActive ++ c.authority.toBytes ++ Borsh.uintBytes 8 c.proposalThreshold.toNat ++
    Borsh.uintBytes 8 c.votingPeriodEpochs.toNat ++ Borsh.uintBytes 2 c.quorumBps.toNat ++
    Borsh.uintBytes 2 c.passThresholdBps.toNat ++ Borsh.uintBytes 2 c.vetoThresholdBps.toNat ++
    Borsh.uintBytes 8 c.timelockEpochs.toNat ++ c.emergencyMultisig.toBytes ++
    Borsh.uintBytes 8 c.nextProposalId.toNat

@[simp] theorem length_toBytes (c : GovernanceConfig) : c.toBytes.length = 103 := by
  simp [toBytes]

theorem reader_append (c : GovernanceConfig) (rest : List UInt8) :
    reader (c.toBytes ++ rest) = some (c, rest) := by
  simp only [toBytes, List.append_assoc]
  rw [reader, Borsh.bind_of_eq_some (Borsh.bool_append _ _),
    Borsh.bind_of_eq_some (Pubkey.reader_append _ _), Borsh.bind_of_eq_some (Borsh.u64_append _ _),
    Borsh.bind_of_eq_some (Borsh.u64_append _ _), Borsh.bind_of_eq_some (Borsh.u16_append _ _),
    Borsh.bind_of_eq_some (Borsh.u16_append _ _), Borsh.bind_of_eq_some (Borsh.u16_append _ _),
    Borsh.bind_of_eq_some (Borsh.u64_append _ _), Borsh.bind_of_eq_some (Pubkey.reader_append _ _),
    Borsh.bind_of_eq_some (Borsh.u64_append _ _)]
  rfl

/-- `GovernanceConfig::deserialize`. -/
def deserialize (data : List UInt8) : Option GovernanceConfig :=
  Borsh.deserializeTagged governanceConfigDiscriminator reader data

/-- `GovernanceConfig::serialize_into`. -/
def serializeInto (c : GovernanceConfig) (data : List UInt8) : Option (List UInt8) :=
  Borsh.serializeTagged governanceConfigDiscriminator serializedSize c.toBytes data

theorem deserialize_serializeInto {c : GovernanceConfig} {data data' : List UInt8}
    (h : serializeInto c data = some data') : deserialize data' = some c :=
  Borsh.deserializeTagged_serializeTagged (reader_append c) h

end GovernanceConfig

/-! ## Proposals -/

/-- `ProposalType`: what a proposal does when executed. -/
inductive ProposalType where
  | parameterChange (paramId : UInt32) (newValue : UInt64)
  | treasurySpend (recipient : Pubkey) (amount : UInt64) (memo : Vector UInt8 32)
  | emergencyUnlock (targetAccount : Pubkey)
  | programUpgrade (programId bufferAccount : Pubkey)
  | featureToggle (featureId : UInt32) (enabled : Bool)
  | textProposal
  deriving DecidableEq, Repr

namespace ProposalType

/-- The fields of the variant with Borsh tag `tag`. -/
def variant : Nat → Borsh.Reader ProposalType
  | 0 => do
    let paramId ← Borsh.u32
    let newValue ← Borsh.u64
    pure (.parameterChange paramId newValue)
  | 1 => do
    let recipient ← Pubkey.reader
    let amount ← Borsh.u64
    let memo ← Borsh.array 32
    pure (.treasurySpend recipient amount memo)
  | 2 => do
    let targetAccount ← Pubkey.reader
    pure (.emergencyUnlock targetAccount)
  | 3 => do
    let programId ← Pubkey.reader
    let bufferAccount ← Pubkey.reader
    pure (.programUpgrade programId bufferAccount)
  | 4 => do
    let featureId ← Borsh.u32
    let enabled ← Borsh.bool
    pure (.featureToggle featureId enabled)
  | 5 => pure .textProposal
  | _ => Borsh.invalid

/-- The Borsh reader of a proposal type. -/
def reader : Borsh.Reader ProposalType := Borsh.enum variant

/-- The Borsh bytes of a proposal type: its tag, then its fields. -/
def toBytes : ProposalType → List UInt8
  | .parameterChange paramId newValue =>
    0 :: (Borsh.uintBytes 4 paramId.toNat ++ Borsh.uintBytes 8 newValue.toNat)
  | .treasurySpend recipient amount memo =>
    1 :: (recipient.toBytes ++ Borsh.uintBytes 8 amount.toNat ++ memo.toList)
  | .emergencyUnlock targetAccount => 2 :: targetAccount.toBytes
  | .programUpgrade programId bufferAccount => 3 :: (programId.toBytes ++ bufferAccount.toBytes)
  | .featureToggle featureId enabled =>
    4 :: (Borsh.uintBytes 4 featureId.toNat ++ Borsh.boolBytes enabled)
  | .textProposal => [5]

theorem reader_append (t : ProposalType) (rest : List UInt8) :
    reader (t.toBytes ++ rest) = some (t, rest) := by
  -- the tag selects the variant; its fields then read back one by one
  cases t with
  | parameterChange paramId newValue =>
    rw [toBytes, List.cons_append, List.append_assoc, reader, Borsh.enum_cons]
    show variant 0 _ = _
    rw [variant, Borsh.bind_of_eq_some (Borsh.u32_append _ _),
      Borsh.bind_of_eq_some (Borsh.u64_append _ _)]
    rfl
  | treasurySpend recipient amount memo =>
    rw [toBytes, List.cons_append, List.append_assoc, List.append_assoc, reader,
      Borsh.enum_cons]
    show variant 1 _ = _
    rw [variant, Borsh.bind_of_eq_some (Pubkey.reader_append _ _),
      Borsh.bind_of_eq_some (Borsh.u64_append _ _), Borsh.bind_of_eq_some (Borsh.array_append _ _)]
    rfl
  | emergencyUnlock targetAccount =>
    rw [toBytes, List.cons_append, reader, Borsh.enum_cons]
    show variant 2 _ = _
    rw [variant, Borsh.bind_of_eq_some (Pubkey.reader_append _ _)]
    rfl
  | programUpgrade programId bufferAccount =>
    rw [toBytes, List.cons_append, List.append_assoc, reader, Borsh.enum_cons]
    show variant 3 _ = _
    rw [variant, Borsh.bind_of_eq_some (Pubkey.reader_append _ _),
      Borsh.bind_of_eq_some (Pubkey.reader_append _ _)]
    rfl
  | featureToggle featureId enabled =>
    rw [toBytes, List.cons_append, List.append_assoc, reader, Borsh.enum_cons]
    show variant 4 _ = _
    rw [variant, Borsh.bind_of_eq_some (Borsh.u32_append _ _),
      Borsh.bind_of_eq_some (Borsh.bool_append _ _)]
    rfl
  | textProposal => rfl

end ProposalType

/-- `ProposalStatus`, with its explicit discriminants. -/
inductive ProposalStatus where
  | draft
  | active
  | passed
  | rejected
  | vetoed
  | timelocked
  | executed
  | cancelled
  | expired
  deriving DecidableEq, Repr

namespace ProposalStatus

/-- The discriminant. -/
def tag : ProposalStatus → UInt8
  | .draft => 0
  | .active => 1
  | .passed => 2
  | .rejected => 3
  | .vetoed => 4
  | .timelocked => 5
  | .executed => 6
  | .cancelled => 7
  | .expired => 8

/-- The status with discriminant `t`. -/
def variant : Nat → Borsh.Reader ProposalStatus
  | 0 => pure .draft
  | 1 => pure .active
  | 2 => pure .passed
  | 3 => pure .rejected
  | 4 => pure .vetoed
  | 5 => pure .timelocked
  | 6 => pure .executed
  | 7 => pure .cancelled
  | 8 => pure .expired
  | _ => Borsh.invalid

/-- The Borsh reader of a status. -/
def reader : Borsh.Reader ProposalStatus := Borsh.enum variant

theorem reader_append (s : ProposalStatus) (rest : List UInt8) :
    reader (s.tag :: rest) = some (s, rest) := by
  rw [reader, Borsh.enum_cons]
  cases s <;> rfl

end ProposalStatus

/-- `Vote`, with its explicit discriminants. -/
inductive Vote where
  | for
  | against
  | abstain
  | veto
  deriving DecidableEq, Repr

namespace Vote

/-- The discriminant. -/
def tag : Vote → UInt8
  | .for => 0
  | .against => 1
  | .abstain => 2
  | .veto => 3

/-- The vote with discriminant `t`. -/
def variant : Nat → Borsh.Reader Vote
  | 0 => pure .for
  | 1 => pure .against
  | 2 => pure .abstain
  | 3 => pure .veto
  | _ => Borsh.invalid

/-- The Borsh reader of a vote. -/
def reader : Borsh.Reader Vote := Borsh.enum variant

theorem reader_append (v : Vote) (rest : List UInt8) :
    reader (v.tag :: rest) = some (v, rest) := by
  rw [reader, Borsh.enum_cons]
  cases v <;> rfl

end Vote

/-- On-chain state of one proposal. -/
structure Proposal where
  id : UInt64
  proposer : Pubkey
  title : Vector UInt8 64
  descriptionHash : Hash
  proposalType : ProposalType
  status : ProposalStatus
  createdEpoch : UInt64
  votingEndsEpoch : UInt64
  executionEpoch : UInt64
  votesFor : UInt64
  votesAgainst : UInt64
  votesAbstain : UInt64
  vetoVotes : UInt64
  executed : Bool
  deriving DecidableEq, Repr

namespace Proposal

/-- `SERIALIZED_SIZE`: the size of a proposal account, more than any proposal's bytes. -/
def serializedSize : Nat := 512

/-- The Borsh reader of the fields, in declaration order. -/
def reader : Borsh.Reader Proposal := do
  let id ← Borsh.u64
  let proposer ← Pubkey.reader
  let title ← Borsh.array 64
  let descriptionHash ← Hash.reader
  let proposalType ← ProposalType.reader
  let status ← ProposalStatus.reader
  let createdEpoch ← Borsh.u64
  let votingEndsEpoch ← Borsh.u64
  let executionEpoch ← Borsh.u64
  let votesFor ← Borsh.u64
  let votesAgainst ← Borsh.u64
  let votesAbstain ← Borsh.u64
  let vetoVotes ← Borsh.u64
  let executed ← Borsh.bool
  pure ⟨id, proposer, title, descriptionHash, proposalType, status, createdEpoch, votingEndsEpoch,
    executionEpoch, votesFor, votesAgainst, votesAbstain, vetoVotes, executed⟩

/-- The Borsh bytes of the fields. -/
def toBytes (p : Proposal) : List UInt8 :=
  Borsh.uintBytes 8 p.id.toNat ++ p.proposer.toBytes ++ p.title.toList ++
    p.descriptionHash.toBytes ++ p.proposalType.toBytes ++ p.status.tag ::
    (Borsh.uintBytes 8 p.createdEpoch.toNat ++ Borsh.uintBytes 8 p.votingEndsEpoch.toNat ++
    Borsh.uintBytes 8 p.executionEpoch.toNat ++ Borsh.uintBytes 8 p.votesFor.toNat ++
    Borsh.uintBytes 8 p.votesAgainst.toNat ++ Borsh.uintBytes 8 p.votesAbstain.toNat ++
    Borsh.uintBytes 8 p.vetoVotes.toNat ++ Borsh.boolBytes p.executed)

theorem reader_append (p : Proposal) (rest : List UInt8) :
    reader (p.toBytes ++ rest) = some (p, rest) := by
  simp only [toBytes, List.append_assoc, List.cons_append]
  rw [reader, Borsh.bind_of_eq_some (Borsh.u64_append _ _),
    Borsh.bind_of_eq_some (Pubkey.reader_append _ _),
    Borsh.bind_of_eq_some (Borsh.array_append _ _),
    Borsh.bind_of_eq_some (Hash.reader_append _ _),
    Borsh.bind_of_eq_some (ProposalType.reader_append _ _),
    Borsh.bind_of_eq_some (ProposalStatus.reader_append _ _),
    Borsh.bind_of_eq_some (Borsh.u64_append _ _), Borsh.bind_of_eq_some (Borsh.u64_append _ _),
    Borsh.bind_of_eq_some (Borsh.u64_append _ _), Borsh.bind_of_eq_some (Borsh.u64_append _ _),
    Borsh.bind_of_eq_some (Borsh.u64_append _ _), Borsh.bind_of_eq_some (Borsh.u64_append _ _),
    Borsh.bind_of_eq_some (Borsh.u64_append _ _), Borsh.bind_of_eq_some (Borsh.bool_append _ _)]
  rfl

/-- `Proposal::deserialize`. -/
def deserialize (data : List UInt8) : Option Proposal :=
  Borsh.deserializeTagged proposalDiscriminator reader data

/-- `Proposal::serialize_into`. -/
def serializeInto (p : Proposal) (data : List UInt8) : Option (List UInt8) :=
  Borsh.serializeTagged proposalDiscriminator serializedSize p.toBytes data

theorem deserialize_serializeInto {p : Proposal} {data data' : List UInt8}
    (h : serializeInto p data = some data') : deserialize data' = some p :=
  Borsh.deserializeTagged_serializeTagged (reader_append p) h

/-- `is_emergency_unlock`. -/
def isEmergencyUnlock (p : Proposal) : Bool :=
  match p.proposalType with
  | .emergencyUnlock _ => true
  | _ => false

end Proposal

/-! ## Vote records -/

/-- `VoteRecord`: written by `CastVote` into the account it is given at position `4`. -/
structure VoteRecord where
  proposalId : UInt64
  voter : Pubkey
  vote : Vote
  weight : UInt64
  votedEpoch : UInt64
  deriving DecidableEq, Repr

namespace VoteRecord

/-- `SERIALIZED_SIZE`: the discriminator and 57 bytes of fields. -/
def serializedSize : Nat := 58

/-- The Borsh reader of the fields, in declaration order. -/
def reader : Borsh.Reader VoteRecord := do
  let proposalId ← Borsh.u64
  let voter ← Pubkey.reader
  let vote ← Vote.reader
  let weight ← Borsh.u64
  let votedEpoch ← Borsh.u64
  pure ⟨proposalId, voter, vote, weight, votedEpoch⟩

/-- The Borsh bytes of the fields. -/
def toBytes (r : VoteRecord) : List UInt8 :=
  Borsh.uintBytes 8 r.proposalId.toNat ++ r.voter.toBytes ++ r.vote.tag ::
    (Borsh.uintBytes 8 r.weight.toNat ++ Borsh.uintBytes 8 r.votedEpoch.toNat)

@[simp] theorem length_toBytes (r : VoteRecord) : r.toBytes.length = 57 := by
  simp [toBytes]

theorem reader_append (r : VoteRecord) (rest : List UInt8) :
    reader (r.toBytes ++ rest) = some (r, rest) := by
  simp only [toBytes, List.append_assoc, List.cons_append]
  rw [reader, Borsh.bind_of_eq_some (Borsh.u64_append _ _),
    Borsh.bind_of_eq_some (Pubkey.reader_append _ _),
    Borsh.bind_of_eq_some (Vote.reader_append _ _),
    Borsh.bind_of_eq_some (Borsh.u64_append _ _), Borsh.bind_of_eq_some (Borsh.u64_append _ _)]
  rfl

/-- `VoteRecord::deserialize`. -/
def deserialize (data : List UInt8) : Option VoteRecord :=
  Borsh.deserializeTagged voteRecordDiscriminator reader data

/-- `VoteRecord::serialize_into`. -/
def serializeInto (r : VoteRecord) (data : List UInt8) : Option (List UInt8) :=
  Borsh.serializeTagged voteRecordDiscriminator serializedSize r.toBytes data

theorem deserialize_serializeInto {r : VoteRecord} {data data' : List UInt8}
    (h : serializeInto r data = some data') : deserialize data' = some r :=
  Borsh.deserializeTagged_serializeTagged (reader_append r) h

end VoteRecord

end TRv1.Governance
