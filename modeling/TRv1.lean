import TRv1.Lib.LittleEndian
import TRv1.Lib.Binary64
import TRv1.Lib.Binary64Error
import TRv1.Lib.RustInt
import TRv1.Lib.CumulativeScan
import TRv1.Lib.Borsh
import TRv1.Lib.StateExcept
import TRv1.Lib.Table
import TRv1.Sdk.Keys
import TRv1.Runtime.TransactionContext
import TRv1.Runtime.Bank
import TRv1.Runtime.Frame
import TRv1.PassiveStake.State
import TRv1.ConsensusBft.Types
import TRv1.ConsensusBft.ValidatorSet
import TRv1.ConsensusBft.ValidatorSetSpec
import TRv1.ConsensusBft.Proposer
import TRv1.ConsensusBft.Evidence
import TRv1.ConsensusBft.DoubleSign
import TRv1.ConsensusBft.Engine
import TRv1.ConsensusBft.Run
import TRv1.ConsensusBft.Network
import TRv1.ConsensusBft.Progress
import TRv1.ConsensusBft.Validity
import TRv1.PassiveStake.Processor
import TRv1.PassiveStake.Spec
import TRv1.PassiveStake.Rewards
import TRv1.PassiveStake.Lamports
import TRv1.PassiveStake.Accrual
import TRv1.Governance.State
import TRv1.Governance.Processor
import TRv1.Governance.Spec
import TRv1.Governance.Votes
import TRv1.Governance.Outcome
import TRv1.Governance.Lifecycle
import TRv1.Governance.VoteWeight
import TRv1.Treasury.State
import TRv1.Treasury.Processor
import TRv1.Treasury.Spec
import TRv1.DeveloperRewards.State
import TRv1.DeveloperRewards.Processor
import TRv1.DeveloperRewards.Spec
import TRv1.DeveloperRewards.Invariants
import TRv1.Votor.Common
import TRv1.Votor.VotePool
import TRv1.Votor.ParentReadyTracker
import TRv1.Votor.SlotStakeCounters
import TRv1.Votor.ConsensusPool
import TRv1.Votor.Spec
import TRv1.Votor.Pools
import TRv1.Votor.Counting
import TRv1.Votor.Notarization
import TRv1.Votor.SafeToNotar
import TRv1.Votor.ParentReadySteps
import TRv1.Votor.ParentReady
import TRv1.FeeMarket.Calculator
import TRv1.FeeMarket.Adjustment
import TRv1.Runtime.FeeIntegration
import TRv1.Runtime.ActiveSet
import TRv1.Runtime.Slashing
import TRv1.TransactionView.Bytes
import TRv1.TransactionView.Frame
import TRv1.TransactionView.Sanitize
import TRv1.TransactionView.Walk
import TRv1.TransactionView.Transaction
import TRv1.TransactionView.Iterators
import TRv1.TransactionView.Resolved
import TRv1.Runtime.FeeDistribution
