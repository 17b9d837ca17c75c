import Mathlib
import TRv1.Sdk.Keys

/-!
# Messages, blocks and the per-height state of the BFT engine

The data of `consensus-bft/src/types.rs`: the three consensus messages, the proposed and the
committed block, the step of a round with the order `step_ord` gives it in `engine.rs`, and
`ConsensusState` with the two vote maps and the Tendermint lock variables.

A vote map (`HashMap<Pubkey, Option<Hash>>` in the source) is an association list with
distinct keys (`VoteMap`); inserting a voter replaces its earlier vote. `HashMap` iterates
in an unspecified order, and the model iterates the association list front to back (most
recent insertion first): the engine's results depend on the order only where two different
hashes both reach a quorum.

`ProposedBlock.hash` serialises the block's fields exactly as the source does and passes them
to the SHA-256 `hashv`, which is not part of this repository: it is the parameter `hashv`
of every definition that hashes a block.
-/

set_option autoImplicit false

namespace TRv1.ConsensusBft

/-- A block proposed by the leader of a round (`transactions` are left out: no modelled code
reads them, and the block hash does not cover them). -/
structure ProposedBlock where
  parentHash : Hash
  height : UInt64
  timestamp : Int64
  stateRoot : Hash
  proposer : Pubkey
  deriving DecidableEq, Repr

/-- `ProposedBlock::hash`: `hashv` over the parent hash, the little-endian height and
timestamp, the state root and the proposer, in this order. -/
def ProposedBlock.hash (hashv : List (List UInt8) → Hash) (b : ProposedBlock) : Hash :=
  hashv [b.parentHash.toBytes, LittleEndian.encode 8 b.height.toNat,
    LittleEndian.encode 8 b.timestamp.toUInt64.toNat, b.stateRoot.toBytes, b.proposer.toBytes]

/-- Messages exchanged between validators during consensus rounds; `blockHash = none` is a
nil vote. -/
inductive ConsensusMessage where
  | proposal (height : UInt64) (round : UInt32) (block : ProposedBlock) (proposer : Pubkey)
      (signature : Signature) (validRound : Option UInt32)
  | prevote (height : UInt64) (round : UInt32) (blockHash : Option Hash) (voter : Pubkey)
      (signature : Signature)
  | precommit (height : UInt64) (round : UInt32) (blockHash : Option Hash) (voter : Pubkey)
      (signature : Signature)
  deriving DecidableEq, Repr

namespace ConsensusMessage

/-- The height the message belongs to. -/
def height : ConsensusMessage → UInt64
  | proposal h .. | prevote h .. | precommit h .. => h

/-- The round the message belongs to. -/
def round : ConsensusMessage → UInt32
  | proposal _ r .. | prevote _ r .. | precommit _ r .. => r

/-- The proposer of a proposal, the voter of a vote. -/
def sender : ConsensusMessage → Pubkey
  | proposal _ _ _ p .. => p
  | prevote _ _ _ v _ | precommit _ _ _ v _ => v

end ConsensusMessage

/-- A block committed by a quorum of precommits. -/
structure CommittedBlock where
  block : ProposedBlock
  commitSignatures : List (Pubkey × Signature)
  commitRound : UInt32
  deriving DecidableEq, Repr

/-- The step within a round. -/
inductive ConsensusStep where
  | newRound
  | propose
  | prevote
  | precommit
  | commit
  deriving DecidableEq, Repr

namespace ConsensusStep

/-- The rank `step_ord` gives a step; `Ord for ConsensusStep` compares these ranks. -/
def stepOrd : ConsensusStep → Nat
  | newRound => 0
  | propose => 1
  | prevote => 2
  | precommit => 3
  | commit => 4

instance : LE ConsensusStep := ⟨fun a b => a.stepOrd ≤ b.stepOrd⟩

instance : LT ConsensusStep := ⟨fun a b => a.stepOrd < b.stepOrd⟩

instance (a b : ConsensusStep) : Decidable (a ≤ b) := inferInstanceAs (Decidable (_ ≤ _))

instance (a b : ConsensusStep) : Decidable (a < b) := inferInstanceAs (Decidable (_ < _))

end ConsensusStep

/-- Votes of one kind for the current round: voter to voted hash (`none` for nil). -/
abbrev VoteMap := AList (fun _ : Pubkey => Option Hash)

/-- The state of the engine for the height being decided. -/
structure ConsensusState where
  height : UInt64
  round : UInt32
  step : ConsensusStep
  lockedValue : Option Hash
  lockedRound : Option UInt32
  validValue : Option Hash
  validRound : Option UInt32
  prevotes : VoteMap
  precommits : VoteMap
  proposal : Option ProposedBlock

namespace ConsensusState

/-- `ConsensusState::new`: round 0, no lock, no votes, no proposal. -/
def new (height : UInt64) : ConsensusState where
  height := height
  round := 0
  step := .newRound
  lockedValue := none
  lockedRound := none
  validValue := none
  validRound := none
  prevotes := ∅
  precommits := ∅
  proposal := none

/-- `advance_round`: move to `newRound`, clearing the votes and the proposal and keeping the
lock and the valid value. -/
def advanceRound (s : ConsensusState) (newRound : UInt32) : ConsensusState :=
  { s with round := newRound, step := .newRound, prevotes := ∅, precommits := ∅,
           proposal := none }

end ConsensusState

end TRv1.ConsensusBft
