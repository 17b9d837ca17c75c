import TRv1.Votor.Common

/-!
# Vote pools

`vote_pool.rs` has two pools, one per slot and vote type. A `SimpleVotePool` keeps one vote per
validator and the sum of their stakes. A `DuplicateBlockVotePool` keeps, for each block id, the
votes for that block and the sum of their stakes, and lets a validator vote for up to
`maxEntriesPerPubkey` different blocks, once each. Both answer whether a validator has voted,
the second also whether it has voted for a given block. Sums are `saturating_add` on `u64`.

The `BTreeSet` and `BTreeMap` of the source are lists and partial functions; nothing here
iterates them.
-/

set_option autoImplicit false

namespace TRv1.Votor

/-- `SimpleVotePool`. -/
structure SimpleVotePool where
  votes : List VoteMessage
  totalStake : Stake
  prevVotedValidators : List Pubkey

namespace SimpleVotePool

/-- `SimpleVotePool::default`. -/
def empty : SimpleVotePool := ⟨[], 0, []⟩

/-- `add_vote`: a validator's first vote is kept and its stake added; the pool's new total is
returned. A second vote of the validator is refused. -/
def addVote (pool : SimpleVotePool) (validatorVoteKey : Pubkey) (validatorStake : Stake)
    (vote : VoteMessage) : SimpleVotePool × Option Stake :=
  if validatorVoteKey ∈ pool.prevVotedValidators then (pool, none)
  else
    let totalStake := RustInt.saturatingAdd pool.totalStake validatorStake
    (⟨pool.votes ++ [vote], totalStake, validatorVoteKey :: pool.prevVotedValidators⟩,
      some totalStake)

/-- `has_prev_validator_vote`. -/
def hasPrevValidatorVote (pool : SimpleVotePool) (validatorVoteKey : Pubkey) : Bool :=
  decide (validatorVoteKey ∈ pool.prevVotedValidators)

end SimpleVotePool

/-- `VoteEntry`: the votes for one block and the sum of their stakes. -/
structure VoteEntry where
  votes : List VoteMessage
  totalStakeByKey : Stake

/-- `VoteEntry::default`. -/
def VoteEntry.empty : VoteEntry := ⟨[], 0⟩

/-- `DuplicateBlockVotePool`; a pool allows at least one block per validator. -/
structure DuplicateBlockVotePool where
  maxEntriesPerPubkey : Nat
  voteEntries : Hash → Option VoteEntry
  prevVotedBlockIds : Pubkey → Option (List Hash)
  max_pos : 0 < maxEntriesPerPubkey

namespace DuplicateBlockVotePool

/-- `DuplicateBlockVotePool::new`. -/
def new (maxEntriesPerPubkey : Nat) (h : 0 < maxEntriesPerPubkey) : DuplicateBlockVotePool :=
  ⟨maxEntriesPerPubkey, fun _ => none, fun _ => none, h⟩

/-- `add_vote`: a validator's vote for a block it has not voted for, while it has voted for fewer
than `maxEntriesPerPubkey` blocks, is kept and its stake added to the block's entry, whose new
total is returned. The validator's set of blocks is created, empty, on any vote (`entry`,
`or_default`). Only votes with a block id come to this pool (`unwrap`). -/
def addVote (pool : DuplicateBlockVotePool) (validatorVoteKey : Pubkey)
    (validatorStake : Stake) (vote : VoteMessage) : DuplicateBlockVotePool × Option Stake :=
  match vote.vote.blockId with
  | none => (pool, none)
  | some blockId =>
    let prev := (pool.prevVotedBlockIds validatorVoteKey).getD []
    if blockId ∈ prev ∨ pool.maxEntriesPerPubkey ≤ prev.length then
      let prevVotedBlockIds := Function.update pool.prevVotedBlockIds validatorVoteKey (some prev)
      ({ pool with prevVotedBlockIds }, none)
    else
      let entry := (pool.voteEntries blockId).getD VoteEntry.empty
      let total := RustInt.saturatingAdd entry.totalStakeByKey validatorStake
      let prevVotedBlockIds :=
        Function.update pool.prevVotedBlockIds validatorVoteKey (some (prev ++ [blockId]))
      let voteEntries :=
        Function.update pool.voteEntries blockId (some ⟨entry.votes ++ [vote], total⟩)
      ({ pool with prevVotedBlockIds, voteEntries }, some total)

/-- `total_stake_by_block_id`. -/
def totalStakeByBlockId (pool : DuplicateBlockVotePool) (blockId : Hash) : Stake :=
  ((pool.voteEntries blockId).map (·.totalStakeByKey)).getD 0

/-- `votes`. -/
def votes (pool : DuplicateBlockVotePool) (blockId : Hash) : Option (List VoteMessage) :=
  (pool.voteEntries blockId).map (·.votes)

/-- `has_prev_validator_vote_for_block`. -/
def hasPrevValidatorVoteForBlock (pool : DuplicateBlockVotePool) (validatorVoteKey : Pubkey)
    (blockId : Hash) : Bool :=
  ((pool.prevVotedBlockIds validatorVoteKey).map fun vs => decide (blockId ∈ vs)).getD false

/-- `has_prev_validator_vote`. -/
def hasPrevValidatorVote (pool : DuplicateBlockVotePool) (validatorVoteKey : Pubkey) : Bool :=
  (pool.prevVotedBlockIds validatorVoteKey).isSome

end DuplicateBlockVotePool

/-- `VotePool`. -/
inductive VotePool where
  | simpleVotePool (pool : SimpleVotePool)
  | duplicateBlockVotePool (pool : DuplicateBlockVotePool)

/-- The `add_vote` of the pool's kind. -/
def VotePool.addVote (pool : VotePool) (validatorVoteKey : Pubkey) (validatorStake : Stake)
    (vote : VoteMessage) : VotePool × Option Stake :=
  match pool with
  | .simpleVotePool p =>
    let (p', r) := p.addVote validatorVoteKey validatorStake vote
    (.simpleVotePool p', r)
  | .duplicateBlockVotePool p =>
    let (p', r) := p.addVote validatorVoteKey validatorStake vote
    (.duplicateBlockVotePool p', r)

end TRv1.Votor
