import TRv1.Governance.Votes

/-!
# Which config decides a vote

A proposal does not record the config it was created under, and `ExecuteProposal` takes as its
config whatever active account of the program is at position `2`: the thresholds a proposal is
decided by are that account's (`tally_eq_ok_none`).

Anyone can initialise and activate a config of their own, with a pass threshold of one basis
point. Executed against such a config, a proposal that its own config rejects is accepted and
becomes `Timelocked` (`executeProposal_accepts_foreign_config`).
-/

set_option autoImplicit false

namespace TRv1.Governance

open TRv1.Runtime StateExcept

/-! ## A proposal decided by another config

The proposal of `openingSchedule` gets `500_000` votes for, from `voter`, and `1_000_000`
against, from `opponent`: a third for, rejected by its config's pass threshold of `5_000` bps.
`mallory` initialises and activates a config of its own, with a pass threshold of `1` bp, and
once the vote is over executes the proposal against it. -/

/-- The voter against. -/
def opponent : Pubkey := ⟨38⟩

/-- The opponent's passive-stake position. -/
def opponentPosition : Pubkey := ⟨39⟩

/-- The account given as the opponent's vote record. -/
def opponentRecord : Pubkey := ⟨40⟩

/-- The author of the foreign config. -/
def mallory : Pubkey := ⟨41⟩

/-- The foreign config account. -/
def rogueConfig : Pubkey := ⟨42⟩

/-- The opponent's position: a 360-day lock of `2 × 10⁶` lamports, of power `10⁶`. -/
def opponentsLock : PassiveStake.PassiveStakeAccount :=
  { votersLock with authority := opponent, amount := 2000000 }

/-- `votingBank` with the opponent's wallet, position and record account, and `mallory`'s wallet
and an empty account of the program. -/
def contestBank : Bank :=
  { keys := votingBank.keys ++ [opponent, opponentPosition, opponentRecord, mallory, rogueConfig]
    accounts := votingBank.accounts ++
      [⟨0, [], ⟨0⟩⟩,
       ⟨3475520, PassiveStake.passiveStakeAccountDiscriminator :: opponentsLock.toBytes,
         PassiveStake.ID⟩,
       ⟨1000000000, [], ID⟩, ⟨0, [], ⟨0⟩⟩, ⟨1000000000, [], ID⟩]
    rent := exampleRent }

/-- The proposal, the two votes, and `mallory`'s config. -/
def contestSchedule : List (GovernanceInstruction × Invocation) :=
  openingSchedule ++
  [(.castVote 0 .for, castWith 5),
   (.castVote 0 .against,
     ⟨[⟨7, true, true⟩, ⟨3, false, true⟩, ⟨1, false, false⟩, ⟨8, false, false⟩,
       ⟨9, false, true⟩], epochZero⟩),
   (.initializeGovernance mallory 0 1 1 1 10000 0 mallory,
     ⟨[⟨10, true, true⟩, ⟨11, false, true⟩], epochZero⟩),
   (.activateGovernance, ⟨[⟨10, true, true⟩, ⟨11, false, true⟩], epochZero⟩)]

/-- `ExecuteProposal` of proposal `0` by `mallory` at epoch `10`, the end of the vote, with the
config at index `config` of the bank. -/
def executeWith (config : Nat) : Invocation :=
  ⟨[⟨10, true, true⟩, ⟨3, false, true⟩, ⟨config, false, true⟩], ⟨0, 10, 0⟩⟩

/-- The bank when the vote is over. -/
def contestedBank : Bank := Bank.replay ID entrypoint contestBank contestSchedule

/-- The bank after the execution against `mallory`'s config. -/
def timelockedBank : Bank :=
  Bank.replay ID entrypoint contestedBank [(.executeProposal 0, executeWith 11)]

/-- From a run of the program: the proposal created under the config at index `1` (the only
config that issued an id) has a third of its decisive votes for, and executing it with that
config fails with `PassThresholdNotMet`; executed with `mallory`'s config, it is accepted and
becomes `Timelocked`. -/
theorem executeProposal_accepts_foreign_config :
    Bank.Reachable ID entrypoint contestBank contestedBank ∧
      (configAt contestedBank.accounts 1).map
        (fun c => (c.isActive, c.passThresholdBps, c.nextProposalId)) = some (true, 5000, 1) ∧
      (configAt contestedBank.accounts 11).map
        (fun c => (c.authority, c.isActive, c.passThresholdBps, c.nextProposalId)) =
        some (mallory, true, 1, 0) ∧
      (proposalAt contestedBank.accounts 3).map
        (fun p => (p.id, p.status, p.votesFor, p.votesAgainst, p.votesAbstain, p.vetoVotes)) =
        some (0, .active, 500000, 1000000, 0, 0) ∧
      contestedBank.invoke ID (entrypoint (.executeProposal 0)) (executeWith 1) =
        .error GovernanceError.passThresholdNotMet.into ∧
      contestedBank.invoke ID (entrypoint (.executeProposal 0)) (executeWith 11) =
        .ok timelockedBank ∧
      (proposalAt timelockedBank.accounts 3).map (·.status) = some .timelocked := by
  refine ⟨Bank.reachable_replay ID entrypoint contestBank contestSchedule, ?_, ?_, ?_,
    Bank.invoke_eq_error (by decide +kernel), Bank.invoke_eq_ok_replay ID entrypoint
    (by decide +kernel), ?_⟩
  all_goals decide +kernel

end TRv1.Governance
