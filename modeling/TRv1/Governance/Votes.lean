import TRv1.Governance.Spec
import TRv1.PassiveStake.Rewards

/-!
# Where the votes of a proposal come from

`CastVote` adds to one tally of the proposal at position `1` the power it reads out of the data
of the account at position `3` (`applyVote_eq_ok`). On the bytes of a passive-stake
position that power is the position's `amount * vote_weight_bps / 10_000`
(`votingPowerFromPassiveStakeData_position`): the offsets of `vote_weight.rs` agree with the
layout of `state.rs` of the passive-stake program.

Nothing else ties the vote to the voter. The account at position `3` is read whoever owns it and
whatever authority it names, and the only guard against a second vote is that the account at
position `4` is not a vote record yet; it need not be derived from the proposal and the voter.
So one position votes as often as its holder supplies fresh accounts of the program: a voter
with a single position of power `500_000` casts two accepted votes and the proposal counts
`1_000_000` for (`castVote_counts_one_position_twice`).
-/

set_option autoImplicit false

namespace TRv1.Governance

open TRv1.Runtime StateExcept

/-! ## The tallies -/

/-- The tally a vote goes to. -/
def tallyOf (p : Proposal) : Vote → UInt64
  | .for => p.votesFor
  | .against => p.votesAgainst
  | .abstain => p.votesAbstain
  | .veto => p.vetoVotes

/-- The four tallies together, without overflow. -/
def totalTally (p : Proposal) : Nat :=
  p.votesFor.toNat + p.votesAgainst.toNat + p.votesAbstain.toNat + p.vetoVotes.toNat

/-- A vote raises the sum of the tallies by its power and leaves the rest of the proposal as it
was. -/
theorem applyVote_eq_ok {p p' : Proposal} {vote : Vote} {power : UInt64}
    (h : applyVote p vote power = .ok p') :
    totalTally p' = totalTally p + power.toNat ∧ p'.id = p.id ∧ p'.status = p.status ∧
      p'.votingEndsEpoch = p.votingEndsEpoch := by
  -- every vote is one checked addition to one tally
  cases vote
  all_goals
    obtain ⟨v, hv, hp'⟩ := except_bind_eq_ok h
    obtain rfl := except_pure_eq_ok hp'
    have hsum := (RustInt.checkedAdd_eq_some.mp (okOr_eq_ok hv)).2
    refine ⟨?_, rfl, rfl, rfl⟩
    simp only [totalTally]
    omega

/-! ## The power of a position -/

/-- Read on the bytes of a passive-stake position, `voting_power_from_passive_stake_data` finds
the position's amount and `amount * vote_weight_bps / 10_000`, whenever the weight is not zero and
the power fits a `u64`. -/
theorem votingPowerFromPassiveStakeData_position (st : PassiveStake.PassiveStakeAccount)
    (rest : List UInt8) (hweight : st.voteWeightBps ≠ 0)
    (hfit : st.amount.toNat * st.voteWeightBps.toNat / 10000 < 2 ^ 64) :
    votingPowerFromPassiveStakeData
        (PassiveStake.passiveStakeAccountDiscriminator :: st.toBytes ++ rest) =
      some (st.amount, UInt64.ofNat (st.amount.toNat * st.voteWeightBps.toNat / 10000)) := by
  -- the amount sits after the discriminator and the authority, the weight after every other field
  have hamount : (((PassiveStake.passiveStakeAccountDiscriminator :: st.toBytes ++ rest).drop
      33).take 8) = Borsh.uintBytes 8 st.amount.toNat := by
    simp only [PassiveStake.PassiveStakeAccount.toBytes, List.append_assoc, List.cons_append]
    rw [List.drop_succ_cons, List.drop_left' (Pubkey.length_toBytes _),
      List.take_left' (Borsh.length_uintBytes _ _)]
  have hweightBytes : (((PassiveStake.passiveStakeAccountDiscriminator :: st.toBytes ++ rest).drop
      82).take 2) = Borsh.uintBytes 2 st.voteWeightBps.toNat := by
    have hsplit : PassiveStake.passiveStakeAccountDiscriminator :: st.toBytes ++ rest =
        (PassiveStake.passiveStakeAccountDiscriminator :: (st.authority.toBytes ++
          Borsh.uintBytes 8 st.amount.toNat ++ Borsh.uintBytes 8 st.lockDays.toNat ++
          Borsh.uintBytes 8 st.lockStart.toUInt64.toNat ++
          Borsh.uintBytes 8 st.lockEnd.toUInt64.toNat ++
          Borsh.uintBytes 8 st.unclaimedRewards.toNat ++
          Borsh.uintBytes 8 st.lastRewardEpoch.toNat ++ Borsh.boolBytes st.isPermanent)) ++
        (Borsh.uintBytes 2 st.voteWeightBps.toNat ++ rest) := by
      simp only [PassiveStake.PassiveStakeAccount.toBytes, List.append_assoc, List.cons_append]
    rw [hsplit, List.drop_left' (by simp), List.take_left' (Borsh.length_uintBytes _ _)]
  have hlen :
      84 ≤ (PassiveStake.passiveStakeAccountDiscriminator :: st.toBytes ++ rest).length := by
    simp
  have hamountNat : LittleEndian.decode (Borsh.uintBytes 8 st.amount.toNat) = st.amount.toNat :=
    LittleEndian.decode_encode_of_lt st.amount.toNat_lt
  have hweightNat :
      LittleEndian.decode (Borsh.uintBytes 2 st.voteWeightBps.toNat) = st.voteWeightBps.toNat :=
    LittleEndian.decode_encode_of_lt st.voteWeightBps.toNat_lt
  have hmul : st.amount.toNat * st.voteWeightBps.toNat < 2 ^ 128 := by
    have ha := st.amount.toNat_lt
    have hw := st.voteWeightBps.toNat_lt
    calc st.amount.toNat * st.voteWeightBps.toNat < 2 ^ 64 * 2 ^ 16 := Nat.mul_lt_mul'' ha hw
      _ = 2 ^ 80 := by rw [← pow_add]
      _ ≤ 2 ^ 128 := Nat.pow_le_pow_right (by omega) (by omega)
  have hden : bpsDenominator.toNat = 10000 := rfl
  unfold votingPowerFromPassiveStakeData
  rw [if_neg (by omega), if_neg (by simp [PassiveStake.passiveStakeAccountDiscriminator]),
    hamount, hweightBytes, hamountNat, hweightNat, UInt64.ofNat_toNat, UInt16.ofNat_toNat,
    if_neg (by simpa using hweight)]
  -- the `u128` product cannot overflow, and the quotient fits a `u64` by hypothesis
  rw [RustInt.checkedMulU128, if_pos hmul, Option.bind_some, RustInt.checkedDivU128, hden,
    if_neg (by omega), Option.bind_some, RustInt.tryIntoU64, if_pos hfit, Option.map_some]

/-! ## One position, two votes

`voter` holds one passive-stake position, a 360-day lock of `10⁶` lamports and weight `5_000`,
so of power `500_000`; it is the only position in the bank. `govAdmin` initialises and activates
a config, `voter` proposes, then votes `For` twice, with `firstRecord` and then `secondRecord` at
position `4`: two empty accounts of the program. Every account with data holds at least the
rent-exempt minimum of what it will hold. -/

/-- The authority of the config. -/
def govAdmin : Pubkey := ⟨31⟩

/-- The config account. -/
def governanceConfig : Pubkey := ⟨32⟩

/-- The voter. -/
def voter : Pubkey := ⟨33⟩

/-- The proposal account. -/
def proposalAccount : Pubkey := ⟨34⟩

/-- The voter's passive-stake position. -/
def voterPosition : Pubkey := ⟨35⟩

/-- The account given as the vote record of the first vote. -/
def firstRecord : Pubkey := ⟨36⟩

/-- The account given as the vote record of the second vote. -/
def secondRecord : Pubkey := ⟨37⟩

/-- The voter's position: a 360-day lock of `10⁶` lamports. -/
def votersLock : PassiveStake.PassiveStakeAccount :=
  { authority := voter, amount := 1000000, lockDays := 360, lockStart := 0, lockEnd := 31104000,
    unclaimedRewards := 0, lastRewardEpoch := 0, isPermanent := false, voteWeightBps := 5000 }

/-- Two wallets, four empty accounts of the program and the voter's position, an account of the
passive-stake program. -/
def votingBank : Bank :=
  { keys := [govAdmin, governanceConfig, voter, proposalAccount, voterPosition, firstRecord,
      secondRecord]
    accounts := [⟨0, [], ⟨0⟩⟩, ⟨1000000000, [], ID⟩, ⟨0, [], ⟨0⟩⟩, ⟨1000000000, [], ID⟩,
      ⟨2475520, PassiveStake.passiveStakeAccountDiscriminator :: votersLock.toBytes,
        PassiveStake.ID⟩,
      ⟨1000000000, [], ID⟩, ⟨1000000000, [], ID⟩]
    rent := exampleRent }

/-- Epoch `0`. -/
def epochZero : Clock := ⟨0, 0, 0⟩

/-- The config is initialised (voting period `10`, pass threshold `5_000`) and activated, and
`voter` proposes, showing its position. -/
def openingSchedule : List (GovernanceInstruction × Invocation) :=
  [(.initializeGovernance govAdmin 0 10 3000 5000 3333 2 govAdmin,
     ⟨[⟨0, true, true⟩, ⟨1, false, true⟩], epochZero⟩),
   (.activateGovernance, ⟨[⟨0, true, true⟩, ⟨1, false, true⟩], epochZero⟩),
   (.createProposal [] Hash.default .textProposal,
     ⟨[⟨2, true, true⟩, ⟨1, false, true⟩, ⟨3, false, true⟩, ⟨4, false, false⟩], epochZero⟩)]

/-- A vote of `voter`, signing alone, with its position at `3` and the account at index `record`
of the bank as the vote record. -/
def castWith (record : Nat) : Invocation :=
  ⟨[⟨2, true, true⟩, ⟨3, false, true⟩, ⟨1, false, false⟩, ⟨4, false, false⟩,
    ⟨record, false, true⟩], epochZero⟩

/-- The bank with the proposal open. -/
def openBank : Bank := Bank.replay ID entrypoint votingBank openingSchedule

/-- After the first vote. -/
def votedOnceBank : Bank :=
  Bank.replay ID entrypoint openBank [(.castVote 0 .for, castWith 5)]

/-- After the second vote. -/
def votedTwiceBank : Bank :=
  Bank.replay ID entrypoint votedOnceBank [(.castVote 0 .for, castWith 6)]

/-- From a run of the program, one voter with one position of power `500_000`, the only position
in the bank, casts two accepted `For` votes on the same proposal, and the proposal counts
`1_000_000` for. -/
theorem castVote_counts_one_position_twice :
    Bank.Reachable ID entrypoint votingBank openBank ∧
      ((List.range 7).filter fun j => (PassiveStake.positionAt PassiveStake.ID
        votedTwiceBank.accounts j).isSome) = [4] ∧
      PassiveStake.positionAt PassiveStake.ID votedTwiceBank.accounts 4 = some votersLock ∧
      votersLock.authority = voter ∧
      votersLock.amount.toNat * votersLock.voteWeightBps.toNat / 10000 = 500000 ∧
      ((castWith 5).accounts.filter (·.isSigner)).map
        (fun a => openBank.keys[a.indexInTransaction]?) = [some voter] ∧
      ((castWith 6).accounts.filter (·.isSigner)).map
        (fun a => openBank.keys[a.indexInTransaction]?) = [some voter] ∧
      openBank.invoke ID (entrypoint (.castVote 0 .for)) (castWith 5) = .ok votedOnceBank ∧
      votedOnceBank.invoke ID (entrypoint (.castVote 0 .for)) (castWith 6) = .ok votedTwiceBank ∧
      (proposalAt votedTwiceBank.accounts 3).map (·.votesFor) = some 1000000 := by
  refine ⟨Bank.reachable_replay ID entrypoint votingBank openingSchedule, ?_, ?_, rfl, rfl, ?_,
    ?_, Bank.invoke_eq_ok_replay ID entrypoint (by decide +kernel),
    Bank.invoke_eq_ok_replay ID entrypoint (by decide +kernel), ?_⟩
  all_goals decide +kernel

end TRv1.Governance
