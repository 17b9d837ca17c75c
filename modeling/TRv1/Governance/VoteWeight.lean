import TRv1.Governance.Votes

/-!
# Voting weight: the governance table and the passive-stake bytes

`vote_weight.rs` of the governance program gives a voter's power in two ways. The table
`vote_weight_bps` maps a staking commitment to a weight in bps, with its own copy of the tiers of
the passive-stake program, and `calculate_voting_power` scales an amount by it. And
`voting_power_from_passive_stake_data` reads the amount and the weight straight out of the bytes
of a passive-stake account, at offsets written into the code rather than through the account's
type.

## What this module delivers

- `voteWeightBps_passiveStake`: the governance copy of the tier table agrees with
  `vote_weight_bps_for_tier` of the passive-stake program on every tier.
- `votingPower_serializeInto`: whatever a position holds, `serialize_into` on a buffer of
  `SERIALIZED_SIZE` bytes or more writes bytes from which governance reads the position's amount
  and `amount * vote_weight_bps / 10_000`.
- `governance_reads_passive_stake_layout`: that, and for every position `InitializePassiveStake`
  writes, the power read from its bytes is `calculate_voting_power` of its amount and tier.
-/

set_option autoImplicit false

namespace TRv1.Governance

open TRv1.Runtime StateExcept

/-- `StakeSource`. -/
inductive StakeSource
  | validatorOrDelegator
  | passiveStake (lockDays : UInt64)
  | unstaked
  deriving DecidableEq, Repr

/-- `vote_weight_bps`: `VOTE_WEIGHT_VALIDATOR_BPS` for validators and delegators; for a passive
stake the governance crate's copy of the tiers, `VOTE_WEIGHT_*_BPS` of `0`, `1_000`, `2_000`,
`3_000`, `5_000` and `15_000` at `TIER_NO_LOCK`, `TIER_30_DAY`, `TIER_90_DAY`, `TIER_180_DAY`,
`TIER_360_DAY` and `PERMANENT_LOCK_DAYS`; and `0` otherwise. -/
def voteWeightBps : StakeSource → UInt64
  | .validatorOrDelegator => 10000
  | .unstaked => 0
  | .passiveStake lockDays =>
    if lockDays = 0 then 0
    else if lockDays = 30 then 1000
    else if lockDays = 90 then 2000
    else if lockDays = 180 then 3000
    else if lockDays = 360 then 5000
    else if lockDays = RustInt.u64Max then 15000
    -- an unrecognised tier has no voting power
    else 0

/-- `calculate_voting_power`: `amount * weight / 10_000` on `u128`, `Some(0)` for a zero
weight, and `None` when the power does not fit a `u64`. -/
def calculateVotingPower (amount : UInt64) (source : StakeSource) : Option UInt64 :=
  let weightBps := voteWeightBps source
  if weightBps = 0 then some 0
  else
    ((RustInt.checkedMulU128 amount.toNat weightBps.toNat).bind fun p =>
      RustInt.checkedDivU128 p bpsDenominator.toNat).bind RustInt.tryIntoU64

/-! ## The two tables -/

/-- The governance copy of the tiers agrees with the passive-stake table wherever that table has
an entry. -/
theorem voteWeightBps_passiveStake {lockDays : UInt64} {weight : UInt16}
    (h : PassiveStake.voteWeightBpsForTier lockDays = some weight) :
    voteWeightBps (.passiveStake lockDays) = weight.toUInt64 := by
  unfold PassiveStake.voteWeightBpsForTier PassiveStake.tierTable PassiveStake.permanentLockDays
    at h
  dsimp only [voteWeightBps]
  -- both tables test the same tiers in the same order
  split_ifs at h ⊢ <;> cases h <;> rfl

/-- A nonzero weight gives the floored product, when it fits a `u64`. -/
theorem calculateVotingPower_of_ne_zero {amount : UInt64} {source : StakeSource}
    (hweight : voteWeightBps source ≠ 0)
    (hfit : amount.toNat * (voteWeightBps source).toNat / 10000 < 2 ^ 64) :
    calculateVotingPower amount source =
      some (UInt64.ofNat (amount.toNat * (voteWeightBps source).toNat / 10000)) := by
  -- the weight is at most `15_000`, far below what would overflow the `u128` product
  have hmul : amount.toNat * (voteWeightBps source).toNat < 2 ^ 128 := by
    have ha := amount.toNat_lt
    have hw := (voteWeightBps source).toNat_lt
    calc amount.toNat * (voteWeightBps source).toNat < 2 ^ 64 * 2 ^ 64 :=
          Nat.mul_lt_mul'' ha hw
      _ = 2 ^ 128 := by rw [← Nat.pow_add]
  have hden : bpsDenominator.toNat = 10000 := rfl
  unfold calculateVotingPower
  dsimp only
  rw [if_neg hweight, RustInt.checkedMulU128, if_pos hmul, Option.bind_some,
    RustInt.checkedDivU128, hden, if_neg (by omega), Option.bind_some, RustInt.tryIntoU64,
    if_pos hfit]

/-! ## The bytes of a position -/

/-- `serialize_into` on a buffer of at least `SERIALIZED_SIZE` bytes writes the discriminator and
the fields over the front of the buffer. -/
theorem serializeInto_of_le {st : PassiveStake.PassiveStakeAccount} {buf : List UInt8}
    (hlen : PassiveStake.PassiveStakeAccount.serializedSize ≤ buf.length) :
    st.serializeInto buf =
      some (PassiveStake.passiveStakeAccountDiscriminator :: st.toBytes ++ buf.drop 84) := by
  have hbytes : st.toBytes.length + 1 ≤ buf.length := by
    rw [PassiveStake.PassiveStakeAccount.length_toBytes]
    exact hlen
  -- the tail starts after the tag and the 83 bytes of the fields
  rw [PassiveStake.PassiveStakeAccount.serializeInto, Borsh.serializeTagged_of_le hlen hbytes,
    PassiveStake.PassiveStakeAccount.length_toBytes]

/-- Whatever position `serialize_into` writes, governance reads back its amount and power from
the bytes, when the weight is not zero and the power fits a `u64`. -/
theorem votingPower_serializeInto {st : PassiveStake.PassiveStakeAccount} {buf buf' : List UInt8}
    (hweight : st.voteWeightBps ≠ 0)
    (hfit : st.amount.toNat * st.voteWeightBps.toNat / 10000 < 2 ^ 64)
    (h : st.serializeInto buf = some buf') :
    votingPowerFromPassiveStakeData buf' =
      some (st.amount, UInt64.ofNat (st.amount.toNat * st.voteWeightBps.toNat / 10000)) := by
  rw [Borsh.serializeTagged_eq_some h]
  exact votingPowerFromPassiveStakeData_position st _ hweight hfit

/-- `InitializePassiveStake` writes the weight of the position's tier. -/
theorem newPosition_voteWeightBps {authority : Pubkey} {lockDays amount : UInt64} {clock : Clock}
    {st : PassiveStake.PassiveStakeAccount}
    (h : PassiveStake.newPosition authority lockDays amount clock = .ok st) :
    PassiveStake.voteWeightBpsForTier lockDays = some st.voteWeightBps := by
  obtain ⟨lockEnd, -, h₁⟩ := except_bind_eq_ok h
  obtain ⟨voteWeight, hweight, h₂⟩ := except_bind_eq_ok h₁
  obtain rfl := except_pure_eq_ok h₂
  exact okOr_eq_ok hweight

/-- The power governance reads from a written position is `calculate_voting_power` of the
position's amount and tier. -/
theorem votingPower_eq_calculateVotingPower {st : PassiveStake.PassiveStakeAccount}
    {buf buf' : List UInt8}
    (htier : PassiveStake.voteWeightBpsForTier st.lockDays = some st.voteWeightBps)
    (hweight : st.voteWeightBps ≠ 0)
    (hfit : st.amount.toNat * st.voteWeightBps.toNat / 10000 < 2 ^ 64)
    (h : st.serializeInto buf = some buf') :
    (votingPowerFromPassiveStakeData buf').map Prod.snd =
      calculateVotingPower st.amount (.passiveStake st.lockDays) := by
  have hgov := voteWeightBps_passiveStake htier
  -- the governance weight is the stored one, widened to `u64`
  have hwide : (voteWeightBps (.passiveStake st.lockDays)).toNat = st.voteWeightBps.toNat := by
    rw [hgov, UInt16.toNat_toUInt64]
  have hne : voteWeightBps (.passiveStake st.lockDays) ≠ 0 := by
    intro h0
    apply hweight
    apply UInt16.toNat_inj.mp
    rw [← hwide, h0]
    rfl
  rw [votingPower_serializeInto hweight hfit h, Option.map_some,
    calculateVotingPower_of_ne_zero hne (by rwa [hwide]), hwide]

/-! ## Governance reads the layout -/

/-- Governance reads the passive-stake layout right. For every position with a nonzero weight,
`serialize_into` on a buffer of at least `SERIALIZED_SIZE` bytes succeeds, and
`voting_power_from_passive_stake_data` reads back the amount and
`amount * vote_weight_bps / 10_000` whenever that fits a `u64`. And for every position
`InitializePassiveStake` builds (`newPosition`) and writes (`serialize_into`), the power read from
the bytes is `calculate_voting_power` of its amount and tier: the two crates' tier tables agree. -/
theorem governance_reads_passive_stake_layout :
    (∀ (st : PassiveStake.PassiveStakeAccount) (buf : List UInt8),
      st.voteWeightBps ≠ 0 → PassiveStake.PassiveStakeAccount.serializedSize ≤ buf.length →
      st.amount.toNat * st.voteWeightBps.toNat / 10000 < 2 ^ 64 →
      ∃ buf', st.serializeInto buf = some buf' ∧
        votingPowerFromPassiveStakeData buf' =
          some (st.amount, UInt64.ofNat (st.amount.toNat * st.voteWeightBps.toNat / 10000))) ∧
    ∀ (authority : Pubkey) (lockDays amount : UInt64) (clock : Clock)
      (st : PassiveStake.PassiveStakeAccount) (buf buf' : List UInt8),
      PassiveStake.newPosition authority lockDays amount clock = .ok st →
      st.serializeInto buf = some buf' → st.voteWeightBps ≠ 0 →
      st.amount.toNat * st.voteWeightBps.toNat / 10000 < 2 ^ 64 →
      (votingPowerFromPassiveStakeData buf').map Prod.snd =
        calculateVotingPower st.amount (.passiveStake st.lockDays) := by
  refine ⟨fun st buf hweight hlen hfit => ⟨_, serializeInto_of_le hlen,
      votingPower_serializeInto hweight hfit (serializeInto_of_le hlen)⟩,
    fun authority lockDays amount clock st buf buf' hst hbuf hweight hfit => ?_⟩
  -- the position carries the weight of its own tier
  have htier := newPosition_voteWeightBps hst
  obtain ⟨-, -, hlock, -, -⟩ := PassiveStake.newPosition_eq_ok hst
  rw [← hlock] at htier
  exact votingPower_eq_calculateVotingPower htier hweight hfit hbuf

/-- The holder of the position below. -/
def thirtyDayHolder : Pubkey := ⟨11⟩

/-- The clock at the opening: time `0`, epoch `0`. -/
def openingClock : Clock := ⟨0, 0, 0⟩

/-- The 30-day position of `10⁹` lamports `InitializePassiveStake` opens at that clock. -/
def thirtyDayPosition : PassiveStake.PassiveStakeAccount :=
  { authority := thirtyDayHolder, amount := 1000000000, lockDays := 30, lockStart := 0,
    lockEnd := 2592000, unclaimedRewards := 0, lastRewardEpoch := 0, isPermanent := false,
    voteWeightBps := 1000 }

/-- Its bytes over a zeroed buffer of `SERIALIZED_SIZE` bytes. -/
def thirtyDayBytes : List UInt8 :=
  (thirtyDayPosition.serializeInto (List.replicate 84 0)).getD []

theorem governance_reads_thirty_day_position :
    (∃ buf', thirtyDayPosition.serializeInto (List.replicate 84 0) = some buf' ∧
      votingPowerFromPassiveStakeData buf' = some (thirtyDayPosition.amount,
        UInt64.ofNat (thirtyDayPosition.amount.toNat * thirtyDayPosition.voteWeightBps.toNat /
          10000))) ∧
      (votingPowerFromPassiveStakeData thirtyDayBytes).map Prod.snd =
        calculateVotingPower thirtyDayPosition.amount (.passiveStake thirtyDayPosition.lockDays) :=
  ⟨governance_reads_passive_stake_layout.1 thirtyDayPosition _ (by decide) (by decide)
      (by decide),
    governance_reads_passive_stake_layout.2 thirtyDayHolder 30 1000000000 openingClock
      thirtyDayPosition (List.replicate 84 0) thirtyDayBytes rfl rfl (by decide) (by decide)⟩

end TRv1.Governance
