import TRv1.PassiveStake.Spec
import TRv1.Runtime.Bank

/-!
# Positions, and rewards at the caller's rate

A position is an account of the program whose data deserializes (`positionAt`).

`CalculateEpochRewards` takes the epoch and the validator rate from the instruction data, needs
no signer, and never looks at the clock. So no bound in terms of the clock's epoch and the
nominal 5% rate holds: one call with a rate of 1000% at the current epoch credits a position
two hundred times its reward of one epoch at 5% (`rewards_exceed_nominal_schedule`).
-/

set_option autoImplicit false

namespace TRv1.PassiveStake

open TRv1.Runtime

/-! ## Positions -/

/-- The position an account holds for the program `pid`, if any. -/
def positionOf (pid : Pubkey) (acc : Account) : Option PassiveStakeAccount :=
  if acc.owner = pid then PassiveStakeAccount.deserialize acc.data else none

/-- The position at index `j` of a list of accounts. -/
def positionAt (pid : Pubkey) (accounts : List Account) (j : Nat) : Option PassiveStakeAccount :=
  accounts[j]?.bind (positionOf pid)

/-- A position depends on the data and the owner of its account, not on its balance. -/
@[simp] theorem positionOf_lamports (pid : Pubkey) (acc : Account) (v : UInt64) :
    positionOf pid { acc with lamports := v } = positionOf pid acc := rfl

/-- The reward of one epoch at validator rate `rate`:
`amount * rate * tier_rate / (10_000 * 10_000 * 365)`, rounded down. -/
def owedPerEpoch (rate : UInt64) (p : PassiveStakeAccount) : Nat :=
  p.amount.toNat * rate.toNat * ((rewardRateBpsForTier p.lockDays).getD 0).toNat /
    (10000 * 10000 * 365)

/-! ## A crank at ten times the validator rate

`staker` opens a no-lock position of `10⁹` lamports at epoch `0`; at epoch `1` anyone sends
`CalculateEpochRewards` for it with a validator rate of `100_000` bps instead of `500`. -/

/-- The staker, whose wallet the program owns (`InitializePassiveStake` debits it). -/
def staker : Pubkey := ⟨7⟩

/-- The account that will hold the staker's position. -/
def stakerPosition : Pubkey := ⟨8⟩

/-- The bank before the run: no position anywhere. -/
def crankBank : Bank :=
  { keys := [staker, stakerPosition]
    accounts := [⟨2000000000, [], ID⟩, ⟨0, List.replicate 84 0, ID⟩]
    rent := exampleRent }

/-- Open the position at epoch `0`. -/
def openAtEpochZero : PassiveStakeInstruction × Invocation :=
  (.initializePassiveStake 0 1000000000, ⟨[⟨0, true, true⟩, ⟨1, false, true⟩], ⟨0, 0, 0⟩⟩)

/-- Reward epoch `1` at `100_000` bps, in a slot of epoch `1`. -/
def crankAtEpochOne : PassiveStakeInstruction × Invocation :=
  (.calculateEpochRewards 1 100000, ⟨[⟨1, false, true⟩], ⟨432000, 1, 172800⟩⟩)

/-- The position the crank leaves. -/
def crankedPosition : PassiveStakeAccount :=
  { authority := staker, amount := 1000000000, lockDays := 0, lockStart := 0, lockEnd := 0,
    unclaimedRewards := 1369863, lastRewardEpoch := 1, isPermanent := false, voteWeightBps := 0 }

/-- After one epoch, the position holds `1_369_863` lamports of rewards, where the 5% rate
allows `6_849` per epoch; the clock is at epoch `1` and the position was opened at epoch `0`. -/
theorem rewards_exceed_nominal_schedule :
    Bank.Reachable ID entrypoint crankBank
        (Bank.replay ID entrypoint crankBank [openAtEpochZero, crankAtEpochOne]) ∧
      positionAt ID
          (Bank.replay ID entrypoint crankBank [openAtEpochZero, crankAtEpochOne]).accounts 1 =
        some crankedPosition ∧
      owedPerEpoch 500 crankedPosition * (1 - 0) < crankedPosition.unclaimedRewards.toNat := by
  have hpos : positionAt ID
      (Bank.replay ID entrypoint crankBank [openAtEpochZero, crankAtEpochOne]).accounts 1 =
        some crankedPosition := by
    decide +kernel
  have hexceeds : owedPerEpoch 500 crankedPosition * (1 - 0) <
      crankedPosition.unclaimedRewards.toNat := by
    decide +kernel
  exact ⟨Bank.reachable_replay ID entrypoint crankBank _, hpos, hexceeds⟩

end TRv1.PassiveStake
