import Mathlib
import TRv1.PassiveStake.Rewards

/-!
# Rewards do not depend on how often the crank runs

`CalculateEpochRewards` credits a position with its per-epoch reward times the epochs since
`last_reward_epoch`, and moves `last_reward_epoch` to the instruction's epoch
(`calculateEpochRewards`, which a successful instruction applies to the position at its account:
`processCalculateEpochRewards_position`). The per-epoch reward is floored once, from the amount,
the tier and the rate, none of which a credit changes, so crediting `e₀ → e₁ → … → eₙ` in steps
adds the same product as one credit `e₀ → eₙ`.

The two paths could part on the saturating conversion of the `u128` total to `u64`: a long step
may saturate where short ones would not. They do not when every short step succeeds: a credit
that saturates leaves `u64::MAX` unclaimed, and the checked addition of any later positive credit
fails, so in a successful sequence of calls only a sum that fits is ever credited
(`credit_add`).

## What this module delivers

- `processCalculateEpochRewards_position`: a successful call moves the position at its account by
  `calculateEpochRewards`.
- `accrueRewards_accrueRewards`: two successful credits in a row are one credit.
- `foldlM_calculateEpochRewards`: along increasing epochs, a successful sequence of calls is the
  last call alone.
- `processCalculateEpochRewards_of_le`: a call for an epoch already rewarded succeeds and changes
  nothing.
- `rewards_independent_of_crank_frequency`: the two together.
-/

set_option autoImplicit false

namespace TRv1.PassiveStake

open TRv1.Runtime StateExcept

/-- `CalculateEpochRewards` on the position it is sent for: nothing for an epoch at or before
`last_reward_epoch`, the accrual otherwise. -/
def calculateEpochRewards (state : PassiveStakeAccount) (currentEpoch rate : UInt64) :
    Except PassiveStakeError PassiveStakeAccount :=
  if currentEpoch ≤ state.lastRewardEpoch then pure state
  else accrueRewards state currentEpoch rate

/-! ## The instruction on its account -/

section Instruction

variable {n : Nat} (ic : InstructionContext) {s s' : TransactionAccounts n}

/-- A call for an epoch at or before `last_reward_epoch` succeeds and leaves every account as it
was. -/
theorem processCalculateEpochRewards_of_le {currentEpoch rate : UInt64} {a : InstructionAccount}
    {acc : Account} {st : PassiveStakeAccount} (ha : ic.accounts[0]? = some a)
    (hacc : s.accounts[a.indexInTransaction]? = some acc) (hown : acc.owner = ic.programId)
    (hst : PassiveStakeAccount.deserialize acc.data = some st)
    (hle : currentEpoch ≤ st.lastRewardEpoch) :
    (processCalculateEpochRewards ic currentEpoch rate).run s = .ok ((), s) := by
  have hlen : ¬ ic.accounts.length < 1 := by
    have := (List.getElem?_eq_some_iff.mp ha).1
    omega
  -- each step of the handler up to the epoch test, as it runs on this account
  have hcount : (ic.checkNumberOfInstructionAccounts 1).run s = .ok ((), s) := by
    rw [InstructionContext.checkNumberOfInstructionAccounts, decide_eq_false hlen]
    rfl
  have hinstr : (ic.instructionAccount 0).run s = .ok (a, s) := by
    rw [InstructionContext.instructionAccount, ha]
    rfl
  have hborrow : (ic.borrowAccount 0).run s = .ok (acc, s) := by
    rw [InstructionContext.borrowAccount, run_bind_of_eq_ok hinstr, StateT.run_bind]
    simp only [StateT.run_get, pure_bind, hacc]
    rfl
  have hcheck : (rejectIf (acc.owner != ic.programId) .invalidAccountOwner : Exec n Unit).run s =
      .ok ((), s) := by
    rw [rejectIf, failIf, hown, bne_self_eq_false]
    rfl
  have hload : (loadState acc.data : Exec n PassiveStakeAccount).run s = .ok (st, s) := by
    rw [loadState, required, requireSome, hst]
    rfl
  unfold processCalculateEpochRewards
  rw [run_bind_of_eq_ok hcount, run_bind_of_eq_ok hborrow, run_bind_of_eq_ok hcheck,
    run_bind_of_eq_ok hload, if_pos hle]
  rfl

end Instruction

/-! ## Two credits are one -/

/-- The accrual succeeds when the elapsed epochs, the tier, the per-epoch reward, the `u128`
product and the `u64` sum all pass; it credits the product saturated to `u64`. -/
theorem accrueRewards_of_eq_some {st : PassiveStakeAccount} {currentEpoch rate tier : UInt64}
    {perEpoch : Nat} (hle : st.lastRewardEpoch ≤ currentEpoch)
    (htier : rewardRateBpsForTier st.lockDays = some tier)
    (hper : rewardPerEpoch st.amount rate tier = some perEpoch)
    (hmul : perEpoch * (currentEpoch.toNat - st.lastRewardEpoch.toNat) < 2 ^ 128)
    (hadd : st.unclaimedRewards.toNat +
      min (perEpoch * (currentEpoch.toNat - st.lastRewardEpoch.toNat)) (2 ^ 64 - 1) < 2 ^ 64) :
    ∃ unclaimed : UInt64, unclaimed.toNat = st.unclaimedRewards.toNat +
        min (perEpoch * (currentEpoch.toNat - st.lastRewardEpoch.toNat)) (2 ^ 64 - 1) ∧
      accrueRewards st currentEpoch rate =
        .ok { st with unclaimedRewards := unclaimed, lastRewardEpoch := currentEpoch } := by
  have helapsed : (currentEpoch - st.lastRewardEpoch).toNat =
      currentEpoch.toNat - st.lastRewardEpoch.toNat := UInt64.toNat_sub_of_le _ _ hle
  have htotal : RustInt.checkedMulU128 perEpoch (currentEpoch - st.lastRewardEpoch).toNat =
      some (perEpoch * (currentEpoch.toNat - st.lastRewardEpoch.toNat)) := by
    rw [helapsed]
    exact RustInt.checkedMulU128_of_lt hmul
  have hcredit := RustInt.tryIntoU64_getD_toNat
    (perEpoch * (currentEpoch.toNat - st.lastRewardEpoch.toNat))
  generalize hc : (RustInt.tryIntoU64
      (perEpoch * (currentEpoch.toNat - st.lastRewardEpoch.toNat))).getD RustInt.u64Max =
    credit at hcredit
  have hsum : RustInt.checkedAdd st.unclaimedRewards credit =
      some (st.unclaimedRewards + credit) := if_pos (by omega)
  refine ⟨st.unclaimedRewards + credit, ?_, ?_⟩
  · rw [UInt64.toNat_add, Nat.mod_eq_of_lt (by omega), hcredit]
  · unfold accrueRewards
    rw [show RustInt.checkedSub currentEpoch st.lastRewardEpoch =
      some (currentEpoch - st.lastRewardEpoch) from if_pos hle]
    simp only [okOr, bind, Except.bind, htier, hper, htotal, hc, hsum]
    rfl

/-- Two credits that fit in `u64` one after the other fit as one: a credit that saturates comes
only after nothing, and with nothing after it. -/
theorem credit_add {unclaimed first second : ℕ} (hfirst : first < 2 ^ 128)
    (hsecond : second < 2 ^ 128)
    (h : unclaimed + min first (2 ^ 64 - 1) + min second (2 ^ 64 - 1) < 2 ^ 64) :
    first + second < 2 ^ 128 ∧
      unclaimed + min (first + second) (2 ^ 64 - 1) =
        unclaimed + min first (2 ^ 64 - 1) + min second (2 ^ 64 - 1) := by
  omega

/-- Two successful credits in a row, the first from an epoch at or after `last_reward_epoch`,
are the one credit up to the second's epoch. -/
theorem accrueRewards_accrueRewards {st st₁ st₂ : PassiveStakeAccount} {e₁ e₂ rate : UInt64}
    (hle : st.lastRewardEpoch ≤ e₁) (hlt : e₁ < e₂) (h₁ : accrueRewards st e₁ rate = .ok st₁)
    (h₂ : accrueRewards st₁ e₂ rate = .ok st₂) : accrueRewards st e₂ rate = .ok st₂ := by
  obtain ⟨tier, perEpoch, total₁, htier, hper, htotal₁, hu₁, hst₁⟩ := accrueRewards_eq_ok h₁
  obtain ⟨tier', perEpoch', total₂, htier', hper', htotal₂, hu₂, hst₂⟩ := accrueRewards_eq_ok h₂
  -- the first credit keeps the amount and the tier: the second has the same per-epoch reward
  have hlock : st₁.lockDays = st.lockDays := by rw [hst₁]
  have hamount : st₁.amount = st.amount := by rw [hst₁]
  have hlast : st₁.lastRewardEpoch = e₁ := by rw [hst₁]
  rw [hlock, htier, Option.some_inj] at htier'
  subst htier'
  rw [hamount, hper, Option.some_inj] at hper'
  subst hper'
  rw [hlast] at htotal₂
  obtain ⟨hmul₁, rfl⟩ := RustInt.checkedMulU128_eq_some htotal₁
  obtain ⟨hmul₂, rfl⟩ := RustInt.checkedMulU128_eq_some htotal₂
  rw [RustInt.tryIntoU64_getD_toNat] at hu₁ hu₂
  -- the epochs of the one credit are those of the two
  have hsplit : e₂.toNat - st.lastRewardEpoch.toNat =
      (e₁.toNat - st.lastRewardEpoch.toNat) + (e₂.toNat - e₁.toNat) := by
    have := UInt64.le_iff_toNat_le.mp hle
    have := UInt64.lt_iff_toNat_lt.mp hlt
    omega
  obtain ⟨hmul, hcredit⟩ := @credit_add st.unclaimedRewards.toNat _ _ hmul₁ hmul₂
    (by have := st₂.unclaimedRewards.toNat_lt; omega)
  rw [← Nat.mul_add, ← hsplit] at hmul hcredit
  obtain ⟨unclaimed, hunclaimed, hok⟩ :=
    accrueRewards_of_eq_some (UInt64.le_trans hle (UInt64.le_of_lt hlt)) htier hper hmul
      (by have := st₂.unclaimedRewards.toNat_lt; omega)
  have heq : unclaimed = st₂.unclaimedRewards := UInt64.toNat_inj.mp (by omega)
  rw [hok, heq, hst₂, hst₁]

/-- Along increasing epochs from `last_reward_epoch`, calls that all succeed end where one
accrual up to the last epoch does. -/
theorem foldlM_calculateEpochRewards (rate : UInt64) (epochs : List UInt64) :
    ∀ {st st' : PassiveStakeAccount} {e : UInt64},
      List.IsChain (· < ·) (st.lastRewardEpoch :: (epochs ++ [e])) →
      (epochs ++ [e]).foldlM (fun s e => calculateEpochRewards s e rate) st = .ok st' →
      accrueRewards st e rate = .ok st' := by
  induction epochs with
  | nil =>
    intro st st' e hchain h
    -- one call, past `last_reward_epoch`
    have hlt : st.lastRewardEpoch < e := (List.isChain_cons_cons.mp hchain).1
    simp only [List.nil_append, List.foldlM_cons, List.foldlM_nil, bind_pure] at h
    rwa [calculateEpochRewards, if_neg (UInt64.not_le.mpr hlt)] at h
  | cons e₁ rest ih =>
    intro st st' e hchain h
    obtain ⟨hlt₁, hrest⟩ := List.isChain_cons_cons.mp hchain
    rw [List.cons_append, List.foldlM_cons] at h
    obtain ⟨st₁, h₁, h₂⟩ := except_bind_eq_ok h
    rw [calculateEpochRewards, if_neg (UInt64.not_le.mpr hlt₁)] at h₁
    -- the first call moved `last_reward_epoch` to `e₁`, where the rest of the chain starts
    have hlast : st₁.lastRewardEpoch = e₁ := by
      obtain ⟨-, -, -, -, -, -, -, hst₁⟩ := accrueRewards_eq_ok h₁
      rw [hst₁]
    have he : e₁ < e := hrest.rel_cons (by simp)
    rw [← hlast] at hrest
    exact accrueRewards_accrueRewards (UInt64.le_of_lt hlt₁) he h₁ (ih hrest h₂)

/-! ## Crank frequency -/

/-- Reward accrual does not depend on how often the crank runs. Along any increasing epochs
`e₁ < … < eₙ` after `last_reward_epoch`, calls at one validator rate that all succeed leave the
position the single call at `eₙ` leaves; and a call for an epoch at or before
`last_reward_epoch` succeeds and leaves every account as it was. -/
theorem rewards_independent_of_crank_frequency :
    (∀ (st st' : PassiveStakeAccount) (rate : UInt64) (epochs : List UInt64) (e : UInt64),
      List.IsChain (· < ·) (st.lastRewardEpoch :: (epochs ++ [e])) →
      (epochs ++ [e]).foldlM (fun s e => calculateEpochRewards s e rate) st = .ok st' →
      calculateEpochRewards st e rate = .ok st') ∧
    ∀ {n : Nat} (ic : InstructionContext) (s : TransactionAccounts n) (a : InstructionAccount)
      (acc : Account) (st : PassiveStakeAccount) (currentEpoch rate : UInt64),
      ic.accounts[0]? = some a → s.accounts[a.indexInTransaction]? = some acc →
      acc.owner = ic.programId → PassiveStakeAccount.deserialize acc.data = some st →
      currentEpoch ≤ st.lastRewardEpoch →
      (processCalculateEpochRewards ic currentEpoch rate).run s = .ok ((), s) := by
  refine ⟨fun st st' rate epochs e hchain h => ?_,
    fun ic s a acc st currentEpoch rate ha hacc hown hst hle =>
      processCalculateEpochRewards_of_le ic ha hacc hown hst hle⟩
  -- every epoch of the chain is past `last_reward_epoch`, the last one too
  have hlt : st.lastRewardEpoch < e := hchain.rel_cons (by simp)
  rw [calculateEpochRewards, if_neg (UInt64.not_le.mpr hlt)]
  exact foldlM_calculateEpochRewards rate epochs hchain h

/-- A no-lock position of `10⁹` lamports, last rewarded at epoch `0`. -/
def restingPosition : PassiveStakeAccount :=
  { authority := staker, amount := 1000000000, lockDays := 0, lockStart := 0, lockEnd := 0,
    unclaimedRewards := 0, lastRewardEpoch := 0, isPermanent := false, voteWeightBps := 0 }

/-- The position credited up to epoch `5` at the 5% rate: `6_849` lamports an epoch. -/
def creditedPosition : PassiveStakeAccount :=
  { restingPosition with unclaimedRewards := 34245, lastRewardEpoch := 5 }

/-- The program's account holding the resting position. -/
def restingAccount : Account :=
  ⟨0, (restingPosition.serializeInto (List.replicate 84 0)).getD [], ID⟩

/-- `CalculateEpochRewards` sent for the resting position. -/
def restingContext : InstructionContext := ⟨[stakerPosition], ID, [⟨0, false, true⟩], ⟨0, 0, 0⟩⟩

theorem crank_frequency_on_resting_position :
    calculateEpochRewards restingPosition 5 500 = .ok creditedPosition ∧
      (processCalculateEpochRewards restingContext 0 500).run (.start [restingAccount]) =
        .ok ((), .start [restingAccount]) :=
  ⟨rewards_independent_of_crank_frequency.1 _ _ 500 [1, 2] 5 (by decide) rfl,
    rewards_independent_of_crank_frequency.2 restingContext _ ⟨0, false, true⟩ restingAccount
      restingPosition 0 500 rfl rfl rfl (by decide) (by decide)⟩

end TRv1.PassiveStake
