import TRv1.PassiveStake.Processor

/-!
# What each passive-stake handler does when it succeeds

One inversion lemma per handler: from a successful run, the checks that passed, the accounts
each borrow read, and the accounts left behind, as a chain of the writes the handler made in
order. Each write names the account as it was when it was made, so the lemmas hold whatever
positions the sender aliased (one account at several positions). The pure parts
(`newPosition`, `earlyUnlockReturn`, `accrueRewards`) have lemmas of their own.

Later proofs cite these lemmas and never unfold a handler.
-/

set_option autoImplicit false

namespace TRv1.PassiveStake

open TRv1.Runtime StateExcept

/-! ## The pure parts -/

/-- `InitializePassiveStake` writes a position of the signer, for the amount and tier of the
instruction, with no rewards and the clock's epoch as the last rewarded one. -/
theorem newPosition_eq_ok {authority : Pubkey} {lockDays amount : UInt64} {clock : Clock}
    {st : PassiveStakeAccount} (h : newPosition authority lockDays amount clock = .ok st) :
    st.authority = authority ∧ st.amount = amount ∧ st.lockDays = lockDays ∧
      st.unclaimedRewards = 0 ∧ st.lastRewardEpoch = clock.epoch := by
  obtain ⟨lockEnd, -, h₁⟩ := except_bind_eq_ok h
  obtain ⟨voteWeight, -, h₂⟩ := except_bind_eq_ok h₁
  obtain rfl := except_pure_eq_ok h₂
  exact ⟨rfl, rfl, rfl, rfl, rfl⟩

/-- The rewards credited move `last_reward_epoch` to the instruction's epoch and add to
`unclaimed_rewards` the per-epoch reward times the epochs elapsed, saturated to `u64`. -/
theorem accrueRewards_eq_ok {st st' : PassiveStakeAccount} {currentEpoch rate : UInt64}
    (h : accrueRewards st currentEpoch rate = .ok st') :
    ∃ tier perEpoch total, rewardRateBpsForTier st.lockDays = some tier ∧
      rewardPerEpoch st.amount rate tier = some perEpoch ∧
      RustInt.checkedMulU128 perEpoch (currentEpoch.toNat - st.lastRewardEpoch.toNat) =
        some total ∧
      st'.unclaimedRewards.toNat =
        st.unclaimedRewards.toNat + ((RustInt.tryIntoU64 total).getD RustInt.u64Max).toNat ∧
      st' = { st with unclaimedRewards := st'.unclaimedRewards,
                      lastRewardEpoch := currentEpoch } := by
  obtain ⟨elapsed, h₁, h₂⟩ := except_bind_eq_ok h
  obtain ⟨tier, h₃, h₄⟩ := except_bind_eq_ok h₂
  obtain ⟨perEpoch, h₅, h₆⟩ := except_bind_eq_ok h₄
  obtain ⟨total, h₇, h₈⟩ := except_bind_eq_ok h₆
  obtain ⟨unclaimed, h₉, h₁₀⟩ := except_bind_eq_ok h₈
  obtain rfl := except_pure_eq_ok h₁₀
  -- `checked_sub` gave the epochs elapsed, as a number
  have helapsed : elapsed.toNat = currentEpoch.toNat - st.lastRewardEpoch.toNat :=
    (RustInt.checkedSub_eq_some.mp (okOr_eq_ok h₁)).2
  rw [helapsed] at h₇
  exact ⟨tier, perEpoch, total, okOr_eq_ok h₃, okOr_eq_ok h₅, okOr_eq_ok h₇,
    (RustInt.checkedAdd_eq_some.mp (okOr_eq_ok h₉)).2, rfl⟩

/-! ## The helpers of the handlers -/

section Helpers

variable {n : Nat} (ic : InstructionContext) {s s' : TransactionAccounts n}

theorem loadState_eq_ok {data : List UInt8} {st : PassiveStakeAccount}
    (h : (loadState data : Exec n PassiveStakeAccount).run s = .ok (st, s')) :
    PassiveStakeAccount.deserialize data = some st ∧ s' = s :=
  requireSome_eq_ok h

theorem storeState_eq_ok {i : Nat} {st : PassiveStakeAccount} {buf : List UInt8} {u : Unit}
    (h : (storeState ic i st buf).run s = .ok (u, s')) :
    ∃ data, st.serializeInto buf = some data ∧
      (ic.setDataFromSlice i data).run s = .ok (u, s') := by
  obtain ⟨data, s₁, h₁, h₂⟩ := run_bind_eq_ok h
  obtain ⟨hdata, hs₁⟩ := requireSome_eq_ok h₁
  rw [hs₁] at h₂
  exact ⟨data, hdata, h₂⟩

theorem authorityKey_eq_ok {k : Pubkey} (h : (authorityKey ic).run s = .ok (k, s')) :
    ∃ a : InstructionAccount, ic.accounts[0]? = some a ∧ a.isSigner = true ∧
      ic.keys[a.indexInTransaction]? = some k ∧ s' = s := by
  obtain ⟨b, s₁, h₁, h₂⟩ := run_bind_eq_ok h
  obtain ⟨a, ha, hb, hs₁⟩ := ic.isInstructionAccountSigner_eq_ok h₁
  rw [hs₁] at h₂
  obtain ⟨u, s₂, h₃, h₄⟩ := run_bind_eq_ok h₂
  obtain ⟨hsigner, hs₂⟩ := failIf_eq_ok h₃
  rw [hs₂] at h₄
  obtain ⟨a', ha', hk, hs'⟩ := ic.getKeyOfInstructionAccount_eq_ok h₄
  obtain rfl : a' = a := Option.some.inj (ha'.symm.trans ha)
  rw [hb, Bool.not_eq_false'] at hsigner
  exact ⟨a', ha, hsigner, hk, hs'⟩

end Helpers

/-! ## The handlers -/

section Handlers

variable {n : Nat} (ic : InstructionContext) {s s' : TransactionAccounts n}

/-- `InitializePassiveStake` found an account of the program at position `1` that holds no
position, moved `amount` into it from the signer's account at position `0` (which the program
must own too, or `set_lamports` refuses the debit), and wrote the new position over it. -/
theorem processInitializePassiveStake_eq_ok {lockDays amount : UInt64} {u : Unit}
    (h : (processInitializePassiveStake ic lockDays amount).run s = .ok (u, s')) :
    ∃ (a₀ a₁ : InstructionAccount) (acc funder stake : Account) (st : PassiveStakeAccount)
      (funderLamports stakeLamports : UInt64) (data : List UInt8),
      isValidTier lockDays = true ∧ amount ≠ 0 ∧
      ic.accounts[0]? = some a₀ ∧ a₀.isSigner = true ∧
      ic.keys[a₀.indexInTransaction]? = some st.authority ∧
      ic.accounts[1]? = some a₁ ∧ s.accounts[a₁.indexInTransaction]? = some acc ∧
      acc.owner = ic.programId ∧ acc.data.head? ≠ some passiveStakeAccountDiscriminator ∧
      s.accounts[a₀.indexInTransaction]? = some funder ∧ funder.owner = ic.programId ∧
      amount.toNat ≤ funder.lamports.toNat ∧
      funderLamports.toNat = funder.lamports.toNat - amount.toNat ∧
      (s.accounts.set a₀.indexInTransaction { funder with lamports := funderLamports })[
        a₁.indexInTransaction]? = some stake ∧
      stake.owner = ic.programId ∧ stakeLamports.toNat = stake.lamports.toNat + amount.toNat ∧
      newPosition st.authority lockDays amount ic.clock = .ok st ∧
      st.serializeInto (stake.data ++
        List.replicate (PassiveStakeAccount.serializedSize - stake.data.length) 0) = some data ∧
      s'.accounts = (s.accounts.set a₀.indexInTransaction { funder with lamports := funderLamports
        }).set a₁.indexInTransaction { stake with lamports := stakeLamports, data := data } := by
  obtain ⟨u₁, s₁, h₁, h₂⟩ := run_bind_eq_ok h
  obtain ⟨htier, hs₁⟩ := failIf_eq_ok h₁
  rw [hs₁] at h₂
  obtain ⟨u₂, s₂, h₃, h₄⟩ := run_bind_eq_ok h₂
  obtain ⟨hamount, hs₂⟩ := failIf_eq_ok h₃
  rw [hs₂] at h₄
  obtain ⟨u₃, s₃, h₅, h₆⟩ := run_bind_eq_ok h₄
  obtain ⟨-, hs₃⟩ := ic.checkNumberOfInstructionAccounts_eq_ok h₅
  rw [hs₃] at h₆
  obtain ⟨key, s₄, h₇, h₈⟩ := run_bind_eq_ok h₆
  obtain ⟨a₀, ha₀, hsigner, hkey, hs₄⟩ := authorityKey_eq_ok ic h₇
  rw [hs₄] at h₈
  -- the stake account holds no position yet
  obtain ⟨acc, s₅, h₉, h₁₀⟩ := run_bind_eq_ok h₈
  obtain ⟨hs₅, a₁, ha₁, hacc⟩ := ic.borrowAccount_eq_ok h₉
  rw [hs₅] at h₁₀
  obtain ⟨u₄, s₆, h₁₁, h₁₂⟩ := run_bind_eq_ok h₁₀
  obtain ⟨hown, hs₆⟩ := failIf_eq_ok h₁₁
  rw [hs₆] at h₁₂
  obtain ⟨u₅, s₇, h₁₃, h₁₄⟩ := run_bind_eq_ok h₁₂
  obtain ⟨hfresh, hs₇⟩ := failIf_eq_ok h₁₃
  rw [hs₇] at h₁₄
  -- the transfer
  obtain ⟨funder, s₈, h₁₅, h₁₆⟩ := run_bind_eq_ok h₁₄
  obtain ⟨hs₈, b₀, hb₀, hfunder⟩ := ic.borrowAccount_eq_ok h₁₅
  obtain rfl : b₀ = a₀ := Option.some.inj (hb₀.symm.trans ha₀)
  rw [hs₈] at h₁₆
  obtain ⟨u₆, s₉, h₁₇, h₁₈⟩ := run_bind_eq_ok h₁₆
  obtain ⟨-, hs₉⟩ := failIf_eq_ok h₁₇
  rw [hs₉] at h₁₈
  obtain ⟨u₇, s₁₀, h₁₉, h₂₀⟩ := run_bind_eq_ok h₁₈
  obtain ⟨c₀, funder', funderLamports, hc₀, hfunder', hle, hfunderLamports, hfunderOwn, -,
    hs₁₀⟩ := ic.checkedSubLamports_eq_ok h₁₉
  obtain rfl : c₀ = b₀ := Option.some.inj (hc₀.symm.trans ha₀)
  obtain rfl : funder' = funder := Option.some.inj (hfunder'.symm.trans hfunder)
  obtain ⟨u₈, s₁₁, h₂₁, h₂₂⟩ := run_bind_eq_ok h₂₀
  obtain ⟨b₁, stake, stakeLamports, hb₁, hstake, hstakeLamports, -, hs₁₁⟩ :=
    ic.checkedAddLamports_eq_ok h₂₁
  obtain rfl : b₁ = a₁ := Option.some.inj (hb₁.symm.trans ha₁)
  rw [hs₁₀] at hstake
  -- the new position, written over the account as the transfer left it
  obtain ⟨st, s₁₂, h₂₃, h₂₄⟩ := run_bind_eq_ok h₂₂
  obtain ⟨hst, hs₁₂⟩ := liftExcept_eq_ok h₂₃
  rw [hs₁₂] at h₂₄
  have hlt : b₁.indexInTransaction <
      (s.accounts.set c₀.indexInTransaction { funder' with lamports := funderLamports }).length :=
    (List.getElem?_eq_some_iff.mp hstake).1
  obtain ⟨stake', s₁₃, h₂₅, h₂₆⟩ := run_bind_eq_ok h₂₄
  obtain ⟨hs₁₃, c₁, hc₁, hstake'⟩ := ic.borrowAccount_eq_ok h₂₅
  obtain rfl : c₁ = b₁ := Option.some.inj (hc₁.symm.trans ha₁)
  rw [hs₁₁, hs₁₀, List.getElem?_set_self hlt, Option.some.injEq] at hstake'
  rw [hs₁₃, ← hstake'] at h₂₆
  obtain ⟨data, hdata, h₂₇⟩ := storeState_eq_ok ic h₂₆
  obtain ⟨d₁, stake'', hd₁, hstake'', hstakeOwn, -, -, hs'⟩ := ic.setDataFromSlice_eq_ok h₂₇
  obtain rfl : d₁ = c₁ := Option.some.inj (hd₁.symm.trans ha₁)
  rw [hs₁₁, hs₁₀, List.getElem?_set_self hlt, Option.some.injEq] at hstake''
  rw [← hstake''] at hstakeOwn
  rw [hs', hs₁₁, hs₁₀, ← hstake'', List.set_set]
  have hauth := (newPosition_eq_ok hst).1
  have hamount' : amount ≠ 0 := by simpa using hamount
  exact ⟨c₀, d₁, acc, funder', stake, st, funderLamports, stakeLamports, data,
    by simpa using htier, hamount', ha₀, hsigner, hauth ▸ hkey, ha₁, hacc, by simpa using hown,
    by simpa using hfresh, hfunder, ic.owner_of_checkedSub hfunderOwn hfunderLamports hle hamount',
    hle, hfunderLamports, hstake, by simpa using hstakeOwn, hstakeLamports, hauth ▸ hst, hdata, rfl⟩

/-- `ClaimRewards` read a position of the signer at position `1` with rewards to claim, wrote
it back with none, took the rewards from the account at position `2` (which the program must
own, and nothing else ties to the position), and credited them to the signer. -/
theorem processClaimRewards_eq_ok {u : Unit} (h : (processClaimRewards ic).run s = .ok (u, s')) :
    ∃ (a₀ a₁ a₂ : InstructionAccount) (acc : Account) (st : PassiveStakeAccount) (data : List UInt8)
      (pool auth : Account) (poolLamports authLamports : UInt64),
      ic.accounts[0]? = some a₀ ∧ a₀.isSigner = true ∧
      ic.keys[a₀.indexInTransaction]? = some st.authority ∧
      ic.accounts[1]? = some a₁ ∧ s.accounts[a₁.indexInTransaction]? = some acc ∧
      acc.owner = ic.programId ∧ PassiveStakeAccount.deserialize acc.data = some st ∧
      st.unclaimedRewards ≠ 0 ∧
      { st with unclaimedRewards := 0 }.serializeInto acc.data = some data ∧
      ic.accounts[2]? = some a₂ ∧
      (s.accounts.set a₁.indexInTransaction { acc with data := data })[a₂.indexInTransaction]? =
        some pool ∧
      pool.owner = ic.programId ∧ st.unclaimedRewards.toNat ≤ pool.lamports.toNat ∧
      poolLamports.toNat = pool.lamports.toNat - st.unclaimedRewards.toNat ∧
      ((s.accounts.set a₁.indexInTransaction { acc with data := data }).set a₂.indexInTransaction
        { pool with lamports := poolLamports })[a₀.indexInTransaction]? = some auth ∧
      authLamports.toNat = auth.lamports.toNat + st.unclaimedRewards.toNat ∧
      s'.accounts = ((s.accounts.set a₁.indexInTransaction { acc with data := data }).set
        a₂.indexInTransaction { pool with lamports := poolLamports }).set a₀.indexInTransaction
        { auth with lamports := authLamports } := by
  obtain ⟨u₁, s₁, h₁, h₂⟩ := run_bind_eq_ok h
  obtain ⟨-, hs₁⟩ := ic.checkNumberOfInstructionAccounts_eq_ok h₁
  rw [hs₁] at h₂
  obtain ⟨key, s₂, h₃, h₄⟩ := run_bind_eq_ok h₂
  obtain ⟨a₀, ha₀, hsigner, hkey, hs₂⟩ := authorityKey_eq_ok ic h₃
  rw [hs₂] at h₄
  -- the position
  obtain ⟨acc, s₃, h₅, h₆⟩ := run_bind_eq_ok h₄
  obtain ⟨hs₃, a₁, ha₁, hacc⟩ := ic.borrowAccount_eq_ok h₅
  rw [hs₃] at h₆
  obtain ⟨u₂, s₄, h₇, h₈⟩ := run_bind_eq_ok h₆
  obtain ⟨hown, hs₄⟩ := failIf_eq_ok h₇
  rw [hs₄] at h₈
  obtain ⟨st, s₅, h₉, h₁₀⟩ := run_bind_eq_ok h₈
  obtain ⟨hst, hs₅⟩ := loadState_eq_ok h₉
  rw [hs₅] at h₁₀
  obtain ⟨u₃, s₆, h₁₁, h₁₂⟩ := run_bind_eq_ok h₁₀
  obtain ⟨hauth, hs₆⟩ := failIf_eq_ok h₁₁
  rw [hs₆] at h₁₂
  obtain ⟨u₄, s₇, h₁₃, h₁₄⟩ := run_bind_eq_ok h₁₂
  obtain ⟨hnz, hs₇⟩ := failIf_eq_ok h₁₃
  rw [hs₇] at h₁₄
  -- written back with no rewards
  obtain ⟨u₅, s₈, h₁₅, h₁₆⟩ := run_bind_eq_ok h₁₄
  obtain ⟨data, hdata, h₁₇⟩ := storeState_eq_ok ic h₁₅
  obtain ⟨a₁', acc', ha₁', hacc', -, -, -, hs₈⟩ := ic.setDataFromSlice_eq_ok h₁₇
  obtain rfl : a₁' = a₁ := Option.some.inj (ha₁'.symm.trans ha₁)
  obtain rfl : acc' = acc := Option.some.inj (hacc'.symm.trans hacc)
  -- the pool
  obtain ⟨pool, s₉, h₁₈, h₁₉⟩ := run_bind_eq_ok h₁₆
  obtain ⟨hs₉, a₂, ha₂, hpool⟩ := ic.borrowAccount_eq_ok h₁₈
  rw [hs₉] at h₁₉
  obtain ⟨u₆, s₁₀, h₂₀, h₂₁⟩ := run_bind_eq_ok h₁₉
  obtain ⟨-, hs₁₀⟩ := failIf_eq_ok h₂₀
  rw [hs₁₀] at h₂₁
  obtain ⟨u₇, s₁₁, h₂₂, h₂₃⟩ := run_bind_eq_ok h₂₁
  obtain ⟨a₂', pool', poolLamports, ha₂', hpool', hle, hpoolLamports, hpoolOwn, -, hs₁₁⟩ :=
    ic.checkedSubLamports_eq_ok h₂₂
  obtain rfl : a₂' = a₂ := Option.some.inj (ha₂'.symm.trans ha₂)
  obtain rfl : pool' = pool := Option.some.inj (hpool'.symm.trans hpool)
  -- the signer
  obtain ⟨a₀', auth, authLamports, ha₀', hauthAcc, hauthLamports, -, hs'⟩ :=
    ic.checkedAddLamports_eq_ok h₂₃
  obtain rfl : a₀' = a₀ := Option.some.inj (ha₀'.symm.trans ha₀)
  have hauth' : st.authority = key := by simpa using hauth
  have hnz' : st.unclaimedRewards ≠ 0 := by simpa using hnz
  rw [hs₈] at hpool
  rw [hs₁₁, hs₈] at hauthAcc
  rw [hs', hs₁₁, hs₈]
  exact ⟨a₀', a₁', a₂', acc', st, data, pool', auth, poolLamports, authLamports, ha₀, hsigner,
    hauth' ▸ hkey, ha₁, hacc, by simpa using hown, hst, hnz', hdata, ha₂, hpool,
    ic.owner_of_checkedSub hpoolOwn hpoolLamports hle hnz', hle, hpoolLamports, hauthAcc,
    hauthLamports, rfl⟩

/-- The shared start of both unlocks: a position of the signer at position `1`, owned by the
program and not permanent; nothing written. -/
theorem loadUnlockable_eq_ok {acc : Account} {st : PassiveStakeAccount}
    (h : (loadUnlockable ic).run s = .ok ((acc, st), s')) :
    ∃ a₀ a₁ : InstructionAccount, ic.accounts[0]? = some a₀ ∧ a₀.isSigner = true ∧
      ic.keys[a₀.indexInTransaction]? = some st.authority ∧
      ic.accounts[1]? = some a₁ ∧ s.accounts[a₁.indexInTransaction]? = some acc ∧
      acc.owner = ic.programId ∧ PassiveStakeAccount.deserialize acc.data = some st ∧
      st.isPermanent = false ∧ s' = s := by
  obtain ⟨u₁, s₁, h₁, h₂⟩ := run_bind_eq_ok h
  obtain ⟨-, hs₁⟩ := ic.checkNumberOfInstructionAccounts_eq_ok h₁
  rw [hs₁] at h₂
  obtain ⟨key, s₂, h₃, h₄⟩ := run_bind_eq_ok h₂
  obtain ⟨a₀, ha₀, hsigner, hkey, hs₂⟩ := authorityKey_eq_ok ic h₃
  rw [hs₂] at h₄
  obtain ⟨acc', s₃, h₅, h₆⟩ := run_bind_eq_ok h₄
  obtain ⟨hs₃, a₁, ha₁, hacc⟩ := ic.borrowAccount_eq_ok h₅
  rw [hs₃] at h₆
  obtain ⟨u₂, s₄, h₇, h₈⟩ := run_bind_eq_ok h₆
  obtain ⟨hown, hs₄⟩ := failIf_eq_ok h₇
  rw [hs₄] at h₈
  obtain ⟨st', s₅, h₉, h₁₀⟩ := run_bind_eq_ok h₈
  obtain ⟨hst, hs₅⟩ := loadState_eq_ok h₉
  rw [hs₅] at h₁₀
  obtain ⟨u₃, s₆, h₁₁, h₁₂⟩ := run_bind_eq_ok h₁₀
  obtain ⟨hauth, hs₆⟩ := failIf_eq_ok h₁₁
  rw [hs₆] at h₁₂
  obtain ⟨u₄, s₇, h₁₃, h₁₄⟩ := run_bind_eq_ok h₁₂
  obtain ⟨hperm, hs₇⟩ := failIf_eq_ok h₁₃
  rw [hs₇] at h₁₄
  obtain ⟨hres, hs'⟩ := run_pure_eq_ok h₁₄
  -- the pair returned is the account and the position read
  obtain ⟨rfl, rfl⟩ := Prod.mk.inj hres
  have hauth' : st.authority = key := by simpa using hauth
  exact ⟨a₀, a₁, ha₀, hsigner, hauth' ▸ hkey, ha₁, hacc, by simpa using hown, hst, hperm, hs'⟩

/-- The end of both unlocks: the stake account at position `1` is zeroed and emptied, and the
account at position `0`, as that left it, is credited. -/
theorem closePosition_eq_ok {stakeAccount : Account} {credit : UInt64} {u : Unit}
    (h : (closePosition ic stakeAccount credit).run s = .ok (u, s')) :
    ∃ (a₀ a₁ : InstructionAccount) (acc auth : Account) (authLamports : UInt64),
      ic.accounts[1]? = some a₁ ∧ s.accounts[a₁.indexInTransaction]? = some acc ∧
      ic.accounts[0]? = some a₀ ∧
      (s.accounts.set a₁.indexInTransaction
        { acc with data := List.replicate stakeAccount.data.length 0, lamports := 0 })[
          a₀.indexInTransaction]? = some auth ∧
      authLamports.toNat = auth.lamports.toNat + credit.toNat ∧
      s'.accounts = (s.accounts.set a₁.indexInTransaction
        { acc with data := List.replicate stakeAccount.data.length 0, lamports := 0 }).set
          a₀.indexInTransaction { auth with lamports := authLamports } := by
  obtain ⟨u₁, s₁, h₁, h₂⟩ := run_bind_eq_ok h
  obtain ⟨a₁, acc, ha₁, hacc, -, -, -, hs₁⟩ := ic.setDataFromSlice_eq_ok h₁
  -- the borrow after the write reads the zeroed account
  obtain ⟨acc₁, s₂, h₃, h₄⟩ := run_bind_eq_ok h₂
  obtain ⟨hs₂, a₁', ha₁', hacc₁⟩ := ic.borrowAccount_eq_ok h₃
  obtain rfl : a₁' = a₁ := Option.some.inj (ha₁'.symm.trans ha₁)
  have hlt : a₁'.indexInTransaction < s.accounts.length :=
    (List.getElem?_eq_some_iff.mp hacc).1
  rw [hs₁, List.getElem?_set_self hlt, Option.some.injEq] at hacc₁
  rw [hs₂] at h₄
  obtain ⟨u₂, s₃, h₅, h₆⟩ := run_bind_eq_ok h₄
  obtain ⟨a₁'', acc₂, v, ha₁'', hacc₂, -, hv, -, -, hs₃⟩ := ic.checkedSubLamports_eq_ok h₅
  obtain rfl : a₁'' = a₁' := Option.some.inj (ha₁''.symm.trans ha₁)
  rw [hs₁, List.getElem?_set_self hlt, Option.some.injEq] at hacc₂
  -- all of its balance leaves it
  have hv0 : v = 0 := by
    apply UInt64.toNat_inj.mp
    rw [hv, ← hacc₂, ← hacc₁, Nat.sub_self, UInt64.toNat_zero]
  obtain ⟨a₀, auth, authLamports, ha₀, hauth, hauthLamports, -, hs'⟩ :=
    ic.checkedAddLamports_eq_ok h₆
  rw [hs₃, hs₁, ← hacc₂, List.set_set, hv0] at hauth
  rw [hs', hs₃, hs₁, ← hacc₂, List.set_set, hv0]
  exact ⟨a₀, a₁'', acc, auth, authLamports, ha₁, hacc, ha₀, hauth, hauthLamports, rfl⟩

/-- `Unlock` closed a position of the signer that is not permanent and whose lock is over,
crediting its principal. -/
theorem processUnlock_eq_ok {u : Unit} (h : (processUnlock ic).run s = .ok (u, s')) :
    ∃ (a₀ a₁ : InstructionAccount) (acc : Account) (st : PassiveStakeAccount) (auth : Account)
      (authLamports : UInt64),
      ic.accounts[0]? = some a₀ ∧ a₀.isSigner = true ∧
      ic.keys[a₀.indexInTransaction]? = some st.authority ∧
      ic.accounts[1]? = some a₁ ∧ s.accounts[a₁.indexInTransaction]? = some acc ∧
      acc.owner = ic.programId ∧ PassiveStakeAccount.deserialize acc.data = some st ∧
      st.isPermanent = false ∧
      (st.lockDays = tierNoLock ∨ st.lockEnd ≤ ic.clock.unixTimestamp) ∧
      (s.accounts.set a₁.indexInTransaction
        { acc with data := List.replicate acc.data.length 0, lamports := 0 })[
          a₀.indexInTransaction]? = some auth ∧
      authLamports.toNat = auth.lamports.toNat + st.amount.toNat ∧
      s'.accounts = (s.accounts.set a₁.indexInTransaction
        { acc with data := List.replicate acc.data.length 0, lamports := 0 }).set
          a₀.indexInTransaction { auth with lamports := authLamports } := by
  obtain ⟨⟨acc, st⟩, s₁, h₁, h₂⟩ := run_bind_eq_ok h
  obtain ⟨a₀, a₁, ha₀, hsigner, hkey, ha₁, hacc, hown, hst, hperm, hs₁⟩ :=
    loadUnlockable_eq_ok ic h₁
  rw [hs₁] at h₂
  obtain ⟨u₁, s₂, h₃, h₄⟩ := run_bind_eq_ok h₂
  obtain ⟨hlock, hs₂⟩ := failIf_eq_ok h₃
  rw [hs₂] at h₄
  -- the lock is over: no lock at all, or the clock is past its end
  have hlock' : st.lockDays = tierNoLock ∨ st.lockEnd ≤ ic.clock.unixTimestamp := by
    rcases Bool.and_eq_false_iff.mp hlock with hno | hpast
    · exact Or.inl (bne_eq_false_iff_eq.mp hno)
    · exact Or.inr (Int64.not_lt.mp (decide_eq_false_iff_not.mp hpast))
  obtain ⟨a₀', a₁', acc', auth, authLamports, ha₁', hacc', ha₀', hauth, hauthLamports, hs'⟩ :=
    closePosition_eq_ok ic h₄
  obtain rfl : a₀' = a₀ := Option.some.inj (ha₀'.symm.trans ha₀)
  obtain rfl : a₁' = a₁ := Option.some.inj (ha₁'.symm.trans ha₁)
  obtain rfl : acc' = acc := Option.some.inj (hacc'.symm.trans hacc)
  exact ⟨a₀', a₁', acc', st, auth, authLamports, ha₀, hsigner, hkey, ha₁, hacc, hown, hst, hperm,
    hlock', hauth, hauthLamports, hs'⟩

/-- `EarlyUnlock` closed a position of the signer that is not permanent, crediting its principal
less the penalty. -/
theorem processEarlyUnlock_eq_ok {u : Unit} (h : (processEarlyUnlock ic).run s = .ok (u, s')) :
    ∃ (a₀ a₁ : InstructionAccount) (acc : Account) (st : PassiveStakeAccount) (returned : UInt64)
      (auth : Account) (authLamports : UInt64),
      ic.accounts[0]? = some a₀ ∧ a₀.isSigner = true ∧
      ic.keys[a₀.indexInTransaction]? = some st.authority ∧
      ic.accounts[1]? = some a₁ ∧ s.accounts[a₁.indexInTransaction]? = some acc ∧
      acc.owner = ic.programId ∧ PassiveStakeAccount.deserialize acc.data = some st ∧
      st.isPermanent = false ∧ earlyUnlockReturn st = .ok returned ∧
      (s.accounts.set a₁.indexInTransaction
        { acc with data := List.replicate acc.data.length 0, lamports := 0 })[
          a₀.indexInTransaction]? = some auth ∧
      authLamports.toNat = auth.lamports.toNat + returned.toNat ∧
      s'.accounts = (s.accounts.set a₁.indexInTransaction
        { acc with data := List.replicate acc.data.length 0, lamports := 0 }).set
          a₀.indexInTransaction { auth with lamports := authLamports } := by
  obtain ⟨⟨acc, st⟩, s₁, h₁, h₂⟩ := run_bind_eq_ok h
  obtain ⟨a₀, a₁, ha₀, hsigner, hkey, ha₁, hacc, hown, hst, hperm, hs₁⟩ :=
    loadUnlockable_eq_ok ic h₁
  rw [hs₁] at h₂
  obtain ⟨returned, s₂, h₃, h₄⟩ := run_bind_eq_ok h₂
  obtain ⟨hreturned, hs₂⟩ := liftExcept_eq_ok h₃
  rw [hs₂] at h₄
  obtain ⟨a₀', a₁', acc', auth, authLamports, ha₁', hacc', ha₀', hauth, hauthLamports, hs'⟩ :=
    closePosition_eq_ok ic h₄
  obtain rfl : a₀' = a₀ := Option.some.inj (ha₀'.symm.trans ha₀)
  obtain rfl : a₁' = a₁ := Option.some.inj (ha₁'.symm.trans ha₁)
  obtain rfl : acc' = acc := Option.some.inj (hacc'.symm.trans hacc)
  exact ⟨a₀', a₁', acc', st, returned, auth, authLamports, ha₀, hsigner, hkey, ha₁, hacc, hown,
    hst, hperm, hreturned, hauth, hauthLamports, hs'⟩

end Handlers

end TRv1.PassiveStake
