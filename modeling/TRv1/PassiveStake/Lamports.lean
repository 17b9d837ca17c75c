import TRv1.PassiveStake.Rewards

/-!
# Where the lamports of the passive-stake program go

`Unlock` and `EarlyUnlock` take the whole balance of the stake account and credit only the
principal, less the penalty for `EarlyUnlock`, whose comment says the penalty is burned;
`Unlock`'s comment says that all lamports, principal and rent, go to the authority. Whenever
either handler returns `Ok`, the total of the transaction's accounts has fallen by what the stake
account held beyond the credit, and `TransactionContext::pop` rejects the instruction unless that
was nothing (`unlocks_drop_unreturned_lamports`). A position whose account also holds its rent
reserve cannot be unlocked at all (`reserve_unlock_rejected`).

`ClaimRewards` debits whatever account is at position `2`, as long as the program owns it, and
`CalculateEpochRewards` credits any position at any rate. Together they let anyone move another
user's locked principal, even of a permanent lock, to themselves
(`claimRewards_drains_permanent_position`).
-/

set_option autoImplicit false

namespace TRv1.PassiveStake

open TRv1.Runtime

/-! ## Unlocks that drop lamports -/

/-- Closing the stake account and crediting the authority moves the total by the credit less
the stake account's balance. -/
theorem totalLamports_close {accounts : List Account} {i k m : Nat} {acc auth : Account}
    {credit authLamports : UInt64} (hacc : accounts[i]? = some acc)
    (hauth : (accounts.set i { acc with data := List.replicate m 0, lamports := 0 })[k]? =
      some auth)
    (hcredit : authLamports.toNat = auth.lamports.toNat + credit.toNat) :
    (totalLamports ((accounts.set i { acc with data := List.replicate m 0, lamports := 0 }).set k
        { auth with lamports := authLamports }) : Int) =
      totalLamports accounts - acc.lamports.toNat + credit.toNat := by
  rw [totalLamports_set _ k hauth, totalLamports_set _ i hacc, hcredit]
  simp only [UInt64.toNat_zero, Nat.cast_zero, Nat.cast_add]
  omega

/-- A total moved by a credit less a balance has moved unless the two are equal. -/
theorem totalLamports_ne_of_credit_ne {total total' : Nat} {balance credit : UInt64}
    (htotal : (total' : Int) = total - balance.toNat + credit.toNat) (hne : balance ≠ credit) :
    total' ≠ total := by
  have hne' : balance.toNat ≠ credit.toNat := fun h => hne (UInt64.toNat_inj.mp h)
  omega

/-- A run that moved the total by a credit less a balance is rejected by `pop` unless the two
are equal. -/
theorem rejected_unless_credit_eq {accounts : List Account}
    {prog : Exec (totalLamports accounts) Unit} {s' : TransactionAccounts (totalLamports accounts)}
    {balance credit : UInt64} (hrun : prog.run (.start accounts) = .ok ((), s'))
    (htotal : (totalLamports s'.accounts : Int) =
      totalLamports accounts - balance.toNat + credit.toNat)
    (hne : balance ≠ credit) :
    processInstruction prog (.start accounts) = .error .unbalancedInstruction :=
  processInstruction_eq_unbalanced accounts hrun (totalLamports_ne_of_credit_ne htotal hne)

/-- The account at position `1`, and the position it holds, are the same whoever reads them. -/
theorem same_stake_account {ic : InstructionContext} {accounts : List Account}
    {a₁ a₁' : InstructionAccount} {acc acc' : Account} {st st' : PassiveStakeAccount}
    (ha₁ : ic.accounts[1]? = some a₁) (ha₁' : ic.accounts[1]? = some a₁')
    (hacc : accounts[a₁.indexInTransaction]? = some acc)
    (hacc' : accounts[a₁'.indexInTransaction]? = some acc')
    (hst : PassiveStakeAccount.deserialize acc.data = some st)
    (hst' : PassiveStakeAccount.deserialize acc'.data = some st') :
    a₁' = a₁ ∧ acc' = acc ∧ st' = st := by
  obtain rfl : a₁' = a₁ := Option.some.inj (ha₁'.symm.trans ha₁)
  obtain rfl : acc' = acc := Option.some.inj (hacc'.symm.trans hacc)
  exact ⟨rfl, rfl, Option.some.inj (hst'.symm.trans hst)⟩

/-- Whenever the handler of `Unlock`, or of `EarlyUnlock` returning `returned`, runs to success
on the stake account at position `1`, the total of the transaction's accounts has moved by the
credit less the whole balance of that account, and `pop` rejects the instruction unless the two
are equal. -/
theorem unlocks_drop_unreturned_lamports (accounts : List Account) (ic : InstructionContext)
    {a₁ : InstructionAccount} {acc : Account} {st : PassiveStakeAccount}
    (ha₁ : ic.accounts[1]? = some a₁) (hacc : accounts[a₁.indexInTransaction]? = some acc)
    (hst : PassiveStakeAccount.deserialize acc.data = some st) :
    (∀ s' : TransactionAccounts (totalLamports accounts),
      (process ic .unlock).run (.start accounts) = .ok ((), s') →
        (totalLamports s'.accounts : Int) =
          totalLamports accounts - acc.lamports.toNat + st.amount.toNat ∧
        (acc.lamports ≠ st.amount →
          processInstruction (process ic .unlock) (.start accounts) =
            .error .unbalancedInstruction)) ∧
    (∀ (s' : TransactionAccounts (totalLamports accounts)) (returned : UInt64),
      earlyUnlockReturn st = .ok returned →
      (process ic .earlyUnlock).run (.start accounts) = .ok ((), s') →
        (totalLamports s'.accounts : Int) =
          totalLamports accounts - acc.lamports.toNat + returned.toNat ∧
        (acc.lamports ≠ returned →
          processInstruction (process ic .earlyUnlock) (.start accounts) =
            .error .unbalancedInstruction)) := by
  constructor
  · intro s' hrun
    obtain ⟨a₀, a₁', acc', st', auth, authLamports, -, -, -, ha₁', hacc', -, hst', -, -, hauth,
      hcredit, hs'⟩ := processUnlock_eq_ok ic hrun
    -- the handler read the same stake account
    obtain ⟨rfl, rfl, rfl⟩ := same_stake_account ha₁ ha₁' hacc hacc' hst hst'
    have htotal := totalLamports_close hacc' hauth hcredit
    rw [← hs'] at htotal
    exact ⟨htotal, rejected_unless_credit_eq hrun htotal⟩
  · intro s' returned hreturned hrun
    obtain ⟨a₀, a₁', acc', st', returned', auth, authLamports, -, -, -, ha₁', hacc', -, hst', -,
      hreturned', hauth, hcredit, hs'⟩ := processEarlyUnlock_eq_ok ic hrun
    obtain ⟨rfl, rfl, rfl⟩ := same_stake_account ha₁ ha₁' hacc hacc' hst hst'
    obtain rfl : returned' = returned := Except.ok.inj (hreturned'.symm.trans hreturned)
    have htotal := totalLamports_close hacc' hauth hcredit
    rw [← hs'] at htotal
    exact ⟨htotal, rejected_unless_credit_eq hrun htotal⟩

/-! `holder` holds two positions of `1_000` lamports: a 30-day lock in an account holding exactly
its principal, and a position with no lock in an account that also holds a reserve of
`1_475_520` lamports, the rent-exempt minimum of its `84` bytes. -/

/-- The holder of both positions. -/
def holder : Pubkey := ⟨9⟩

/-- The account of either position. -/
def holderPosition : Pubkey := ⟨10⟩

/-- A 30-day lock of `1_000` lamports, from time `0`. -/
def lockedPosition : PassiveStakeAccount :=
  { authority := holder, amount := 1000, lockDays := 30, lockStart := 0, lockEnd := 2592000,
    unclaimedRewards := 0, lastRewardEpoch := 0, isPermanent := false, voteWeightBps := 1000 }

/-- A position of `1_000` lamports with no lock. -/
def unlockedPosition : PassiveStakeAccount :=
  { lockedPosition with lockDays := 0, lockEnd := 0, voteWeightBps := 0 }

/-- The holder's wallet (a system account) and an account of the program holding `position`
with `lamports`. -/
def holderAccounts (position : PassiveStakeAccount) (lamports : UInt64) : List Account :=
  [⟨0, [], ⟨0⟩⟩, ⟨lamports, passiveStakeAccountDiscriminator :: position.toBytes, ID⟩]

/-- The holder signs for the position at time `0`. -/
def holderContext : InstructionContext :=
  ⟨[holder, holderPosition], ID, [⟨0, true, true⟩, ⟨1, false, true⟩], ⟨0, 0, 0⟩⟩

/-- `Unlock` of the position with a reserve credits the principal and drops the reserve, and
`EarlyUnlock` of the 30-day lock credits `975` and drops the `25` of the penalty: both handlers
return `Ok`, the totals fall, and `pop` rejects both instructions. -/
theorem reserve_unlock_rejected :
    processInstruction (process holderContext .unlock)
        (.start (holderAccounts unlockedPosition 1476520)) = .error .unbalancedInstruction ∧
      processInstruction (process holderContext .earlyUnlock)
        (.start (holderAccounts lockedPosition 1000)) = .error .unbalancedInstruction := by
  have hunlock : ∃ s', (process holderContext .unlock).run
      (.start (holderAccounts unlockedPosition 1476520)) = .ok ((), s') :=
    ⟨_, rfl⟩
  have hearly : ∃ s', (process holderContext .earlyUnlock).run
      (.start (holderAccounts lockedPosition 1000)) = .ok ((), s') :=
    ⟨_, rfl⟩
  obtain ⟨s₁, hrun₁⟩ := hunlock
  obtain ⟨s₂, hrun₂⟩ := hearly
  constructor
  · exact ((unlocks_drop_unreturned_lamports _ holderContext rfl rfl rfl).1 s₁ hrun₁).2
      (by decide)
  · exact ((unlocks_drop_unreturned_lamports _ holderContext rfl rfl rfl).2 s₂ 975 rfl
      hrun₂).2 (by decide)

/-! ## Draining a permanent lock through `ClaimRewards`

`victim` locks `10⁹` lamports permanently. `attacker` opens a position of `1_000` lamports,
credits it `5 × 10⁸` lamports of rewards with one `CalculateEpochRewards` at a rate of its
choosing, and claims them with the victim's position as the rewards pool. Both wallets are
owned by the program, as `InitializePassiveStake` requires. -/

/-- The owner of the permanent lock. -/
def victim : Pubkey := ⟨11⟩

/-- The account of the permanent lock. -/
def victimPosition : Pubkey := ⟨12⟩

/-- The attacker. -/
def attacker : Pubkey := ⟨21⟩

/-- The attacker's own position. -/
def attackerPosition : Pubkey := ⟨22⟩

/-- Two funded wallets and two empty 84-byte accounts of the program. -/
def drainBank : Bank :=
  { keys := [victim, victimPosition, attacker, attackerPosition]
    accounts := [⟨2000000000, [], ID⟩, ⟨1500000, List.replicate 84 0, ID⟩,
      ⟨10000000, [], ID⟩, ⟨1500000, List.replicate 84 0, ID⟩]
    rent := exampleRent }

/-- The victim's lock, then the attacker's position and its rewards: `1_000` lamports at
`36_500_000_000_000` bps for one epoch earn `5 × 10⁸`. -/
def drainSetup : List (PassiveStakeInstruction × Invocation) :=
  [(.initializePassiveStake RustInt.u64Max 1000000000,
     ⟨[⟨0, true, true⟩, ⟨1, false, true⟩], ⟨0, 0, 0⟩⟩),
   (.initializePassiveStake 0 1000, ⟨[⟨2, true, true⟩, ⟨3, false, true⟩], ⟨0, 0, 0⟩⟩),
   (.calculateEpochRewards 1 36500000000000, ⟨[⟨3, false, true⟩], ⟨0, 0, 0⟩⟩)]

/-- The attacker claims, signing alone, with the victim's position at position `2`. -/
def claimFromVictim : Invocation :=
  ⟨[⟨2, true, true⟩, ⟨3, false, true⟩, ⟨1, false, true⟩], ⟨0, 0, 0⟩⟩

/-- The victim's permanent lock, as `InitializePassiveStake` writes it. -/
def victimLock : PassiveStakeAccount :=
  { authority := victim, amount := 1000000000, lockDays := RustInt.u64Max, lockStart := 0,
    lockEnd := 0, unclaimedRewards := 0, lastRewardEpoch := 0, isPermanent := true,
    voteWeightBps := 15000 }

/-- The bank after the setup. -/
def fundedBank : Bank := Bank.replay ID entrypoint drainBank drainSetup

/-- The bank after the claim. -/
def drainedBank : Bank := Bank.replay ID entrypoint fundedBank [(.claimRewards, claimFromVictim)]

/-- From a run of the program, a `ClaimRewards` signed only by `attacker` is accepted and takes
`5 × 10⁸` of the `10⁹` lamports locked permanently by `victim`, whose position stays as it was. -/
theorem claimRewards_drains_permanent_position :
    Bank.Reachable ID entrypoint drainBank fundedBank ∧
      positionAt ID fundedBank.accounts 1 = some victimLock ∧
      (claimFromVictim.accounts.filter (·.isSigner)).map
        (fun a => fundedBank.keys[a.indexInTransaction]?) = [some attacker] ∧
      fundedBank.invoke ID (entrypoint .claimRewards) claimFromVictim = .ok drainedBank ∧
      (fundedBank.accounts[1]?).map (·.lamports) = some 1001500000 ∧
      (drainedBank.accounts[1]?).map (·.lamports) = some 501500000 ∧
      positionAt ID drainedBank.accounts 1 = some victimLock := by
  refine ⟨Bank.reachable_replay ID entrypoint drainBank drainSetup, ?_, ?_,
    Bank.invoke_eq_ok_replay ID entrypoint (by decide +kernel), ?_, ?_, ?_⟩
  all_goals decide +kernel

end TRv1.PassiveStake
