import TRv1.Treasury.Processor
import TRv1.Runtime.Frame

/-!
# What the treasury handlers do when they succeed

A step lemma per helper (`signerKey_bind_eq_ok`, `loadAuthorizedConfig_bind_eq_ok`,
`saveConfig_bind_eq_ok`), and from them an inversion lemma per handler that states what it
checked and the writes it made (`processDisburse_eq_ok`, ...).

An accepted `Disburse` moves `amount` from the account at position `2` to the account at
position `3`, whose key is the recipient, and changes no other balance; the signer is the
authority of the config at position `1`, whose `total_disbursed` grows by `amount`, unless the
disbursement drained the config's own account, which the bank then deallocates
(`disburse_moves_amount`). Nothing in it relates the account at position `2` to that config, so
a config of one's own drains the treasury account of another
(`disburse_drains_treasury_under_foreign_config`).

Every accepted instruction keeps each config at its index with its `treasury_account` and its
`total_received`, does not lower its `total_disbursed` and does not turn governance off, unless it
drained the config's account; a config it creates has nothing received
(`invoke_configsGrow`).
-/

set_option autoImplicit false

namespace TRv1.Treasury

open TRv1.Runtime StateExcept

/-- The config that the account at index `j` holds for the treasury program. -/
def configAt (accounts : List Account) (j : Nat) : Option TreasuryConfig :=
  programState ID TreasuryConfig.deserialize accounts j

/-- A drained account holds no config once it is deallocated. -/
theorem configAt_map_deallocate (accounts : List Account) (j : Nat) :
    configAt (accounts.map deallocate) j =
      if lamportsAt accounts j = 0 then none else configAt accounts j :=
  programState_map_deallocate (by decide) j

/-! ## Steps of a handler -/

section Steps

variable {n : Nat} (ic : InstructionContext) {s s' s'' : TransactionAccounts n} {β : Type} {b : β}

theorem requireSigner_bind_eq_ok {f : Unit → Exec n β}
    (h : (requireSigner ic >>= f).run s = .ok (b, s'')) :
    ∃ a : InstructionAccount, ic.accounts[0]? = some a ∧ a.isSigner = true ∧
      (f ()).run s = .ok (b, s'') := by
  rw [requireSigner, bind_assoc] at h
  obtain ⟨a, ha, h⟩ := ic.isInstructionAccountSigner_bind_eq_ok h
  obtain ⟨hsigner, h⟩ := failIf_bind_eq_ok h
  exact ⟨a, ha, by simpa using hsigner, h⟩

theorem signerKey_bind_eq_ok {f : Pubkey → Exec n β}
    (h : (signerKey ic >>= f).run s = .ok (b, s'')) :
    ∃ (a : InstructionAccount) (k : Pubkey), ic.accounts[0]? = some a ∧ a.isSigner = true ∧
      ic.keys[a.indexInTransaction]? = some k ∧ (f k).run s = .ok (b, s'') := by
  rw [signerKey, bind_assoc] at h
  obtain ⟨a, ha, hsigner, h⟩ := requireSigner_bind_eq_ok ic h
  obtain ⟨a', k, ha', hk, h⟩ := ic.getKeyOfInstructionAccount_bind_eq_ok h
  obtain rfl : a = a' := Option.some.inj (ha.symm.trans ha')
  exact ⟨a, k, ha, hsigner, hk, h⟩

theorem loadAuthorizedConfig_bind_eq_ok {signer : Pubkey} {f : TreasuryConfig → Exec n β}
    (h : (loadAuthorizedConfig ic signer >>= f).run s = .ok (b, s'')) :
    ∃ (a : InstructionAccount) (acc : Account) (config : TreasuryConfig), ic.accounts[1]? = some a ∧
      s.accounts[a.indexInTransaction]? = some acc ∧
      acc.owner = ic.programId ∧ TreasuryConfig.deserialize acc.data = some config ∧
      config.authority = signer ∧ (f config).run s = .ok (b, s'') := by
  simp only [loadAuthorizedConfig, bind_assoc, pure_bind] at h
  obtain ⟨a, acc, ha, hacc, h⟩ := ic.borrowAccount_bind_eq_ok h
  obtain ⟨hown, h⟩ := failIf_bind_eq_ok h
  obtain ⟨config, hconfig, h⟩ := requireSome_bind_eq_ok h
  obtain ⟨hauth, h⟩ := failIf_bind_eq_ok h
  exact ⟨a, acc, config, ha, hacc, by simpa using hown, hconfig, by simpa using hauth, h⟩

theorem saveConfig_bind_eq_ok {config : TreasuryConfig} {f : Unit → Exec n β}
    (h : (saveConfig ic config >>= f).run s = .ok (b, s'')) :
    ∃ (a : InstructionAccount) (acc : Account) (data : List UInt8) (s₁ : TransactionAccounts n),
      ic.accounts[1]? = some a ∧ s.accounts[a.indexInTransaction]? = some acc ∧
      acc.owner = ic.programId ∧ config.serializeInto acc.data = some data ∧
      s₁.accounts = s.accounts.set a.indexInTransaction { acc with data := data } ∧
      (f ()).run s₁ = .ok (b, s'') := by
  simp only [saveConfig, bind_assoc] at h
  obtain ⟨a, acc, ha, hacc, h⟩ := ic.borrowAccount_bind_eq_ok h
  obtain ⟨data, hdata, h⟩ := requireSome_bind_eq_ok h
  obtain ⟨a', acc', s₁, ha', hacc', hown, hs₁, h⟩ := ic.setDataFromSlice_bind_eq_ok h
  obtain rfl : a = a' := Option.some.inj (ha.symm.trans ha')
  obtain rfl : acc = acc' := Option.some.inj (hacc.symm.trans hacc')
  exact ⟨a, acc, data, s₁, ha, hacc, hown, hdata, hs₁, h⟩

/-- `saveConfig` as the last line of a handler. -/
theorem saveConfig_eq_ok {config : TreasuryConfig} {u : Unit}
    (h : (saveConfig ic config).run s = .ok (u, s')) :
    ∃ (a : InstructionAccount) (acc : Account) (data : List UInt8), ic.accounts[1]? = some a ∧
      s.accounts[a.indexInTransaction]? = some acc ∧
      acc.owner = ic.programId ∧ config.serializeInto acc.data = some data ∧
      s'.accounts = s.accounts.set a.indexInTransaction { acc with data := data } := by
  rw [← bind_pure (saveConfig ic config)] at h
  obtain ⟨a, acc, data, s₁, ha, hacc, hown, hdata, hs₁, h⟩ := saveConfig_bind_eq_ok ic h
  rw [(run_pure_eq_ok h).2]
  exact ⟨a, acc, data, ha, hacc, hown, hdata, hs₁⟩

end Steps

/-! ## The handlers -/

section Handlers

variable {n : Nat} (ic : InstructionContext) {s s' : TransactionAccounts n} {u : Unit}

/-- An accepted `InitializeTreasury` wrote a fresh config, with nothing received or disbursed,
over an account of the program that did not start with the discriminator. -/
theorem processInitializeTreasury_eq_ok {authority treasuryAccount : Pubkey}
    (h : (processInitializeTreasury ic authority treasuryAccount).run s = .ok (u, s')) :
    ∃ (a : InstructionAccount) (acc : Account) (data : List UInt8), ic.accounts[1]? = some a ∧
      s.accounts[a.indexInTransaction]? = some acc ∧
      acc.owner = ic.programId ∧ acc.data.head? ≠ some treasuryConfigDiscriminator ∧
      TreasuryConfig.serializeInto
        { authority := authority, treasuryAccount := treasuryAccount, governanceActive := false,
          totalReceived := 0, totalDisbursed := 0, lastUpdatedEpoch := ic.clock.epoch }
        (zeroExtend acc.data TreasuryConfig.serializedSize) = some data ∧
      s'.accounts = s.accounts.set a.indexInTransaction { acc with data := data } := by
  obtain ⟨-, h⟩ := ic.checkNumberOfInstructionAccounts_bind_eq_ok h
  obtain ⟨-, -, -, h⟩ := requireSigner_bind_eq_ok ic h
  obtain ⟨a, acc, ha, hacc, h⟩ := ic.borrowAccount_bind_eq_ok h
  obtain ⟨hown, h⟩ := failIf_bind_eq_ok h
  obtain ⟨hfresh, h⟩ := failIf_bind_eq_ok h
  -- the second borrow reads the same account, as nothing was written in between
  obtain ⟨a', acc', ha', hacc', h⟩ := ic.borrowAccount_bind_eq_ok h
  obtain rfl : a = a' := Option.some.inj (ha.symm.trans ha')
  obtain rfl : acc = acc' := Option.some.inj (hacc.symm.trans hacc')
  obtain ⟨data, hdata, h⟩ := requireSome_bind_eq_ok h
  obtain ⟨a', acc', ha', hacc', -, -, -, hs'⟩ := ic.setDataFromSlice_eq_ok h
  obtain rfl : a = a' := Option.some.inj (ha.symm.trans ha')
  obtain rfl : acc = acc' := Option.some.inj (hacc.symm.trans hacc')
  exact ⟨a, acc, data, ha, hacc, by simpa using hown, by simpa using hfresh, hdata, hs'⟩

/-- An accepted `UpdateAuthority` was signed by the authority of the config at position `1`,
and rewrote that config with the new authority. -/
theorem processUpdateAuthority_eq_ok {newAuthority : Pubkey}
    (h : (processUpdateAuthority ic newAuthority).run s = .ok (u, s')) :
    ∃ (a₀ : InstructionAccount) (signer : Pubkey) (a : InstructionAccount) (acc : Account)
      (config : TreasuryConfig) (data : List UInt8),
      ic.accounts[0]? = some a₀ ∧ a₀.isSigner = true ∧
      ic.keys[a₀.indexInTransaction]? = some signer ∧ ic.accounts[1]? = some a ∧
      s.accounts[a.indexInTransaction]? = some acc ∧ acc.owner = ic.programId ∧
      TreasuryConfig.deserialize acc.data = some config ∧ config.authority = signer ∧
      TreasuryConfig.serializeInto
        { config with authority := newAuthority, lastUpdatedEpoch := ic.clock.epoch } acc.data =
        some data ∧
      s'.accounts = s.accounts.set a.indexInTransaction { acc with data := data } := by
  obtain ⟨-, h⟩ := ic.checkNumberOfInstructionAccounts_bind_eq_ok h
  obtain ⟨a₀, signer, ha₀, hsigner, hkey, h⟩ := signerKey_bind_eq_ok ic h
  obtain ⟨a, acc, config, ha, hacc, hown, hconfig, hauth, h⟩ :=
    loadAuthorizedConfig_bind_eq_ok ic h
  obtain ⟨a', acc', data, ha', hacc', -, hdata, hs'⟩ := saveConfig_eq_ok ic h
  obtain rfl : a = a' := Option.some.inj (ha.symm.trans ha')
  obtain rfl : acc = acc' := Option.some.inj (hacc.symm.trans hacc')
  exact ⟨a₀, signer, a, acc, config, data, ha₀, hsigner, hkey, ha, hacc, hown, hconfig, hauth,
    hdata, hs'⟩

/-- An accepted `ActivateGovernance` was signed by the authority of the config at position `1`,
found governance inactive, and rewrote the config with it active. -/
theorem processActivateGovernance_eq_ok
    (h : (processActivateGovernance ic).run s = .ok (u, s')) :
    ∃ (a₀ : InstructionAccount) (signer : Pubkey) (a : InstructionAccount) (acc : Account)
      (config : TreasuryConfig) (data : List UInt8),
      ic.accounts[0]? = some a₀ ∧ a₀.isSigner = true ∧
      ic.keys[a₀.indexInTransaction]? = some signer ∧ ic.accounts[1]? = some a ∧
      s.accounts[a.indexInTransaction]? = some acc ∧ acc.owner = ic.programId ∧
      TreasuryConfig.deserialize acc.data = some config ∧ config.authority = signer ∧
      config.governanceActive = false ∧
      TreasuryConfig.serializeInto
        { config with governanceActive := true, lastUpdatedEpoch := ic.clock.epoch } acc.data =
        some data ∧
      s'.accounts = s.accounts.set a.indexInTransaction { acc with data := data } := by
  obtain ⟨-, h⟩ := ic.checkNumberOfInstructionAccounts_bind_eq_ok h
  obtain ⟨a₀, signer, ha₀, hsigner, hkey, h⟩ := signerKey_bind_eq_ok ic h
  obtain ⟨a, acc, config, ha, hacc, hown, hconfig, hauth, h⟩ :=
    loadAuthorizedConfig_bind_eq_ok ic h
  obtain ⟨hinactive, h⟩ := failIf_bind_eq_ok h
  obtain ⟨a', acc', data, ha', hacc', -, hdata, hs'⟩ := saveConfig_eq_ok ic h
  obtain rfl : a = a' := Option.some.inj (ha.symm.trans ha')
  obtain rfl : acc = acc' := Option.some.inj (hacc.symm.trans hacc')
  exact ⟨a₀, signer, a, acc, config, data, ha₀, hsigner, hkey, ha, hacc, hown, hconfig, hauth,
    hinactive, hdata, hs'⟩

/-- A transfer moves lamports only: every account holds the config it held. -/
theorem transferLamports_configAt {amount : UInt64}
    (h : (transferLamports ic amount).run s = .ok (u, s')) (j : Nat) :
    configAt s'.accounts j = configAt s.accounts j :=
  ic.transferLamports_programState h j

/-- An accepted `Disburse` passed its checks and rewrote the config at position `1` with the new
total, then made the transfer. -/
theorem processDisburse_eq_ok {amount : UInt64} {recipient : Pubkey} {memo : List UInt8}
    (h : (processDisburse ic amount recipient memo).run s = .ok (u, s')) :
    amount ≠ 0 ∧ memo.length ≤ maxMemoLen ∧
    ∃ (a₀ : InstructionAccount) (signer : Pubkey) (a₁ : InstructionAccount) (acc₁ : Account)
      (config : TreasuryConfig) (total : UInt64) (data : List UInt8) (a₃ : InstructionAccount)
      (s₁ : TransactionAccounts n),
      ic.accounts[0]? = some a₀ ∧ a₀.isSigner = true ∧
      ic.keys[a₀.indexInTransaction]? = some signer ∧
      ic.accounts[1]? = some a₁ ∧ s.accounts[a₁.indexInTransaction]? = some acc₁ ∧
      acc₁.owner = ic.programId ∧ TreasuryConfig.deserialize acc₁.data = some config ∧
      config.authority = signer ∧
      ic.accounts[3]? = some a₃ ∧ ic.keys[a₃.indexInTransaction]? = some recipient ∧
      total.toNat = config.totalDisbursed.toNat + amount.toNat ∧
      TreasuryConfig.serializeInto
        { config with totalDisbursed := total, lastUpdatedEpoch := ic.clock.epoch } acc₁.data =
        some data ∧
      s₁.accounts = s.accounts.set a₁.indexInTransaction { acc₁ with data := data } ∧
      (transferLamports ic amount).run s₁ = .ok (u, s') := by
  obtain ⟨-, h⟩ := ic.checkNumberOfInstructionAccounts_bind_eq_ok h
  obtain ⟨hzero, h⟩ := failIf_bind_eq_ok h
  obtain ⟨hmemo, h⟩ := failIf_bind_eq_ok h
  obtain ⟨a₀, signer, ha₀, hsigner, hkey, h⟩ := signerKey_bind_eq_ok ic h
  obtain ⟨a₁, acc₁, config, ha₁, hacc₁, hown, hconfig, hauth, h⟩ :=
    loadAuthorizedConfig_bind_eq_ok ic h
  obtain ⟨a₃, key₃, ha₃, hkey₃, h⟩ := ic.getKeyOfInstructionAccount_bind_eq_ok h
  obtain ⟨hrecipient, h⟩ := failIf_bind_eq_ok h
  obtain ⟨total, htotal, h⟩ := requireSome_bind_eq_ok h
  obtain ⟨a₁', acc₁', data, s₁, ha₁', hacc₁', -, hdata, hs₁, h⟩ := saveConfig_bind_eq_ok ic h
  obtain rfl : a₁ = a₁' := Option.some.inj (ha₁.symm.trans ha₁')
  obtain rfl : acc₁ = acc₁' := Option.some.inj (hacc₁.symm.trans hacc₁')
  have hrec : key₃ = recipient := by simpa using hrecipient
  exact ⟨by simpa using hzero, by simpa using hmemo, a₀, signer, a₁, acc₁, config, total, data,
    a₃, s₁, ha₀, hsigner, hkey, ha₁, hacc₁, hown, hconfig, hauth, ha₃, hrec ▸ hkey₃,
    (RustInt.checkedAdd_eq_some.mp htotal).2, hdata, hs₁, h⟩

end Handlers

/-- An accepted `Disburse` was signed by the authority of the config at position `1`, whose
`total_disbursed` grew by `amount`, unless the disbursement drained that config's account, which
is then deallocated; it took `amount` from the account at position `2` and gave it to the
account at position `3`, which is the recipient's, and changed no other balance. -/
theorem disburse_moves_amount {b b' : Bank} {inv : Invocation} {amount : UInt64}
    {recipient : Pubkey} {memo : List UInt8}
    (h : b.invoke ID (entrypoint (.disburse amount recipient memo)) inv = .ok b') :
    ∃ (a₀ a₁ a₂ a₃ : InstructionAccount) (config : TreasuryConfig) (total : UInt64),
      inv.accounts[0]? = some a₀ ∧ a₀.isSigner = true ∧
      b.keys[a₀.indexInTransaction]? = some config.authority ∧ inv.accounts[1]? = some a₁ ∧
      configAt b.accounts a₁.indexInTransaction = some config ∧
      configAt b'.accounts a₁.indexInTransaction =
        (if lamportsAt b'.accounts a₁.indexInTransaction = 0 then none
          else some { config with totalDisbursed := total, lastUpdatedEpoch := inv.clock.epoch }) ∧
      total.toNat = config.totalDisbursed.toNat + amount.toNat ∧
      inv.accounts[2]? = some a₂ ∧ inv.accounts[3]? = some a₃ ∧
      b.keys[a₃.indexInTransaction]? = some recipient ∧
      ∀ j, lamportsAt b'.accounts j + (if j = a₂.indexInTransaction then amount.toNat else 0) =
        lamportsAt b.accounts j + (if j = a₃.indexInTransaction then amount.toNat else 0) := by
  obtain ⟨s, hs, -, rfl⟩ := Bank.invoke_eq_ok h
  obtain ⟨hrun, -⟩ := processInstruction_eq_ok hs
  obtain ⟨-, -, a₀, signer, a₁, acc₁, config, total, data, a₃, s₁, ha₀, hsigner, hkey, ha₁, hacc₁,
    hown, hconfig, hauth, ha₃, hkey₃, htotal, hdata, hs₁, htransfer⟩ := processDisburse_eq_ok _ hrun
  obtain ⟨a₂, a₃', ha₂, ha₃', hmoved⟩ :=
    InstructionContext.transferLamports_lamportsAt _ htransfer
  obtain rfl : a₃ = a₃' := Option.some.inj (ha₃.symm.trans ha₃')
  rw [TransactionAccounts.start_accounts] at hacc₁ hs₁
  have hown : acc₁.owner = ID := hown
  -- the bookkeeping write moved no lamports, and the transfer left the config alone
  have hbefore : ∀ j, lamportsAt s₁.accounts j = lamportsAt b.accounts j := by
    intro j
    rw [hs₁, lamportsAt_set_data hacc₁]
  have hafter : configAt s.accounts a₁.indexInTransaction =
      some { config with totalDisbursed := total, lastUpdatedEpoch := inv.clock.epoch } := by
    rw [transferLamports_configAt _ htransfer, configAt, hs₁, programState_set_data_self hacc₁ hown]
    exact TreasuryConfig.deserialize_serializeInto hdata
  refine ⟨a₀, a₁, a₂, a₃, config, total, ha₀, hsigner, hauth ▸ hkey, ha₁, ?_, ?_,
    htotal, ha₂, ha₃, hkey₃, fun j => ?_⟩
  · rw [configAt, programState_of_getElem? hacc₁ hown]
    exact hconfig
  · -- the bank keeps the config unless deallocation took the drained account away
    rw [configAt_map_deallocate, hafter, lamportsAt_map_deallocate]
  · rw [lamportsAt_map_deallocate, ← hbefore]
    exact hmoved j

/-! ## A disbursement under a config of one's own

`Disburse` checks its signer against the config it is handed at position `1` and debits
whatever account of the program is at position `2`. `InitializeTreasury` lets anyone who signs
initialise an empty account of the program as a config, naming any authority, and anyone can
create such an account (the system program assigns a new account to any owner). So `mallory`
initialises a config of its own and, signing as its authority, disburses the whole balance of
the treasury account of the genesis config to itself; the genesis config's authority signs
nothing and its `total_disbursed` stays `0`. -/

/-- The authority of the genesis config. -/
def genesisAuthority : Pubkey := ⟨51⟩

/-- The genesis config account. -/
def genesisConfig : Pubkey := ⟨52⟩

/-- The treasury account that the genesis config names. -/
def treasuryVault : Pubkey := ⟨53⟩

/-- The author of the other config. -/
def mallory : Pubkey := ⟨54⟩

/-- The account `mallory` creates for the program. -/
def rogueConfig : Pubkey := ⟨55⟩

/-- Before genesis: two wallets, the empty genesis config account, the treasury account with
`10⁹` lamports, and the empty account `mallory` created for the program; the two config accounts
are funded for the configs they will hold. -/
def genesisBank : Bank :=
  { keys := [genesisAuthority, genesisConfig, treasuryVault, mallory, rogueConfig]
    accounts := [⟨0, [], ⟨0⟩⟩, ⟨1000000000, [], ID⟩, ⟨1000000000, [], ID⟩, ⟨0, [], ⟨0⟩⟩,
      ⟨1000000000, [], ID⟩]
    rent := exampleRent }

/-- Epoch `1`. -/
def epochOne : Clock := ⟨0, 1, 0⟩

/-- The genesis config, then `mallory`'s, naming `mallory` as its authority and treasury
account. -/
def genesisSchedule : List (TreasuryInstruction × Invocation) :=
  [(.initializeTreasury genesisAuthority treasuryVault,
     ⟨[⟨0, true, true⟩, ⟨1, false, true⟩], epochOne⟩),
   (.initializeTreasury mallory mallory, ⟨[⟨3, true, true⟩, ⟨4, false, true⟩], epochOne⟩)]

/-- `Disburse` of the treasury account's whole balance to `mallory`. -/
def drainAll : TreasuryInstruction := .disburse 1000000000 mallory []

/-- `drainAll` signed by `mallory`, with the config at index `config` of the bank, the treasury
account as the source and `mallory`'s wallet as the recipient. -/
def drainWith (config : Nat) : Invocation :=
  ⟨[⟨3, true, true⟩, ⟨config, false, true⟩, ⟨2, false, true⟩, ⟨3, false, true⟩], epochOne⟩

/-- The bank after genesis. -/
def initializedBank : Bank := Bank.replay ID entrypoint genesisBank genesisSchedule

/-- The bank after the disbursement under `mallory`'s config. -/
def drainedBank : Bank :=
  Bank.replay ID entrypoint genesisBank (genesisSchedule ++ [(drainAll, drainWith 4)])

/-- The disbursement under `mallory`'s config is accepted. -/
theorem initializedBank_invoke_drain :
    initializedBank.invoke ID (entrypoint drainAll) (drainWith 4) = .ok drainedBank := by
  rw [drainedBank, Bank.replay_append]
  exact Bank.invoke_eq_ok_replay ID entrypoint (by decide +kernel)

/-- From a run of the program: after genesis the config at index `1` has `genesisAuthority` as
its authority and the treasury account as its treasury account, and a `Disburse` by `mallory`
under it fails with `AuthorityMismatch`; under the config `mallory` initialised at index `4` it
is accepted, and the treasury account's `10⁹` lamports go to `mallory`, while the genesis config
still records nothing disbursed. -/
theorem disburse_drains_treasury_under_foreign_config :
    Bank.Reachable ID entrypoint genesisBank drainedBank ∧
      configAt initializedBank.accounts 1 =
        some ⟨genesisAuthority, treasuryVault, false, 0, 0, 1⟩ ∧
      configAt initializedBank.accounts 4 = some ⟨mallory, mallory, false, 0, 0, 1⟩ ∧
      initializedBank.invoke ID (entrypoint drainAll) (drainWith 1) =
        .error TreasuryError.authorityMismatch.into ∧
      initializedBank.invoke ID (entrypoint drainAll) (drainWith 4) = .ok drainedBank ∧
      lamportsAt initializedBank.accounts 2 = 1000000000 ∧ lamportsAt drainedBank.accounts 2 = 0 ∧
      lamportsAt drainedBank.accounts 3 = 1000000000 ∧
      configAt drainedBank.accounts 1 = configAt initializedBank.accounts 1 := by
  refine ⟨Bank.reachable_replay ID entrypoint genesisBank _, ?_, ?_,
    Bank.invoke_eq_error (by decide +kernel), initializedBank_invoke_drain, ?_, ?_, ?_, ?_⟩
  all_goals decide +kernel

/-- `disburse_moves_amount` at the disbursement of the run: the debited account is the treasury
account at index `2` and the credited one `mallory`'s wallet at index `3`. -/
theorem drainAll_moves_amount :
    initializedBank.invoke ID (entrypoint (.disburse 1000000000 mallory [])) (drainWith 4) =
        .ok drainedBank ∧
      ∃ (a₀ a₁ a₂ a₃ : InstructionAccount) (config : TreasuryConfig) (total : UInt64),
        (drainWith 4).accounts[0]? = some a₀ ∧ a₀.isSigner = true ∧
        initializedBank.keys[a₀.indexInTransaction]? = some config.authority ∧
        (drainWith 4).accounts[1]? = some a₁ ∧
        configAt initializedBank.accounts a₁.indexInTransaction = some config ∧
        configAt drainedBank.accounts a₁.indexInTransaction =
          (if lamportsAt drainedBank.accounts a₁.indexInTransaction = 0 then none
            else some { config with totalDisbursed := total, lastUpdatedEpoch := 1 }) ∧
        total.toNat = config.totalDisbursed.toNat + (1000000000 : UInt64).toNat ∧
        (drainWith 4).accounts[2]? = some a₂ ∧ (drainWith 4).accounts[3]? = some a₃ ∧
        initializedBank.keys[a₃.indexInTransaction]? = some mallory ∧
        ∀ j, lamportsAt drainedBank.accounts j +
            (if j = a₂.indexInTransaction then (1000000000 : UInt64).toNat else 0) =
          lamportsAt initializedBank.accounts j +
            (if j = a₃.indexInTransaction then (1000000000 : UInt64).toNat else 0) := by
  exact ⟨initializedBank_invoke_drain, disburse_moves_amount initializedBank_invoke_drain⟩

/-! ## How configs change along a run -/

/-- What an instruction may do to a config: keep its treasury account and its
`total_received`, not lower its `total_disbursed`, and not turn governance off. -/
structure ConfigStep (c c' : TreasuryConfig) : Prop where
  treasuryAccount_eq : c'.treasuryAccount = c.treasuryAccount
  totalReceived_eq : c'.totalReceived = c.totalReceived
  totalDisbursed_le : c.totalDisbursed.toNat ≤ c'.totalDisbursed.toNat
  governanceActive_le : c.governanceActive = true → c'.governanceActive = true

theorem ConfigStep.refl (c : TreasuryConfig) : ConfigStep c c :=
  ⟨rfl, rfl, le_rfl, id⟩

theorem ConfigStep.trans {c c' c'' : TreasuryConfig} (h : ConfigStep c c')
    (h' : ConfigStep c' c'') : ConfigStep c c'' :=
  ⟨h'.1.trans h.1, h'.2.trans h.2, h.3.trans h'.3, fun hc => h'.4 (h.4 hc)⟩

/-- Every config of `accounts` is held at the same index of `accounts'`, changed only as
`ConfigStep` allows, and every config of `accounts'` at an index where `accounts` held none has
received nothing. -/
structure ConfigsGrow (accounts accounts' : List Account) : Prop where
  kept : ∀ j c, configAt accounts j = some c →
    ∃ c', configAt accounts' j = some c' ∧ ConfigStep c c'
  fresh : ∀ j c', configAt accounts' j = some c' → configAt accounts j = none →
    c'.totalReceived = 0

namespace ConfigsGrow

theorem refl (accounts : List Account) : ConfigsGrow accounts accounts :=
  ⟨fun _ c hc => ⟨c, hc, ConfigStep.refl c⟩, fun _ _ hc hnone => by rw [hnone] at hc; cases hc⟩

theorem trans {as bs cs : List Account} (hab : ConfigsGrow as bs) (hbc : ConfigsGrow bs cs) :
    ConfigsGrow as cs := by
  constructor
  · intro j c hc
    obtain ⟨c', hc', hstep⟩ := hab.kept j c hc
    obtain ⟨c'', hc'', hstep'⟩ := hbc.kept j c' hc'
    exact ⟨c'', hc'', hstep.trans hstep'⟩
  · intro j c'' hc'' hnone
    -- a config new since `as` was either new in `bs` already, or is new since `bs`
    cases hb : configAt bs j with
    | none => exact hbc.fresh j c'' hc'' hb
    | some c' =>
      obtain ⟨c₂, hc₂, hstep⟩ := hbc.kept j c' hb
      obtain rfl : c₂ = c'' := Option.some.inj (hc₂.symm.trans hc'')
      rw [hstep.totalReceived_eq]
      exact hab.fresh j c' hb hnone

instance : IsPreorder (List Account) ConfigsGrow where
  refl := refl
  trans _ _ _ := trans

theorem of_eq {accounts accounts' : List Account}
    (h : ∀ j, configAt accounts' j = configAt accounts j) : ConfigsGrow accounts accounts' := by
  constructor
  · intro j c hc
    exact ⟨c, (h j).trans hc, ConfigStep.refl c⟩
  · intro j c' hc' hnone
    rw [h j, hnone] at hc'
    cases hc'

variable {accounts : List Account} {i : Nat} {acc : Account}

theorem set_lamports (h : accounts[i]? = some acc) (v : UInt64) :
    ConfigsGrow accounts (accounts.set i { acc with lamports := v }) :=
  of_eq (programState_set_lamports h v)

/-- New data in an account of the program that holds the config `c'`: a step from the config
the account held, if any, and a config that has received nothing if it held none. -/
theorem set_data (h : accounts[i]? = some acc) (hown : acc.owner = ID) {data : List UInt8}
    {c' : TreasuryConfig} (hc' : TreasuryConfig.deserialize data = some c')
    (hstep : ∀ c, TreasuryConfig.deserialize acc.data = some c → ConfigStep c c')
    (hfresh : TreasuryConfig.deserialize acc.data = none → c'.totalReceived = 0) :
    ConfigsGrow accounts (accounts.set i { acc with data := data }) := by
  have hnew : configAt (accounts.set i { acc with data := data }) i = some c' := by
    rw [configAt, programState_set_data_self h hown, hc']
  have hold : configAt accounts i = TreasuryConfig.deserialize acc.data :=
    programState_of_getElem? h hown
  constructor
  · intro j c hc
    by_cases hij : i = j
    · subst hij
      exact ⟨c', hnew, hstep c (hold ▸ hc)⟩
    · exact ⟨c, (programState_set_ne hij _).trans hc, ConfigStep.refl c⟩
  · intro j c'' hc'' hnone
    by_cases hij : i = j
    · subst hij
      obtain rfl : c' = c'' := Option.some.inj (hnew.symm.trans hc'')
      exact hfresh (hold ▸ hnone)
    · rw [configAt, programState_set_ne hij] at hc''
      rw [configAt] at hnone
      rw [hnone] at hc''
      cases hc''

end ConfigsGrow

section Handlers

variable {n : Nat} (ic : InstructionContext) {s s' : TransactionAccounts n} {u : Unit}

/-- The config read at an index is the one the account there deserializes to. -/
theorem configStep_of_rewrite {data : List UInt8} {config c' : TreasuryConfig}
    (hconfig : TreasuryConfig.deserialize data = some config) (hstep : ConfigStep config c') :
    ∀ c, TreasuryConfig.deserialize data = some c → ConfigStep c c' := by
  intro c hc
  obtain rfl : config = c := Option.some.inj (hconfig.symm.trans hc)
  exact hstep

theorem processInitializeTreasury_configsGrow {authority treasuryAccount : Pubkey}
    (hid : ic.programId = ID)
    (h : (processInitializeTreasury ic authority treasuryAccount).run s = .ok (u, s')) :
    ConfigsGrow s.accounts s'.accounts := by
  obtain ⟨_, acc, data, -, hacc, hown, hfresh, hdata, hs'⟩ := processInitializeTreasury_eq_ok ic h
  -- the account did not start with the discriminator, so it held no config
  have hnone : TreasuryConfig.deserialize acc.data = none := Borsh.deserializeTagged_of_head hfresh
  rw [hs']
  refine ConfigsGrow.set_data hacc (hown.trans hid) (TreasuryConfig.deserialize_serializeInto hdata)
    ?_ (fun _ => rfl)
  intro c hc
  rw [hnone] at hc
  cases hc

theorem processUpdateAuthority_configsGrow {newAuthority : Pubkey} (hid : ic.programId = ID)
    (h : (processUpdateAuthority ic newAuthority).run s = .ok (u, s')) :
    ConfigsGrow s.accounts s'.accounts := by
  obtain ⟨_, _, _, acc, config, _, -, -, -, -, hacc, hown, hconfig, -, hdata, hs'⟩ :=
    processUpdateAuthority_eq_ok ic h
  rw [hs']
  refine ConfigsGrow.set_data hacc (hown.trans hid) (TreasuryConfig.deserialize_serializeInto hdata)
    (configStep_of_rewrite hconfig ⟨rfl, rfl, le_rfl, id⟩) ?_
  intro hnone
  rw [hnone] at hconfig
  cases hconfig

theorem processActivateGovernance_configsGrow (hid : ic.programId = ID)
    (h : (processActivateGovernance ic).run s = .ok (u, s')) :
    ConfigsGrow s.accounts s'.accounts := by
  obtain ⟨_, _, _, acc, config, _, -, -, -, -, hacc, hown, hconfig, -, -, hdata, hs'⟩ :=
    processActivateGovernance_eq_ok ic h
  rw [hs']
  refine ConfigsGrow.set_data hacc (hown.trans hid) (TreasuryConfig.deserialize_serializeInto hdata)
    (configStep_of_rewrite hconfig ⟨rfl, rfl, le_rfl, fun _ => rfl⟩) ?_
  intro hnone
  rw [hnone] at hconfig
  cases hconfig

theorem processDisburse_configsGrow {amount : UInt64} {recipient : Pubkey} {memo : List UInt8}
    (hid : ic.programId = ID) (h : (processDisburse ic amount recipient memo).run s = .ok (u, s')) :
    ConfigsGrow s.accounts s'.accounts := by
  obtain ⟨-, -, _, _, _, acc₁, config, total, _, _, s₁, -, -, -, -, hacc₁, hown, hconfig, -, -, -,
    htotal, hdata, hs₁, htransfer⟩ := processDisburse_eq_ok ic h
  -- the bookkeeping raises `total_disbursed`; the transfer only moves lamports
  have hstep : ConfigStep config
      { config with totalDisbursed := total, lastUpdatedEpoch := ic.clock.epoch } :=
    ⟨rfl, rfl, by simp only [htotal]; omega, id⟩
  have h₁ : ConfigsGrow s.accounts s₁.accounts := by
    rw [hs₁]
    refine ConfigsGrow.set_data hacc₁ (hown.trans hid)
      (TreasuryConfig.deserialize_serializeInto hdata) (configStep_of_rewrite hconfig hstep) ?_
    intro hnone
    rw [hnone] at hconfig
    cases hconfig
  exact h₁.trans (ConfigsGrow.of_eq (transferLamports_configAt ic htransfer))

theorem process_configsGrow (instr : TreasuryInstruction) (hid : ic.programId = ID)
    (h : (process ic instr).run s = .ok (u, s')) : ConfigsGrow s.accounts s'.accounts := by
  cases instr with
  | initializeTreasury authority treasuryAccount =>
    exact processInitializeTreasury_configsGrow ic hid h
  | disburse amount recipient memo => exact processDisburse_configsGrow ic hid h
  | updateAuthority newAuthority => exact processUpdateAuthority_configsGrow ic hid h
  | activateGovernance => exact processActivateGovernance_configsGrow ic hid h

end Handlers

/-- Every accepted instruction of the program keeps each config at its index, changed only as
`ConfigStep` allows, unless it drained the config's account, which the bank then deallocates;
and every config it leaves where there was none has received nothing. -/
theorem invoke_configsGrow {b b' : Bank} {instr : TreasuryInstruction} {inv : Invocation}
    (h : b.invoke ID (entrypoint instr) inv = .ok b') :
    (∀ j c, configAt b.accounts j = some c →
      (∃ c', configAt b'.accounts j = some c' ∧ ConfigStep c c') ∨
        lamportsAt b'.accounts j = 0) ∧
    (∀ j c', configAt b'.accounts j = some c' → configAt b.accounts j = none →
      c'.totalReceived = 0) := by
  obtain ⟨s, hs, -, rfl⟩ := Bank.invoke_eq_ok h
  obtain ⟨hrun, -⟩ := processInstruction_eq_ok hs
  -- the instruction's own run grows the configs; deallocation only takes drained ones away
  have hgrow := process_configsGrow (Bank.context b ID inv) instr rfl hrun
  rw [TransactionAccounts.start_accounts] at hgrow
  constructor
  · intro j c hc
    rw [lamportsAt_map_deallocate]
    by_cases hzero : lamportsAt s.accounts j = 0
    · exact Or.inr hzero
    · rw [configAt_map_deallocate, if_neg hzero]
      exact Or.inl (hgrow.kept j c hc)
  · intro j c' hc' hnone
    rw [configAt_map_deallocate] at hc'
    split at hc'
    · cases hc'
    · exact hgrow.fresh j c' hc' hnone

/-- `invoke_configsGrow` at the disbursement that drains the treasury account: both configs
stay, and `mallory`'s records the `10⁹` lamports disbursed. -/
theorem drain_configsGrow :
    (∀ j c, configAt initializedBank.accounts j = some c →
      (∃ c', configAt drainedBank.accounts j = some c' ∧ ConfigStep c c') ∨
        lamportsAt drainedBank.accounts j = 0) ∧
    (∀ j c', configAt drainedBank.accounts j = some c' →
      configAt initializedBank.accounts j = none → c'.totalReceived = 0) :=
  invoke_configsGrow initializedBank_invoke_drain

end TRv1.Treasury
