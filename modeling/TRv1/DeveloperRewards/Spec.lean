import TRv1.DeveloperRewards.Processor
import TRv1.Runtime.Frame

/-!
# What the developer-rewards handlers do when they succeed

A step lemma per helper (`signerKey_bind_eq_ok`, `writeSerialized_bind_eq_ok`, ...), and from
them an inversion lemma per handler that states what it checked and the writes it made
(`processRegister_eq_ok`, `updateAsAuthority_eq_ok`, `processClaim_eq_ok`,
`processCredit_eq_ok`).

`RegisterRevenueRecipient` never ties the programdata at position `2` to the program it
registers, so anyone registers a config for someone else's program through their own program's
programdata (`register_accepts_foreign_programdata`).

An accepted `ClaimDeveloperFees` found an active config at position `1` with unclaimed fees
`F ≠ 0`, zeroed them, and moved `F` from the account at position `2` to the account at
position `3`, changing no other balance; the config is gone only if the claim drained its own
account, which the bank then deallocates (`claim_moves_unclaimed`). Nothing in it relates the
account at position `3` to the config's `revenue_recipient` or to its splits, and the signer
can be anyone: the fees of a registered program go to whoever claims them
(`claim_pays_caller_instead_of_recipient`).
-/

set_option autoImplicit false

namespace TRv1.DeveloperRewards

open TRv1.Runtime StateExcept

/-- The config that the account at index `j` holds for the program, as Borsh reads it. -/
def configAt (accounts : List Account) (j : Nat) : Option ProgramRevenueConfig :=
  programState ID ProgramRevenueConfig.deserialize accounts j

/-- A drained account holds no config once it is deallocated. -/
theorem configAt_map_deallocate (accounts : List Account) (j : Nat) :
    configAt (accounts.map deallocate) j =
      if lamportsAt accounts j = 0 then none else configAt accounts j :=
  programState_map_deallocate (by decide) j

/-- A config that `deserialize_config` accepts is the Borsh value of the data. -/
theorem deserialize_of_deserializeConfig {data : List UInt8} {c : ProgramRevenueConfig}
    (h : deserializeConfig data = .ok c) : ProgramRevenueConfig.deserialize data = some c := by
  unfold deserializeConfig at h
  split at h
  · cases h
  · exact okOr_eq_ok h

/-! ## Steps of a handler -/

section Steps

variable {n : Nat} (ic : InstructionContext) {s s'' : TransactionAccounts n} {β : Type} {b : β}

theorem requireSigner_bind_eq_ok {f : Unit → Exec n β}
    (h : (requireSigner ic >>= f).run s = .ok (b, s'')) :
    ∃ a : InstructionAccount, ic.accounts[0]? = some a ∧ a.isSigner = true ∧
      (f ()).run s = .ok (b, s'') := by
  rw [requireSigner, bind_assoc] at h
  obtain ⟨a, ha, h⟩ := ic.isInstructionAccountSigner_bind_eq_ok h
  obtain ⟨hsigner, h⟩ := failIf_bind_eq_ok h
  exact ⟨a, ha, by simpa using hsigner, h⟩

theorem signerKey_bind_eq_ok {f : Pubkey → Exec n β}
    (h : (signerKey ic >>= f).run s = .ok (b, s'')) :
    ∃ (a : InstructionAccount) (k : Pubkey), ic.accounts[0]? = some a ∧ a.isSigner = true ∧
      ic.keys[a.indexInTransaction]? = some k ∧ (f k).run s = .ok (b, s'') := by
  rw [signerKey, bind_assoc] at h
  obtain ⟨a, ha, hsigner, h⟩ := requireSigner_bind_eq_ok ic h
  obtain ⟨a', k, ha', hk, h⟩ := ic.getKeyOfInstructionAccount_bind_eq_ok h
  obtain rfl : a = a' := Option.some.inj (ha.symm.trans ha')
  exact ⟨a, k, ha, hsigner, hk, h⟩

theorem liftResult_bind_eq_ok {α : Type} {x : Except InstructionError α} {f : α → Exec n β}
    (h : (liftResult x >>= f).run s = .ok (b, s'')) :
    ∃ a, x = .ok a ∧ (f a).run s = .ok (b, s'') :=
  liftExcept_bind_eq_ok h

theorem writeSerialized_bind_eq_ok {serialized : Option (List UInt8)} {i : Nat}
    {f : Unit → Exec n β} (h : (writeSerialized ic serialized i >>= f).run s = .ok (b, s'')) :
    ∃ (bytes : List UInt8) (a : InstructionAccount) (acc : Account) (s₁ : TransactionAccounts n),
      serialized = some bytes ∧ ic.accounts[i]? = some a ∧
      s.accounts[a.indexInTransaction]? = some acc ∧ acc.owner = ic.programId ∧
      bytes.length ≤ acc.data.length ∧
      s₁.accounts = s.accounts.set a.indexInTransaction { acc with data := bytes } ∧
      (f ()).run s₁ = .ok (b, s'') := by
  simp only [writeSerialized, bind_assoc] at h
  obtain ⟨bytes, hbytes, h⟩ := requireSome_bind_eq_ok h
  obtain ⟨a, acc, ha, hacc, h⟩ := ic.borrowAccount_bind_eq_ok h
  obtain ⟨hlen, h⟩ := failIf_bind_eq_ok h
  obtain ⟨a', acc', s₁, ha', hacc', hown, hs₁, h⟩ := ic.setDataFromSlice_bind_eq_ok h
  obtain rfl : a = a' := Option.some.inj (ha.symm.trans ha')
  obtain rfl : acc = acc' := Option.some.inj (hacc.symm.trans hacc')
  exact ⟨bytes, a, acc, s₁, hbytes, ha, hacc, hown, by simpa using hlen, hs₁, h⟩

/-- `writeSerialized` as the last line of a handler. -/
theorem writeSerialized_eq_ok {serialized : Option (List UInt8)} {i : Nat} {u : Unit}
    (h : (writeSerialized ic serialized i).run s = .ok (u, s'')) :
    ∃ (bytes : List UInt8) (a : InstructionAccount) (acc : Account),
      serialized = some bytes ∧ ic.accounts[i]? = some a ∧
      s.accounts[a.indexInTransaction]? = some acc ∧ acc.owner = ic.programId ∧
      bytes.length ≤ acc.data.length ∧
      s''.accounts = s.accounts.set a.indexInTransaction { acc with data := bytes } := by
  rw [← bind_pure (writeSerialized ic serialized i)] at h
  obtain ⟨bytes, a, acc, s₁, hbytes, ha, hacc, hown, hlen, hs₁, h⟩ :=
    writeSerialized_bind_eq_ok ic h
  rw [(run_pure_eq_ok h).2]
  exact ⟨bytes, a, acc, hbytes, ha, hacc, hown, hlen, hs₁⟩

end Steps

/-! ## The handlers -/

section Handlers

variable {n : Nat} (ic : InstructionContext) {s s' : TransactionAccounts n} {u : Unit}

/-- An accepted `RegisterRevenueRecipient` was signed by the key that the account at position
`2` names as upgrade authority, and wrote the new config over an account of the program at
position `1` that held no config and whose data was long enough. -/
theorem processRegister_eq_ok {programId recipient : Pubkey}
    (h : (processRegister ic programId recipient).run s = .ok (u, s')) :
    ∃ (a₀ : InstructionAccount) (signer : Pubkey) (a₁ : InstructionAccount) (acc₁ : Account)
      (a₂ : InstructionAccount) (programdata : Account) (bytes : List UInt8),
      ic.accounts[0]? = some a₀ ∧ a₀.isSigner = true ∧
      ic.keys[a₀.indexInTransaction]? = some signer ∧
      ic.accounts[1]? = some a₁ ∧ s.accounts[a₁.indexInTransaction]? = some acc₁ ∧
      (acc₁.data.isEmpty || acc₁.data.headD 0 == 0) = true ∧
      ic.accounts[2]? = some a₂ ∧ s.accounts[a₂.indexInTransaction]? = some programdata ∧
      45 ≤ programdata.data.length ∧ programdata.data.getD 12 0 = 1 ∧
      Pubkey.ofBytes ((programdata.data.drop 13).take 32) = signer ∧
      acc₁.owner = ic.programId ∧
      (registeredConfig programId recipient signer ic.clock.slot).toVec = some bytes ∧
      bytes.length ≤ acc₁.data.length ∧
      s'.accounts = s.accounts.set a₁.indexInTransaction { acc₁ with data := bytes } := by
  obtain ⟨a₀, signer, ha₀, hsigner, hkey, h⟩ := signerKey_bind_eq_ok ic h
  obtain ⟨a₁, acc₁, ha₁, hacc₁, h⟩ := ic.borrowAccount_bind_eq_ok h
  obtain ⟨hfresh, h⟩ := failIf_bind_eq_ok h
  obtain ⟨a₂, programdata, ha₂, hpd, h⟩ := ic.borrowAccount_bind_eq_ok h
  obtain ⟨hlen, h⟩ := failIf_bind_eq_ok h
  obtain ⟨htag, h⟩ := failIf_bind_eq_ok h
  obtain ⟨hauth, h⟩ := failIf_bind_eq_ok h
  obtain ⟨bytes, a₁', acc₁', hbytes, ha₁', hacc₁', hown, hfit, hs'⟩ := writeSerialized_eq_ok ic h
  obtain rfl : a₁ = a₁' := Option.some.inj (ha₁.symm.trans ha₁')
  obtain rfl : acc₁ = acc₁' := Option.some.inj (hacc₁.symm.trans hacc₁')
  -- the guard on the config account is `!(is_empty || data[0] == 0)` after De Morgan
  have hfresh' : (acc₁.data.isEmpty || acc₁.data.headD 0 == 0) = true := by
    cases he : acc₁.data.isEmpty <;> simp_all
  exact ⟨a₀, signer, a₁, acc₁, a₂, programdata, bytes, ha₀, hsigner, hkey, ha₁, hacc₁, hfresh',
    ha₂, hpd, by simpa using hlen, by simpa using htag, by simpa using hauth, hown, hbytes, hfit,
    hs'⟩

/-- An accepted `UpdateRevenueRecipient` or `AddRevenueSplit` was signed by the
`update_authority` of the config at position `1`, which it rewrote by `update`. -/
theorem updateAsAuthority_eq_ok {update : ProgramRevenueConfig → ProgramRevenueConfig}
    (h : (updateAsAuthority ic update).run s = .ok (u, s')) :
    ∃ (a₀ : InstructionAccount) (signer : Pubkey) (a₁ : InstructionAccount) (acc₁ : Account)
      (config : ProgramRevenueConfig) (bytes : List UInt8),
      ic.accounts[0]? = some a₀ ∧ a₀.isSigner = true ∧
      ic.keys[a₀.indexInTransaction]? = some signer ∧
      ic.accounts[1]? = some a₁ ∧ s.accounts[a₁.indexInTransaction]? = some acc₁ ∧
      deserializeConfig acc₁.data = .ok config ∧ config.updateAuthority = signer ∧
      acc₁.owner = ic.programId ∧ (update config).toVec = some bytes ∧
      bytes.length ≤ acc₁.data.length ∧
      s'.accounts = s.accounts.set a₁.indexInTransaction { acc₁ with data := bytes } := by
  obtain ⟨a₀, signer, ha₀, hsigner, hkey, h⟩ := signerKey_bind_eq_ok ic h
  obtain ⟨a₁, acc₁, ha₁, hacc₁, h⟩ := ic.borrowAccount_bind_eq_ok h
  obtain ⟨config, hconfig, h⟩ := liftResult_bind_eq_ok h
  obtain ⟨hauth, h⟩ := failIf_bind_eq_ok h
  obtain ⟨bytes, a₁', acc₁', hbytes, ha₁', hacc₁', hown, hfit, hs'⟩ := writeSerialized_eq_ok ic h
  obtain rfl : a₁ = a₁' := Option.some.inj (ha₁.symm.trans ha₁')
  obtain rfl : acc₁ = acc₁' := Option.some.inj (hacc₁.symm.trans hacc₁')
  exact ⟨a₀, signer, a₁, acc₁, config, bytes, ha₀, hsigner, hkey, ha₁, hacc₁, hconfig,
    by simpa using hauth, hown, hbytes, hfit, hs'⟩

/-- An accepted `AddRevenueSplit` had at most ten splits, which passed the loop's checks with a
total of `10_000` bps, before the update. -/
theorem processAddRevenueSplit_eq_ok {splits : List RevenueSplit}
    (h : (processAddRevenueSplit ic splits).run s = .ok (u, s')) :
    splits.length ≤ maxSplitRecipients ∧ validateSplits splits 0 = .ok totalBps.toUInt32 ∧
      (updateAsAuthority ic fun config => { config with revenueSplits := splits }).run s =
        .ok (u, s') := by
  obtain ⟨hcount, h⟩ := failIf_bind_eq_ok h
  obtain ⟨total, htotal, h⟩ := liftExcept_bind_eq_ok h
  obtain ⟨hsum, h⟩ := failIf_bind_eq_ok h
  have hsum' : total = totalBps.toUInt32 := by simpa using hsum
  exact ⟨by simpa using hcount, hsum' ▸ htotal, h⟩

/-- An accepted `ClaimDeveloperFees` had a signer at position `0` and an active config with
unclaimed fees at position `1`, which it rewrote with none, then made the transfer. -/
theorem processClaim_eq_ok (h : (processClaim ic).run s = .ok (u, s')) :
    ∃ (a₀ a₁ : InstructionAccount) (acc₁ : Account) (config : ProgramRevenueConfig)
      (bytes : List UInt8) (s₁ : TransactionAccounts n),
      ic.accounts[0]? = some a₀ ∧ a₀.isSigner = true ∧
      ic.accounts[1]? = some a₁ ∧ s.accounts[a₁.indexInTransaction]? = some acc₁ ∧
      deserializeConfig acc₁.data = .ok config ∧ config.isActive = true ∧
      config.unclaimedFees ≠ 0 ∧ acc₁.owner = ic.programId ∧
      { config with unclaimedFees := 0 }.toVec = some bytes ∧ bytes.length ≤ acc₁.data.length ∧
      s₁.accounts = s.accounts.set a₁.indexInTransaction { acc₁ with data := bytes } ∧
      (ic.transferLamports 2 3 config.unclaimedFees
        DeveloperRewardsError.insufficientPoolFunds.into).run s₁ = .ok (u, s') := by
  obtain ⟨a₀, ha₀, hsigner, h⟩ := requireSigner_bind_eq_ok ic h
  obtain ⟨a₁, acc₁, ha₁, hacc₁, h⟩ := ic.borrowAccount_bind_eq_ok h
  obtain ⟨config, hconfig, h⟩ := liftResult_bind_eq_ok h
  obtain ⟨hactive, h⟩ := failIf_bind_eq_ok h
  obtain ⟨hfees, h⟩ := failIf_bind_eq_ok h
  obtain ⟨bytes, a₁', acc₁', s₁, hbytes, ha₁', hacc₁', hown, hfit, hs₁, h⟩ :=
    writeSerialized_bind_eq_ok ic h
  obtain rfl : a₁ = a₁' := Option.some.inj (ha₁.symm.trans ha₁')
  obtain rfl : acc₁ = acc₁' := Option.some.inj (hacc₁.symm.trans hacc₁')
  exact ⟨a₀, a₁, acc₁, config, bytes, s₁, ha₀, hsigner, ha₁, hacc₁, hconfig,
    by simpa using hactive, by simpa using hfees, hown, hbytes, hfit, hs₁, h⟩

/-- An accepted `CreditDeveloperFees` reported enough compute units, read an active config past
its cooldown at position `1` and a tracker at position `2`, passed the cap after both rolled
over to the clock's epoch, and wrote the credited tracker, then the credited config. -/
theorem processCredit_eq_ok {amount computeUnitsConsumed : UInt64}
    (h : (processCredit ic amount computeUnitsConsumed).run s = .ok (u, s')) :
    minComputeUnitsThreshold ≤ computeUnitsConsumed ∧
    ∃ (a₁ : InstructionAccount) (acc₁ : Account) (config : ProgramRevenueConfig)
      (a₂ : InstructionAccount) (acc₂ : Account) (tracker : EpochFeeTracker)
      (s₁ : TransactionAccounts n) (acc₁' : Account) (bytes : List UInt8),
      ic.accounts[1]? = some a₁ ∧ s.accounts[a₁.indexInTransaction]? = some acc₁ ∧
      deserializeConfig acc₁.data = .ok config ∧ config.isActive = true ∧
      config.eligibleAfterSlot ≤ ic.clock.slot ∧
      ic.accounts[2]? = some a₂ ∧ s.accounts[a₂.indexInTransaction]? = some acc₂ ∧
      deserializeTracker acc₂.data = .ok tracker ∧
      RustInt.saturatingAdd (config.rollOver ic.clock.epoch).epochFeesEarned amount ≤
        maxAllowed
          (RustInt.saturatingAdd (tracker.rollOver ic.clock.epoch).totalDeveloperFees amount) ∧
      acc₂.owner = ic.programId ∧
      s₁.accounts = s.accounts.set a₂.indexInTransaction
        { acc₂ with data := ((tracker.rollOver ic.clock.epoch).credit amount).toBytes } ∧
      s₁.accounts[a₁.indexInTransaction]? = some acc₁' ∧ acc₁'.owner = ic.programId ∧
      ((config.rollOver ic.clock.epoch).credit amount).toVec = some bytes ∧
      s'.accounts = s₁.accounts.set a₁.indexInTransaction { acc₁' with data := bytes } := by
  obtain ⟨hcu, h⟩ := failIf_bind_eq_ok h
  obtain ⟨a₁, acc₁, ha₁, hacc₁, h⟩ := ic.borrowAccount_bind_eq_ok h
  obtain ⟨config, hconfig, h⟩ := liftResult_bind_eq_ok h
  obtain ⟨hactive, h⟩ := failIf_bind_eq_ok h
  obtain ⟨hcooldown, h⟩ := failIf_bind_eq_ok h
  obtain ⟨a₂, acc₂, ha₂, hacc₂, h⟩ := ic.borrowAccount_bind_eq_ok h
  obtain ⟨tracker, htracker, h⟩ := liftResult_bind_eq_ok h
  obtain ⟨hcap, h⟩ := failIf_bind_eq_ok h
  -- the tracker is written first, through `serialize_tracker` at position `2`
  obtain ⟨trackerBytes, a₂', acc₂', s₁, htb, ha₂', hacc₂', hown₂, -, hs₁, h⟩ :=
    writeSerialized_bind_eq_ok ic h
  obtain rfl : a₂ = a₂' := Option.some.inj (ha₂.symm.trans ha₂')
  obtain rfl : acc₂ = acc₂' := Option.some.inj (hacc₂.symm.trans hacc₂')
  obtain rfl : trackerBytes = ((tracker.rollOver ic.clock.epoch).credit amount).toBytes :=
    (Option.some.inj htb).symm
  obtain ⟨bytes, a₁', acc₁', hbytes, ha₁', hacc₁', hown₁, -, hs'⟩ := writeSerialized_eq_ok ic h
  obtain rfl : a₁ = a₁' := Option.some.inj (ha₁.symm.trans ha₁')
  exact ⟨by simpa using hcu, a₁, acc₁, config, a₂, acc₂, tracker, s₁, acc₁', bytes, ha₁, hacc₁,
    hconfig, by simpa using hactive, by simpa using hcooldown, ha₂, hacc₂, htracker,
    by simpa using hcap, hown₂, hs₁, hacc₁', hown₁, hbytes, hs'⟩

end Handlers

/-! ## A second config for someone else's program

`RegisterRevenueRecipient` takes the upgrade authority from whatever account is at position
`2` and never relates that account, or the config account at position `1`, to `program_id`.
So `mallory`, the upgrade authority of a program of their own, registers a second active config
for `developer`'s program, naming themselves as authority and recipient, with their own
program's programdata; with the programdata of `developer`'s program the same instruction is
refused. -/

/-- The upgrade authority of `program`. -/
def developer : Pubkey := ⟨61⟩

/-- The program whose developer fees are at stake. -/
def program : Pubkey := ⟨62⟩

/-- The wallet `developer` registers as revenue recipient. -/
def recipient : Pubkey := ⟨63⟩

/-- The upgrade authority of another program. -/
def mallory : Pubkey := ⟨64⟩

/-- `BPFLoaderUpgradeab1e11111111111111111111111`, the owner of programdata accounts. -/
def upgradeableLoader : Pubkey :=
  ⟨1203157751113444292085578490895711631870746999416992000355168191203933945856⟩

/-- The first `45` bytes of a programdata account of the upgradeable loader: the `ProgramData`
tag, the deployment slot `0`, and `Some(authority)`. -/
def programdataBytes (authority : Pubkey) : List UInt8 :=
  [3, 0, 0, 0] ++ List.replicate 8 0 ++ [1] ++ authority.toBytes

/-- An account allocated for the program at the config's `MAX_SIZE`, all zero, and funded to the
rent-exempt minimum of its `512` bytes. -/
def freshConfigAccount : Account := ⟨4454400, List.replicate 512 0, ID⟩

/-- The slot and epoch of the registrations. -/
def registrationClock : Clock := ⟨0, 0, 0⟩

/-- `RegisterRevenueRecipient` signed at index `signer`, for the config account at index
`config`, with the programdata account at index `programdata`. -/
def registerWith (signer config programdata : Nat) : Invocation :=
  ⟨[⟨signer, true, false⟩, ⟨config, false, true⟩, ⟨programdata, false, false⟩],
    registrationClock⟩



/-- `developer`'s wallet, the config account of `program`, its programdata, `mallory`'s wallet,
the account `mallory` allocated for the program, and the programdata of `mallory`'s own
program. -/
def registryBank : Bank :=
  { keys := [developer, ⟨65⟩, ⟨66⟩, mallory, ⟨67⟩, ⟨68⟩]
    accounts := [⟨0, [], ⟨0⟩⟩, freshConfigAccount,
      ⟨1204080, programdataBytes developer, upgradeableLoader⟩, ⟨0, [], ⟨0⟩⟩,
      freshConfigAccount, ⟨1204080, programdataBytes mallory, upgradeableLoader⟩]
    rent := exampleRent }

/-- `developer` registers `program` with themselves as recipient; `mallory` registers `program`
with themselves as recipient, through the programdata of their own program. -/
def registrySchedule : List (DeveloperRewardsInstruction × Invocation) :=
  [(.registerRevenueRecipient program developer, registerWith 0 1 2),
   (.registerRevenueRecipient program mallory, registerWith 3 4 5)]

/-- The bank after both registrations. -/
def registeredBank : Bank := Bank.replay ID entrypoint registryBank registrySchedule

/-- From a run of the program: `mallory` cannot register `program` through its own programdata,
but through the programdata of their own program they can, and `program` then has two active
configs, the second with `mallory` as update authority and revenue recipient. -/
theorem register_accepts_foreign_programdata :
    Bank.Reachable ID entrypoint registryBank registeredBank ∧
      registryBank.invoke ID (entrypoint (.registerRevenueRecipient program mallory))
          (registerWith 3 4 2) = .error DeveloperRewardsError.unauthorizedSigner.into ∧
      configAt registeredBank.accounts 1 =
        some (registeredConfig program developer developer 0) ∧
      configAt registeredBank.accounts 4 = some (registeredConfig program mallory mallory 0) ∧
      (registeredConfig program mallory mallory 0).isActive = true := by
  refine ⟨Bank.reachable_replay ID entrypoint registryBank _,
    Bank.invoke_eq_error (by decide +kernel), ?_, ?_, rfl⟩
  all_goals decide +kernel

/-! ## Claims -/

/-- An accepted `ClaimDeveloperFees` found an active config with unclaimed fees `F ≠ 0` at
position `1` and left it with none and otherwise as it was, unless the claim drained its account,
which is then deallocated; it took `F` from the account at position `2` and gave it to the
account at position `3`, and changed no other balance. The signer at position `0` can be anyone,
and nothing ties position `3` to the config. -/
theorem claim_moves_unclaimed {b b' : Bank} {inv : Invocation} {programId : Pubkey}
    (h : b.invoke ID (entrypoint (.claimDeveloperFees programId)) inv = .ok b') :
    ∃ (a₀ a₁ a₂ a₃ : InstructionAccount) (config : ProgramRevenueConfig),
      inv.accounts[0]? = some a₀ ∧ a₀.isSigner = true ∧ inv.accounts[1]? = some a₁ ∧
      configAt b.accounts a₁.indexInTransaction = some config ∧ config.isActive = true ∧
      config.unclaimedFees ≠ 0 ∧
      configAt b'.accounts a₁.indexInTransaction =
        (if lamportsAt b'.accounts a₁.indexInTransaction = 0 then none
          else some { config with unclaimedFees := 0 }) ∧
      inv.accounts[2]? = some a₂ ∧ inv.accounts[3]? = some a₃ ∧
      ∀ j, lamportsAt b'.accounts j +
          (if j = a₂.indexInTransaction then config.unclaimedFees.toNat else 0) =
        lamportsAt b.accounts j +
          (if j = a₃.indexInTransaction then config.unclaimedFees.toNat else 0) := by
  obtain ⟨s, hs, -, rfl⟩ := Bank.invoke_eq_ok h
  obtain ⟨hrun, -⟩ := processInstruction_eq_ok hs
  obtain ⟨a₀, a₁, acc₁, config, bytes, s₁, ha₀, hsigner, ha₁, hacc₁, hconfig, hactive, hfees,
    hown, hbytes, -, hs₁, htransfer⟩ := processClaim_eq_ok _ hrun
  obtain ⟨a₂, a₃, ha₂, ha₃, hmoved⟩ := InstructionContext.transferLamports_lamportsAt _ htransfer
  rw [TransactionAccounts.start_accounts] at hacc₁ hs₁
  have hown : acc₁.owner = ID := hown
  -- the write of the config moved no lamports, and the transfer left every config alone
  have hbefore : ∀ j, lamportsAt s₁.accounts j = lamportsAt b.accounts j := by
    intro j
    rw [hs₁, lamportsAt_set_data hacc₁]
  have hafter : configAt s.accounts a₁.indexInTransaction =
      some { config with unclaimedFees := 0 } := by
    rw [configAt, InstructionContext.transferLamports_programState _ htransfer, hs₁,
      programState_set_data_self hacc₁ hown]
    exact ProgramRevenueConfig.deserialize_toVec hbytes
  refine ⟨a₀, a₁, a₂, a₃, config, ha₀, hsigner, ha₁, ?_, hactive, hfees, ?_, ha₂, ha₃,
    fun j => ?_⟩
  · rw [configAt, programState_of_getElem? hacc₁ hown]
    exact deserialize_of_deserializeConfig hconfig
  · -- the bank keeps the config unless deallocation took the drained account away
    rw [configAt_map_deallocate, hafter, lamportsAt_map_deallocate]
  · rw [lamportsAt_map_deallocate, ← hbefore]
    exact hmoved j

/-! `ClaimDeveloperFees` pays the account at position `3`, whatever it is. After `developer`
registers their program with `recipient` as revenue recipient and a credit of `10⁶` lamports,
`mallory` claims the fees into their own wallet, and `recipient` receives nothing. The credit
passes the cap because the epoch's tracker already records `9 · 10⁶` lamports of developer
fees. -/

/-- The clock of the credit: the first slot past the cooldown, in epoch `1`. -/
def creditClock : Clock := ⟨1512000, 1, 0⟩

/-- `developer`'s wallet, the config account of `program`, its programdata, the epoch's tracker
with `9 · 10⁶` lamports of developer fees, the fee pool with `10⁹` lamports, `recipient`'s
wallet and `mallory`'s. -/
def feeBank : Bank :=
  { keys := [developer, ⟨65⟩, ⟨66⟩, ⟨69⟩, ⟨70⟩, recipient, mallory]
    accounts := [⟨0, [], ⟨0⟩⟩, freshConfigAccount,
      ⟨1204080, programdataBytes developer, upgradeableLoader⟩,
      ⟨1336320, (⟨1, 1, 9000000⟩ : EpochFeeTracker).toBytes, ID⟩, ⟨1000000000, [], ID⟩,
      ⟨0, [], ⟨0⟩⟩, ⟨0, [], ⟨0⟩⟩]
    rent := exampleRent }

/-- `developer` registers `program` with `recipient`; then `10⁶` lamports of fees are credited to
it, by a transaction `mallory` pays for. -/
def feeSchedule : List (DeveloperRewardsInstruction × Invocation) :=
  [(.registerRevenueRecipient program recipient, registerWith 0 1 2),
   (.creditDeveloperFees program 1000000 5000,
     ⟨[⟨6, true, false⟩, ⟨1, false, true⟩, ⟨3, false, true⟩], creditClock⟩)]

/-- `ClaimDeveloperFees` signed by `mallory`, from the fee pool, into `mallory`'s wallet. -/
def claimByMallory : Invocation :=
  ⟨[⟨6, true, true⟩, ⟨1, false, true⟩, ⟨4, false, true⟩, ⟨6, false, true⟩], creditClock⟩

/-- The bank after the registration and the credit. -/
def creditedBank : Bank := Bank.replay ID entrypoint feeBank feeSchedule

/-- The bank after `mallory`'s claim. -/
def claimedBank : Bank :=
  Bank.replay ID entrypoint feeBank
    (feeSchedule ++ [(.claimDeveloperFees program, claimByMallory)])

/-- The claim is accepted, and leaves the bank that replaying the whole schedule gives. -/
theorem creditedBank_invoke_claim :
    creditedBank.invoke ID (entrypoint (.claimDeveloperFees program)) claimByMallory =
      .ok claimedBank := by
  rw [claimedBank, Bank.replay_append]
  exact Bank.invoke_eq_ok_replay ID entrypoint (by decide +kernel)

/-- From a run of the program: the config of `program` names `recipient` as revenue recipient,
has no splits and `10⁶` lamports of unclaimed fees; `mallory`'s claim is accepted, the `10⁶`
lamports go to `mallory`'s wallet, and `recipient`'s balance stays `0`. -/
theorem claim_pays_caller_instead_of_recipient :
    Bank.Reachable ID entrypoint feeBank claimedBank ∧
      configAt creditedBank.accounts 1 =
        some { registeredConfig program recipient developer 0 with
          totalFeesEarned := 1000000, epochFeesEarned := 1000000, lastEpoch := 1,
          unclaimedFees := 1000000 } ∧
      creditedBank.keys[5]? = some recipient ∧ creditedBank.keys[6]? = some mallory ∧
      creditedBank.invoke ID (entrypoint (.claimDeveloperFees program)) claimByMallory =
        .ok claimedBank ∧
      lamportsAt creditedBank.accounts 6 = 0 ∧ lamportsAt claimedBank.accounts 6 = 1000000 ∧
      lamportsAt creditedBank.accounts 5 = 0 ∧ lamportsAt claimedBank.accounts 5 = 0 := by
  refine ⟨Bank.reachable_replay ID entrypoint feeBank _, ?_, ?_, ?_, creditedBank_invoke_claim,
    ?_, ?_, ?_, ?_⟩
  all_goals decide +kernel

/-- `claim_moves_unclaimed` at `mallory`'s claim: the debited account is the fee pool at index
`4`, the credited one `mallory`'s wallet at index `6`. -/
theorem mallory_claim_moves_unclaimed :
    creditedBank.invoke ID (entrypoint (.claimDeveloperFees program)) claimByMallory =
        .ok claimedBank ∧
      ∃ (a₀ a₁ a₂ a₃ : InstructionAccount) (config : ProgramRevenueConfig),
        claimByMallory.accounts[0]? = some a₀ ∧ a₀.isSigner = true ∧
        claimByMallory.accounts[1]? = some a₁ ∧
        configAt creditedBank.accounts a₁.indexInTransaction = some config ∧
        config.isActive = true ∧ config.unclaimedFees ≠ 0 ∧
        configAt claimedBank.accounts a₁.indexInTransaction =
          (if lamportsAt claimedBank.accounts a₁.indexInTransaction = 0 then none
            else some { config with unclaimedFees := 0 }) ∧
        claimByMallory.accounts[2]? = some a₂ ∧ claimByMallory.accounts[3]? = some a₃ ∧
        ∀ j, lamportsAt claimedBank.accounts j +
            (if j = a₂.indexInTransaction then config.unclaimedFees.toNat else 0) =
          lamportsAt creditedBank.accounts j +
            (if j = a₃.indexInTransaction then config.unclaimedFees.toNat else 0) := by
  exact ⟨creditedBank_invoke_claim, claim_moves_unclaimed creditedBank_invoke_claim⟩

end TRv1.DeveloperRewards
