import TRv1.DeveloperRewards.Spec

/-!
# What the program's accounts can hold along a run

The program writes only the encodings of configs and trackers, and reads an account only
through `deserialize_config` and `deserialize_tracker`. A property of what those readers accept
from an account of the program (`Holds`) is therefore kept by every write of a config or a
tracker that has it; all-zero data, as the system program allocates it, holds no config and the
fresh tracker (`holds_of_zero`).

`CreditDeveloperFees` caps a program's fees of the epoch, this credit included, at a tenth of
all developer fees of the epoch, this credit included. From a tracker with no fees recorded,
that admits only a credit of `0` (`amount_eq_zero_of_cap`), which records none. So from accounts
that hold no fees (all-zero accounts do), along every run no account of the program ever holds
a config with unclaimed fees or a tracker with recorded fees, and every accepted
`CreditDeveloperFees` credits `0` (`reachable_credits_are_zero`).
-/

set_option autoImplicit false

namespace TRv1.DeveloperRewards

open TRv1.Runtime

/-! ## The cap -/

theorem maxAllowed_toNat (x : UInt64) : (maxAllowed x).toNat = x.toNat * 1000 / 10000 := by
  have hx := x.toNat_lt
  -- `x * 1000` fits in `u128`, so the multiplication does not saturate
  have hmul : RustInt.saturatingMulU128 x.toNat maxProgramFeeShareBps.toNat = x.toNat * 1000 := by
    have hbps : maxProgramFeeShareBps.toNat = 1000 := rfl
    rw [RustInt.saturatingMulU128, hbps]
    omega
  have htotal : totalBps.toNat = 10000 := rfl
  rw [maxAllowed, hmul, htotal, RustInt.checkedDivU128, if_neg (by norm_num), Option.getD_some,
    UInt64.toNat_ofNat', Nat.mod_eq_of_lt (by omega)]

/-- From a tracker with no fees in the epoch, the cap admits only a credit of nothing: the
credit itself is part of the total it is capped against. -/
theorem amount_eq_zero_of_cap {fees amount : UInt64}
    (h : RustInt.saturatingAdd fees amount ≤ maxAllowed (RustInt.saturatingAdd 0 amount)) :
    amount = 0 := by
  have hle := UInt64.le_iff_toNat_le.mp h
  rw [maxAllowed_toNat, RustInt.saturatingAdd_toNat, RustInt.saturatingAdd_toNat,
    UInt64.toNat_zero, Nat.zero_add] at hle
  have ha := amount.toNat_lt
  apply UInt64.toNat_inj.mp
  rw [UInt64.toNat_zero]
  omega

theorem ProgramRevenueConfig.unclaimedFees_rollOver (c : ProgramRevenueConfig) (epoch : UInt64) :
    (c.rollOver epoch).unclaimedFees = c.unclaimedFees := by
  unfold ProgramRevenueConfig.rollOver
  split <;> rfl

theorem EpochFeeTracker.totalDeveloperFees_rollOver {t : EpochFeeTracker}
    (h : t.totalDeveloperFees = 0) (epoch : UInt64) :
    (t.rollOver epoch).totalDeveloperFees = 0 := by
  unfold EpochFeeTracker.rollOver
  split
  · rfl
  · exact h

/-! ## What the readers accept from written bytes -/

section Readers

variable {c c' : ProgramRevenueConfig} {t t' : EpochFeeTracker} {bytes data : List UInt8}

/-- A written config reads back as itself, if at all. -/
theorem deserializeConfig_of_toVec (h : c.toVec = some bytes)
    (h' : deserializeConfig bytes = .ok c') : c' = c :=
  Option.some.inj
    ((deserialize_of_deserializeConfig h').symm.trans (ProgramRevenueConfig.deserialize_toVec h))

/-- Written config bytes read as no tracker but the fresh one: a tracker is `17` bytes. -/
theorem deserializeTracker_of_toVec (h : c.toVec = some bytes)
    (h' : deserializeTracker bytes = .ok t) : t = ⟨1, 0, 0⟩ := by
  unfold deserializeTracker at h'
  split at h'
  · exact (Except.ok.inj h').symm
  · have hlen := EpochFeeTracker.length_of_deserialize (okOr_eq_ok h')
    rw [ProgramRevenueConfig.eq_toBytes_of_toVec h, ProgramRevenueConfig.length_toBytes] at hlen
    omega

/-- Tracker bytes read as no config: a config is more than `32` bytes. -/
theorem deserializeConfig_of_tracker (h : deserializeConfig t.toBytes = .ok c) : False := by
  have h' := deserialize_of_deserializeConfig h
  rw [ProgramRevenueConfig.deserialize_of_length_lt (by simp)] at h'
  cases h'

/-- Written tracker bytes read back as the tracker, or as the fresh one if they are all zero. -/
theorem deserializeTracker_of_tracker (h : deserializeTracker t.toBytes = .ok t') :
    t' = t ∨ t' = ⟨1, 0, 0⟩ := by
  unfold deserializeTracker at h
  split at h
  · exact Or.inr (Except.ok.inj h).symm
  · exact Or.inl
      (Option.some.inj ((okOr_eq_ok h).symm.trans (EpochFeeTracker.deserialize_toBytes t)))

theorem deserializeConfig_of_zero (hz : ∀ x ∈ data, x = 0)
    (h : deserializeConfig data = .ok c) : False := by
  unfold deserializeConfig at h
  split at h
  · cases h
  · rename_i hne
    -- nonempty all-zero data starts with `0`
    cases data with
    | nil => simp at hne
    | cons x rest => simp [hz x List.mem_cons_self] at hne

theorem deserializeTracker_of_zero (hz : ∀ x ∈ data, x = 0) :
    deserializeTracker data = .ok ⟨1, 0, 0⟩ := by
  unfold deserializeTracker
  rw [if_pos]
  simp only [Bool.or_eq_true, List.all_eq_true, beq_iff_eq]
  exact Or.inr hz

end Readers

/-! ## Properties of what an account holds -/

/-- Every config that `deserialize_config` accepts from the account, if it is the program's,
has `P` with the account's data, and every tracker that `deserialize_tracker` accepts has
`Q`. -/
def Holds (P : ProgramRevenueConfig → List UInt8 → Prop) (Q : EpochFeeTracker → Prop)
    (acc : Account) : Prop :=
  acc.owner = ID →
    (∀ c, deserializeConfig acc.data = .ok c → P c acc.data) ∧
      ∀ t, deserializeTracker acc.data = .ok t → Q t

section Holds

variable {P : ProgramRevenueConfig → List UInt8 → Prop} {Q : EpochFeeTracker → Prop}
  {acc : Account}

/-- All-zero data holds no config and the fresh tracker. -/
theorem holds_of_zero (hQ : Q ⟨1, 0, 0⟩) (hz : acc.owner = ID → ∀ x ∈ acc.data, x = 0) :
    Holds P Q acc :=
  fun hown => ⟨fun _ h => (deserializeConfig_of_zero (hz hown) h).elim,
    fun t h => by
      rw [deserializeTracker_of_zero (hz hown)] at h
      cases h
      exact hQ⟩

/-- The encoding of a config with `P` has `P`. -/
theorem holds_config {c : ProgramRevenueConfig} {bytes : List UInt8} (h : c.toVec = some bytes)
    (hP : P c bytes) (hQ : Q ⟨1, 0, 0⟩) : Holds P Q { acc with data := bytes } :=
  fun _ => ⟨fun _ h' => deserializeConfig_of_toVec h h' ▸ hP,
    fun _ h' => deserializeTracker_of_toVec h h' ▸ hQ⟩

/-- The encoding of a tracker with `Q` has `Q`. -/
theorem holds_tracker {t : EpochFeeTracker} (ht : Q t) (hQ : Q ⟨1, 0, 0⟩) :
    Holds P Q { acc with data := t.toBytes } :=
  fun _ => ⟨fun _ h => (deserializeConfig_of_tracker h).elim,
    fun t' h => by
      rcases deserializeTracker_of_tracker h with rfl | rfl
      · exact ht
      · exact hQ⟩

/-- What an account holds does not depend on its balance. -/
theorem holds_set_lamports (h : Holds P Q acc) (v : UInt64) :
    Holds P Q { acc with lamports := v } :=
  h

end Holds

/-! ## Fees along a run -/

/-- An account of the program holds no unclaimed fees in a config and no recorded fees in a
tracker. -/
def Unpaid (acc : Account) : Prop :=
  Holds (fun c _ => c.unclaimedFees = 0) (fun t => t.totalDeveloperFees = 0) acc

/-- No account of the bank holds fees. -/
def FeesUnpaid (accounts : List Account) : Prop := ∀ acc ∈ accounts, Unpaid acc

section Fees

variable {n : Nat} (ic : InstructionContext) {s s' : TransactionAccounts n} {u : Unit}

/-- The config read from an account of the program has no unclaimed fees. -/
theorem unclaimedFees_of_feesUnpaid {accounts : List Account} (h : FeesUnpaid accounts)
    {i : Nat} {acc : Account} (hacc : accounts[i]? = some acc) (hown : acc.owner = ID)
    {c : ProgramRevenueConfig} (hc : deserializeConfig acc.data = .ok c) : c.unclaimedFees = 0 :=
  (h acc (List.mem_of_getElem? hacc) hown).1 c hc

theorem processRegister_feesUnpaid {programId recipient : Pubkey}
    (h : (processRegister ic programId recipient).run s = .ok (u, s'))
    (hs : FeesUnpaid s.accounts) : FeesUnpaid s'.accounts := by
  obtain ⟨_, _, _, _, _, _, _, -, -, -, -, -, -, -, -, -, -, -, -, hbytes, -, hs'⟩ :=
    processRegister_eq_ok ic h
  rw [hs']
  exact forall_mem_set hs (holds_config hbytes rfl rfl) _

/-- An update that leaves the unclaimed fees alone keeps every account unpaid. -/
theorem updateAsAuthority_feesUnpaid {update : ProgramRevenueConfig → ProgramRevenueConfig}
    (hupdate : ∀ c, (update c).unclaimedFees = c.unclaimedFees) (hid : ic.programId = ID)
    (h : (updateAsAuthority ic update).run s = .ok (u, s')) (hs : FeesUnpaid s.accounts) :
    FeesUnpaid s'.accounts := by
  obtain ⟨_, _, _, acc₁, config, bytes, -, -, -, -, hacc₁, hconfig, -, hown, hbytes, -, hs'⟩ :=
    updateAsAuthority_eq_ok ic h
  have hfees := unclaimedFees_of_feesUnpaid hs hacc₁ (hown.trans hid) hconfig
  rw [hs']
  exact forall_mem_set hs (holds_config hbytes ((hupdate config).trans hfees) rfl) _

theorem processClaim_feesUnpaid (h : (processClaim ic).run s = .ok (u, s'))
    (hs : FeesUnpaid s.accounts) : FeesUnpaid s'.accounts := by
  obtain ⟨_, _, _, _, _, s₁, -, -, -, -, -, -, -, -, hbytes, -, hs₁, htransfer⟩ :=
    processClaim_eq_ok ic h
  have hs₁' : FeesUnpaid s₁.accounts := by
    rw [hs₁]
    exact forall_mem_set hs (holds_config hbytes rfl rfl) _
  exact ic.transferLamports_forall (fun _ v h => holds_set_lamports h v) htransfer hs₁'

/-- An accepted `CreditDeveloperFees` on unpaid accounts credited `0` and left them unpaid. -/
theorem processCredit_feesUnpaid {amount computeUnitsConsumed : UInt64}
    (hid : ic.programId = ID)
    (h : (processCredit ic amount computeUnitsConsumed).run s = .ok (u, s'))
    (hs : FeesUnpaid s.accounts) : amount = 0 ∧ FeesUnpaid s'.accounts := by
  obtain ⟨-, a₁, acc₁, config, a₂, acc₂, tracker, s₁, acc₁', bytes, -, hacc₁, hconfig, -, -, -,
    hacc₂, htracker, hcap, hown₂, hs₁, hacc₁', hown₁, hbytes, hs'⟩ := processCredit_eq_ok ic h
  -- both accounts read are the program's: the tracker's is written to, and the config's keeps
  -- its owner through the write of the tracker
  have hown₁' : acc₁.owner = ID := by
    rw [← owner_of_set_data hacc₁ hacc₂ _ (hs₁ ▸ hacc₁'), hown₁, hid]
  have hfees := unclaimedFees_of_feesUnpaid hs hacc₁ hown₁' hconfig
  have htotal : tracker.totalDeveloperFees = 0 :=
    (hs acc₂ (List.mem_of_getElem? hacc₂) (hown₂.trans hid)).2 tracker htracker
  rw [EpochFeeTracker.totalDeveloperFees_rollOver htotal] at hcap
  obtain rfl := amount_eq_zero_of_cap hcap
  refine ⟨rfl, ?_⟩
  -- a credit of `0` records nothing in either account
  have hs₁' : FeesUnpaid s₁.accounts := by
    rw [hs₁]
    refine forall_mem_set hs (holds_tracker ?_ rfl) _
    rw [EpochFeeTracker.totalDeveloperFees_credit, RustInt.saturatingAdd_zero,
      EpochFeeTracker.totalDeveloperFees_rollOver htotal]
  rw [hs']
  refine forall_mem_set hs₁' (holds_config hbytes ?_ rfl) _
  rw [ProgramRevenueConfig.unclaimedFees_credit, RustInt.saturatingAdd_zero,
    ProgramRevenueConfig.unclaimedFees_rollOver, hfees]

/-- Every accepted instruction of the program keeps the accounts unpaid. -/
theorem process_feesUnpaid (instr : DeveloperRewardsInstruction) (hid : ic.programId = ID)
    (h : (process ic instr).run s = .ok (u, s')) (hs : FeesUnpaid s.accounts) :
    FeesUnpaid s'.accounts := by
  cases instr with
  | registerRevenueRecipient programId recipient => exact processRegister_feesUnpaid ic h hs
  | updateRevenueRecipient _ newRecipient =>
    -- the update is known only from the run, so its side condition comes last
    refine updateAsAuthority_feesUnpaid ic ?_ hid h hs
    intro config
    rfl
  | addRevenueSplit _ splits =>
    refine updateAsAuthority_feesUnpaid ic ?_ hid (processAddRevenueSplit_eq_ok ic h).2.2 hs
    intro config
    rfl
  | claimDeveloperFees _ => exact processClaim_feesUnpaid ic h hs
  | creditDeveloperFees _ amount computeUnitsConsumed =>
    exact (processCredit_feesUnpaid ic hid h hs).2

end Fees

/-- Accounts whose data is all zero where the program owns them hold no fees. -/
theorem feesUnpaid_of_zero {accounts : List Account}
    (h : ∀ acc ∈ accounts, acc.owner = ID → ∀ x ∈ acc.data, x = 0) : FeesUnpaid accounts :=
  fun acc hacc => holds_of_zero rfl (h acc hacc)

/-- Along every run from accounts that hold no fees, no account of the program comes to hold a
config with unclaimed fees or a tracker with recorded fees, and every accepted
`CreditDeveloperFees` credits `0`. -/
theorem reachable_credits_are_zero {b₀ b : Bank} (h₀ : FeesUnpaid b₀.accounts)
    (h : Bank.Reachable ID entrypoint b₀ b) :
    FeesUnpaid b.accounts ∧
      ∀ (programId : Pubkey) (amount computeUnitsConsumed : UInt64) (inv : Invocation)
        (b' : Bank),
        b.invoke ID (entrypoint (.creditDeveloperFees programId amount computeUnitsConsumed))
          inv = .ok b' → amount = 0 := by
  -- a drained account is deallocated to the default one, whose empty data holds nothing
  have hdefault : Unpaid Account.default :=
    holds_of_zero rfl fun _ x hx => absurd hx List.not_mem_nil
  have hb : FeesUnpaid b.accounts :=
    Bank.reachable_inv (fun instr _ ic _ _ hid hrun hs => process_feesUnpaid ic instr hid hrun hs)
      (fun _ hs => forall_mem_map_deallocate hdefault hs) h h₀
  refine ⟨hb, fun programId amount computeUnitsConsumed inv b' hcredit => ?_⟩
  obtain ⟨s, hs, -, -⟩ := Bank.invoke_eq_ok hcredit
  obtain ⟨hrun, -⟩ := processInstruction_eq_ok hs
  exact (processCredit_feesUnpaid _ rfl hrun hb).1

/-! From a fresh tracker the credit that `feeBank`'s tracker let through is refused. -/

/-- `feeBank` with the tracker account as the system program allocates it, at the tracker's
`MAX_SIZE`. -/
def freshFeeBank : Bank :=
  { feeBank with
    accounts := feeBank.accounts.set 3 ⟨1336320, List.replicate 64 0, ID⟩ }

/-- The bank after `developer` registers `program`. -/
def freshRegisteredBank : Bank :=
  Bank.replay ID entrypoint freshFeeBank [(.registerRevenueRecipient program recipient,
    registerWith 0 1 2)]

/-- `reachable_credits_are_zero` after the registration: the config is active and past its
cooldown at the credit's slot, and the credit of `10⁶` lamports that `feeBank`'s tracker let
through is refused with `EpochFeeCapExceeded`. -/
theorem fresh_tracker_refuses_credit :
    FeesUnpaid freshFeeBank.accounts ∧
      Bank.Reachable ID entrypoint freshFeeBank freshRegisteredBank ∧
      (FeesUnpaid freshRegisteredBank.accounts ∧
        ∀ (programId : Pubkey) (amount computeUnitsConsumed : UInt64) (inv : Invocation)
          (b' : Bank),
          freshRegisteredBank.invoke ID
              (entrypoint (.creditDeveloperFees programId amount computeUnitsConsumed)) inv =
            .ok b' → amount = 0) ∧
      configAt freshRegisteredBank.accounts 1 =
        some (registeredConfig program recipient developer 0) ∧
      freshRegisteredBank.invoke ID (entrypoint (.creditDeveloperFees program 1000000 5000))
          ⟨[⟨6, true, false⟩, ⟨1, false, true⟩, ⟨3, false, true⟩], creditClock⟩ =
        .error DeveloperRewardsError.epochFeeCapExceeded.into := by
  have h₀ : FeesUnpaid freshFeeBank.accounts := feesUnpaid_of_zero (by decide +kernel)
  have hrun := Bank.reachable_replay ID entrypoint freshFeeBank
    [(.registerRevenueRecipient program recipient, registerWith 0 1 2)]
  refine ⟨h₀, hrun, reachable_credits_are_zero h₀ hrun, by decide +kernel,
    Bank.invoke_eq_error (by decide +kernel)⟩

end TRv1.DeveloperRewards
