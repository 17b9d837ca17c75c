import TRv1.Governance.Processor
import TRv1.Runtime.Frame

/-!
# What the governance handlers do when they succeed

Two kinds of facts about the handlers of `processor.rs`.

* A step lemma per helper, in the form a handler proof consumes it: a successful run of
  `helper >>= rest` passed the helper's checks and ran `rest` from the state the helper left
  (`loadState_bind_eq_ok`, `saveState_bind_eq_ok`, ...). A handler's
  inversion lemma is then one `obtain` per line of the handler, and states what the handler
  checked and the chain of writes it made (`processCastVote_eq_ok`,
  `processExecuteProposal_eq_ok`).
* The checks and reads of the handlers change no account, so they keep every preorder on the
  transaction's accounts (`rejectIf_keeps`, `loadState_keeps`, ...), and so do the handlers
  that only write a config (`processInitializeGovernance_keeps`, ...) when the write does; the
  lifecycle invariants of `Lifecycle` are built from them.

`tally_eq_ok_none` says when `ExecuteProposal` lets an `Active` proposal pass, in the config it
is handed.
-/

set_option autoImplicit false

namespace TRv1.Governance

open TRv1.Runtime StateExcept

/-- The instruction account at position `i` is an account of the program whose data holds `x`. -/
def Holds {α : Type} (ic : InstructionContext) (accounts : List Account)
    (deserialize : List UInt8 → Option α) (i : Nat) (x : α) : Prop :=
  ∃ a acc, ic.accounts[i]? = some a ∧ accounts[a.indexInTransaction]? = some acc ∧
    acc.owner = ic.programId ∧ deserialize acc.data = some x

/-- The value that the account at index `j` holds for the governance program, if it owns the
account and its data deserializes. -/
def stateAt {α : Type} (deserialize : List UInt8 → Option α) (accounts : List Account) (j : Nat) :
    Option α :=
  accounts[j]?.bind fun acc => if acc.owner = ID then deserialize acc.data else none

/-- The proposal at index `j`. -/
def proposalAt (accounts : List Account) (j : Nat) : Option Proposal :=
  stateAt Proposal.deserialize accounts j

/-- The config at index `j`. -/
def configAt (accounts : List Account) (j : Nat) : Option GovernanceConfig :=
  stateAt GovernanceConfig.deserialize accounts j

/-! ## The outcome of a vote -/

/-- `bps_share` is `part * 10_000 / total`. -/
theorem bpsShare_eq_some {part total : UInt64} {x : Nat} (h : bpsShare part total = some x) :
    x = part.toNat * 10000 / total.toNat := by
  obtain ⟨p, hp, hx⟩ := Option.bind_eq_some_iff.mp h
  rw [RustInt.checkedDivU128_eq_some hx, (RustInt.checkedMulU128_eq_some hp).2]
  rfl

/-- A vote passes, and the proposal becomes `Timelocked`, exactly when there are votes, the
veto share is under the config's veto threshold, and the share of `for` among `for` and
`against` reaches the effective pass threshold. Every other outcome comes with an error. -/
theorem tally_eq_ok_none {config : GovernanceConfig} {p : Proposal} {st : ProposalStatus}
    (h : tally config p = .ok (st, none)) :
    st = .timelocked ∧ ∃ total decisive, totalVotes p = some total ∧ total ≠ 0 ∧
      p.vetoVotes.toNat * 10000 / total.toNat < config.vetoThresholdBps.toNat ∧
      RustInt.checkedAdd p.votesFor p.votesAgainst = some decisive ∧ decisive ≠ 0 ∧
      (effectivePassThreshold p config).toNat ≤ p.votesFor.toNat * 10000 / decisive.toNat := by
  obtain ⟨total, htotal, h₁⟩ := except_bind_eq_ok h
  -- each early outcome carries its error, so the run reached the last branch
  by_cases hzero : (total == 0) = true
  · rw [if_pos hzero] at h₁
    cases h₁
  rw [if_neg hzero] at h₁
  obtain ⟨vetoPct, hveto, h₂⟩ := except_bind_eq_ok h₁
  by_cases hvetoed : config.vetoThresholdBps.toNat ≤ vetoPct
  · rw [if_pos hvetoed] at h₂
    cases h₂
  rw [if_neg hvetoed] at h₂
  obtain ⟨decisive, hdecisive, h₃⟩ := except_bind_eq_ok h₂
  by_cases hnone : (decisive == 0) = true
  · rw [if_pos hnone] at h₃
    cases h₃
  rw [if_neg hnone] at h₃
  obtain ⟨forPct, hfor, h₄⟩ := except_bind_eq_ok h₃
  by_cases hshort : forPct < (effectivePassThreshold p config).toNat
  · rw [if_pos hshort] at h₄
    cases h₄
  rw [if_neg hshort] at h₄
  cases h₄
  rw [bpsShare_eq_some (okOr_eq_ok hveto)] at hvetoed
  rw [bpsShare_eq_some (okOr_eq_ok hfor)] at hshort
  exact ⟨rfl, total, decisive, okOr_eq_ok htotal, by simpa using hzero, by omega,
    okOr_eq_ok hdecisive, by simpa using hnone, by omega⟩

/-! ## Steps of a handler -/

section Steps

variable {n : Nat} (ic : InstructionContext) {s s'' : TransactionAccounts n} {β : Type} {b : β}

theorem requireSigner_eq_ok {s' : TransactionAccounts n} {u : Unit}
    (h : (requireSigner ic).run s = .ok (u, s')) :
    ∃ a, ic.accounts[0]? = some a ∧ a.isSigner = true ∧ s' = s := by
  have hread : ∀ b s', (ic.isInstructionAccountSigner 0).run s = .ok (b, s') → s' = s := by
    intro b s' hb
    obtain ⟨-, -, -, hs'⟩ := ic.isInstructionAccountSigner_eq_ok hb
    exact hs'
  obtain ⟨isSigner, h₁, h₂⟩ := run_bind_eq_ok_of_eq hread h
  obtain ⟨a, ha, rfl, -⟩ := ic.isInstructionAccountSigner_eq_ok h₁
  obtain ⟨hsigner, hs'⟩ := failIf_eq_ok h₂
  exact ⟨a, ha, by simpa using hsigner, hs'⟩

theorem requireSigner_bind_eq_ok {f : Unit → Exec n β}
    (h : (requireSigner ic >>= f).run s = .ok (b, s'')) :
    ∃ a, ic.accounts[0]? = some a ∧ a.isSigner = true ∧ (f ()).run s = .ok (b, s'') := by
  have hread : ∀ u s', (requireSigner ic).run s = .ok (u, s') → s' = s := by
    intro u s' hu
    obtain ⟨-, -, -, hs'⟩ := requireSigner_eq_ok ic hu
    exact hs'
  obtain ⟨u, h₁, h₂⟩ := run_bind_eq_ok_of_eq hread h
  obtain ⟨a, ha, hsigner, -⟩ := requireSigner_eq_ok ic h₁
  exact ⟨a, ha, hsigner, h₂⟩

theorem signerKey_eq_ok {s' : TransactionAccounts n} {k : Pubkey}
    (h : (signerKey ic).run s = .ok (k, s')) :
    ∃ a, ic.accounts[0]? = some a ∧ a.isSigner = true ∧
      ic.keys[a.indexInTransaction]? = some k ∧ s' = s := by
  obtain ⟨a, ha, hsigner, h₁⟩ := requireSigner_bind_eq_ok ic h
  obtain ⟨a', ha', hk, hs'⟩ := ic.getKeyOfInstructionAccount_eq_ok h₁
  obtain rfl : a' = a := Option.some.inj (ha'.symm.trans ha)
  exact ⟨a', ha, hsigner, hk, hs'⟩

theorem signerKey_bind_eq_ok {f : Pubkey → Exec n β}
    (h : (signerKey ic >>= f).run s = .ok (b, s'')) :
    ∃ a k, ic.accounts[0]? = some a ∧ a.isSigner = true ∧
      ic.keys[a.indexInTransaction]? = some k ∧ (f k).run s = .ok (b, s'') := by
  have hread : ∀ k s', (signerKey ic).run s = .ok (k, s') → s' = s := by
    intro k s' hk
    obtain ⟨-, -, -, -, hs'⟩ := signerKey_eq_ok ic hk
    exact hs'
  obtain ⟨k, h₁, h₂⟩ := run_bind_eq_ok_of_eq hread h
  obtain ⟨a, ha, hsigner, hk, -⟩ := signerKey_eq_ok ic h₁
  exact ⟨a, k, ha, hsigner, hk, h₂⟩

theorem loadState_eq_ok {α : Type} {deserialize : List UInt8 → Option α} {e : GovernanceError}
    {i : Nat} {x : α} {s' : TransactionAccounts n}
    (h : (loadState ic deserialize e i).run s = .ok (x, s')) :
    Holds ic s.accounts deserialize i x ∧ s' = s := by
  obtain ⟨a, acc, ha, hacc, h₁⟩ := ic.borrowAccount_bind_eq_ok h
  obtain ⟨hown, h₂⟩ := failIf_bind_eq_ok h₁
  obtain ⟨hx, hs'⟩ := requireSome_eq_ok h₂
  exact ⟨⟨a, acc, ha, hacc, by simpa using hown, hx⟩, hs'⟩

theorem loadState_bind_eq_ok {α : Type} {deserialize : List UInt8 → Option α}
    {e : GovernanceError} {i : Nat} {f : α → Exec n β}
    (h : (loadState ic deserialize e i >>= f).run s = .ok (b, s'')) :
    ∃ x, Holds ic s.accounts deserialize i x ∧ (f x).run s = .ok (b, s'') := by
  obtain ⟨x, h₁, h₂⟩ := run_bind_eq_ok_of_eq (fun _ _ h => (loadState_eq_ok ic h).2) h
  exact ⟨x, (loadState_eq_ok ic h₁).1, h₂⟩

theorem requireUninitialized_eq_ok {i : Nat} {disc : UInt8} {e : GovernanceError}
    {s' : TransactionAccounts n} {u : Unit}
    (h : (requireUninitialized ic i disc e).run s = .ok (u, s')) :
    (∃ a acc, ic.accounts[i]? = some a ∧ s.accounts[a.indexInTransaction]? = some acc ∧
      acc.owner = ic.programId ∧ acc.data.head? ≠ some disc) ∧ s' = s := by
  obtain ⟨a, acc, ha, hacc, h₁⟩ := ic.borrowAccount_bind_eq_ok h
  obtain ⟨hown, h₂⟩ := failIf_bind_eq_ok h₁
  obtain ⟨hfresh, hs'⟩ := failIf_eq_ok h₂
  exact ⟨⟨a, acc, ha, hacc, by simpa using hown, by simpa using hfresh⟩, hs'⟩

theorem requireUninitialized_bind_eq_ok {i : Nat} {disc : UInt8} {e : GovernanceError}
    {f : Unit → Exec n β} (h : (requireUninitialized ic i disc e >>= f).run s = .ok (b, s'')) :
    (∃ a acc, ic.accounts[i]? = some a ∧ s.accounts[a.indexInTransaction]? = some acc ∧
      acc.owner = ic.programId ∧ acc.data.head? ≠ some disc) ∧ (f ()).run s = .ok (b, s'') := by
  obtain ⟨u, h₁, h₂⟩ :=
    run_bind_eq_ok_of_eq (fun _ _ h => (requireUninitialized_eq_ok ic h).2) h
  exact ⟨(requireUninitialized_eq_ok ic h₁).1, h₂⟩

/-- A write: the account at position `i`, which the program owns, takes the value's bytes
over its zero-extended data. -/
theorem saveState_eq_ok {serializeInto : List UInt8 → Option (List UInt8)} {size i : Nat}
    {s' : TransactionAccounts n} {u : Unit}
    (h : (saveState ic serializeInto size i).run s = .ok (u, s')) :
    ∃ a acc data, ic.accounts[i]? = some a ∧ s.accounts[a.indexInTransaction]? = some acc ∧
      acc.owner = ic.programId ∧ serializeInto (zeroExtend acc.data size) = some data ∧
      s'.accounts = s.accounts.set a.indexInTransaction { acc with data := data } := by
  obtain ⟨a, acc, ha, hacc, h₁⟩ := ic.borrowAccount_bind_eq_ok h
  obtain ⟨data, hdata, h₂⟩ := requireSome_bind_eq_ok h₁
  obtain ⟨a', acc', ha', hacc', hown, -, -, hs'⟩ := ic.setDataFromSlice_eq_ok h₂
  obtain rfl : a' = a := Option.some.inj (ha'.symm.trans ha)
  obtain rfl : acc' = acc := Option.some.inj (hacc'.symm.trans hacc)
  exact ⟨a', acc', data, ha, hacc, by simpa using hown, hdata, hs'⟩

theorem saveState_bind_eq_ok {serializeInto : List UInt8 → Option (List UInt8)} {size i : Nat}
    {f : Unit → Exec n β} (h : (saveState ic serializeInto size i >>= f).run s = .ok (b, s'')) :
    ∃ a acc data s₁, ic.accounts[i]? = some a ∧ s.accounts[a.indexInTransaction]? = some acc ∧
      acc.owner = ic.programId ∧ serializeInto (zeroExtend acc.data size) = some data ∧
      s₁.accounts = s.accounts.set a.indexInTransaction { acc with data := data } ∧
      (f ()).run s₁ = .ok (b, s'') := by
  obtain ⟨u, s₁, h₁, h₂⟩ := run_bind_eq_ok h
  obtain ⟨a, acc, data, ha, hacc, hown, hdata, hs₁⟩ := saveState_eq_ok ic h₁
  exact ⟨a, acc, data, s₁, ha, hacc, hown, hdata, hs₁, h₂⟩

end Steps

/-! ## Casting a vote -/

section CastVote

variable {n : Nat} (ic : InstructionContext) {s s' : TransactionAccounts n}

/-- `CastVote` checked the signer, an active config of the program at position `2`, and an
`Active` proposal of the program at position `1` with the instruction's id and an open vote; it
found an account of the program at position `4` that is not a vote record yet and power in the
data of the account at position `3`, whoever owns it. It wrote the proposal with the power added
to the chosen tally, then the vote record over the account at position `4`. -/
theorem processCastVote_eq_ok {proposalId : UInt64} {vote : Vote} {u : Unit}
    (h : (processCastVote ic proposalId vote).run s = .ok (u, s')) :
    ∃ (a₀ : InstructionAccount) (voter : Pubkey) (config : GovernanceConfig)
      (a₁ : InstructionAccount) (acc₁ : Account) (proposal : Proposal) (a₃ : InstructionAccount)
      (stakeAccount : Account) (stake : UInt64 × UInt64) (proposal' : Proposal) (d₁ : List UInt8)
      (a₄ : InstructionAccount) (acc₄ : Account) (d₄ : List UInt8),
      ic.accounts[0]? = some a₀ ∧ a₀.isSigner = true ∧
      ic.keys[a₀.indexInTransaction]? = some voter ∧
      Holds ic s.accounts GovernanceConfig.deserialize 2 config ∧ config.isActive = true ∧
      ic.accounts[1]? = some a₁ ∧ s.accounts[a₁.indexInTransaction]? = some acc₁ ∧
      acc₁.owner = ic.programId ∧ Proposal.deserialize acc₁.data = some proposal ∧
      proposal.id = proposalId ∧ proposal.status = .active ∧
      ic.clock.epoch < proposal.votingEndsEpoch ∧
      ic.accounts[3]? = some a₃ ∧ s.accounts[a₃.indexInTransaction]? = some stakeAccount ∧
      votingPowerFromPassiveStakeData stakeAccount.data = some stake ∧ stake.2 ≠ 0 ∧
      applyVote proposal vote stake.2 = .ok proposal' ∧
      proposal'.serializeInto (zeroExtend acc₁.data Proposal.serializedSize) = some d₁ ∧
      ic.accounts[4]? = some a₄ ∧
      (s.accounts.set a₁.indexInTransaction { acc₁ with data := d₁ })[a₄.indexInTransaction]? =
        some acc₄ ∧
      acc₄.owner = ic.programId ∧
      VoteRecord.serializeInto ⟨proposalId, voter, vote, stake.2, ic.clock.epoch⟩
        (zeroExtend acc₄.data VoteRecord.serializedSize) = some d₄ ∧
      s'.accounts = (s.accounts.set a₁.indexInTransaction { acc₁ with data := d₁ }).set
        a₄.indexInTransaction { acc₄ with data := d₄ } := by
  obtain ⟨-, h⟩ := ic.checkNumberOfInstructionAccounts_bind_eq_ok h
  obtain ⟨a₀, voter, ha₀, hsigner, hvoter, h⟩ := signerKey_bind_eq_ok ic h
  obtain ⟨config, hconfig, h⟩ := loadState_bind_eq_ok ic h
  obtain ⟨hactive, h⟩ := failIf_bind_eq_ok h
  obtain ⟨proposal, hproposal, h⟩ := loadState_bind_eq_ok ic h
  obtain ⟨hid, h⟩ := failIf_bind_eq_ok h
  obtain ⟨hstatus, h⟩ := failIf_bind_eq_ok h
  obtain ⟨hopen, h⟩ := failIf_bind_eq_ok h
  -- the vote record account only has to not be a vote record yet
  obtain ⟨-, h⟩ := requireUninitialized_bind_eq_ok ic h
  obtain ⟨a₃, stakeAccount, ha₃, hstakeAccount, h⟩ := ic.borrowAccount_bind_eq_ok h
  obtain ⟨stake, hstake, h⟩ := requireSome_bind_eq_ok h
  obtain ⟨hpower, h⟩ := failIf_bind_eq_ok h
  obtain ⟨proposal', happly, h⟩ := liftExcept_bind_eq_ok h
  obtain ⟨a₁, acc₁, d₁, s₁, ha₁, hacc₁, hown₁, hd₁, hs₁, h⟩ := saveState_bind_eq_ok ic h
  obtain ⟨a₄, acc₄, d₄, ha₄, hacc₄, hown₄, hd₄, hs'⟩ := saveState_eq_ok ic h
  -- the proposal loaded and the one written are in the same account
  obtain ⟨a₁', acc₁', ha₁', hacc₁', -, hp⟩ := hproposal
  obtain rfl : a₁' = a₁ := Option.some.inj (ha₁'.symm.trans ha₁)
  obtain rfl : acc₁' = acc₁ := Option.some.inj (hacc₁'.symm.trans hacc₁)
  rw [hs₁] at hacc₄ hs'
  exact ⟨a₀, voter, config, a₁', acc₁', proposal, a₃, stakeAccount, stake, proposal', d₁, a₄,
    acc₄, d₄, ha₀, hsigner, hvoter, hconfig, by simpa using hactive, ha₁, hacc₁, hown₁, hp,
    by simpa using hid, by simpa using hstatus, by simpa using hopen, ha₃, hstakeAccount, hstake,
    by simpa using hpower, happly, hd₁, ha₄, hacc₄, hown₄, hd₄, hs'⟩

end CastVote

/-! ## Executing a proposal -/

section ExecuteProposal

variable {n : Nat} (ic : InstructionContext) {s s' : TransactionAccounts n}

/-- The `Active` branch succeeds only for a pass: after the voting period, the tally under the
config it was handed lets the proposal pass, and it is written back `Timelocked`. -/
theorem settleVote_eq_ok {config : GovernanceConfig} {proposal : Proposal} {u : Unit}
    (h : (settleVote ic config proposal).run s = .ok (u, s')) :
    proposal.votingEndsEpoch ≤ ic.clock.epoch ∧
      tally config proposal = .ok (.timelocked, none) ∧
      ∃ (a : InstructionAccount) (acc : Account) (data : List UInt8),
        ic.accounts[1]? = some a ∧ s.accounts[a.indexInTransaction]? = some acc ∧
        acc.owner = ic.programId ∧
        { proposal with status := .timelocked }.serializeInto
          (zeroExtend acc.data Proposal.serializedSize) = some data ∧
        s'.accounts = s.accounts.set a.indexInTransaction { acc with data := data } := by
  obtain ⟨hended, h⟩ := failIf_bind_eq_ok h
  obtain ⟨outcome, htally, h⟩ := liftExcept_bind_eq_ok h
  obtain ⟨a, acc, data, s₁, ha, hacc, hown, hdata, hs₁, h⟩ := saveState_bind_eq_ok ic h
  -- an outcome with an error fails after the write, which the runtime then discards
  obtain ⟨status, err⟩ := outcome
  cases err with
  | some e => exact absurd h run_throw_ne_ok
  | none =>
    obtain ⟨rfl, -⟩ := tally_eq_ok_none htally
    rw [← (run_pure_eq_ok h).2] at hs₁
    exact ⟨by simpa using hended, htally, a, acc, data, ha, hacc, hown, hdata, hs₁⟩

/-- `ExecuteProposal` read a config of the program at position `2`, whichever it is, and a
proposal of the program at position `1` with the instruction's id, not executed yet, and wrote
one of two things over it: an `Active` proposal whose vote passed under that config becomes
`Timelocked`; a `Timelocked` one (or a `Passed` one under active governance) whose timelock is
over becomes `Executed`. -/
theorem processExecuteProposal_eq_ok {proposalId : UInt64} {u : Unit}
    (h : (processExecuteProposal ic proposalId).run s = .ok (u, s')) :
    ∃ (a₀ : InstructionAccount) (executor : Pubkey) (config : GovernanceConfig)
      (a₁ : InstructionAccount) (acc₁ : Account) (proposal proposal' : Proposal)
      (data : List UInt8),
      ic.accounts[0]? = some a₀ ∧ a₀.isSigner = true ∧
      ic.keys[a₀.indexInTransaction]? = some executor ∧
      Holds ic s.accounts GovernanceConfig.deserialize 2 config ∧
      ic.accounts[1]? = some a₁ ∧ s.accounts[a₁.indexInTransaction]? = some acc₁ ∧
      acc₁.owner = ic.programId ∧ Proposal.deserialize acc₁.data = some proposal ∧
      proposal.id = proposalId ∧ (config.isActive = true ∨ executor = config.authority) ∧
      proposal.executed = false ∧
      proposal'.serializeInto (zeroExtend acc₁.data Proposal.serializedSize) = some data ∧
      s'.accounts = s.accounts.set a₁.indexInTransaction { acc₁ with data := data } ∧
      ((config.isActive = true ∧ proposal.status = .active ∧
          proposal.votingEndsEpoch ≤ ic.clock.epoch ∧
          tally config proposal = .ok (.timelocked, none) ∧
          proposal' = { proposal with status := .timelocked }) ∨
        ((proposal.status = .timelocked ∨ (proposal.status = .passed ∧ config.isActive = true)) ∧
          proposal.executionEpoch ≤ ic.clock.epoch ∧
          proposal' = { proposal with status := .executed, executed := true })) := by
  obtain ⟨-, h⟩ := ic.checkNumberOfInstructionAccounts_bind_eq_ok h
  obtain ⟨a₀, executor, ha₀, hsigner, hexecutor, h⟩ := signerKey_bind_eq_ok ic h
  obtain ⟨config, hconfig, h⟩ := loadState_bind_eq_ok ic h
  obtain ⟨proposal, ⟨a₁, acc₁, ha₁, hacc₁, hown₁, hp⟩, h⟩ := loadState_bind_eq_ok ic h
  obtain ⟨hid, h⟩ := failIf_bind_eq_ok h
  obtain ⟨hauth, h⟩ := failIf_bind_eq_ok h
  obtain ⟨hexecuted, h⟩ := failIf_bind_eq_ok h
  have hauth' : config.isActive = true ∨ executor = config.authority := by
    cases hact : config.isActive
    · rw [hact] at hauth
      exact Or.inr (by simpa using hauth)
    · exact Or.inl rfl
  -- the one write, over the proposal's account as it was loaded
  have hwrite : ∀ {p : Proposal}, (saveProposal ic 1 p).run s = .ok ((), s') →
      ∃ data, p.serializeInto (zeroExtend acc₁.data Proposal.serializedSize) = some data ∧
        s'.accounts = s.accounts.set a₁.indexInTransaction { acc₁ with data := data } := by
    intro p hsave
    obtain ⟨a, acc, data, ha, hacc, -, hdata, hs'⟩ := saveState_eq_ok ic hsave
    obtain rfl : a = a₁ := Option.some.inj (ha.symm.trans ha₁)
    obtain rfl : acc = acc₁ := Option.some.inj (hacc.symm.trans hacc₁)
    exact ⟨data, hdata, hs'⟩
  have hprefix := And.intro (by simpa using hid) (And.intro hauth' (by simpa using hexecuted))
  cases hact : config.isActive with
  | false =>
    -- inactive governance executes only a timelocked proposal, past its timelock
    rw [hact, if_neg (by simp)] at h
    obtain ⟨htimelocked, h⟩ := failIf_bind_eq_ok h
    obtain ⟨hover, h⟩ := failIf_bind_eq_ok h
    obtain ⟨data, hdata, hs'⟩ := hwrite h
    exact ⟨a₀, executor, config, a₁, acc₁, proposal, _, data, ha₀, hsigner, hexecutor, hconfig,
      ha₁, hacc₁, hown₁, hp, hprefix.1, hprefix.2.1, hprefix.2.2, hdata, hs',
      Or.inr ⟨Or.inl (by simpa using htimelocked), by simpa using hover, rfl⟩⟩
  | true =>
    rw [hact, if_pos rfl] at h
    cases hstatus : proposal.status with
    | active =>
      rw [hstatus] at h
      obtain ⟨hended, htally, a, acc, data, ha, hacc, -, hdata, hs'⟩ := settleVote_eq_ok ic h
      obtain rfl : a = a₁ := Option.some.inj (ha.symm.trans ha₁)
      obtain rfl : acc = acc₁ := Option.some.inj (hacc.symm.trans hacc₁)
      exact ⟨a₀, executor, config, a, acc, proposal, _, data, ha₀, hsigner, hexecutor, hconfig,
        ha₁, hacc₁, hown₁, hp, hprefix.1, hprefix.2.1, hprefix.2.2, hdata, hs',
        Or.inl ⟨hact, hstatus, hended, htally, rfl⟩⟩
    | passed =>
      rw [hstatus] at h
      obtain ⟨hover, h⟩ := failIf_bind_eq_ok h
      obtain ⟨data, hdata, hs'⟩ := hwrite h
      exact ⟨a₀, executor, config, a₁, acc₁, proposal, _, data, ha₀, hsigner, hexecutor, hconfig,
        ha₁, hacc₁, hown₁, hp, hprefix.1, hprefix.2.1, hprefix.2.2, hdata, hs',
        Or.inr ⟨Or.inr ⟨hstatus, hact⟩, by simpa using hover, rfl⟩⟩
    | timelocked =>
      rw [hstatus] at h
      obtain ⟨hover, h⟩ := failIf_bind_eq_ok h
      obtain ⟨data, hdata, hs'⟩ := hwrite h
      exact ⟨a₀, executor, config, a₁, acc₁, proposal, _, data, ha₀, hsigner, hexecutor, hconfig,
        ha₁, hacc₁, hown₁, hp, hprefix.1, hprefix.2.1, hprefix.2.2, hdata, hs',
        Or.inr ⟨Or.inl hstatus, by simpa using hover, rfl⟩⟩
    | draft | rejected | vetoed | executed | cancelled | expired =>
      rw [hstatus] at h
      exact absurd h run_throw_ne_ok

end ExecuteProposal

/-! ## What the reads keep -/

section Reads

variable {n : Nat} (ic : InstructionContext)
  {R : TransactionAccounts n → TransactionAccounts n → Prop} [IsPreorder (TransactionAccounts n) R]

/-! The checks and reads of the handlers change no account, so they keep every preorder on the
transaction's accounts. -/

theorem rejectIf_keeps (c : Bool) (e : GovernanceError) : Keeps R (rejectIf c e : Exec n Unit) :=
  failIf_keeps c e.into

theorem required_keeps {α : Type} (e : GovernanceError) (o : Option α) :
    Keeps R (required e o : Exec n α) :=
  requireSome_keeps _ e o

theorem liftResult_keeps {α : Type} (x : Except GovernanceError α) :
    Keeps R (liftResult x : Exec n α) :=
  liftExcept_keeps _ x

omit [IsPreorder (TransactionAccounts n) R] in
theorem fail_keeps {α : Type} (e : GovernanceError) : Keeps R (fail e : Exec n α) :=
  keeps_throw _

theorem signerKey_keeps : Keeps R (signerKey ic : Exec n Pubkey) :=
  keeps_bind (keeps_bind (ic.isInstructionAccountSigner_keeps 0) fun _ => rejectIf_keeps _ _)
    fun _ => ic.getKeyOfInstructionAccount_keeps 0

theorem loadState_keeps {α : Type} (deserialize : List UInt8 → Option α) (e : GovernanceError)
    (i : Nat) : Keeps R (loadState ic deserialize e i : Exec n α) :=
  keeps_bind (ic.borrowAccount_keeps i) fun _ =>
    keeps_bind (rejectIf_keeps _ _) fun _ => required_keeps _ _

theorem requireUninitialized_keeps (i : Nat) (disc : UInt8) (e : GovernanceError) :
    Keeps R (requireUninitialized ic i disc e : Exec n Unit) :=
  keeps_bind (ic.borrowAccount_keeps i) fun _ =>
    keeps_bind (rejectIf_keeps _ _) fun _ => rejectIf_keeps _ _

theorem checkConfigValues_keeps (quorumBps passThresholdBps vetoThresholdBps : UInt16)
    (votingPeriodEpochs : UInt64) :
    Keeps R (checkConfigValues quorumBps passThresholdBps vetoThresholdBps
      votingPeriodEpochs : Exec n Unit) :=
  keeps_bind (rejectIf_keeps _ _) fun _ => keeps_bind (rejectIf_keeps _ _) fun _ =>
    keeps_bind (rejectIf_keeps _ _) fun _ => rejectIf_keeps _ _

theorem checkProposer_keeps (config : GovernanceConfig) (proposer : Pubkey) :
    Keeps R (checkProposer ic config proposer : Exec n Unit) := by
  unfold checkProposer
  refine keeps_ite ?_ (rejectIf_keeps _ _)
  refine keeps_bind (ic.checkNumberOfInstructionAccounts_keeps 4) fun _ => ?_
  refine keeps_bind (ic.borrowAccount_keeps 3) fun _ => ?_
  exact keeps_bind (required_keeps _ _) fun _ => rejectIf_keeps _ _

/-! `InitializeGovernance`, `ActivateGovernance` and `UpdateConfig` check and then write the
config at position `1`, and nothing else: they keep every preorder that this write keeps. -/

theorem processInitializeGovernance_keeps (authority : Pubkey)
    (proposalThreshold votingPeriodEpochs : UInt64)
    (quorumBps passThresholdBps vetoThresholdBps : UInt16) (timelockEpochs : UInt64)
    (emergencyMultisig : Pubkey)
    (hsave : ∀ config, Keeps R (saveGovernanceConfig ic 1 config : Exec n Unit)) :
    Keeps R (processInitializeGovernance ic authority proposalThreshold votingPeriodEpochs
      quorumBps passThresholdBps vetoThresholdBps timelockEpochs emergencyMultisig :
        Exec n Unit) := by
  unfold processInitializeGovernance
  refine keeps_bind (ic.checkNumberOfInstructionAccounts_keeps 2) fun _ => ?_
  refine keeps_bind (keeps_bind (ic.isInstructionAccountSigner_keeps 0) fun _ =>
    rejectIf_keeps _ _) fun _ => ?_
  refine keeps_bind (checkConfigValues_keeps _ _ _ _) fun _ => ?_
  refine keeps_bind (requireUninitialized_keeps ic _ _ _) fun _ => ?_
  exact hsave _

theorem processActivateGovernance_keeps
    (hsave : ∀ config, Keeps R (saveGovernanceConfig ic 1 config : Exec n Unit)) :
    Keeps R (processActivateGovernance ic : Exec n Unit) := by
  unfold processActivateGovernance
  refine keeps_bind (ic.checkNumberOfInstructionAccounts_keeps 2) fun _ => ?_
  refine keeps_bind (signerKey_keeps ic) fun _ => ?_
  refine keeps_bind (loadState_keeps ic _ _ _) fun _ => ?_
  refine keeps_bind (rejectIf_keeps _ _) fun _ => ?_
  refine keeps_bind (rejectIf_keeps _ _) fun _ => ?_
  exact hsave _

theorem processUpdateConfig_keeps (proposalThreshold votingPeriodEpochs : UInt64)
    (quorumBps passThresholdBps vetoThresholdBps : UInt16) (timelockEpochs : UInt64)
    (emergencyMultisig : Pubkey)
    (hsave : ∀ config, Keeps R (saveGovernanceConfig ic 1 config : Exec n Unit)) :
    Keeps R (processUpdateConfig ic proposalThreshold votingPeriodEpochs quorumBps
      passThresholdBps vetoThresholdBps timelockEpochs emergencyMultisig : Exec n Unit) := by
  unfold processUpdateConfig
  refine keeps_bind (ic.checkNumberOfInstructionAccounts_keeps 2) fun _ => ?_
  refine keeps_bind (signerKey_keeps ic) fun _ => ?_
  refine keeps_bind (loadState_keeps ic _ _ _) fun _ => ?_
  refine keeps_bind (rejectIf_keeps _ _) fun _ => ?_
  refine keeps_bind (checkConfigValues_keeps _ _ _ _) fun _ => ?_
  exact hsave _

end Reads

end TRv1.Governance
