import TRv1.Governance.Outcome

/-!
# The lifecycle of a proposal

A proposal account changes only through the writes of the handlers. `CreateProposal` writes a
fresh proposal: `Active` or `Timelocked`, not executed, with no votes. `CastVote` adds a vote to an
`Active` one. An accepted `ExecuteProposal` turns an `Active` proposal `Timelocked` and a
`Timelocked` or `Passed` one `Executed`. `CancelProposal` and `VetoProposal` write `Cancelled` and
`Vetoed`. Every other write puts a config or a vote record in the account, which then holds no
proposal. `Closed P` lists these steps for a property `P` of proposals; a property closed under
them holds of every proposal of every bank reachable from one where it holds
(`reachable_proposalsSatisfy`).

## What this module delivers

- `ExecutedFlag`: `executed` is set exactly on `Executed` proposals, along every run
  (`reachable_executedFlag`).
- `NoFailedOutcome`: no proposal is `Rejected` or `Expired`. `ExecuteProposal` writes these two
  statuses and then fails, and the runtime rolls the write back with the instruction, so no run
  ever records a vote that failed or that nobody cast (`failed_votes_never_recorded`).
- What the lifecycle does not close: `InitializeGovernance` accepts any account of the program
  that does not start with the config discriminator, an executed proposal included, and writes a
  config over it; `CreateProposal` then writes a fresh proposal there, which is executed a second
  time (`executed_proposal_reexecuted`).
-/

set_option autoImplicit false

namespace TRv1.Governance

open TRv1.Runtime StateExcept

/-- Every account of `pid` that holds a proposal holds one that satisfies `P`. -/
def ProposalsSatisfy (pid : Pubkey) (P : Proposal → Prop) (accounts : List Account) : Prop :=
  ∀ acc ∈ accounts, acc.owner = pid → ∀ p ∈ Proposal.deserialize acc.data, P p

instance (pid : Pubkey) (P : Proposal → Prop) [DecidablePred P] (accounts : List Account) :
    Decidable (ProposalsSatisfy pid P accounts) :=
  inferInstanceAs (Decidable (∀ acc ∈ accounts, acc.owner = pid →
    ∀ p ∈ Proposal.deserialize acc.data, P p))

/-- A deallocated account holds no proposal. -/
theorem ProposalsSatisfy.map_deallocate {pid : Pubkey} {P : Proposal → Prop}
    {accounts : List Account} (h : ProposalsSatisfy pid P accounts) :
    ProposalsSatisfy pid P (accounts.map deallocate) :=
  forall_mem_map_deallocate (fun _ _ hp => nomatch Option.mem_def.mp hp) h

/-- The steps of the lifecycle, from the proposal an account held to the one a handler writes
there, with what the handler checked: a property of proposals that each keeps is kept by every
instruction. -/
structure Closed (P : Proposal → Prop) : Prop where
  /-- `CreateProposal` over an account that holds no proposal. -/
  create : ∀ p : Proposal, (p.status = .active ∨ p.status = .timelocked) → p.executed = false →
    p.votesFor = 0 ∧ p.votesAgainst = 0 ∧ p.votesAbstain = 0 ∧ p.vetoVotes = 0 → P p
  /-- `CastVote`. -/
  vote : ∀ (p : Proposal) (vote : Vote) (power : UInt64) (p' : Proposal), P p →
    p.status = .active → applyVote p vote power = .ok p' → P p'
  /-- An accepted `ExecuteProposal` of an `Active` proposal. -/
  pass : ∀ p : Proposal, P p → p.status = .active → P { p with status := .timelocked }
  /-- `ExecuteProposal` after the timelock. -/
  execute : ∀ p : Proposal, P p → (p.status = .timelocked ∨ p.status = .passed) →
    p.executed = false → P { p with status := .executed, executed := true }
  /-- `CancelProposal`. -/
  cancel : ∀ p : Proposal, P p →
    (p.status = .active ∨ p.status = .passed ∨ p.status = .timelocked) →
    P { p with status := .cancelled }
  /-- `VetoProposal`. -/
  veto : ∀ p : Proposal, P p → (p.status = .active ∨ p.status = .timelocked) →
    P { p with status := .vetoed }

/-! ## Reads and writes -/

section Writes

variable {n : Nat} (ic : InstructionContext) (P : Proposal → Prop)

/-- Every successful run of `x` from accounts whose proposals satisfy `P` ends in such
accounts. -/
abbrev KeepsProposals {α : Type} (x : Exec n α) : Prop :=
  Keeps (Preserving fun s : TransactionAccounts n => ProposalsSatisfy ic.programId P s.accounts) x

/-- A write keeps `P` when every proposal the written data can hold satisfies it. -/
theorem saveState_keepsProposals {serializeInto : List UInt8 → Option (List UInt8)} {size : Nat}
    (i : Nat)
    (hw : ∀ data data', serializeInto data = some data' →
      ∀ p ∈ Proposal.deserialize data', P p) :
    KeepsProposals ic P (saveState ic serializeInto size i : Exec n Unit) := by
  intro s u s' h hs
  obtain ⟨a, acc, data, -, -, -, hdata, hs'⟩ := saveState_eq_ok ic h
  show ProposalsSatisfy ic.programId P s'.accounts
  rw [hs']
  exact forall_mem_set hs (fun _ => hw _ _ hdata) _

/-- A config written over an account leaves no proposal in it. -/
theorem saveGovernanceConfig_keepsProposals (i : Nat) (config : GovernanceConfig) :
    KeepsProposals ic P (saveGovernanceConfig ic i config : Exec n Unit) := by
  refine saveState_keepsProposals ic P i fun _ _ h p hp => ?_
  rw [Proposal.deserialize, Borsh.deserializeTagged_serializeTagged_ne (by decide) h] at hp
  cases hp

/-- So does a vote record. -/
theorem saveVoteRecord_keepsProposals (i : Nat) (record : VoteRecord) :
    KeepsProposals ic P
      (saveState ic record.serializeInto VoteRecord.serializedSize i : Exec n Unit) := by
  refine saveState_keepsProposals ic P i fun _ _ h p hp => ?_
  rw [Proposal.deserialize, Borsh.deserializeTagged_serializeTagged_ne (by decide) h] at hp
  cases hp

theorem saveProposal_keepsProposals (i : Nat) {proposal : Proposal} (hp : P proposal) :
    KeepsProposals ic P (saveProposal ic i proposal : Exec n Unit) := by
  refine saveState_keepsProposals ic P i fun _ _ h p hmem => ?_
  rw [Proposal.deserialize_serializeInto h, Option.mem_some_iff] at hmem
  exact hmem ▸ hp

/-- A proposal loaded from accounts whose proposals satisfy `P` satisfies it. -/
theorem loadProposal_bind_keepsProposals {β : Type} {i : Nat} {f : Proposal → Exec n β}
    (hf : ∀ p, P p → KeepsProposals ic P (f p)) :
    KeepsProposals ic P (loadProposal ic i >>= f) := by
  intro s b s'' h hs
  obtain ⟨p, ⟨a, acc, -, hacc, hown, hp⟩, h₂⟩ := loadState_bind_eq_ok ic h
  exact hf p (hs acc (List.mem_of_getElem? hacc) hown p hp) s b s'' h₂ hs

end Writes

/-! ## The handlers -/

section Handlers

variable {n : Nat} (ic : InstructionContext) {P : Proposal → Prop} (hP : Closed P)
include hP

theorem processCreateProposal_keepsProposals (title : List UInt8) (descriptionHash : Hash)
    (proposalType : ProposalType) :
    KeepsProposals ic P (processCreateProposal ic title descriptionHash proposalType :
      Exec n Unit) := by
  unfold processCreateProposal
  refine keeps_bind (ic.checkNumberOfInstructionAccounts_keeps 3) fun _ => ?_
  refine keeps_bind (signerKey_keeps ic) fun proposer => ?_
  refine keeps_bind (rejectIf_keeps _ _) fun _ => ?_
  refine keeps_bind (loadState_keeps ic _ _ _) fun config => ?_
  refine keeps_bind (checkProposer_keeps ic config proposer) fun _ => ?_
  refine keeps_bind (requireUninitialized_keeps ic _ _ _) fun _ => ?_
  refine keeps_bind (required_keeps _ _) fun _ => ?_
  refine keeps_bind (required_keeps _ _) fun _ => ?_
  refine keeps_bind (required_keeps _ _) fun _ => ?_
  refine keeps_bind (saveGovernanceConfig_keepsProposals ic P 1 _) fun _ => ?_
  -- the fresh proposal: `Active` or `Timelocked` by the config, not executed, no votes
  refine saveProposal_keepsProposals ic P 2 (hP.create _ ?_ rfl ⟨rfl, rfl, rfl, rfl⟩)
  cases config.isActive
  · exact .inr rfl
  · exact .inl rfl

theorem processCastVote_keepsProposals (proposalId : UInt64) (vote : Vote) :
    KeepsProposals ic P (processCastVote ic proposalId vote : Exec n Unit) := by
  unfold processCastVote
  refine keeps_bind (ic.checkNumberOfInstructionAccounts_keeps 5) fun _ => ?_
  refine keeps_bind (signerKey_keeps ic) fun _ => ?_
  refine keeps_bind (loadState_keeps ic _ _ _) fun _ => ?_
  refine keeps_bind (rejectIf_keeps _ _) fun _ => ?_
  refine loadProposal_bind_keepsProposals ic P fun proposal hp => ?_
  refine keeps_bind (rejectIf_keeps _ _) fun _ => ?_
  refine keeps_failIf_bind fun hactive => ?_
  refine keeps_bind (rejectIf_keeps _ _) fun _ => ?_
  refine keeps_bind (requireUninitialized_keeps ic _ _ _) fun _ => ?_
  refine keeps_bind (ic.borrowAccount_keeps 3) fun _ => ?_
  refine keeps_bind (required_keeps _ _) fun stake => ?_
  refine keeps_bind (rejectIf_keeps _ _) fun _ => ?_
  refine keeps_liftExcept_bind fun proposal' hvote => ?_
  have hvoted : P proposal' := hP.vote proposal vote stake.2 proposal' hp
    (by simpa using hactive) hvote
  exact keeps_bind (saveProposal_keepsProposals ic P 1 hvoted) fun _ =>
    saveVoteRecord_keepsProposals ic P 4 _

/-- The `Active` branch of `ExecuteProposal`: only a pass is accepted, and it writes
`Timelocked`; the other outcomes are written and refused, and the runtime drops the write. -/
theorem settleVote_keepsProposals (config : GovernanceConfig) {proposal : Proposal}
    (hp : P proposal) (hactive : proposal.status = .active) :
    KeepsProposals ic P (settleVote ic config proposal : Exec n Unit) := by
  unfold settleVote
  refine keeps_bind (rejectIf_keeps _ _) fun _ => ?_
  refine keeps_liftExcept_bind fun outcome htally => ?_
  obtain ⟨status, _ | e⟩ := outcome
  · obtain ⟨rfl, -⟩ := tally_eq_ok_none htally
    exact keeps_bind (saveProposal_keepsProposals ic P 1 (hP.pass proposal hp hactive)) fun _ =>
      keeps_pure ()
  · exact keeps_bind_throw _

theorem processExecuteProposal_keepsProposals (proposalId : UInt64) :
    KeepsProposals ic P (processExecuteProposal ic proposalId : Exec n Unit) := by
  unfold processExecuteProposal
  refine keeps_bind (ic.checkNumberOfInstructionAccounts_keeps 3) fun _ => ?_
  refine keeps_bind (signerKey_keeps ic) fun _ => ?_
  refine keeps_bind (loadState_keeps ic _ _ _) fun config => ?_
  refine loadProposal_bind_keepsProposals ic P fun proposal hp => ?_
  refine keeps_bind (rejectIf_keeps _ _) fun _ => ?_
  refine keeps_bind (rejectIf_keeps _ _) fun _ => ?_
  refine keeps_failIf_bind fun hfresh => ?_
  -- both branches execute a `Timelocked` or `Passed` proposal the same way
  have hexecute : proposal.status = .timelocked ∨ proposal.status = .passed →
      KeepsProposals ic P (do
        rejectIf (decide (ic.clock.epoch < proposal.executionEpoch)) .timelockNotExpired
        markExecuted ic proposal : Exec n Unit) := fun hstatus =>
    keeps_bind (rejectIf_keeps _ _) fun _ =>
      saveProposal_keepsProposals ic P 1 (hP.execute proposal hp hstatus hfresh)
  refine keeps_ite ?_ (keeps_failIf_bind fun htimelocked =>
    hexecute (.inl (by simpa using htimelocked)))
  cases hstatus : proposal.status with
  | active => exact settleVote_keepsProposals ic hP config hp hstatus
  | passed => exact hexecute (.inr hstatus)
  | timelocked => exact hexecute (.inl hstatus)
  | draft | rejected | vetoed | executed | cancelled | expired => exact fail_keeps _

theorem processCancelProposal_keepsProposals (proposalId : UInt64) :
    KeepsProposals ic P (processCancelProposal ic proposalId : Exec n Unit) := by
  unfold processCancelProposal
  refine keeps_bind (ic.checkNumberOfInstructionAccounts_keeps 3) fun _ => ?_
  refine keeps_bind (signerKey_keeps ic) fun _ => ?_
  refine keeps_bind (loadState_keeps ic _ _ _) fun _ => ?_
  refine keeps_bind (rejectIf_keeps _ _) fun _ => ?_
  refine loadProposal_bind_keepsProposals ic P fun proposal hp => ?_
  refine keeps_bind (rejectIf_keeps _ _) fun _ => ?_
  refine keeps_failIf_bind fun hcancellable => ?_
  refine saveProposal_keepsProposals ic P 1 (hP.cancel proposal hp ?_)
  -- the guard lets `Active`, `Passed` and `Timelocked` through
  revert hcancellable
  cases proposal.status <;> decide

theorem processVetoProposal_keepsProposals (proposalId : UInt64) :
    KeepsProposals ic P (processVetoProposal ic proposalId : Exec n Unit) := by
  unfold processVetoProposal
  refine keeps_bind (ic.checkNumberOfInstructionAccounts_keeps 3) fun _ => ?_
  refine keeps_bind (keeps_bind (ic.isInstructionAccountSigner_keeps 0) fun _ =>
    rejectIf_keeps _ _) fun _ => ?_
  refine keeps_bind (loadState_keeps ic _ _ _) fun _ => ?_
  refine loadProposal_bind_keepsProposals ic P fun proposal hp => ?_
  refine keeps_bind (rejectIf_keeps _ _) fun _ => ?_
  refine keeps_failIf_bind fun hvetoable => ?_
  refine keeps_bind (required_keeps _ _) fun _ => ?_
  refine keeps_bind (rejectIf_keeps _ _) fun _ => ?_
  refine keeps_bind (required_keeps _ _) fun _ => ?_
  refine keeps_bind (rejectIf_keeps _ _) fun _ => ?_
  refine saveProposal_keepsProposals ic P 1 (hP.veto proposal hp ?_)
  -- the guard lets `Active` and `Timelocked` through
  revert hvetoable
  cases proposal.status <;> decide

/-- Every governance instruction keeps a property of proposals closed under the lifecycle. -/
theorem process_keepsProposals (instr : GovernanceInstruction) :
    KeepsProposals ic P (process ic instr : Exec n Unit) := by
  cases instr with
  | initializeGovernance authority proposalThreshold votingPeriodEpochs quorumBps
      passThresholdBps vetoThresholdBps timelockEpochs emergencyMultisig =>
    exact processInitializeGovernance_keeps ic authority proposalThreshold votingPeriodEpochs
      quorumBps passThresholdBps vetoThresholdBps timelockEpochs emergencyMultisig
      (saveGovernanceConfig_keepsProposals ic P 1)
  | createProposal title descriptionHash proposalType =>
    exact processCreateProposal_keepsProposals ic hP title descriptionHash proposalType
  | castVote proposalId vote => exact processCastVote_keepsProposals ic hP proposalId vote
  | executeProposal proposalId => exact processExecuteProposal_keepsProposals ic hP proposalId
  | cancelProposal proposalId => exact processCancelProposal_keepsProposals ic hP proposalId
  | vetoProposal proposalId => exact processVetoProposal_keepsProposals ic hP proposalId
  | activateGovernance =>
    exact processActivateGovernance_keeps ic (saveGovernanceConfig_keepsProposals ic P 1)
  | updateConfig proposalThreshold votingPeriodEpochs quorumBps passThresholdBps
      vetoThresholdBps timelockEpochs emergencyMultisig =>
    exact processUpdateConfig_keeps ic proposalThreshold votingPeriodEpochs quorumBps
      passThresholdBps vetoThresholdBps timelockEpochs emergencyMultisig
      (saveGovernanceConfig_keepsProposals ic P 1)

end Handlers

/-- Along every run of the governance program, a property of proposals closed under the
lifecycle holds of every proposal of the program once it holds of those of the first bank. -/
theorem reachable_proposalsSatisfy {P : Proposal → Prop} (hP : Closed P) {b₀ b : Bank}
    (h : Bank.Reachable ID entrypoint b₀ b) (h₀ : ProposalsSatisfy ID P b₀.accounts) :
    ProposalsSatisfy ID P b.accounts := by
  refine Bank.reachable_inv (fun instr _ ic s s' hid hrun => ?_)
    (fun _ hs => ProposalsSatisfy.map_deallocate hs) h h₀
  rw [← hid]
  exact process_keepsProposals ic hP instr s () s' hrun

/-! ## The execution flag -/

/-- `executed` is set exactly on an `Executed` proposal. -/
def ExecutedFlag (p : Proposal) : Prop := p.executed = true ↔ p.status = .executed

instance : DecidablePred ExecutedFlag := fun p =>
  inferInstanceAs (Decidable (p.executed = true ↔ p.status = .executed))

/-- A vote leaves the execution flag as it was. -/
theorem applyVote_executed {p p' : Proposal} {vote : Vote} {power : UInt64}
    (h : applyVote p vote power = .ok p') : p'.executed = p.executed := by
  cases vote
  all_goals
    obtain ⟨v, -, hp'⟩ := except_bind_eq_ok h
    obtain rfl := except_pure_eq_ok hp'
    rfl

/-- A status other than `Executed`, written over a proposal that is not `Executed`. -/
theorem ExecutedFlag.set_status {p : Proposal} {status : ProposalStatus} (hp : ExecutedFlag p)
    (hp' : p.status ≠ .executed) (hstatus : status ≠ .executed) :
    ExecutedFlag { p with status := status } := by
  have hfresh : p.executed = false := by simpa [ExecutedFlag, hp'] using hp
  simp [ExecutedFlag, hfresh, hstatus]

theorem closed_executedFlag : Closed ExecutedFlag where
  create p hstatus hfresh _ := by
    rcases hstatus with hstatus | hstatus <;> simp [ExecutedFlag, hstatus, hfresh]
  vote p _ _ p' hp _ hvote := by
    unfold ExecutedFlag
    rw [applyVote_executed hvote, (applyVote_eq_ok hvote).2.2.1]
    exact hp
  pass p hp hactive := hp.set_status (by simp [hactive]) (by decide)
  execute p _ _ _ := by simp [ExecutedFlag]
  cancel p hp hstatus :=
    hp.set_status (by rcases hstatus with h | h | h <;> simp [h]) (by decide)
  veto p hp hstatus := hp.set_status (by rcases hstatus with h | h <;> simp [h]) (by decide)

/-- Along every run of the governance program, from a bank where it holds, every proposal of the
program is marked executed exactly when its status is `Executed`. -/
theorem reachable_executedFlag {b₀ b : Bank} (h : Bank.Reachable ID entrypoint b₀ b)
    (h₀ : ProposalsSatisfy ID ExecutedFlag b₀.accounts) :
    ProposalsSatisfy ID ExecutedFlag b.accounts :=
  reachable_proposalsSatisfy closed_executedFlag h h₀

/-! ## The outcomes that are refused -/

/-- Neither of the statuses that `ExecuteProposal` writes and then refuses: `Rejected`, for a
vote that failed, and `Expired`, for a vote nobody cast. -/
def NoFailedOutcome (p : Proposal) : Prop := p.status ≠ .rejected ∧ p.status ≠ .expired

instance : DecidablePred NoFailedOutcome := fun p =>
  inferInstanceAs (Decidable (p.status ≠ .rejected ∧ p.status ≠ .expired))

theorem closed_noFailedOutcome : Closed NoFailedOutcome where
  create p hstatus _ _ := by
    rcases hstatus with hstatus | hstatus <;> simp [NoFailedOutcome, hstatus]
  vote p _ _ p' hp _ hvote := by
    unfold NoFailedOutcome
    rw [(applyVote_eq_ok hvote).2.2.1]
    exact hp
  pass _ _ _ := by simp [NoFailedOutcome]
  execute _ _ _ _ := by simp [NoFailedOutcome]
  cancel _ _ _ := by simp [NoFailedOutcome]
  veto _ _ _ := by simp [NoFailedOutcome]

/-- No run of the governance program records a failed vote: from a bank without a `Rejected` or
`Expired` proposal, no reachable bank has one, whatever the tallies and configs. -/
theorem failed_votes_never_recorded {b₀ b : Bank} (h : Bank.Reachable ID entrypoint b₀ b)
    (h₀ : ProposalsSatisfy ID NoFailedOutcome b₀.accounts) :
    ProposalsSatisfy ID NoFailedOutcome b.accounts :=
  reachable_proposalsSatisfy closed_noFailedOutcome h h₀

/-- `failed_votes_never_recorded` along the run of `executeProposal_accepts_foreign_config`:
its proposal is `Active` when the vote is over, with a third of its decisive votes for, and
executing it under its own config is refused, so it never becomes `Rejected`. -/
theorem contested_vote_never_rejected :
    Bank.Reachable ID entrypoint contestBank contestedBank ∧
      ProposalsSatisfy ID NoFailedOutcome contestBank.accounts ∧
      (proposalAt contestedBank.accounts 3).map
        (fun p => (p.status, p.votesFor, p.votesAgainst, p.votingEndsEpoch)) =
        some (.active, 500000, 1000000, 10) ∧
      contestedBank.invoke ID (entrypoint (.executeProposal 0)) (executeWith 1) =
        .error GovernanceError.passThresholdNotMet.into ∧
      ProposalsSatisfy ID NoFailedOutcome contestedBank.accounts := by
  have hrun := Bank.reachable_replay ID entrypoint contestBank contestSchedule
  have h₀ : ProposalsSatisfy ID NoFailedOutcome contestBank.accounts := by decide +kernel
  refine ⟨hrun, h₀, by decide +kernel, Bank.invoke_eq_error (by decide +kernel),
    failed_votes_never_recorded hrun h₀⟩

/-! ## An executed proposal executed again

`govAdmin` initialises an inactive config with a voting period of one epoch and no timelock and
creates a proposal in `proposalAccount`, which is `Timelocked` at once; at epoch `1` it executes
it. `InitializeGovernance` then writes a config over the executed proposal, since the account does
not start with the config discriminator. `govAdmin` initialises a second config, whose next id is
again `0`, and creates a proposal under it in the same account: proposal `0`, `Timelocked` and
not executed, which is executed once more at epoch `2`. -/

/-- A second config account. -/
def secondConfig : Pubkey := ⟨43⟩

/-- `govAdmin`'s wallet and three empty accounts of the program, funded for what they will
hold. -/
def reuseBank : Bank :=
  { keys := [govAdmin, governanceConfig, proposalAccount, secondConfig]
    accounts := [⟨0, [], ⟨0⟩⟩, ⟨1000000000, [], ID⟩, ⟨1000000000, [], ID⟩,
      ⟨1000000000, [], ID⟩]
    rent := exampleRent }

/-- An inactive config of `govAdmin`, with a voting period of one epoch and no timelock. -/
def initializeInactive : GovernanceInstruction :=
  .initializeGovernance govAdmin 0 1 3000 5000 3333 0 govAdmin

/-- `govAdmin`, signing, then the accounts at the indices `rest` of the bank, at epoch `e`. -/
def byAdmin (rest : List Nat) (e : UInt64) : Invocation :=
  ⟨⟨0, true, true⟩ :: rest.map fun j => ⟨j, false, true⟩, ⟨0, e, 0⟩⟩

/-- The config, the proposal, and its execution at epoch `1`. -/
def firstLifeSchedule : List (GovernanceInstruction × Invocation) :=
  [(initializeInactive, byAdmin [1] 0),
   (.createProposal [] Hash.default .textProposal, byAdmin [1, 2] 0),
   (.executeProposal 0, byAdmin [2, 1] 1)]

/-- The bank once the proposal is executed. -/
def executedBank : Bank := Bank.replay ID entrypoint reuseBank firstLifeSchedule

/-- After a config is written over the executed proposal. -/
def overwrittenBank : Bank :=
  Bank.replay ID entrypoint executedBank [(initializeInactive, byAdmin [2] 1)]

/-- The second config, and the proposal created under it in the same account. -/
def secondLifeSchedule : List (GovernanceInstruction × Invocation) :=
  [(initializeInactive, byAdmin [3] 1),
   (.createProposal [] Hash.default .textProposal, byAdmin [3, 2] 1)]

/-- The bank with proposal `0` created again. -/
def recreatedBank : Bank := Bank.replay ID entrypoint overwrittenBank secondLifeSchedule

/-- After the second execution. -/
def reexecutedBank : Bank :=
  Bank.replay ID entrypoint recreatedBank [(.executeProposal 0, byAdmin [2, 3] 2)]

/-- From a run of the program: proposal `0` of `proposalAccount` is executed; an accepted
`InitializeGovernance` replaces it with a config; it is created again, `Timelocked` and not
executed, and an accepted `ExecuteProposal` executes it a second time. -/
theorem executed_proposal_reexecuted :
    Bank.Reachable ID entrypoint reuseBank executedBank ∧
      (proposalAt executedBank.accounts 2).map (fun p => (p.id, p.status, p.executed)) =
        some (0, .executed, true) ∧
      executedBank.invoke ID (entrypoint initializeInactive) (byAdmin [2] 1) =
        .ok overwrittenBank ∧
      proposalAt overwrittenBank.accounts 2 = none ∧
      (configAt overwrittenBank.accounts 2).map (·.nextProposalId) = some 0 ∧
      Bank.Reachable ID entrypoint overwrittenBank recreatedBank ∧
      (proposalAt recreatedBank.accounts 2).map (fun p => (p.id, p.status, p.executed)) =
        some (0, .timelocked, false) ∧
      recreatedBank.invoke ID (entrypoint (.executeProposal 0)) (byAdmin [2, 3] 2) =
        .ok reexecutedBank ∧
      (proposalAt reexecutedBank.accounts 2).map (fun p => (p.id, p.status, p.executed)) =
        some (0, .executed, true) := by
  refine ⟨Bank.reachable_replay ID entrypoint reuseBank firstLifeSchedule, ?_,
    Bank.invoke_eq_ok_replay ID entrypoint (by decide +kernel), ?_, ?_,
    Bank.reachable_replay ID entrypoint overwrittenBank secondLifeSchedule, ?_,
    Bank.invoke_eq_ok_replay ID entrypoint (by decide +kernel), ?_⟩
  all_goals decide +kernel

/-- `reachable_executedFlag` along the whole run: the flag is right at every step of it, the
second execution included. -/
theorem reexecution_keeps_executedFlag :
    ProposalsSatisfy ID ExecutedFlag reuseBank.accounts ∧
      ProposalsSatisfy ID ExecutedFlag reexecutedBank.accounts := by
  have h₀ : ProposalsSatisfy ID ExecutedFlag reuseBank.accounts := by decide +kernel
  -- the four stretches of the run, each a replay from where the last one ended
  have hfirst : Bank.Reachable ID entrypoint reuseBank executedBank :=
    Bank.reachable_replay ID entrypoint reuseBank firstLifeSchedule
  have hoverwrite : Bank.Reachable ID entrypoint executedBank overwrittenBank :=
    Bank.reachable_replay ID entrypoint executedBank [(initializeInactive, byAdmin [2] 1)]
  have hsecond : Bank.Reachable ID entrypoint overwrittenBank recreatedBank :=
    Bank.reachable_replay ID entrypoint overwrittenBank secondLifeSchedule
  have hexecute : Bank.Reachable ID entrypoint recreatedBank reexecutedBank :=
    Bank.reachable_replay ID entrypoint recreatedBank [(.executeProposal 0, byAdmin [2, 3] 2)]
  have hrun : Bank.Reachable ID entrypoint reuseBank reexecutedBank :=
    (hfirst.trans hoverwrite).trans (hsecond.trans hexecute)
  exact ⟨h₀, reachable_executedFlag hrun h₀⟩

end TRv1.Governance
