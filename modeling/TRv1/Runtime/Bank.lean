import Mathlib
import TRv1.Runtime.TransactionContext

/-!
# A bank of accounts, and programs run on it one instruction at a time

The bank holds accounts under keys, in the order instructions index them, and the rent of its
cluster. Every instruction is run as a transaction of its own over all of the bank's accounts,
as `solana_svm` runs one: the program runs and `pop` checks the balance; then the rent state of
every writable account before and after must be an allowed transition
(`TransactionAccountStateInfo::verify_changes`); then the bank takes the accounts the
instruction left, where an account left with no lamports is gone and loads as the default
account from then on (`do_load` in the account loader). A failed transaction is rolled back:
the bank keeps its own accounts. Which accounts an instruction names, at which positions, with
which signer and writable flags, and in which slot it runs are all chosen by whoever sends it
(`Invocation`).

`Step` is one accepted instruction of a program, `Reachable` a run of them, and `replay` runs a
schedule and skips the instructions that fail (`reachable_replay`). `invoke_eq_ok` says all an
accepted instruction does; its callers take it apart and never unfold `invoke`.
-/

set_option autoImplicit false

namespace TRv1.Runtime

/-- The rent sysvar of a bank, by the one question the runtime asks of it,
`Rent::is_exempt(lamports, data_len)`. The rule itself is in the solana-rent crate, outside the
repository, and is taken as given. -/
structure Rent where
  isExempt : UInt64 → Nat → Bool

/-- The rent of the example banks: an account is exempt when it holds `6_960` lamports for each
byte of its data and for the `128` bytes of overhead every account is charged for, which is what
the default rent asks (`3_480` lamports per byte-year over a two-year threshold). -/
def exampleRent : Rent :=
  ⟨fun lamports dataLen => decide ((128 + dataLen) * 6960 ≤ lamports.toNat)⟩

/-! ## Rent states (`solana_svm::rent_calculator`) -/

/-- `RentState`: an account with no lamports, one below the rent-exempt minimum, or one at or
above it. -/
inductive RentState where
  | uninitialized
  | rentPaying (lamports : UInt64) (dataSize : Nat)
  | rentExempt
  deriving DecidableEq, Repr

/-- `get_account_rent_state`. -/
def getAccountRentState (rent : Rent) (accountLamports : UInt64) (accountSize : Nat) :
    RentState :=
  if accountLamports = 0 then .uninitialized
  else if rent.isExempt accountLamports accountSize then .rentExempt
  else .rentPaying accountLamports accountSize

/-- `transition_allowed`: any account may end with no lamports or rent-exempt; one that ends
rent-paying must have been rent-paying, and neither resized nor credited. -/
def transitionAllowed (preRentState postRentState : RentState) : Bool :=
  match postRentState with
  | .uninitialized | .rentExempt => true
  | .rentPaying postLamports postDataSize =>
    match preRentState with
    | .uninitialized | .rentExempt => false
    | .rentPaying preLamports preDataSize =>
      postDataSize == preDataSize && postLamports ≤ preLamports

/-- `incinerator::ID`, `1nc1nerator11111111111111111111111111111111`. -/
def incinerator : Pubkey :=
  ⟨91106140082008105212422571994992178116422996362626429044886782625177403392⟩

/-- The `TransactionError` variants a transaction of the model can end with. -/
inductive TransactionError where
  | instructionError (index : UInt8) (err : InstructionError)
  | insufficientFundsForRent (accountIndex : UInt8)
  deriving DecidableEq, Repr

/-- The error of the transaction's one instruction, at index `0`. -/
instance : Coe InstructionError TransactionError := ⟨.instructionError 0⟩

/-- `check_rent_state_with_account`: the incinerator is exempt from the check. -/
def checkRentStateWithAccount (preRentState postRentState : RentState) (address : Pubkey)
    (accountIndex : Nat) : Except TransactionError Unit :=
  if !(address == incinerator) && !transitionAllowed preRentState postRentState then
    .error (.insufficientFundsForRent (UInt8.ofNat accountIndex))
  else .ok ()

/-- `check_rent_state`: only accounts with a rent state on both sides, the writable ones, are
checked. -/
def checkRentState (preRentState postRentState : Option RentState) (address : Pubkey)
    (index : Nat) : Except TransactionError Unit :=
  match preRentState, postRentState with
  | some pre, some post => checkRentStateWithAccount pre post address index
  | _, _ => .ok ()

/-- `TransactionAccountStateInfo::new`: the rent state of each writable account, by key index. -/
def accountStateInfos (rent : Rent) (isWritable : Nat → Bool) (numKeys : Nat)
    (accounts : List Account) : List (Option RentState) :=
  (List.range numKeys).map fun i =>
    if isWritable i then
      accounts[i]?.map fun account => getAccountRentState rent account.lamports account.data.length
    else none

/-- `TransactionAccountStateInfo::verify_changes`, from key index `index` on: the first
disallowed transition fails the transaction. -/
def verifyChanges (index : Nat) :
    List Pubkey → List (Option RentState) → List (Option RentState) →
      Except TransactionError Unit
  | address :: addresses, preStateInfo :: preStateInfos, postStateInfo :: postStateInfos => do
    checkRentState preStateInfo postStateInfo address index
    verifyChanges (index + 1) addresses preStateInfos postStateInfos
  | _, _, _ => .ok ()

/-- `AccountSharedData::default()`: no lamports, no data, owned by the system program. -/
def Account.default : Account := ⟨0, [], ⟨0⟩⟩

/-- What later transactions load of a committed account: one left with no lamports was
deallocated and loads as the default account. -/
def deallocate (account : Account) : Account :=
  if account.lamports = 0 then Account.default else account

@[simp] theorem lamports_deallocate (account : Account) :
    (deallocate account).lamports = account.lamports := by
  unfold deallocate
  split
  · next h => rw [h]; rfl
  · rfl

theorem totalLamports_map_deallocate (accounts : List Account) :
    totalLamports (accounts.map deallocate) = totalLamports accounts := by
  simp [totalLamports, Function.comp_def]

/-- A property of single accounts that the default account has survives deallocation. -/
theorem forall_mem_map_deallocate {P : Account → Prop} (hdefault : P Account.default)
    {accounts : List Account} (h : ∀ a ∈ accounts, P a) : ∀ a ∈ accounts.map deallocate, P a := by
  intro a ha
  obtain ⟨a₀, ha₀, rfl⟩ := List.mem_map.mp ha
  unfold deallocate
  split
  · exact hdefault
  · exact h a₀ ha₀

/-- The accounts of a bank under their keys, in the order instructions index them, and the rent
of its cluster. -/
structure Bank where
  keys : List Pubkey
  accounts : List Account
  rent : Rent

/-- What the sender of an instruction chooses besides the program: the instruction accounts
(positions into the bank, with flags) and the clock of the slot it runs in. -/
structure Invocation where
  accounts : List InstructionAccount
  clock : Clock
  deriving DecidableEq, Repr

/-- The message's `is_writable`: a transaction of one instruction marks writable the accounts
its instruction marks writable. -/
def Invocation.isWritable (inv : Invocation) (i : Nat) : Bool :=
  inv.accounts.any fun a => a.indexInTransaction == i && a.isWritable

/-- A built-in program: its run over the accounts of any transaction, in any context. -/
abbrev Program := (n : Nat) → InstructionContext → Exec n Unit

namespace Bank

/-- The context of an instruction of the program `programId`. -/
def context (b : Bank) (programId : Pubkey) (inv : Invocation) : InstructionContext :=
  ⟨b.keys, programId, inv.accounts, inv.clock⟩

/-- The rent states of the bank's writable accounts, before or after an instruction. -/
def stateInfos (b : Bank) (inv : Invocation) (accounts : List Account) :
    List (Option RentState) :=
  accountStateInfos b.rent inv.isWritable b.keys.length accounts

/-- Run one instruction as its own transaction; on failure the bank is unchanged. -/
def invoke (b : Bank) (programId : Pubkey) (program : Program) (inv : Invocation) :
    Except TransactionError Bank :=
  match processInstruction (program _ (b.context programId inv)) (.start b.accounts) with
  | .error e => .error (.instructionError 0 e)
  | .ok s =>
    match verifyChanges 0 b.keys (b.stateInfos inv b.accounts) (b.stateInfos inv s.accounts) with
    | .error e => .error e
    | .ok () => .ok { b with accounts := s.accounts.map deallocate }

/-- An instruction the bank refuses, read off its result with the bank forgotten. -/
theorem invoke_eq_error {b : Bank} {programId : Pubkey} {program : Program} {inv : Invocation}
    {e : TransactionError} (h : (b.invoke programId program inv).map (fun _ => ()) = .error e) :
    b.invoke programId program inv = .error e := by
  cases hinv : b.invoke programId program inv with
  | ok b' =>
    rw [hinv] at h
    cases h
  | error e' =>
    rw [hinv] at h
    cases h
    rfl

/-- The account under a key. -/
def account (b : Bank) (k : Pubkey) : Option Account := (b.keys.zip b.accounts).lookup k

/-- An accepted instruction ran the program to success, passed the rent-state check, and left
the bank its keys and rent and the accounts the program left, deallocated where drained. -/
theorem invoke_eq_ok {b b' : Bank} {programId : Pubkey} {program : Program} {inv : Invocation}
    (h : b.invoke programId program inv = .ok b') :
    ∃ s, processInstruction (program _ (b.context programId inv)) (.start b.accounts) = .ok s ∧
      verifyChanges 0 b.keys (b.stateInfos inv b.accounts) (b.stateInfos inv s.accounts) =
        .ok () ∧
      b' = { b with accounts := s.accounts.map deallocate } := by
  unfold invoke at h
  split at h
  · cases h
  · next s hrun =>
    -- the program succeeded; the rent-state check decides
    split at h
    · cases h
    · next hcheck =>
      cases h
      exact ⟨s, hrun, hcheck, rfl⟩

/-- An accepted instruction leaves the keys and the total lamports of the bank as they were. -/
theorem invoke_totalLamports {b b' : Bank} {programId : Pubkey} {program : Program}
    {inv : Invocation} (h : b.invoke programId program inv = .ok b') :
    b'.keys = b.keys ∧ totalLamports b'.accounts = totalLamports b.accounts := by
  obtain ⟨s, hs, -, rfl⟩ := invoke_eq_ok h
  refine ⟨rfl, ?_⟩
  rw [totalLamports_map_deallocate]
  exact processInstruction_balanced b.accounts _ hs

section Runs

variable {ι : Type} (programId : Pubkey) (program : ι → Program)

/-- One accepted instruction of the program. -/
def Step (b b' : Bank) : Prop :=
  ∃ instr inv, b.invoke programId (program instr) inv = .ok b'

/-- The banks that runs of the program reach from `b₀`. -/
def Reachable (b₀ : Bank) : Bank → Prop := Relation.ReflTransGen (Step programId program) b₀

/-- Run a schedule of instructions, skipping those that fail. -/
def replay (b : Bank) : List (ι × Invocation) → Bank
  | [] => b
  | (instr, inv) :: rest =>
    match b.invoke programId (program instr) inv with
    | .ok b' => replay b' rest
    | .error _ => replay b rest

/-- Every replayed schedule is a run. -/
theorem reachable_replay (b : Bank) (sched : List (ι × Invocation)) :
    Reachable programId program b (replay programId program b sched) := by
  induction sched generalizing b with
  | nil => exact Relation.ReflTransGen.refl
  | cons step rest ih =>
    obtain ⟨instr, inv⟩ := step
    cases hinv : b.invoke programId (program instr) inv with
    | ok b' =>
      -- an accepted instruction is one step, followed by the rest of the schedule
      have hstep : Step programId program b b' := ⟨instr, inv, hinv⟩
      rw [replay, hinv]
      exact Relation.ReflTransGen.head hstep (ih b')
    | error e =>
      rw [replay, hinv]
      exact ih b

/-- A schedule in two parts is replayed one part after the other. -/
theorem replay_append (b : Bank) (first second : List (ι × Invocation)) :
    replay programId program b (first ++ second) =
      replay programId program (replay programId program b first) second := by
  induction first generalizing b with
  | nil => rfl
  | cons step rest ih =>
    obtain ⟨instr, inv⟩ := step
    simp only [List.cons_append, replay]
    cases b.invoke programId (program instr) inv with
    | ok b' => exact ih b'
    | error e => exact ih b

/-- An instruction the bank accepts leads to the bank that replaying it alone gives. -/
theorem invoke_eq_ok_replay {b : Bank} {instr : ι} {inv : Invocation}
    (h : (b.invoke programId (program instr) inv).isOk = true) :
    b.invoke programId (program instr) inv = .ok (replay programId program b [(instr, inv)]) := by
  cases hinv : b.invoke programId (program instr) inv with
  | ok b' =>
    rw [replay, hinv]
    rfl
  | error e =>
    rw [hinv] at h
    cases h

end Runs

end Bank

end TRv1.Runtime
