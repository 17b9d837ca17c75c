import Mathlib
import TRv1.Sdk.Keys
import TRv1.Lib.RustInt
import TRv1.Lib.StateExcept

/-!
# Accounts, borrowed-account operations and the balance check of `pop`

The part of `transaction-context` that the built-in programs go through: an instruction sees
the transaction's accounts through its instruction accounts (an index into the transaction's
account list, with the signer and writable flags of that key), and changes them only with
`set_lamports` (and the `checked_add_lamports` / `checked_sub_lamports` built on it) and
`set_data_from_slice`, which check ownership, writability and the resize limits exactly as the
source does and keep the transaction-wide `lamports_delta` and `resize_delta`.

`TransactionContext::pop` refuses an instruction whose `lamports_delta` is not zero
(`processInstruction`; a failing program keeps its own error, as `.and(self.pop())` does).
`TransactionAccounts` is indexed by the total lamports the transaction began with and carries,
as a field, that `lamportsDelta` is the change of the total since then; no run can change the
index, so every instruction that passes `pop` leaves the total unchanged, whatever its program
does (`processInstruction_balanced`).

Left out: the borrow counters (every handler modelled here drops each borrow before the next,
so `try_borrow_mut` never refuses), `touch` (it only records which accounts were written),
and the `i128` / `i64` saturation of the two deltas, which the lamport and length bounds keep
far from the limits.
-/

set_option autoImplicit false

namespace TRv1.Runtime

/-- `MAX_ACCOUNT_DATA_LEN`: 10 MiB. -/
def maxAccountDataLen : Nat := 10 * 1024 * 1024

/-- `MAX_ACCOUNT_DATA_GROWTH_PER_TRANSACTION`: twice `MAX_ACCOUNT_DATA_LEN`. -/
def maxAccountDataGrowthPerTransaction : Int := 2 * maxAccountDataLen

/-- An account: its balance, its data and its owner program. -/
structure Account where
  lamports : UInt64
  data : List UInt8
  owner : Pubkey
  deriving DecidableEq, Repr

/-- Account data grown with zeros to at least `size` bytes, as handlers do before they
serialize a state into it (`if data.len() < size { data.resize(size, 0) }`). -/
def zeroExtend (data : List UInt8) (size : Nat) : List UInt8 :=
  data ++ List.replicate (size - data.length) 0

/-- The `InstructionError` variants the modelled code can return; a program's own error enum
becomes `custom` with its discriminant. -/
inductive InstructionError where
  | missingAccount
  | arithmeticOverflow
  | externalAccountLamportSpend
  | readonlyLamportChange
  | accountDataSizeChanged
  | invalidRealloc
  | maxAccountsDataAllocationsExceeded
  | readonlyDataModified
  | externalAccountDataModified
  | unbalancedInstruction
  | invalidInstructionData
  | invalidAccountData
  | missingRequiredSignature
  | custom (code : UInt32)
  deriving DecidableEq, Repr

/-- The total lamports of a list of accounts, without overflow. -/
def totalLamports (accounts : List Account) : Nat :=
  (accounts.map fun a => a.lamports.toNat).sum

/-- An instruction account: which transaction account it is and the flags of its key. -/
structure InstructionAccount where
  indexInTransaction : Nat
  isSigner : Bool
  isWritable : Bool
  deriving DecidableEq, Repr

/-- The `Clock` sysvar fields the programs read. -/
structure Clock where
  slot : UInt64
  epoch : UInt64
  unixTimestamp : Int64
  deriving DecidableEq, Repr

/-- What an instruction reads and does not change: the transaction's keys, the key of the
program being run, its instruction accounts and the clock of the bank. -/
structure InstructionContext where
  keys : List Pubkey
  programId : Pubkey
  accounts : List InstructionAccount
  clock : Clock

/-- The transaction's accounts with the two transaction-wide deltas, for a transaction whose
accounts held `startLamports` when it began. The index is not stored by the source; it is
here to state `delta_eq`, and as a type index no run can change it. -/
structure TransactionAccounts (startLamports : Nat) where
  accounts : List Account
  lamportsDelta : Int
  resizeDelta : Int
  delta_eq : lamportsDelta = (totalLamports accounts : Int) - startLamports

/-- Replacing one account moves the total by the change of its lamports. -/
theorem totalLamports_set (accounts : List Account) (idx : Nat) {acc : Account}
    (h : accounts[idx]? = some acc) (acc' : Account) :
    (totalLamports (accounts.set idx acc') : Int) =
      totalLamports accounts - acc.lamports.toNat + acc'.lamports.toNat := by
  induction accounts generalizing idx with
  | nil => cases h
  | cons a as ih =>
    cases idx with
    | zero =>
      -- the replaced account is the head
      simp only [List.getElem?_cons_zero, Option.some.injEq] at h
      subst h
      simp only [totalLamports, List.set_cons_zero, List.map_cons, List.sum_cons]
      push_cast
      ring
    | succ n =>
      simp only [List.getElem?_cons_succ] at h
      have ih' := ih n h
      simp only [totalLamports, List.set_cons_succ, List.map_cons, List.sum_cons] at ih' ⊢
      -- cast the head and the tail apart, so that the tail's sum stays the one of ih'
      rw [Nat.cast_add, Nat.cast_add, ih']
      ring

namespace TransactionAccounts

variable {n : Nat}

/-- The accounts at the start of a transaction: both deltas zero. -/
def start (accounts : List Account) : TransactionAccounts (totalLamports accounts) :=
  ⟨accounts, 0, 0, by simp⟩

@[simp] theorem start_accounts (accounts : List Account) : (start accounts).accounts = accounts :=
  rfl

/-- Set the lamports of the account at `idx`, moving `lamportsDelta` by the change
(`add_lamports_delta` then `set_lamports`). -/
def updateLamports (s : TransactionAccounts n) (idx : Nat) (lamports : UInt64) :
    TransactionAccounts n :=
  match h : s.accounts[idx]? with
  | some acc =>
    { accounts := s.accounts.set idx { acc with lamports := lamports }
      lamportsDelta := s.lamportsDelta + ((lamports.toNat : Int) - acc.lamports.toNat)
      resizeDelta := s.resizeDelta
      delta_eq := by
        rw [totalLamports_set s.accounts idx h, s.delta_eq]
        ring }
  | none => s

/-- Set the data of the account at `idx`, moving `resizeDelta` by the change of length. -/
def updateData (s : TransactionAccounts n) (idx : Nat) (data : List UInt8) :
    TransactionAccounts n :=
  match h : s.accounts[idx]? with
  | some acc =>
    { accounts := s.accounts.set idx { acc with data := data }
      lamportsDelta := s.lamportsDelta
      resizeDelta := s.resizeDelta + ((data.length : Int) - acc.data.length)
      delta_eq := by
        rw [totalLamports_set s.accounts idx h, s.delta_eq]
        ring }
  | none => s

theorem updateLamports_accounts (s : TransactionAccounts n) {idx : Nat} {acc : Account}
    (h : s.accounts[idx]? = some acc) (lamports : UInt64) :
    (s.updateLamports idx lamports).accounts =
      s.accounts.set idx { acc with lamports := lamports } := by
  unfold updateLamports
  split
  · next acc' h' =>
    rw [h] at h'
    cases h'
    rfl
  · next h' =>
    rw [h] at h'
    cases h'

theorem updateData_accounts (s : TransactionAccounts n) {idx : Nat} {acc : Account}
    (h : s.accounts[idx]? = some acc) (data : List UInt8) :
    (s.updateData idx data).accounts = s.accounts.set idx { acc with data := data } := by
  unfold updateData
  split
  · next acc' h' =>
    rw [h] at h'
    cases h'
    rfl
  · next h' =>
    rw [h] at h'
    cases h'

end TransactionAccounts

/-- A program's run over the accounts of a transaction that began with `n` lamports. -/
abbrev Exec (n : Nat) := StateT (TransactionAccounts n) (Except InstructionError)

/-- `if c { return Err(e) }`. -/
def failIf {n : Nat} (c : Bool) (e : InstructionError) : Exec n Unit :=
  if c then throw e else pure ()

/-- A guard that passes was false and changed nothing. -/
theorem failIf_eq_ok {n : Nat} {c : Bool} {e : InstructionError} {s s' : TransactionAccounts n}
    {u : Unit} (h : (failIf c e).run s = .ok (u, s')) : c = false ∧ s' = s :=
  StateExcept.run_guard_eq_ok h

/-- `ok_or(e)`. -/
def okOr {ε α : Type} (e : ε) : Option α → Except ε α
  | some a => .ok a
  | none => .error e

theorem okOr_eq_ok {ε α : Type} {e : ε} {o : Option α} {a : α} (h : okOr e o = .ok a) :
    o = some a := by
  cases o with
  | none => cases h
  | some a' =>
    cases h
    rfl

/-- `?` on a computation that needs no account: a program's error `e` becomes `into e`, as
`From<E> for InstructionError` makes it. -/
def liftExcept {ε α : Type} {n : Nat} (into : ε → InstructionError) : Except ε α → Exec n α
  | .ok a => pure a
  | .error e => throw (into e)

theorem liftExcept_eq_ok {ε α : Type} {n : Nat} {into : ε → InstructionError} {x : Except ε α}
    {a : α} {s s' : TransactionAccounts n} (h : (liftExcept into x).run s = .ok (a, s')) :
    x = .ok a ∧ s' = s := by
  cases x with
  | error e => exact absurd h StateExcept.run_throw_ne_ok
  | ok a' =>
    obtain ⟨ha, hs⟩ := StateExcept.run_pure_eq_ok h
    exact ⟨congrArg Except.ok ha.symm, hs⟩

/-- `o.ok_or(e)?`. -/
def requireSome {ε α : Type} {n : Nat} (into : ε → InstructionError) (e : ε) (o : Option α) :
    Exec n α :=
  liftExcept into (okOr e o)

theorem requireSome_eq_ok {ε α : Type} {n : Nat} {into : ε → InstructionError} {e : ε}
    {o : Option α} {a : α} {s s' : TransactionAccounts n}
    (h : (requireSome into e o).run s = .ok (a, s')) : o = some a ∧ s' = s := by
  obtain ⟨hx, hs⟩ := liftExcept_eq_ok h
  exact ⟨okOr_eq_ok hx, hs⟩

section Steps

variable {n : Nat} {s s'' : TransactionAccounts n} {β : Type} {b : β}

theorem failIf_bind_eq_ok {c : Bool} {e : InstructionError} {f : Unit → Exec n β}
    (h : (failIf c e >>= f).run s = .ok (b, s'')) : c = false ∧ (f ()).run s = .ok (b, s'') := by
  obtain ⟨u, h₁, h₂⟩ := StateExcept.run_bind_eq_ok_of_eq (fun _ _ h => (failIf_eq_ok h).2) h
  exact ⟨(failIf_eq_ok h₁).1, h₂⟩

theorem requireSome_bind_eq_ok {ε α : Type} {into : ε → InstructionError} {e : ε}
    {o : Option α} {f : α → Exec n β} (h : (requireSome into e o >>= f).run s = .ok (b, s'')) :
    ∃ a, o = some a ∧ (f a).run s = .ok (b, s'') := by
  obtain ⟨a, h₁, h₂⟩ :=
    StateExcept.run_bind_eq_ok_of_eq (fun _ _ h => (requireSome_eq_ok h).2) h
  exact ⟨a, (requireSome_eq_ok h₁).1, h₂⟩

theorem liftExcept_bind_eq_ok {ε α : Type} {into : ε → InstructionError} {x : Except ε α}
    {f : α → Exec n β} (h : (liftExcept into x >>= f).run s = .ok (b, s'')) :
    ∃ a, x = .ok a ∧ (f a).run s = .ok (b, s'') := by
  obtain ⟨a, h₁, h₂⟩ := StateExcept.run_bind_eq_ok_of_eq (fun _ _ h => (liftExcept_eq_ok h).2) h
  exact ⟨a, (liftExcept_eq_ok h₁).1, h₂⟩

end Steps

namespace InstructionContext

variable (ic : InstructionContext) {n : Nat}

/-- `check_number_of_instruction_accounts`. -/
def checkNumberOfInstructionAccounts (count : Nat) : Exec n Unit :=
  failIf (decide (ic.accounts.length < count)) .missingAccount

/-- The instruction account at position `i`. -/
def instructionAccount (i : Nat) : Exec n InstructionAccount :=
  match ic.accounts[i]? with
  | some a => pure a
  | none => throw .missingAccount

/-- `is_instruction_account_signer`. -/
def isInstructionAccountSigner (i : Nat) : Exec n Bool := do
  return (← ic.instructionAccount i).isSigner

/-- `get_key_of_instruction_account`. -/
def getKeyOfInstructionAccount (i : Nat) : Exec n Pubkey := do
  let a ← ic.instructionAccount i
  match ic.keys[a.indexInTransaction]? with
  | some k => pure k
  | none => throw .missingAccount

/-- `try_borrow_instruction_account`, read side: the account behind position `i` as it is
now. -/
def borrowAccount (i : Nat) : Exec n Account := do
  let a ← ic.instructionAccount i
  match (← get).accounts[a.indexInTransaction]? with
  | some acc => pure acc
  | none => throw .missingAccount

/-- `is_owned_by_current_program`. -/
def isOwnedByCurrentProgram (acc : Account) : Bool := acc.owner == ic.programId

@[simp] theorem isOwnedByCurrentProgram_eq_true (acc : Account) :
    ic.isOwnedByCurrentProgram acc = true ↔ acc.owner = ic.programId := by
  simp [isOwnedByCurrentProgram]

/-- `BorrowedInstructionAccount::set_lamports`. -/
def setLamports (i : Nat) (lamports : UInt64) : Exec n Unit := do
  let a ← ic.instructionAccount i
  let acc ← ic.borrowAccount i
  -- an account not owned by the program cannot have its balance decrease
  failIf (!ic.isOwnedByCurrentProgram acc && decide (lamports < acc.lamports))
    .externalAccountLamportSpend
  failIf (!a.isWritable) .readonlyLamportChange
  if acc.lamports == lamports then pure ()
  else modify fun s => s.updateLamports a.indexInTransaction lamports

/-- `checked_add_lamports`. -/
def checkedAddLamports (i : Nat) (lamports : UInt64) : Exec n Unit := do
  let acc ← ic.borrowAccount i
  match RustInt.checkedAdd acc.lamports lamports with
  | some v => ic.setLamports i v
  | none => throw .arithmeticOverflow

/-- `checked_sub_lamports`. -/
def checkedSubLamports (i : Nat) (lamports : UInt64) : Exec n Unit := do
  let acc ← ic.borrowAccount i
  match RustInt.checkedSub acc.lamports lamports with
  | some v => ic.setLamports i v
  | none => throw .arithmeticOverflow

/-- A move of `amount` lamports from the account at position `src` to the account at position
`dst`, in the two blocks the handlers write for it: the source must hold `amount`, else the
program's error `insufficient`; then `checked_sub_lamports` and `checked_add_lamports`. -/
def transferLamports (src dst : Nat) (amount : UInt64) (insufficient : InstructionError) :
    Exec n Unit := do
  let source ← ic.borrowAccount src
  failIf (decide (source.lamports < amount)) insufficient
  ic.checkedSubLamports src amount
  ic.checkedAddLamports dst amount

/-- `set_data_from_slice`: `can_data_be_resized` (which ends with `can_data_be_changed`),
then the new data and the resize delta. -/
def setDataFromSlice (i : Nat) (data : List UInt8) : Exec n Unit := do
  let a ← ic.instructionAccount i
  let acc ← ic.borrowAccount i
  -- only the owner can change the length of the data
  failIf (data.length != acc.data.length && !ic.isOwnedByCurrentProgram acc)
    .accountDataSizeChanged
  failIf (decide (maxAccountDataLen < data.length)) .invalidRealloc
  let s ← get
  failIf (decide (maxAccountDataGrowthPerTransaction <
      s.resizeDelta + ((data.length : Int) - acc.data.length)))
    .maxAccountsDataAllocationsExceeded
  failIf (!a.isWritable) .readonlyDataModified
  failIf (!ic.isOwnedByCurrentProgram acc) .externalAccountDataModified
  modify fun s => s.updateData a.indexInTransaction data

/-! ## What each operation does when it succeeds

One lemma per operation, read off a successful run: what it checked and the accounts it left.
Proofs about programs peel their runs apart with `StateExcept.run_bind_eq_ok` and cite these,
never the operations' bodies. -/

open StateExcept

variable {s s' : TransactionAccounts n}

theorem checkNumberOfInstructionAccounts_eq_ok {count : Nat} {u : Unit}
    (h : (ic.checkNumberOfInstructionAccounts count).run s = .ok (u, s')) :
    count ≤ ic.accounts.length ∧ s' = s := by
  obtain ⟨hlt, hs⟩ := failIf_eq_ok h
  exact ⟨by simpa using hlt, hs⟩

theorem instructionAccount_eq_ok {i : Nat} {a : InstructionAccount}
    (h : (ic.instructionAccount i).run s = .ok (a, s')) : ic.accounts[i]? = some a ∧ s' = s := by
  unfold instructionAccount at h
  cases hi : ic.accounts[i]? with
  | none =>
    rw [hi] at h
    exact absurd h run_throw_ne_ok
  | some a' =>
    rw [hi] at h
    obtain ⟨ha, hs⟩ := run_pure_eq_ok h
    exact ⟨congrArg some ha.symm, hs⟩

theorem isInstructionAccountSigner_eq_ok {i : Nat} {b : Bool}
    (h : (ic.isInstructionAccountSigner i).run s = .ok (b, s')) :
    ∃ a, ic.accounts[i]? = some a ∧ b = a.isSigner ∧ s' = s := by
  obtain ⟨a, s₁, h₁, h₂⟩ := run_bind_eq_ok h
  obtain ⟨ha, hs₁⟩ := instructionAccount_eq_ok ic h₁
  obtain ⟨hb, hs'⟩ := run_pure_eq_ok h₂
  exact ⟨a, ha, hb, hs'.trans hs₁⟩

theorem getKeyOfInstructionAccount_eq_ok {i : Nat} {k : Pubkey}
    (h : (ic.getKeyOfInstructionAccount i).run s = .ok (k, s')) :
    ∃ a, ic.accounts[i]? = some a ∧ ic.keys[a.indexInTransaction]? = some k ∧ s' = s := by
  obtain ⟨a, s₁, h₁, h₂⟩ := run_bind_eq_ok h
  obtain ⟨ha, hs₁⟩ := instructionAccount_eq_ok ic h₁
  refine ⟨a, ha, ?_⟩
  cases hk : ic.keys[a.indexInTransaction]? with
  | none =>
    rw [hk] at h₂
    exact absurd h₂ run_throw_ne_ok
  | some k' =>
    rw [hk] at h₂
    obtain ⟨hk', hs'⟩ := run_pure_eq_ok h₂
    exact ⟨congrArg some hk'.symm, hs'.trans hs₁⟩

theorem borrowAccount_eq_ok {i : Nat} {acc : Account}
    (h : (ic.borrowAccount i).run s = .ok (acc, s')) :
    s' = s ∧ ∃ a, ic.accounts[i]? = some a ∧ s.accounts[a.indexInTransaction]? = some acc := by
  obtain ⟨a, s₁, h₁, h₂⟩ := run_bind_eq_ok h
  obtain ⟨ha, hs₁⟩ := instructionAccount_eq_ok ic h₁
  rw [hs₁] at h₂
  -- `(← get)` reads the accounts as they are
  obtain ⟨s₂, s₃, h₃, h₄⟩ := run_bind_eq_ok h₂
  obtain ⟨hs₂, hs₃⟩ := run_get_eq_ok h₃
  rw [hs₂, hs₃] at h₄
  cases hacc : s.accounts[a.indexInTransaction]? with
  | none =>
    rw [hacc] at h₄
    exact absurd h₄ run_throw_ne_ok
  | some acc' =>
    rw [hacc] at h₄
    obtain ⟨hacc', hs'⟩ := run_pure_eq_ok h₄
    rw [hacc']
    exact ⟨hs', a, ha, hacc⟩

/-- A passed `set_lamports` guard: the owner may lower the balance, anyone may raise it. -/
theorem lamports_guard_eq_false {acc : Account} {lamports : UInt64}
    (h : (!ic.isOwnedByCurrentProgram acc && decide (lamports < acc.lamports)) = false) :
    ic.isOwnedByCurrentProgram acc = true ∨ acc.lamports ≤ lamports := by
  cases ho : ic.isOwnedByCurrentProgram acc with
  | true => exact Or.inl rfl
  | false =>
    rw [ho, Bool.not_false, Bool.true_and, decide_eq_false_iff_not] at h
    exact Or.inr (UInt64.not_lt.mp h)

/-- `set_lamports` checked the owner rule and the writable flag, and set the balance. -/
theorem setLamports_eq_ok {i : Nat} {lamports : UInt64} {u : Unit}
    (h : (ic.setLamports i lamports).run s = .ok (u, s')) :
    ∃ a acc, ic.accounts[i]? = some a ∧ s.accounts[a.indexInTransaction]? = some acc ∧
      (ic.isOwnedByCurrentProgram acc = true ∨ acc.lamports ≤ lamports) ∧
      a.isWritable = true ∧
      s'.accounts = s.accounts.set a.indexInTransaction { acc with lamports := lamports } := by
  obtain ⟨a, s₁, h₁, h₂⟩ := run_bind_eq_ok h
  obtain ⟨ha, hs₁⟩ := instructionAccount_eq_ok ic h₁
  rw [hs₁] at h₂
  obtain ⟨acc, s₂, h₃, h₄⟩ := run_bind_eq_ok h₂
  obtain ⟨hs₂, a', ha', hacc⟩ := borrowAccount_eq_ok ic h₃
  rw [ha, Option.some.injEq] at ha'
  rw [← ha'] at hacc
  rw [hs₂] at h₄
  -- the two guards
  obtain ⟨u₁, s₃, h₅, h₆⟩ := run_bind_eq_ok h₄
  obtain ⟨hown, hs₃⟩ := failIf_eq_ok h₅
  rw [hs₃] at h₆
  obtain ⟨u₂, s₄, h₇, h₈⟩ := run_bind_eq_ok h₆
  obtain ⟨hw, hs₄⟩ := failIf_eq_ok h₇
  rw [hs₄] at h₈
  refine ⟨a, acc, ha, hacc, lamports_guard_eq_false ic hown, by simpa using hw, ?_⟩
  by_cases heq : acc.lamports = lamports
  · -- an unchanged balance is not written; writing it would change nothing
    rw [if_pos (by simpa using heq)] at h₈
    obtain ⟨-, hs'⟩ := run_pure_eq_ok h₈
    obtain ⟨hlt, hget⟩ := List.getElem?_eq_some_iff.mp hacc
    have hacc_eq : { acc with lamports := lamports } = s.accounts[a.indexInTransaction] := by
      rw [hget, ← heq]
    rw [hs', hacc_eq, List.set_getElem_self hlt]
  · rw [if_neg (by simpa using heq)] at h₈
    rw [run_modify_eq_ok h₈, TransactionAccounts.updateLamports_accounts s hacc]

/-- `checked_add_lamports` raised the balance by `lamports`, without overflow. -/
theorem checkedAddLamports_eq_ok {i : Nat} {lamports : UInt64} {u : Unit}
    (h : (ic.checkedAddLamports i lamports).run s = .ok (u, s')) :
    ∃ a acc v, ic.accounts[i]? = some a ∧ s.accounts[a.indexInTransaction]? = some acc ∧
      v.toNat = acc.lamports.toNat + lamports.toNat ∧ a.isWritable = true ∧
      s'.accounts = s.accounts.set a.indexInTransaction { acc with lamports := v } := by
  obtain ⟨acc, s₁, h₁, h₂⟩ := run_bind_eq_ok h
  obtain ⟨hs₁, a, ha, hacc⟩ := borrowAccount_eq_ok ic h₁
  rw [hs₁] at h₂
  cases hv : RustInt.checkedAdd acc.lamports lamports with
  | none =>
    rw [hv] at h₂
    exact absurd h₂ run_throw_ne_ok
  | some v =>
    rw [hv] at h₂
    obtain ⟨a', acc', ha', hacc', -, hw, hs'⟩ := setLamports_eq_ok ic h₂
    -- `set_lamports` borrows the same account again
    obtain rfl : a' = a := Option.some.inj (ha'.symm.trans ha)
    obtain rfl : acc' = acc := Option.some.inj (hacc'.symm.trans hacc)
    exact ⟨a', acc', v, ha, hacc, (RustInt.checkedAdd_eq_some.mp hv).2, hw, hs'⟩

/-- `checked_sub_lamports` lowered the balance by `lamports`, of an account the program owns
unless `lamports` is zero. -/
theorem checkedSubLamports_eq_ok {i : Nat} {lamports : UInt64} {u : Unit}
    (h : (ic.checkedSubLamports i lamports).run s = .ok (u, s')) :
    ∃ a acc v, ic.accounts[i]? = some a ∧ s.accounts[a.indexInTransaction]? = some acc ∧
      lamports.toNat ≤ acc.lamports.toNat ∧ v.toNat = acc.lamports.toNat - lamports.toNat ∧
      (ic.isOwnedByCurrentProgram acc = true ∨ acc.lamports ≤ v) ∧ a.isWritable = true ∧
      s'.accounts = s.accounts.set a.indexInTransaction { acc with lamports := v } := by
  obtain ⟨acc, s₁, h₁, h₂⟩ := run_bind_eq_ok h
  obtain ⟨hs₁, a, ha, hacc⟩ := borrowAccount_eq_ok ic h₁
  rw [hs₁] at h₂
  cases hv : RustInt.checkedSub acc.lamports lamports with
  | none =>
    rw [hv] at h₂
    exact absurd h₂ run_throw_ne_ok
  | some v =>
    rw [hv] at h₂
    obtain ⟨a', acc', ha', hacc', hown, hw, hs'⟩ := setLamports_eq_ok ic h₂
    obtain rfl : a' = a := Option.some.inj (ha'.symm.trans ha)
    obtain rfl : acc' = acc := Option.some.inj (hacc'.symm.trans hacc)
    obtain ⟨hle, hvn⟩ := RustInt.checkedSub_eq_some.mp hv
    exact ⟨a', acc', v, ha, hacc, hle, hvn, hown, hw, hs'⟩

/-- An account that lost lamports through `checked_sub_lamports` is owned by the program. -/
theorem owner_of_checkedSub {acc : Account} {lamports v : UInt64}
    (hown : ic.isOwnedByCurrentProgram acc = true ∨ acc.lamports ≤ v)
    (hv : v.toNat = acc.lamports.toNat - lamports.toNat) (hle : lamports.toNat ≤ acc.lamports.toNat)
    (hpos : lamports ≠ 0) : acc.owner = ic.programId := by
  rcases hown with hown | hlow
  · exact (isOwnedByCurrentProgram_eq_true ic acc).mp hown
  · -- a positive debit leaves less than there was
    have hpos' : 0 < lamports.toNat := by
      rcases Nat.eq_zero_or_pos lamports.toNat with h0 | h0
      · exact absurd (UInt64.toNat_inj.mp (h0.trans UInt64.toNat_zero.symm)) hpos
      · exact h0
    have hlow' : acc.lamports.toNat ≤ v.toNat := UInt64.le_iff_toNat_le.mp hlow
    omega

/-- `set_data_from_slice` wrote the data of an account the program owns, through a writable
instruction account, within the length limit. -/
theorem setDataFromSlice_eq_ok {i : Nat} {data : List UInt8} {u : Unit}
    (h : (ic.setDataFromSlice i data).run s = .ok (u, s')) :
    ∃ a acc, ic.accounts[i]? = some a ∧ s.accounts[a.indexInTransaction]? = some acc ∧
      ic.isOwnedByCurrentProgram acc = true ∧ a.isWritable = true ∧
      data.length ≤ maxAccountDataLen ∧
      s'.accounts = s.accounts.set a.indexInTransaction { acc with data := data } := by
  obtain ⟨a, s₁, h₁, h₂⟩ := run_bind_eq_ok h
  obtain ⟨ha, hs₁⟩ := instructionAccount_eq_ok ic h₁
  rw [hs₁] at h₂
  obtain ⟨acc, s₂, h₃, h₄⟩ := run_bind_eq_ok h₂
  obtain ⟨hs₂, a', ha', hacc⟩ := borrowAccount_eq_ok ic h₃
  obtain rfl : a' = a := Option.some.inj (ha'.symm.trans ha)
  rw [hs₂] at h₄
  -- the five checks of `can_data_be_resized` and `can_data_be_changed`, with a read of the
  -- resize delta between them
  obtain ⟨_, s₃, h₅, h₆⟩ := run_bind_eq_ok h₄
  obtain ⟨-, hs₃⟩ := failIf_eq_ok h₅
  rw [hs₃] at h₆
  obtain ⟨_, s₄, h₇, h₈⟩ := run_bind_eq_ok h₆
  obtain ⟨hlen, hs₄⟩ := failIf_eq_ok h₇
  rw [hs₄] at h₈
  obtain ⟨s₅, s₆, h₉, h₁₀⟩ := run_bind_eq_ok h₈
  obtain ⟨-, hs₆⟩ := run_get_eq_ok h₉
  rw [hs₆] at h₁₀
  obtain ⟨_, s₇, h₁₁, h₁₂⟩ := run_bind_eq_ok h₁₀
  obtain ⟨-, hs₇⟩ := failIf_eq_ok h₁₁
  rw [hs₇] at h₁₂
  obtain ⟨_, s₈, h₁₃, h₁₄⟩ := run_bind_eq_ok h₁₂
  obtain ⟨hw, hs₈⟩ := failIf_eq_ok h₁₃
  rw [hs₈] at h₁₄
  obtain ⟨_, s₉, h₁₅, h₁₆⟩ := run_bind_eq_ok h₁₄
  obtain ⟨hown, hs₉⟩ := failIf_eq_ok h₁₅
  rw [hs₉] at h₁₆
  refine ⟨a', acc, ha, hacc, by simpa using hown, by simpa using hw, by simpa using hlen, ?_⟩
  rw [run_modify_eq_ok h₁₆, TransactionAccounts.updateData_accounts s hacc]

/-! ## Steps of a program

The lemmas above in the form a proof about a program consumes them: a successful run of
`op >>= rest` did what `op` does and ran `rest` from the state `op` left. A program's inversion
lemma is then one `obtain` per line of the program. -/

section Steps

variable {β : Type} {f : Unit → Exec n β} {b : β} {s'' : TransactionAccounts n}

theorem checkNumberOfInstructionAccounts_bind_eq_ok {count : Nat}
    (h : (ic.checkNumberOfInstructionAccounts count >>= f).run s = .ok (b, s'')) :
    count ≤ ic.accounts.length ∧ (f ()).run s = .ok (b, s'') := by
  obtain ⟨u, h₁, h₂⟩ :=
    run_bind_eq_ok_of_eq (fun _ _ h => (ic.checkNumberOfInstructionAccounts_eq_ok h).2) h
  exact ⟨(ic.checkNumberOfInstructionAccounts_eq_ok h₁).1, h₂⟩

theorem borrowAccount_bind_eq_ok {i : Nat} {g : Account → Exec n β}
    (h : (ic.borrowAccount i >>= g).run s = .ok (b, s'')) :
    ∃ a acc, ic.accounts[i]? = some a ∧ s.accounts[a.indexInTransaction]? = some acc ∧
      (g acc).run s = .ok (b, s'') := by
  obtain ⟨acc, h₁, h₂⟩ := run_bind_eq_ok_of_eq (fun _ _ h => (ic.borrowAccount_eq_ok h).1) h
  obtain ⟨-, a, ha, hacc⟩ := ic.borrowAccount_eq_ok h₁
  exact ⟨a, acc, ha, hacc, h₂⟩

theorem getKeyOfInstructionAccount_bind_eq_ok {i : Nat} {g : Pubkey → Exec n β}
    (h : (ic.getKeyOfInstructionAccount i >>= g).run s = .ok (b, s'')) :
    ∃ a k, ic.accounts[i]? = some a ∧ ic.keys[a.indexInTransaction]? = some k ∧
      (g k).run s = .ok (b, s'') := by
  have hread : ∀ k s', (ic.getKeyOfInstructionAccount i).run s = .ok (k, s') → s' = s := by
    intro k s' hk
    obtain ⟨-, -, -, hs'⟩ := ic.getKeyOfInstructionAccount_eq_ok hk
    exact hs'
  obtain ⟨k, h₁, h₂⟩ := run_bind_eq_ok_of_eq hread h
  obtain ⟨a, ha, hk, -⟩ := ic.getKeyOfInstructionAccount_eq_ok h₁
  exact ⟨a, k, ha, hk, h₂⟩

theorem isInstructionAccountSigner_bind_eq_ok {i : Nat} {g : Bool → Exec n β}
    (h : (ic.isInstructionAccountSigner i >>= g).run s = .ok (b, s'')) :
    ∃ a, ic.accounts[i]? = some a ∧ (g a.isSigner).run s = .ok (b, s'') := by
  have hread : ∀ c s', (ic.isInstructionAccountSigner i).run s = .ok (c, s') → s' = s := by
    intro c s' hc
    obtain ⟨-, -, -, hs'⟩ := ic.isInstructionAccountSigner_eq_ok hc
    exact hs'
  obtain ⟨c, h₁, h₂⟩ := run_bind_eq_ok_of_eq hread h
  obtain ⟨a, ha, rfl, -⟩ := ic.isInstructionAccountSigner_eq_ok h₁
  exact ⟨a, ha, h₂⟩

theorem setDataFromSlice_bind_eq_ok {i : Nat} {data : List UInt8}
    (h : (ic.setDataFromSlice i data >>= f).run s = .ok (b, s'')) :
    ∃ a acc s₁, ic.accounts[i]? = some a ∧ s.accounts[a.indexInTransaction]? = some acc ∧
      acc.owner = ic.programId ∧
      s₁.accounts = s.accounts.set a.indexInTransaction { acc with data := data } ∧
      (f ()).run s₁ = .ok (b, s'') := by
  obtain ⟨u, s₁, h₁, h₂⟩ := run_bind_eq_ok h
  obtain ⟨a, acc, ha, hacc, hown, -, -, hs₁⟩ := ic.setDataFromSlice_eq_ok h₁
  exact ⟨a, acc, s₁, ha, hacc, (isOwnedByCurrentProgram_eq_true ic acc).mp hown, hs₁, h₂⟩

theorem checkedSubLamports_bind_eq_ok {i : Nat} {lamports : UInt64}
    (h : (ic.checkedSubLamports i lamports >>= f).run s = .ok (b, s'')) :
    ∃ a acc v s₁, ic.accounts[i]? = some a ∧ s.accounts[a.indexInTransaction]? = some acc ∧
      lamports.toNat ≤ acc.lamports.toNat ∧ v.toNat = acc.lamports.toNat - lamports.toNat ∧
      (ic.isOwnedByCurrentProgram acc = true ∨ acc.lamports ≤ v) ∧
      s₁.accounts = s.accounts.set a.indexInTransaction { acc with lamports := v } ∧
      (f ()).run s₁ = .ok (b, s'') := by
  obtain ⟨u, s₁, h₁, h₂⟩ := run_bind_eq_ok h
  obtain ⟨a, acc, v, ha, hacc, hle, hv, hown, -, hs₁⟩ := ic.checkedSubLamports_eq_ok h₁
  exact ⟨a, acc, v, s₁, ha, hacc, hle, hv, hown, hs₁, h₂⟩

end Steps

/-- An accepted transfer took `amount` from the account at position `src`, which held it and,
for a positive amount, is the program's; then gave it to the account at position `dst`. -/
theorem transferLamports_eq_ok {src dst : Nat} {amount : UInt64} {insufficient : InstructionError}
    {u : Unit} (h : (ic.transferLamports src dst amount insufficient).run s = .ok (u, s')) :
    ∃ (a₁ : InstructionAccount) (acc₁ : Account) (v₁ : UInt64) (a₂ : InstructionAccount)
      (acc₂ : Account) (v₂ : UInt64) (s₁ : TransactionAccounts n),
      ic.accounts[src]? = some a₁ ∧ s.accounts[a₁.indexInTransaction]? = some acc₁ ∧
      amount.toNat ≤ acc₁.lamports.toNat ∧ v₁.toNat = acc₁.lamports.toNat - amount.toNat ∧
      (ic.isOwnedByCurrentProgram acc₁ = true ∨ acc₁.lamports ≤ v₁) ∧
      s₁.accounts = s.accounts.set a₁.indexInTransaction { acc₁ with lamports := v₁ } ∧
      ic.accounts[dst]? = some a₂ ∧ s₁.accounts[a₂.indexInTransaction]? = some acc₂ ∧
      v₂.toNat = acc₂.lamports.toNat + amount.toNat ∧
      s'.accounts = s₁.accounts.set a₂.indexInTransaction { acc₂ with lamports := v₂ } := by
  -- the handler's own balance check comes before the runtime's, and adds nothing to it
  obtain ⟨_, _, -, -, h⟩ := ic.borrowAccount_bind_eq_ok h
  obtain ⟨-, h⟩ := failIf_bind_eq_ok h
  obtain ⟨a₁, acc₁, v₁, s₁, ha₁, hacc₁, hle, hv₁, hown, hs₁, h⟩ :=
    ic.checkedSubLamports_bind_eq_ok h
  obtain ⟨a₂, acc₂, v₂, ha₂, hacc₂, hv₂, -, hs'⟩ := ic.checkedAddLamports_eq_ok h
  exact ⟨a₁, acc₁, v₁, a₂, acc₂, v₂, s₁, ha₁, hacc₁, hle, hv₁, hown, hs₁, ha₂, hacc₂, hv₂, hs'⟩

end InstructionContext

/-- Run one instruction: a failing program returns its error; a program that succeeds is
then checked by `pop`, which refuses any change of the total lamports. -/
def processInstruction {n : Nat} (prog : Exec n Unit) (s : TransactionAccounts n) :
    Except InstructionError (TransactionAccounts n) :=
  match prog.run s with
  | .error e => .error e
  | .ok ((), s') => if s'.lamportsDelta != 0 then .error .unbalancedInstruction else .ok s'

/-- An instruction the runtime accepted ran its program to success with no change of the total. -/
theorem processInstruction_eq_ok {n : Nat} {prog : Exec n Unit} {s s' : TransactionAccounts n}
    (h : processInstruction prog s = .ok s') :
    prog.run s = .ok ((), s') ∧ s'.lamportsDelta = 0 := by
  unfold processInstruction at h
  cases hrun : prog.run s with
  | error e =>
    rw [hrun] at h
    cases h
  | ok p =>
    obtain ⟨⟨⟩, s''⟩ := p
    rw [hrun] at h
    by_cases hdelta : s''.lamportsDelta = 0
    · have h' : s'' = s' := by simpa [hdelta] using h
      subst h'
      exact ⟨rfl, hdelta⟩
    · simp [hdelta] at h

/-- Every instruction that the runtime accepts leaves the total lamports of the transaction's
accounts unchanged, whatever the program does. -/
theorem processInstruction_balanced (accounts : List Account)
    (prog : Exec (totalLamports accounts) Unit) {s' : TransactionAccounts (totalLamports accounts)}
    (h : processInstruction prog (.start accounts) = .ok s') :
    totalLamports s'.accounts = totalLamports accounts := by
  obtain ⟨-, hdelta⟩ := processInstruction_eq_ok h
  -- `delta_eq` ties the zero delta to the starting total, which no run can change
  have heq := s'.delta_eq
  rw [hdelta] at heq
  omega

/-- A program that runs to success but changes the total lamports is rejected by `pop`. -/
theorem processInstruction_eq_unbalanced (accounts : List Account)
    {prog : Exec (totalLamports accounts) Unit} {s' : TransactionAccounts (totalLamports accounts)}
    (hrun : prog.run (.start accounts) = .ok ((), s'))
    (htotal : totalLamports s'.accounts ≠ totalLamports accounts) :
    processInstruction prog (.start accounts) = .error .unbalancedInstruction := by
  have hdelta : s'.lamportsDelta ≠ 0 := by
    have heq := s'.delta_eq
    omega
  unfold processInstruction
  rw [hrun]
  simp [hdelta]

end TRv1.Runtime
