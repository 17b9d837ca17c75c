import TRv1.Runtime.Bank

/-!
# What instructions keep, and what accounts hold for a program

The reads, guards and lifted errors of an instruction leave the accounts as they were, so they
keep every reflexive relation on them (`Keeps`); a handler's invariant lemma then only has to
look at its writes. `programState` and `lamportsAt` are what an account holds for a program and
its balance, with how each write changes them, and how the deallocation that ends an accepted
transaction changes them (`programState_map_deallocate`): a drained account holds nothing for
any program but the system program. A transfer between two positions changes the two balances
and nothing a program holds (`InstructionContext.transferLamports_lamportsAt`).

The run lemma is stated once for every program: a property that every accepted instruction
keeps, and deallocation too, holds all along a run that starts in it (`Bank.reachable_inv`).
-/

set_option autoImplicit false

namespace TRv1.Runtime

open StateExcept

section Operations

variable {n : Nat} {R : TransactionAccounts n → TransactionAccounts n → Prop} [Std.Refl R]

theorem failIf_keeps (c : Bool) (e : InstructionError) :
    Keeps R (failIf c e : Exec n Unit) :=
  keeps_of_eq fun _ _ _ h => (failIf_eq_ok h).2

theorem liftExcept_keeps {ε α : Type} (into : ε → InstructionError) (x : Except ε α) :
    Keeps R (liftExcept into x : Exec n α) :=
  keeps_of_eq fun _ _ _ h => (liftExcept_eq_ok h).2

theorem requireSome_keeps {ε α : Type} (into : ε → InstructionError) (e : ε) (o : Option α) :
    Keeps R (requireSome into e o : Exec n α) :=
  keeps_of_eq fun _ _ _ h => (requireSome_eq_ok h).2

namespace InstructionContext

variable (ic : InstructionContext)

theorem checkNumberOfInstructionAccounts_keeps (count : Nat) :
    Keeps R (ic.checkNumberOfInstructionAccounts count : Exec n Unit) :=
  keeps_of_eq fun _ _ _ h => (ic.checkNumberOfInstructionAccounts_eq_ok h).2

theorem isInstructionAccountSigner_keeps (i : Nat) :
    Keeps R (ic.isInstructionAccountSigner i : Exec n Bool) :=
  keeps_of_eq fun _ _ _ h =>
    let ⟨_, _, _, hs⟩ := ic.isInstructionAccountSigner_eq_ok h
    hs

theorem getKeyOfInstructionAccount_keeps (i : Nat) :
    Keeps R (ic.getKeyOfInstructionAccount i : Exec n Pubkey) :=
  keeps_of_eq fun _ _ _ h =>
    let ⟨_, _, _, hs⟩ := ic.getKeyOfInstructionAccount_eq_ok h
    hs

theorem borrowAccount_keeps (i : Nat) :
    Keeps R (ic.borrowAccount i : Exec n Account) :=
  keeps_of_eq fun _ _ _ h => (ic.borrowAccount_eq_ok h).1

end InstructionContext

end Operations

section Guards

variable {n : Nat} {R : TransactionAccounts n → TransactionAccounts n → Prop} {β : Type}

/-- A guard keeps what its continuation keeps once the guard has passed. -/
theorem keeps_failIf_bind {c : Bool} {e : InstructionError} {f : Unit → Exec n β}
    (hf : c = false → Keeps R (f ())) : Keeps R (failIf c e >>= f) := by
  intro s b s'' h
  obtain ⟨hc, h₂⟩ := failIf_bind_eq_ok h
  exact hf hc s b s'' h₂

/-- A lifted computation keeps what its continuation keeps at its result. -/
theorem keeps_liftExcept_bind {ε α : Type} {into : ε → InstructionError} {x : Except ε α}
    {f : α → Exec n β} (hf : ∀ a, x = .ok a → Keeps R (f a)) :
    Keeps R (liftExcept into x >>= f) := by
  intro s b s'' h
  obtain ⟨a, ha, h₂⟩ := liftExcept_bind_eq_ok h
  exact hf a ha s b s'' h₂

end Guards

/-! ## Values that accounts hold for a program -/

/-- The value that the account at index `j` holds for the program `pid`: `pid` owns the account
and its data deserializes. -/
def programState {α : Type} (pid : Pubkey) (deserialize : List UInt8 → Option α)
    (accounts : List Account) (j : Nat) : Option α :=
  accounts[j]?.bind fun acc => if acc.owner = pid then deserialize acc.data else none

section ProgramState

variable {α : Type} {pid : Pubkey} {deserialize : List UInt8 → Option α} {accounts : List Account}
  {i : Nat} {acc : Account}

theorem programState_of_getElem? (h : accounts[i]? = some acc) (hown : acc.owner = pid) :
    programState pid deserialize accounts i = deserialize acc.data := by
  simp only [programState, h, Option.bind_some, hown, if_true]

theorem programState_set_ne {j : Nat} (hij : i ≠ j) (acc' : Account) :
    programState pid deserialize (accounts.set i acc') j =
      programState pid deserialize accounts j := by
  simp only [programState, List.getElem?_set_ne hij]

/-- New lamports leave every value as it was. -/
theorem programState_set_lamports (h : accounts[i]? = some acc) (v : UInt64) (j : Nat) :
    programState pid deserialize (accounts.set i { acc with lamports := v }) j =
      programState pid deserialize accounts j := by
  by_cases hij : i = j
  · subst hij
    have hlt : i < accounts.length := (List.getElem?_eq_some_iff.mp h).1
    simp only [programState, List.getElem?_set_self hlt, h, Option.bind_some]
  · exact programState_set_ne hij _

/-- New data in an account of the program holds what the data deserializes to. -/
theorem programState_set_data_self (h : accounts[i]? = some acc) (hown : acc.owner = pid)
    (data : List UInt8) :
    programState pid deserialize (accounts.set i { acc with data := data }) i =
      deserialize data := by
  have hlt : i < accounts.length := (List.getElem?_eq_some_iff.mp h).1
  simp only [programState, List.getElem?_set_self hlt, Option.bind_some, hown, if_true]

end ProgramState

/-- The balance of the account at index `j`, `0` past the end. -/
def lamportsAt (accounts : List Account) (j : Nat) : Nat :=
  (accounts[j]?.map (·.lamports.toNat)).getD 0

section LamportsAt

variable {accounts : List Account} {i : Nat} {acc : Account}

theorem lamportsAt_of_getElem? (h : accounts[i]? = some acc) :
    lamportsAt accounts i = acc.lamports.toNat := by
  simp only [lamportsAt, h, Option.map_some, Option.getD_some]

/-- New data leaves every balance as it was. -/
theorem lamportsAt_set_data (h : accounts[i]? = some acc) (data : List UInt8) (j : Nat) :
    lamportsAt (accounts.set i { acc with data := data }) j = lamportsAt accounts j := by
  by_cases hij : i = j
  · subst hij
    have hlt : i < accounts.length := (List.getElem?_eq_some_iff.mp h).1
    simp only [lamportsAt, List.getElem?_set_self hlt, h, Option.map_some]
  · simp only [lamportsAt, List.getElem?_set_ne hij]

/-- New lamports are the balance of that account, and of no other. -/
theorem lamportsAt_set_lamports (h : accounts[i]? = some acc) (v : UInt64) (j : Nat) :
    lamportsAt (accounts.set i { acc with lamports := v }) j =
      if j = i then v.toNat else lamportsAt accounts j := by
  by_cases hij : j = i
  · subst hij
    have hlt : j < accounts.length := (List.getElem?_eq_some_iff.mp h).1
    simp only [lamportsAt, List.getElem?_set_self hlt, Option.map_some, Option.getD_some, if_true]
  · rw [if_neg hij]
    simp only [lamportsAt, List.getElem?_set_ne (Ne.symm hij)]

/-- New data leaves the owner of every account as it was. -/
theorem owner_of_set_data {accounts : List Account} {i j : Nat} {acc accj acc' : Account}
    (hi : accounts[i]? = some acc) (hj : accounts[j]? = some accj) (data : List UInt8)
    (h : (accounts.set j { accj with data := data })[i]? = some acc') : acc'.owner = acc.owner := by
  by_cases hij : j = i
  · subst hij
    have hlt : j < accounts.length := (List.getElem?_eq_some_iff.mp hj).1
    rw [List.getElem?_set_self hlt, Option.some.injEq] at h
    rw [hi, Option.some.injEq] at hj
    rw [← h, hj]
  · rw [List.getElem?_set_ne hij, hi, Option.some.injEq] at h
    rw [h]

end LamportsAt

section Deallocation

variable {α : Type} {pid : Pubkey} {deserialize : List UInt8 → Option α} {accounts : List Account}

/-- Deallocation leaves every balance as it was. -/
@[simp] theorem lamportsAt_map_deallocate (j : Nat) :
    lamportsAt (accounts.map deallocate) j = lamportsAt accounts j := by
  simp [lamportsAt, Function.comp_def]

/-- Deallocation takes away what a drained account held for any program but the system
program, and leaves every other account as it was. -/
theorem programState_map_deallocate (hpid : pid ≠ Account.default.owner) (j : Nat) :
    programState pid deserialize (accounts.map deallocate) j =
      if lamportsAt accounts j = 0 then none else programState pid deserialize accounts j := by
  cases hj : accounts[j]? with
  | none => simp [programState, lamportsAt, hj]
  | some acc =>
    by_cases hzero : acc.lamports = 0
    · -- the drained account is the default one, which the system program owns
      have hown : Account.default.owner = pid ↔ False := ⟨fun h => hpid h.symm, False.elim⟩
      simp [programState, lamportsAt, hj, deallocate, hzero, hown]
    · have hpos : acc.lamports.toNat ≠ 0 := fun h =>
        hzero (UInt64.toNat_inj.mp (h.trans UInt64.toNat_zero.symm))
      simp [programState, lamportsAt, hj, deallocate, hzero, hpos]

end Deallocation

/-- A property of single accounts that every account of a list has still holds of every
account after one of them is replaced by an account that has it. -/
theorem forall_mem_set {P : Account → Prop} {accounts : List Account} (h : ∀ a ∈ accounts, P a)
    {acc : Account} (hacc : P acc) (i : Nat) : ∀ a ∈ accounts.set i acc, P a := by
  intro a ha
  rcases List.mem_or_eq_of_mem_set ha with ha | rfl
  · exact h a ha
  · exact hacc

/-! ## Transfers -/

namespace InstructionContext

variable (ic : InstructionContext) {n : Nat} {s s' : TransactionAccounts n} {src dst : Nat}
  {amount : UInt64} {insufficient : InstructionError} {u : Unit}

/-- The balances an accepted transfer leaves: `amount` less at the index of position `src`,
`amount` more at the index of position `dst`, every other balance as it was. The two positions
may name one account, which then keeps its balance. -/
theorem transferLamports_lamportsAt
    (h : (ic.transferLamports src dst amount insufficient).run s = .ok (u, s')) :
    ∃ a₁ a₂ : InstructionAccount, ic.accounts[src]? = some a₁ ∧ ic.accounts[dst]? = some a₂ ∧
      ∀ j, lamportsAt s'.accounts j + (if j = a₁.indexInTransaction then amount.toNat else 0) =
        lamportsAt s.accounts j + (if j = a₂.indexInTransaction then amount.toNat else 0) := by
  obtain ⟨a₁, acc₁, v₁, a₂, acc₂, v₂, s₁, ha₁, hacc₁, hle, hv₁, -, hs₁, ha₂, hacc₂, hv₂, hs'⟩ :=
    ic.transferLamports_eq_ok h
  -- the balances after each of the two writes, in terms of those before
  have hL₁ : ∀ j, lamportsAt s₁.accounts j =
      if j = a₁.indexInTransaction then v₁.toNat else lamportsAt s.accounts j := by
    intro j
    rw [hs₁, lamportsAt_set_lamports hacc₁]
  have hL' : ∀ j, lamportsAt s'.accounts j =
      if j = a₂.indexInTransaction then v₂.toNat else lamportsAt s₁.accounts j := by
    intro j
    rw [hs', lamportsAt_set_lamports hacc₂]
  have h₁ : acc₁.lamports.toNat = lamportsAt s.accounts a₁.indexInTransaction :=
    (lamportsAt_of_getElem? hacc₁).symm
  have h₂ : acc₂.lamports.toNat = lamportsAt s₁.accounts a₂.indexInTransaction :=
    (lamportsAt_of_getElem? hacc₂).symm
  refine ⟨a₁, a₂, ha₁, ha₂, fun j => ?_⟩
  rw [hL₁] at h₂
  rw [hL', hL₁]
  -- the credited account, which may also be the debited one, and then the others
  by_cases hj₂ : j = a₂.indexInTransaction
  · subst hj₂
    rw [if_pos rfl, if_pos rfl]
    by_cases hj₁ : a₂.indexInTransaction = a₁.indexInTransaction
    · rw [if_pos hj₁] at h₂ ⊢
      rw [hj₁]
      omega
    · rw [if_neg hj₁] at h₂ ⊢
      omega
  · rw [if_neg hj₂, if_neg hj₂]
    by_cases hj₁ : j = a₁.indexInTransaction
    · subst hj₁
      rw [if_pos rfl, if_pos rfl]
      omega
    · rw [if_neg hj₁, if_neg hj₁]

/-- A transfer moves lamports only: every account holds the value it held for every program. -/
theorem transferLamports_programState {α : Type} {pid : Pubkey}
    {deserialize : List UInt8 → Option α}
    (h : (ic.transferLamports src dst amount insufficient).run s = .ok (u, s')) (j : Nat) :
    programState pid deserialize s'.accounts j = programState pid deserialize s.accounts j := by
  obtain ⟨_, acc₁, v₁, _, acc₂, v₂, s₁, -, hacc₁, -, -, -, hs₁, -, hacc₂, -, hs'⟩ :=
    ic.transferLamports_eq_ok h
  rw [hs', programState_set_lamports hacc₂, hs₁, programState_set_lamports hacc₁]

/-- A property of single accounts that does not look at balances, held by every account before
a transfer, is held by every account after it. -/
theorem transferLamports_forall {P : Account → Prop}
    (hP : ∀ (acc : Account) (v : UInt64), P acc → P { acc with lamports := v })
    (h : (ic.transferLamports src dst amount insufficient).run s = .ok (u, s'))
    (hs : ∀ a ∈ s.accounts, P a) : ∀ a ∈ s'.accounts, P a := by
  obtain ⟨_, acc₁, v₁, _, acc₂, v₂, s₁, -, hacc₁, -, -, -, hs₁, -, hacc₂, -, hs'⟩ :=
    ic.transferLamports_eq_ok h
  have hs₁' : ∀ a ∈ s₁.accounts, P a := by
    rw [hs₁]
    exact forall_mem_set hs (hP _ _ (hs _ (List.mem_of_getElem? hacc₁))) _
  rw [hs']
  exact forall_mem_set hs₁' (hP _ _ (hs₁' _ (List.mem_of_getElem? hacc₂))) _

end InstructionContext

/-- A property of the accounts that every accepted instruction of the program keeps, and that
the deallocation of drained accounts after it keeps, holds along every run that starts in it. -/
theorem Bank.reachable_inv {ι : Type} {programId : Pubkey} {program : ι → Program}
    {P : List Account → Prop}
    (hprog : ∀ instr n (ic : InstructionContext) (s s' : TransactionAccounts n),
      ic.programId = programId → (program instr n ic).run s = .ok ((), s') →
        P s.accounts → P s'.accounts)
    (hdealloc : ∀ accounts, P accounts → P (accounts.map deallocate))
    {b₀ b : Bank} (h : Bank.Reachable programId program b₀ b) (h₀ : P b₀.accounts) :
    P b.accounts := by
  induction h with
  | refl => exact h₀
  | tail _ hstep ih =>
    obtain ⟨instr, inv, hinv⟩ := hstep
    obtain ⟨s, hs, -, rfl⟩ := Bank.invoke_eq_ok hinv
    obtain ⟨hrun, -⟩ := processInstruction_eq_ok hs
    -- the instruction's own run keeps `P`, from the accounts it started with
    have hkeep := hprog instr _ _ _ s rfl hrun
    rw [TransactionAccounts.start_accounts] at hkeep
    exact hdealloc _ (hkeep ih)

end TRv1.Runtime
