import TRv1.TransactionView.Frame

/-!
# Views of a serialized transaction and their sanitization

`TransactionView` of `transaction_view.rs` and `sanitize` of `sanitize.rs`. A view is the
transaction's bytes with the frame `TransactionFrame::try_new` made of them; the flag
`SANITIZED` records whether `sanitize` accepted it. `try_new_sanitized` frames the bytes and
then sanitizes the view.

Sanitization reads the transaction only through the view: the counts the frame recorded, and
the instructions and lookups its iterators yield. A `for` loop over an iterator is a loop over
the list the iterator collects (`InstructionsIterator.toList`), stopping at the first error.
`MAX_INSTRUCTION_TRACE_LENGTH` and `MAX_ACCOUNTS_PER_INSTRUCTION` are those of
`transaction-context/src/lib.rs`. The containers behind `TransactionData` all hand out their
bytes, so a view holds the bytes themselves.
-/

set_option autoImplicit false
-- the crate and its main type share the name `TransactionView`
set_option linter.dupNamespace false

namespace TRv1.TransactionView

/-- `MAX_INSTRUCTION_TRACE_LENGTH`. -/
def maxInstructionTraceLength : Nat := 64

/-- `MAX_ACCOUNTS_PER_INSTRUCTION`. -/
def maxAccountsPerInstruction : Nat := 255

/-- `TransactionView<SANITIZED, D>`. -/
structure TransactionView (sanitized : Bool) where
  data : List UInt8
  frame : TransactionFrame

namespace TransactionView

variable {sanitized : Bool}

/-- `try_new_unsanitized`. -/
def tryNewUnsanitized (data : List UInt8) :
    Except TransactionViewError (TransactionView false) := do
  let frame ← TransactionFrame.tryNew data
  pure { data, frame }

def numSignatures (view : TransactionView sanitized) : UInt8 :=
  view.frame.signature.numSignatures

def numRequiredSignatures (view : TransactionView sanitized) : UInt8 :=
  view.frame.messageHeader.numRequiredSignatures

def numReadonlySignedStaticAccounts (view : TransactionView sanitized) : UInt8 :=
  view.frame.messageHeader.numReadonlySignedAccounts

def numReadonlyUnsignedStaticAccounts (view : TransactionView sanitized) : UInt8 :=
  view.frame.messageHeader.numReadonlyUnsignedAccounts

def numStaticAccountKeys (view : TransactionView sanitized) : UInt8 :=
  view.frame.staticAccountKeys.numStaticAccounts

def numInstructions (view : TransactionView sanitized) : UInt16 :=
  view.frame.instructions.numInstructions

def totalWritableLookupAccounts (view : TransactionView sanitized) : UInt16 :=
  view.frame.addressTableLookup.totalWritableLookupAccounts

def totalReadonlyLookupAccounts (view : TransactionView sanitized) : UInt16 :=
  view.frame.addressTableLookup.totalReadonlyLookupAccounts

/-- The instructions `instructions_iter` yields. -/
def instructions (view : TransactionView sanitized) : List SVMInstruction :=
  view.frame.instructionsIter.toList view.data

/-- The lookups `address_table_lookup_iter` yields. -/
def addressTableLookups (view : TransactionView sanitized) : List SVMMessageAddressTableLookup :=
  view.frame.addressTableLookupIter.toList view.data

/-- `total_number_of_accounts`: static keys and looked-up accounts, saturating at `u16::MAX`. -/
def totalNumberOfAccounts (view : TransactionView sanitized) : UInt16 :=
  RustInt.saturatingAddU16
    (RustInt.saturatingAddU16 view.numStaticAccountKeys.toUInt16 view.totalWritableLookupAccounts)
    view.totalReadonlyLookupAccounts

end TransactionView

/-- `sanitize_signatures`. -/
def sanitizeSignatures (view : TransactionView false) : Except TransactionViewError Unit := do
  if view.numSignatures ≠ view.numRequiredSignatures then
    throw .sanitizeError
  if view.numStaticAccountKeys < view.numSignatures then
    throw .sanitizeError

/-- `sanitize_account_access`. -/
def sanitizeAccountAccess (view : TransactionView false) :
    Except TransactionViewError Unit := do
  if view.numReadonlyUnsignedStaticAccounts >
      view.numStaticAccountKeys - view.numRequiredSignatures then
    throw .sanitizeError
  if view.numReadonlySignedStaticAccounts ≥ view.numRequiredSignatures then
    throw .sanitizeError
  if view.totalNumberOfAccounts > 256 then
    throw .sanitizeError

/-- The checks `sanitize_instructions` makes of one instruction. -/
def sanitizeInstruction (enableInstructionAccountsLimit : Bool)
    (maxProgramIdIndex maxAccountIndex : UInt8) (instruction : SVMInstruction) :
    Except TransactionViewError Unit := do
  if instruction.programIdIndex > maxProgramIdIndex then
    throw .sanitizeError
  if instruction.programIdIndex = 0 then
    throw .sanitizeError
  instruction.accounts.forM fun accountIndex =>
    if accountIndex > maxAccountIndex then throw .sanitizeError else pure ()
  if enableInstructionAccountsLimit ∧ instruction.accounts.length > maxAccountsPerInstruction then
    throw .sanitizeError

/-- `sanitize_instructions`. -/
def sanitizeInstructions (view : TransactionView false)
    (enableStaticInstructionLimit enableInstructionAccountsLimit : Bool) :
    Except TransactionViewError Unit := do
  if enableStaticInstructionLimit ∧ view.numInstructions.toNat > maxInstructionTraceLength then
    throw .sanitizeError
  let maxProgramIdIndex := view.numStaticAccountKeys - 1
  let maxAccountIndex := (view.totalNumberOfAccounts - 1).toUInt8
  view.instructions.forM
    (sanitizeInstruction enableInstructionAccountsLimit maxProgramIdIndex maxAccountIndex)

/-- `sanitize_address_table_lookups`: every lookup names at least one account. -/
def sanitizeAddressTableLookups (view : TransactionView false) :
    Except TransactionViewError Unit :=
  view.addressTableLookups.forM fun addressTableLookup =>
    if addressTableLookup.writableIndexes.isEmpty ∧ addressTableLookup.readonlyIndexes.isEmpty then
      throw .sanitizeError
    else pure ()

/-- `sanitize`. -/
def sanitize (view : TransactionView false)
    (enableStaticInstructionLimit enableInstructionAccountsLimit : Bool) :
    Except TransactionViewError Unit := do
  sanitizeSignatures view
  sanitizeAccountAccess view
  sanitizeInstructions view enableStaticInstructionLimit enableInstructionAccountsLimit
  sanitizeAddressTableLookups view

namespace TransactionView

/-- `TransactionView::sanitize`. -/
def sanitize (view : TransactionView false)
    (enableStaticInstructionLimit enableInstructionAccountsLimit : Bool) :
    Except TransactionViewError (TransactionView true) := do
  TRv1.TransactionView.sanitize view enableStaticInstructionLimit enableInstructionAccountsLimit
  pure { data := view.data, frame := view.frame }

/-- `try_new_sanitized`. -/
def tryNewSanitized (data : List UInt8)
    (enableStaticInstructionLimit enableInstructionAccountsLimit : Bool) :
    Except TransactionViewError (TransactionView true) := do
  let unsanitizedView ← tryNewUnsanitized data
  unsanitizedView.sanitize enableStaticInstructionLimit enableInstructionAccountsLimit

end TransactionView

/-! ## What each check accepts -/

section Spec

open StateExcept

variable {view : TransactionView false}

theorem sanitizeSignatures_eq_ok :
    sanitizeSignatures view = .ok () ↔
      view.numSignatures = view.numRequiredSignatures ∧
        view.numSignatures ≤ view.numStaticAccountKeys := by
  simp only [sanitizeSignatures, except_ite_throw_bind_eq_ok, except_guard_eq_ok, not_not,
    UInt8.not_lt]

theorem sanitizeAccountAccess_eq_ok :
    sanitizeAccountAccess view = .ok () ↔
      view.numReadonlyUnsignedStaticAccounts ≤
          view.numStaticAccountKeys - view.numRequiredSignatures ∧
        view.numReadonlySignedStaticAccounts < view.numRequiredSignatures ∧
        view.totalNumberOfAccounts ≤ 256 := by
  simp only [sanitizeAccountAccess, except_ite_throw_bind_eq_ok, except_guard_eq_ok, gt_iff_lt,
    UInt8.not_lt, UInt8.not_le, UInt16.not_lt]

theorem sanitizeInstruction_eq_ok {flag : Bool} {maxProgramIdIndex maxAccountIndex : UInt8}
    {instruction : SVMInstruction} :
    sanitizeInstruction flag maxProgramIdIndex maxAccountIndex instruction = .ok () ↔
      instruction.programIdIndex ≤ maxProgramIdIndex ∧ instruction.programIdIndex ≠ 0 ∧
        (∀ a ∈ instruction.accounts, a ≤ maxAccountIndex) ∧
        ¬(flag = true ∧ instruction.accounts.length > maxAccountsPerInstruction) := by
  simp only [sanitizeInstruction, except_ite_throw_bind_eq_ok, except_bind_unit_eq_ok,
    except_forM_eq_ok, except_guard_eq_ok, gt_iff_lt, UInt8.not_lt]

theorem sanitizeInstructions_eq_ok
    {enableStaticInstructionLimit enableInstructionAccountsLimit : Bool} :
    sanitizeInstructions view enableStaticInstructionLimit enableInstructionAccountsLimit =
        .ok () ↔
      ¬(enableStaticInstructionLimit = true ∧
          view.numInstructions.toNat > maxInstructionTraceLength) ∧
        ∀ i ∈ view.instructions, sanitizeInstruction enableInstructionAccountsLimit
          (view.numStaticAccountKeys - 1) (view.totalNumberOfAccounts - 1).toUInt8 i = .ok () := by
  simp only [sanitizeInstructions, except_ite_throw_bind_eq_ok, except_forM_eq_ok]

theorem sanitizeAddressTableLookups_eq_ok :
    sanitizeAddressTableLookups view = .ok () ↔
      ∀ l ∈ view.addressTableLookups,
        ¬(l.writableIndexes.isEmpty = true ∧ l.readonlyIndexes.isEmpty = true) := by
  simp only [sanitizeAddressTableLookups, except_forM_eq_ok, except_guard_eq_ok]

/-- `sanitize` accepts a view exactly when each of its four checks does. -/
theorem sanitize_eq_ok {enableStaticInstructionLimit enableInstructionAccountsLimit : Bool} :
    sanitize view enableStaticInstructionLimit enableInstructionAccountsLimit = .ok () ↔
      sanitizeSignatures view = .ok () ∧ sanitizeAccountAccess view = .ok () ∧
        sanitizeInstructions view enableStaticInstructionLimit enableInstructionAccountsLimit =
          .ok () ∧
        sanitizeAddressTableLookups view = .ok () := by
  simp only [sanitize, except_bind_unit_eq_ok]

end Spec

/-- `try_new_sanitized` accepts a buffer exactly when `try_new` frames it and the view of that
frame passes `sanitize`; the sanitized view keeps the bytes and the frame. -/
theorem TransactionView.tryNewSanitized_eq_ok {data : List UInt8}
    {enableStaticInstructionLimit enableInstructionAccountsLimit : Bool}
    {view : TransactionView true} :
    TransactionView.tryNewSanitized data enableStaticInstructionLimit
        enableInstructionAccountsLimit = .ok view ↔
      ∃ frame : TransactionFrame, TransactionFrame.tryNew data = .ok frame ∧
        TRv1.TransactionView.sanitize ⟨data, frame⟩ enableStaticInstructionLimit
          enableInstructionAccountsLimit = .ok () ∧
        view = ⟨data, frame⟩ := by
  constructor
  · intro h
    obtain ⟨unsanitized, hu, hs⟩ := StateExcept.except_bind_eq_ok h
    obtain ⟨frame, hframe, hpure⟩ := StateExcept.except_bind_eq_ok hu
    cases hpure
    obtain ⟨hsanitize, hview⟩ := StateExcept.except_bind_unit_eq_ok.mp hs
    cases hview
    exact ⟨frame, hframe, hsanitize, rfl⟩
  · rintro ⟨frame, hframe, hsanitize, rfl⟩
    rw [TransactionView.tryNewSanitized, TransactionView.tryNewUnsanitized, hframe]
    show TransactionView.sanitize ⟨data, frame⟩ _ _ = _
    exact StateExcept.except_bind_unit_eq_ok.mpr ⟨hsanitize, rfl⟩

end TRv1.TransactionView
