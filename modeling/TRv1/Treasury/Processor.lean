import TRv1.Treasury.State
import TRv1.Runtime.Bank

/-!
# The treasury processor

One definition per handler of `processor.rs`, with the source's checks in the source's order
and its errors. `signerKey` is the signer check on position `0` and its key,
`loadAuthorizedConfig` the owner, discriminator and authority checks of the config at
position `1` that `Disburse`, `UpdateAuthority` and `ActivateGovernance` make, and `saveConfig`
their write of the updated config into the account's current data.

`Disburse` checks the recipient's key against the instruction, but takes the account it debits
by position: its key is never compared with the config's `treasury_account`.
`InitializeTreasury` accepts any signer and any authority for an empty config account of the
program.

`id()` is `ic.programId`; instructions are taken decoded (the bincode of the instruction data is
not modelled), a memo is its UTF-8 bytes, and the log messages and compute units are left out.
-/

set_option autoImplicit false

namespace TRv1.Treasury

open TRv1.Runtime

/-- `declare_id!("Treasury11111111111111111111111111111111111")`, by the number its 32 bytes
spell. -/
def ID : Pubkey :=
  ⟨3111838562532123635139852182356773828712935687853790349470209314932943486976⟩

/-- `MAX_MEMO_LEN`, in bytes. -/
def maxMemoLen : Nat := 256

/-- The instructions of the program, decoded. -/
inductive TreasuryInstruction where
  | initializeTreasury (authority treasuryAccount : Pubkey)
  | disburse (amount : UInt64) (recipient : Pubkey) (memo : List UInt8)
  | updateAuthority (newAuthority : Pubkey)
  | activateGovernance
  deriving DecidableEq, Repr

section Processor

variable {n : Nat} (ic : InstructionContext)

/-- `if c { return Err(e.into()) }`. -/
def rejectIf (c : Bool) (e : TreasuryError) : Exec n Unit := failIf c e.into

/-- Take the value of an option, or fail with a program error (`map_err(|_| e)?`,
`ok_or(e)?`). -/
def required {α : Type} (e : TreasuryError) (o : Option α) : Exec n α :=
  requireSome TreasuryError.into e o

/-- The signer check on instruction account `0`. -/
def requireSigner : Exec n Unit := do
  let isSigner ← ic.isInstructionAccountSigner 0
  rejectIf (!isSigner) .missingAuthoritySignature

/-- The signer check on instruction account `0`, then its key. -/
def signerKey : Exec n Pubkey := do
  requireSigner ic
  ic.getKeyOfInstructionAccount 0

/-- The config at position `1`: owned by the program, else `InvalidAccountOwner`; initialised,
else `NotInitialized`; with `signer` as its authority, else `AuthorityMismatch`. -/
def loadAuthorizedConfig (signer : Pubkey) : Exec n TreasuryConfig := do
  let configAccount ← ic.borrowAccount 1
  rejectIf (configAccount.owner != ic.programId) .invalidAccountOwner
  let config ← required .notInitialized (TreasuryConfig.deserialize configAccount.data)
  rejectIf (config.authority != signer) .authorityMismatch
  pure config

/-- The config serialized into the current data of the account at position `1`, which is not
resized, then `set_data_from_slice`. -/
def saveConfig (config : TreasuryConfig) : Exec n Unit := do
  let configAccount ← ic.borrowAccount 1
  let buf ← required .invalidAccountData (config.serializeInto configAccount.data)
  ic.setDataFromSlice 1 buf

/-- `process_initialize_treasury`: the config account must be the program's and not start with
the discriminator; it is zero-extended to `SERIALIZED_SIZE` and the new config written over
it. -/
def processInitializeTreasury (authority treasuryAccount : Pubkey) : Exec n Unit := do
  ic.checkNumberOfInstructionAccounts 2
  requireSigner ic
  let configAccount ← ic.borrowAccount 1
  rejectIf (configAccount.owner != ic.programId) .invalidAccountOwner
  rejectIf (configAccount.data.head? == some treasuryConfigDiscriminator) .alreadyInitialized
  let config : TreasuryConfig :=
    { authority := authority, treasuryAccount := treasuryAccount, governanceActive := false,
      totalReceived := 0, totalDisbursed := 0, lastUpdatedEpoch := ic.clock.epoch }
  let configAccount ← ic.borrowAccount 1
  let data ← required .invalidAccountData
    (config.serializeInto (zeroExtend configAccount.data TreasuryConfig.serializedSize))
  ic.setDataFromSlice 1 data

/-- The two transfer blocks that end `process_disburse`: `amount` leaves the account at
position `2`, which must hold it, else `InsufficientFunds`, and goes to the account at
position `3`. -/
def transferLamports (amount : UInt64) : Exec n Unit :=
  ic.transferLamports 2 3 amount TreasuryError.insufficientFunds.into

/-- `process_disburse`: the checks and the config's bookkeeping, then the transfer. -/
def processDisburse (amount : UInt64) (recipient : Pubkey) (memo : List UInt8) :
    Exec n Unit := do
  ic.checkNumberOfInstructionAccounts 4
  rejectIf (amount == 0) .zeroDisbursement
  rejectIf (decide (maxMemoLen < memo.length)) .memoTooLong
  let signerPubkey ← signerKey ic
  let config ← loadAuthorizedConfig ic signerPubkey
  let recipientKey ← ic.getKeyOfInstructionAccount 3
  rejectIf (recipientKey != recipient) .recipientMismatch
  let totalDisbursed ← required .arithmeticOverflow
    (RustInt.checkedAdd config.totalDisbursed amount)
  saveConfig ic { config with totalDisbursed := totalDisbursed, lastUpdatedEpoch := ic.clock.epoch }
  transferLamports ic amount

/-- `process_update_authority`. -/
def processUpdateAuthority (newAuthority : Pubkey) : Exec n Unit := do
  ic.checkNumberOfInstructionAccounts 2
  let signerPubkey ← signerKey ic
  let config ← loadAuthorizedConfig ic signerPubkey
  saveConfig ic { config with authority := newAuthority, lastUpdatedEpoch := ic.clock.epoch }

/-- `process_activate_governance`: the flag goes from `false` to `true`, and a second activation
fails. -/
def processActivateGovernance : Exec n Unit := do
  ic.checkNumberOfInstructionAccounts 2
  let signerPubkey ← signerKey ic
  let config ← loadAuthorizedConfig ic signerPubkey
  rejectIf config.governanceActive .governanceAlreadyActive
  saveConfig ic { config with governanceActive := true, lastUpdatedEpoch := ic.clock.epoch }

/-- The dispatch of `Entrypoint`. -/
def process : TreasuryInstruction → Exec n Unit
  | .initializeTreasury authority treasuryAccount =>
    processInitializeTreasury ic authority treasuryAccount
  | .disburse amount recipient memo => processDisburse ic amount recipient memo
  | .updateAuthority newAuthority => processUpdateAuthority ic newAuthority
  | .activateGovernance => processActivateGovernance ic

end Processor

/-- `Entrypoint`: the program as the bank runs it. -/
def entrypoint (instr : TreasuryInstruction) : Program := fun _ ic => process ic instr

end TRv1.Treasury
