import TRv1.Runtime.TransactionContext

/-!
# The treasury config, its layout and the program's errors

`TreasuryConfig` of `state.rs`: the discriminator byte `1` and 89 bytes of Borsh fields, the
authority that may disburse, the account the treasury's lamports are meant to be held in, the
governance flag and three counters. `deserialize` reads whatever follows the fields as slack;
`serialize_into` writes over the front of a buffer of at least `SERIALIZED_SIZE` bytes and keeps
the rest, and reads back what it wrote (`deserialize_serializeInto`).

`TreasuryError` keeps its discriminants, which `InstructionError::Custom` carries.
-/

set_option autoImplicit false

namespace TRv1.Treasury

open TRv1.Runtime

/-- `TreasuryError`, by discriminant. -/
inductive TreasuryError where
  | alreadyInitialized
  | notInitialized
  | missingAuthoritySignature
  | authorityMismatch
  | invalidAccountOwner
  | insufficientFunds
  | invalidAccountData
  | recipientMismatch
  | zeroDisbursement
  | memoTooLong
  | governanceAlreadyActive
  | arithmeticOverflow
  deriving DecidableEq, Repr

/-- The discriminant. -/
def TreasuryError.code : TreasuryError → UInt32
  | .alreadyInitialized => 0
  | .notInitialized => 1
  | .missingAuthoritySignature => 2
  | .authorityMismatch => 3
  | .invalidAccountOwner => 4
  | .insufficientFunds => 5
  | .invalidAccountData => 6
  | .recipientMismatch => 7
  | .zeroDisbursement => 8
  | .memoTooLong => 9
  | .governanceAlreadyActive => 10
  | .arithmeticOverflow => 11

/-- `impl From<TreasuryError> for InstructionError`, through `ToPrimitive`. -/
def TreasuryError.into (e : TreasuryError) : InstructionError := .custom e.code

/-- `TREASURY_CONFIG_DISCRIMINATOR`. -/
def treasuryConfigDiscriminator : UInt8 := 1

/-- `TreasuryConfig`. Nothing ties a config to the account named `treasuryAccount`, or makes it
the only config of the program. -/
structure TreasuryConfig where
  authority : Pubkey
  treasuryAccount : Pubkey
  governanceActive : Bool
  totalReceived : UInt64
  totalDisbursed : UInt64
  lastUpdatedEpoch : UInt64
  deriving DecidableEq, Repr

namespace TreasuryConfig

/-- `SERIALIZED_SIZE`: `1 + 32 + 32 + 1 + 8 + 8 + 8`. -/
def serializedSize : Nat := 90

/-- The Borsh reader of the fields, in declaration order. -/
def reader : Borsh.Reader TreasuryConfig := do
  let authority ← Pubkey.reader
  let treasuryAccount ← Pubkey.reader
  let governanceActive ← Borsh.bool
  let totalReceived ← Borsh.u64
  let totalDisbursed ← Borsh.u64
  let lastUpdatedEpoch ← Borsh.u64
  pure ⟨authority, treasuryAccount, governanceActive, totalReceived, totalDisbursed,
    lastUpdatedEpoch⟩

/-- The Borsh bytes of the fields. -/
def toBytes (c : TreasuryConfig) : List UInt8 :=
  c.authority.toBytes ++ c.treasuryAccount.toBytes ++ Borsh.boolBytes c.governanceActive ++
    Borsh.uintBytes 8 c.totalReceived.toNat ++ Borsh.uintBytes 8 c.totalDisbursed.toNat ++
    Borsh.uintBytes 8 c.lastUpdatedEpoch.toNat

@[simp] theorem length_toBytes (c : TreasuryConfig) : c.toBytes.length = 89 := by
  simp [toBytes]

theorem reader_append (c : TreasuryConfig) (rest : List UInt8) :
    reader (c.toBytes ++ rest) = some (c, rest) := by
  simp only [toBytes, List.append_assoc]
  rw [reader, Borsh.bind_of_eq_some (Pubkey.reader_append _ _),
    Borsh.bind_of_eq_some (Pubkey.reader_append _ _), Borsh.bind_of_eq_some (Borsh.bool_append _ _),
    Borsh.bind_of_eq_some (Borsh.u64_append _ _), Borsh.bind_of_eq_some (Borsh.u64_append _ _),
    Borsh.bind_of_eq_some (Borsh.u64_append _ _)]
  rfl

/-- `TreasuryConfig::deserialize`: the discriminator, then the fields by
`deserialize_reader`, which leaves what follows them unread. -/
def deserialize (data : List UInt8) : Option TreasuryConfig :=
  Borsh.deserializeTagged treasuryConfigDiscriminator reader data

/-- `TreasuryConfig::serialize_into`. -/
def serializeInto (c : TreasuryConfig) (data : List UInt8) : Option (List UInt8) :=
  Borsh.serializeTagged treasuryConfigDiscriminator serializedSize c.toBytes data

theorem deserialize_serializeInto {c : TreasuryConfig} {data data' : List UInt8}
    (h : serializeInto c data = some data') : deserialize data' = some c :=
  Borsh.deserializeTagged_serializeTagged (reader_append c) h

end TreasuryConfig

end TRv1.Treasury
