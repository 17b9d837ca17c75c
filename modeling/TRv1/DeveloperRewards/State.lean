import TRv1.Runtime.TransactionContext

/-!
# Developer-rewards accounts, their layouts and the program's errors

`ProgramRevenueConfig` and `EpochFeeTracker` of `state.rs`, with the constants of
`constants.rs` that the processor reads. Both are plain Borsh structs whose first field,
`version`, doubles as the discriminator; the processor reads them with `try_from_slice`, which
takes the whole account data, and writes `borsh::to_vec`, which refuses a `Vec` longer than
`u32::MAX` (`ProgramRevenueConfig.toVec`). What is written reads back
(`deserialize_toVec`, `EpochFeeTracker.deserialize_toBytes`).

A config's encoding is `142` bytes and `34` more per split (`length_toBytes`): splits make it
longer than the encoding of the same config without them. A tracker is exactly `17` bytes
(`EpochFeeTracker.length_of_deserialize`) and a config more than `32`
(`ProgramRevenueConfig.deserialize_of_length_lt`), so neither layout reads as the other.

`DeveloperRewardsError` keeps its discriminants, which `InstructionError::Custom` carries.
-/

set_option autoImplicit false

namespace TRv1.DeveloperRewards

open TRv1.Runtime

/-- `MIN_COMPUTE_UNITS_THRESHOLD`. -/
def minComputeUnitsThreshold : UInt64 := 1000

/-- `COOLDOWN_SLOTS`: about seven days of slots. -/
def cooldownSlots : UInt64 := 1512000

/-- `MAX_PROGRAM_FEE_SHARE_BPS`: a program's cap on an epoch's developer fees. -/
def maxProgramFeeShareBps : UInt16 := 1000

/-- `TOTAL_BPS`. -/
def totalBps : UInt16 := 10000

/-- The most recipients `AddRevenueSplit` takes. -/
def maxSplitRecipients : Nat := 10

/-- `DeveloperRewardsError`, by discriminant. -/
inductive DeveloperRewardsError where
  | unauthorizedSigner
  | unauthorizedUpdateAuthority
  | configAlreadyExists
  | configNotFound
  | configNotActive
  | invalidSplitTotal
  | zeroShareInSplit
  | tooManySplitRecipients
  | duplicateRecipient
  | cooldownNotElapsed
  | belowMinComputeUnits
  | epochFeeCapExceeded
  | noFeesToClaim
  | insufficientPoolFunds
  | deserializationError
  | serializationError
  | invalidAccountOwner
  | accountDataTooSmall
  | invalidPda
  deriving DecidableEq, Repr

/-- The discriminant. -/
def DeveloperRewardsError.code : DeveloperRewardsError → UInt32
  | .unauthorizedSigner => 0
  | .unauthorizedUpdateAuthority => 1
  | .configAlreadyExists => 2
  | .configNotFound => 3
  | .configNotActive => 4
  | .invalidSplitTotal => 5
  | .zeroShareInSplit => 6
  | .tooManySplitRecipients => 7
  | .duplicateRecipient => 8
  | .cooldownNotElapsed => 9
  | .belowMinComputeUnits => 10
  | .epochFeeCapExceeded => 11
  | .noFeesToClaim => 12
  | .insufficientPoolFunds => 13
  | .deserializationError => 14
  | .serializationError => 15
  | .invalidAccountOwner => 16
  | .accountDataTooSmall => 17
  | .invalidPda => 18

/-- `impl From<DeveloperRewardsError>`, through `ToPrimitive`. -/
def DeveloperRewardsError.into (e : DeveloperRewardsError) : InstructionError := .custom e.code

/-! ## Revenue splits -/

/-- `RevenueSplit`: a recipient and its share in bps. -/
structure RevenueSplit where
  recipient : Pubkey
  shareBps : UInt16
  deriving DecidableEq, Repr

namespace RevenueSplit

/-- The Borsh reader. -/
def reader : Borsh.Reader RevenueSplit := do
  let recipient ← Pubkey.reader
  let shareBps ← Borsh.u16
  pure ⟨recipient, shareBps⟩

/-- The Borsh bytes. -/
def toBytes (s : RevenueSplit) : List UInt8 :=
  s.recipient.toBytes ++ Borsh.uintBytes 2 s.shareBps.toNat

@[simp] theorem length_toBytes (s : RevenueSplit) : s.toBytes.length = 34 := by
  simp [toBytes]

theorem reader_append (s : RevenueSplit) (rest : List UInt8) :
    reader (s.toBytes ++ rest) = some (s, rest) := by
  rw [toBytes, List.append_assoc, reader, Borsh.bind_of_eq_some (Pubkey.reader_append _ _),
    Borsh.bind_of_eq_some (Borsh.u16_append _ _)]
  rfl

end RevenueSplit

/-! ## The per-program config -/

/-- `ProgramRevenueConfig`. -/
structure ProgramRevenueConfig where
  version : UInt8
  programId : Pubkey
  revenueRecipient : Pubkey
  updateAuthority : Pubkey
  isActive : Bool
  revenueSplits : List RevenueSplit
  totalFeesEarned : UInt64
  epochFeesEarned : UInt64
  lastEpoch : UInt64
  eligibleAfterSlot : UInt64
  unclaimedFees : UInt64
  deriving DecidableEq, Repr

namespace ProgramRevenueConfig

/-- The Borsh reader of the fields, in declaration order. -/
def reader : Borsh.Reader ProgramRevenueConfig := do
  let version ← Borsh.u8
  let programId ← Pubkey.reader
  let revenueRecipient ← Pubkey.reader
  let updateAuthority ← Pubkey.reader
  let isActive ← Borsh.bool
  let revenueSplits ← Borsh.vec RevenueSplit.reader
  let totalFeesEarned ← Borsh.u64
  let epochFeesEarned ← Borsh.u64
  let lastEpoch ← Borsh.u64
  let eligibleAfterSlot ← Borsh.u64
  let unclaimedFees ← Borsh.u64
  pure ⟨version, programId, revenueRecipient, updateAuthority, isActive, revenueSplits,
    totalFeesEarned, epochFeesEarned, lastEpoch, eligibleAfterSlot, unclaimedFees⟩

/-- The Borsh bytes of the fields. -/
def toBytes (c : ProgramRevenueConfig) : List UInt8 :=
  c.version :: (c.programId.toBytes ++ c.revenueRecipient.toBytes ++ c.updateAuthority.toBytes ++
    Borsh.boolBytes c.isActive ++ Borsh.vecBytes RevenueSplit.toBytes c.revenueSplits ++
    Borsh.uintBytes 8 c.totalFeesEarned.toNat ++ Borsh.uintBytes 8 c.epochFeesEarned.toNat ++
    Borsh.uintBytes 8 c.lastEpoch.toNat ++ Borsh.uintBytes 8 c.eligibleAfterSlot.toNat ++
    Borsh.uintBytes 8 c.unclaimedFees.toNat)

/-- Splits take `34` bytes each. -/
theorem length_flatMap_toBytes (splits : List RevenueSplit) :
    (splits.flatMap RevenueSplit.toBytes).length = 34 * splits.length := by
  induction splits with
  | nil => rfl
  | cons s rest ih =>
    rw [List.flatMap_cons, List.length_append, RevenueSplit.length_toBytes, ih, List.length_cons]
    omega

theorem length_toBytes (c : ProgramRevenueConfig) :
    c.toBytes.length = 142 + 34 * c.revenueSplits.length := by
  simp only [toBytes, Borsh.vecBytes, List.length_cons, List.length_append, Pubkey.length_toBytes,
    Borsh.length_boolBytes, Borsh.length_uintBytes, length_flatMap_toBytes]
  omega

theorem reader_append (c : ProgramRevenueConfig) (hlen : c.revenueSplits.length < 2 ^ 32)
    (rest : List UInt8) : reader (c.toBytes ++ rest) = some (c, rest) := by
  simp only [toBytes, List.cons_append, List.append_assoc]
  rw [reader, Borsh.bind_of_eq_some (Borsh.u8_cons _ _),
    Borsh.bind_of_eq_some (Pubkey.reader_append _ _),
    Borsh.bind_of_eq_some (Pubkey.reader_append _ _),
    Borsh.bind_of_eq_some (Pubkey.reader_append _ _), Borsh.bind_of_eq_some (Borsh.bool_append _ _),
    Borsh.bind_of_eq_some (Borsh.vec_append RevenueSplit.reader_append _ hlen _),
    Borsh.bind_of_eq_some (Borsh.u64_append _ _), Borsh.bind_of_eq_some (Borsh.u64_append _ _),
    Borsh.bind_of_eq_some (Borsh.u64_append _ _), Borsh.bind_of_eq_some (Borsh.u64_append _ _),
    Borsh.bind_of_eq_some (Borsh.u64_append _ _)]
  rfl

/-- `ProgramRevenueConfig::try_from_slice`: the whole data is one config. -/
def deserialize (data : List UInt8) : Option ProgramRevenueConfig :=
  Borsh.tryFromSlice reader data

/-- `borsh::to_vec`: a `Vec` of more than `u32::MAX` splits has no length prefix and fails. -/
def toVec (c : ProgramRevenueConfig) : Option (List UInt8) :=
  if c.revenueSplits.length < 2 ^ 32 then some c.toBytes else none

theorem eq_toBytes_of_toVec {c : ProgramRevenueConfig} {bytes : List UInt8}
    (h : c.toVec = some bytes) : bytes = c.toBytes := by
  unfold toVec at h
  split at h
  · exact (Option.some.inj h).symm
  · cases h

theorem deserialize_toVec {c : ProgramRevenueConfig} {bytes : List UInt8}
    (h : c.toVec = some bytes) : deserialize bytes = some c := by
  unfold toVec at h
  split at h
  · rename_i hlen
    cases h
    apply Borsh.tryFromSlice_of_eq_some
    simpa using reader_append c hlen []
  · cases h

/-- Data of fewer than `33` bytes holds no config: a key follows the version byte. -/
theorem deserialize_of_length_lt {data : List UInt8} (h : data.length < 33) :
    deserialize data = none := by
  cases data with
  | nil => rfl
  | cons x rest =>
    have hrest : rest.length < 32 := by
      rw [List.length_cons] at h
      omega
    have hr : reader (x :: rest) = none := by
      rw [reader, Borsh.bind_of_eq_some (Borsh.u8_cons x rest),
        Borsh.bind_of_eq_none (Pubkey.reader_eq_none hrest)]
    simp [deserialize, Borsh.tryFromSlice, hr]

end ProgramRevenueConfig

/-! ## The epoch tracker -/

/-- `EpochFeeTracker`: the developer fees credited in one epoch, over all programs. -/
structure EpochFeeTracker where
  version : UInt8
  epoch : UInt64
  totalDeveloperFees : UInt64
  deriving DecidableEq, Repr

namespace EpochFeeTracker

/-- The Borsh reader. -/
def reader : Borsh.Reader EpochFeeTracker := do
  let version ← Borsh.u8
  let epoch ← Borsh.u64
  let totalDeveloperFees ← Borsh.u64
  pure ⟨version, epoch, totalDeveloperFees⟩

/-- The Borsh bytes; `borsh::to_vec` of a tracker cannot fail. -/
def toBytes (t : EpochFeeTracker) : List UInt8 :=
  t.version :: (Borsh.uintBytes 8 t.epoch.toNat ++ Borsh.uintBytes 8 t.totalDeveloperFees.toNat)

@[simp] theorem length_toBytes (t : EpochFeeTracker) : t.toBytes.length = 17 := by
  simp [toBytes]

/-- `EpochFeeTracker::try_from_slice`. -/
def deserialize (data : List UInt8) : Option EpochFeeTracker :=
  Borsh.tryFromSlice reader data

theorem deserialize_toBytes (t : EpochFeeTracker) : deserialize t.toBytes = some t := by
  apply Borsh.tryFromSlice_of_eq_some
  have h : t.toBytes = t.version :: (Borsh.uintBytes 8 t.epoch.toNat ++
      (Borsh.uintBytes 8 t.totalDeveloperFees.toNat ++ [])) := by
    simp [toBytes]
  rw [h, reader, Borsh.bind_of_eq_some (Borsh.u8_cons _ _),
    Borsh.bind_of_eq_some (Borsh.u64_append _ _), Borsh.bind_of_eq_some (Borsh.u64_append _ _)]
  rfl

theorem consumes_reader : Borsh.Consumes reader 17 :=
  Borsh.Consumes.bind Borsh.consumes_u8 fun _ =>
    Borsh.Consumes.bind Borsh.consumes_u64 fun _ =>
      Borsh.Consumes.bind Borsh.consumes_u64 fun _ => Borsh.consumes_pure _

/-- A tracker is exactly `17` bytes of data. -/
theorem length_of_deserialize {data : List UInt8} {t : EpochFeeTracker}
    (h : deserialize data = some t) : data.length = 17 :=
  consumes_reader.length_of_tryFromSlice h

end EpochFeeTracker

end TRv1.DeveloperRewards
