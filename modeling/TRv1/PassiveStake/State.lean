import TRv1.Runtime.TransactionContext

/-!
# Passive-stake positions, their layout and the tier tables

`PassiveStakeAccount` of `state.rs` with its Borsh layout behind the discriminator byte `1`
(`deserialize`, `serializeInto`), the tier tables of `constants.rs`, and the program's error
codes. `serializeInto` writes the 84 bytes of a position over the front of a buffer of at least
that length and leaves the rest of the buffer as it was; `deserialize` reads them back
(`deserialize_serializeInto`).

The three tier tables are one table with six entries (`tierTable`); each keeps its name and its
values from the source. `reward_rate_bps_for_tier` and `vote_weight_bps_for_tier` have an entry
for every valid tier (`isSome_tierTable`), while `early_unlock_penalty_bps_for_tier` has none
for the permanent tier.
-/

set_option autoImplicit false

namespace TRv1.PassiveStake

open TRv1.Runtime

/-- `u64::MAX`, the permanent tier. -/
def permanentLockDays : UInt64 := RustInt.u64Max

/-- `SECONDS_PER_DAY`. -/
def secondsPerDay : Int64 := 86400

/-- `BPS_DENOMINATOR`. -/
def bpsDenominator : UInt64 := 10000

/-- `TIER_NO_LOCK`. -/
def tierNoLock : UInt64 := 0

/-- A value for each tier, in the order `constants.rs` lists them; `none` off the tiers. -/
def tierTable {α : Type} (noLock day30 day90 day180 day360 : α) (permanent : Option α)
    (lockDays : UInt64) : Option α :=
  if lockDays = 0 then some noLock
  else if lockDays = 30 then some day30
  else if lockDays = 90 then some day90
  else if lockDays = 180 then some day180
  else if lockDays = 360 then some day360
  else if lockDays = permanentLockDays then permanent
  else none

/-- `reward_rate_bps_for_tier`: bps of the validator rate. -/
def rewardRateBpsForTier (lockDays : UInt64) : Option UInt64 :=
  tierTable 500 1000 2000 3000 5000 (some 12000) lockDays

/-- `vote_weight_bps_for_tier`: governance weight in bps. -/
def voteWeightBpsForTier (lockDays : UInt64) : Option UInt16 :=
  tierTable 0 1000 2000 3000 5000 (some 15000) lockDays

/-- `early_unlock_penalty_bps_for_tier`: no entry for the permanent tier. -/
def earlyUnlockPenaltyBpsForTier (lockDays : UInt64) : Option UInt64 :=
  tierTable 0 250 500 750 1250 none lockDays

/-- `is_valid_tier`. -/
def isValidTier (lockDays : UInt64) : Bool :=
  lockDays == 0 || lockDays == 30 || lockDays == 90 || lockDays == 180 || lockDays == 360 ||
    lockDays == permanentLockDays

/-- A table with an entry for the permanent tier has an entry exactly on the valid tiers. -/
theorem isSome_tierTable {α : Type} (noLock day30 day90 day180 day360 permanent : α)
    (lockDays : UInt64) :
    (tierTable noLock day30 day90 day180 day360 (some permanent) lockDays).isSome =
      isValidTier lockDays := by
  unfold tierTable isValidTier
  by_cases h0 : lockDays = 0
  · simp [h0]
  by_cases h30 : lockDays = 30
  · simp [h30]
  by_cases h90 : lockDays = 90
  · simp [h90]
  by_cases h180 : lockDays = 180
  · simp [h180]
  by_cases h360 : lockDays = 360
  · simp [h360]
  by_cases hp : lockDays = permanentLockDays
  · subst hp
    simp [permanentLockDays, RustInt.u64Max]
  · simp [h0, h30, h90, h180, h360, hp]

/-- `PassiveStakeError`, by discriminant. -/
inductive PassiveStakeError where
  | invalidLockTier
  | lockNotExpired
  | earlyUnlockNotAllowed
  | invalidAccountOwner
  | missingAuthoritySignature
  | insufficientLamports
  | arithmeticOverflow
  | invalidAccountData
  | zeroStakeAmount
  | noRewardsToClaim
  | accountAlreadyInitialized
  | notRentExempt
  deriving DecidableEq, Repr

/-- The discriminant, which `InstructionError::Custom` carries. -/
def PassiveStakeError.code : PassiveStakeError → UInt32
  | .invalidLockTier => 0
  | .lockNotExpired => 1
  | .earlyUnlockNotAllowed => 2
  | .invalidAccountOwner => 3
  | .missingAuthoritySignature => 4
  | .insufficientLamports => 5
  | .arithmeticOverflow => 6
  | .invalidAccountData => 7
  | .zeroStakeAmount => 8
  | .noRewardsToClaim => 9
  | .accountAlreadyInitialized => 10
  | .notRentExempt => 11

/-- `impl From<PassiveStakeError> for InstructionError`. -/
def PassiveStakeError.into (e : PassiveStakeError) : InstructionError := .custom e.code

/-- `PASSIVE_STAKE_ACCOUNT_DISCRIMINATOR`. -/
def passiveStakeAccountDiscriminator : UInt8 := 1

/-- On-chain state of one passive stake position. -/
structure PassiveStakeAccount where
  authority : Pubkey
  amount : UInt64
  lockDays : UInt64
  lockStart : Int64
  lockEnd : Int64
  unclaimedRewards : UInt64
  lastRewardEpoch : UInt64
  isPermanent : Bool
  voteWeightBps : UInt16
  deriving DecidableEq, Repr

namespace PassiveStakeAccount

/-- `SERIALIZED_SIZE`: the discriminator and 83 bytes of fields. -/
def serializedSize : Nat := 84

/-- The Borsh reader of the fields, in declaration order. -/
def reader : Borsh.Reader PassiveStakeAccount := do
  let authority ← Pubkey.reader
  let amount ← Borsh.u64
  let lockDays ← Borsh.u64
  let lockStart ← Borsh.i64
  let lockEnd ← Borsh.i64
  let unclaimedRewards ← Borsh.u64
  let lastRewardEpoch ← Borsh.u64
  let isPermanent ← Borsh.bool
  let voteWeightBps ← Borsh.u16
  pure ⟨authority, amount, lockDays, lockStart, lockEnd, unclaimedRewards, lastRewardEpoch,
    isPermanent, voteWeightBps⟩

/-- The Borsh bytes of the fields. -/
def toBytes (s : PassiveStakeAccount) : List UInt8 :=
  s.authority.toBytes ++ Borsh.uintBytes 8 s.amount.toNat ++ Borsh.uintBytes 8 s.lockDays.toNat ++
    Borsh.uintBytes 8 s.lockStart.toUInt64.toNat ++ Borsh.uintBytes 8 s.lockEnd.toUInt64.toNat ++
    Borsh.uintBytes 8 s.unclaimedRewards.toNat ++ Borsh.uintBytes 8 s.lastRewardEpoch.toNat ++
    Borsh.boolBytes s.isPermanent ++ Borsh.uintBytes 2 s.voteWeightBps.toNat

@[simp] theorem length_toBytes (s : PassiveStakeAccount) : s.toBytes.length = 83 := by
  simp [toBytes]

theorem reader_append (s : PassiveStakeAccount) (rest : List UInt8) :
    reader (s.toBytes ++ rest) = some (s, rest) := by
  simp only [toBytes, List.append_assoc]
  rw [reader, Borsh.bind_of_eq_some (Pubkey.reader_append _ _),
    Borsh.bind_of_eq_some (Borsh.u64_append _ _), Borsh.bind_of_eq_some (Borsh.u64_append _ _),
    Borsh.bind_of_eq_some (Borsh.i64_append _ _), Borsh.bind_of_eq_some (Borsh.i64_append _ _),
    Borsh.bind_of_eq_some (Borsh.u64_append _ _), Borsh.bind_of_eq_some (Borsh.u64_append _ _),
    Borsh.bind_of_eq_some (Borsh.bool_append _ _), Borsh.bind_of_eq_some (Borsh.u16_append _ _)]
  rfl

/-- `PassiveStakeAccount::deserialize`: the discriminator `1`, then the fields; bytes after
them are not read. -/
def deserialize (data : List UInt8) : Option PassiveStakeAccount :=
  Borsh.deserializeTagged passiveStakeAccountDiscriminator reader data

/-- `serialize_into`: refuse a buffer shorter than `SERIALIZED_SIZE`, else write the
discriminator and the fields over its front. -/
def serializeInto (s : PassiveStakeAccount) (data : List UInt8) : Option (List UInt8) :=
  Borsh.serializeTagged passiveStakeAccountDiscriminator serializedSize s.toBytes data

theorem deserialize_serializeInto {s : PassiveStakeAccount} {data data' : List UInt8}
    (h : serializeInto s data = some data') : deserialize data' = some s :=
  Borsh.deserializeTagged_serializeTagged (reader_append s) h

end PassiveStakeAccount

end TRv1.PassiveStake
