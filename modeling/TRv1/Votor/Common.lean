import TRv1.Sdk.Keys
import TRv1.Lib.Binary64
import TRv1.Lib.RustInt

/-!
# Votes, certificates and events of Votor

The vocabulary of `votor-messages` and of `votor/src/common.rs` that the consensus pool uses:
the six kinds of vote and their types, the six kinds of certificate, and the three tables that
relate them. `conflictingTypes` says which earlier vote of a validator in a slot refuses a new
one; `certificateLimitsAndVoteTypes` says which pools a certificate adds up and the share of the
epoch's stake it needs; `voteToCertTypes` says which certificates a vote can complete.

A vote message carries the sender's rank in the epoch's key map; `getKeyAndStakes` turns it into
the validator's vote key, its stake and the epoch's total stake. An epoch's stakes give every
ranked validator a stake that is not zero (`EpochStakes.stake_pos`): the source panics otherwise.

`Slot`, `Stake` and the rank are the source's fixed-width integers. The BLS signatures, and the
bitmaps a certificate encodes its signers in, are left out: a certificate keeps the vote messages
it aggregates.
-/

set_option autoImplicit false

namespace TRv1.Votor

/-- `solana_clock::Slot`. -/
abbrev Slot := UInt64

/-- `Stake`, in lamports. -/
abbrev Stake := UInt64

/-- `Block`: a slot and a block id. -/
abbrev Block := Slot × Hash

/-- `VoteType`. -/
inductive VoteType where
  | finalize
  | notarize
  | notarizeFallback
  | skip
  | skipFallback
  | genesis
  deriving DecidableEq, Repr

/-- `Vote`, each variant with the fields of its struct. -/
inductive Vote where
  | notarize (slot : Slot) (blockId : Hash)
  | finalize (slot : Slot)
  | skip (slot : Slot)
  | notarizeFallback (slot : Slot) (blockId : Hash)
  | skipFallback (slot : Slot)
  | genesis (slot : Slot) (blockId : Hash)
  deriving DecidableEq, Repr

namespace Vote

/-- `Vote::slot`. -/
def slot : Vote → Slot
  | .notarize slot _ | .finalize slot | .skip slot | .notarizeFallback slot _
  | .skipFallback slot | .genesis slot _ => slot

/-- `Vote::block_id`. -/
def blockId : Vote → Option Hash
  | .notarize _ blockId | .notarizeFallback _ blockId | .genesis _ blockId => some blockId
  | .finalize _ | .skip _ | .skipFallback _ => none

/-- `Vote::get_type`. -/
def getType : Vote → VoteType
  | .notarize _ _ => .notarize
  | .notarizeFallback _ _ => .notarizeFallback
  | .skip _ => .skip
  | .skipFallback _ => .skipFallback
  | .finalize _ => .finalize
  | .genesis _ _ => .genesis

end Vote

/-- `VoteMessage`: the vote and its sender's rank; the signature is left out. -/
structure VoteMessage where
  vote : Vote
  rank : UInt16
  deriving DecidableEq, Repr

/-- `CertificateType`. -/
inductive CertificateType where
  | finalize (slot : Slot)
  | finalizeFast (slot : Slot) (blockId : Hash)
  | notarize (slot : Slot) (blockId : Hash)
  | notarizeFallback (slot : Slot) (blockId : Hash)
  | skip (slot : Slot)
  | genesis (slot : Slot) (blockId : Hash)
  deriving DecidableEq, Repr

/-- `CertificateType::slot`. -/
def CertificateType.slot : CertificateType → Slot
  | .finalize slot | .finalizeFast slot _ | .notarize slot _ | .notarizeFallback slot _
  | .genesis slot _ | .skip slot => slot

/-- `Certificate`: its type and the vote messages aggregated into it, in order. -/
structure Certificate where
  certType : CertificateType
  votes : List VoteMessage
  deriving DecidableEq, Repr

/-- The variants of `VotorEvent` that the consensus pool emits. -/
inductive VotorEvent where
  | blockNotarized (block : Block)
  | parentReady (slot : Slot) (parentBlock : Block)
  | safeToNotar (block : Block)
  | safeToSkip (slot : Slot)
  | finalized (block : Block) (isFast : Bool)
  deriving DecidableEq, Repr

/-! ## The tables of `common.rs` -/

/-- `conflicting_types`: the types of an earlier vote in the same slot that refuse a vote of this
type. -/
def conflictingTypes : VoteType → List VoteType
  | .finalize => [.notarizeFallback, .skip]
  | .notarize => [.skip, .notarizeFallback]
  | .notarizeFallback => [.finalize, .notarize]
  | .skip => [.finalize, .notarize, .skipFallback]
  | .skipFallback => [.skip]
  | .genesis => [.finalize, .notarize, .notarizeFallback, .skip, .skipFallback]

/-- A share of stake as the decimal the source writes it, `num / den`: `0.6` is `6 / 10`. -/
structure Fraction where
  num : Nat
  den : Nat
  deriving DecidableEq, Repr

/-- The binary64 value of the decimal, rounded as the compiler rounds the literal. -/
def Fraction.toF64 (f : Fraction) : Binary64.F64 :=
  Binary64.ofRounded false (Binary64.roundScaled (f.num * 2 ^ Binary64.scaleExp) f.den)

/-- `GENESIS_VOTE_THRESHOLD`, `82.0 / 100.0`. -/
def genesisVoteThreshold : Fraction := ⟨82, 100⟩

/-- `certificate_limits_and_vote_types`: the share of stake a certificate needs and the vote
types whose pools it adds up. -/
def certificateLimitsAndVoteTypes : CertificateType → Fraction × List VoteType
  | .notarize _ _ => (⟨6, 10⟩, [.notarize])
  | .notarizeFallback _ _ => (⟨6, 10⟩, [.notarize, .notarizeFallback])
  | .finalizeFast _ _ => (⟨8, 10⟩, [.notarize])
  | .finalize _ => (⟨6, 10⟩, [.finalize])
  | .skip _ => (⟨6, 10⟩, [.skip, .skipFallback])
  | .genesis _ _ => (genesisVoteThreshold, [.genesis])

/-- `vote_to_cert_types`: the certificates a vote counts toward. -/
def voteToCertTypes : Vote → List CertificateType
  | .notarize slot blockId =>
    [.notarize slot blockId, .notarizeFallback slot blockId, .finalizeFast slot blockId]
  | .notarizeFallback slot blockId => [.notarizeFallback slot blockId]
  | .finalize slot => [.finalize slot]
  | .skip slot => [.skip slot]
  | .skipFallback slot => [.skip slot]
  | .genesis slot blockId => [.genesis slot blockId]

/-- `MAX_ENTRIES_PER_PUBKEY_FOR_OTHER_TYPES`. -/
def maxEntriesPerPubkeyForOtherTypes : Nat := 1

/-- `MAX_ENTRIES_PER_PUBKEY_FOR_NOTARIZE_LITE`. -/
def maxEntriesPerPubkeyForNotarizeLite : Nat := 3

/-- `NUM_CONSECUTIVE_LEADER_SLOTS`. -/
def numConsecutiveLeaderSlots : UInt64 := 4

/-! ## Stakes -/

/-- The stakes of an epoch as `get_key_and_stakes` reads them: the vote key at each rank of the
BLS key map, the stake of each vote account, and the epoch's total stake. A ranked validator's
stake is never zero. -/
structure EpochStakes where
  rankMap : List Pubkey
  voteAccountStake : Pubkey → Stake
  totalStake : Stake
  stake_pos : ∀ k ∈ rankMap, 0 < voteAccountStake k

/-- The epoch schedule and the epoch stakes map. -/
structure StakesContext where
  getEpoch : Slot → UInt64
  epochStakesMap : UInt64 → Option EpochStakes

/-- The errors of `add_vote` and `add_certificate`. -/
inductive AddVoteError where
  | conflictingVoteType (voteType conflicting : VoteType) (slot : Slot) (key : Pubkey)
  | epochStakesNotFound (epoch : UInt64)
  | unrootedSlot
  | invalidRank (rank : UInt16)
  deriving DecidableEq, Repr

/-- The stakes of the epoch of `slot`. -/
def StakesContext.epochStakes (ctx : StakesContext) (slot : Slot) : Option EpochStakes :=
  ctx.epochStakesMap (ctx.getEpoch slot)

/-- `get_key_and_stakes`: the vote key at `rank` in the epoch of `slot`, its stake, and the
epoch's total stake. -/
def getKeyAndStakes (ctx : StakesContext) (slot : Slot) (rank : UInt16) :
    Except AddVoteError (Pubkey × Stake × Stake) :=
  match ctx.epochStakes slot with
  | none => .error (.epochStakesNotFound (ctx.getEpoch slot))
  | some stakes =>
    match stakes.rankMap[rank.toNat]? with
    | none => .error (.invalidRank rank)
    | some key => .ok (key, stakes.voteAccountStake key, stakes.totalStake)

end TRv1.Votor
