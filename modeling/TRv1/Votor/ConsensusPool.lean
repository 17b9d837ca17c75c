import TRv1.Votor.VotePool
import TRv1.Votor.ParentReadyTracker
import TRv1.Votor.SlotStakeCounters

/-!
# The consensus pool

`consensus_pool.rs` stores the votes and certificates a node receives. `addVote` takes a vote
message: it looks up the sender's key and stake in the epoch of the vote's slot, refuses a vote
below the root and a vote that conflicts with an earlier vote of the sender in the slot
(`hasConflictingVote`, by `conflictingTypes`), and adds it to the pool of its slot and type. A
vote the pool keeps feeds the slot's stake counters, and then every certificate it counts
toward that is not yet complete is checked: its pools' stakes are added up and compared with its
share of the epoch's total stake, and a certificate that reaches it is built from the pools'
votes and inserted (`insertCertificate`), which feeds the parent-ready tracker and emits
`BlockNotarized` and `Finalized`. The tracker's `assert!` on the certified blocks of a slot
aborts the node: the functions that reach it return `none` then, and a run of messages ends
there (`run`).

The comparison is a parameter of the model (`LimitTest`): the source computes
`accumulated_stake as f64 / (total_stake as f64) < limit` in binary64 (`f64BelowLimit`), and
the exact comparison is `exactBelowLimit`. Certificates are kept in insertion order; the
`find_map` of `get_notarized_block` over the `BTreeMap` finds the least block id. `stats`, the
migration status that a genesis certificate is handed to, and pruning are left out.
-/

set_option autoImplicit false

namespace TRv1.Votor

/-- Whether `accumulated / total` is below a certificate's limit. -/
abbrev LimitTest := Stake → Stake → Fraction → Bool

/-- The source's comparison, `accumulated_stake as f64 / (total_stake as f64) < limit`. -/
def f64BelowLimit : LimitTest := fun accumulated total limit =>
  Binary64.lt (stakeRatio accumulated total) limit.toF64

/-- The comparison in exact arithmetic, `accumulated / total < num / den`. -/
def exactBelowLimit : LimitTest := fun accumulated total limit =>
  decide (accumulated.toNat * limit.den < limit.num * total.toNat)

/-- `ConsensusMessage`. -/
inductive ConsensusMessage where
  | vote (message : VoteMessage)
  | certificate (cert : Certificate)

namespace VotePool

/-- The stake a pool holds toward a certificate: a simple pool's total, or a duplicate-block
pool's total for the vote's block; only votes with a block id read the second (`expect`). -/
def stakeFor (blockId : Option Hash) : VotePool → Stake
  | .simpleVotePool p => p.totalStake
  | .duplicateBlockVotePool p =>
    match blockId with
    | some b => p.totalStakeByBlockId b
    | none => 0

/-- The votes a pool gives a certificate. -/
def votesFor (blockId : Option Hash) : VotePool → List VoteMessage
  | .simpleVotePool p => p.votes
  | .duplicateBlockVotePool p =>
    match blockId with
    | some b => (p.votes b).getD []
    | none => []

end VotePool

/-- The least of a list of block ids. -/
def leastBlockId : List Hash → Option Hash
  | [] => none
  | b :: rest =>
    match leastBlockId rest with
    | none => some b
    | some a => some (if b.val ≤ a.val then b else a)

/-- `ConsensusPool`: the vote pools by slot and type, the completed certificates, the
parent-ready tracker, the highest finalized slots and the stake counters by slot. -/
structure ConsensusPool where
  votePools : Slot → VoteType → Option VotePool
  completedCertificates : List (CertificateType × Certificate)
  parentReadyTracker : ParentReadyTracker
  highestFinalizedSlot : Option Slot
  highestFinalizedWithNotarize : Option (Slot × Bool)
  slotStakeCountersMap : Slot → Option SlotStakeCounters

namespace ConsensusPool

/-- `new_from_root_bank`, for the root block. -/
def newFromRootBank (rootBlock : Block) : ConsensusPool :=
  ⟨fun _ _ => none, [], ParentReadyTracker.new rootBlock, none, none, fun _ => none⟩

/-- `new_vote_pool`. -/
def newVotePool : VoteType → VotePool
  | .notarizeFallback =>
    .duplicateBlockVotePool (.new maxEntriesPerPubkeyForNotarizeLite (by decide))
  | .notarize => .duplicateBlockVotePool (.new maxEntriesPerPubkeyForOtherTypes (by decide))
  | .finalize | .skip | .skipFallback | .genesis => .simpleVotePool .empty

/-- The pool of `slot` and `voteType` replaced. -/
def setVotePool (pool : ConsensusPool) (slot : Slot) (voteType : VoteType) (vp : VotePool) :
    ConsensusPool :=
  { pool with votePools := fun s t => if s = slot ∧ t = voteType then some vp
      else pool.votePools s t }

/-- `update_vote_pool`: the vote added to the pool of its slot and type, created if need be;
the entry stake the pool returns. -/
def updateVotePool (pool : ConsensusPool) (vote : VoteMessage) (validatorVoteKey : Pubkey)
    (validatorStake : Stake) : ConsensusPool × Option Stake :=
  let voteType := vote.vote.getType
  let slot := vote.vote.slot
  let vp := (pool.votePools slot voteType).getD (newVotePool voteType)
  let (vp', entryStake) := vp.addVote validatorVoteKey validatorStake vote
  (pool.setVotePool slot voteType vp', entryStake)

/-- `has_conflicting_vote`: the first conflicting type whose pool in the slot has a vote of the
validator; for a duplicate-block pool and a vote with a block id, a vote for that block. -/
def hasConflictingVote (pool : ConsensusPool) (slot : Slot) (voteType : VoteType)
    (validatorVoteKey : Pubkey) (blockId : Option Hash) : Option VoteType :=
  (conflictingTypes voteType).find? fun conflictingType =>
    match pool.votePools slot conflictingType with
    | none => false
    | some (.simpleVotePool p) => p.hasPrevValidatorVote validatorVoteKey
    | some (.duplicateBlockVotePool p) =>
      match blockId with
      | some b => p.hasPrevValidatorVoteForBlock validatorVoteKey b
      | none => p.hasPrevValidatorVote validatorVoteKey

/-- `completed_certificates.contains_key`. -/
def isCompleted (pool : ConsensusPool) (certType : CertificateType) : Bool :=
  pool.completedCertificates.any (·.1 == certType)

/-- `is_finalized`: a `Finalize` or `FinalizeFast` certificate in the slot. -/
def isFinalized (pool : ConsensusPool) (slot : Slot) : Bool :=
  pool.completedCertificates.any fun (c, _) =>
    match c with
    | .finalize s | .finalizeFast s _ => decide (s = slot)
    | _ => false

/-- `get_notarized_block`: the `Notarize` certificate of the slot first in key order. -/
def getNotarizedBlock (pool : ConsensusPool) (slot : Slot) : Option Block :=
  (leastBlockId (pool.completedCertificates.filterMap fun (c, _) =>
    match c with
    | .notarize s b => if slot = s then some b else none
    | _ => none)).map fun b => (slot, b)

/-- The tracker after a certified block, with its events; `none` when the tracker aborts. -/
def notarFallbackOrStronger (pool : ConsensusPool) (block : Block) :
    Option (ConsensusPool × List VotorEvent) :=
  (pool.parentReadyTracker.addNewNotarFallbackOrStronger block).map fun (tracker, events) =>
    ({ pool with parentReadyTracker := tracker }, events)

/-- `highest_finalized_with_notarize` raised to `slot` when it is below it (`strict`) or not
above it. -/
def raiseFinalizedWithNotarize (pool : ConsensusPool) (slot : Slot) (isFast strict : Bool) :
    ConsensusPool :=
  let below := match pool.highestFinalizedWithNotarize with
    | none => true
    | some (s, _) => if strict then decide (s < slot) else decide (s ≤ slot)
  if below then { pool with highestFinalizedWithNotarize := some (slot, isFast) } else pool

/-- `highest_finalized_slot` raised to `slot`. -/
def raiseFinalized (pool : ConsensusPool) (slot : Slot) : ConsensusPool :=
  let below := match pool.highestFinalizedSlot with
    | none => true
    | some s => decide (s < slot)
  if below then { pool with highestFinalizedSlot := some slot } else pool

/-- `insert_certificate`: record the certificate and act on its type; `none` when the
parent-ready tracker aborts. -/
def insertCertificate (pool : ConsensusPool) (certType : CertificateType) (cert : Certificate) :
    Option (ConsensusPool × List VotorEvent) :=
  let pool₁ :=
    { pool with completedCertificates := pool.completedCertificates ++ [(certType, cert)] }
  match certType with
  | .notarizeFallback slot blockId => pool₁.notarFallbackOrStronger (slot, blockId)
  | .skip slot =>
    let (tracker, events) := pool₁.parentReadyTracker.addNewSkip slot
    some ({ pool₁ with parentReadyTracker := tracker }, events)
  | .notarize slot blockId => do
    let (pool₂, events) ← pool₁.notarFallbackOrStronger (slot, blockId)
    if pool₂.isFinalized slot then
      return (pool₂.raiseFinalizedWithNotarize slot false true,
        .blockNotarized (slot, blockId) :: events ++ [.finalized (slot, blockId) false])
    else return (pool₂, .blockNotarized (slot, blockId) :: events)
  | .finalize slot =>
    match pool₁.getNotarizedBlock slot with
    | some block =>
      some ((pool₁.raiseFinalizedWithNotarize slot false true).raiseFinalized slot,
        [.finalized block false])
    | none => some (pool₁.raiseFinalized slot, [])
  | .finalizeFast slot blockId => do
    let (pool₂, events) ← pool₁.notarFallbackOrStronger (slot, blockId)
    return ((pool₂.raiseFinalized slot).raiseFinalizedWithNotarize slot true false,
      .finalized (slot, blockId) true :: events)
  | .genesis slot blockId => pool₁.notarFallbackOrStronger (slot, blockId)

/-- The stake toward a certificate, `.sum::<Stake>()` over its vote types' pools in the slot. -/
def accumulatedStake (pool : ConsensusPool) (slot : Slot) (blockId : Option Hash)
    (voteTypes : List VoteType) : Stake :=
  (voteTypes.filterMap fun voteType =>
    (pool.votePools slot voteType).map (·.stakeFor blockId)).foldl (· + ·) 0

/-- The votes a certificate aggregates: those of its vote types' pools, in order. -/
def certificateVotes (pool : ConsensusPool) (slot : Slot) (blockId : Option Hash)
    (voteTypes : List VoteType) : List VoteMessage :=
  voteTypes.flatMap fun voteType =>
    ((pool.votePools slot voteType).map (·.votesFor blockId)).getD []

/-- `update_certificates`: each certificate the vote counts toward that is not complete yet is
built and inserted once its pools' stake reaches its limit; `none` when an insertion aborts. -/
def updateCertificates (belowLimit : LimitTest) (slot : Slot) (blockId : Option Hash)
    (totalStake : Stake) : List CertificateType → ConsensusPool →
    Option (ConsensusPool × List VotorEvent × List Certificate)
  | [], pool => some (pool, [], [])
  | certType :: rest, pool =>
    if pool.isCompleted certType then
      updateCertificates belowLimit slot blockId totalStake rest pool
    else
      let (limit, voteTypes) := certificateLimitsAndVoteTypes certType
      if belowLimit (pool.accumulatedStake slot blockId voteTypes) totalStake limit then
        updateCertificates belowLimit slot blockId totalStake rest pool
      else do
        let cert : Certificate := ⟨certType, pool.certificateVotes slot blockId voteTypes⟩
        let (pool₁, events) ← pool.insertCertificate certType cert
        let (pool₂, events', certs) ←
          updateCertificates belowLimit slot blockId totalStake rest pool₁
        return (pool₂, events ++ events', cert :: certs)

/-- What an accepted message did: the pool after it, the events it emitted and the certificates
it built or took. -/
abbrev Outcome := ConsensusPool × List VotorEvent × List Certificate

/-- `add_vote`; `.ok none` when the parent-ready tracker aborts. -/
def addVote (ctx : StakesContext) (belowLimit : LimitTest) (rootSlot : Slot)
    (myVotePubkey : Pubkey) (voteMessage : VoteMessage) (pool : ConsensusPool) :
    Except AddVoteError (Option Outcome) :=
  let vote := voteMessage.vote
  match getKeyAndStakes ctx vote.slot voteMessage.rank with
  | .error e => .error e
  | .ok (validatorVoteKey, validatorStake, totalStake) =>
    if vote.slot < rootSlot then .error .unrootedSlot
    else
      match pool.hasConflictingVote vote.slot vote.getType validatorVoteKey vote.blockId with
      | some conflictingType =>
        .error (.conflictingVoteType vote.getType conflictingType vote.slot validatorVoteKey)
      | none =>
        let (pool₁, entry) := pool.updateVotePool voteMessage validatorVoteKey validatorStake
        match entry with
        | none => .ok (some (pool₁, [], []))
        | some entryStake =>
          let counters := (pool₁.slotStakeCountersMap vote.slot).getD
            (SlotStakeCounters.new totalStake)
          let (counters', events) :=
            counters.addVote vote entryStake (decide (myVotePubkey = validatorVoteKey))
          let pool₂ := { pool₁ with slotStakeCountersMap := fun s =>
            if s = vote.slot then some counters' else pool₁.slotStakeCountersMap s }
          .ok ((pool₂.updateCertificates belowLimit vote.slot vote.blockId totalStake
            (voteToCertTypes vote)).map fun (pool₃, events', certs) =>
              (pool₃, events ++ events', certs))

/-- `add_certificate`; `.ok none` when the parent-ready tracker aborts. -/
def addCertificate (rootSlot : Slot) (cert : Certificate) (pool : ConsensusPool) :
    Except AddVoteError (Option Outcome) :=
  if cert.certType.slot < rootSlot then .error .unrootedSlot
  else if pool.isCompleted cert.certType then .ok (some (pool, [], []))
  else
    .ok ((pool.insertCertificate cert.certType cert).map fun (pool₁, events) =>
      (pool₁, events, [cert]))

/-- `add_message`: a vote or a certificate. (The new highest finalized slot that the source also
returns is read off the pool.) -/
def addMessage (ctx : StakesContext) (belowLimit : LimitTest) (rootSlot : Slot)
    (myVotePubkey : Pubkey) : ConsensusMessage → ConsensusPool →
    Except AddVoteError (Option Outcome)
  | .vote voteMessage, pool => pool.addVote ctx belowLimit rootSlot myVotePubkey voteMessage
  | .certificate cert, pool => pool.addCertificate rootSlot cert

/-- A node's pool along a sequence of messages: each accepted message's pool and events; a
refused one changes nothing, and an abort ends the run with the pool and events before it. -/
def run (ctx : StakesContext) (belowLimit : LimitTest) (rootSlot : Slot) (myVotePubkey : Pubkey) :
    List ConsensusMessage → ConsensusPool → ConsensusPool × List VotorEvent
  | [], pool => (pool, [])
  | message :: rest, pool =>
    match pool.addMessage ctx belowLimit rootSlot myVotePubkey message with
    | .ok (some (pool₁, events, _)) =>
      let (pool₂, events') := run ctx belowLimit rootSlot myVotePubkey rest pool₁
      (pool₂, events ++ events')
    | .ok none => (pool, [])
    | .error _ => run ctx belowLimit rootSlot myVotePubkey rest pool

end ConsensusPool

end TRv1.Votor
