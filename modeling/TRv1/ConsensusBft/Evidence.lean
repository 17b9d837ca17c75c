import TRv1.ConsensusBft.Types

/-!
# Double-sign evidence

`EvidenceCollector` of `evidence.rs`. The collector keeps the first vote it saw for each
(height, round, voter, vote type) and records a `DoubleSignEvidence` each time a later vote
for the same key carries a different hash; votes below `minHeight` are ignored, and `prune`
raises `minHeight` and forgets older votes but keeps the evidence.
-/

set_option autoImplicit false

namespace TRv1.ConsensusBft

/-- The kind of conflicting votes. -/
inductive EvidenceKind where
  | conflictingPrevote
  | conflictingPrecommit
  deriving DecidableEq, Repr

/-- Evidence of a validator casting two conflicting votes. -/
structure DoubleSignEvidence where
  validator : Pubkey
  height : UInt64
  round : UInt32
  kind : EvidenceKind
  voteA : Option Hash × Signature
  voteB : Option Hash × Signature
  deriving DecidableEq, Repr

/-- The vote types tracked separately. -/
inductive VoteType where
  | prevote
  | precommit
  deriving DecidableEq, Repr

/-- Key for tracking votes: (height, round, voter, vote type). -/
structure VoteKey where
  height : UInt64
  round : UInt32
  voter : Pubkey
  kind : VoteType
  deriving DecidableEq, Repr

/-- The first vote seen for a key. -/
structure StoredVote where
  blockHash : Option Hash
  signature : Signature
  deriving DecidableEq, Repr

/-- Collects and detects double-sign evidence. -/
structure EvidenceCollector where
  votes : AList (fun _ : VoteKey => StoredVote)
  evidence : List DoubleSignEvidence
  minHeight : UInt64

namespace EvidenceCollector

/-- `EvidenceCollector::new`. -/
def new : EvidenceCollector := ⟨∅, [], 0⟩

/-- The key and stored vote of a vote message; proposals are not votes. -/
def voteOf : ConsensusMessage → Option (VoteKey × StoredVote)
  | .proposal .. => none
  | .prevote h r hash v sig => some (⟨h, r, v, .prevote⟩, ⟨hash, sig⟩)
  | .precommit h r hash v sig => some (⟨h, r, v, .precommit⟩, ⟨hash, sig⟩)

/-- The evidence kind of a vote type. -/
def VoteType.evidenceKind : VoteType → EvidenceKind
  | .prevote => .conflictingPrevote
  | .precommit => .conflictingPrecommit

/-- `check_and_record`: the updated collector and the evidence found, if any. -/
def checkAndRecord (c : EvidenceCollector) (msg : ConsensusMessage) :
    EvidenceCollector × Option DoubleSignEvidence :=
  match voteOf msg with
  | none => (c, none)
  | some (key, current) =>
    if key.height < c.minHeight then (c, none)
    else
      match c.votes.lookup key with
      | some existing =>
        if existing.blockHash != current.blockHash then
          let ev : DoubleSignEvidence :=
            { validator := key.voter, height := key.height, round := key.round,
              kind := VoteType.evidenceKind key.kind,
              voteA := (existing.blockHash, existing.signature),
              voteB := (current.blockHash, current.signature) }
          ({ c with evidence := c.evidence ++ [ev] }, some ev)
        else (c, none)
      | none => ({ c with votes := c.votes.insert key current }, none)

/-- `prune`: forget votes below `minHeight`, keep the evidence. -/
def prune (c : EvidenceCollector) (minHeight : UInt64) : EvidenceCollector :=
  { c with minHeight := minHeight,
           votes := ⟨c.votes.entries.filter (fun e => minHeight ≤ e.1.height),
             List.NodupKeys.sublist List.filter_sublist c.votes.nodupKeys⟩ }

/-- The collector after checking each message in turn, as an engine receiving them does. -/
def checkAndRecordAll (c : EvidenceCollector) (msgs : List ConsensusMessage) :
    EvidenceCollector :=
  msgs.foldl (fun c m => (c.checkAndRecord m).1) c

end EvidenceCollector

end TRv1.ConsensusBft
