import Mathlib
import TRv1.ConsensusBft.Types
import TRv1.Lib.Binary64
import TRv1.Lib.RustInt

/-!
# The weighted validator set and proposer selection

`ValidatorSet` of `validator_set.rs` and `proposer_for_round` of `proposer.rs`. A set is built
by filtering out zero stakes, sorting stably by stake descending then pubkey ascending
(an insertion sort, stable as `sort_by` is), summing the stakes with wrapping `u64`
addition (`Iterator::sum` in a release build) and indexing each pubkey by its position,
a later duplicate overwriting an earlier one as in `collect` into a `HashMap`.

`quorumStake` is `max(ceil(total_stake as f64 * threshold) as u64, 1)`, computed in the
binary64 model. `proposerForRound` walks the validators with a saturating running sum until
it exceeds `(height + round) mod total_stake`.
-/

set_option autoImplicit false

namespace TRv1.ConsensusBft

open Binary64

/-- A validator with its stake weight. -/
structure ValidatorInfo where
  pubkey : Pubkey
  stake : UInt64
  deriving DecidableEq, Repr

/-- The comparator of `sort_by`: stake descending, then pubkey ascending. -/
def ValidatorInfo.cmp (a b : ValidatorInfo) : Ordering :=
  (compare b.stake a.stake).then (compare a.pubkey b.pubkey)

/-- An ordered, weighted set of validators. -/
structure ValidatorSet where
  validators : List ValidatorInfo
  index : AList (fun _ : Pubkey => Nat)
  totalStake : UInt64

namespace ValidatorSet

/-- Stable sort by `ValidatorInfo.cmp`, as an insertion sort (structural, so that concrete sets
evaluate); `ValidatorInfo.cmp` orders distinct infos strictly, so every stable sort, the
merge sort of `sort_by` included, gives this list. -/
def sortInfos (infos : List ValidatorInfo) : List ValidatorInfo :=
  infos.insertionSort fun a b => a.cmp b != .gt

/-- The wrapping sum of the stakes. -/
def sumStakes (infos : List ValidatorInfo) : UInt64 :=
  (infos.map (·.stake)).foldl (· + ·) 0

/-- Pubkey to position; a later entry for the same pubkey overwrites an earlier one. -/
def buildIndex (infos : List ValidatorInfo) : AList (fun _ : Pubkey => Nat) :=
  infos.zipIdx.foldl (fun m p => m.insert p.1.pubkey p.2) ∅

/-- The set over an already sorted list. -/
def ofSorted (infos : List ValidatorInfo) : ValidatorSet where
  validators := infos
  index := buildIndex infos
  totalStake := sumStakes infos

/-- `ValidatorSet::new`: drop zero stakes, sort, sum, index. -/
def new (validators : List (Pubkey × UInt64)) : ValidatorSet :=
  ofSorted (sortInfos ((validators.filter fun p => 0 < p.2).map fun p => ⟨p.1, p.2⟩))

/-- The number of validators. -/
def len (vs : ValidatorSet) : Nat := vs.validators.length

/-- Whether the set is empty. -/
def isEmpty (vs : ValidatorSet) : Bool := vs.validators.isEmpty

/-- The validator at a position. -/
def get (vs : ValidatorSet) (i : Nat) : Option ValidatorInfo := vs.validators[i]?

/-- Look up a validator by pubkey through the index. -/
def getByPubkey (vs : ValidatorSet) (pk : Pubkey) : Option ValidatorInfo :=
  (vs.index.lookup pk).bind vs.get

/-- The stake of a validator, `0` outside the set. -/
def stakeOf (vs : ValidatorSet) (pk : Pubkey) : UInt64 :=
  match vs.getByPubkey pk with
  | some v => v.stake
  | none => 0

/-- Whether a pubkey is indexed. -/
def contains (vs : ValidatorSet) (pk : Pubkey) : Bool := (vs.index.lookup pk).isSome

/-- `quorum_stake`: `ceil(total_stake as f64 * threshold) as u64`, at least `1`. -/
def quorumStake (vs : ValidatorSet) (threshold : F64) : UInt64 :=
  max (toUInt64Sat (ceil (mul (ofNat vs.totalStake.toNat) threshold))) 1

/-- All pubkeys in order. -/
def pubkeys (vs : ValidatorSet) : List Pubkey := vs.validators.map (·.pubkey)

/-- `upsert`: remove the pubkey, re-add it when the stake is positive, re-sort, re-sum,
re-index. -/
def upsert (vs : ValidatorSet) (pubkey : Pubkey) (stake : UInt64) : ValidatorSet :=
  let kept := vs.validators.filter fun v => v.pubkey != pubkey
  ofSorted (sortInfos (if 0 < stake then kept ++ [⟨pubkey, stake⟩] else kept))

/-- `remove`: `upsert` with stake `0`. -/
def remove (vs : ValidatorSet) (pubkey : Pubkey) : ValidatorSet := vs.upsert pubkey 0

end ValidatorSet

/-- The walk of `proposer_for_round`: the first validator whose running (saturating) stake
sum exceeds `target`. -/
def proposerScan (target : UInt64) : UInt64 → List ValidatorInfo → Option Pubkey
  | _, [] => none
  | acc, v :: vs =>
    if target < RustInt.saturatingAdd acc v.stake then some v.pubkey
    else proposerScan target (RustInt.saturatingAdd acc v.stake) vs

/-- `proposer_for_round`: stake-weighted choice at seed `height + round` (wrapping), with the
first validator as fallback. -/
def proposerForRound (vs : ValidatorSet) (height : UInt64) (round : UInt32) : Option Pubkey :=
  if vs.isEmpty || vs.totalStake == 0 then none
  else
    let target := (height + round.toUInt64) % vs.totalStake
    match proposerScan target 0 vs.validators with
    | some p => some p
    | none => (vs.get 0).map (·.pubkey)

/-- `is_proposer`. -/
def isProposer (vs : ValidatorSet) (identity : Pubkey) (height : UInt64) (round : UInt32) :
    Bool :=
  (proposerForRound vs height round).map (· == identity) |>.getD false

end TRv1.ConsensusBft
