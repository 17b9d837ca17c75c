import TRv1.Votor.Common

/-!
# Slot stake counters

`slot_stake_counters.rs` keeps, per slot, running totals fed by the entry stakes the vote pools
return: the skip pool's total, each block's notarize total and their sum, the largest of those,
and this node's first vote in the slot. Once this node has voted in the slot, every skip or
notarize vote checks the white-paper conditions (v1.1, p. 22) and emits `SafeToNotar` for a
block and `SafeToSkip` for the slot, each at most once:

* safe to notarize `b`, unless this node's first vote was to notarize `b`: the notarize share of
  `b` is at least `0.4`, or it is at least `0.2` and with the skip share at least `0.6`;
* safe to skip, if this node's first vote was a notarize vote: the skip share and the notarize
  shares of all blocks but the largest together are at least `0.4`.

The shares are computed as the source does, in binary64: each stake converted to `f64`, divided
by the total stake, added, and compared with the `f64` constants. The `BTreeMap` of notarize
totals is a list sorted by block id, the order in which the source visits it.
-/

set_option autoImplicit false

namespace TRv1.Votor

open Binary64

/-- `SAFE_TO_NOTAR_MIN_NOTARIZE_ONLY`, `0.4`. -/
def safeToNotarMinNotarizeOnly : F64 := ofDecimal 4 1

/-- `SAFE_TO_NOTAR_MIN_NOTARIZE_FOR_NOTARIZE_OR_SKIP`, `0.2`. -/
def safeToNotarMinNotarizeForNotarizeOrSkip : F64 := ofDecimal 2 1

/-- `SAFE_TO_NOTAR_MIN_NOTARIZE_AND_SKIP`, `0.6`. -/
def safeToNotarMinNotarizeAndSkip : F64 := ofDecimal 6 1

/-- `SAFE_TO_SKIP_THRESHOLD`, `0.4`. -/
def safeToSkipThreshold : F64 := ofDecimal 4 1

/-- `stake as f64 / total as f64`. -/
def stakeRatio (stake total : Stake) : F64 := div (ofNat stake.toNat) (ofNat total.toNat)

/-- `BTreeMap::insert` on a list sorted by key: the new map and the value it replaced. -/
def insertSorted (key : Hash) (value : Stake) :
    List (Hash × Stake) → List (Hash × Stake) × Option Stake
  | [] => ([(key, value)], none)
  | (k, v) :: rest =>
    if key = k then ((key, value) :: rest, some v)
    else if key.val < k.val then ((key, value) :: (k, v) :: rest, none)
    else
      let (rest', old) := insertSorted key value rest
      ((k, v) :: rest', old)

/-- `SlotStakeCounters`. -/
structure SlotStakeCounters where
  myFirstVote : Option Vote
  totalStake : Stake
  skipTotal : Stake
  notarizeTotal : Stake
  notarizeEntryTotal : List (Hash × Stake)
  topNotarizedStake : Stake
  safeToNotarSent : List Hash
  safeToSkipSent : Bool

namespace SlotStakeCounters

/-- `SlotStakeCounters::new`. -/
def new (totalStake : Stake) : SlotStakeCounters :=
  ⟨none, totalStake, 0, 0, [], 0, [], false⟩

/-- `is_safe_to_notar`: never for the block of this node's first vote; otherwise by the notarize
share of the block and the skip share. -/
def isSafeToNotar (c : SlotStakeCounters) (blockId : Hash) (stake : Stake) : Bool :=
  let votedForBlock := match c.myFirstVote with
    | some (.notarize _ myBlockId) => decide (myBlockId = blockId)
    | _ => false
  if votedForBlock then false
  else
    let skipRatio := stakeRatio c.skipTotal c.totalStake
    let notarizedRatio := stakeRatio stake c.totalStake
    le safeToNotarMinNotarizeOnly notarizedRatio ||
      (le safeToNotarMinNotarizeForNotarizeOrSkip notarizedRatio &&
        le safeToNotarMinNotarizeAndSkip (add notarizedRatio skipRatio))

/-- `is_safe_to_skip`. -/
def isSafeToSkip (c : SlotStakeCounters) : Bool :=
  match c.myFirstVote with
  | some (.notarize _ _) =>
    le safeToSkipThreshold
      (stakeRatio (RustInt.saturatingAdd c.skipTotal
        (RustInt.saturatingSub c.notarizeTotal c.topNotarizedStake)) c.totalStake)
  | _ => false

/-- The safe-to-notarize loop over the notarize totals, in block-id order. -/
def checkSafeToNotar (slot : Slot) :
    List (Hash × Stake) → SlotStakeCounters → SlotStakeCounters × List VotorEvent
  | [], c => (c, [])
  | (blockId, stake) :: rest, c =>
    if blockId ∉ c.safeToNotarSent ∧ c.isSafeToNotar blockId stake = true then
      let (c', events) :=
        checkSafeToNotar slot rest { c with safeToNotarSent := c.safeToNotarSent ++ [blockId] }
      (c', .safeToNotar (slot, blockId) :: events)
    else checkSafeToNotar slot rest c

/-- The totals after a skip or notarize vote whose pool entry now holds `entryStake`; `none` for
the other votes, which the counters ignore. -/
def record (c : SlotStakeCounters) (vote : Vote) (entryStake : Stake) :
    Option SlotStakeCounters :=
  match vote with
  | .skip _ => some { c with skipTotal := entryStake }
  | .notarize _ blockId =>
    let (entries, old) := insertSorted blockId entryStake c.notarizeEntryTotal
    some { c with
      notarizeEntryTotal := entries
      notarizeTotal := RustInt.saturatingAdd (RustInt.saturatingSub c.notarizeTotal (old.getD 0))
        entryStake
      topNotarizedStake := max c.topNotarizedStake entryStake }
  | _ => none

/-- `add_vote`: record the vote; once this node has voted in the slot, emit the events that
have become due. -/
def addVote (c : SlotStakeCounters) (vote : Vote) (entryStake : Stake) (isMyOwnVote : Bool) :
    SlotStakeCounters × List VotorEvent :=
  match c.record vote entryStake with
  | none => (c, [])
  | some c₁ =>
    let c₂ := if c₁.myFirstVote.isNone ∧ isMyOwnVote = true then
      { c₁ with myFirstVote := some vote } else c₁
    if c₂.myFirstVote.isNone then (c₂, [])
    else
      let (c₃, notarEvents) := checkSafeToNotar vote.slot c₂.notarizeEntryTotal c₂
      if !c₃.safeToSkipSent && c₃.isSafeToSkip then
        ({ c₃ with safeToSkipSent := true }, notarEvents ++ [.safeToSkip vote.slot])
      else (c₃, notarEvents)

end SlotStakeCounters

end TRv1.Votor
