import TRv1.Votor.Common

/-!
# The parent-ready tracker

`parent_ready_tracker.rs` keeps, per slot, whether the slot has a skip certificate, the blocks of
the slot with a notarize-fallback certificate or a stronger one, and the blocks that are ready
parents for the slot: a block `b` is a ready parent of `s` when `b` is certified, `slot(b) < s`,
and every slot strictly between is skip-certified. The root block is certified from the start.

A new certified block is pushed forward, slot by slot, while the slots it passes are
skip-certified (`propagateParent`). A new skip certificate at `slot` collects the parents that
`slot` passes on (the certified blocks of `slot - 1`, and its ready parents if `slot - 1` is
skip-certified) and adds them to the slots after `slot` up to the first one without a skip
certificate (`futureSlots`, `addParents`). A new ready parent of a slot that is a multiple of
`NUM_CONSECUTIVE_LEADER_SLOTS` emits a `ParentReady` event.

The `HashMap` of statuses is a list of slots and statuses, one entry per slot. The two loops over
`slot + 1..` run until a slot without a skip certificate; they are given one step more than
there are statuses, enough since every step but the last is at a distinct skip-certified slot.
Slots are `u64`: `slot + 1` wraps at `u64::MAX` (release build), while the loops start at
`slot.saturating_add(1)`. `add_new_notar_fallback_or_stronger` asserts that a slot has at most
`MAX_ENTRIES_PER_PUBKEY_FOR_NOTARIZE_LITE` certified blocks; the `assert!` stays in release
builds and aborts the node, which the model returns as `none`.
-/

set_option autoImplicit false

namespace TRv1.Votor

/-- `ParentReadyStatus`. -/
structure ParentReadyStatus where
  skip : Bool
  notarFallbacks : List Block
  parentsReady : List Block
  deriving DecidableEq, Repr

/-- `ParentReadyStatus::default`. -/
def ParentReadyStatus.empty : ParentReadyStatus := ⟨false, [], []⟩

/-- `ParentReadyTracker`; the key used for logging is left out. -/
structure ParentReadyTracker where
  slotStatuses : List (Slot × ParentReadyStatus)
  root : Slot
  highestWithParentReady : Slot
  deriving DecidableEq, Repr

namespace ParentReadyTracker

/-- `slot_statuses.get(&s)`. -/
def status? (t : ParentReadyTracker) (s : Slot) : Option ParentReadyStatus :=
  t.slotStatuses.lookup s

/-- `slot_statuses.entry(s).or_default()`, read. -/
def statusAt (t : ParentReadyTracker) (s : Slot) : ParentReadyStatus :=
  (t.status? s).getD ParentReadyStatus.empty

/-- `slot_statuses.get(&s).is_some_and(|ss| ss.skip)`. -/
def skipAt (t : ParentReadyTracker) (s : Slot) : Bool :=
  ((t.status? s).map (·.skip)).getD false

/-- `slot_statuses.insert(s, status)`: the entry of `s` replaced. -/
def setStatus (t : ParentReadyTracker) (s : Slot) (status : ParentReadyStatus) :
    ParentReadyTracker :=
  { t with slotStatuses := (s, status) :: t.slotStatuses.filter (·.1 != s) }

/-- `ParentReadyTracker::new`: the root block is certified in its slot and is the ready parent of
the next slot. -/
def new (rootBlock : Block) : ParentReadyTracker :=
  let rootSlot := rootBlock.1
  let t : ParentReadyTracker := ⟨[], rootSlot, RustInt.saturatingAdd rootSlot 1⟩
  (t.setStatus rootSlot ⟨false, [rootBlock], []⟩).setStatus (RustInt.saturatingAdd rootSlot 1)
    ⟨false, [], [rootBlock]⟩

/-- One step of the loops that add a ready parent: `block` becomes a ready parent of `s` unless
it is one already; a new one raises `highest_with_parent_ready` and, at the first slot of a
leader window, is announced. -/
def addParentAt (block : Block) (s : Slot) (t : ParentReadyTracker) :
    ParentReadyTracker × List VotorEvent :=
  let status := t.statusAt s
  if block ∈ status.parentsReady then (t, [])
  else
    let t' := t.setStatus s { status with parentsReady := status.parentsReady ++ [block] }
    (t', if s % numConsecutiveLeaderSlots = 0 then [.parentReady s block] else [])

/-- The loop of `add_new_notar_fallback_or_stronger`: `block` becomes a ready parent of `s`, and
of `s + 1` next while `s` is skip-certified. -/
def propagateParent (block : Block) : Nat → Slot → ParentReadyTracker →
    ParentReadyTracker × List VotorEvent
  | 0, _, t => (t, [])
  | fuel + 1, s, t =>
    let status := t.statusAt s
    let (t₁, events) := addParentAt block s t
    let t₂ := if block ∈ status.parentsReady then t₁
      else { t₁ with highestWithParentReady := max s t₁.highestWithParentReady }
    if status.skip then
      let (t₃, events') := propagateParent block fuel (s + 1) t₂
      (t₃, events ++ events')
    else (t₂, events)

/-- `add_new_notar_fallback_or_stronger`: a block certified above the root is recorded in its
slot, and pushed forward as a ready parent; `none` when the slot would hold more certified
blocks than the `assert!` allows. -/
def addNewNotarFallbackOrStronger (block : Block) (t : ParentReadyTracker) :
    Option (ParentReadyTracker × List VotorEvent) :=
  let slot := block.1
  if slot ≤ t.root then some (t, [])
  else
    let status := t.statusAt slot
    if block ∈ status.notarFallbacks then some (t, [])
    else
      let notarFallbacks := status.notarFallbacks ++ [block]
      if notarFallbacks.length ≤ maxEntriesPerPubkeyForNotarizeLite then
        let t₁ := t.setStatus slot { status with notarFallbacks := notarFallbacks }
        some (propagateParent block (t₁.slotStatuses.length + 1) (RustInt.saturatingAdd slot 1) t₁)
      else none

/-- The first loop of `add_new_skip`: the slots from `s` up to the first one without a skip
certificate. -/
def futureSlots (t : ParentReadyTracker) : Nat → Slot → List Slot
  | 0, _ => []
  | fuel + 1, s => if t.skipAt s then s :: futureSlots t fuel (s + 1) else [s]

/-- The inner loop of `add_new_skip` at one slot: each potential parent becomes a ready parent of
`s`. -/
def addParentsAt (s : Slot) : List Block → ParentReadyTracker →
    ParentReadyTracker × List VotorEvent
  | [], t => (t, [])
  | block :: rest, t =>
    let (t₁, events) := addParentAt block s t
    let (t₂, events') := addParentsAt s rest t₁
    (t₂, events ++ events')

/-- The outer loop of `add_new_skip`: the potential parents added to each future slot, and
`highest_with_parent_ready` raised to it. -/
def addParents (parents : List Block) : List Slot → ParentReadyTracker →
    ParentReadyTracker × List VotorEvent
  | [], t => (t, [])
  | s :: rest, t =>
    let (t₁, events) := addParentsAt s parents t
    let t₂ := { t₁ with highestWithParentReady := max s t₁.highestWithParentReady }
    let (t₃, events') := addParents parents rest t₂
    (t₃, events ++ events')

/-- `add_new_skip`: a skip certificate above the root is recorded, and the parents that the slot
passes on are added to the slots after it up to the first one without a skip certificate. -/
def addNewSkip (slot : Slot) (t : ParentReadyTracker) : ParentReadyTracker × List VotorEvent :=
  if slot ≤ t.root then (t, [])
  else
    let t₁ := t.setStatus slot { t.statusAt slot with skip := true }
    let future := t₁.futureSlots (t₁.slotStatuses.length + 1) (RustInt.saturatingAdd slot 1)
    match t₁.status? (RustInt.saturatingSub slot 1) with
    | none => (t₁, [])
    | some previous =>
      let potentialParents := previous.notarFallbacks ++
        (if previous.skip then previous.parentsReady else [])
      if potentialParents.isEmpty then (t₁, [])
      else addParents potentialParents future t₁

end ParentReadyTracker

end TRv1.Votor
