import Mathlib
import TRv1.Sdk.Keys
import TRv1.Lib.Binary64
import TRv1.Lib.RustInt

/-!
# Slashing and jailing

`SlashingState` of `slashing.rs` keeps a jail status per validator identity: whether it is
jailed and until which epoch, how many offenses it has committed, whether it is permanently
banned, and the last slot it was seen voting. Four operations change it: `slash_validator`
counts an offense, computes the lamports to slash and jails the validator, permanently once the
count reaches `max_offenses`; `jail_validator` jails for a given duration; `unjail_validator`
releases a validator that is not banned once its jail epoch has come; and
`check_offline_validators` records the last vote slots and jails the validators silent for more
than the threshold.

The `HashMap` of statuses is an `AList`. `entry(..).or_default()` followed by writes to the
entry is an `insert` of the updated entry, of the default one when there was none; a read
through `get(..).unwrap_or_default()` is `statusOf`. The map `last_vote_slots` that
`check_offline_validators` walks is the list of its entries in iteration order, which the
results below do not depend on. Slots and epochs are `u64`, with the wrapping `+` of a release
build where the source writes `+`; the penalty fractions are binary64 values.

## What this module delivers

- `Raises`: what an operation may do to the status of one validator other than unjail it; a
  ban and a jail are never lifted, and an offense count that reaches `max_offenses` comes with a
  ban. `apply_status` says every operation raises every status, except `unjail_validator`
  releasing a validator that is not banned and whose jail epoch has come.
- `banned_final`, `BannedAtMax.run` and `unjailed_only_by_unjail`: the properties of whole runs
  that follow, assembled in `slashing_invariants`.
-/

set_option autoImplicit false

namespace TRv1.Runtime.Slashing

open Binary64

/-- `SlashingConfig`. -/
structure SlashingConfig where
  doubleSignPenalty : F64
  invalidBlockPenalty : F64
  repeatOffensePenalty : F64
  maxOffenses : UInt8
  jailDurationFirst : UInt64
  jailDurationSecond : UInt64
  offlineJailThreshold : UInt64
  deriving DecidableEq, Repr

/-- `SlashingConfig::default()`. -/
def SlashingConfig.default : SlashingConfig where
  doubleSignPenalty := ofDecimal 5 2
  invalidBlockPenalty := ofDecimal 10 2
  repeatOffensePenalty := ofDecimal 25 2
  maxOffenses := 3
  jailDurationFirst := 1512000
  jailDurationSecond := 6480000
  offlineJailThreshold := 216000

/-- `SlashOffense`. -/
inductive SlashOffense
  | doubleSigning
  | invalidBlock
  deriving DecidableEq, Repr

/-- `JailDuration`. -/
inductive JailDuration
  | first
  | second
  | permanent
  | offline
  deriving DecidableEq, Repr

/-- `ValidatorJailStatus`, with the derived `Default`. -/
structure ValidatorJailStatus where
  isJailed : Bool := false
  jailUntilEpoch : UInt64 := 0
  offenseCount : UInt8 := 0
  permanentlyBanned : Bool := false
  lastSeenSlot : UInt64 := 0
  deriving DecidableEq, Repr

/-- The map of jail statuses by validator identity. -/
abbrev StatusMap := AList (fun _ : Pubkey => ValidatorJailStatus)

/-- `SlashResult`. -/
structure SlashResult where
  lamportsSlashed : UInt64
  newStatus : ValidatorJailStatus
  deriving DecidableEq, Repr

/-- `SlashingState`. -/
structure SlashingState where
  config : SlashingConfig
  jailStatuses : StatusMap

namespace SlashingState

/-- `SlashingState::new()`. -/
def new : SlashingState := ⟨SlashingConfig.default, ∅⟩

/-- The status of a validator, the default one when the map has none:
`get(validator).cloned().unwrap_or_default()`. -/
def statusOf (s : SlashingState) (validator : Pubkey) : ValidatorJailStatus :=
  (s.jailStatuses.lookup validator).getD {}

/-- `apply_jail` on the status of the validator. -/
def jailStatus (config : SlashingConfig) (duration : JailDuration) (currentEpoch : UInt64)
    (status : ValidatorJailStatus) : ValidatorJailStatus :=
  let status := { status with isJailed := true }
  match duration with
  | .permanent => { status with permanentlyBanned := true }
  | .first | .offline =>
    -- the slot durations are turned into epochs of 432000 slots, rounding up
    let epochs := (config.jailDurationFirst + 431999) / 432000
    { status with jailUntilEpoch := RustInt.saturatingAdd currentEpoch epochs }
  | .second =>
    let epochs := (config.jailDurationSecond + 431999) / 432000
    { status with jailUntilEpoch := RustInt.saturatingAdd currentEpoch epochs }

/-- `apply_jail`. -/
def applyJail (s : SlashingState) (validator : Pubkey) (duration : JailDuration)
    (currentEpoch : UInt64) : SlashingState :=
  { s with
    jailStatuses := s.jailStatuses.insert validator
      (jailStatus s.config duration currentEpoch (s.statusOf validator)) }

/-- `slash_validator`: the state, and the lamports to slash with the new status unless the
validator is banned. -/
def slashValidator (s : SlashingState) (validator : Pubkey) (offense : SlashOffense)
    (ownStakeLamports currentEpoch : UInt64) : SlashingState × Option SlashResult :=
  let status := s.statusOf validator
  -- a banned validator has its entry already, so `or_default` adds none
  if status.permanentlyBanned then (s, none)
  else
    let offenseCount := RustInt.saturatingAddU8 status.offenseCount 1
    let s := { s with jailStatuses := s.jailStatuses.insert validator { status with offenseCount } }
    let penaltyFraction :=
      if offenseCount ≥ s.config.maxOffenses then s.config.repeatOffensePenalty
      else
        match offense with
        | .doubleSigning => s.config.doubleSignPenalty
        | .invalidBlock => s.config.invalidBlockPenalty
    let lamportsSlashed :=
      toUInt64Sat (mul (ofNat ownStakeLamports.toNat) penaltyFraction).round
    let jailDuration : JailDuration :=
      if offenseCount ≥ s.config.maxOffenses then .permanent
      else if offenseCount ≥ 2 then .second
      else .first
    let s := s.applyJail validator jailDuration currentEpoch
    (s, some { lamportsSlashed, newStatus := s.statusOf validator })

/-- `jail_validator`. -/
def jailValidator (s : SlashingState) (validator : Pubkey) (duration : JailDuration)
    (currentEpoch : UInt64) : SlashingState :=
  s.applyJail validator duration currentEpoch

/-- `unjail_validator`: the state, and whether the validator was released. -/
def unjailValidator (s : SlashingState) (validator : Pubkey) (currentEpoch : UInt64) :
    SlashingState × Bool :=
  match s.jailStatuses.lookup validator with
  | none => (s, false)
  | some status =>
    if status.permanentlyBanned then (s, false)
    -- still serving the sentence
    else if currentEpoch < status.jailUntilEpoch then (s, false)
    else
      ({ s with jailStatuses := s.jailStatuses.insert validator { status with isJailed := false } },
        true)

/-- One entry of the loop of `check_offline_validators`. -/
def checkOfflineStep (currentSlot currentEpoch : UInt64) (acc : SlashingState × List Pubkey)
    (entry : Pubkey × UInt64) : SlashingState × List Pubkey :=
  let (nodePubkey, lastSlot) := entry
  let status := { acc.1.statusOf nodePubkey with lastSeenSlot := lastSlot }
  let s := { acc.1 with jailStatuses := acc.1.jailStatuses.insert nodePubkey status }
  -- already jailed
  if status.isJailed || status.permanentlyBanned then (s, acc.2)
  else if RustInt.saturatingSub currentSlot lastSlot > s.config.offlineJailThreshold then
    (s.applyJail nodePubkey .offline currentEpoch, acc.2 ++ [nodePubkey])
  else (s, acc.2)

/-- `check_offline_validators`: the state, and the validators it jailed. -/
def checkOfflineValidators (s : SlashingState) (lastVoteSlots : List (Pubkey × UInt64))
    (currentSlot currentEpoch : UInt64) : SlashingState × List Pubkey :=
  lastVoteSlots.foldl (checkOfflineStep currentSlot currentEpoch) (s, [])

/-- `is_jailed_or_banned`. -/
def isJailedOrBanned (s : SlashingState) (validator : Pubkey) : Bool :=
  ((s.jailStatuses.lookup validator).map fun st => st.isJailed || st.permanentlyBanned).getD false

/-- `jailed_set`. -/
def jailedSet (s : SlashingState) : Finset Pubkey :=
  ((s.jailStatuses.entries.filter fun e => e.2.isJailed || e.2.permanentlyBanned).map
    Sigma.fst).toFinset

end SlashingState

open SlashingState

/-- The operations of `SlashingState`, with their arguments. -/
inductive SlashingOp
  | slashValidator (validator : Pubkey) (offense : SlashOffense)
      (ownStakeLamports currentEpoch : UInt64)
  | jailValidator (validator : Pubkey) (duration : JailDuration) (currentEpoch : UInt64)
  | unjailValidator (validator : Pubkey) (currentEpoch : UInt64)
  | checkOfflineValidators (lastVoteSlots : List (Pubkey × UInt64))
      (currentSlot currentEpoch : UInt64)
  deriving DecidableEq, Repr

/-- The state after one operation; its result is dropped. -/
def apply (s : SlashingState) : SlashingOp → SlashingState
  | .slashValidator v offense ownStake epoch => (s.slashValidator v offense ownStake epoch).1
  | .jailValidator v duration epoch => s.jailValidator v duration epoch
  | .unjailValidator v epoch => (s.unjailValidator v epoch).1
  | .checkOfflineValidators slots slot epoch => (s.checkOfflineValidators slots slot epoch).1

/-- The state after a sequence of operations. -/
def run (s : SlashingState) (ops : List SlashingOp) : SlashingState := ops.foldl apply s

@[simp] theorem run_nil (s : SlashingState) : run s [] = s := rfl

@[simp] theorem run_cons (s : SlashingState) (op : SlashingOp) (ops : List SlashingOp) :
    run s (op :: ops) = run (apply s op) ops := rfl

/-! ## Reading a status -/

namespace SlashingState

theorem statusOf_insert (s : SlashingState) (v w : Pubkey) (st : ValidatorJailStatus) :
    statusOf { s with jailStatuses := s.jailStatuses.insert v st } w =
      if w = v then st else s.statusOf w := by
  dsimp only [statusOf]
  by_cases h : w = v
  · rw [if_pos h, h, AList.lookup_insert, Option.getD_some]
  · rw [if_neg h, AList.lookup_insert_ne h]

theorem statusOf_applyJail (s : SlashingState) (v : Pubkey) (duration : JailDuration)
    (currentEpoch : UInt64) (w : Pubkey) :
    (s.applyJail v duration currentEpoch).statusOf w =
      if w = v then jailStatus s.config duration currentEpoch (s.statusOf v) else s.statusOf w :=
  statusOf_insert s v w _

@[simp] theorem config_applyJail (s : SlashingState) (v : Pubkey) (duration : JailDuration)
    (currentEpoch : UInt64) : (s.applyJail v duration currentEpoch).config = s.config := rfl

section JailStatus

variable (config : SlashingConfig) (duration : JailDuration) (currentEpoch : UInt64)
  (st : ValidatorJailStatus)

@[simp] theorem jailStatus_isJailed :
    (jailStatus config duration currentEpoch st).isJailed = true := by
  cases duration <;> rfl

@[simp] theorem jailStatus_offenseCount :
    (jailStatus config duration currentEpoch st).offenseCount = st.offenseCount := by
  cases duration <;> rfl

@[simp] theorem jailStatus_permanentlyBanned :
    (jailStatus config duration currentEpoch st).permanentlyBanned =
      (st.permanentlyBanned || decide (duration = .permanent)) := by
  cases duration <;> simp [jailStatus]

end JailStatus

/-- A banned validator's entry is in the map. -/
theorem lookup_of_banned {s : SlashingState} {v : Pubkey}
    (h : (s.statusOf v).permanentlyBanned = true) :
    s.jailStatuses.lookup v = some (s.statusOf v) := by
  unfold statusOf at h ⊢
  cases hl : s.jailStatuses.lookup v with
  | none =>
    rw [hl] at h
    cases h
  | some st => rfl

theorem isJailedOrBanned_eq (s : SlashingState) (v : Pubkey) :
    s.isJailedOrBanned v = ((s.statusOf v).isJailed || (s.statusOf v).permanentlyBanned) := by
  unfold isJailedOrBanned statusOf
  cases s.jailStatuses.lookup v with
  | none => rfl
  | some st => rfl

theorem mem_jailedSet (s : SlashingState) (v : Pubkey) :
    v ∈ s.jailedSet ↔ s.isJailedOrBanned v = true := by
  unfold jailedSet isJailedOrBanned
  rw [List.mem_toFinset, List.mem_map]
  constructor
  · rintro ⟨⟨w, st⟩, hmem, rfl⟩
    rw [List.mem_filter] at hmem
    rw [AList.mem_lookup_iff.mpr hmem.1]
    exact hmem.2
  · intro h
    cases hl : s.jailStatuses.lookup v with
    | none =>
      rw [hl] at h
      cases h
    | some st =>
      rw [hl] at h
      exact ⟨⟨v, st⟩, List.mem_filter.mpr ⟨AList.mem_lookup_iff.mp hl, h⟩, rfl⟩

end SlashingState

/-! ## What an operation does to one status -/

/-- What an operation may do to the status of a validator, short of unjailing it: a ban and a
jail stay, and an offense count that reaches `max_offenses` comes with a ban. -/
structure Raises (maxOffenses : UInt8) (st st' : ValidatorJailStatus) : Prop where
  banned : st.permanentlyBanned = true → st'.permanentlyBanned = true
  jailed : st.isJailed = true → st'.isJailed = true
  count : maxOffenses ≤ st'.offenseCount →
    maxOffenses ≤ st.offenseCount ∨ st'.permanentlyBanned = true

namespace Raises

variable {m : UInt8} {st st' st'' : ValidatorJailStatus}

theorem refl (m : UInt8) (st : ValidatorJailStatus) : Raises m st st := ⟨id, id, Or.inl⟩

theorem trans (h : Raises m st st') (h' : Raises m st' st'') : Raises m st st'' where
  banned hb := h'.banned (h.banned hb)
  jailed hj := h'.jailed (h.jailed hj)
  count hc := by
    rcases h'.count hc with hc' | hb
    · rcases h.count hc' with hc'' | hb'
      · exact Or.inl hc''
      · exact Or.inr (h'.banned hb')
    · exact Or.inr hb

end Raises

/-- Jailing raises a status. -/
theorem raises_jailStatus (m : UInt8) (config : SlashingConfig) (duration : JailDuration)
    (currentEpoch : UInt64) (st : ValidatorJailStatus) :
    Raises m st (jailStatus config duration currentEpoch st) where
  banned hb := by simp [hb]
  jailed _ := jailStatus_isJailed ..
  count hc := Or.inl (by rwa [jailStatus_offenseCount] at hc)

/-- A new offense count and a jail raise a status when the jail is permanent as soon as the
count reaches `max_offenses`. -/
theorem raises_jailStatus_of_count {m c : UInt8} (config : SlashingConfig)
    {duration : JailDuration} (currentEpoch : UInt64) (st : ValidatorJailStatus)
    (hperm : m ≤ c → duration = .permanent) :
    Raises m st (jailStatus config duration currentEpoch { st with offenseCount := c }) where
  banned hb := by simp [hb]
  jailed _ := jailStatus_isJailed ..
  count hc := Or.inr (by simp [hperm (by simpa using hc)])

/-- A change of state that keeps the config and raises the status of every validator. -/
structure RaisesAll (s s' : SlashingState) : Prop where
  config : s'.config = s.config
  status : ∀ w, Raises s.config.maxOffenses (s.statusOf w) (s'.statusOf w)

namespace RaisesAll

theorem refl (s : SlashingState) : RaisesAll s s := ⟨rfl, fun _ => Raises.refl _ _⟩

theorem trans {s s' s'' : SlashingState} (h : RaisesAll s s') (h' : RaisesAll s' s'') :
    RaisesAll s s'' where
  config := h'.config.trans h.config
  status w := by
    have h2 := h'.status w
    rw [h.config] at h2
    exact (h.status w).trans h2

/-- Writing a raised status for one validator raises them all. -/
theorem insert {s : SlashingState} {v : Pubkey} {st : ValidatorJailStatus}
    (h : Raises s.config.maxOffenses (s.statusOf v) st) :
    RaisesAll s { s with jailStatuses := s.jailStatuses.insert v st } where
  config := rfl
  status w := by
    rw [statusOf_insert]
    split_ifs with hw
    · rw [hw]
      exact h
    · exact Raises.refl _ _

end RaisesAll

theorem raisesAll_applyJail (s : SlashingState) (v : Pubkey) (duration : JailDuration)
    (currentEpoch : UInt64) : RaisesAll s (s.applyJail v duration currentEpoch) :=
  RaisesAll.insert (raises_jailStatus _ _ _ _ _)

theorem raisesAll_slashValidator (s : SlashingState) (v : Pubkey) (offense : SlashOffense)
    (ownStakeLamports currentEpoch : UInt64) :
    RaisesAll s (s.slashValidator v offense ownStakeLamports currentEpoch).1 := by
  unfold slashValidator
  dsimp only
  by_cases hb : (s.statusOf v).permanentlyBanned = true
  · rw [if_pos hb]
    exact RaisesAll.refl s
  · rw [if_neg hb]
    -- the count is written and the validator jailed at once; the jail is permanent as soon as
    -- the new count reaches `max_offenses`
    refine ⟨rfl, fun w => ?_⟩
    rw [statusOf_applyJail, statusOf_insert, statusOf_insert, if_pos rfl]
    by_cases hw : w = v
    · rw [if_pos hw, hw]
      exact raises_jailStatus_of_count _ _ _ fun hc => if_pos hc
    · rw [if_neg hw, if_neg hw]
      exact Raises.refl _ _

theorem raisesAll_checkOfflineStep (currentSlot currentEpoch : UInt64)
    (acc : SlashingState × List Pubkey) (entry : Pubkey × UInt64) :
    RaisesAll acc.1 (checkOfflineStep currentSlot currentEpoch acc entry).1 := by
  obtain ⟨node, lastSlot⟩ := entry
  -- recording the last vote slot changes no field that `Raises` reads
  have hseen : RaisesAll acc.1 { acc.1 with
      jailStatuses := acc.1.jailStatuses.insert node
        { acc.1.statusOf node with lastSeenSlot := lastSlot } } :=
    RaisesAll.insert ⟨id, id, Or.inl⟩
  unfold checkOfflineStep
  dsimp only
  split_ifs
  · exact hseen
  · exact hseen.trans (raisesAll_applyJail _ _ _ _)
  · exact hseen

theorem raisesAll_checkOfflineValidators (s : SlashingState)
    (lastVoteSlots : List (Pubkey × UInt64)) (currentSlot currentEpoch : UInt64) :
    RaisesAll s (s.checkOfflineValidators lastVoteSlots currentSlot currentEpoch).1 := by
  unfold checkOfflineValidators
  -- the loop raises every status at each entry, from whatever it has jailed so far
  suffices h : ∀ acc : SlashingState × List Pubkey,
      RaisesAll acc.1 (lastVoteSlots.foldl (checkOfflineStep currentSlot currentEpoch) acc).1 from
    h (s, [])
  induction lastVoteSlots with
  | nil => exact fun acc => RaisesAll.refl acc.1
  | cons entry rest ih =>
    intro acc
    exact (raisesAll_checkOfflineStep currentSlot currentEpoch acc entry).trans (ih _)

/-- `unjail_validator` leaves the state alone, or releases a validator that is not banned and
whose jail epoch has come. -/
theorem unjailValidator_cases (s : SlashingState) (v : Pubkey) (currentEpoch : UInt64) :
    (s.unjailValidator v currentEpoch).1 = s ∨
      (s.statusOf v).permanentlyBanned = false ∧
        (s.statusOf v).jailUntilEpoch ≤ currentEpoch ∧
        (s.unjailValidator v currentEpoch).1 = { s with
          jailStatuses := s.jailStatuses.insert v { s.statusOf v with isJailed := false } } := by
  unfold unjailValidator
  split
  · exact Or.inl rfl
  · rename_i st hst
    have hstatus : s.statusOf v = st := by rw [statusOf, hst, Option.getD_some]
    split_ifs with hb he
    · exact Or.inl rfl
    · exact Or.inl rfl
    · rw [hstatus]
      exact Or.inr ⟨Bool.eq_false_iff.mpr hb, UInt64.not_lt.mp he, rfl⟩

theorem config_apply (s : SlashingState) (op : SlashingOp) : (apply s op).config = s.config := by
  cases op with
  | slashValidator v offense ownStake epoch => exact (raisesAll_slashValidator _ _ _ _ _).config
  | jailValidator v duration epoch => rfl
  | unjailValidator v epoch =>
    show (s.unjailValidator v epoch).1.config = s.config
    rcases unjailValidator_cases s v epoch with h | ⟨-, -, h⟩
    · rw [h]
    · rw [h]
  | checkOfflineValidators slots slot epoch =>
    exact (raisesAll_checkOfflineValidators _ _ _ _).config

/-- Every operation raises the status of every validator, except `unjail_validator` releasing a
validator that is not banned and whose jail epoch has come. -/
theorem apply_status (s : SlashingState) (op : SlashingOp) (w : Pubkey) :
    Raises s.config.maxOffenses (s.statusOf w) ((apply s op).statusOf w) ∨
      ∃ epoch, op = .unjailValidator w epoch ∧ (s.statusOf w).permanentlyBanned = false ∧
        (s.statusOf w).jailUntilEpoch ≤ epoch ∧
        (apply s op).statusOf w = { s.statusOf w with isJailed := false } := by
  cases op with
  | slashValidator v offense ownStake epoch =>
    exact Or.inl ((raisesAll_slashValidator _ _ _ _ _).status w)
  | jailValidator v duration epoch => exact Or.inl ((raisesAll_applyJail _ _ _ _).status w)
  | unjailValidator v epoch =>
    have happly : apply s (.unjailValidator v epoch) = (s.unjailValidator v epoch).1 := rfl
    rw [happly]
    rcases unjailValidator_cases s v epoch with h | ⟨hb, he, h⟩
    · rw [h]
      exact Or.inl (Raises.refl _ _)
    · rw [h, statusOf_insert]
      by_cases hw : w = v
      · -- the one release the model allows
        rw [if_pos hw, hw]
        exact Or.inr ⟨epoch, rfl, hb, he, rfl⟩
      · rw [if_neg hw]
        exact Or.inl (Raises.refl _ _)
  | checkOfflineValidators slots slot epoch =>
    exact Or.inl ((raisesAll_checkOfflineValidators _ _ _ _).status w)

/-! ## Runs -/

theorem config_run (s : SlashingState) (ops : List SlashingOp) : (run s ops).config = s.config := by
  induction ops generalizing s with
  | nil => rfl
  | cons op rest ih => rw [run_cons, ih, config_apply]

/-- A ban is never lifted. -/
theorem banned_apply {s : SlashingState} (op : SlashingOp) {v : Pubkey}
    (h : (s.statusOf v).permanentlyBanned = true) :
    ((apply s op).statusOf v).permanentlyBanned = true := by
  rcases apply_status s op v with hr | ⟨_, -, hb, -, -⟩
  · exact hr.banned h
  · exact Bool.noConfusion (h.symm.trans hb)

theorem banned_run {s : SlashingState} (ops : List SlashingOp) {v : Pubkey}
    (h : (s.statusOf v).permanentlyBanned = true) :
    ((run s ops).statusOf v).permanentlyBanned = true := by
  induction ops generalizing s with
  | nil => exact h
  | cons op rest ih => exact ih (banned_apply op h)

/-- A banned validator is in `jailed_set`, cannot be unjailed, and is slashed no more. -/
theorem banned_final {s : SlashingState} {v : Pubkey}
    (h : (s.statusOf v).permanentlyBanned = true) :
    v ∈ s.jailedSet ∧ ∀ (offense : SlashOffense) (ownStakeLamports currentEpoch : UInt64),
      (s.unjailValidator v currentEpoch).2 = false ∧
        (s.slashValidator v offense ownStakeLamports currentEpoch).2 = none := by
  refine ⟨?_, fun offense ownStakeLamports currentEpoch => ⟨?_, ?_⟩⟩
  · rw [mem_jailedSet, isJailedOrBanned_eq, h, Bool.or_true]
  · unfold unjailValidator
    rw [lookup_of_banned h]
    dsimp only
    rw [if_pos h]
  · unfold slashValidator
    dsimp only
    rw [if_pos h]

/-- The invariant that every validator whose offense count has reached `max_offenses` is banned. -/
def BannedAtMax (s : SlashingState) : Prop :=
  ∀ v, s.config.maxOffenses ≤ (s.statusOf v).offenseCount →
    (s.statusOf v).permanentlyBanned = true

/-- It holds of an empty map when `max_offenses` is at least one. -/
theorem bannedAtMax_empty (config : SlashingConfig) (h : 1 ≤ config.maxOffenses) :
    BannedAtMax ⟨config, ∅⟩ := by
  intro v hc
  -- every status is the default one, with no offense
  have hzero : config.maxOffenses ≤ 0 := hc
  exact absurd (UInt8.le_trans h hzero) (by decide)

theorem BannedAtMax.apply {s : SlashingState} (h : BannedAtMax s) (op : SlashingOp) :
    BannedAtMax (apply s op) := by
  intro v hc
  rw [config_apply] at hc
  rcases apply_status s op v with hr | ⟨_, -, -, -, hst⟩
  · rcases hr.count hc with hc' | hb
    · exact hr.banned (h v hc')
    · exact hb
  · -- a release keeps the count and the ban
    rw [hst] at hc ⊢
    exact h v hc

theorem BannedAtMax.run {s : SlashingState} (h : BannedAtMax s) (ops : List SlashingOp) :
    BannedAtMax (run s ops) := by
  induction ops generalizing s with
  | nil => exact h
  | cons op rest ih => exact ih (h.apply op)

/-- A jailed validator is released only by `unjail_validator`, at an epoch from its jail epoch
on. -/
theorem unjailed_only_by_unjail {s : SlashingState} {op : SlashingOp} {v : Pubkey}
    (hj : (s.statusOf v).isJailed = true) (hj' : ((apply s op).statusOf v).isJailed = false) :
    ∃ epoch, op = .unjailValidator v epoch ∧ (s.statusOf v).jailUntilEpoch ≤ epoch := by
  rcases apply_status s op v with hr | ⟨epoch, hop, -, he, -⟩
  · exact Bool.noConfusion ((hr.jailed hj).symm.trans hj')
  · exact ⟨epoch, hop, he⟩

/-- The slashing state machine, over every sequence of operations, whatever its epochs: a ban
is final, and the validator stays in `jailed_set` with every later unjail refused and slash
skipped; from `SlashingState::new()` or any other config with `max_offenses ≥ 1`, a validator
whose offense count has reached `max_offenses` is banned; and a jailed validator is released
only by `unjail_validator` at an epoch from its `jail_until_epoch` on. -/
theorem slashing_invariants :
    (∀ (s : SlashingState) (ops : List SlashingOp) (v : Pubkey),
      (s.statusOf v).permanentlyBanned = true →
        ((run s ops).statusOf v).permanentlyBanned = true ∧ v ∈ (run s ops).jailedSet ∧
          ∀ (offense : SlashOffense) (ownStakeLamports currentEpoch : UInt64),
            ((run s ops).unjailValidator v currentEpoch).2 = false ∧
              ((run s ops).slashValidator v offense ownStakeLamports currentEpoch).2 = none) ∧
    (∀ config : SlashingConfig, 1 ≤ config.maxOffenses →
      ∀ (ops : List SlashingOp) (v : Pubkey),
        config.maxOffenses ≤ ((run ⟨config, ∅⟩ ops).statusOf v).offenseCount →
          ((run ⟨config, ∅⟩ ops).statusOf v).permanentlyBanned = true) ∧
    ∀ (s : SlashingState) (op : SlashingOp) (v : Pubkey),
      (s.statusOf v).isJailed = true → ((apply s op).statusOf v).isJailed = false →
        ∃ epoch, op = .unjailValidator v epoch ∧ (s.statusOf v).jailUntilEpoch ≤ epoch := by
  refine ⟨fun s ops v h => ?_, fun config hmax ops v hc => ?_,
    fun s op v hj hj' => unjailed_only_by_unjail hj hj'⟩
  · have hrun := banned_run ops h
    exact ⟨hrun, banned_final hrun⟩
  · -- the config is never changed, so the invariant speaks of this `max_offenses`
    have hcfg : (run ⟨config, ∅⟩ ops).config = config := config_run _ ops
    exact (bannedAtMax_empty config hmax).run ops v (by rwa [hcfg])

/-- A validator identity for the runs below. -/
def someValidator : Pubkey := ⟨7⟩

/-- Three double signs in a row, one epoch apart. -/
def threeDoubleSigns : List SlashingOp :=
  [.slashValidator someValidator .doubleSigning 1000000 10,
    .slashValidator someValidator .doubleSigning 1000000 11,
    .slashValidator someValidator .doubleSigning 1000000 12]

/-- The validator banned at genesis. -/
def bannedState : SlashingState := SlashingState.new.jailValidator someValidator .permanent 0

/-- The validator jailed at genesis for a first offense, until epoch 4. -/
def jailedState : SlashingState := SlashingState.new.jailValidator someValidator .first 0

theorem slashing_invariants_on_one_validator :
    ((run bannedState [.unjailValidator someValidator 9]).statusOf
        someValidator).permanentlyBanned = true ∧
      ((run ⟨SlashingConfig.default, ∅⟩ threeDoubleSigns).statusOf
        someValidator).permanentlyBanned = true ∧
      ∃ epoch,
        SlashingOp.unjailValidator someValidator 4 = .unjailValidator someValidator epoch ∧
        (jailedState.statusOf someValidator).jailUntilEpoch ≤ epoch := by
  have hbanned : (bannedState.statusOf someValidator).permanentlyBanned = true := by decide
  have hmax : 1 ≤ SlashingConfig.default.maxOffenses := by decide
  have hcount : SlashingConfig.default.maxOffenses ≤
      ((run ⟨SlashingConfig.default, ∅⟩ threeDoubleSigns).statusOf
        someValidator).offenseCount := by
    decide
  have hjailed : (jailedState.statusOf someValidator).isJailed = true := by decide
  have hreleased : ((apply jailedState (.unjailValidator someValidator 4)).statusOf
      someValidator).isJailed = false := by
    decide
  exact ⟨(slashing_invariants.1 bannedState _ someValidator hbanned).1,
    slashing_invariants.2.1 _ hmax threeDoubleSigns someValidator hcount,
    slashing_invariants.2.2 jailedState _ someValidator hjailed hreleased⟩

end TRv1.Runtime.Slashing
