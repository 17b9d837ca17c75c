import TRv1.Votor.ParentReadyTracker
import Mathlib

/-!
# What the parent-ready tracker's updates do

The tracker's two updates only ever add: `add_new_notar_fallback_or_stronger` records a certified
block and pushes it forward as a ready parent, `add_new_skip` records a skip certificate and
passes the parents of the slot before it on. This module states each loop of
`parent_ready_tracker.rs` by what it adds, as an `Extends` record, and composes the records along
the loops; the run invariant of `ParentReady` is then read off these records, never off the
loops themselves.

* `Extends t t' S C P events`: `t'` is `t` with the skip-certified slots `S`, the certified blocks
  `C` and the ready parents `P` added, and `events` announces each new ready parent of a slot
  that starts a leader window, once. `Extends.trans` composes two of them.
* `propagateParent_extends`, `addParents_extends`: the loops, by induction on the fuel and on
  the slots; `mem_futureSlots` says which slots the skip loops reach, with the skip-certified
  slots still ahead as the measure the fuel exceeds.
* `addNewNotarFallbackOrStronger_extends`, `addNewSkip_extends`: the two updates, for slots above
  the root and below `u64::MAX`.
* `HighestOk`: `highest_with_parent_ready` is the largest slot with a ready parent; every update
  keeps it.
-/

set_option autoImplicit false

namespace TRv1.Votor

namespace ParentReadyTracker

variable {t : ParentReadyTracker}

/-! ## The status map -/

theorem lookup_filter_ne {l : List (Slot × ParentReadyStatus)} {s s' : Slot} (h : s' ≠ s) :
    (l.filter (·.1 != s)).lookup s' = l.lookup s' := by
  induction l with
  | nil => rfl
  | cons p rest ih =>
    obtain ⟨x, st⟩ := p
    by_cases hx : x = s
    · subst hx
      have hne : (s' == x) = false := by simpa using h
      simp [List.lookup_cons, hne, ih]
    · by_cases hx' : s' = x
      · subst hx'
        simp [hx]
      · have hne : (s' == x) = false := by simpa using hx'
        simp [List.lookup_cons, hx, hne, ih]

@[simp] theorem status?_setStatus (s : Slot) (status : ParentReadyStatus) (s' : Slot) :
    (t.setStatus s status).status? s' = if s' = s then some status else t.status? s' := by
  unfold setStatus status?
  split_ifs with h
  · subst h
    simp
  · have hne : (s' == s) = false := by simpa using h
    simp only [List.lookup_cons, hne]
    exact lookup_filter_ne h

@[simp] theorem statusAt_setStatus (s : Slot) (status : ParentReadyStatus) (s' : Slot) :
    (t.setStatus s status).statusAt s' = if s' = s then status else t.statusAt s' := by
  unfold statusAt
  rw [status?_setStatus]
  split_ifs <;> rfl

@[simp] theorem root_setStatus (s : Slot) (status : ParentReadyStatus) :
    (t.setStatus s status).root = t.root := rfl

@[simp] theorem highestWithParentReady_setStatus (s : Slot) (status : ParentReadyStatus) :
    (t.setStatus s status).highestWithParentReady = t.highestWithParentReady := rfl

/-- A part of the statuses that the new status of `s` keeps is unchanged at every slot. -/
theorem field_setStatus {α : Type} (f : ParentReadyStatus → α) {s : Slot}
    {status : ParentReadyStatus} (hf : f status = f (t.statusAt s)) (s' : Slot) :
    f ((t.setStatus s status).statusAt s') = f (t.statusAt s') := by
  rw [statusAt_setStatus]
  split_ifs with h
  · subst h
    exact hf
  · rfl

theorem statusAt_of_status?_none {s : Slot} (h : t.status? s = none) :
    t.statusAt s = ParentReadyStatus.empty := by
  unfold statusAt
  rw [h]
  rfl

theorem statusAt_of_status?_some {s : Slot} {status : ParentReadyStatus}
    (h : t.status? s = some status) : t.statusAt s = status := by
  unfold statusAt
  rw [h]
  rfl

theorem skipAt_eq (s : Slot) : t.skipAt s = (t.statusAt s).skip := by
  unfold skipAt statusAt
  cases t.status? s <;> rfl

/-- A slot with a skip certificate has an entry. -/
theorem mem_slots_of_skipAt {s : Slot} (h : t.skipAt s = true) :
    s ∈ t.slotStatuses.map Prod.fst := by
  unfold skipAt status? at h
  cases hl : t.slotStatuses.lookup s with
  | none =>
    rw [hl] at h
    cases h
  | some st =>
    obtain ⟨p, hp, hps⟩ := List.lookup_isSome_iff.mp (by rw [hl]; rfl)
    rw [beq_iff_eq] at hps
    exact List.mem_map.mpr ⟨p, hp, hps.symm⟩

/-! ## What an update adds

Every operation of the tracker only adds: skip certificates, certified blocks and ready parents.
`Extends t t' S C P events` says that `t'` is `t` with the skip-certified slots `S`, the certified
blocks `C` and the ready parents `P` added, and that `events` announces each ready parent that is
new, at the first slot of a leader window, once. The loops compose it by `Extends.trans`. -/

/-- `t'` is `t` with the skip certificates `S`, the certified blocks `C` and the ready parents
`P` added, and `events` announces the new ready parents. -/
structure Extends (t t' : ParentReadyTracker) (S : Slot → Prop) (C : Block → Prop)
    (P : Slot → Block → Prop) (events : List VotorEvent) : Prop where
  root : t'.root = t.root
  skip : ∀ s, (t'.statusAt s).skip = true ↔ (t.statusAt s).skip = true ∨ S s
  notarFallbacks : ∀ s b, b ∈ (t'.statusAt s).notarFallbacks ↔
    b ∈ (t.statusAt s).notarFallbacks ∨ C b ∧ b.1 = s
  parentsReady : ∀ s b, b ∈ (t'.statusAt s).parentsReady ↔
    b ∈ (t.statusAt s).parentsReady ∨ P s b
  announced : ∀ e, e ∈ events ↔ ∃ s b, e = .parentReady s b ∧ P s b ∧
    b ∉ (t.statusAt s).parentsReady ∧ s % numConsecutiveLeaderSlots = 0
  nodup : events.Nodup
  /-- No block is recorded twice in a slot: the bound that the `assert!` checks counts blocks. -/
  notarNodup : (∀ s, (t.statusAt s).notarFallbacks.Nodup) →
    ∀ s, (t'.statusAt s).notarFallbacks.Nodup

namespace Extends

variable {t₁ t₂ : ParentReadyTracker} {S S' : Slot → Prop} {C C' : Block → Prop}
  {P Q : Slot → Block → Prop} {events events' : List VotorEvent}

theorem refl (t : ParentReadyTracker) :
    Extends t t (fun _ => False) (fun _ => False) (fun _ _ => False) [] where
  root := rfl
  skip _ := by rw [or_false]
  notarFallbacks _ _ := by simp
  parentsReady _ _ := by rw [or_false]
  announced _ := by simp
  nodup := List.nodup_nil
  notarNodup := id

theorem congr (h : Extends t t₁ S C P events) (hS : ∀ s, S s ↔ S' s) (hC : ∀ b, C b ↔ C' b)
    (hP : ∀ s b, P s b ↔ Q s b) : Extends t t₁ S' C' Q events where
  root := h.root
  skip s := by rw [h.skip, hS]
  notarFallbacks s b := by rw [h.notarFallbacks, hC]
  parentsReady s b := by rw [h.parentsReady, hP]
  announced e := by
    rw [h.announced]
    simp only [hP]
  nodup := h.nodup
  notarNodup := h.notarNodup

/-- Two updates one after the other add what each adds; a ready parent that the first added is
not announced again. -/
theorem trans (h₁ : Extends t t₁ S C P events) (h₂ : Extends t₁ t₂ S' C' Q events') :
    Extends t t₂ (fun s => S s ∨ S' s) (fun b => C b ∨ C' b) (fun s b => P s b ∨ Q s b)
      (events ++ events') where
  root := h₂.root.trans h₁.root
  skip s := by rw [h₂.skip, h₁.skip, or_assoc]
  notarFallbacks s b := by rw [h₂.notarFallbacks, h₁.notarFallbacks, or_assoc, or_and_right]
  parentsReady s b := by rw [h₂.parentsReady, h₁.parentsReady, or_assoc]
  announced e := by
    rw [List.mem_append, h₁.announced, h₂.announced]
    constructor
    · rintro (⟨s, b, rfl, hP, hnew, hs⟩ | ⟨s, b, rfl, hQ, hnew, hs⟩)
      · exact ⟨s, b, rfl, .inl hP, hnew, hs⟩
      · rw [h₁.parentsReady, not_or] at hnew
        exact ⟨s, b, rfl, .inr hQ, hnew.1, hs⟩
    · rintro ⟨s, b, rfl, hPQ, hnew, hs⟩
      by_cases hP : P s b
      · exact .inl ⟨s, b, rfl, hP, hnew, hs⟩
      · refine .inr ⟨s, b, rfl, hPQ.resolve_left hP, ?_, hs⟩
        rw [h₁.parentsReady, not_or]
        exact ⟨hnew, hP⟩
  nodup := by
    refine h₁.nodup.append h₂.nodup fun e he he' => ?_
    obtain ⟨s, b, rfl, hP, -, -⟩ := (h₁.announced _).mp he
    obtain ⟨s', b', heq, -, hnew, -⟩ := (h₂.announced _).mp he'
    cases heq
    exact hnew ((h₁.parentsReady s b).mpr (.inr hP))
  notarNodup := h₂.notarNodup ∘ h₁.notarNodup

/-- Raising `highest_with_parent_ready` changes no status. -/
theorem setHighest (t : ParentReadyTracker) (h : Slot) :
    Extends t { t with highestWithParentReady := h } (fun _ => False) (fun _ => False)
      (fun _ _ => False) [] where
  root := rfl
  skip _ := by rw [or_false]; rfl
  notarFallbacks _ _ := by rw [false_and, or_false]; rfl
  parentsReady _ _ := by rw [or_false]; rfl
  announced _ := by simp
  nodup := List.nodup_nil
  notarNodup := id

/-- An update that adds no skip certificate leaves the skip test of every slot as it was. -/
theorem skipAt (h : Extends t t₁ (fun _ => False) C P events) (s : Slot) :
    t₁.skipAt s = t.skipAt s := by
  rw [skipAt_eq, skipAt_eq, Bool.eq_iff_iff, h.skip, or_false]

end Extends

/-! ## The updates of `add_new_notar_fallback_or_stronger` and `add_new_skip` -/

theorem addParentAt_extends (block : Block) (s : Slot) (t : ParentReadyTracker) :
    Extends t (t.addParentAt block s).1 (fun _ => False) (fun _ => False)
      (fun s' b => s' = s ∧ b = block) (t.addParentAt block s).2 := by
  unfold addParentAt
  dsimp only
  by_cases hmem : block ∈ (t.statusAt s).parentsReady
  · -- already a ready parent: nothing changes and nothing is announced
    rw [if_pos hmem]
    refine ⟨rfl, fun _ => by rw [or_false], fun _ _ => by simp, ?_, ?_, List.nodup_nil, id⟩
    · rintro s' b
      constructor
      · exact .inl
      · rintro (h | ⟨rfl, rfl⟩)
        · exact h
        · exact hmem
    · rintro e
      simp only [List.not_mem_nil, false_iff, not_exists, not_and]
      rintro s' b - ⟨rfl, rfl⟩ hnot
      exact absurd hmem hnot
  · rw [if_neg hmem]
    dsimp only
    refine ⟨rfl, ?_, ?_, ?_, ?_, ?_, fun h s' => ?_⟩
    · intro s'
      rw [or_false, field_setStatus ParentReadyStatus.skip]
      rfl
    · intro s' b
      rw [field_setStatus ParentReadyStatus.notarFallbacks]
      · simp
      · rfl
    · intro s' b
      rw [statusAt_setStatus]
      split_ifs with h
      · subst h
        simp
      · simp [h]
    · -- announced exactly when the slot starts a leader window
      intro e
      split_ifs with hs
      · simp only [List.mem_singleton]
        constructor
        · rintro rfl
          exact ⟨s, block, rfl, ⟨rfl, rfl⟩, hmem, hs⟩
        · rintro ⟨s', b, rfl, ⟨rfl, rfl⟩, -, -⟩
          rfl
      · simp only [List.not_mem_nil, false_iff, not_exists, not_and]
        rintro s' b - ⟨rfl, rfl⟩ - hs'
        exact hs hs'
    · split_ifs
      · exact List.nodup_singleton _
      · exact List.nodup_nil
    · rw [field_setStatus ParentReadyStatus.notarFallbacks]
      · exact h s'
      · rfl

@[simp] theorem addParentAt_highest (block : Block) (s : Slot) (t : ParentReadyTracker) :
    (t.addParentAt block s).1.highestWithParentReady = t.highestWithParentReady := by
  unfold addParentAt
  dsimp only
  split_ifs <;> rfl

theorem addParentsAt_extends (s : Slot) (parents : List Block) (t : ParentReadyTracker) :
    Extends t (addParentsAt s parents t).1 (fun _ => False) (fun _ => False)
      (fun s' b => s' = s ∧ b ∈ parents) (addParentsAt s parents t).2 := by
  induction parents generalizing t with
  | nil => exact (Extends.refl t).congr (fun _ => Iff.rfl) (fun _ => Iff.rfl) fun _ _ => by simp
  | cons block rest ih =>
    simp only [addParentsAt]
    refine ((addParentAt_extends block s t).trans (ih _)).congr (fun _ => or_self_iff)
      (fun _ => or_self_iff) fun s' b => ?_
    simp only [List.mem_cons]
    constructor
    · rintro (⟨rfl, rfl⟩ | ⟨rfl, hb⟩)
      · exact ⟨rfl, .inl rfl⟩
      · exact ⟨rfl, .inr hb⟩
    · rintro ⟨rfl, rfl | hb⟩
      · exact .inl ⟨rfl, rfl⟩
      · exact .inr ⟨rfl, hb⟩

@[simp] theorem addParentsAt_highest (s : Slot) (parents : List Block) (t : ParentReadyTracker) :
    (addParentsAt s parents t).1.highestWithParentReady = t.highestWithParentReady := by
  induction parents generalizing t with
  | nil => rfl
  | cons block rest ih =>
    simp only [addParentsAt]
    rw [ih, addParentAt_highest]

theorem addParents_extends (parents : List Block) (slots : List Slot) (t : ParentReadyTracker) :
    Extends t (addParents parents slots t).1 (fun _ => False) (fun _ => False)
      (fun s b => s ∈ slots ∧ b ∈ parents) (addParents parents slots t).2 := by
  induction slots generalizing t with
  | nil => exact (Extends.refl t).congr (fun _ => Iff.rfl) (fun _ => Iff.rfl) fun _ _ => by simp
  | cons s rest ih =>
    simp only [addParents]
    refine ((addParentsAt_extends s parents t).trans ((Extends.setHighest _ _).trans
      (ih _))).congr (fun _ => by simp) (fun _ => by simp) fun s' b => ?_
    simp only [List.mem_cons, false_or]
    constructor
    · rintro (⟨rfl, hb⟩ | ⟨hs, hb⟩)
      · exact ⟨.inl rfl, hb⟩
      · exact ⟨.inr hs, hb⟩
    · rintro ⟨rfl | hs, hb⟩
      · exact .inl ⟨rfl, hb⟩
      · exact .inr ⟨hs, hb⟩

/-- The slots that `futureSlots` visits depend on the skip certificates only. -/
theorem futureSlots_congr {t' : ParentReadyTracker} (h : ∀ s, t'.skipAt s = t.skipAt s)
    (fuel : Nat) (s : Slot) : t'.futureSlots fuel s = t.futureSlots fuel s := by
  induction fuel generalizing s with
  | zero => rfl
  | succ fuel ih => simp only [futureSlots, h, ih]

/-- The highest-slot update of one step of `propagateParent` changes no status. -/
theorem extends_raiseIfNew (block : Block) (s : Slot) (t t₁ : ParentReadyTracker) :
    Extends t₁ (if block ∈ (t.statusAt s).parentsReady then t₁
      else { t₁ with highestWithParentReady := max s t₁.highestWithParentReady })
      (fun _ => False) (fun _ => False) (fun _ _ => False) [] := by
  split
  · exact Extends.refl t₁
  · exact Extends.setHighest t₁ _

/-- `propagateParent` makes `block` a ready parent of the slots that `futureSlots` visits with
the same fuel. -/
theorem propagateParent_extends (block : Block) (fuel : Nat) (s : Slot) (t : ParentReadyTracker) :
    Extends t (propagateParent block fuel s t).1 (fun _ => False) (fun _ => False)
      (fun s' b => s' ∈ t.futureSlots fuel s ∧ b = block) (propagateParent block fuel s t).2 := by
  induction fuel generalizing s t with
  | zero =>
    exact (Extends.refl t).congr (fun _ => Iff.rfl) (fun _ => Iff.rfl) fun _ _ => by
      simp [futureSlots]
  | succ fuel ih =>
    have hstep := ((addParentAt_extends block s t).trans
      (extends_raiseIfNew block s t _)).congr (fun _ => or_self_iff) (fun _ => or_self_iff)
      fun _ _ => (or_false _).to_iff
    rw [List.append_nil] at hstep
    simp only [propagateParent]
    cases hskip : (t.statusAt s).skip
    · -- the loop stops at the first slot without a skip certificate
      refine hstep.congr (fun _ => Iff.rfl) (fun _ => Iff.rfl) fun s' b => ?_
      simp [futureSlots, skipAt_eq, hskip]
    · -- a skip-certified slot passes `block` on to the next one
      refine (hstep.trans (ih _ _)).congr (fun _ => or_self_iff) (fun _ => or_self_iff)
        fun s' b => ?_
      rw [futureSlots_congr hstep.skipAt]
      simp [futureSlots, skipAt_eq, hskip, or_and_right]

/-! ## How far the skip loops run -/

/-- The skip-certified slots from `s` on: each step of the skip loops but the last is at one of
them. -/
def skipSlotsFrom (t : ParentReadyTracker) (s : Slot) : Finset Slot :=
  (t.slotStatuses.map Prod.fst).toFinset.filter fun x => s ≤ x ∧ t.skipAt x = true

theorem card_skipSlotsFrom_le (s : Slot) : (t.skipSlotsFrom s).card ≤ t.slotStatuses.length :=
  calc (t.skipSlotsFrom s).card
      ≤ (t.slotStatuses.map Prod.fst).toFinset.card := Finset.card_filter_le _ _
    _ ≤ (t.slotStatuses.map Prod.fst).length := List.toFinset_card_le _
    _ = t.slotStatuses.length := List.length_map _

theorem card_skipSlotsFrom_succ {s : Slot} (hskip : t.skipAt s = true) (hs : s < RustInt.u64Max) :
    (t.skipSlotsFrom (s + 1)).card < (t.skipSlotsFrom s).card := by
  have hsucc := RustInt.toNat_add_one_of_lt hs
  apply Finset.card_lt_card
  rw [Finset.ssubset_iff_of_subset]
  · refine ⟨s, ?_, ?_⟩
    · simp only [skipSlotsFrom, Finset.mem_filter, List.mem_toFinset]
      exact ⟨mem_slots_of_skipAt hskip, UInt64.le_refl s, hskip⟩
    · simp only [skipSlotsFrom, Finset.mem_filter, UInt64.le_iff_toNat_le, hsucc]
      omega
  · intro x hx
    simp only [skipSlotsFrom, Finset.mem_filter, UInt64.le_iff_toNat_le, hsucc] at hx ⊢
    exact ⟨hx.1, by omega, hx.2.2⟩

/-- With fuel for every skip-certified slot on the way, and no skip certificate at the last
slot, `futureSlots` visits the slots from `s` up to the first one without a skip certificate. -/
theorem mem_futureSlots (hmax : t.skipAt RustInt.u64Max = false) {fuel : Nat} {s : Slot}
    (hfuel : (t.skipSlotsFrom s).card < fuel) (x : Slot) :
    x ∈ t.futureSlots fuel s ↔ s ≤ x ∧ ∀ y, s ≤ y → y < x → t.skipAt y = true := by
  induction fuel generalizing s with
  | zero => omega
  | succ fuel ih =>
    unfold futureSlots
    cases hskip : t.skipAt s
    · -- the loop stops at `s`: a later slot would need `s` skip-certified
      simp only [if_false, Bool.false_eq_true, List.mem_singleton]
      constructor
      · rintro rfl
        exact ⟨UInt64.le_refl x, fun y hy hyx => absurd hyx (UInt64.not_lt.mpr hy)⟩
      · rintro ⟨hsx, hall⟩
        refine UInt64.le_antisymm (UInt64.not_lt.mp fun hlt => ?_) hsx
        have := hall s (UInt64.le_refl s) hlt
        rw [hskip] at this
        cases this
    · have hs : s < RustInt.u64Max := RustInt.lt_u64Max_of_ne fun h => by
        rw [h, hmax] at hskip
        cases hskip
      have hfuel' : (t.skipSlotsFrom (s + 1)).card < fuel := by
        have := card_skipSlotsFrom_succ hskip hs
        omega
      simp only [if_true, List.mem_cons, ih hfuel']
      constructor
      · rintro (rfl | ⟨hsx, hall⟩)
        · exact ⟨UInt64.le_refl x, fun y hy hyx => absurd hyx (UInt64.not_lt.mpr hy)⟩
        · refine ⟨UInt64.le_trans (RustInt.le_add_one_of_lt hs) hsx, fun y hy hyx => ?_⟩
          by_cases hys : y = s
          · rw [hys, hskip]
          · exact hall y (RustInt.add_one_le_of_lt (UInt64.lt_of_le_of_ne hy (Ne.symm hys))) hyx
      · rintro ⟨hsx, hall⟩
        by_cases hxs : x = s
        · exact .inl hxs
        · refine .inr ⟨RustInt.add_one_le_of_lt (UInt64.lt_of_le_of_ne hsx (Ne.symm hxs)),
            fun y hy hyx => hall y (UInt64.le_trans (RustInt.le_add_one_of_lt hs) hy) hyx⟩

/-- The slots after `slot` that the skip loops visit, when started at `slot + 1` with one step
more than there are statuses. -/
theorem mem_futureSlots_succ (hmax : t.skipAt RustInt.u64Max = false) {slot : Slot}
    (hslot : slot < RustInt.u64Max) (x : Slot) :
    x ∈ t.futureSlots (t.slotStatuses.length + 1) (RustInt.saturatingAdd slot 1) ↔
      slot < x ∧ ∀ y, slot < y → y < x → t.skipAt y = true := by
  have hfuel : (t.skipSlotsFrom (slot + 1)).card < t.slotStatuses.length + 1 :=
    Nat.lt_succ_of_le (card_skipSlotsFrom_le _)
  rw [RustInt.saturatingAdd_one_of_lt hslot, mem_futureSlots hmax hfuel,
    RustInt.add_one_le_iff hslot]
  simp only [RustInt.add_one_le_iff hslot]

/-! ## The two updates -/

/-- Recording a skip certificate at `x`. -/
theorem setSkip_extends (x : Slot) (t : ParentReadyTracker) :
    Extends t (t.setStatus x { t.statusAt x with skip := true }) (· = x) (fun _ => False)
      (fun _ _ => False) [] where
  root := rfl
  skip s := by
    rw [statusAt_setStatus]
    split_ifs with h
    · simp [h]
    · simp [h]
  notarFallbacks s b := by
    rw [field_setStatus ParentReadyStatus.notarFallbacks, false_and, or_false]
    rfl
  parentsReady s b := by
    rw [field_setStatus ParentReadyStatus.parentsReady, or_false]
    rfl
  announced _ := by simp
  nodup := List.nodup_nil
  notarNodup h s := by
    rw [field_setStatus ParentReadyStatus.notarFallbacks]
    · exact h s
    · rfl

/-- Recording `block`, not recorded yet, as certified in its slot. -/
theorem setCertified_extends (block : Block) (t : ParentReadyTracker)
    (hnew : block ∉ (t.statusAt block.1).notarFallbacks) :
    Extends t (t.setStatus block.1 { t.statusAt block.1 with
      notarFallbacks := (t.statusAt block.1).notarFallbacks ++ [block] })
      (fun _ => False) (· = block) (fun _ _ => False) [] where
  root := rfl
  skip s := by
    rw [field_setStatus ParentReadyStatus.skip, or_false]
    rfl
  notarFallbacks s b := by
    rw [statusAt_setStatus]
    split_ifs with h
    · subst h
      rw [List.mem_append, List.mem_singleton]
      exact or_congr_right ⟨fun hb => ⟨hb, hb ▸ rfl⟩, And.left⟩
    · constructor
      · exact .inl
      · rintro (hb | ⟨rfl, hs⟩)
        · exact hb
        · exact absurd hs.symm h
  parentsReady s b := by
    rw [field_setStatus ParentReadyStatus.parentsReady, or_false]
    rfl
  announced _ := by simp
  nodup := List.nodup_nil
  notarNodup h s := by
    rw [statusAt_setStatus]
    split_ifs with hs
    · exact (h block.1).append (List.nodup_singleton block) fun b hb hb' =>
        hnew (List.mem_singleton.mp hb' ▸ hb)
    · exact h s

/-- The parents that a skip certificate at `x` passes on, read off the status of `x - 1`. -/
theorem mem_passedParents (st : ParentReadyStatus) (b : Block) :
    b ∈ st.notarFallbacks ++ (if st.skip then st.parentsReady else []) ↔
      b ∈ st.notarFallbacks ∨ st.skip = true ∧ b ∈ st.parentsReady := by
  cases st.skip <;> simp

/-- `add_new_notar_fallback_or_stronger` for a block above the root and below `u64::MAX`, in a
slot with room for one more certified block: it does not abort, and a new certified block becomes
a ready parent of each later slot up to which every slot in between is skip-certified. -/
theorem addNewNotarFallbackOrStronger_extends (block : Block) (t : ParentReadyTracker)
    (hroot : t.root < block.1) (hblock : block.1 < RustInt.u64Max)
    (hmax : t.skipAt RustInt.u64Max = false)
    (hroom : block ∉ (t.statusAt block.1).notarFallbacks →
      (t.statusAt block.1).notarFallbacks.length < maxEntriesPerPubkeyForNotarizeLite) :
    ∃ r, t.addNewNotarFallbackOrStronger block = some r ∧ Extends t r.1 (fun _ => False)
      (fun b => b = block ∧ block ∉ (t.statusAt block.1).notarFallbacks)
      (fun s b => (b = block ∧ block ∉ (t.statusAt block.1).notarFallbacks) ∧
        block.1 < s ∧ ∀ y, block.1 < y → y < s → t.skipAt y = true) r.2 := by
  unfold addNewNotarFallbackOrStronger
  dsimp only
  rw [if_neg (UInt64.not_le.mpr hroot)]
  by_cases hnf : block ∈ (t.statusAt block.1).notarFallbacks
  · -- certified already: nothing changes
    rw [if_pos hnf]
    refine ⟨_, rfl, ?_⟩
    exact (Extends.refl t).congr (fun _ => Iff.rfl) (fun b => by simp [hnf]) fun s b => by
      simp [hnf]
  · have hlen : ((t.statusAt block.1).notarFallbacks ++ [block]).length ≤
        maxEntriesPerPubkeyForNotarizeLite := by
      rw [List.length_append, List.length_singleton]
      exact hroom hnf
    rw [if_neg hnf, if_pos hlen]
    refine ⟨_, rfl, ?_⟩
    have h₁ := setCertified_extends block t hnf
    refine (h₁.trans (propagateParent_extends block _ _ _)).congr (fun _ => or_self_iff)
      (fun b => by simp [hnf]) fun s b => ?_
    rw [mem_futureSlots_succ ((h₁.skipAt _).trans hmax) hblock]
    simp only [h₁.skipAt, false_or, hnf, not_false_eq_true, and_true]
    exact and_comm

/-- `add_new_skip` for a slot `x` above the root and below `u64::MAX`: the parents that `x`
passes on (the certified blocks of `x - 1`, and its ready parents if `x - 1` is skip-certified)
become ready parents of each later slot up to which every slot in between is skip-certified. -/
theorem addNewSkip_extends (x : Slot) (t : ParentReadyTracker) (hroot : t.root < x)
    (hx : x < RustInt.u64Max) (hmax : t.skipAt RustInt.u64Max = false) :
    Extends t (t.addNewSkip x).1 (· = x) (fun _ => False)
      (fun s b => (x < s ∧ ∀ y, x < y → y < s → t.skipAt y = true) ∧
        (b ∈ (t.statusAt (x - 1)).notarFallbacks ∨
          (t.statusAt (x - 1)).skip = true ∧ b ∈ (t.statusAt (x - 1)).parentsReady))
      (t.addNewSkip x).2 := by
  have hpos : 0 < x.toNat := by
    rw [UInt64.lt_iff_toNat_lt] at hroot
    omega
  have hsub : RustInt.saturatingSub x 1 = x - 1 := by
    unfold RustInt.saturatingSub
    rw [if_pos (by rw [UInt64.le_iff_toNat_le, UInt64.toNat_one]; omega)]
  have hne : x - 1 ≠ x := fun h => by
    have := congrArg UInt64.toNat h
    rw [UInt64.toNat_sub_of_le _ _ (by rw [UInt64.le_iff_toNat_le, UInt64.toNat_one]; omega),
      UInt64.toNat_one] at this
    omega
  have h₁ := setSkip_extends x t
  -- after recording `x`, the slots after `x` and the status of `x - 1` read as before
  have hskip₁ : ∀ y, x < y →
      (t.setStatus x { t.statusAt x with skip := true }).skipAt y = t.skipAt y := fun y hy => by
    rw [skipAt_eq, skipAt_eq, statusAt_setStatus, if_neg (UInt64.ne_of_lt hy).symm]
  have hprev : (t.setStatus x { t.statusAt x with skip := true }).statusAt (x - 1) =
      t.statusAt (x - 1) := by
    rw [statusAt_setStatus, if_neg hne]
  have hfuture : ∀ s, s ∈ (t.setStatus x { t.statusAt x with skip := true }).futureSlots
      ((t.setStatus x { t.statusAt x with skip := true }).slotStatuses.length + 1)
      (RustInt.saturatingAdd x 1) ↔ x < s ∧ ∀ y, x < y → y < s → t.skipAt y = true := by
    intro s
    rw [mem_futureSlots_succ ((hskip₁ _ hx).trans hmax) hx]
    exact and_congr_right fun _ => forall_congr' fun y => imp_congr_right fun hy => by
      rw [hskip₁ y hy]
  unfold addNewSkip
  dsimp only
  rw [if_neg (UInt64.not_le.mpr hroot), hsub]
  split
  · -- no status at `x - 1`: nothing to pass on
    rename_i hnone
    have hempty : t.statusAt (x - 1) = ParentReadyStatus.empty := by
      rw [← hprev]
      exact statusAt_of_status?_none hnone
    refine h₁.congr (fun _ => Iff.rfl) (fun _ => Iff.rfl) fun s b => ?_
    simp [hempty, ParentReadyStatus.empty]
  · rename_i previous hsome
    have hprevious : previous = t.statusAt (x - 1) := by
      rw [← hprev]
      exact (statusAt_of_status?_some hsome).symm
    subst hprevious
    by_cases hempty : ((t.statusAt (x - 1)).notarFallbacks ++
        if (t.statusAt (x - 1)).skip then (t.statusAt (x - 1)).parentsReady else []).isEmpty
    · -- nothing to pass on
      rw [if_pos hempty]
      refine h₁.congr (fun _ => Iff.rfl) (fun _ => Iff.rfl) fun s b => ?_
      rw [← mem_passedParents, List.isEmpty_iff.mp hempty]
      simp
    · rw [if_neg hempty]
      refine (h₁.trans (addParents_extends _ _ _)).congr (fun _ => (or_false _).to_iff)
        (fun _ => or_self_iff) fun s b => ?_
      rw [hfuture, mem_passedParents, false_or]

/-! ## The largest slot with a ready parent -/

/-- `highest_with_parent_ready` is the largest slot with a ready parent. -/
def HighestOk (t : ParentReadyTracker) : Prop :=
  (∀ s b, b ∈ (t.statusAt s).parentsReady → s ≤ t.highestWithParentReady) ∧
    (t.statusAt t.highestWithParentReady).parentsReady ≠ []

section HighestOk

variable {t' : ParentReadyTracker} {S : Slot → Prop} {C : Block → Prop}
  {P : Slot → Block → Prop} {events : List VotorEvent}

/-- Adding ready parents at `s` only, and raising `highest_with_parent_ready` to `s`, keeps it
the largest slot with a ready parent if `s` has one. -/
theorem HighestOk.raise {s : Slot} (hok : t.HighestOk) (h : Extends t t' S C P events)
    (hP : ∀ s' b, P s' b → s' = s) (hhigh : t'.highestWithParentReady = t.highestWithParentReady)
    (hs : (t'.statusAt s).parentsReady ≠ []) :
    HighestOk { t' with highestWithParentReady := max s t'.highestWithParentReady } := by
  have hgrow : ∀ s b, b ∈ (t.statusAt s).parentsReady → b ∈ (t'.statusAt s).parentsReady :=
    fun s b hb => (h.parentsReady s b).mpr (.inl hb)
  refine ⟨fun s' b hb => ?_, ?_⟩
  · change b ∈ (t'.statusAt s').parentsReady at hb
    rcases (h.parentsReady s' b).mp hb with hold | hnew
    · exact UInt64.le_trans (hhigh ▸ hok.1 s' b hold) (RustInt.le_max_right _ _)
    · exact hP s' b hnew ▸ RustInt.le_max_left _ _
  · change (t'.statusAt (max s t'.highestWithParentReady)).parentsReady ≠ []
    rcases RustInt.max_cases s t'.highestWithParentReady with hmax | hmax
    · rw [hmax]
      exact hs
    · rw [hmax, hhigh]
      obtain ⟨b, hb⟩ := List.exists_mem_of_ne_nil _ hok.2
      exact List.ne_nil_of_mem (hgrow _ b hb)

/-- Adding ready parents that are there already keeps `highest_with_parent_ready` right. -/
theorem HighestOk.of_extends_old (hok : t.HighestOk) (h : Extends t t' S C P events)
    (hP : ∀ s b, P s b → b ∈ (t.statusAt s).parentsReady)
    (hhigh : t'.highestWithParentReady = t.highestWithParentReady) : t'.HighestOk := by
  have hpr : ∀ s b, b ∈ (t'.statusAt s).parentsReady ↔ b ∈ (t.statusAt s).parentsReady :=
    fun s b => by
      rw [h.parentsReady]
      exact or_iff_left_of_imp (hP s b)
  refine ⟨fun s b hb => hhigh ▸ hok.1 s b ((hpr s b).mp hb), ?_⟩
  obtain ⟨b, hb⟩ := List.exists_mem_of_ne_nil _ hok.2
  exact List.ne_nil_of_mem ((hpr _ b).mpr (hhigh ▸ hb))

end HighestOk

/-- One step of `propagateParent` keeps `highest_with_parent_ready` the largest slot with a ready
parent. -/
theorem HighestOk.propagateStep (hok : t.HighestOk) (block : Block) (s : Slot) :
    HighestOk (if block ∈ (t.statusAt s).parentsReady then (addParentAt block s t).1
      else { (addParentAt block s t).1 with
        highestWithParentReady := max s (addParentAt block s t).1.highestWithParentReady }) := by
  split
  · refine hok.of_extends_old (addParentAt_extends block s t) ?_ (addParentAt_highest block s t)
    rintro s' b ⟨rfl, rfl⟩
    assumption
  · refine hok.raise (addParentAt_extends block s t) (fun _ _ h => h.1)
      (addParentAt_highest _ _ _) ?_
    exact List.ne_nil_of_mem (((addParentAt_extends block s t).parentsReady s block).mpr
      (.inr ⟨rfl, rfl⟩))

theorem HighestOk.propagateParent (hok : t.HighestOk) (block : Block) (fuel : Nat) (s : Slot) :
    (propagateParent block fuel s t).1.HighestOk := by
  induction fuel generalizing s t with
  | zero => exact hok
  | succ fuel ih =>
    simp only [ParentReadyTracker.propagateParent]
    cases (t.statusAt s).skip
    · exact hok.propagateStep block s
    · exact ih (hok.propagateStep block s) _

theorem HighestOk.addParents (hok : t.HighestOk) {parents : List Block} (hne : parents ≠ [])
    (slots : List Slot) : (addParents parents slots t).1.HighestOk := by
  induction slots generalizing t with
  | nil => exact hok
  | cons s rest ih =>
    simp only [ParentReadyTracker.addParents]
    obtain ⟨b, hb⟩ := List.exists_mem_of_ne_nil _ hne
    refine ih (hok.raise (addParentsAt_extends s parents t) (fun _ _ h => h.1)
      (addParentsAt_highest _ _ _) ?_)
    exact List.ne_nil_of_mem (((addParentsAt_extends s parents t).parentsReady s b).mpr
      (.inr ⟨rfl, hb⟩))

theorem HighestOk.addNewNotarFallbackOrStronger (hok : t.HighestOk) {block : Block}
    {r : ParentReadyTracker × List VotorEvent}
    (h : t.addNewNotarFallbackOrStronger block = some r) : r.1.HighestOk := by
  unfold ParentReadyTracker.addNewNotarFallbackOrStronger at h
  dsimp only at h
  split at h
  · cases h
    exact hok
  · split at h
    · cases h
      exact hok
    · rename_i hnf
      split at h
      · cases h
        refine HighestOk.propagateParent ?_ block _ _
        exact hok.of_extends_old (setCertified_extends block t hnf) (fun _ _ h => h.elim) rfl
      · cases h

theorem HighestOk.addNewSkip (hok : t.HighestOk) (x : Slot) : (t.addNewSkip x).1.HighestOk := by
  have hok₁ := hok.of_extends_old (setSkip_extends x t) (fun _ _ h => h.elim) rfl
  unfold ParentReadyTracker.addNewSkip
  dsimp only
  split
  · exact hok
  · split
    · exact hok₁
    · rename_i previous _
      by_cases hempty : (previous.notarFallbacks ++
          if previous.skip then previous.parentsReady else []).isEmpty
      · rw [if_pos hempty]
        exact hok₁
      · rw [if_neg hempty]
        exact hok₁.addParents (fun h => hempty (List.isEmpty_iff.mpr h)) _

end ParentReadyTracker

end TRv1.Votor
