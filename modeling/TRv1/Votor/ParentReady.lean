import TRv1.Votor.ParentReadySteps

/-!
# The parent-ready tracker meets the parent-ready condition

The module doc of `parent_ready_tracker.rs` defines the condition: a block `b` is a ready parent
of a slot `s` when `b` is notarized or notarized-fallback, `slot(b) < s`, and every slot strictly
between is skip-certified; the root block counts as certified (`IsCertified`,
`IsReadyParent`). This module proves that the tracker computes exactly this, whatever the order
in which it is told of the certificates (`insertAll`, a list of `CertEvent`s in any order).

* `Tracks root evs t events`: the run invariant. The statuses of `t` are the certificates `evs`
  and the ready parents they make, `highest_with_parent_ready` is the largest slot with a ready
  parent, and `events` announces each ready parent of a slot that starts a leader window once,
  but the root's for the slot after it: `ParentReadyTracker::new` records that one without an
  event.
* `isReadyParent_append_certified`, `isReadyParent_append_skipped`: what one more certificate
  adds to the condition; matched against what the updates add (`ParentReadySteps`) in
  `Tracks.insert`, and carried along the run in `tracks_insertAll`.
* `parentReady_matches_condition`: the run theorem, for a root and certificates below
  `u64::MAX` (the loops start at `slot.saturating_add(1)` and wrap at `u64::MAX`), with at most
  `MAX_ENTRIES_PER_PUBKEY_FOR_NOTARIZE_LITE` certified blocks in a slot (`certifiedAt`): then the
  `assert!` of `add_new_notar_fallback_or_stronger` never fires, since the blocks recorded in a
  slot are distinct and certified (`Tracks.room`).
* `rootChild_never_announced`: with the root at slot 3, slot 4 starts a leader window and has
  the root as a ready parent, but no `ParentReady` event for it is ever emitted.
-/

set_option autoImplicit false

namespace TRv1.Votor

open ParentReadyTracker

/-- A certificate the tracker is told of: a block with a notarize-fallback certificate or a
stronger one, or a skip certificate of a slot. -/
inductive CertEvent where
  | certified (block : Block)
  | skipped (slot : Slot)
  deriving DecidableEq, Repr

namespace CertEvent

/-- The slot of the certificate. -/
def slot : CertEvent → Slot
  | .certified block => block.1
  | .skipped slot => slot

/-- Telling the tracker of one certificate: `add_new_notar_fallback_or_stronger` or
`add_new_skip`; `none` when the first aborts. -/
def insert : CertEvent → ParentReadyTracker → Option (ParentReadyTracker × List VotorEvent)
  | .certified block, t => t.addNewNotarFallbackOrStronger block
  | .skipped slot, t => some (t.addNewSkip slot)

end CertEvent

/-- Telling the tracker of the certificates in the order of the list, collecting the events;
`none` when an update aborts. -/
def insertAll : List CertEvent → ParentReadyTracker → Option (ParentReadyTracker × List VotorEvent)
  | [], t => some (t, [])
  | e :: rest, t => do
    let (t₁, events) ← e.insert t
    let (t₂, events') ← insertAll rest t₁
    return (t₂, events ++ events')

/-! ## The parent-ready condition -/

/-- A block is certified when it is the root or has a certificate among `evs`. -/
def IsCertified (root : Block) (evs : List CertEvent) (b : Block) : Prop :=
  b = root ∨ CertEvent.certified b ∈ evs

/-- The module doc's condition: `b` is a ready parent of `s` when it is certified, `slot(b) < s`,
and every slot strictly between is skip-certified. -/
def IsReadyParent (root : Block) (evs : List CertEvent) (s : Slot) (b : Block) : Prop :=
  IsCertified root evs b ∧ b.1 < s ∧ ∀ y, b.1 < y → y < s → CertEvent.skipped y ∈ evs

/-- The blocks of slot `s` that the certificates `evs` certify. -/
def certifiedAt (evs : List CertEvent) (s : Slot) : Finset Block :=
  (evs.filterMap fun
    | .certified b => if b.1 = s then some b else none
    | .skipped _ => none).toFinset

section Abstract

variable {root : Block} {evs : List CertEvent}

theorem mem_certifiedAt {s : Slot} {b : Block} :
    b ∈ certifiedAt evs s ↔ CertEvent.certified b ∈ evs ∧ b.1 = s := by
  simp only [certifiedAt, List.mem_toFinset, List.mem_filterMap]
  constructor
  · rintro ⟨e, he, hb⟩
    cases e with
    | certified c =>
      dsimp only at hb
      split_ifs at hb with hs
      cases hb
      exact ⟨he, hs⟩
    | skipped _ => cases hb
  · rintro ⟨he, hs⟩
    exact ⟨_, he, if_pos hs⟩

theorem certifiedAt_mono {evs' : List CertEvent} (hsub : ∀ e ∈ evs, e ∈ evs') (s : Slot) :
    certifiedAt evs s ⊆ certifiedAt evs' s := fun _ hb =>
  mem_certifiedAt.mpr ⟨hsub _ (mem_certifiedAt.mp hb).1, (mem_certifiedAt.mp hb).2⟩

theorem IsReadyParent.mono {evs' : List CertEvent} (hsub : ∀ e ∈ evs, e ∈ evs') {s : Slot}
    {b : Block} (h : IsReadyParent root evs s b) : IsReadyParent root evs' s b := by
  obtain ⟨hc | hc, hbs, hgap⟩ := h
  · exact ⟨.inl hc, hbs, fun y h₁ h₂ => hsub _ (hgap y h₁ h₂)⟩
  · exact ⟨.inr (hsub _ hc), hbs, fun y h₁ h₂ => hsub _ (hgap y h₁ h₂)⟩

/-- The root is a ready parent of the slot after it. -/
theorem isReadyParent_root (hr : root.1 < RustInt.u64Max) :
    IsReadyParent root evs (root.1 + 1) root := by
  have hsucc := RustInt.toNat_add_one_of_lt hr
  refine ⟨.inl rfl, ?_, fun y h₁ h₂ => ?_⟩
  · rw [UInt64.lt_iff_toNat_lt, hsucc]
    omega
  · rw [UInt64.lt_iff_toNat_lt] at h₁ h₂
    omega

/-- With no certificate, the root is the only ready parent, of the slot after it. -/
theorem isReadyParent_nil_iff (hr : root.1 < RustInt.u64Max) (s : Slot) (b : Block) :
    IsReadyParent root [] s b ↔ s = root.1 + 1 ∧ b = root := by
  constructor
  · rintro ⟨hc, hbs, hgap⟩
    have hb : b = root := by simpa [IsCertified] using hc
    subst hb
    refine ⟨UInt64.le_antisymm ?_ (RustInt.add_one_le_of_lt hbs), rfl⟩
    refine UInt64.not_lt.mp fun hlt => ?_
    exact List.not_mem_nil (hgap (b.1 + 1) (RustInt.lt_add_one_of_lt hr) hlt)
  · rintro ⟨rfl, rfl⟩
    exact isReadyParent_root hr

/-- A new certified block `c` is a ready parent of each later slot up to which every slot in
between is skip-certified; nothing else changes. -/
theorem isReadyParent_append_certified (c : Block) (s : Slot) (b : Block) :
    IsReadyParent root (evs ++ [.certified c]) s b ↔ IsReadyParent root evs s b ∨
      b = c ∧ c.1 < s ∧ ∀ y, c.1 < y → y < s → CertEvent.skipped y ∈ evs := by
  have hskip : ∀ y, CertEvent.skipped y ∈ evs ++ [.certified c] ↔ CertEvent.skipped y ∈ evs := by
    simp
  have hcert : IsCertified root (evs ++ [.certified c]) b ↔ IsCertified root evs b ∨ b = c := by
    simp [IsCertified, or_assoc]
  simp only [IsReadyParent, hskip, hcert]
  constructor
  · rintro ⟨hc | rfl, hbs, hgap⟩
    · exact .inl ⟨hc, hbs, hgap⟩
    · exact .inr ⟨rfl, hbs, hgap⟩
  · rintro (⟨hc, hbs, hgap⟩ | ⟨rfl, hbs, hgap⟩)
    · exact ⟨.inl hc, hbs, hgap⟩
    · exact ⟨.inr rfl, hbs, hgap⟩

/-- A new skip certificate of `x` makes ready parents of the slots after `x`, up to which every
slot in between is skip-certified, out of the parents that `x` passes on: the certified blocks of
`x - 1`, and the ready parents of `x - 1` if `x - 1` is skip-certified. -/
theorem isReadyParent_append_skipped {x : Slot} (hx : 0 < x) (s : Slot) (b : Block) :
    IsReadyParent root (evs ++ [.skipped x]) s b ↔ IsReadyParent root evs s b ∨
      (x < s ∧ ∀ y, x < y → y < s → CertEvent.skipped y ∈ evs) ∧
        (IsCertified root evs b ∧ b.1 = x - 1 ∨
          CertEvent.skipped (x - 1) ∈ evs ∧ IsReadyParent root evs (x - 1) b) := by
  have hskip : ∀ y, CertEvent.skipped y ∈ evs ++ [.skipped x] ↔
      CertEvent.skipped y ∈ evs ∨ y = x := by
    simp
  have hcert : IsCertified root (evs ++ [.skipped x]) b ↔ IsCertified root evs b := by
    simp [IsCertified]
  have hx1 := RustInt.sub_one_lt hx
  rw [IsReadyParent, hcert]
  simp only [hskip]
  constructor
  · rintro ⟨hc, hbs, hgap⟩
    by_cases hin : b.1 < x ∧ x < s
    · -- the new certificate fills a gap between `b` and `s`
      obtain ⟨hbx, hxs⟩ := hin
      refine .inr ⟨⟨hxs, fun y hxy hys =>
        (hgap y (UInt64.lt_trans hbx hxy) hys).resolve_right (UInt64.ne_of_lt hxy).symm⟩, ?_⟩
      rcases RustInt.lt_sub_one_or_eq_or_lt hx b.1 with hb | hb | hb | hb
      · refine .inr ⟨(hgap _ hb (UInt64.lt_trans hx1 hxs)).resolve_right (UInt64.ne_of_lt hx1),
          hc, hb, fun y h₁ h₂ => ?_⟩
        exact (hgap y h₁ (UInt64.lt_trans h₂ (UInt64.lt_trans hx1 hxs))).resolve_right
          (UInt64.ne_of_lt (UInt64.lt_trans h₂ hx1))
      · exact .inl ⟨hc, hb⟩
      · exact absurd (hb ▸ hbx) (UInt64.lt_irrefl x)
      · exact absurd (UInt64.lt_trans hb hbx) (UInt64.lt_irrefl x)
    · -- no gap at `x`: `b` was a ready parent of `s` already
      refine .inl ⟨hc, hbs, fun y h₁ h₂ => (hgap y h₁ h₂).resolve_right ?_⟩
      rintro rfl
      exact hin ⟨h₁, h₂⟩
  · rintro (⟨hc, hbs, hgap⟩ | ⟨⟨hxs, hgap⟩, ⟨hc, hb⟩ | ⟨hskip₁, hc, hbx, hgap₁⟩⟩)
    · exact ⟨hc, hbs, fun y h₁ h₂ => .inl (hgap y h₁ h₂)⟩
    · -- `b` sits in `x - 1`: the slots after it are `x` and the ones after `x`
      refine ⟨hc, hb ▸ UInt64.lt_trans hx1 hxs, fun y h₁ h₂ => ?_⟩
      rw [hb] at h₁
      rcases RustInt.lt_sub_one_or_eq_or_lt hx y with hy | hy | hy | hy
      · exact absurd (UInt64.lt_trans hy h₁) (UInt64.lt_irrefl _)
      · exact absurd (hy ▸ h₁) (UInt64.lt_irrefl _)
      · exact .inr hy
      · exact .inl (hgap y hy h₂)
    · -- `b` is a ready parent of the skip-certified `x - 1`
      refine ⟨hc, UInt64.lt_trans hbx (UInt64.lt_trans hx1 hxs), fun y h₁ h₂ => ?_⟩
      rcases RustInt.lt_sub_one_or_eq_or_lt hx y with hy | hy | hy | hy
      · exact .inl (hgap₁ y h₁ hy)
      · exact .inl (hy ▸ hskip₁)
      · exact .inr hy
      · exact .inl (hgap y hy h₂)

end Abstract

/-! ## The run invariant -/

/-- After the certificates `evs`, the tracker's statuses are the certificates and the ready
parents they make, its highest slot is right, and `events` announces each ready parent of a slot
that starts a leader window once, but the one that `new` records without an event. -/
structure Tracks (root : Block) (evs : List CertEvent) (t : ParentReadyTracker)
    (events : List VotorEvent) : Prop where
  rootSlot : t.root = root.1
  skip : ∀ s, (t.statusAt s).skip = true ↔ CertEvent.skipped s ∈ evs
  notarFallbacks : ∀ s b, b ∈ (t.statusAt s).notarFallbacks ↔ IsCertified root evs b ∧ b.1 = s
  parentsReady : ∀ s b, b ∈ (t.statusAt s).parentsReady ↔ IsReadyParent root evs s b
  notarNodup : ∀ s, (t.statusAt s).notarFallbacks.Nodup
  highest : t.HighestOk
  nodup : events.Nodup
  announced : ∀ e, e ∈ events ↔ ∃ s b, e = .parentReady s b ∧ IsReadyParent root evs s b ∧
    s % numConsecutiveLeaderSlots = 0 ∧ (s, b) ≠ (root.1 + 1, root)

section Run

variable {root : Block}

theorem statusAt_new (hr : root.1 < RustInt.u64Max) (s : Slot) :
    (ParentReadyTracker.new root).statusAt s =
      if s = root.1 + 1 then ⟨false, [], [root]⟩
      else if s = root.1 then ⟨false, [root], []⟩ else ParentReadyStatus.empty := by
  rw [ParentReadyTracker.new]
  simp only [statusAt_setStatus, RustInt.saturatingAdd_one_of_lt hr]
  rfl

theorem tracks_new (hr : root.1 < RustInt.u64Max) :
    Tracks root [] (ParentReadyTracker.new root) [] := by
  have hne : root.1 ≠ root.1 + 1 := UInt64.ne_of_lt (RustInt.lt_add_one_of_lt hr)
  have hpr : ∀ s b, b ∈ ((ParentReadyTracker.new root).statusAt s).parentsReady ↔
      IsReadyParent root [] s b := by
    intro s b
    rw [statusAt_new hr, isReadyParent_nil_iff hr]
    split_ifs with h₁ h₂
    · simp [h₁]
    · simp [h₁]
    · simp [h₁, ParentReadyStatus.empty]
  refine ⟨rfl, fun s => ?_, fun s b => ?_, hpr, fun s => ?_, ⟨fun s b hb => ?_, ?_⟩,
    List.nodup_nil, fun e => ?_⟩
  · rw [statusAt_new hr]
    split_ifs <;> simp [ParentReadyStatus.empty]
  · rw [statusAt_new hr]
    simp only [IsCertified, List.not_mem_nil, or_false]
    split_ifs with h₁ h₂
    · simp only [List.not_mem_nil, false_iff, not_and]
      rintro rfl h
      exact hne (h.trans h₁)
    · subst h₂
      simp only [List.mem_singleton]
      exact ⟨fun hb => ⟨hb, hb ▸ rfl⟩, And.left⟩
    · simp only [ParentReadyStatus.empty, List.not_mem_nil, false_iff, not_and]
      rintro rfl h
      exact h₂ h.symm
  · rw [statusAt_new hr]
    split_ifs <;> simp [ParentReadyStatus.empty]
  · obtain ⟨rfl, -⟩ := (isReadyParent_nil_iff hr s b).mp ((hpr s b).mp hb)
    rw [ParentReadyTracker.new, highestWithParentReady_setStatus,
      highestWithParentReady_setStatus, RustInt.saturatingAdd_one_of_lt hr]
    exact UInt64.le_refl _
  · have hhigh : (ParentReadyTracker.new root).highestWithParentReady = root.1 + 1 := by
      rw [ParentReadyTracker.new, highestWithParentReady_setStatus,
        highestWithParentReady_setStatus, RustInt.saturatingAdd_one_of_lt hr]
    rw [hhigh]
    exact List.ne_nil_of_mem ((hpr _ root).mpr (isReadyParent_root hr))
  · simp only [List.not_mem_nil, false_iff, not_exists, not_and]
    intro s b _ hready _ hne'
    obtain ⟨rfl, rfl⟩ := (isReadyParent_nil_iff hr s b).mp hready
    exact hne' rfl

/-- An update that adds to the statuses what the certificates `evs'` add to the conditions of
`evs` keeps the invariant. -/
theorem Tracks.extend {evs evs' : List CertEvent} {t t' : ParentReadyTracker}
    {events events' : List VotorEvent} {S : Slot → Prop} {C : Block → Prop}
    {P : Slot → Block → Prop} (h : Tracks root evs t events) (hr : root.1 < RustInt.u64Max)
    (hext : Extends t t' S C P events')
    (hskip : ∀ s, CertEvent.skipped s ∈ evs' ↔ CertEvent.skipped s ∈ evs ∨ S s)
    (hcert : ∀ b, IsCertified root evs' b ↔ IsCertified root evs b ∨ C b)
    (hready : ∀ s b, IsReadyParent root evs' s b ↔ IsReadyParent root evs s b ∨ P s b)
    (hok : t'.HighestOk) : Tracks root evs' t' (events ++ events') where
  rootSlot := hext.root.trans h.rootSlot
  skip s := by rw [hext.skip, h.skip, hskip]
  notarFallbacks s b := by rw [hext.notarFallbacks, h.notarFallbacks, hcert, or_and_right]
  parentsReady s b := by rw [hext.parentsReady, h.parentsReady, hready]
  notarNodup := hext.notarNodup h.notarNodup
  highest := hok
  nodup := by
    refine h.nodup.append hext.nodup fun e he he' => ?_
    obtain ⟨s, b, rfl, hold, -, -⟩ := (h.announced _).mp he
    obtain ⟨s', b', heq, -, hnew, -⟩ := (hext.announced _).mp he'
    cases heq
    exact hnew ((h.parentsReady s b).mpr hold)
  announced e := by
    rw [List.mem_append, h.announced, hext.announced]
    constructor
    · rintro (⟨s, b, rfl, hold, hs, hroot⟩ | ⟨s, b, rfl, hP, hnew, hs⟩)
      · exact ⟨s, b, rfl, (hready s b).mpr (.inl hold), hs, hroot⟩
      · -- a new ready parent is not the root's, which `new` records
        refine ⟨s, b, rfl, (hready s b).mpr (.inr hP), hs, ?_⟩
        rintro ⟨rfl, rfl⟩
        exact hnew ((h.parentsReady _ _).mpr (isReadyParent_root hr))
    · rintro ⟨s, b, rfl, hnow, hs, hroot⟩
      by_cases hold : IsReadyParent root evs s b
      · exact .inl ⟨s, b, rfl, hold, hs, hroot⟩
      · refine .inr ⟨s, b, rfl, ((hready s b).mp hnow).resolve_left hold, ?_, hs⟩
        rwa [h.parentsReady]

/-- A slot above the root has room for a certified block that is new to it, as long as the slot
has at most `MAX_ENTRIES_PER_PUBKEY_FOR_NOTARIZE_LITE` certified blocks with it: the blocks
recorded in the slot are distinct, and each is certified. -/
theorem Tracks.room {evs : List CertEvent} {t : ParentReadyTracker} {events : List VotorEvent}
    (h : Tracks root evs t events) {c : Block} (hc : root.1 < c.1)
    (hlite : (certifiedAt (evs ++ [.certified c]) c.1).card ≤ maxEntriesPerPubkeyForNotarizeLite)
    (hnew : c ∉ (t.statusAt c.1).notarFallbacks) :
    (t.statusAt c.1).notarFallbacks.length < maxEntriesPerPubkeyForNotarizeLite := by
  have hsub : insert c (t.statusAt c.1).notarFallbacks.toFinset ⊆
      certifiedAt (evs ++ [.certified c]) c.1 := by
    intro b hb
    rw [Finset.mem_insert, List.mem_toFinset] at hb
    rw [mem_certifiedAt]
    rcases hb with rfl | hb
    · exact ⟨List.mem_append_right _ (List.mem_singleton_self _), rfl⟩
    · obtain ⟨hcert | hcert, hs⟩ := (h.notarFallbacks _ _).mp hb
      · -- the root sits in its own slot, below `c`'s
        subst hcert
        exact absurd (hs ▸ hc) (UInt64.lt_irrefl _)
      · exact ⟨List.mem_append_left _ hcert, hs⟩
  have hcard := Finset.card_le_card hsub
  rw [Finset.card_insert_of_notMem (by rwa [List.mem_toFinset]),
    List.toFinset_card_of_nodup (h.notarNodup _)] at hcard
  omega

/-- Telling the tracker of one certificate above the root and below `u64::MAX`, with at most
`MAX_ENTRIES_PER_PUBKEY_FOR_NOTARIZE_LITE` certified blocks in a slot, does not abort and keeps
the invariant. -/
theorem Tracks.insert {evs : List CertEvent} {t : ParentReadyTracker} {events : List VotorEvent}
    (h : Tracks root evs t events) (hr : root.1 < RustInt.u64Max)
    (hmax : CertEvent.skipped RustInt.u64Max ∉ evs) (e : CertEvent)
    (he : root.1 < e.slot ∧ e.slot < RustInt.u64Max)
    (hlite : ∀ s, (certifiedAt (evs ++ [e]) s).card ≤ maxEntriesPerPubkeyForNotarizeLite) :
    ∃ r, e.insert t = some r ∧ Tracks root (evs ++ [e]) r.1 (events ++ r.2) := by
  have hskipAt : ∀ y, t.skipAt y = true ↔ CertEvent.skipped y ∈ evs := fun y => by
    rw [skipAt_eq, h.skip]
  have hmax' : t.skipAt RustInt.u64Max = false :=
    Bool.eq_false_iff.mpr fun hm => hmax ((hskipAt _).mp hm)
  cases e with
  | certified c =>
    simp only [CertEvent.slot] at he
    have hcert : ∀ b, IsCertified root (evs ++ [.certified c]) b ↔
        IsCertified root evs b ∨ b = c := fun b => by
      simp [IsCertified, or_assoc]
    obtain ⟨r, hins, hext⟩ := addNewNotarFallbackOrStronger_extends c t (h.rootSlot ▸ he.1) he.2
      hmax' (h.room he.1 (hlite c.1))
    refine ⟨r, hins, h.extend hr hext (fun s => by simp) (fun b => ?_) (fun s b => ?_)
      (h.highest.addNewNotarFallbackOrStronger hins)⟩
    · -- a block recorded already is certified already
      rw [hcert]
      constructor
      · rintro (hb | rfl)
        · exact .inl hb
        · by_cases hnf : b ∈ (t.statusAt b.1).notarFallbacks
          · exact .inl ((h.notarFallbacks _ _).mp hnf).1
          · exact .inr ⟨rfl, hnf⟩
      · rintro (hb | ⟨rfl, -⟩)
        · exact .inl hb
        · exact .inr rfl
    · rw [isReadyParent_append_certified]
      simp only [hskipAt]
      constructor
      · rintro (hold | ⟨rfl, hbs, hgap⟩)
        · exact .inl hold
        · by_cases hnf : b ∈ (t.statusAt b.1).notarFallbacks
          · exact .inl ⟨((h.notarFallbacks _ _).mp hnf).1, hbs, hgap⟩
          · exact .inr ⟨⟨rfl, hnf⟩, hbs, hgap⟩
      · rintro (hold | ⟨⟨rfl, -⟩, hbs, hgap⟩)
        · exact .inl hold
        · exact .inr ⟨rfl, hbs, hgap⟩
  | skipped x =>
    simp only [CertEvent.slot] at he
    have hx : 0 < x := by
      have := he.1
      rw [UInt64.lt_iff_toNat_lt] at this ⊢
      rw [UInt64.toNat_zero]
      omega
    refine ⟨_, rfl, h.extend hr (addNewSkip_extends x t (h.rootSlot ▸ he.1) he.2 hmax')
      (fun s => by simp) (fun b => by simp [IsCertified]) (fun s b => ?_) (h.highest.addNewSkip x)⟩
    rw [isReadyParent_append_skipped hx]
    simp only [hskipAt, h.notarFallbacks, h.skip, h.parentsReady]

/-- The run: telling the tracker of the certificates `rest` after `done` does not abort and keeps
the invariant. -/
theorem tracks_insertAll {done : List CertEvent} {t : ParentReadyTracker}
    {events : List VotorEvent} (h : Tracks root done t events) (hr : root.1 < RustInt.u64Max)
    (rest : List CertEvent)
    (hevs : ∀ e ∈ done ++ rest, root.1 < e.slot ∧ e.slot < RustInt.u64Max)
    (hlite : ∀ s, (certifiedAt (done ++ rest) s).card ≤ maxEntriesPerPubkeyForNotarizeLite) :
    ∃ r, insertAll rest t = some r ∧ Tracks root (done ++ rest) r.1 (events ++ r.2) := by
  induction rest generalizing done t events with
  | nil => exact ⟨(t, []), rfl, by simpa using h⟩
  | cons e rest ih =>
    have hmax : CertEvent.skipped RustInt.u64Max ∉ done := fun hm =>
      UInt64.lt_irrefl _ (hevs _ (List.mem_append_left _ hm)).2
    -- the certificates told so far are among all of them, so the bound holds for them too
    have hlite₁ : ∀ s, (certifiedAt (done ++ [e]) s).card ≤ maxEntriesPerPubkeyForNotarizeLite :=
      fun s => (Finset.card_le_card (certifiedAt_mono (fun x hx => by
        rw [← List.singleton_append, ← List.append_assoc]
        exact List.mem_append_left _ hx) s)).trans (hlite s)
    obtain ⟨r₁, hins, h₁⟩ := h.insert hr hmax e (hevs e (by simp)) hlite₁
    obtain ⟨r₂, hall, h₂⟩ := ih h₁ (by simpa using hevs) (by simpa using hlite)
    refine ⟨(r₂.1, r₁.2 ++ r₂.2), by simp [insertAll, hins, hall], ?_⟩
    rw [List.append_assoc, List.singleton_append, List.append_assoc] at h₂
    exact h₂

end Run

/-- Telling the tracker, created with the root `root`, of certificates above the root and
below `u64::MAX`, with at most `MAX_ENTRIES_PER_PUBKEY_FOR_NOTARIZE_LITE` certified blocks in a
slot, in any order never aborts, and gives for every slot the ready parents of the parent-ready
condition, `highest_with_parent_ready` the largest slot with a ready parent, and one `ParentReady`
event for each ready parent of a slot that starts a leader window, but the root's for the slot
after it, which `new` records without an event. -/
theorem parentReady_matches_condition (root : Block) (hr : root.1 < RustInt.u64Max)
    (evs : List CertEvent) (hevs : ∀ e ∈ evs, root.1 < e.slot ∧ e.slot < RustInt.u64Max)
    (hlite : ∀ s, (certifiedAt evs s).card ≤ maxEntriesPerPubkeyForNotarizeLite) :
    ∃ t events, insertAll evs (ParentReadyTracker.new root) = some (t, events) ∧
      (∀ s b, b ∈ (t.statusAt s).parentsReady ↔ IsReadyParent root evs s b) ∧
      (∀ s b, IsReadyParent root evs s b → s ≤ t.highestWithParentReady) ∧
      (∃ b, IsReadyParent root evs t.highestWithParentReady b) ∧
      events.Nodup ∧
      ∀ e, e ∈ events ↔ ∃ s b, e = .parentReady s b ∧ IsReadyParent root evs s b ∧
        s % numConsecutiveLeaderSlots = 0 ∧ (s, b) ≠ (root.1 + 1, root) := by
  obtain ⟨⟨t, events⟩, hall, h⟩ :=
    tracks_insertAll (tracks_new hr) hr evs (by simpa using hevs) (by simpa using hlite)
  rw [List.nil_append, List.nil_append] at h
  refine ⟨t, events, hall, h.parentsReady,
    fun s b hb => h.highest.1 s b ((h.parentsReady s b).mpr hb), ?_, h.nodup, h.announced⟩
  obtain ⟨b, hb⟩ := List.exists_mem_of_ne_nil _ h.highest.2
  exact ⟨b, (h.parentsReady _ _).mp hb⟩

/-- `Block::default()`, the root of the source's tests. -/
def defaultBlock : Block := (0, ⟨0⟩)

/-- The certificates of the source's test `out_of_order`: two skips, the block of slot 1, then
the skip of slot 1. -/
def outOfOrderCertificates : List CertEvent :=
  [.skipped 3, .skipped 2, .certified (1, ⟨1⟩), .skipped 1]

theorem out_of_order_matches_condition :
    (defaultBlock.1 < RustInt.u64Max ∧
      (∀ e ∈ outOfOrderCertificates, defaultBlock.1 < e.slot ∧ e.slot < RustInt.u64Max) ∧
      ∀ s, (certifiedAt outOfOrderCertificates s).card ≤ maxEntriesPerPubkeyForNotarizeLite) ∧
    ∃ t events, insertAll outOfOrderCertificates (ParentReadyTracker.new defaultBlock) =
        some (t, events) ∧
      (∀ s b, b ∈ (t.statusAt s).parentsReady ↔
        IsReadyParent defaultBlock outOfOrderCertificates s b) ∧
      (∀ s b, IsReadyParent defaultBlock outOfOrderCertificates s b →
        s ≤ t.highestWithParentReady) ∧
      (∃ b, IsReadyParent defaultBlock outOfOrderCertificates t.highestWithParentReady b) ∧
      events.Nodup ∧
      ∀ e, e ∈ events ↔ ∃ s b, e = .parentReady s b ∧
        IsReadyParent defaultBlock outOfOrderCertificates s b ∧
        s % numConsecutiveLeaderSlots = 0 ∧ (s, b) ≠ (defaultBlock.1 + 1, defaultBlock) := by
  have hr : defaultBlock.1 < RustInt.u64Max := by decide
  have hevs : ∀ e ∈ outOfOrderCertificates,
      defaultBlock.1 < e.slot ∧ e.slot < RustInt.u64Max := by decide
  -- one certified block in all
  have hlite : ∀ s, (certifiedAt outOfOrderCertificates s).card ≤
      maxEntriesPerPubkeyForNotarizeLite := fun s => by
    have hone : (certifiedAt outOfOrderCertificates s).card ≤ 1 :=
      Finset.card_le_one.mpr fun a ha b hb => by
        rw [mem_certifiedAt] at ha hb
        simp only [outOfOrderCertificates, List.mem_cons, List.not_mem_nil, reduceCtorEq,
          CertEvent.certified.injEq, false_or, or_false] at ha hb
        rw [ha.1, hb.1]
    exact hone.trans (by decide)
  exact ⟨⟨hr, hevs, hlite⟩,
    parentReady_matches_condition defaultBlock hr outOfOrderCertificates hevs hlite⟩

/-- A root block at slot 3. -/
def slotThreeRoot : Block := (3, ⟨0⟩)

/-- With the root at slot 3 and no certificate, the root is a ready parent of slot 4, which
starts a leader window, and the tracker records it; but no `ParentReady` event is emitted for it,
then or later. -/
theorem rootChild_never_announced :
    IsReadyParent slotThreeRoot [] 4 slotThreeRoot ∧ (4 : Slot) % numConsecutiveLeaderSlots = 0 ∧
      slotThreeRoot ∈ ((ParentReadyTracker.new slotThreeRoot).statusAt 4).parentsReady ∧
      insertAll [] (ParentReadyTracker.new slotThreeRoot) =
        some (ParentReadyTracker.new slotThreeRoot, []) := by
  refine ⟨⟨.inl rfl, by decide, fun y h₁ h₂ => ?_⟩, by decide, by decide, rfl⟩
  rw [UInt64.lt_iff_toNat_lt] at h₁ h₂
  have h₃ : slotThreeRoot.1.toNat = 3 := rfl
  have h₄ : (4 : Slot).toNat = 4 := rfl
  omega

end TRv1.Votor
