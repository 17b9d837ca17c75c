import TRv1.Votor.ConsensusPool

/-!
# What each step of the consensus pool can do

The proofs about the consensus pool cite the lemmas here and do not unfold its functions.

* The parent-ready tracker emits `ParentReady` events only (`OnlyParentReady`), and the stake
  counters `SafeToNotar` and `SafeToSkip` events only (`SlotStakeCounters.CounterEvent`).
* `insertCertificate` appends its certificate and keeps the vote pools, when the parent-ready
  tracker does not abort; so `updateCertificates` builds every certificate from the pools it
  started with, and completes exactly those whose stake is not below their limit
  (`mem_updateCertificates`).
* `addVote_eq_ok` says all that an accepted vote can do: its sender is ranked, it is at or above
  the root and conflicts with no earlier vote of the sender, it goes to the pool of its slot and
  type, and the certificates it counts toward are then updated.
* `run_invariant` is the induction over a run of messages, for a property of the pool and of the
  events emitted so far; a run that aborts ends with the pool and events before the abort.
-/

set_option autoImplicit false

namespace TRv1.Votor

/-- Every event is a `ParentReady` event. -/
def OnlyParentReady (events : List VotorEvent) : Prop :=
  ∀ e ∈ events, ∃ slot block, e = .parentReady slot block

theorem onlyParentReady_nil : OnlyParentReady [] := by
  intro e he
  cases he

theorem OnlyParentReady.append {events events' : List VotorEvent} (h : OnlyParentReady events)
    (h' : OnlyParentReady events') : OnlyParentReady (events ++ events') := by
  intro e he
  rcases List.mem_append.mp he with he | he
  · exact h e he
  · exact h' e he

namespace ParentReadyTracker

theorem addParentAt_onlyParentReady (block : Block) (s : Slot) (t : ParentReadyTracker) :
    OnlyParentReady (t.addParentAt block s).2 := by
  unfold addParentAt
  dsimp only
  split_ifs
  · exact onlyParentReady_nil
  · intro e he
    simp only [List.mem_cons, List.not_mem_nil, or_false] at he
    exact ⟨s, block, he⟩
  · exact onlyParentReady_nil

theorem propagateParent_onlyParentReady (block : Block) (fuel : Nat) (s : Slot)
    (t : ParentReadyTracker) : OnlyParentReady (propagateParent block fuel s t).2 := by
  induction fuel generalizing s t with
  | zero => exact onlyParentReady_nil
  | succ fuel ih =>
    by_cases hskip : (t.statusAt s).skip = true
    · simp only [propagateParent, hskip, if_true]
      exact (addParentAt_onlyParentReady block s t).append (ih _ _)
    · simp only [propagateParent, hskip]
      exact addParentAt_onlyParentReady block s t

theorem addNewNotarFallbackOrStronger_onlyParentReady {block : Block} {t : ParentReadyTracker}
    {r : ParentReadyTracker × List VotorEvent}
    (h : t.addNewNotarFallbackOrStronger block = some r) : OnlyParentReady r.2 := by
  unfold addNewNotarFallbackOrStronger at h
  dsimp only at h
  split_ifs at h
  · cases h
    exact onlyParentReady_nil
  · cases h
    exact onlyParentReady_nil
  · cases h
    exact propagateParent_onlyParentReady _ _ _ _

theorem addParentsAt_onlyParentReady (s : Slot) (parents : List Block) (t : ParentReadyTracker) :
    OnlyParentReady (addParentsAt s parents t).2 := by
  induction parents generalizing t with
  | nil => exact onlyParentReady_nil
  | cons block rest ih => exact (addParentAt_onlyParentReady block s t).append (ih _)

theorem addParents_onlyParentReady (parents : List Block) (slots : List Slot)
    (t : ParentReadyTracker) : OnlyParentReady (addParents parents slots t).2 := by
  induction slots generalizing t with
  | nil => exact onlyParentReady_nil
  | cons s rest ih => exact (addParentsAt_onlyParentReady s parents t).append (ih _)

theorem addNewSkip_onlyParentReady (slot : Slot) (t : ParentReadyTracker) :
    OnlyParentReady (t.addNewSkip slot).2 := by
  unfold addNewSkip
  dsimp only
  split_ifs
  · exact onlyParentReady_nil
  · split
    · exact onlyParentReady_nil
    · rename_i previous _
      by_cases hempty : (previous.notarFallbacks ++
          (if previous.skip then previous.parentsReady else [])).isEmpty = true
      · simp only [hempty, if_true]
        exact onlyParentReady_nil
      · simp only [hempty]
        exact addParents_onlyParentReady _ _ _

end ParentReadyTracker

namespace SlotStakeCounters

/-- The counters emit `SafeToNotar` and `SafeToSkip` events only. -/
def CounterEvent (e : VotorEvent) : Prop :=
  (∃ block, e = .safeToNotar block) ∨ ∃ slot, e = .safeToSkip slot

theorem checkSafeToNotar_events (slot : Slot) (entries : List (Hash × Stake))
    (c : SlotStakeCounters) : ∀ e ∈ (checkSafeToNotar slot entries c).2, CounterEvent e := by
  induction entries generalizing c with
  | nil => intro e he; cases he
  | cons entry rest ih =>
    obtain ⟨blockId, stake⟩ := entry
    intro e he
    simp only [checkSafeToNotar] at he
    split_ifs at he
    · rcases List.mem_cons.mp he with rfl | he
      · exact .inl ⟨_, rfl⟩
      · exact ih _ e he
    · exact ih _ e he

theorem addVote_events (c : SlotStakeCounters) (vote : Vote) (entryStake : Stake)
    (isMyOwnVote : Bool) : ∀ e ∈ (c.addVote vote entryStake isMyOwnVote).2, CounterEvent e := by
  intro e he
  unfold addVote at he
  split at he
  · cases he
  · rename_i c₁ _
    dsimp only at he
    -- whether this node's own vote is recorded does not matter to which events can follow
    generalize (if c₁.myFirstVote.isNone = true ∧ isMyOwnVote = true then
      { c₁ with myFirstVote := some vote } else c₁) = c₂ at he
    split_ifs at he
    · cases he
    · rcases List.mem_append.mp he with he | he
      · exact checkSafeToNotar_events _ _ _ e he
      · exact .inr ⟨_, List.mem_singleton.mp he⟩
    · exact checkSafeToNotar_events _ _ _ e he

end SlotStakeCounters

namespace ConsensusPool

section Certificates

variable {pool : ConsensusPool}

/-! Each helper of `insertCertificate` changes neither the vote pools nor the completed
certificates. -/

/-- The tracker's update, when it does not abort, changes the tracker alone. -/
theorem notarFallbackOrStronger_eq_some {block : Block} {r : ConsensusPool × List VotorEvent}
    (h : pool.notarFallbackOrStronger block = some r) :
    ∃ t, pool.parentReadyTracker.addNewNotarFallbackOrStronger block = some (t, r.2) ∧
      r.1 = { pool with parentReadyTracker := t } := by
  unfold notarFallbackOrStronger at h
  obtain ⟨⟨t, events⟩, ht, rfl⟩ := Option.map_eq_some_iff.mp h
  exact ⟨t, ht, rfl⟩

theorem notarFallbackOrStronger_fields {block : Block} {r : ConsensusPool × List VotorEvent}
    (h : pool.notarFallbackOrStronger block = some r) :
    r.1.votePools = pool.votePools ∧ r.1.completedCertificates = pool.completedCertificates := by
  obtain ⟨t, -, hr⟩ := notarFallbackOrStronger_eq_some h
  rw [hr]
  exact ⟨rfl, rfl⟩

@[simp] theorem raiseFinalized_votePools (slot : Slot) :
    (pool.raiseFinalized slot).votePools = pool.votePools := by
  unfold raiseFinalized
  dsimp only
  split_ifs <;> rfl

@[simp] theorem raiseFinalized_completed (slot : Slot) :
    (pool.raiseFinalized slot).completedCertificates = pool.completedCertificates := by
  unfold raiseFinalized
  dsimp only
  split_ifs <;> rfl

@[simp] theorem raiseFinalizedWithNotarize_votePools (slot : Slot) (isFast strict : Bool) :
    (pool.raiseFinalizedWithNotarize slot isFast strict).votePools = pool.votePools := by
  unfold raiseFinalizedWithNotarize
  dsimp only
  split_ifs <;> rfl

@[simp] theorem raiseFinalizedWithNotarize_completed (slot : Slot) (isFast strict : Bool) :
    (pool.raiseFinalizedWithNotarize slot isFast strict).completedCertificates =
      pool.completedCertificates := by
  unfold raiseFinalizedWithNotarize
  dsimp only
  split_ifs <;> rfl

/-- `insertCertificate`, when the tracker does not abort, appends its certificate and keeps the
vote pools. -/
theorem insertCertificate_fields {ct : CertificateType} {cert : Certificate}
    {r : ConsensusPool × List VotorEvent} (h : pool.insertCertificate ct cert = some r) :
    r.1.votePools = pool.votePools ∧
      r.1.completedCertificates = pool.completedCertificates ++ [(ct, cert)] := by
  cases ct <;> simp only [insertCertificate, Option.bind_eq_bind, Option.bind_eq_some_iff] at h
  -- the certificates that certify a block go through the tracker's update
  case notarizeFallback | genesis => exact notarFallbackOrStronger_fields h
  case skip =>
    cases h
    exact ⟨rfl, rfl⟩
  case notarize =>
    obtain ⟨⟨pool₂, events⟩, h₂, h⟩ := h
    have hf := notarFallbackOrStronger_fields h₂
    split_ifs at h <;> cases h <;> simpa using hf
  case finalizeFast =>
    obtain ⟨⟨pool₂, events⟩, h₂, h⟩ := h
    cases h
    simpa using notarFallbackOrStronger_fields h₂
  case finalize =>
    -- `Finalize` looks up the notarized block
    split at h <;> cases h <;> simp

theorem insertCertificate_votePools {ct : CertificateType} {cert : Certificate}
    {r : ConsensusPool × List VotorEvent} (h : pool.insertCertificate ct cert = some r) :
    r.1.votePools = pool.votePools :=
  (insertCertificate_fields h).1

theorem insertCertificate_completed {ct : CertificateType} {cert : Certificate}
    {r : ConsensusPool × List VotorEvent} (h : pool.insertCertificate ct cert = some r) :
    r.1.completedCertificates = pool.completedCertificates ++ [(ct, cert)] :=
  (insertCertificate_fields h).2

/-- What a certificate adds up and aggregates depends on the vote pools alone. -/
theorem accumulatedStake_congr {pool' : ConsensusPool} (h : pool'.votePools = pool.votePools)
    (slot : Slot) (blockId : Option Hash) (voteTypes : List VoteType) :
    pool'.accumulatedStake slot blockId voteTypes =
      pool.accumulatedStake slot blockId voteTypes := by
  simp only [accumulatedStake, h]

theorem certificateVotes_congr {pool' : ConsensusPool} (h : pool'.votePools = pool.votePools)
    (slot : Slot) (blockId : Option Hash) (voteTypes : List VoteType) :
    pool'.certificateVotes slot blockId voteTypes =
      pool.certificateVotes slot blockId voteTypes := by
  simp only [certificateVotes, h]

variable {belowLimit : LimitTest} {slot : Slot} {blockId : Option Hash} {totalStake : Stake}

/-- One certificate type of `updateCertificates`: passed over when it is complete or its stake
is below its limit; otherwise built from the pools, inserted, and followed by the rest. -/
theorem updateCertificates_cons_eq_some {certType : CertificateType}
    {rest : List CertificateType} {pool : ConsensusPool}
    {r : ConsensusPool × List VotorEvent × List Certificate}
    (h : pool.updateCertificates belowLimit slot blockId totalStake (certType :: rest) = some r) :
    pool.updateCertificates belowLimit slot blockId totalStake rest = some r ∨
      ∃ r₁ r₂, pool.insertCertificate certType ⟨certType, pool.certificateVotes slot blockId
          (certificateLimitsAndVoteTypes certType).2⟩ = some r₁ ∧
        r₁.1.updateCertificates belowLimit slot blockId totalStake rest = some r₂ ∧
        r = (r₂.1, r₁.2 ++ r₂.2.1, ⟨certType, pool.certificateVotes slot blockId
          (certificateLimitsAndVoteTypes certType).2⟩ :: r₂.2.2) ∧
        belowLimit (pool.accumulatedStake slot blockId (certificateLimitsAndVoteTypes certType).2)
          totalStake (certificateLimitsAndVoteTypes certType).1 = false := by
  simp only [updateCertificates] at h
  split_ifs at h with hdone hbelow
  · exact .inl h
  · exact .inl h
  · simp only [Option.bind_eq_bind, Option.bind_eq_some_iff] at h
    obtain ⟨⟨pool₁, events⟩, h₁, ⟨pool₂, events', certs⟩, h₂, h⟩ := h
    cases h
    exact .inr ⟨_, _, h₁, h₂, rfl, by simpa using hbelow⟩

theorem updateCertificates_votePools {certTypes : List CertificateType} {pool : ConsensusPool}
    {r : ConsensusPool × List VotorEvent × List Certificate}
    (h : pool.updateCertificates belowLimit slot blockId totalStake certTypes = some r) :
    r.1.votePools = pool.votePools := by
  induction certTypes generalizing pool r with
  | nil =>
    cases h
    rfl
  | cons certType rest ih =>
    rcases updateCertificates_cons_eq_some h with h | ⟨r₁, r₂, h₁, h₂, rfl, -⟩
    · exact ih h
    · exact (ih h₂).trans (insertCertificate_votePools h₁)

/-- The certificates `updateCertificates` completes are those it builds, each from the pools it
started with and each of a type whose stake is not below its limit. -/
theorem mem_updateCertificates {certTypes : List CertificateType} {pool : ConsensusPool}
    {r : ConsensusPool × List VotorEvent × List Certificate} {c : CertificateType × Certificate}
    (hup : pool.updateCertificates belowLimit slot blockId totalStake certTypes = some r)
    (h : c ∈ r.1.completedCertificates) :
    c ∈ pool.completedCertificates ∨ ∃ ct ∈ certTypes,
      c = (ct, ⟨ct, pool.certificateVotes slot blockId
        (certificateLimitsAndVoteTypes ct).2⟩) ∧
      belowLimit (pool.accumulatedStake slot blockId (certificateLimitsAndVoteTypes ct).2)
        totalStake (certificateLimitsAndVoteTypes ct).1 = false := by
  induction certTypes generalizing pool r with
  | nil =>
    cases hup
    exact .inl h
  | cons certType rest ih =>
    rcases updateCertificates_cons_eq_some hup with hup | ⟨r₁, r₂, h₁, h₂, rfl, hbelow⟩
    · exact (ih hup h).imp id fun ⟨ct, hct, hc, hlimit⟩ =>
        ⟨ct, List.mem_cons_of_mem _ hct, hc, hlimit⟩
    · -- the certificate inserted first keeps the pools the later ones are built from
      have hpools := insertCertificate_votePools h₁
      rcases ih h₂ h with h | ⟨ct, hct, rfl, hlimit⟩
      · rw [insertCertificate_completed h₁, List.mem_append, List.mem_singleton] at h
        rcases h with h | rfl
        · exact .inl h
        · exact .inr ⟨certType, List.mem_cons_self, rfl, hbelow⟩
      · rw [accumulatedStake_congr hpools] at hlimit
        rw [certificateVotes_congr hpools]
        exact .inr ⟨ct, List.mem_cons_of_mem _ hct, rfl, hlimit⟩

theorem completed_subset_updateCertificates {certTypes : List CertificateType}
    {pool : ConsensusPool} {r : ConsensusPool × List VotorEvent × List Certificate}
    (h : pool.updateCertificates belowLimit slot blockId totalStake certTypes = some r) :
    pool.completedCertificates ⊆ r.1.completedCertificates := by
  induction certTypes generalizing pool r with
  | nil =>
    cases h
    exact List.Subset.refl _
  | cons certType rest ih =>
    rcases updateCertificates_cons_eq_some h with h | ⟨r₁, r₂, h₁, h₂, rfl, -⟩
    · exact ih h
    · intro c hc
      apply ih h₂
      rw [insertCertificate_completed h₁]
      exact List.mem_append_left _ hc

end Certificates

section Steps

variable {ctx : StakesContext} {belowLimit : LimitTest} {rootSlot : Slot} {myVotePubkey : Pubkey}

/-- All an accepted vote can do: its sender is ranked in the epoch of its slot, the slot is not
below the root, the sender has no conflicting vote in the slot, and the vote goes to the pool of
its slot and type; the stake counters may emit their events, and the certificates the vote counts
toward are updated from the pools as they are after it. -/
theorem addVote_eq_ok {vm : VoteMessage} {pool : ConsensusPool} {out : Outcome}
    (h : pool.addVote ctx belowLimit rootSlot myVotePubkey vm = .ok (some out)) :
    ∃ k st total, getKeyAndStakes ctx vm.vote.slot vm.rank = .ok (k, st, total) ∧
      rootSlot ≤ vm.vote.slot ∧
      pool.hasConflictingVote vm.vote.slot vm.vote.getType k vm.vote.blockId = none ∧
      ∃ (mid : ConsensusPool) (counterEvents : List VotorEvent)
        (certTypes : List CertificateType) (r : ConsensusPool × List VotorEvent × List Certificate),
        mid.updateCertificates belowLimit vm.vote.slot vm.vote.blockId total certTypes = some r ∧
        out = (r.1, counterEvents ++ r.2.1, r.2.2) ∧
        mid.votePools = (pool.updateVotePool vm k st).1.votePools ∧
        mid.completedCertificates = pool.completedCertificates ∧
        (∀ e ∈ counterEvents, SlotStakeCounters.CounterEvent e) ∧
        ∀ ct ∈ certTypes, ct ∈ voteToCertTypes vm.vote := by
  unfold addVote at h
  dsimp only at h
  split at h
  · cases h
  · rename_i k st total hkey
    by_cases hroot : vm.vote.slot < rootSlot
    · simp only [hroot, if_true] at h
      cases h
    simp only [hroot, if_false] at h
    split at h
    · cases h
    · rename_i hconf
      refine ⟨k, st, total, hkey, UInt64.not_lt.mp hroot, hconf, ?_⟩
      split at h
      · cases h
        exact ⟨_, [], [], _, rfl, rfl, rfl, rfl, fun _ h => absurd h List.not_mem_nil,
          fun _ h => absurd h List.not_mem_nil⟩
      · -- the certificates were updated without an abort
        obtain ⟨⟨pool₃, events', certs⟩, hup, hout⟩ :=
          Option.map_eq_some_iff.mp (Except.ok.inj h)
        cases hout
        exact ⟨_, _, voteToCertTypes vm.vote, _, hup, rfl, rfl, rfl,
          SlotStakeCounters.addVote_events _ _ _ _, fun _ h => h⟩

/-- An accepted certificate leaves the vote pools as they are. -/
theorem addCertificate_votePools {cert : Certificate} {pool : ConsensusPool} {out : Outcome}
    (h : pool.addCertificate rootSlot cert = .ok (some out)) :
    out.1.votePools = pool.votePools := by
  unfold addCertificate at h
  split_ifs at h
  · cases h
    rfl
  · obtain ⟨r, hr, rfl⟩ := Option.map_eq_some_iff.mp (Except.ok.inj h)
    exact insertCertificate_votePools hr

/-- The induction over a run: a property of the pool and of the events emitted so far that every
accepted message keeps holds at the end, the end of a run that aborts included. -/
theorem run_invariant (I : ConsensusPool → List VotorEvent → Prop) (events : List VotorEvent)
    {messages : List ConsensusMessage} {pool : ConsensusPool} (h₀ : I pool events)
    (hstep : ∀ pool events message out, message ∈ messages → I pool events →
      pool.addMessage ctx belowLimit rootSlot myVotePubkey message = .ok (some out) →
      I out.1 (events ++ out.2.1)) :
    I (run ctx belowLimit rootSlot myVotePubkey messages pool).1
      (events ++ (run ctx belowLimit rootSlot myVotePubkey messages pool).2) := by
  induction messages generalizing pool events with
  | nil => simpa [run] using h₀
  | cons message rest ih =>
    have hrest : ∀ pool events message out, message ∈ rest → I pool events →
        pool.addMessage ctx belowLimit rootSlot myVotePubkey message = .ok (some out) →
        I out.1 (events ++ out.2.1) :=
      fun pool events m out hm => hstep pool events m out (List.mem_cons_of_mem _ hm)
    simp only [run]
    split
    · rename_i pool₁ events₁ certs hok
      have h₁ := hstep pool events message (pool₁, events₁, certs) List.mem_cons_self h₀ hok
      simpa [List.append_assoc] using ih _ h₁ hrest
    · -- the node aborts: the run ends here
      simpa using h₀
    · exact ih _ h₀ hrest

/-- The induction over a run, for a property of the pool alone. -/
theorem run_induction (P : ConsensusPool → Prop) {messages : List ConsensusMessage}
    {pool : ConsensusPool} (h₀ : P pool)
    (hstep : ∀ pool message out, message ∈ messages → P pool →
      pool.addMessage ctx belowLimit rootSlot myVotePubkey message = .ok (some out) → P out.1) :
    P (run ctx belowLimit rootSlot myVotePubkey messages pool).1 :=
  run_invariant (fun pool _ => P pool) [] h₀ fun pool _ message out hm h hok =>
    hstep pool message out hm h hok

end Steps

end ConsensusPool

end TRv1.Votor
