import TRv1.Votor.Counting

/-!
# At most one notarized block per slot

A `Notarize` certificate needs `0.6` of the epoch's stake in notarize votes for its block, a
`FinalizeFast` certificate `0.8`, and a validator notarizes at most one block of a slot (the
notarize pool's bound is one block per validator). So, with the shares compared exactly and the
epoch's total stake covering its ranked validators' stakes, two blocks of one slot cannot both be
certified: each would hold more than half of the stake in votes of distinct validators
(`PoolsTrack.supermajority_unique`). Every `BlockNotarized` and `Finalized` event names a block
with such a certificate (`insertCertificate_notarizes`), the `Finalized` event of a `Finalize`
certificate through `getNotarizedBlock`.

`NotarizationInv` is what every vote keeps of a run, and `notarized_block_unique` the run theorem:
the `Notarize` and `FinalizeFast` certificates of a slot and its `BlockNotarized` and `Finalized`
events all name one block.
-/

set_option autoImplicit false

namespace TRv1.Votor

/-- The block a `BlockNotarized` or `Finalized` event names. -/
def VotorEvent.notarizedBlock : VotorEvent → Option Block
  | .blockNotarized block | .finalized block _ => some block
  | _ => none

theorem OnlyParentReady.notarizedBlock {events : List VotorEvent} (h : OnlyParentReady events) :
    ∀ e ∈ events, e.notarizedBlock = none := by
  intro e he
  obtain ⟨s, b, rfl⟩ := h e he
  rfl

theorem SlotStakeCounters.CounterEvent.notarizedBlock {e : VotorEvent} (h : CounterEvent e) :
    e.notarizedBlock = none := by
  rcases h with ⟨_, rfl⟩ | ⟨_, rfl⟩ <;> rfl

theorem leastBlockId_mem {l : List Hash} {b : Hash} (h : leastBlockId l = some b) : b ∈ l := by
  induction l with
  | nil => cases h
  | cons a rest ih =>
    simp only [leastBlockId] at h
    split at h
    · cases h
      exact List.mem_cons_self
    · rename_i a' ha'
      split_ifs at h <;> cases h
      · exact List.mem_cons_self
      · exact List.mem_cons_of_mem _ (ih ha')

/-- Only a notarize vote counts toward a `Notarize` or a `FinalizeFast` certificate. -/
theorem eq_notarize_of_mem_voteToCertTypes {vote : Vote} {slot : Slot} {blockId : Hash}
    (h : CertificateType.notarize slot blockId ∈ voteToCertTypes vote ∨
      CertificateType.finalizeFast slot blockId ∈ voteToCertTypes vote) :
    vote = .notarize slot blockId := by
  cases vote <;> simp [voteToCertTypes] at h ⊢
  exact ⟨h.1.symm, h.2.symm⟩

/-- A ranked validator's stake is part of the epoch's ranked stake. -/
theorem EpochStakes.stake_le_rankedStake (es : EpochStakes) {k : Pubkey} (hk : k ∈ es.rankMap) :
    (es.voteAccountStake k).toNat ≤ es.rankedStake := by
  unfold EpochStakes.rankedStake
  exact Finset.single_le_sum (fun k _ => Nat.zero_le (es.voteAccountStake k).toNat)
    (List.mem_toFinset.mpr hk)

namespace ConsensusPool

variable {ctx : StakesContext}

/-- The pool has a `Notarize` or a `FinalizeFast` certificate for the block. -/
def Notarizes (pool : ConsensusPool) (block : Block) : Prop :=
  CertificateType.notarize block.1 block.2 ∈ pool.completedCertificates.map Prod.fst ∨
    CertificateType.finalizeFast block.1 block.2 ∈ pool.completedCertificates.map Prod.fst

theorem Notarizes.mono {pool pool' : ConsensusPool} {block : Block} (h : pool.Notarizes block)
    (hsub : pool.completedCertificates ⊆ pool'.completedCertificates) : pool'.Notarizes block :=
  h.imp (List.map_subset _ hsub ·) (List.map_subset _ hsub ·)

theorem getNotarizedBlock_notarizes {pool : ConsensusPool} {slot : Slot} {block : Block}
    (h : pool.getNotarizedBlock slot = some block) : pool.Notarizes block := by
  unfold getNotarizedBlock at h
  obtain ⟨b, hb, rfl⟩ := Option.map_eq_some_iff.mp h
  obtain ⟨⟨c, cert⟩, hc, hcb⟩ := List.mem_filterMap.mp (leastBlockId_mem hb)
  left
  cases c with
  | notarize s b' =>
    simp only at hcb
    split_ifs at hcb with hs
    cases hcb
    subst hs
    exact List.mem_map_of_mem (f := Prod.fst) hc
  | _ => cases hcb

theorem notarFallbackOrStronger_notarizedBlock {pool : ConsensusPool} {block : Block}
    {r : ConsensusPool × List VotorEvent} (h : pool.notarFallbackOrStronger block = some r) :
    ∀ e ∈ r.2, e.notarizedBlock = none := by
  obtain ⟨t, ht, -⟩ := notarFallbackOrStronger_eq_some h
  exact (ParentReadyTracker.addNewNotarFallbackOrStronger_onlyParentReady ht).notarizedBlock

/-- A block that `insertCertificate` announces as notarized or finalized has a `Notarize` or a
`FinalizeFast` certificate once the certificate is in. -/
theorem insertCertificate_notarizes {pool : ConsensusPool} {certType : CertificateType}
    {cert : Certificate} {r : ConsensusPool × List VotorEvent} {e : VotorEvent} {block : Block}
    (hins : pool.insertCertificate certType cert = some r) (he : e ∈ r.2)
    (hblock : e.notarizedBlock = some block) : r.1.Notarizes block := by
  -- the certificate is in; what remains is which block each kind of certificate announces
  have hin : certType ∈ r.1.completedCertificates.map Prod.fst := by
    rw [insertCertificate_completed hins]
    simp
  cases certType with
  | notarizeFallback s b =>
    simp only [insertCertificate] at hins
    rw [notarFallbackOrStronger_notarizedBlock hins e he] at hblock
    cases hblock
  | skip s =>
    simp only [insertCertificate] at hins
    cases hins
    rw [(ParentReadyTracker.addNewSkip_onlyParentReady _ _).notarizedBlock e he] at hblock
    cases hblock
  | genesis s b =>
    simp only [insertCertificate] at hins
    rw [notarFallbackOrStronger_notarizedBlock hins e he] at hblock
    cases hblock
  | notarize s b =>
    -- `BlockNotarized` and, if the slot is finalized, `Finalized` for the certificate's block
    have hb : block = (s, b) := by
      simp only [insertCertificate, Option.bind_eq_bind, Option.bind_eq_some_iff] at hins
      obtain ⟨⟨pool₂, events⟩, h₂, hins⟩ := hins
      split_ifs at hins <;> cases hins <;>
        simp only [List.cons_append, List.mem_cons, List.mem_append, List.not_mem_nil,
          or_false] at he
      · rcases he with rfl | he | rfl
        · cases hblock
          rfl
        · rw [notarFallbackOrStronger_notarizedBlock h₂ e he] at hblock
          cases hblock
        · cases hblock
          rfl
      · rcases he with rfl | he
        · cases hblock
          rfl
        · rw [notarFallbackOrStronger_notarizedBlock h₂ e he] at hblock
          cases hblock
    subst hb
    exact .inl hin
  | finalizeFast s b =>
    -- `Finalized` for the certificate's block
    have hb : block = (s, b) := by
      simp only [insertCertificate, Option.bind_eq_bind, Option.bind_eq_some_iff] at hins
      obtain ⟨⟨pool₂, events⟩, h₂, hins⟩ := hins
      cases hins
      rcases List.mem_cons.mp he with rfl | he
      · cases hblock
        rfl
      · rw [notarFallbackOrStronger_notarizedBlock h₂ e he] at hblock
        cases hblock
    subst hb
    exact .inr hin
  | finalize s =>
    -- `Finalized` for the slot's notarized block, looked up among the certificates
    have hsub : pool.completedCertificates ++ [(.finalize s, cert)] ⊆
        r.1.completedCertificates := by
      rw [insertCertificate_completed hins]
      exact List.Subset.refl _
    simp only [insertCertificate] at hins
    split at hins
    · rename_i notarized hnotarized
      cases hins
      rw [List.mem_singleton] at he
      subst he
      cases hblock
      exact (getNotarizedBlock_notarizes hnotarized).mono hsub
    · cases hins
      cases he

variable {belowLimit : LimitTest} {slot : Slot} {blockId : Option Hash} {totalStake : Stake}

/-- A block that `updateCertificates` announces has a `Notarize` or a `FinalizeFast`
certificate at its end. -/
theorem updateCertificates_notarizes {certTypes : List CertificateType} {pool : ConsensusPool}
    {r : ConsensusPool × List VotorEvent × List Certificate} {e : VotorEvent} {block : Block}
    (hup : pool.updateCertificates belowLimit slot blockId totalStake certTypes = some r)
    (he : e ∈ r.2.1) (hblock : e.notarizedBlock = some block) : r.1.Notarizes block := by
  induction certTypes generalizing pool r with
  | nil =>
    cases hup
    cases he
  | cons certType rest ih =>
    rcases updateCertificates_cons_eq_some hup with hup | ⟨r₁, r₂, h₁, h₂, rfl, -⟩
    · exact ih hup he
    · -- an event of this certificate's insertion, or of a later one
      dsimp only at he ⊢
      rcases List.mem_append.mp he with he | he
      · exact (insertCertificate_notarizes h₁ he hblock).mono
          (completed_subset_updateCertificates h₂)
      · exact ih h₂ he

/-- The notarize votes for `block` hold more than half of the epoch's total stake. -/
def Supermajority (ctx : StakesContext) (pool : ConsensusPool) (block : Block) : Prop :=
  ∃ es, ctx.epochStakes block.1 = some es ∧
    es.totalStake.toNat < 2 * ctx.votersStake (pool.poolVotes block.1 .notarize (some block.2))

theorem Supermajority.of_votePools_eq {pool pool' : ConsensusPool} {block : Block}
    (h : pool.Supermajority ctx block) (heq : pool'.votePools = pool.votePools) :
    pool'.Supermajority ctx block := by
  unfold Supermajority
  rw [poolVotes_congr heq]
  exact h

/-- Votes only add to a block's notarize stake. -/
theorem Supermajority.updateVotePool {pool : ConsensusPool} {block : Block}
    (h : pool.Supermajority ctx block) (m : VoteMessage) (k : Pubkey) (st : Stake) :
    (pool.updateVotePool m k st).1.Supermajority ctx block := by
  obtain ⟨es, hes, hmaj⟩ := h
  obtain ⟨extra, hextra⟩ :=
    poolVotes_updateVotePool pool m k st block.1 .notarize (some block.2)
  refine ⟨es, hes, ?_⟩
  rw [hextra, StakesContext.votersStake_append]
  omega

/-- A validator notarizes at most one block of a slot: the notarize pool remembers the blocks
of each validator, at most one. -/
theorem PoolsTrack.notarize_voters_disjoint {pool : ConsensusPool} (h : pool.PoolsTrack ctx)
    {slot : Slot} {b b' : Hash} {k : Pubkey}
    (hk : k ∈ ctx.voters (pool.poolVotes slot .notarize (some b)))
    (hk' : k ∈ ctx.voters (pool.poolVotes slot .notarize (some b'))) : b = b' := by
  unfold poolVotes at hk hk'
  cases hp : pool.votePools slot .notarize with
  | none =>
    rw [hp] at hk
    cases hk
  | some vp =>
    rw [hp, Option.map_some, Option.getD_some] at hk hk'
    obtain ⟨hbound, htracks⟩ := h slot .notarize vp hp
    cases vp with
    | simpleVotePool p => cases hbound
    | duplicateBlockVotePool p =>
      have hmax : p.maxEntriesPerPubkey = 1 := Option.some.inj hbound
      -- the entries of both blocks hold a vote of `k`, so `k` remembers both blocks
      have hvoted : ∀ {c : Hash}, k ∈ ctx.voters ((p.votes c).getD []) →
          ∃ l, p.prevVotedBlockIds k = some l ∧ c ∈ l := by
        intro c hc
        cases he : p.voteEntries c with
        | none => simp [DuplicateBlockVotePool.votes, he] at hc
        | some e =>
          rw [DuplicateBlockVotePool.votes, he, Option.map_some, Option.getD_some] at hc
          exact htracks.voted c e k he hc
      obtain ⟨l, hl, hb⟩ := hvoted hk
      obtain ⟨l', hl', hb'⟩ := hvoted hk'
      rw [hl] at hl'
      cases hl'
      have hlen := htracks.prev_length k l hl
      rw [hmax] at hlen
      -- `l` holds both blocks and has at most one entry
      rcases l with _ | ⟨c, _ | ⟨d, l⟩⟩
      · cases hb
      · exact (List.mem_singleton.mp hb).trans (List.mem_singleton.mp hb').symm
      · simp at hlen

/-- Two blocks of a slot cannot both have notarize votes of more than half of the total stake,
when the total stake covers the ranked validators' stakes. -/
theorem PoolsTrack.supermajority_unique {pool : ConsensusPool} (h : pool.PoolsTrack ctx)
    (hstakes : ctx.TotalCoversRanked)
    {slot : Slot} {b b' : Hash} (hb : pool.Supermajority ctx (slot, b))
    (hb' : pool.Supermajority ctx (slot, b')) : b = b' := by
  by_contra hne
  obtain ⟨es, hes, hmaj⟩ := hb
  obtain ⟨es', hes', hmaj'⟩ := hb'
  rw [hes] at hes'
  cases hes'
  -- the two blocks' voters are distinct validators of the slot
  have hdisjoint : (ctx.voters (pool.poolVotes slot .notarize (some b))).Disjoint
      (ctx.voters (pool.poolVotes slot .notarize (some b'))) :=
    fun _ hk hk' => hne (h.notarize_voters_disjoint hk hk')
  have hnodup : (ctx.voters (pool.poolVotes slot .notarize (some b) ++
      pool.poolVotes slot .notarize (some b'))).Nodup := by
    rw [StakesContext.voters_append]
    exact (h.nodup_poolVotes _ _ _).append (h.nodup_poolVotes _ _ _) hdisjoint
  have hslot : ∀ m ∈ pool.poolVotes slot .notarize (some b) ++
      pool.poolVotes slot .notarize (some b'), m.vote.slot = slot := by
    intro m hm
    rcases List.mem_append.mp hm with hm | hm
    · exact (h.mem_poolVotes hm).1
    · exact (h.mem_poolVotes hm).1
  have hle := StakesContext.votersStake_le_rankedStake hes hslot hnodup
  rw [StakesContext.votersStake_append] at hle
  have htotal := hstakes slot es hes
  simp only at hmaj hmaj'
  omega

theorem Notarizes.of_mem {pool : ConsensusPool} {block : Block}
    {c : CertificateType × Certificate} (hc : c ∈ pool.completedCertificates)
    (hct : c.1 = .notarize block.1 block.2 ∨ c.1 = .finalizeFast block.1 block.2) :
    pool.Notarizes block := by
  rcases hct with hct | hct
  · exact .inl (hct ▸ List.mem_map_of_mem hc)
  · exact .inr (hct ▸ List.mem_map_of_mem hc)

theorem Notarizes.exists_mem {pool : ConsensusPool} {block : Block} (h : pool.Notarizes block) :
    ∃ c ∈ pool.completedCertificates,
      c.1 = .notarize block.1 block.2 ∨ c.1 = .finalizeFast block.1 block.2 := by
  rcases h with h | h <;> obtain ⟨c, hc, hct⟩ := List.mem_map.mp h
  · exact ⟨c, hc, .inl hct⟩
  · exact ⟨c, hc, .inr hct⟩

/-- A `Notarize` or `FinalizeFast` certificate that the exact comparison lets through has notarize
votes of more than half of the stake, when the total stake covers the ranked stake. -/
theorem PoolsTrack.supermajority_of_built {pool : ConsensusPool} (h : pool.PoolsTrack ctx)
    (hstakes : ctx.TotalCoversRanked)
    {vm : VoteMessage} {k : Pubkey} {st total : Stake}
    (hkey : getKeyAndStakes ctx vm.vote.slot vm.rank = .ok (k, st, total))
    {certType : CertificateType} (hct : certType ∈ voteToCertTypes vm.vote)
    (hlimit : exactBelowLimit (pool.accumulatedStake vm.vote.slot vm.vote.blockId
      (certificateLimitsAndVoteTypes certType).2) total
      (certificateLimitsAndVoteTypes certType).1 = false)
    {block : Block}
    (hblock : certType = .notarize block.1 block.2 ∨ certType = .finalizeFast block.1 block.2) :
    pool.Supermajority ctx block := by
  have hvote : vm.vote = .notarize block.1 block.2 := by
    apply eq_notarize_of_mem_voteToCertTypes
    rcases hblock with rfl | rfl
    · exact .inl hct
    · exact .inr hct
  obtain ⟨es, hes, hk, rfl, rfl⟩ := StakesContext.getKeyAndStakes_eq_ok.mp hkey
  rw [hvote] at hes hlimit
  simp only [Vote.slot, Vote.blockId] at hes hlimit
  have hvotes : pool.certificateVotes block.1 (some block.2) [.notarize] =
      pool.poolVotes block.1 .notarize (some block.2) := by
    simp [certificateVotes_eq_flatMap]
  -- the voters are ranked in the epoch, so their stake is at most the total stake
  have hle := StakesContext.votersStake_le_rankedStake hes (fun m hm => (h.mem_poolVotes hm).1)
    (h.nodup_poolVotes block.1 .notarize (some block.2))
  have htotal := hstakes _ es hes
  have hbound := es.totalStake.toNat_lt
  -- the sender is ranked with a stake that is not zero, so the total stake is not zero
  have hsender : 0 < (es.voteAccountStake k).toNat :=
    UInt64.lt_iff_toNat_lt.mp (es.stake_pos k (List.mem_of_getElem? hk))
  have hranked := es.stake_le_rankedStake (List.mem_of_getElem? hk)
  have hacc : (pool.accumulatedStake block.1 (some block.2) [.notarize]).toNat =
      ctx.votersStake (pool.poolVotes block.1 .notarize (some block.2)) := by
    rw [h.accumulatedStake_toNat (by rw [hvotes]; omega), hvotes]
  refine ⟨es, hes, ?_⟩
  -- `0.6` and `0.8` of a total stake that is not zero are more than half of it
  rcases hblock with rfl | rfl <;>
    simp [certificateLimitsAndVoteTypes, exactBelowLimit, hacc] at hlimit <;>
    omega

/-- What every vote keeps of a run: the pools track their votes, a block with a `Notarize` or a
`FinalizeFast` certificate has notarize votes of more than half of the stake, and every block an
event of the run announced has such a certificate. -/
structure NotarizationInv (ctx : StakesContext) (pool : ConsensusPool)
    (events : List VotorEvent) : Prop where
  pools : pool.PoolsTrack ctx
  supermajority : ∀ block, pool.Notarizes block → pool.Supermajority ctx block
  announced : ∀ e ∈ events, ∀ block, e.notarizedBlock = some block → pool.Notarizes block

theorem notarizationInv_newFromRootBank (rootBlock : Block) :
    (newFromRootBank rootBlock).NotarizationInv ctx [] where
  pools := poolsTrack_newFromRootBank rootBlock
  supermajority := fun _ h => by rcases h with h | h <;> cases h
  announced := fun _ he => nomatch he

theorem NotarizationInv.addVote
    (hstakes : ctx.TotalCoversRanked)
    {rootSlot : Slot} {myVotePubkey : Pubkey} {vm : VoteMessage} {pool : ConsensusPool}
    {events : List VotorEvent} {out : Outcome} (h : pool.NotarizationInv ctx events)
    (hok : pool.addVote ctx exactBelowLimit rootSlot myVotePubkey vm = .ok (some out)) :
    out.1.NotarizationInv ctx (events ++ out.2.1) := by
  obtain ⟨k, st, total, hkey, -, hconf, mid, counterEvents, certTypes, r, hup, rfl, hmid, hmidc,
    hcounter, hcts⟩ := addVote_eq_ok hok
  have hs := StakesContext.sender_eq_some hkey
  have hpools : mid.PoolsTrack ctx := (h.pools.updateVotePool hs).of_votePools_eq hmid
  have hfinal := updateCertificates_votePools hup
  have hsub : pool.completedCertificates ⊆ r.1.completedCertificates :=
    hmidc ▸ completed_subset_updateCertificates hup
  refine ⟨hpools.of_votePools_eq hfinal, ?_, ?_⟩
  · intro block hblock
    obtain ⟨c, hc, hct⟩ := hblock.exists_mem
    apply Supermajority.of_votePools_eq _ hfinal
    rcases mem_updateCertificates hup hc with hold | ⟨ct, hct', rfl, hlimit⟩
    · -- a certificate from before the vote: its block's notarize stake only grew
      rw [hmidc] at hold
      exact ((h.supermajority block (.of_mem hold hct)).updateVotePool vm k st).of_votePools_eq
        hmid
    · -- a certificate built now, from the pools after the vote
      exact hpools.supermajority_of_built hstakes hkey (hcts ct hct') hlimit hct
  · intro e he block hblock
    rcases List.mem_append.mp he with he | he
    · exact (h.announced e he block hblock).mono hsub
    · rcases List.mem_append.mp he with he | he
      · rw [(hcounter e he).notarizedBlock] at hblock
        cases hblock
      · have hnot := updateCertificates_notarizes hup he hblock
        exact hnot

end ConsensusPool

open ConsensusPool

/-- A block that a run names as notarized: it has a `Notarize` or a `FinalizeFast` certificate,
or a `BlockNotarized` or `Finalized` event names it. -/
def NamedNotarized (result : ConsensusPool × List VotorEvent) (block : Block) : Prop :=
  result.1.Notarizes block ∨ ∃ e ∈ result.2, e.notarizedBlock = some block

/-- Along every sequence of votes, with the certificates' shares compared exactly and every
epoch's total stake covering its ranked validators' stakes, a slot has at most one notarized
block: its `Notarize` and `FinalizeFast` certificates and its `BlockNotarized` and `Finalized`
events all name the same block. -/
theorem notarized_block_unique (ctx : StakesContext) (hstakes : ctx.TotalCoversRanked)
    (rootBlock : Block) (rootSlot : Slot) (myVotePubkey : Pubkey) (votes : List VoteMessage) :
    let result := run ctx exactBelowLimit rootSlot myVotePubkey (votes.map .vote)
      (newFromRootBank rootBlock)
    ∀ slot b b', NamedNotarized result (slot, b) → NamedNotarized result (slot, b') →
      b = b' := by
  intro result slot b b' hb hb'
  have hrun : result.1.NotarizationInv ctx ([] ++ result.2) :=
    run_invariant (fun pool events => pool.NotarizationInv ctx events) []
      (notarizationInv_newFromRootBank rootBlock)
      fun pool events message out hm hinv hok => by
        obtain ⟨vm, -, rfl⟩ := List.mem_map.mp hm
        exact hinv.addVote hstakes hok
  rw [List.nil_append] at hrun
  -- every named block has a certificate, hence notarize votes of more than half of the stake
  have hnotarizes : ∀ {block}, NamedNotarized result block → result.1.Notarizes block := by
    rintro block (h | ⟨e, he, hblock⟩)
    · exact h
    · exact hrun.announced e he block hblock
  exact hrun.pools.supermajority_unique hstakes
    (hrun.supermajority _ (hnotarizes hb)) (hrun.supermajority _ (hnotarizes hb'))

/-! ## A run the theorem covers -/

/-- Three validators of one lamport each, the whole stake of the epoch. -/
def trioStakes : EpochStakes where
  rankMap := [⟨1⟩, ⟨2⟩, ⟨3⟩]
  voteAccountStake _ := 1
  totalStake := 3
  stake_pos := fun _ _ => by decide

/-- The same three validators in every epoch. -/
def trioContext : StakesContext := ⟨fun _ => 0, fun _ => some trioStakes⟩

/-- Two of the validators notarize one block of slot 1, the third another. -/
def splitNotarizeVotes : List VoteMessage :=
  [⟨.notarize 1 ⟨1⟩, 0⟩, ⟨.notarize 1 ⟨2⟩, 1⟩,
    ⟨.notarize 1 ⟨1⟩, 2⟩]

theorem split_notarization_unique :
    trioContext.TotalCoversRanked ∧
      let result := run trioContext exactBelowLimit 0 observerKey
        (splitNotarizeVotes.map .vote) (newFromRootBank genesisBlock)
      ∀ slot b b', NamedNotarized result (slot, b) → NamedNotarized result (slot, b') →
        b = b' := by
  have hstakes : trioContext.TotalCoversRanked := by
    intro slot es hes
    cases hes
    decide +kernel
  exact ⟨hstakes, notarized_block_unique trioContext hstakes genesisBlock 0 observerKey
    splitNotarizeVotes⟩

end TRv1.Votor
