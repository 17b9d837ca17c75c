import TRv1.Votor.Pools

/-!
# Certificates count each validator once

`update_certificates` builds a certificate from the pools its type adds up. Since those pools
track their votes and are exclusive (`TRv1.Votor.Pools`), the certificate aggregates votes of
distinct ranked validators of its slot, and their stakes add up to the stake compared with the
certificate's limit (`countedOnce_of_built`): the pools add with `saturating_add`, but an epoch's
total stake, a `u64`, covers its ranked validators' stakes, so no sum saturates.

* `PoolsExclusive` is what every message keeps of the pools, whatever the stakes
  (`run_exclusive`).
* `CountsOnce` adds that every completed certificate counts each validator once, which every
  vote keeps; `votes_counted_once` says both along every sequence of votes from the new pool.
-/

set_option autoImplicit false

namespace TRv1.Votor

/-- Every epoch's total stake covers the stakes of its ranked validators. -/
def StakesContext.TotalCoversRanked (ctx : StakesContext) : Prop :=
  ∀ slot es, ctx.epochStakes slot = some es → es.rankedStake ≤ es.totalStake.toNat

/-- A certificate that counts every validator once: it is of its own type, its votes are of its
slot and from ranked validators, no validator twice, and their stakes add up to the stake that
reached the certificate's share of the epoch's total stake. -/
structure CountedOnce (ctx : StakesContext) (belowLimit : LimitTest) (certType : CertificateType)
    (cert : Certificate) : Prop where
  certType_eq : cert.certType = certType
  vote_mem : ∀ m ∈ cert.votes, m.vote.slot = certType.slot ∧ (ctx.sender m).isSome
  nodup : (ctx.voters cert.votes).Nodup
  reaches : ∃ es, ctx.epochStakes certType.slot = some es ∧ ∃ accumulated : Stake,
    accumulated.toNat = ctx.votersStake cert.votes ∧
    belowLimit accumulated es.totalStake (certificateLimitsAndVoteTypes certType).1 = false

theorem slot_of_mem_voteToCertTypes {vote : Vote} {certType : CertificateType}
    (h : certType ∈ voteToCertTypes vote) : certType.slot = vote.slot := by
  cases vote <;> simp only [voteToCertTypes, List.mem_cons, List.not_mem_nil, or_false] at h <;>
    rcases h with rfl | rfl | rfl <;> rfl

namespace ConsensusPool

variable {ctx : StakesContext}

/-- The pools a certificate adds up are pairwise apart. -/
theorem Exclusive.pairwise_apart {pool : ConsensusPool} (hex : pool.Exclusive ctx)
    (certType : CertificateType) :
    (certificateLimitsAndVoteTypes certType).2.Pairwise (pool.Apart ctx) := by
  cases certType <;> simp [certificateLimitsAndVoteTypes, hex.1, hex.2]

/-- The stake a certificate adds up is its voters' stake, while that stays below `2 ^ 64`: no
pool saturates and the sum over the pools does not wrap. -/
theorem PoolsTrack.accumulatedStake_toNat {pool : ConsensusPool} (h : pool.PoolsTrack ctx)
    {slot : Slot} {blockId : Option Hash} {voteTypes : List VoteType}
    (hlt : ctx.votersStake (pool.certificateVotes slot blockId voteTypes) < 2 ^ 64) :
    (pool.accumulatedStake slot blockId voteTypes).toNat =
      ctx.votersStake (pool.certificateVotes slot blockId voteTypes) := by
  have hterms : ((voteTypes.filterMap fun voteType =>
      (pool.votePools slot voteType).map (·.stakeFor blockId)).map UInt64.toNat).sum =
      ctx.votersStake (pool.certificateVotes slot blockId voteTypes) := by
    rw [certificateVotes_eq_flatMap] at hlt ⊢
    induction voteTypes with
    | nil => rfl
    | cons voteType rest ih =>
      rw [List.flatMap_cons, StakesContext.votersStake_append] at hlt ⊢
      cases hp : pool.votePools slot voteType with
      | none =>
        have hnone : pool.poolVotes slot voteType blockId = [] := by simp [poolVotes, hp]
        rw [List.filterMap_cons_none (by simp [hp]), hnone, StakesContext.votersStake_nil,
          Nat.zero_add, ih (by omega)]
      | some vp =>
        have hsome : pool.poolVotes slot voteType blockId = vp.votesFor blockId := by
          simp [poolVotes, hp]
        simp only [List.filterMap_cons, hp, Option.map_some, List.map_cons, List.sum_cons]
        rw [h.stakeFor_toNat hp, ih (by omega), hsome]
        rw [hsome] at hlt
        omega
  unfold accumulatedStake
  rw [RustInt.foldl_add_toNat_of_lt 0 _ (by rw [hterms]; simpa using hlt), hterms]
  simp

/-- A certificate built from pools that track their votes and are exclusive counts every
validator once, in an epoch whose total stake covers its ranked validators' stakes. -/
theorem countedOnce_of_built (hstakes : ctx.TotalCoversRanked) {belowLimit : LimitTest}
    {pool : ConsensusPool} (h : pool.PoolsTrack ctx) (hex : pool.Exclusive ctx)
    {vm : VoteMessage} {k : Pubkey} {st total : Stake}
    (hkey : getKeyAndStakes ctx vm.vote.slot vm.rank = .ok (k, st, total))
    {certType : CertificateType} (hct : certType ∈ voteToCertTypes vm.vote)
    (hlimit : belowLimit (pool.accumulatedStake vm.vote.slot vm.vote.blockId
      (certificateLimitsAndVoteTypes certType).2) total
      (certificateLimitsAndVoteTypes certType).1 = false) :
    CountedOnce ctx belowLimit certType ⟨certType, pool.certificateVotes vm.vote.slot
      vm.vote.blockId (certificateLimitsAndVoteTypes certType).2⟩ := by
  obtain ⟨es, hes, -, -, rfl⟩ := StakesContext.getKeyAndStakes_eq_ok.mp hkey
  have hslot := slot_of_mem_voteToCertTypes hct
  have hmem : ∀ m ∈ pool.certificateVotes vm.vote.slot vm.vote.blockId
      (certificateLimitsAndVoteTypes certType).2,
      m.vote.slot = vm.vote.slot ∧ (ctx.sender m).isSome := by
    intro m hm
    rw [certificateVotes_eq_flatMap, List.mem_flatMap] at hm
    obtain ⟨voteType, -, hm⟩ := hm
    obtain ⟨hs, -, hsender⟩ := h.mem_poolVotes hm
    exact ⟨hs, hsender⟩
  -- each pool has no voter twice, and the pools added up have no voter in common
  have hnodup : (ctx.voters (pool.certificateVotes vm.vote.slot vm.vote.blockId
      (certificateLimitsAndVoteTypes certType).2)).Nodup := by
    rw [certificateVotes_eq_flatMap, StakesContext.voters_flatMap, List.nodup_flatMap]
    refine ⟨fun voteType _ => h.nodup_poolVotes _ _ _, ?_⟩
    exact (hex.pairwise_apart certType).imp fun hapart _ hk₁ hk₂ => hapart _ _ _ hk₁ hk₂
  -- the voters' stake is at most the ranked stake, which the `u64` total covers
  have hlt := lt_of_le_of_lt
    (StakesContext.votersStake_le_rankedStake hes (fun m hm => (hmem m hm).1) hnodup)
    ((hstakes _ es hes).trans_lt es.totalStake.toNat_lt)
  refine ⟨rfl, fun m hm => hslot ▸ hmem m hm, hnodup, ?_⟩
  rw [hslot]
  exact ⟨es, hes, _, h.accumulatedStake_toNat hlt, hlimit⟩

/-- What every message keeps of the pools: they track their votes, and the paired pools have no
voter in common. -/
structure PoolsExclusive (ctx : StakesContext) (pool : ConsensusPool) : Prop where
  pools : pool.PoolsTrack ctx
  exclusive : pool.Exclusive ctx

theorem poolsExclusive_newFromRootBank (rootBlock : Block) :
    (newFromRootBank rootBlock).PoolsExclusive ctx where
  pools := poolsTrack_newFromRootBank rootBlock
  exclusive := ⟨apart_newFromRootBank rootBlock _ _, apart_newFromRootBank rootBlock _ _⟩

theorem PoolsExclusive.of_votePools_eq {pool pool' : ConsensusPool} (h : pool.PoolsExclusive ctx)
    (heq : pool'.votePools = pool.votePools) : pool'.PoolsExclusive ctx :=
  ⟨h.pools.of_votePools_eq heq, h.exclusive.of_votePools_eq heq⟩

theorem PoolsExclusive.updateVotePool {pool : ConsensusPool} (h : pool.PoolsExclusive ctx)
    {m : VoteMessage} {k : Pubkey} {st : Stake} (hs : ctx.sender m = some (k, st))
    (hconf : pool.hasConflictingVote m.vote.slot m.vote.getType k m.vote.blockId = none) :
    (pool.updateVotePool m k st).1.PoolsExclusive ctx :=
  ⟨h.pools.updateVotePool hs, h.exclusive.updateVotePool h.pools hs hconf⟩

section Run

variable {belowLimit : LimitTest} {rootSlot : Slot} {myVotePubkey : Pubkey}

/-- The pools as an accepted vote leaves them, before its certificates are updated. -/
theorem PoolsExclusive.addVote_mid {pool : ConsensusPool} (h : pool.PoolsExclusive ctx)
    {vm : VoteMessage} {k : Pubkey} {st total : Stake} {mid : ConsensusPool}
    (hkey : getKeyAndStakes ctx vm.vote.slot vm.rank = .ok (k, st, total))
    (hconf : pool.hasConflictingVote vm.vote.slot vm.vote.getType k vm.vote.blockId = none)
    (hmid : mid.votePools = (pool.updateVotePool vm k st).1.votePools) :
    mid.PoolsExclusive ctx :=
  (h.updateVotePool (StakesContext.sender_eq_some hkey) hconf).of_votePools_eq hmid

theorem PoolsExclusive.addMessage {pool : ConsensusPool} (h : pool.PoolsExclusive ctx)
    {message : ConsensusMessage} {out : Outcome}
    (hok : pool.addMessage ctx belowLimit rootSlot myVotePubkey message = .ok (some out)) :
    out.1.PoolsExclusive ctx := by
  cases message with
  | vote vm =>
    obtain ⟨k, st, total, hkey, -, hconf, mid, counterEvents, certTypes, r, hup, rfl, hmid, -⟩ :=
      addVote_eq_ok hok
    have hfinal := updateCertificates_votePools hup
    exact (h.addVote_mid hkey hconf hmid).of_votePools_eq hfinal
  | certificate cert =>
    -- a certificate leaves the vote pools as they are
    exact h.of_votePools_eq (addCertificate_votePools hok)

end Run

/-- What every vote keeps of the consensus pool: its pools track their votes and are exclusive,
and every completed certificate counts each validator once. -/
structure CountsOnce (ctx : StakesContext) (belowLimit : LimitTest) (pool : ConsensusPool) :
    Prop extends PoolsExclusive ctx pool where
  certs : ∀ c ∈ pool.completedCertificates, CountedOnce ctx belowLimit c.1 c.2

theorem countsOnce_newFromRootBank (belowLimit : LimitTest) (rootBlock : Block) :
    (newFromRootBank rootBlock).CountsOnce ctx belowLimit where
  toPoolsExclusive := poolsExclusive_newFromRootBank rootBlock
  certs := fun _ hc => nomatch hc

theorem CountsOnce.addVote (hstakes : ctx.TotalCoversRanked) {belowLimit : LimitTest}
    {rootSlot : Slot} {myVotePubkey : Pubkey} {vm : VoteMessage} {pool : ConsensusPool}
    {out : Outcome} (h : pool.CountsOnce ctx belowLimit)
    (hok : pool.addVote ctx belowLimit rootSlot myVotePubkey vm = .ok (some out)) :
    out.1.CountsOnce ctx belowLimit := by
  obtain ⟨k, st, total, hkey, -, hconf, mid, counterEvents, certTypes, r, hup, rfl, hmid, hmidc,
    -, hcts⟩ := addVote_eq_ok hok
  -- the certificates are built from the pools as they are after the vote
  have hmidpe : mid.PoolsExclusive ctx := h.addVote_mid hkey hconf hmid
  have hfinal := updateCertificates_votePools hup
  refine ⟨hmidpe.of_votePools_eq hfinal, ?_⟩
  intro c hc
  rcases mem_updateCertificates hup hc with hold | ⟨ct, hct, rfl, hlimit⟩
  · rw [hmidc] at hold
    exact h.certs c hold
  · exact countedOnce_of_built hstakes hmidpe.pools hmidpe.exclusive hkey (hcts ct hct) hlimit

/-- Along every sequence of messages, no validator is in both the `Notarize` and the
`NotarizeFallback` pool toward a block, or in both the `Skip` and the `SkipFallback` pool of a
slot. -/
theorem run_exclusive (ctx : StakesContext) (belowLimit : LimitTest) (rootBlock : Block)
    (rootSlot : Slot) (myVotePubkey : Pubkey) (messages : List ConsensusMessage) :
    (run ctx belowLimit rootSlot myVotePubkey messages (newFromRootBank rootBlock)).1.Exclusive
      ctx :=
  (run_induction (fun pool => pool.PoolsExclusive ctx) (poolsExclusive_newFromRootBank rootBlock)
    fun _ _ _ _ hinv hok => hinv.addMessage hok).exclusive

end ConsensusPool

open ConsensusPool

/-- Along every sequence of votes, no validator is in both the `Notarize` and the
`NotarizeFallback` pool toward a block, or in both the `Skip` and the `SkipFallback` pool of a
slot, and, when every epoch's total stake covers its ranked validators' stakes, every completed
certificate aggregates votes of distinct ranked validators whose stakes add up to the stake that
reached its limit. -/
theorem votes_counted_once (ctx : StakesContext) (hstakes : ctx.TotalCoversRanked)
    (belowLimit : LimitTest) (rootBlock : Block) (rootSlot : Slot) (myVotePubkey : Pubkey)
    (votes : List VoteMessage) :
    let pool := (run ctx belowLimit rootSlot myVotePubkey (votes.map .vote)
      (newFromRootBank rootBlock)).1
    pool.Exclusive ctx ∧
      ∀ c ∈ pool.completedCertificates, CountedOnce ctx belowLimit c.1 c.2 := by
  intro pool
  have hrun : pool.CountsOnce ctx belowLimit :=
    run_induction _ (countsOnce_newFromRootBank belowLimit rootBlock)
      fun pool message out hm hinv hok => by
        obtain ⟨vm, -, rfl⟩ := List.mem_map.mp hm
        exact hinv.addVote hstakes hok
  exact ⟨run_exclusive ctx belowLimit rootBlock rootSlot myVotePubkey _, hrun.certs⟩

/-- Two ranked validators of the same stake; the epoch's total stake is `u64::MAX`. -/
def pairStakes (stake : Stake) (hstake : 0 < stake) : EpochStakes where
  rankMap := [⟨1⟩, ⟨2⟩]
  voteAccountStake _ := stake
  totalStake := RustInt.u64Max
  stake_pos := fun _ _ => hstake

/-- The same two validators in every epoch. -/
def pairContext (stake : Stake) (hstake : 0 < stake) : StakesContext :=
  ⟨fun _ => 0, fun _ => some (pairStakes stake hstake)⟩

/-- Both validators vote to skip slot 1. -/
def pairSkipVotes : List VoteMessage := [⟨.skip 1, 0⟩, ⟨.skip 1, 1⟩]

/-- The genesis block, the root of the run below. -/
def genesisBlock : Block := (0, ⟨0⟩)

/-- A node that is not one of the two validators. -/
def observerKey : Pubkey := ⟨0⟩

theorem pair_votes_counted_once :
    (pairContext 4611686018427387904 (by decide)).TotalCoversRanked ∧
      let pool := (run (pairContext 4611686018427387904 (by decide)) f64BelowLimit 0 observerKey
        (pairSkipVotes.map .vote) (newFromRootBank genesisBlock)).1
      pool.Exclusive (pairContext 4611686018427387904 (by decide)) ∧
        ∀ c ∈ pool.completedCertificates,
          CountedOnce (pairContext 4611686018427387904 (by decide)) f64BelowLimit c.1 c.2 := by
  have hstakes : (pairContext 4611686018427387904 (by decide)).TotalCoversRanked := by
    intro slot es hes
    cases hes
    decide +kernel
  exact ⟨hstakes,
    votes_counted_once _ hstakes f64BelowLimit genesisBlock 0 observerKey pairSkipVotes⟩

end TRv1.Votor
