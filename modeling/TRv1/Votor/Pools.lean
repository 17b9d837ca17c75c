import TRv1.Votor.Spec
import Mathlib

/-!
# No validator is counted twice

A vote pool keeps one vote per validator, or per validator and block, and the conflict check of
`add_vote` (`has_conflicting_vote`, by `conflictingTypes`) keeps a validator out of the pool paired
with one it has voted in: the `Notarize` and `NotarizeFallback` pools toward one block, and the
`Skip` and `SkipFallback` pools of a slot. So every certificate aggregates votes of distinct
validators.

* A vote's sender is the validator at its rank in the epoch of its slot (`StakesContext.sender`);
  `voters` and `votersStake` read the senders of a list of votes and add up their stakes.
* `Tracks` says what each pool holds in terms of the votes it kept: votes of its slot and type
  from ranked validators, no validator twice, the validators (and blocks) it remembers, and its
  total, the saturating sum of the senders' stakes. `PoolsTrack` says every pool of the consensus
  pool is of the kind `new_vote_pool` makes for its type and tracks its votes; `Apart` says no
  validator has votes toward one certificate in both pools of a pair, and `Exclusive` names the
  two pairs. A vote keeps all of them (`PoolsTrack.updateVotePool`, `Apart.updateVotePool`).

The votes of distinct validators of one slot hold at most the epoch's ranked stake, the stakes of
its ranked validators added up once each (`votersStake_le_rankedStake`).
-/

set_option autoImplicit false

namespace TRv1.Votor

/-! ## Senders -/

namespace StakesContext

variable (ctx : StakesContext)

/-- The sender of a vote message and its stake: the validator at the message's rank in the epoch
of its slot, as `add_vote` looks it up. -/
def sender (m : VoteMessage) : Option (Pubkey × Stake) :=
  match getKeyAndStakes ctx m.vote.slot m.rank with
  | .ok (key, stake, _) => some (key, stake)
  | .error _ => none

/-- The vote keys of the senders of a list of votes. -/
def voters (votes : List VoteMessage) : List Pubkey :=
  (votes.filterMap ctx.sender).map Prod.fst

/-- The stakes of the senders of a list of votes, added up. -/
def votersStake (votes : List VoteMessage) : Nat :=
  ((votes.filterMap ctx.sender).map fun s => s.2.toNat).sum

variable {ctx}

theorem sender_eq_some {m : VoteMessage} {k : Pubkey} {st total : Stake}
    (h : getKeyAndStakes ctx m.vote.slot m.rank = .ok (k, st, total)) :
    ctx.sender m = some (k, st) := by
  simp [sender, h]

theorem getKeyAndStakes_eq_ok {slot : Slot} {rank : UInt16} {k : Pubkey} {st total : Stake} :
    getKeyAndStakes ctx slot rank = .ok (k, st, total) ↔
      ∃ es, ctx.epochStakes slot = some es ∧ es.rankMap[rank.toNat]? = some k ∧
        st = es.voteAccountStake k ∧ total = es.totalStake := by
  unfold getKeyAndStakes
  cases hes : ctx.epochStakes slot with
  | none => simp
  | some es =>
    simp only [Option.some.injEq, exists_eq_left']
    split
    · rename_i hk
      simp [hk]
    · rename_i key hk
      simp only [Except.ok.injEq, Prod.mk.injEq, hk, Option.some.injEq]
      constructor
      · rintro ⟨rfl, rfl, rfl⟩
        exact ⟨rfl, rfl, rfl⟩
      · rintro ⟨rfl, rfl, rfl⟩
        exact ⟨rfl, rfl, rfl⟩

theorem sender_eq_some_iff {m : VoteMessage} {k : Pubkey} {st : Stake} :
    ctx.sender m = some (k, st) ↔ ∃ es, ctx.epochStakes m.vote.slot = some es ∧
      es.rankMap[m.rank.toNat]? = some k ∧ st = es.voteAccountStake k := by
  unfold sender
  cases h : getKeyAndStakes ctx m.vote.slot m.rank with
  | error e =>
    simp only [reduceCtorEq, false_iff, not_exists, not_and]
    intro es hes hk hst
    rw [getKeyAndStakes_eq_ok.mpr ⟨es, hes, hk, hst, rfl⟩] at h
    cases h
  | ok r =>
    obtain ⟨k', st', total⟩ := r
    obtain ⟨es, hes, hk', rfl, rfl⟩ := getKeyAndStakes_eq_ok.mp h
    simp only [Option.some.injEq, Prod.mk.injEq]
    constructor
    · rintro ⟨rfl, rfl⟩
      exact ⟨es, hes, hk', rfl⟩
    · rintro ⟨es', hes', hk, rfl⟩
      rw [hes] at hes'
      cases hes'
      rw [hk'] at hk
      cases hk
      exact ⟨rfl, rfl⟩

@[simp] theorem voters_nil : ctx.voters [] = [] := rfl

@[simp] theorem voters_append (a b : List VoteMessage) :
    ctx.voters (a ++ b) = ctx.voters a ++ ctx.voters b := by
  simp [voters]

theorem voters_singleton {m : VoteMessage} {k : Pubkey} {st : Stake}
    (h : ctx.sender m = some (k, st)) : ctx.voters [m] = [k] := by
  simp [voters, h]

@[simp] theorem votersStake_nil : ctx.votersStake [] = 0 := rfl

@[simp] theorem votersStake_append (a b : List VoteMessage) :
    ctx.votersStake (a ++ b) = ctx.votersStake a + ctx.votersStake b := by
  simp [votersStake]

theorem votersStake_singleton {m : VoteMessage} {k : Pubkey} {st : Stake}
    (h : ctx.sender m = some (k, st)) : ctx.votersStake [m] = st.toNat := by
  simp [votersStake, h]

theorem mem_voters {k : Pubkey} {votes : List VoteMessage} :
    k ∈ ctx.voters votes ↔ ∃ m ∈ votes, ∃ st, ctx.sender m = some (k, st) := by
  simp only [voters, List.mem_map, List.mem_filterMap, Prod.exists, exists_and_right,
    exists_eq_right]
  constructor
  · rintro ⟨st, m, hm, hs⟩
    exact ⟨m, hm, st, hs⟩
  · rintro ⟨m, hm, st, hs⟩
    exact ⟨st, m, hm, hs⟩

theorem voters_flatMap {α : Type} (l : List α) (f : α → List VoteMessage) :
    ctx.voters (l.flatMap f) = l.flatMap fun a => ctx.voters (f a) := by
  induction l with
  | nil => rfl
  | cons a l ih => simp [List.flatMap_cons, ih]

theorem votersStake_flatMap {α : Type} (l : List α) (f : α → List VoteMessage) :
    ctx.votersStake (l.flatMap f) = (l.map fun a => ctx.votersStake (f a)).sum := by
  induction l with
  | nil => rfl
  | cons a l ih => simp [List.flatMap_cons, ih]

end StakesContext

/-- The stakes of an epoch's ranked validators added up, each validator once. -/
def EpochStakes.rankedStake (es : EpochStakes) : Nat :=
  ∑ k ∈ es.rankMap.toFinset, (es.voteAccountStake k).toNat

/-- Votes of one slot from distinct validators hold at most the epoch's ranked stake. -/
theorem StakesContext.votersStake_le_rankedStake {ctx : StakesContext} {votes : List VoteMessage}
    {slot : Slot} {es : EpochStakes} (hes : ctx.epochStakes slot = some es)
    (hslot : ∀ m ∈ votes, m.vote.slot = slot) (hnodup : (ctx.voters votes).Nodup) :
    ctx.votersStake votes ≤ es.rankedStake := by
  -- every sender is ranked in the epoch, with its stake there
  have hsender : ∀ p ∈ votes.filterMap ctx.sender,
      p.1 ∈ es.rankMap ∧ p.2 = es.voteAccountStake p.1 := by
    rintro ⟨k, st⟩ hp
    obtain ⟨m, hm, hs⟩ := List.mem_filterMap.mp hp
    obtain ⟨es', hes', hk, rfl⟩ := sender_eq_some_iff.mp hs
    rw [hslot m hm, hes] at hes'
    cases hes'
    exact ⟨List.mem_of_getElem? hk, rfl⟩
  have hmap : (votes.filterMap ctx.sender).map (fun p => p.2.toNat) =
      (ctx.voters votes).map fun k => (es.voteAccountStake k).toNat := by
    rw [voters, List.map_map]
    apply List.map_congr_left
    intro p hp
    simp [(hsender p hp).2]
  have hsub : (ctx.voters votes).toFinset ⊆ es.rankMap.toFinset := by
    intro k hk
    obtain ⟨p, hp, rfl⟩ := List.mem_map.mp (List.mem_toFinset.mp hk)
    exact List.mem_toFinset.mpr (hsender p hp).1
  calc ctx.votersStake votes
      = ((ctx.voters votes).map fun k => (es.voteAccountStake k).toNat).sum := by
        rw [votersStake, hmap]
    _ = ∑ k ∈ (ctx.voters votes).toFinset, (es.voteAccountStake k).toNat :=
        (List.sum_toFinset _ hnodup).symm
    _ ≤ es.rankedStake := Finset.sum_le_sum_of_subset hsub

/-! ## What each pool holds -/

namespace SimpleVotePool

/-- What a simple pool of `slot` and `voteType` holds: votes of that slot and type from ranked
validators, no validator twice; the validators it remembers are their senders, and its total is
the saturating sum of their stakes. -/
structure Tracks (ctx : StakesContext) (slot : Slot) (voteType : VoteType)
    (p : SimpleVotePool) : Prop where
  vote_mem : ∀ m ∈ p.votes,
    m.vote.slot = slot ∧ m.vote.getType = voteType ∧ (ctx.sender m).isSome
  mem_prev : ∀ k, k ∈ p.prevVotedValidators ↔ k ∈ ctx.voters p.votes
  nodup : (ctx.voters p.votes).Nodup
  total : p.totalStake.toNat = min (ctx.votersStake p.votes) (2 ^ 64 - 1)

variable {ctx : StakesContext} {slot : Slot} {voteType : VoteType}

theorem tracks_empty : empty.Tracks ctx slot voteType where
  vote_mem := by simp [empty]
  mem_prev := by simp [empty]
  nodup := by simp [empty]
  total := by simp [empty]

theorem Tracks.addVote {p : SimpleVotePool} (h : p.Tracks ctx slot voteType) {m : VoteMessage}
    {k : Pubkey} {st : Stake} (hslot : m.vote.slot = slot) (htype : m.vote.getType = voteType)
    (hs : ctx.sender m = some (k, st)) : (p.addVote k st m).1.Tracks ctx slot voteType := by
  unfold SimpleVotePool.addVote
  split_ifs with hk
  · exact h
  · have hnew : k ∉ ctx.voters p.votes := fun h' => hk ((h.mem_prev k).mpr h')
    refine ⟨?_, ?_, ?_, ?_⟩
    · intro m' hm'
      rcases List.mem_append.mp hm' with hm' | hm'
      · exact h.vote_mem m' hm'
      · rw [List.mem_singleton.mp hm']
        exact ⟨hslot, htype, by simp [hs]⟩
    · intro k'
      rw [StakesContext.voters_append, StakesContext.voters_singleton hs, List.mem_cons,
        List.mem_append, List.mem_singleton, h.mem_prev]
      exact or_comm
    · rw [StakesContext.voters_append, StakesContext.voters_singleton hs]
      exact h.nodup.append (List.nodup_singleton k) (List.disjoint_singleton.mpr hnew)
    · rw [RustInt.saturatingAdd_toNat, StakesContext.votersStake_append,
        StakesContext.votersStake_singleton hs, h.total]
      omega

end SimpleVotePool

/-- What the entry of block `blockId` holds: votes of the slot and type for that block from
ranked validators, no validator twice, and the saturating sum of their stakes. -/
structure VoteEntry.Tracks (ctx : StakesContext) (slot : Slot) (voteType : VoteType)
    (blockId : Hash) (e : VoteEntry) : Prop where
  vote_mem : ∀ m ∈ e.votes, m.vote.slot = slot ∧ m.vote.getType = voteType ∧
    m.vote.blockId = some blockId ∧ (ctx.sender m).isSome
  nodup : (ctx.voters e.votes).Nodup
  total : e.totalStakeByKey.toNat = min (ctx.votersStake e.votes) (2 ^ 64 - 1)

theorem VoteEntry.tracks_empty {ctx : StakesContext} {slot : Slot} {voteType : VoteType}
    {blockId : Hash} : VoteEntry.empty.Tracks ctx slot voteType blockId where
  vote_mem := by simp [VoteEntry.empty]
  nodup := by simp [VoteEntry.empty]
  total := by simp [VoteEntry.empty]

namespace DuplicateBlockVotePool

/-- What a duplicate-block pool holds: every entry tracks its block's votes, a validator with a
vote for a block remembers that block, and no validator remembers more blocks than the pool's
bound. -/
structure Tracks (ctx : StakesContext) (slot : Slot) (voteType : VoteType)
    (p : DuplicateBlockVotePool) : Prop where
  entry : ∀ b e, p.voteEntries b = some e → e.Tracks ctx slot voteType b
  voted : ∀ b e k, p.voteEntries b = some e → k ∈ ctx.voters e.votes →
    ∃ l, p.prevVotedBlockIds k = some l ∧ b ∈ l
  prev_length : ∀ k l, p.prevVotedBlockIds k = some l → l.length ≤ p.maxEntriesPerPubkey

variable {ctx : StakesContext} {slot : Slot} {voteType : VoteType}

theorem tracks_new (n : Nat) (hn : 0 < n) : (new n hn).Tracks ctx slot voteType where
  entry := by simp [new]
  voted := by simp [new]
  prev_length := by simp [new]

theorem maxEntriesPerPubkey_addVote (p : DuplicateBlockVotePool) (k : Pubkey) (st : Stake)
    (m : VoteMessage) : (p.addVote k st m).1.maxEntriesPerPubkey = p.maxEntriesPerPubkey := by
  unfold DuplicateBlockVotePool.addVote
  split
  · rfl
  · dsimp only
    split_ifs <;> rfl

section Tracks

variable {p : DuplicateBlockVotePool} (h : p.Tracks ctx slot voteType)
include h

/-- The entry a vote for `b` is added to, created empty if need be. -/
theorem Tracks.entry_getD (b : Hash) :
    ((p.voteEntries b).getD VoteEntry.empty).Tracks ctx slot voteType b := by
  cases he : p.voteEntries b with
  | none => exact VoteEntry.tracks_empty
  | some e => exact h.entry b e he

theorem Tracks.voted_getD {b : Hash} {k : Pubkey}
    (hk : k ∈ ctx.voters ((p.voteEntries b).getD VoteEntry.empty).votes) :
    b ∈ (p.prevVotedBlockIds k).getD [] := by
  cases he : p.voteEntries b with
  | none => simp [he, VoteEntry.empty] at hk
  | some e =>
    rw [he, Option.getD_some] at hk
    obtain ⟨l, hl, hb⟩ := h.voted b e k he hk
    rw [hl, Option.getD_some]
    exact hb

theorem Tracks.addVote {m : VoteMessage} {k : Pubkey} {st : Stake} (hslot : m.vote.slot = slot)
    (htype : m.vote.getType = voteType) (hs : ctx.sender m = some (k, st)) :
    (p.addVote k st m).1.Tracks ctx slot voteType := by
  unfold DuplicateBlockVotePool.addVote
  cases hb : m.vote.blockId with
  | none => exact h
  | some b =>
    dsimp only
    split_ifs with hrefused
    · -- refused: the validator's blocks are written back as they were
      dsimp only
      refine ⟨h.entry, ?_, ?_⟩
      · intro b' e k' he hk'
        obtain ⟨l, hl, hb'⟩ := h.voted b' e k' he hk'
        by_cases hkk : k' = k
        · subst hkk
          exact ⟨l, by simp [hl], hb'⟩
        · exact ⟨l, by simp [Function.update_of_ne hkk, hl], hb'⟩
      · intro k' l hl
        by_cases hkk : k' = k
        · subst hkk
          simp only [Function.update_self, Option.some.injEq] at hl
          subst hl
          cases hp : p.prevVotedBlockIds k' with
          | none => simp
          | some l' => simpa using h.prev_length k' l' hp
        · simp only [Function.update_of_ne hkk] at hl
          exact h.prev_length k' l hl
    · -- kept: the vote joins its block's entry and the block the validator's blocks
      dsimp only
      obtain ⟨hnew, hroom⟩ := not_or.mp hrefused
      have hentry := h.entry_getD b
      have hk : k ∉ ctx.voters ((p.voteEntries b).getD VoteEntry.empty).votes :=
        fun hk => hnew (h.voted_getD hk)
      refine ⟨?_, ?_, ?_⟩
      · intro b' e' he'
        by_cases hbb : b' = b
        · subst hbb
          simp only [Function.update_self, Option.some.injEq] at he'
          subst he'
          refine ⟨?_, ?_, ?_⟩
          · intro m' hm'
            rcases List.mem_append.mp hm' with hm' | hm'
            · exact hentry.vote_mem m' hm'
            · rw [List.mem_singleton.mp hm']
              exact ⟨hslot, htype, hb, by simp [hs]⟩
          · rw [StakesContext.voters_append, StakesContext.voters_singleton hs]
            exact hentry.nodup.append (List.nodup_singleton k) (List.disjoint_singleton.mpr hk)
          · rw [RustInt.saturatingAdd_toNat, StakesContext.votersStake_append,
              StakesContext.votersStake_singleton hs, hentry.total]
            omega
        · simp only [Function.update_of_ne hbb] at he'
          exact h.entry b' e' he'
      · intro b' e' k' he' hk'
        -- the blocks the validator remembers now, when it is the sender
        have hprev : ∀ b'', b'' ∈ (p.prevVotedBlockIds k).getD [] ∨ b'' = b →
            ∃ l, Function.update p.prevVotedBlockIds k
              (some ((p.prevVotedBlockIds k).getD [] ++ [b])) k = some l ∧ b'' ∈ l := by
          intro b'' hb''
          exact ⟨_, Function.update_self .., List.mem_append.mpr
            (hb''.imp id List.mem_singleton.mpr)⟩
        by_cases hbb : b' = b
        · subst hbb
          simp only [Function.update_self, Option.some.injEq] at he'
          subst he'
          rw [StakesContext.voters_append, StakesContext.voters_singleton hs, List.mem_append,
            List.mem_singleton] at hk'
          by_cases hkk : k' = k
          · subst hkk
            exact hprev b' (.inr rfl)
          · have hold := h.voted_getD (hk'.resolve_right hkk)
            simp only [Function.update_of_ne hkk]
            cases hp : p.prevVotedBlockIds k' with
            | none => simp [hp] at hold
            | some l => exact ⟨l, rfl, by simpa [hp] using hold⟩
        · simp only [Function.update_of_ne hbb] at he'
          obtain ⟨l, hl, hb'⟩ := h.voted b' e' k' he' hk'
          by_cases hkk : k' = k
          · subst hkk
            exact hprev b' (.inl (by simpa [hl] using hb'))
          · exact ⟨l, by simp only [Function.update_of_ne hkk, hl], hb'⟩
      · intro k' l hl
        by_cases hkk : k' = k
        · subst hkk
          simp only [Function.update_self, Option.some.injEq] at hl
          subst hl
          rw [List.length_append, List.length_singleton]
          show _ ≤ p.maxEntriesPerPubkey
          omega
        · simp only [Function.update_of_ne hkk] at hl
          exact h.prev_length k' l hl

end Tracks

end DuplicateBlockVotePool

/-! ## Pools of either kind -/

namespace VotePool

/-- The bound of a duplicate-block pool on the blocks a validator votes for; a simple pool has
none. -/
def bound : VotePool → Option Nat
  | .simpleVotePool _ => none
  | .duplicateBlockVotePool p => some p.maxEntriesPerPubkey

/-- What a pool holds, by its kind. -/
def Tracks (ctx : StakesContext) (slot : Slot) (voteType : VoteType) : VotePool → Prop
  | .simpleVotePool p => p.Tracks ctx slot voteType
  | .duplicateBlockVotePool p => p.Tracks ctx slot voteType

variable {ctx : StakesContext} {slot : Slot} {voteType : VoteType}

theorem bound_addVote (vp : VotePool) (k : Pubkey) (st : Stake) (m : VoteMessage) :
    (vp.addVote k st m).1.bound = vp.bound := by
  cases vp with
  | simpleVotePool p => rfl
  | duplicateBlockVotePool p =>
    show some (p.addVote k st m).1.maxEntriesPerPubkey = some p.maxEntriesPerPubkey
    rw [DuplicateBlockVotePool.maxEntriesPerPubkey_addVote]

theorem Tracks.addVote {vp : VotePool} (h : vp.Tracks ctx slot voteType) {m : VoteMessage}
    {k : Pubkey} {st : Stake} (hslot : m.vote.slot = slot) (htype : m.vote.getType = voteType)
    (hs : ctx.sender m = some (k, st)) : (vp.addVote k st m).1.Tracks ctx slot voteType := by
  cases vp with
  | simpleVotePool p => exact SimpleVotePool.Tracks.addVote h hslot htype hs
  | duplicateBlockVotePool p => exact DuplicateBlockVotePool.Tracks.addVote h hslot htype hs

theorem tracks_newVotePool (voteType : VoteType) :
    (ConsensusPool.newVotePool voteType).Tracks ctx slot voteType := by
  cases voteType
  all_goals first
    | exact SimpleVotePool.tracks_empty
    | exact DuplicateBlockVotePool.tracks_new _ _

/-- A new pool has no votes. -/
theorem votesFor_newVotePool (voteType : VoteType) (blockId : Option Hash) :
    (ConsensusPool.newVotePool voteType).votesFor blockId = [] := by
  cases voteType <;> cases blockId <;> rfl

/-- A vote a pool gives a certificate after a new vote is an old one, or the new vote: in a
simple pool toward any certificate, in a duplicate-block pool toward its block's. -/
theorem mem_votesFor_addVote {vp : VotePool} {k : Pubkey} {st : Stake} {m m' : VoteMessage}
    {blockId : Option Hash} (h : m' ∈ (vp.addVote k st m).1.votesFor blockId) :
    m' ∈ vp.votesFor blockId ∨ m' = m ∧ (vp.bound = none ∨ m.vote.blockId = blockId) := by
  cases vp with
  | simpleVotePool p =>
    change m' ∈ (p.addVote k st m).1.votes at h
    unfold SimpleVotePool.addVote at h
    split_ifs at h
    · exact .inl h
    · rcases List.mem_append.mp h with h | h
      · exact .inl h
      · exact .inr ⟨List.mem_singleton.mp h, .inl rfl⟩
  | duplicateBlockVotePool p =>
    cases blockId with
    | none => cases h
    | some b' =>
      change m' ∈ ((p.addVote k st m).1.votes b').getD [] at h
      change m' ∈ (p.votes b').getD [] ∨
        m' = m ∧ (some p.maxEntriesPerPubkey = none ∨ m.vote.blockId = some b')
      unfold DuplicateBlockVotePool.addVote at h
      cases hb : m.vote.blockId with
      | none =>
        rw [hb] at h
        exact .inl h
      | some b =>
        rw [hb] at h
        dsimp only at h
        split_ifs at h
        · exact .inl h
        · by_cases hbb : b' = b
          · subst hbb
            simp only [DuplicateBlockVotePool.votes, Function.update_self, Option.map_some,
              Option.getD_some, List.mem_append, List.mem_singleton] at h
            rcases h with h | rfl
            · left
              cases he : p.voteEntries b' with
              | none => simp [he, VoteEntry.empty] at h
              | some e => simpa [DuplicateBlockVotePool.votes, he] using h
            · exact .inr ⟨rfl, .inr rfl⟩
          · left
            simpa [DuplicateBlockVotePool.votes, Function.update_of_ne hbb] using h

theorem votes_getD (o : Option VoteEntry) :
    (o.map VoteEntry.votes).getD [] = (o.getD VoteEntry.empty).votes := by
  cases o <;> rfl

/-- A vote only appends to the votes a pool gives a certificate. -/
theorem votesFor_addVote (vp : VotePool) (k : Pubkey) (st : Stake) (m : VoteMessage)
    (blockId : Option Hash) :
    ∃ extra, (vp.addVote k st m).1.votesFor blockId = vp.votesFor blockId ++ extra := by
  cases vp with
  | simpleVotePool p =>
    change ∃ extra, (p.addVote k st m).1.votes = p.votes ++ extra
    unfold SimpleVotePool.addVote
    split_ifs
    · exact ⟨[], (List.append_nil _).symm⟩
    · exact ⟨[m], rfl⟩
  | duplicateBlockVotePool p =>
    cases blockId with
    | none => exact ⟨[], rfl⟩
    | some b =>
      change ∃ extra, ((p.addVote k st m).1.votes b).getD [] = (p.votes b).getD [] ++ extra
      unfold DuplicateBlockVotePool.addVote
      cases hb : m.vote.blockId with
      | none => exact ⟨[], (List.append_nil _).symm⟩
      | some b' =>
        dsimp only
        split_ifs
        · exact ⟨[], (List.append_nil _).symm⟩
        · by_cases hbb : b = b'
          · subst hbb
            refine ⟨[m], ?_⟩
            simp only [DuplicateBlockVotePool.votes, Function.update_self, Option.map_some,
              Option.getD_some, votes_getD]
          · refine ⟨[], ?_⟩
            simp [DuplicateBlockVotePool.votes, Function.update_of_ne hbb]

end VotePool

/-! ## The pools of the consensus pool -/

namespace ConsensusPool

variable {ctx : StakesContext}

/-- The votes the pool of `slot` and `voteType` gives a certificate for `blockId`. -/
def poolVotes (pool : ConsensusPool) (slot : Slot) (voteType : VoteType)
    (blockId : Option Hash) : List VoteMessage :=
  ((pool.votePools slot voteType).map (·.votesFor blockId)).getD []

theorem certificateVotes_eq_flatMap (pool : ConsensusPool) (slot : Slot) (blockId : Option Hash)
    (voteTypes : List VoteType) :
    pool.certificateVotes slot blockId voteTypes =
      voteTypes.flatMap fun voteType => pool.poolVotes slot voteType blockId := rfl

theorem poolVotes_congr {pool pool' : ConsensusPool} (heq : pool'.votePools = pool.votePools)
    (slot : Slot) (voteType : VoteType) (blockId : Option Hash) :
    pool'.poolVotes slot voteType blockId = pool.poolVotes slot voteType blockId := by
  simp only [poolVotes, heq]

/-- Every pool is of the kind `new_vote_pool` makes for its type, and tracks its votes. -/
def PoolsTrack (ctx : StakesContext) (pool : ConsensusPool) : Prop :=
  ∀ slot voteType vp, pool.votePools slot voteType = some vp →
    vp.bound = (newVotePool voteType).bound ∧ vp.Tracks ctx slot voteType

theorem poolsTrack_newFromRootBank (rootBlock : Block) :
    (newFromRootBank rootBlock).PoolsTrack ctx := by
  intro _ _ _ h
  cases h

theorem PoolsTrack.of_votePools_eq {pool pool' : ConsensusPool} (h : pool.PoolsTrack ctx)
    (heq : pool'.votePools = pool.votePools) : pool'.PoolsTrack ctx := by
  unfold PoolsTrack
  rw [heq]
  exact h

theorem updateVotePool_votePools (pool : ConsensusPool) (m : VoteMessage) (k : Pubkey)
    (st : Stake) :
    (pool.updateVotePool m k st).1.votePools = fun s t =>
      if s = m.vote.slot ∧ t = m.vote.getType then
        some (((pool.votePools m.vote.slot m.vote.getType).getD
          (newVotePool m.vote.getType)).addVote k st m).1
      else pool.votePools s t := rfl

/-- A vote only appends to the votes each pool gives a certificate. -/
theorem poolVotes_updateVotePool (pool : ConsensusPool) (m : VoteMessage) (k : Pubkey)
    (st : Stake) (slot : Slot) (voteType : VoteType) (blockId : Option Hash) :
    ∃ extra, (pool.updateVotePool m k st).1.poolVotes slot voteType blockId =
      pool.poolVotes slot voteType blockId ++ extra := by
  unfold poolVotes
  rw [updateVotePool_votePools]
  dsimp only
  split_ifs with hst
  · obtain ⟨rfl, rfl⟩ := hst
    rw [Option.map_some, Option.getD_some]
    cases hp : pool.votePools m.vote.slot m.vote.getType with
    | none =>
      rw [Option.getD_none, Option.map_none, Option.getD_none]
      exact ⟨_, (List.nil_append _).symm⟩
    | some vp => exact VotePool.votesFor_addVote vp k st m blockId
  · exact ⟨[], (List.append_nil _).symm⟩

section Track

variable {pool : ConsensusPool} (h : pool.PoolsTrack ctx)
include h

/-- The pool a vote goes to, the stored one or a new one, is of its type's kind and tracks its
votes. -/
theorem PoolsTrack.getD (slot : Slot) (voteType : VoteType) :
    ((pool.votePools slot voteType).getD (newVotePool voteType)).bound =
        (newVotePool voteType).bound ∧
      ((pool.votePools slot voteType).getD (newVotePool voteType)).Tracks ctx slot voteType := by
  cases hp : pool.votePools slot voteType with
  | none => exact ⟨rfl, VotePool.tracks_newVotePool voteType⟩
  | some vp => exact h slot voteType vp hp

theorem PoolsTrack.updateVotePool {m : VoteMessage} {k : Pubkey} {st : Stake}
    (hs : ctx.sender m = some (k, st)) : (pool.updateVotePool m k st).1.PoolsTrack ctx := by
  intro s t vp hvp
  rw [updateVotePool_votePools] at hvp
  dsimp only at hvp
  split_ifs at hvp with hst
  · obtain ⟨rfl, rfl⟩ := hst
    cases hvp
    obtain ⟨hbound, htracks⟩ := h.getD m.vote.slot m.vote.getType
    exact ⟨by rw [VotePool.bound_addVote, hbound], htracks.addVote rfl rfl hs⟩
  · exact h s t vp hvp

theorem PoolsTrack.mem_poolVotes {slot : Slot} {voteType : VoteType} {blockId : Option Hash}
    {m : VoteMessage} (hm : m ∈ pool.poolVotes slot voteType blockId) :
    m.vote.slot = slot ∧ m.vote.getType = voteType ∧ (ctx.sender m).isSome := by
  unfold poolVotes at hm
  cases hp : pool.votePools slot voteType with
  | none => simp [hp] at hm
  | some vp =>
    rw [hp, Option.map_some, Option.getD_some] at hm
    have htracks := (h slot voteType vp hp).2
    cases vp with
    | simpleVotePool p => exact htracks.vote_mem m hm
    | duplicateBlockVotePool p =>
      cases blockId with
      | none => cases hm
      | some b =>
        change m ∈ ((p.voteEntries b).map VoteEntry.votes).getD [] at hm
        cases he : p.voteEntries b with
        | none => simp [he] at hm
        | some e =>
          rw [he, Option.map_some, Option.getD_some] at hm
          obtain ⟨hslot, htype, -, hsender⟩ := (htracks.entry b e he).vote_mem m hm
          exact ⟨hslot, htype, hsender⟩

theorem PoolsTrack.nodup_poolVotes (slot : Slot) (voteType : VoteType) (blockId : Option Hash) :
    (ctx.voters (pool.poolVotes slot voteType blockId)).Nodup := by
  unfold poolVotes
  cases hp : pool.votePools slot voteType with
  | none => exact List.nodup_nil
  | some vp =>
    rw [Option.map_some, Option.getD_some]
    have htracks := (h slot voteType vp hp).2
    cases vp with
    | simpleVotePool p => exact htracks.nodup
    | duplicateBlockVotePool p =>
      cases blockId with
      | none => exact List.nodup_nil
      | some b =>
        change (ctx.voters (((p.voteEntries b).map VoteEntry.votes).getD [])).Nodup
        cases he : p.voteEntries b with
        | none => exact List.nodup_nil
        | some e => exact (htracks.entry b e he).nodup

/-- A pool's stake toward a certificate is the saturating sum of its voters' stakes. -/
theorem PoolsTrack.stakeFor_toNat {slot : Slot} {voteType : VoteType} {vp : VotePool}
    (hp : pool.votePools slot voteType = some vp) (blockId : Option Hash) :
    (vp.stakeFor blockId).toNat = min (ctx.votersStake (vp.votesFor blockId)) (2 ^ 64 - 1) := by
  have htracks := (h slot voteType vp hp).2
  cases vp with
  | simpleVotePool p => exact htracks.total
  | duplicateBlockVotePool p =>
    cases blockId with
    | none => rfl
    | some b =>
      change (((p.voteEntries b).map VoteEntry.totalStakeByKey).getD 0).toNat =
        min (ctx.votersStake (((p.voteEntries b).map VoteEntry.votes).getD [])) (2 ^ 64 - 1)
      cases he : p.voteEntries b with
      | none => rfl
      | some e => exact (htracks.entry b e he).total

/-- A simple pool gives every certificate the same votes. -/
theorem PoolsTrack.poolVotes_of_bound_none {slot : Slot} {voteType : VoteType}
    (hkind : (newVotePool voteType).bound = none) (blockId blockId' : Option Hash) :
    pool.poolVotes slot voteType blockId = pool.poolVotes slot voteType blockId' := by
  unfold poolVotes
  cases hp : pool.votePools slot voteType with
  | none => rfl
  | some vp =>
    have hbound := (h slot voteType vp hp).1
    cases vp with
    | simpleVotePool p => rfl
    | duplicateBlockVotePool p =>
      rw [hkind] at hbound
      cases hbound

/-- A vote a pool gives a certificate after a new vote is an old one, or the new vote, in the
pool of its slot and type, toward its block's certificate unless the pool is simple. -/
theorem PoolsTrack.mem_poolVotes_updateVotePool {m : VoteMessage} {k : Pubkey} {st : Stake}
    {slot : Slot} {voteType : VoteType} {blockId : Option Hash} {m' : VoteMessage}
    (hm' : m' ∈ (pool.updateVotePool m k st).1.poolVotes slot voteType blockId) :
    m' ∈ pool.poolVotes slot voteType blockId ∨ m' = m ∧ slot = m.vote.slot ∧
      voteType = m.vote.getType ∧
      ((newVotePool voteType).bound = none ∨ m.vote.blockId = blockId) := by
  unfold poolVotes at hm'
  rw [updateVotePool_votePools] at hm'
  dsimp only at hm'
  split_ifs at hm' with hst
  · obtain ⟨rfl, rfl⟩ := hst
    rw [Option.map_some, Option.getD_some] at hm'
    obtain ⟨hbound, -⟩ := h.getD m.vote.slot m.vote.getType
    rcases VotePool.mem_votesFor_addVote hm' with hold | ⟨rfl, hb⟩
    · left
      unfold poolVotes
      cases hp : pool.votePools m.vote.slot m.vote.getType with
      | none =>
        rw [hp, Option.getD_none, VotePool.votesFor_newVotePool] at hold
        cases hold
      | some vp =>
        rw [hp] at hold
        exact hold
    · exact .inr ⟨rfl, rfl, rfl, by rwa [← hbound]⟩
  · exact .inl hm'

/-- A validator with no conflicting vote has no vote toward the same certificate in the pool of a
conflicting type: none at all in a simple pool, none for the block in a duplicate-block pool. -/
theorem PoolsTrack.not_voter_of_hasConflictingVote {slot : Slot} {voteType c : VoteType}
    {k : Pubkey} {blockId : Option Hash}
    (hconf : pool.hasConflictingVote slot voteType k blockId = none)
    (hc : c ∈ conflictingTypes voteType) : k ∉ ctx.voters (pool.poolVotes slot c blockId) := by
  intro hk
  have hcheck := List.find?_eq_none.mp hconf c hc
  unfold poolVotes at hk
  cases hp : pool.votePools slot c with
  | none =>
    rw [hp] at hk
    cases hk
  | some vp =>
    rw [hp, Option.map_some, Option.getD_some] at hk
    rw [hp] at hcheck
    have htracks := (h slot c vp hp).2
    cases vp with
    | simpleVotePool p =>
      -- the pool remembers exactly the senders of its votes
      exact hcheck (decide_eq_true ((htracks.mem_prev k).mpr hk))
    | duplicateBlockVotePool p =>
      cases blockId with
      | none => cases hk
      | some b =>
        change k ∈ ctx.voters (((p.voteEntries b).map VoteEntry.votes).getD []) at hk
        cases he : p.voteEntries b with
        | none =>
          rw [he] at hk
          cases hk
        | some e =>
          rw [he, Option.map_some, Option.getD_some] at hk
          -- a voter for the block remembers the block
          obtain ⟨l, hl, hb⟩ := htracks.voted b e k he hk
          apply hcheck
          simp [DuplicateBlockVotePool.hasPrevValidatorVoteForBlock, hl, hb]

/-- The sender of a new vote has no vote toward the same certificate in the pool of a
conflicting type of the same kind. -/
theorem PoolsTrack.not_voter_of_new {m : VoteMessage} {k : Pubkey} {c : VoteType}
    {blockId : Option Hash}
    (hconf : pool.hasConflictingVote m.vote.slot m.vote.getType k m.vote.blockId = none)
    (hc : c ∈ conflictingTypes m.vote.getType)
    (hkind : (newVotePool m.vote.getType).bound = none → (newVotePool c).bound = none)
    (hb : (newVotePool m.vote.getType).bound = none ∨ m.vote.blockId = blockId) :
    k ∉ ctx.voters (pool.poolVotes m.vote.slot c blockId) := by
  rcases hb with hnone | rfl
  · -- both pools are simple, and give every certificate the same votes
    rw [h.poolVotes_of_bound_none (hkind hnone) blockId m.vote.blockId]
    exact h.not_voter_of_hasConflictingVote hconf hc
  · exact h.not_voter_of_hasConflictingVote hconf hc

end Track

theorem not_mem_conflictingTypes_self (voteType : VoteType) :
    voteType ∉ conflictingTypes voteType := by
  cases voteType <;> decide

/-- No validator has votes toward one certificate in both the pools of `voteType` and
`voteType'` of a slot. -/
def Apart (ctx : StakesContext) (pool : ConsensusPool) (voteType voteType' : VoteType) : Prop :=
  ∀ slot blockId k, k ∈ ctx.voters (pool.poolVotes slot voteType blockId) →
    k ∉ ctx.voters (pool.poolVotes slot voteType' blockId)

theorem apart_newFromRootBank (rootBlock : Block) (voteType voteType' : VoteType) :
    (newFromRootBank rootBlock).Apart ctx voteType voteType' := by
  intro _ _ _ hk
  cases hk

theorem Apart.of_votePools_eq {pool pool' : ConsensusPool} {voteType voteType' : VoteType}
    (h : pool.Apart ctx voteType voteType') (heq : pool'.votePools = pool.votePools) :
    pool'.Apart ctx voteType voteType' := by
  intro slot blockId k
  rw [poolVotes_congr heq, poolVotes_congr heq]
  exact h slot blockId k

/-- Two vote types that conflict with each other stay apart: a vote of either is refused to a
validator with a vote of the other toward the same certificate. -/
theorem Apart.updateVotePool {pool : ConsensusPool} {c c' : VoteType}
    (hapart : pool.Apart ctx c c') (h : pool.PoolsTrack ctx) {m : VoteMessage} {k : Pubkey}
    {st : Stake} (hs : ctx.sender m = some (k, st))
    (hconf : pool.hasConflictingVote m.vote.slot m.vote.getType k m.vote.blockId = none)
    (hc : c' ∈ conflictingTypes c) (hc' : c ∈ conflictingTypes c')
    (hkind : (newVotePool c).bound = none ↔ (newVotePool c').bound = none) :
    (pool.updateVotePool m k st).1.Apart ctx c c' := by
  have hne : c ≠ c' := by
    rintro rfl
    exact not_mem_conflictingTypes_self c hc
  -- a voter after the vote was a voter before it, or is the vote's sender
  have hvoter : ∀ {s : Slot} {t : VoteType} {b : Option Hash} {k' : Pubkey},
      k' ∈ ctx.voters ((pool.updateVotePool m k st).1.poolVotes s t b) →
      k' ∈ ctx.voters (pool.poolVotes s t b) ∨
        k' = k ∧ s = m.vote.slot ∧ t = m.vote.getType ∧
          ((newVotePool t).bound = none ∨ m.vote.blockId = b) := by
    intro s t b k' hk'
    obtain ⟨m', hm', st', hs'⟩ := StakesContext.mem_voters.mp hk'
    rcases h.mem_poolVotes_updateVotePool hm' with hold | ⟨rfl, hslot, htype, hb⟩
    · exact .inl (StakesContext.mem_voters.mpr ⟨m', hold, st', hs'⟩)
    · rw [hs] at hs'
      cases hs'
      exact .inr ⟨rfl, hslot, htype, hb⟩
  intro s b k' hk₁ hk₂
  rcases hvoter hk₁ with hold₁ | ⟨rfl, rfl, rfl, hb₁⟩ <;>
    rcases hvoter hk₂ with hold₂ | ⟨hkk, hslot, htype, hb₂⟩
  · exact hapart s b k' hold₁ hold₂
  · -- the sender voted `c'` now, after a vote of `c`
    subst hkk hslot
    rw [htype] at hc' hb₂ hkind
    exact h.not_voter_of_new hconf hc' hkind.mpr hb₂ hold₁
  · -- the sender voted `c` now, after a vote of `c'`
    exact h.not_voter_of_new hconf hc hkind.mp hb₁ hold₂
  · exact hne htype.symm

/-- No validator is in both the `Notarize` and the `NotarizeFallback` pool toward one block, or
in both the `Skip` and the `SkipFallback` pool of a slot. -/
def Exclusive (ctx : StakesContext) (pool : ConsensusPool) : Prop :=
  pool.Apart ctx .notarize .notarizeFallback ∧ pool.Apart ctx .skip .skipFallback

theorem Exclusive.of_votePools_eq {pool pool' : ConsensusPool} (h : pool.Exclusive ctx)
    (heq : pool'.votePools = pool.votePools) : pool'.Exclusive ctx :=
  ⟨h.1.of_votePools_eq heq, h.2.of_votePools_eq heq⟩

theorem Exclusive.updateVotePool {pool : ConsensusPool} (hex : pool.Exclusive ctx)
    (h : pool.PoolsTrack ctx) {m : VoteMessage} {k : Pubkey} {st : Stake}
    (hs : ctx.sender m = some (k, st))
    (hconf : pool.hasConflictingVote m.vote.slot m.vote.getType k m.vote.blockId = none) :
    (pool.updateVotePool m k st).1.Exclusive ctx :=
  ⟨hex.1.updateVotePool h hs hconf (by decide) (by decide) (by decide),
    hex.2.updateVotePool h hs hconf (by decide) (by decide) (by decide)⟩

end ConsensusPool

end TRv1.Votor
