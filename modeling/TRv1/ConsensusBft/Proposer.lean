import TRv1.ConsensusBft.ValidatorSetSpec
import TRv1.Lib.CumulativeScan

/-!
# Stake-weighted proposer selection

`proposer_for_round` reads the seed `height + round` modulo the total stake and walks the sorted
entries with a saturating running sum, returning the first validator whose running sum exceeds
the target. On a well-formed set the running sum never saturates, so the walk is the selection
by cumulative weights of `CumulativeScan` over the entries weighted by their stakes.

## What this module delivers

- `proposerScan_eq_select`, `proposerForRound_eq_select`: the walk of the source is the
  library's `select`, and the fallback to the first validator is never taken.
- `proposer_selection_proportional`: on a well-formed set with positive total stake `T`, every
  `(height, round)` has a member as proposer, the choice depends on `height + round` only, and
  over any `T` consecutive seeds that do not wrap each key is chosen as many times as its stake.
- `same_proposer_next_round`: every member with stake at least `2` is the proposer of rounds
  `0` and `1` at some height, so a round change does not always change the proposer.
- `proposer_rotates_within_stake`: the rounds of a height walk the seeds one by one, so, while
  the seeds do not wrap, a validator that does not hold the whole stake is the proposer of at
  most as many consecutive rounds as its stake.
-/

set_option autoImplicit false

namespace TRv1.ConsensusBft

open CumulativeScan

/-- The entries as items weighted by their stakes. -/
def stakeWeights (l : List ValidatorInfo) : List (Pubkey × ℕ) :=
  l.map fun v => (v.pubkey, v.stake.toNat)

@[simp] theorem total_stakeWeights (l : List ValidatorInfo) :
    total (stakeWeights l) = (l.map (·.stake.toNat)).sum := by
  simp [stakeWeights, total, Function.comp_def]

theorem stakeWeights_append_cons (l₁ l₂ : List ValidatorInfo) (v : ValidatorInfo) :
    stakeWeights (l₁ ++ v :: l₂) =
      stakeWeights l₁ ++ (v.pubkey, v.stake.toNat) :: stakeWeights l₂ := by
  simp [stakeWeights]

@[simp] theorem map_fst_stakeWeights (l : List ValidatorInfo) :
    (stakeWeights l).map Prod.fst = l.map (·.pubkey) := by
  simp [stakeWeights, Function.comp_def]

/-- While the running sum and the stakes still ahead fit in `u64`, the saturating walk of
`proposer_for_round` is the selection by cumulative weights. -/
theorem proposerScan_eq_select (target acc : UInt64) (l : List ValidatorInfo)
    (h : acc.toNat + (l.map (·.stake.toNat)).sum < 2 ^ 64) :
    proposerScan target acc l = select target.toNat acc.toNat (stakeWeights l) := by
  induction l generalizing acc with
  | nil => rfl
  | cons v rest ih =>
    rw [List.map_cons, List.sum_cons] at h
    -- the running sum does not saturate
    have hacc : (RustInt.saturatingAdd acc v.stake).toNat = acc.toNat + v.stake.toNat := by
      rw [RustInt.saturatingAdd_toNat]
      omega
    have hlt : target < RustInt.saturatingAdd acc v.stake ↔
        target.toNat < acc.toNat + v.stake.toNat := by
      rw [UInt64.lt_iff_toNat_lt, hacc]
    rw [proposerScan, stakeWeights, List.map_cons, select]
    by_cases ht : target.toNat < acc.toNat + v.stake.toNat
    · rw [if_pos (hlt.mpr ht), if_pos ht]
    · rw [if_neg (mt hlt.mp ht), if_neg ht, ih _ (by omega), hacc]
      rfl

namespace ValidatorSet.WellFormed

variable {vs : ValidatorSet}

/-- The weight of a key among the entries is its `stake_of`. -/
theorem weightOf_stakeWeights (h : vs.WellFormed) (p : Pubkey) :
    weightOf (stakeWeights vs.validators) p = (vs.stakeOf p).toNat := by
  have hnd : ((stakeWeights vs.validators).map Prod.fst).Nodup := by
    rw [map_fst_stakeWeights]
    exact h.nodup
  by_cases hp : p ∈ vs.pubkeys
  · obtain ⟨v, hv, rfl⟩ := List.mem_map.mp hp
    rw [weightOf_of_mem hnd (List.mem_map_of_mem hv), h.stakeOf_eq hv]
  · rw [weightOf_of_not_mem (by rwa [map_fst_stakeWeights]), h.stakeOf_of_not_mem hp]
    rfl

/-- The target `seed % total_stake` lies below the total, so the walk stops at a member. -/
theorem select_isSome (h : vs.WellFormed) (hT : vs.totalStake ≠ 0) (height : UInt64)
    (round : UInt32) :
    (select ((height + round.toUInt64) % vs.totalStake).toNat 0
      (stakeWeights vs.validators)).isSome := by
  apply CumulativeScan.select_isSome (Nat.zero_le _)
  rw [Nat.zero_add, total_stakeWeights, ← h.totalStake_toNat, UInt64.toNat_mod]
  exact Nat.mod_lt _ (RustInt.toNat_pos_of_ne_zero hT)

/-- On a well-formed set with positive total stake, `proposer_for_round` selects by cumulative
weights at the seed modulo the total; the fallback is never taken. -/
theorem proposerForRound_eq_select (h : vs.WellFormed) (hT : vs.totalStake ≠ 0)
    (height : UInt64) (round : UInt32) :
    proposerForRound vs height round =
      select ((height + round.toUInt64) % vs.totalStake).toNat 0 (stakeWeights vs.validators) := by
  have hne : vs.isEmpty = false := by
    rw [isEmpty, List.isEmpty_eq_false_iff]
    intro hnil
    have htot := h.totalStake_toNat
    rw [hnil, List.map_nil, List.sum_nil] at htot
    exact absurd htot (RustInt.toNat_pos_of_ne_zero hT).ne'
  obtain ⟨p, hp⟩ := Option.isSome_iff_exists.mp (h.select_isSome hT height round)
  rw [proposerForRound, hne, Bool.false_or, if_neg (by simpa using hT)]
  dsimp only
  rw [proposerScan_eq_select _ 0 _ (by simpa using h.sum_lt), UInt64.toNat_zero, hp]

end ValidatorSet.WellFormed

/-- The seed is `height + round`: only the sum matters. -/
theorem proposerForRound_seed (vs : ValidatorSet) (height : UInt64) (round : UInt32) :
    proposerForRound vs height round = proposerForRound vs (height + round.toUInt64) 0 := by
  simp [proposerForRound]

/-- On a well-formed set with total stake `T > 0`: every `(height, round)` has a member of the
set as proposer; the proposer depends on the seed `height + round` only; and among `T`
consecutive seeds that do not wrap, each key is the proposer exactly `stake_of` times. -/
theorem proposer_selection_proportional {vs : ValidatorSet} (h : vs.WellFormed)
    (hT : vs.totalStake ≠ 0) :
    (∀ (height : UInt64) (round : UInt32), ∃ p ∈ vs.pubkeys,
      proposerForRound vs height round = some p) ∧
    (∀ (height : UInt64) (round : UInt32),
      proposerForRound vs height round = proposerForRound vs (height + round.toUInt64) 0) ∧
    ∀ s : ℕ, s + vs.totalStake.toNat ≤ 2 ^ 64 → ∀ p : Pubkey,
      ((Finset.Ico s (s + vs.totalStake.toNat)).filter fun i =>
        proposerForRound vs (UInt64.ofNat i) 0 = some p).card = (vs.stakeOf p).toNat := by
  refine ⟨fun height round => ?_, proposerForRound_seed vs, fun s hs p => ?_⟩
  · -- the selection is some entry's key
    obtain ⟨p, hp⟩ := Option.isSome_iff_exists.mp (h.select_isSome hT height round)
    refine ⟨p, ?_, by rw [h.proposerForRound_eq_select hT, hp]⟩
    have := mem_of_select hp
    rwa [map_fst_stakeWeights] at this
  · -- count the seeds through their residues modulo `T`
    set T := vs.totalStake.toNat with hTdef
    have hpos : 0 < T := RustInt.toNat_pos_of_ne_zero hT
    have hseed : ∀ i ∈ Finset.Ico s (s + T),
        (if proposerForRound vs (UInt64.ofNat i) 0 = some p then 1 else 0) =
          if select (i % T) 0 (stakeWeights vs.validators) = some p then 1 else 0 := by
      intro i hi
      have hi' : i < 2 ^ 64 := by
        have := (Finset.mem_Ico.mp hi).2
        omega
      rw [h.proposerForRound_eq_select hT, show (0 : UInt32).toUInt64 = 0 from rfl,
        UInt64.add_zero, UInt64.toNat_mod, UInt64.toNat_ofNat_of_lt' hi']
    rw [Finset.card_filter, Finset.sum_congr rfl hseed,
      sum_Ico_mod (fun t => if select t 0 (stakeWeights vs.validators) = some p then 1 else 0) hpos,
      Finset.range_eq_Ico,
      ← Nat.zero_add T, hTdef, h.totalStake_toNat, ← total_stakeWeights, sum_select_eq,
      h.weightOf_stakeWeights]

theorem proportional_on_pair :
    (ValidatorSet.new ValidatorSet.pairInput).WellFormed ∧
      (ValidatorSet.new ValidatorSet.pairInput).totalStake ≠ 0 ∧
      ((Finset.Ico 5 1005).filter fun i =>
        proposerForRound (ValidatorSet.new ValidatorSet.pairInput) (UInt64.ofNat i) 0 =
          some ⟨⟨2, by decide⟩⟩).card = 100 := by
  have h := ValidatorSet.wellFormed_new ValidatorSet.pairInput (by decide) (by decide)
  have hT : (ValidatorSet.new ValidatorSet.pairInput).totalStake ≠ 0 := by decide
  refine ⟨h, hT, ?_⟩
  have hcount := (proposer_selection_proportional h hT).2.2 5 (by decide) ⟨⟨2, by decide⟩⟩
  rwa [show (ValidatorSet.new ValidatorSet.pairInput).totalStake.toNat = 1000 by decide,
    show ((ValidatorSet.new ValidatorSet.pairInput).stakeOf ⟨⟨2, by decide⟩⟩).toNat = 100 by
      decide] at hcount

/-- With one key entered twice, at stakes `5` and `3`, the key is the proposer at all `8` seeds of
a window, while its `stake_of` is `3`, the stake of its later entry. -/
theorem twin_selected_beyond_stake :
    (ValidatorSet.new ValidatorSet.twinInput).totalStake = 8 ∧
      (ValidatorSet.new ValidatorSet.twinInput).stakeOf ValidatorSet.twinKey = 3 ∧
      ∀ i < 8, proposerForRound (ValidatorSet.new ValidatorSet.twinInput) (UInt64.ofNat i) 0 =
        some ValidatorSet.twinKey := by
  decide

/-- Every member with stake at least `2` is the proposer of both rounds `0` and `1` at the height
where its interval starts: the seeds `c` and `c + 1` fall in its interval. -/
theorem same_proposer_next_round {vs : ValidatorSet} (h : vs.WellFormed) {v : ValidatorInfo}
    (hv : v ∈ vs.validators) (hstake : 2 ≤ v.stake.toNat) :
    ∃ height : UInt64, proposerForRound vs height 0 = some v.pubkey ∧
      proposerForRound vs height 1 = some v.pubkey := by
  obtain ⟨l₁, l₂, hsplit⟩ := List.append_of_mem hv
  have htot : vs.totalStake.toNat =
      (l₁.map (·.stake.toNat)).sum + v.stake.toNat + (l₂.map (·.stake.toNat)).sum := by
    rw [h.totalStake_toNat, hsplit, List.map_append, List.map_cons, List.sum_append,
      List.sum_cons, Nat.add_assoc]
  have hT : vs.totalStake ≠ 0 := fun h0 => by
    rw [h0, UInt64.toNat_zero] at htot
    omega
  have hlt := vs.totalStake.toNat_lt
  -- the seed that starts the interval of `v`, and the one after it
  have hat : ∀ round : UInt32, round.toNat ≤ 1 →
      proposerForRound vs (UInt64.ofNat (l₁.map (·.stake.toNat)).sum) round = some v.pubkey := by
    intro round hr
    have hseed : ((UInt64.ofNat (l₁.map (·.stake.toNat)).sum + round.toUInt64) %
        vs.totalStake).toNat = (l₁.map (·.stake.toNat)).sum + round.toNat := by
      have hsize : UInt64.size = 2 ^ 64 := rfl
      rw [UInt64.toNat_mod, UInt64.toNat_add, UInt64.toNat_ofNat_of_lt' (by omega),
        UInt32.toNat_toUInt64, Nat.mod_eq_of_lt (by omega), Nat.mod_eq_of_lt (by omega)]
    rw [h.proposerForRound_eq_select hT, hseed, hsplit, stakeWeights_append_cons]
    apply select_append_cons <;> rw [total_stakeWeights] <;> omega
  exact ⟨_, hat 0 (by decide), hat 1 (by decide)⟩

/-- A validator with stake `2` before one with stake `1`. -/
def unevenPair : List (Pubkey × UInt64) := [(⟨1⟩, 2), (⟨2⟩, 1)]

theorem heavy_proposer_repeats :
    ∃ height : UInt64,
      proposerForRound (ValidatorSet.new unevenPair) height 0 = some ⟨⟨1, by decide⟩⟩ ∧
        proposerForRound (ValidatorSet.new unevenPair) height 1 = some ⟨⟨1, by decide⟩⟩ :=
  same_proposer_next_round (v := ⟨⟨⟨1, by decide⟩⟩, 2⟩)
    (ValidatorSet.wellFormed_new unevenPair (by decide) (by decide)) (by decide) (by decide)

/-- Round `round + i` at `height` reads the seed `height + round + i` while neither the round nor
the seed wraps. -/
theorem seed_add_round {vs : ValidatorSet} (height : UInt64)
    (round : UInt32) {i : ℕ} (hround : round.toNat + i < 2 ^ 32)
    (hseed : height.toNat + round.toNat + i < 2 ^ 64) :
    ((height + (round + UInt32.ofNat i).toUInt64) % vs.totalStake).toNat =
      (height.toNat + round.toNat + i) % vs.totalStake.toNat := by
  have hround' : (round + UInt32.ofNat i).toNat = round.toNat + i := by
    rw [UInt32.toNat_add, UInt32.toNat_ofNat', Nat.mod_eq_of_lt (by omega : i < 2 ^ 32),
      Nat.mod_eq_of_lt hround]
  rw [UInt64.toNat_mod, UInt64.toNat_add, UInt32.toNat_toUInt64, hround',
    Nat.mod_eq_of_lt (show height.toNat + (round.toNat + i) < 2 ^ 64 by omega), Nat.add_assoc]

/-- Within a height, while neither the round nor the seed `height + round` wraps, a validator
that does not hold the whole stake is the proposer of at most as many consecutive rounds as its
stake: a round change hands the proposal on after `stake_of` rounds at most. -/
theorem proposer_rotates_within_stake {vs : ValidatorSet} (h : vs.WellFormed) (p : Pubkey)
    (hp : (vs.stakeOf p).toNat < vs.totalStake.toNat) (height : UInt64) (round : UInt32)
    (k : ℕ) (hround : round.toNat + k ≤ 2 ^ 32) (hseed : height.toNat + round.toNat + k ≤ 2 ^ 64)
    (hsame : ∀ i < k, proposerForRound vs height (round + UInt32.ofNat i) = some p) :
    k ≤ (vs.stakeOf p).toNat := by
  have hT : vs.totalStake ≠ 0 := fun h0 => by
    rw [h0, UInt64.toNat_zero] at hp
    omega
  have htotal : total (stakeWeights vs.validators) = vs.totalStake.toNat := by
    rw [total_stakeWeights, h.totalStake_toNat]
  rw [← h.weightOf_stakeWeights p]
  -- the rounds select at consecutive seeds read modulo the total stake
  refine run_le_weightOf (by rw [h.weightOf_stakeWeights, htotal]; exact hp)
    (height.toNat + round.toNat) k fun i hi => ?_
  have hsel := hsame i hi
  rw [h.proposerForRound_eq_select hT, seed_add_round height round (by omega) (by omega),
    ← htotal] at hsel
  exact hsel

/-- The validator of stake `2` of `unevenPair` proposes rounds `0` and `1` at height `0`, as many
as its stake. -/
theorem heavy_proposer_two_rounds :
    (ValidatorSet.new unevenPair).WellFormed ∧
      ((ValidatorSet.new unevenPair).stakeOf ⟨⟨1, by decide⟩⟩).toNat <
        (ValidatorSet.new unevenPair).totalStake.toNat ∧
      (0 : UInt32).toNat + 2 ≤ 2 ^ 32 ∧ (0 : UInt64).toNat + (0 : UInt32).toNat + 2 ≤ 2 ^ 64 ∧
      (∀ i < 2, proposerForRound (ValidatorSet.new unevenPair) 0 (0 + UInt32.ofNat i) =
        some ⟨⟨1, by decide⟩⟩) ∧
      2 ≤ ((ValidatorSet.new unevenPair).stakeOf ⟨⟨1, by decide⟩⟩).toNat := by
  have h := ValidatorSet.wellFormed_new unevenPair (by decide) (by decide)
  have hp : ((ValidatorSet.new unevenPair).stakeOf ⟨⟨1, by decide⟩⟩).toNat <
      (ValidatorSet.new unevenPair).totalStake.toNat := by decide
  have hsame : ∀ i < 2, proposerForRound (ValidatorSet.new unevenPair) 0 (0 + UInt32.ofNat i) =
      some ⟨⟨1, by decide⟩⟩ := by decide
  exact ⟨h, hp, by decide, by decide, hsame,
    proposer_rotates_within_stake h _ hp 0 0 2 (by decide) (by decide) hsame⟩

end TRv1.ConsensusBft
