import TRv1.ConsensusBft.ValidatorSet
import Mathlib

/-!
# The representation invariant of `ValidatorSet`

A `ValidatorSet` keeps four views of one set of validators: the entry list sorted by stake
descending then key ascending, the index from key to position, the cached `total_stake`, and
membership (`contains`, through the index). `WellFormed` says that they agree.

## What this module delivers

- `ValidatorInfo.cmp_*`: the comparator of `sort_by` read as an order on (stake, key); it is
  total and transitive (`cmp_total`, `cmp_trans`), so `sortInfos` sorts (`pairwise_sortInfos`),
  strictly once the keys are distinct (`pairwise_lt_sortInfos`).
- `lookup_buildIndex`, `mem_buildIndex`: with distinct keys the index maps each key to its
  position and holds nothing else; a repeated key is mapped to its last position.
- `wellFormed_ofSorted`: sorting entries with distinct keys, positive stakes and a sum that fits
  in `u64` gives a well-formed set. `wellFormed_new`, `WellFormed.upsert` and
  `WellFormed.remove` are the three operations, with what each needs of its input, and
  `validatorSet_representation` puts them together.
- `new_breaks_representation`: the constructor's input is not checked; two entries for one key,
  or stakes summing past `u64::MAX`, give a set that breaks the invariant.
-/

set_option autoImplicit false

namespace TRv1.ConsensusBft

namespace ValidatorInfo

variable (a b c : ValidatorInfo)

theorem compare_stake (x y : UInt64) :
    compare x y = if x < y then .lt else if x = y then .eq else .gt := rfl

/-- The comparator of `sort_by` puts `a` first: more stake, or equal stake and a smaller key. -/
theorem cmp_eq_lt_iff : a.cmp b = .lt ↔
    b.stake < a.stake ∨ b.stake = a.stake ∧ a.pubkey < b.pubkey := by
  unfold cmp
  rw [compare_stake]
  by_cases hlt : b.stake < a.stake
  · simp [hlt, Ordering.then]
  · by_cases heq : b.stake = a.stake
    · simp [heq, Ordering.then, compare_lt_iff_lt]
    · simp [hlt, heq, Ordering.then]

theorem cmp_eq_eq_iff : a.cmp b = .eq ↔ a.stake = b.stake ∧ a.pubkey = b.pubkey := by
  unfold cmp
  rw [compare_stake]
  by_cases hlt : b.stake < a.stake
  · simp only [hlt, if_true, Ordering.then, reduceCtorEq, false_iff, not_and]
    intro heq
    exact absurd (heq ▸ hlt) (UInt64.lt_irrefl _)
  · by_cases heq : b.stake = a.stake
    · simp [heq, Ordering.then, compare_eq_iff_eq]
    · simp only [hlt, heq, if_false, Ordering.then, reduceCtorEq, false_iff, not_and]
      exact fun h => absurd h.symm heq

theorem cmp_eq_gt_iff : a.cmp b = .gt ↔
    a.stake < b.stake ∨ b.stake = a.stake ∧ b.pubkey < a.pubkey := by
  unfold cmp
  rw [compare_stake]
  by_cases hlt : b.stake < a.stake
  · simp only [hlt, if_true, Ordering.then, reduceCtorEq, false_iff, not_or, not_and]
    exact ⟨UInt64.lt_asymm hlt, fun h => absurd (h ▸ hlt) (UInt64.lt_irrefl _)⟩
  · by_cases heq : b.stake = a.stake
    · simp [heq, Ordering.then, compare_gt_iff_gt, UInt64.lt_irrefl]
    · have : a.stake < b.stake := by
        rw [UInt64.lt_iff_toNat_lt] at hlt ⊢
        have : b.stake.toNat ≠ a.stake.toNat := fun h => heq (UInt64.toNat_inj.mp h)
        omega
      simp [hlt, heq, Ordering.then, this]

theorem cmp_ne_gt_iff : a.cmp b ≠ .gt ↔
    b.stake.toNat ≤ a.stake.toNat ∧ (b.stake = a.stake → a.pubkey ≤ b.pubkey) := by
  simp only [ne_eq, cmp_eq_gt_iff, not_or, not_and, not_lt, UInt64.lt_iff_toNat_lt]

theorem cmp_total : a.cmp b ≠ .gt ∨ b.cmp a ≠ .gt := by
  by_contra h
  rw [not_or, not_not, not_not, cmp_eq_gt_iff, cmp_eq_gt_iff] at h
  obtain ⟨hab | ⟨hba, hpk⟩, hba' | ⟨hab', hpk'⟩⟩ := h
  · exact UInt64.lt_asymm hab hba'
  · exact absurd (hab' ▸ hab) (UInt64.lt_irrefl _)
  · exact absurd (hba ▸ hba') (UInt64.lt_irrefl _)
  · exact lt_asymm hpk hpk'

theorem cmp_trans (hab : a.cmp b ≠ .gt) (hbc : b.cmp c ≠ .gt) : a.cmp c ≠ .gt := by
  rw [cmp_ne_gt_iff] at hab hbc ⊢
  refine ⟨by omega, fun hca => ?_⟩
  -- equal stakes at the ends force equal stakes throughout, and the keys are ordered
  have hba : b.stake = a.stake := UInt64.toNat_inj.mp (by rw [hca] at hbc; omega)
  have hcb : c.stake = b.stake := hca.trans hba.symm
  exact le_trans (hab.2 hba) (hbc.2 hcb)

end ValidatorInfo

namespace ValidatorSet

/-- `sortInfos` orders by the comparator of `sort_by`, weakly. -/
theorem pairwise_sortInfos (infos : List ValidatorInfo) :
    (sortInfos infos).Pairwise fun a b => a.cmp b ≠ .gt := by
  have : Std.Total fun a b : ValidatorInfo => (a.cmp b != .gt) = true :=
    ⟨fun a b => by simpa [bne_iff_ne] using ValidatorInfo.cmp_total a b⟩
  have : IsTrans ValidatorInfo fun a b => (a.cmp b != .gt) = true :=
    ⟨fun a b c hab hbc => by
      simp only [bne_iff_ne, ne_eq] at hab hbc ⊢
      exact ValidatorInfo.cmp_trans a b c hab hbc⟩
  exact (List.pairwise_insertionSort _ infos).imp fun h => by simpa [bne_iff_ne] using h

theorem perm_sortInfos (infos : List ValidatorInfo) : (sortInfos infos).Perm infos :=
  List.perm_insertionSort _ _

/-- With distinct keys, the order is strict. -/
theorem pairwise_lt_sortInfos {infos : List ValidatorInfo} (h : (infos.map (·.pubkey)).Nodup) :
    (sortInfos infos).Pairwise fun a b => a.cmp b = .lt := by
  have hnd : ((sortInfos infos).map (·.pubkey)).Nodup :=
    ((perm_sortInfos infos).map _).nodup_iff.mpr h
  refine ((pairwise_sortInfos infos).and (List.pairwise_map.mp hnd)).imp fun ⟨hng, hne⟩ => ?_
  cases hc : ValidatorInfo.cmp _ _
  · rfl
  · exact absurd ((ValidatorInfo.cmp_eq_eq_iff _ _).mp hc).2 hne
  · exact absurd hc hng

/-! ## The index -/

/-- The fold of `buildIndex` from position `k` leaves the keys it does not meet alone. -/
theorem lookup_foldl_insert_of_not_mem (l : List ValidatorInfo) (k : Nat)
    (m : AList fun _ : Pubkey => Nat) {p : Pubkey} (hp : p ∉ l.map (·.pubkey)) :
    ((l.zipIdx k).foldl (fun m q => m.insert q.1.pubkey q.2) m).lookup p = m.lookup p := by
  induction l generalizing k m with
  | nil => rfl
  | cons a rest ih =>
    rw [List.map_cons, List.mem_cons, not_or] at hp
    rw [List.zipIdx_cons, List.foldl_cons, ih _ _ hp.2, AList.lookup_insert_ne hp.1]

/-- With distinct keys, the fold of `buildIndex` from position `k` maps the key at position `i`
to `k + i`. -/
theorem lookup_foldl_insert (l : List ValidatorInfo) (hl : (l.map (·.pubkey)).Nodup) (k : Nat)
    (m : AList fun _ : Pubkey => Nat) (i : Nat) (hi : i < l.length) :
    ((l.zipIdx k).foldl (fun m q => m.insert q.1.pubkey q.2) m).lookup l[i].pubkey =
      some (k + i) := by
  induction l generalizing k m i with
  | nil => cases hi
  | cons a rest ih =>
    rw [List.map_cons, List.nodup_cons] at hl
    rw [List.zipIdx_cons, List.foldl_cons]
    cases i with
    | zero =>
      -- the first key is met once, at position `k`
      rw [List.getElem_cons_zero, lookup_foldl_insert_of_not_mem _ _ _ hl.1,
        AList.lookup_insert]
      rfl
    | succ j =>
      rw [List.getElem_cons_succ, ih hl.2 _ _ j (by simpa using hi)]
      congr 1
      omega

theorem lookup_buildIndex (l : List ValidatorInfo) (hl : (l.map (·.pubkey)).Nodup) (i : Nat)
    (hi : i < l.length) : (buildIndex l).lookup l[i].pubkey = some i := by
  rw [buildIndex, lookup_foldl_insert l hl 0 ∅ i hi, Nat.zero_add]

theorem mem_buildIndex (l : List ValidatorInfo) (hl : (l.map (·.pubkey)).Nodup) (p : Pubkey) :
    p ∈ buildIndex l ↔ p ∈ l.map (·.pubkey) := by
  constructor
  · intro hp
    by_contra hn
    have hnone : (buildIndex l).lookup p = none := by
      rw [buildIndex, lookup_foldl_insert_of_not_mem l 0 ∅ hn]
      rfl
    exact (AList.lookup_eq_none.mp hnone) hp
  · intro hp
    obtain ⟨i, hi, rfl⟩ := List.getElem_of_mem hp
    rw [List.getElem_map] at *
    rw [← AList.lookup_isSome, lookup_buildIndex l hl i (by simpa using hi)]
    rfl

/-! ## The representation invariant -/

/-- The invariant the set's fields keep together: the entries strictly ordered by stake
descending then key ascending, with distinct keys and positive stakes, the index mapping each
member's key to its position and nothing else, and `total_stake` the sum of `stake_of` over the
members. -/
structure WellFormed (vs : ValidatorSet) : Prop where
  sorted : vs.validators.Pairwise fun a b => a.cmp b = .lt
  nodup : vs.pubkeys.Nodup
  stake_pos : ∀ v ∈ vs.validators, 0 < v.stake
  index_get : ∀ i (hi : i < vs.validators.length),
    vs.index.lookup vs.validators[i].pubkey = some i
  index_mem : ∀ p, p ∈ vs.index ↔ p ∈ vs.pubkeys
  totalStake : vs.totalStake.toNat = ∑ p ∈ vs.pubkeys.toFinset, (vs.stakeOf p).toNat

/-- With distinct keys, `stake_of` of a member is its stake. -/
theorem stakeOf_ofSorted (l : List ValidatorInfo) (hl : (l.map (·.pubkey)).Nodup)
    {v : ValidatorInfo} (hv : v ∈ l) : (ofSorted l).stakeOf v.pubkey = v.stake := by
  obtain ⟨i, hi, rfl⟩ := List.getElem_of_mem hv
  simp only [stakeOf, getByPubkey, ofSorted, lookup_buildIndex l hl i hi, Option.bind_some, get,
    List.getElem?_eq_getElem hi]

theorem toNat_sumStakes {l : List ValidatorInfo} (h : (l.map (·.stake.toNat)).sum < 2 ^ 64) :
    (sumStakes l).toNat = (l.map (·.stake.toNat)).sum := by
  have hmap : ((l.map (·.stake)).map UInt64.toNat) = l.map (·.stake.toNat) := by
    rw [List.map_map]
    rfl
  rw [sumStakes, RustInt.foldl_add_toNat_of_lt 0 _ (by rw [hmap]; simpa using h), hmap]
  simp

/-- Sorting entries with distinct keys, positive stakes and a sum below `2 ^ 64` gives a set
that keeps the invariant. -/
theorem wellFormed_ofSorted (infos : List ValidatorInfo) (hnd : (infos.map (·.pubkey)).Nodup)
    (hpos : ∀ v ∈ infos, 0 < v.stake) (hsum : (infos.map (·.stake.toNat)).sum < 2 ^ 64) :
    (ofSorted (sortInfos infos)).WellFormed := by
  have hperm := perm_sortInfos infos
  have hnd' : ((sortInfos infos).map (·.pubkey)).Nodup := (hperm.map _).nodup_iff.mpr hnd
  have hsum' : ((sortInfos infos).map (·.stake.toNat)).sum = (infos.map (·.stake.toNat)).sum :=
    (hperm.map _).sum_eq
  refine ⟨pairwise_lt_sortInfos hnd, hnd', fun v hv => hpos v (hperm.mem_iff.mp hv),
    lookup_buildIndex _ hnd', mem_buildIndex _ hnd', ?_⟩
  -- the sum over the members is the sum over the entries
  change (sumStakes (sortInfos infos)).toNat = _
  rw [toNat_sumStakes (hsum' ▸ hsum), pubkeys,
    show (ofSorted (sortInfos infos)).validators = sortInfos infos from rfl,
    List.sum_toFinset _ hnd', List.map_map]
  refine congrArg List.sum (List.map_congr_left fun v hv => ?_)
  simp only [Function.comp_apply, stakeOf_ofSorted _ hnd' hv]

namespace WellFormed

variable {vs : ValidatorSet}

theorem stakeOf_eq (h : vs.WellFormed) {v : ValidatorInfo} (hv : v ∈ vs.validators) :
    vs.stakeOf v.pubkey = v.stake := by
  obtain ⟨i, hi, rfl⟩ := List.getElem_of_mem hv
  simp only [stakeOf, getByPubkey, h.index_get i hi, Option.bind_some, get,
    List.getElem?_eq_getElem hi]

/-- The stakes of a set that keeps the invariant sum below `2 ^ 64`. -/
theorem stakeOf_of_not_mem (h : vs.WellFormed) {p : Pubkey} (hp : p ∉ vs.pubkeys) :
    vs.stakeOf p = 0 := by
  have hnone : vs.index.lookup p = none :=
    AList.lookup_eq_none.mpr fun hi => hp ((h.index_mem p).mp hi)
  simp only [stakeOf, getByPubkey, hnone, Option.bind_none]

/-- The cached total is the sum of the members' stakes. -/
theorem totalStake_toNat (h : vs.WellFormed) :
    vs.totalStake.toNat = (vs.validators.map (·.stake.toNat)).sum := by
  rw [h.totalStake, List.sum_toFinset _ h.nodup, pubkeys, List.map_map]
  exact congrArg List.sum (List.map_congr_left fun v hv => by
    simp only [Function.comp_apply, h.stakeOf_eq hv])

theorem sum_lt (h : vs.WellFormed) : (vs.validators.map (·.stake.toNat)).sum < 2 ^ 64 := by
  rw [← h.totalStake_toNat]
  exact vs.totalStake.toNat_lt

/-- `upsert` keeps the invariant when the stakes it leaves sum below `2 ^ 64`. -/
theorem upsert (h : vs.WellFormed) (p : Pubkey) (stake : UInt64)
    (hsum : ((vs.validators.filter fun v => v.pubkey != p).map (·.stake.toNat)).sum +
      stake.toNat < 2 ^ 64) : (vs.upsert p stake).WellFormed := by
  have hkept : ((vs.validators.filter fun v => v.pubkey != p).map (·.pubkey)).Nodup :=
    h.nodup.sublist (List.filter_sublist.map _)
  have hpos : ∀ v ∈ vs.validators.filter (fun v => v.pubkey != p), 0 < v.stake :=
    fun v hv => h.stake_pos v (List.mem_of_mem_filter hv)
  unfold ValidatorSet.upsert
  split_ifs with hstake
  · -- the new entry, with a key the kept ones do not have
    apply wellFormed_ofSorted
    · rw [List.map_append, List.nodup_append]
      refine ⟨hkept, List.nodup_singleton _, fun a ha b hb => ?_⟩
      rw [List.map_singleton, List.mem_singleton] at hb
      obtain ⟨v, hv, rfl⟩ := List.mem_map.mp ha
      have := (List.mem_filter.mp hv).2
      rw [hb]
      simpa using this
    · intro v hv
      rcases List.mem_append.mp hv with hv | hv
      · exact hpos v hv
      · rw [List.mem_singleton] at hv
        rw [hv]
        exact hstake
    · simpa using hsum
  · exact wellFormed_ofSorted _ hkept hpos (by omega)

/-- `remove` keeps the invariant. -/
theorem remove (h : vs.WellFormed) (p : Pubkey) : (vs.remove p).WellFormed := by
  refine h.upsert p 0 ?_
  have hle : ((vs.validators.filter fun v => v.pubkey != p).map (·.stake.toNat)).sum ≤
      (vs.validators.map (·.stake.toNat)).sum :=
    (List.filter_sublist.map _).sum_le_sum fun _ _ => Nat.zero_le _
  have := h.sum_lt
  rw [UInt64.toNat_zero]
  omega

end WellFormed

/-- `ValidatorSet::new` keeps the invariant when the positive-stake entries of its input have
distinct keys and stakes summing below `2 ^ 64`. -/
theorem wellFormed_new (input : List (Pubkey × UInt64))
    (hnd : ((input.filter fun p => 0 < p.2).map Prod.fst).Nodup)
    (hsum : ((input.filter fun p => 0 < p.2).map fun p => p.2.toNat).sum < 2 ^ 64) :
    (ValidatorSet.new input).WellFormed := by
  apply wellFormed_ofSorted
  · simpa [List.map_map, Function.comp_def] using hnd
  · intro v hv
    obtain ⟨p, hp, rfl⟩ := List.mem_map.mp hv
    simpa using (List.mem_filter.mp hp).2
  · simpa [List.map_map, Function.comp_def] using hsum

/-! ## The three operations -/

/-- Every set built by `new` from an input whose positive-stake entries have distinct keys and a
sum that fits in `u64` keeps the invariant, and so does every `upsert` whose resulting stakes
fit in `u64` and every `remove`. -/
theorem validatorSet_representation :
    (∀ input : List (Pubkey × UInt64),
      ((input.filter fun p => 0 < p.2).map Prod.fst).Nodup →
      ((input.filter fun p => 0 < p.2).map fun p => p.2.toNat).sum < 2 ^ 64 →
      (ValidatorSet.new input).WellFormed) ∧
    (∀ vs : ValidatorSet, vs.WellFormed → ∀ (p : Pubkey) (stake : UInt64),
      ((vs.validators.filter fun v => v.pubkey != p).map (·.stake.toNat)).sum + stake.toNat <
        2 ^ 64 → (vs.upsert p stake).WellFormed) ∧
    (∀ vs : ValidatorSet, vs.WellFormed → ∀ p : Pubkey, (vs.remove p).WellFormed) :=
  ⟨wellFormed_new, fun _ h => h.upsert, fun _ h => h.remove⟩

/-- Two validators with distinct keys. -/
def pairInput : List (Pubkey × UInt64) := [(⟨1⟩, 900), (⟨2⟩, 100)]

theorem representation_on_pair :
    (ValidatorSet.new pairInput).WellFormed ∧
      ((ValidatorSet.new pairInput).upsert ⟨⟨3, by decide⟩⟩ 50).WellFormed ∧
      ((ValidatorSet.new pairInput).remove ⟨⟨1, by decide⟩⟩).WellFormed :=
  have h := validatorSet_representation.1 pairInput (by decide) (by decide)
  ⟨h, validatorSet_representation.2.1 _ h _ _ (by decide), validatorSet_representation.2.2 _ h _⟩

/-- One key with two entries in the constructor's input. -/
def twinKey : Pubkey := ⟨1⟩

def twinInput : List (Pubkey × UInt64) := [(twinKey, 5), (twinKey, 3)]

/-- Two stakes of `2 ^ 63`, whose sum wraps to `0`. -/
def overflowInput : List (Pubkey × UInt64) :=
  [(⟨1⟩, 9223372036854775808), (⟨2⟩, 9223372036854775808)]

/-- `new` keeps both entries of a repeated key, and wraps a sum past `u64::MAX`: neither set keeps
the invariant. -/
theorem new_breaks_representation :
    ¬ (ValidatorSet.new twinInput).WellFormed ∧ ¬ (ValidatorSet.new overflowInput).WellFormed := by
  refine ⟨fun h => ?_, fun h => ?_⟩
  · -- both entries stay, under one key
    have hnd := h.nodup
    revert hnd
    decide
  · -- the stakes sum to `2 ^ 64`
    have hsum := h.sum_lt
    revert hsum
    decide

end ValidatorSet

end TRv1.ConsensusBft
