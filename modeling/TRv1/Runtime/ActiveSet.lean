import TRv1.ConsensusBft.ValidatorSetSpec

/-!
# The active validator set

`ActiveValidatorSet::compute` of `trv1_active_set.rs` sums the stakes of each node identity's
vote accounts (skipping zero stakes, with the wrapping `+=` of a release build), ranks the nodes
by stake descending then key ascending, and walks the ranking: a jailed node goes to standby,
and the others fill the active set up to `MAX_ACTIVE_VALIDATORS` and overflow into standby.
`filter_active_vote_accounts` keeps the vote accounts whose node is active; the leader schedule
is built from them.

The vote-accounts map is the list of its entries in iteration order, and the `HashMap` of node
stakes an `AList`; its iteration order does not matter, since the ranking orders distinct keys
strictly. The `HashSet`s are `Finset`s.

## What this module delivers

- `lookup_nodeStakes`: the node stakes hold, for each node with a positive-stake account, the
  wrapped sum of its stakes.
- `Places`: the invariant of the walk over the ranking, kept by every step
  (`Places.step`); after the walk the active list is the first `MAX_ACTIVE_VALIDATORS` unjailed
  nodes of the ranking and standby the rest (`places_compute`).
- `compute_spec`: when no node's stake sum wraps, `compute` partitions the staked nodes into
  active and standby as the ranking by summed stake prescribes; `wrapped_stake_ranked_low`
  shows a node whose sum wraps ranked below one with less stake.
-/

set_option autoImplicit false

namespace TRv1.Runtime.ActiveSet

open TRv1.ConsensusBft

/-- `MAX_ACTIVE_VALIDATORS`, `ACTIVE_VALIDATOR_CAP` of `trv1_constants.rs`. -/
def maxActiveValidators : Nat := 200

/-- An entry of the vote-accounts map: the vote account's key, its delegated stake, and the node
identity its vote state names. -/
structure VoteAccountEntry where
  votePubkey : Pubkey
  stake : UInt64
  nodePubkey : Pubkey
  deriving DecidableEq, Repr

/-- `ActiveValidatorSet`. -/
structure ActiveValidatorSet where
  activeValidators : Finset Pubkey
  standbyValidators : Finset Pubkey
  activeRanked : List (Pubkey × UInt64)
  standbyRanked : List (Pubkey × UInt64)
  deriving DecidableEq

/-- The first loop of `compute`: `*node_stakes.entry(node).or_default() += stake` for each vote
account with a positive stake. -/
def nodeStakes (voteAccounts : List VoteAccountEntry) : AList (fun _ : Pubkey => UInt64) :=
  voteAccounts.foldl (fun m a =>
    if a.stake = 0 then m
    else m.insert a.nodePubkey ((m.lookup a.nodePubkey).getD 0 + a.stake)) ∅

/-- The comparator of the ranking: stake descending, then key ascending. -/
def rankCmp (a b : Pubkey × UInt64) : Ordering :=
  (compare b.2 a.2).then (compare a.1 b.1)

/-- `ranked.sort_by(..)` over the node stakes, as an insertion sort. -/
def rankNodes (nodeStakes : AList (fun _ : Pubkey => UInt64)) : List (Pubkey × UInt64) :=
  (nodeStakes.entries.map fun e => (e.1, e.2)).insertionSort fun a b => rankCmp a b != .gt

/-- One step of the second loop of `compute`. -/
def place (jailedValidators : Finset Pubkey) (s : ActiveValidatorSet) (e : Pubkey × UInt64) :
    ActiveValidatorSet :=
  if e.1 ∈ jailedValidators then
    -- jailed validators are always standby
    { s with standbyRanked := s.standbyRanked ++ [e],
             standbyValidators := insert e.1 s.standbyValidators }
  else if s.activeRanked.length < maxActiveValidators then
    { s with activeRanked := s.activeRanked ++ [e],
             activeValidators := insert e.1 s.activeValidators }
  else
    { s with standbyRanked := s.standbyRanked ++ [e],
             standbyValidators := insert e.1 s.standbyValidators }

/-- The empty set the second loop starts from. -/
def empty : ActiveValidatorSet := ⟨∅, ∅, [], []⟩

/-- `ActiveValidatorSet::compute`. -/
def compute (voteAccounts : List VoteAccountEntry) (jailedValidators : Finset Pubkey) :
    ActiveValidatorSet :=
  (rankNodes (nodeStakes voteAccounts)).foldl (place jailedValidators) empty

/-- `is_active`. -/
def ActiveValidatorSet.isActive (s : ActiveValidatorSet) (nodePubkey : Pubkey) : Bool :=
  decide (nodePubkey ∈ s.activeValidators)

/-- `filter_active_vote_accounts`. -/
def ActiveValidatorSet.filterActiveVoteAccounts (s : ActiveValidatorSet)
    (voteAccounts : List VoteAccountEntry) : List VoteAccountEntry :=
  voteAccounts.filter fun a => a.nodePubkey ∈ s.activeValidators

/-! ## The node stakes -/

/-- The aggregated stake of a node: the sum of the stakes of all its vote accounts. -/
def aggregatedStake (voteAccounts : List VoteAccountEntry) (node : Pubkey) : ℕ :=
  ((voteAccounts.filter (·.nodePubkey = node)).map (·.stake.toNat)).sum

/-- The node identities with a positive aggregated stake. -/
def stakedNodes (voteAccounts : List VoteAccountEntry) : Finset Pubkey :=
  (voteAccounts.map (·.nodePubkey)).toFinset.filter (0 < aggregatedStake voteAccounts ·)

theorem aggregatedStake_append_singleton (voteAccounts : List VoteAccountEntry)
    (a : VoteAccountEntry) (node : Pubkey) :
    aggregatedStake (voteAccounts ++ [a]) node =
      aggregatedStake voteAccounts node + if a.nodePubkey = node then a.stake.toNat else 0 := by
  unfold aggregatedStake
  rw [List.filter_append, List.map_append, List.sum_append]
  by_cases ha : a.nodePubkey = node
  · simp [ha]
  · simp [ha]

theorem aggregatedStake_le (voteAccounts : List VoteAccountEntry) (node : Pubkey) :
    aggregatedStake voteAccounts node ≤ (voteAccounts.map (·.stake.toNat)).sum :=
  (List.filter_sublist.map _).sum_le_sum fun _ _ => Nat.zero_le _

/-- What the node stakes hold after the vote accounts `done`: the wrapped aggregated stake of
each node with a positive one. -/
def HoldsStakes (done : List VoteAccountEntry) (m : AList (fun _ : Pubkey => UInt64)) : Prop :=
  ∀ node, m.lookup node =
    if 0 < aggregatedStake done node then some (UInt64.ofNat (aggregatedStake done node))
    else none

theorem HoldsStakes.step {done : List VoteAccountEntry} {m : AList (fun _ : Pubkey => UInt64)}
    (h : HoldsStakes done m) (a : VoteAccountEntry) :
    HoldsStakes (done ++ [a])
      (if a.stake = 0 then m
        else m.insert a.nodePubkey ((m.lookup a.nodePubkey).getD 0 + a.stake)) := by
  intro node
  rw [aggregatedStake_append_singleton]
  by_cases hzero : a.stake = 0
  · -- a zero stake is skipped and adds nothing
    rw [if_pos hzero, hzero, UInt64.toNat_zero, ite_self, Nat.add_zero]
    exact h node
  · rw [if_neg hzero]
    have hpos : 0 < a.stake.toNat := RustInt.toNat_pos_of_ne_zero hzero
    by_cases hnode : a.nodePubkey = node
    · -- the node's entry grows by the stake, wrapping
      subst hnode
      rw [AList.lookup_insert, if_pos rfl, if_pos (by omega), h, UInt64.ofNat_add,
        UInt64.ofNat_toNat]
      split_ifs with hagg
      · rfl
      · rw [Nat.not_lt, Nat.le_zero] at hagg
        rw [Option.getD_none, hagg]
        rfl
    · rw [AList.lookup_insert_ne (Ne.symm hnode), if_neg hnode, Nat.add_zero]
      exact h node

theorem HoldsStakes.foldl {done : List VoteAccountEntry} {m : AList (fun _ : Pubkey => UInt64)}
    (h : HoldsStakes done m) (rest : List VoteAccountEntry) :
    HoldsStakes (done ++ rest) (rest.foldl (fun m a =>
      if a.stake = 0 then m
      else m.insert a.nodePubkey ((m.lookup a.nodePubkey).getD 0 + a.stake)) m) := by
  induction rest generalizing done m with
  | nil => simpa using h
  | cons a rest ih =>
    have h₂ := ih (h.step a)
    rw [List.append_assoc, List.singleton_append] at h₂
    exact h₂

/-- The node stakes hold the wrapped aggregated stake of each node with a positive one. -/
theorem lookup_nodeStakes (voteAccounts : List VoteAccountEntry) (node : Pubkey) :
    (nodeStakes voteAccounts).lookup node =
      if 0 < aggregatedStake voteAccounts node then
        some (UInt64.ofNat (aggregatedStake voteAccounts node))
      else none := by
  have hnil : HoldsStakes [] (∅ : AList (fun _ : Pubkey => UInt64)) := fun node => by
    rw [AList.lookup_empty]
    rfl
  exact hnil.foldl voteAccounts node

/-! ## The ranking -/

/-- The ranking's comparator is the validator set's, on the pair read as a `ValidatorInfo`. -/
theorem rankCmp_eq (a b : Pubkey × UInt64) :
    rankCmp a b = ValidatorInfo.cmp ⟨a.1, a.2⟩ ⟨b.1, b.2⟩ := rfl

/-- A node ranked before another has at least its stake. -/
theorem stake_le_of_rankCmp {a b : Pubkey × UInt64} (h : rankCmp a b = .lt) :
    b.2.toNat ≤ a.2.toNat := by
  rw [rankCmp_eq, ValidatorInfo.cmp_eq_lt_iff] at h
  rcases h with h | ⟨h, -⟩
  · exact Nat.le_of_lt (UInt64.lt_iff_toNat_lt.mp h)
  · exact Nat.le_of_eq (congrArg UInt64.toNat h)

/-- The entries of the node stakes as pairs. -/
def stakePairs (m : AList (fun _ : Pubkey => UInt64)) : List (Pubkey × UInt64) :=
  m.entries.map fun e => (e.1, e.2)

theorem mem_stakePairs {m : AList (fun _ : Pubkey => UInt64)} {e : Pubkey × UInt64} :
    e ∈ stakePairs m ↔ m.lookup e.1 = some e.2 := by
  rw [← Option.mem_def, AList.mem_lookup_iff, stakePairs, List.mem_map]
  constructor
  · rintro ⟨⟨k, v⟩, hkv, rfl⟩
    exact hkv
  · intro he
    exact ⟨⟨e.1, e.2⟩, he, rfl⟩

theorem nodup_map_fst_stakePairs (m : AList (fun _ : Pubkey => UInt64)) :
    ((stakePairs m).map Prod.fst).Nodup := by
  rw [stakePairs, List.map_map]
  exact m.keys_nodup

theorem perm_rankNodes (m : AList (fun _ : Pubkey => UInt64)) :
    (rankNodes m).Perm (stakePairs m) :=
  List.perm_insertionSort _ _

theorem nodup_map_fst_rankNodes (m : AList (fun _ : Pubkey => UInt64)) :
    ((rankNodes m).map Prod.fst).Nodup :=
  ((perm_rankNodes m).map _).nodup_iff.mpr (nodup_map_fst_stakePairs m)

/-- The ranking orders the nodes strictly by stake descending, then key ascending. -/
theorem pairwise_rankNodes (m : AList (fun _ : Pubkey => UInt64)) :
    (rankNodes m).Pairwise fun a b => rankCmp a b = .lt := by
  have : Std.Total fun a b : Pubkey × UInt64 => (rankCmp a b != .gt) = true :=
    ⟨fun a b => by
      simpa [bne_iff_ne, rankCmp_eq] using ValidatorInfo.cmp_total ⟨a.1, a.2⟩ ⟨b.1, b.2⟩⟩
  have : IsTrans (Pubkey × UInt64) fun a b => (rankCmp a b != .gt) = true :=
    ⟨fun a b c hab hbc => by
      simp only [bne_iff_ne, ne_eq, rankCmp_eq] at hab hbc ⊢
      exact ValidatorInfo.cmp_trans _ _ _ hab hbc⟩
  have hsorted : (rankNodes m).Pairwise fun a b => (rankCmp a b != .gt) = true :=
    List.pairwise_insertionSort _ _
  -- distinct keys turn the weak order into the strict one
  refine (hsorted.and (List.pairwise_map.mp (nodup_map_fst_rankNodes m))).imp
    fun ⟨hng, hne⟩ => ?_
  rw [bne_iff_ne, ne_eq] at hng
  cases hc : rankCmp _ _
  · rfl
  · rw [rankCmp_eq, ValidatorInfo.cmp_eq_eq_iff] at hc
    exact absurd hc.2 hne
  · exact absurd hc hng

/-- The ranked entries are the staked nodes, each with its wrapped aggregated stake. -/
theorem mem_rankNodes {voteAccounts : List VoteAccountEntry} {e : Pubkey × UInt64} :
    e ∈ rankNodes (nodeStakes voteAccounts) ↔
      0 < aggregatedStake voteAccounts e.1 ∧
        e.2 = UInt64.ofNat (aggregatedStake voteAccounts e.1) := by
  rw [(perm_rankNodes _).mem_iff, mem_stakePairs, lookup_nodeStakes]
  split_ifs with hpos
  · rw [Option.some.injEq]
    exact ⟨fun h => ⟨hpos, h.symm⟩, fun h => h.2.symm⟩
  · simp only [false_iff, not_and]
    exact fun h => absurd h hpos

/-! ## The walk over the ranking -/

section Walk

variable (jailed : Finset Pubkey)

/-- The first `MAX_ACTIVE_VALIDATORS` unjailed nodes of `P`. -/
def activeOf (P : List (Pubkey × UInt64)) : List (Pubkey × UInt64) :=
  (P.filter (·.1 ∉ jailed)).take maxActiveValidators

/-- The invariant of the walk after the prefix `P` of the ranking: the active list is the first
`MAX_ACTIVE_VALIDATORS` unjailed nodes of `P`, the standby list the other nodes of `P` in order,
and each set holds the keys of its list. -/
structure Places (P : List (Pubkey × UInt64)) (s : ActiveValidatorSet) : Prop where
  activeRanked : s.activeRanked = activeOf jailed P
  standbyRanked : s.standbyRanked = P.filter (· ∉ activeOf jailed P)
  activeValidators : s.activeValidators = (s.activeRanked.map Prod.fst).toFinset
  standbyValidators : s.standbyValidators = (s.standbyRanked.map Prod.fst).toFinset

theorem places_empty : Places jailed [] empty := ⟨rfl, rfl, rfl, rfl⟩

theorem toFinset_map_fst_append (l : List (Pubkey × UInt64)) (e : Pubkey × UInt64) :
    ((l ++ [e]).map Prod.fst).toFinset = insert e.1 (l.map Prod.fst).toFinset := by
  ext x
  simp only [List.map_append, List.map_singleton, List.toFinset_append, Finset.mem_union,
    List.mem_toFinset, List.mem_singleton, Finset.mem_insert]
  exact or_comm

theorem activeOf_subset (P : List (Pubkey × UInt64)) {e : Pubkey × UInt64}
    (he : e ∈ activeOf jailed P) : e ∈ P :=
  List.mem_of_mem_filter (List.mem_of_mem_take he)

variable {jailed}

/-- A node that goes to standby leaves the active list as it was. -/
theorem Places.toStandby {P : List (Pubkey × UInt64)} {s : ActiveValidatorSet}
    (h : Places jailed P s) {e : Pubkey × UInt64} (he : e ∉ P)
    (hact : activeOf jailed (P ++ [e]) = activeOf jailed P) :
    Places jailed (P ++ [e])
      { s with standbyRanked := s.standbyRanked ++ [e],
               standbyValidators := insert e.1 s.standbyValidators } := by
  have hnot : e ∉ activeOf jailed P := fun hin => he (activeOf_subset jailed P hin)
  refine ⟨h.activeRanked.trans hact.symm, ?_, h.activeValidators, ?_⟩
  · rw [hact, List.filter_append, h.standbyRanked, List.filter_singleton,
      decide_eq_true hnot]
    rfl
  · dsimp only
    rw [h.standbyValidators, toFinset_map_fst_append]

/-- One step of the walk keeps the invariant, for a node not met before. -/
theorem Places.step {P : List (Pubkey × UInt64)} {s : ActiveValidatorSet}
    (h : Places jailed P s) {e : Pubkey × UInt64} (he : e ∉ P) :
    Places jailed (P ++ [e]) (place jailed s e) := by
  have hlen : s.activeRanked.length = min maxActiveValidators
      (P.filter (·.1 ∉ jailed)).length := by
    rw [h.activeRanked, activeOf, List.length_take]
  unfold place
  by_cases hjail : e.1 ∈ jailed
  · -- jailed: standby, and the unjailed nodes are those of `P`
    rw [if_pos hjail]
    refine h.toStandby he ?_
    rw [activeOf, List.filter_append, List.filter_singleton, decide_eq_false (not_not.mpr hjail),
      cond_false, List.append_nil]
    rfl
  · rw [if_neg hjail]
    have hfilter : (P ++ [e]).filter (·.1 ∉ jailed) = P.filter (·.1 ∉ jailed) ++ [e] := by
      rw [List.filter_append, List.filter_singleton, decide_eq_true hjail]
      rfl
    by_cases hroom : s.activeRanked.length < maxActiveValidators
    · -- room left: active, and every unjailed node of `P` is active already
      rw [if_pos hroom]
      have hshort : (P.filter (·.1 ∉ jailed)).length < maxActiveValidators := by omega
      have hact : activeOf jailed (P ++ [e]) = activeOf jailed P ++ [e] := by
        rw [activeOf, activeOf, hfilter,
          List.take_of_length_le (by rw [List.length_append, List.length_singleton]; omega),
          List.take_of_length_le (by omega)]
      refine ⟨?_, ?_, ?_, h.standbyValidators⟩
      · rw [hact, ← h.activeRanked]
      · -- the new node is active, and the nodes of `P` keep their places
        rw [hact, List.filter_append, List.filter_singleton,
          decide_eq_false (not_not.mpr (List.mem_append_right _ (List.mem_singleton_self e))),
          cond_false, List.append_nil, h.standbyRanked]
        refine List.filter_congr fun x hx => ?_
        have hxe : x ≠ e := fun hxe => he (hxe ▸ hx)
        simp [hxe]
      · dsimp only
        rw [h.activeValidators, toFinset_map_fst_append]
    · -- the active list is full: standby
      rw [if_neg hroom]
      refine h.toStandby he ?_
      rw [activeOf, activeOf, hfilter, List.take_append_of_le_length (by omega)]

/-- The walk over the rest of a ranking without repeated nodes keeps the invariant. -/
theorem Places.foldl {P : List (Pubkey × UInt64)} {s : ActiveValidatorSet}
    (h : Places jailed P s) (rest : List (Pubkey × UInt64)) (hnd : (P ++ rest).Nodup) :
    Places jailed (P ++ rest) (rest.foldl (place jailed) s) := by
  induction rest generalizing P s with
  | nil => simpa using h
  | cons e rest ih =>
    have he : e ∉ P := fun hin => (List.nodup_append.mp hnd).2.2 e hin e
      List.mem_cons_self rfl
    have h₂ := ih (h.step he) (by rwa [List.append_assoc, List.singleton_append])
    rw [List.append_assoc, List.singleton_append] at h₂
    exact h₂

end Walk

/-- After `compute`, the active list is the first `MAX_ACTIVE_VALIDATORS` unjailed nodes of the
ranking and standby the rest, in ranking order. -/
theorem places_compute (voteAccounts : List VoteAccountEntry) (jailed : Finset Pubkey) :
    Places jailed (rankNodes (nodeStakes voteAccounts)) (compute voteAccounts jailed) := by
  have hnd := List.Nodup.of_map Prod.fst (nodup_map_fst_rankNodes (nodeStakes voteAccounts))
  exact (places_empty jailed).foldl _ (by rwa [List.nil_append])

/-! ## What `compute` returns -/

section Compute

variable {voteAccounts : List VoteAccountEntry}

theorem mem_map_nodePubkey_of_pos {node : Pubkey} (h : 0 < aggregatedStake voteAccounts node) :
    node ∈ voteAccounts.map (·.nodePubkey) := by
  by_contra hn
  have hnil : voteAccounts.filter (·.nodePubkey = node) = [] :=
    List.filter_eq_nil_iff.mpr fun a ha han => hn (List.mem_map.mpr ⟨a, ha, of_decide_eq_true han⟩)
  rw [aggregatedStake, hnil] at h
  exact Nat.lt_irrefl 0 h

/-- The ranked keys are the staked nodes. -/
theorem mem_map_fst_rankNodes {node : Pubkey} :
    node ∈ (rankNodes (nodeStakes voteAccounts)).map Prod.fst ↔
      node ∈ stakedNodes voteAccounts := by
  rw [stakedNodes, Finset.mem_filter, List.mem_toFinset, List.mem_map]
  constructor
  · rintro ⟨e, he, rfl⟩
    have hpos := (mem_rankNodes.mp he).1
    exact ⟨mem_map_nodePubkey_of_pos hpos, hpos⟩
  · rintro ⟨-, hpos⟩
    exact ⟨(node, UInt64.ofNat (aggregatedStake voteAccounts node)), mem_rankNodes.mpr ⟨hpos, rfl⟩,
      rfl⟩

/-- A ranked entry is determined by its key. -/
theorem eq_of_mem_rankNodes {a b : Pubkey × UInt64} (ha : a ∈ rankNodes (nodeStakes voteAccounts))
    (hb : b ∈ rankNodes (nodeStakes voteAccounts)) (hab : a.1 = b.1) : a = b := by
  have ha' := (mem_rankNodes.mp ha).2
  have hb' := (mem_rankNodes.mp hb).2
  exact Prod.ext hab (by rw [ha', hb', hab])

/-- Without wrapping, a ranked entry carries the node's aggregated stake. -/
theorem toNat_of_mem_rankNodes (hfit : ∀ node, aggregatedStake voteAccounts node < 2 ^ 64)
    {e : Pubkey × UInt64} (he : e ∈ rankNodes (nodeStakes voteAccounts)) :
    e.2.toNat = aggregatedStake voteAccounts e.1 := by
  rw [(mem_rankNodes.mp he).2, UInt64.toNat_ofNat', Nat.mod_eq_of_lt (hfit e.1)]

theorem mem_map_fst_rankNodes_iff {node : Pubkey} :
    node ∈ (rankNodes (nodeStakes voteAccounts)).map Prod.fst ↔
      0 < aggregatedStake voteAccounts node := by
  rw [mem_map_fst_rankNodes, stakedNodes, Finset.mem_filter, List.mem_toFinset]
  exact ⟨And.right, fun h => ⟨mem_map_nodePubkey_of_pos h, h⟩⟩

end Compute

/-- When no node's stake sum wraps in `u64`, `compute` partitions the nodes with a positive
aggregated stake into active and standby; no jailed node is active; the active set has
`min MAX_ACTIVE_VALIDATORS n` nodes for `n` the unjailed staked nodes; every active node has at
least the aggregated stake of every unjailed standby node; both ranked lists are ordered by
stake descending then key ascending and carry each node's aggregated stake; and
`filter_active_vote_accounts` keeps exactly the vote accounts of active nodes. -/
theorem compute_spec (voteAccounts : List VoteAccountEntry) (jailed : Finset Pubkey)
    (hfit : ∀ node, aggregatedStake voteAccounts node < 2 ^ 64) :
    (∀ node, node ∈ (compute voteAccounts jailed).activeValidators ∨
        node ∈ (compute voteAccounts jailed).standbyValidators ↔
      0 < aggregatedStake voteAccounts node) ∧
    Disjoint (compute voteAccounts jailed).activeValidators
      (compute voteAccounts jailed).standbyValidators ∧
    (∀ node ∈ (compute voteAccounts jailed).activeValidators, node ∉ jailed) ∧
    (compute voteAccounts jailed).activeValidators.card =
      min maxActiveValidators ((stakedNodes voteAccounts).filter (· ∉ jailed)).card ∧
    (∀ a ∈ (compute voteAccounts jailed).activeRanked,
      ∀ b ∈ (compute voteAccounts jailed).standbyRanked, b.1 ∉ jailed →
        aggregatedStake voteAccounts b.1 ≤ aggregatedStake voteAccounts a.1) ∧
    (compute voteAccounts jailed).activeRanked.Pairwise (fun a b => rankCmp a b = .lt) ∧
    (compute voteAccounts jailed).standbyRanked.Pairwise (fun a b => rankCmp a b = .lt) ∧
    (∀ e ∈ (compute voteAccounts jailed).activeRanked ++
        (compute voteAccounts jailed).standbyRanked,
      e.2.toNat = aggregatedStake voteAccounts e.1) ∧
    ∀ a, a ∈ (compute voteAccounts jailed).filterActiveVoteAccounts voteAccounts ↔
      a ∈ voteAccounts ∧ a.nodePubkey ∈ (compute voteAccounts jailed).activeValidators := by
  obtain ⟨hA, hS, hAv, hSv⟩ := places_compute voteAccounts jailed
  set R := rankNodes (nodeStakes voteAccounts) with hR
  set F := R.filter (·.1 ∉ jailed) with hF
  have hsorted : R.Pairwise fun a b => rankCmp a b = .lt := pairwise_rankNodes _
  have hAsub : (activeOf jailed R).Sublist R := (List.take_sublist _ _).trans List.filter_sublist
  have hSsub : (R.filter (· ∉ activeOf jailed R)).Sublist R := List.filter_sublist
  -- the active list is the head of the unjailed ranking, the unjailed standby nodes its tail
  have hsplit : F = activeOf jailed R ++ F.drop maxActiveValidators :=
    (List.take_append_drop _ F).symm
  have hkeys : (F.map Prod.fst).Nodup :=
    (nodup_map_fst_rankNodes (nodeStakes voteAccounts)).sublist (List.filter_sublist.map _)
  have hFsorted : (activeOf jailed R ++ F.drop maxActiveValidators).Pairwise
      fun a b => rankCmp a b = .lt := hsplit ▸ hsorted.sublist List.filter_sublist
  refine ⟨fun node => ?_, ?_, fun node hn => ?_, ?_, fun a ha b hb hbj => ?_, ?_, ?_,
    fun e he => ?_, fun a => ?_⟩
  · -- every ranked node is active or standby, and nothing else is
    rw [hAv, hSv, hA, hS, List.mem_toFinset, List.mem_toFinset, ← mem_map_fst_rankNodes_iff]
    constructor
    · rintro (h | h)
      · exact (hAsub.map _).subset h
      · exact (hSsub.map _).subset h
    · intro h
      obtain ⟨e, he, rfl⟩ := List.mem_map.mp h
      by_cases hea : e ∈ activeOf jailed R
      · exact .inl (List.mem_map_of_mem hea)
      · exact .inr (List.mem_map_of_mem (List.mem_filter.mpr ⟨he, decide_eq_true hea⟩))
  · -- a key in both lists names one ranked entry, active and not active
    rw [hAv, hSv, hA, hS, Finset.disjoint_left]
    intro node hnA hnS
    rw [List.mem_toFinset, List.mem_map] at hnA hnS
    obtain ⟨a, ha, rfl⟩ := hnA
    obtain ⟨b, hb, hba⟩ := hnS
    have hab := eq_of_mem_rankNodes (hAsub.subset ha) (hSsub.subset hb) hba.symm
    exact of_decide_eq_true (List.mem_filter.mp hb).2 (hab ▸ ha)
  · -- the active nodes are unjailed by construction
    rw [hAv, hA, List.mem_toFinset] at hn
    obtain ⟨a, ha, rfl⟩ := List.mem_map.mp hn
    exact of_decide_eq_true (List.mem_filter.mp (List.mem_of_mem_take ha)).2
  · -- the active list takes as many unjailed nodes as there are, up to the cap
    have hFkeys : (F.map Prod.fst).toFinset = (stakedNodes voteAccounts).filter (· ∉ jailed) := by
      ext node
      rw [List.mem_toFinset, Finset.mem_filter, ← mem_map_fst_rankNodes, List.mem_map,
        List.mem_map]
      constructor
      · rintro ⟨e, he, rfl⟩
        obtain ⟨heR, hej⟩ := List.mem_filter.mp he
        exact ⟨⟨e, heR, rfl⟩, of_decide_eq_true hej⟩
      · rintro ⟨⟨e, heR, rfl⟩, hej⟩
        exact ⟨e, List.mem_filter.mpr ⟨heR, decide_eq_true hej⟩, rfl⟩
    have hAkeys : ((activeOf jailed R).map Prod.fst).Nodup :=
      hkeys.sublist ((List.take_sublist _ _).map _)
    rw [hAv, hA, List.toFinset_card_of_nodup hAkeys, List.length_map, activeOf,
      List.length_take, ← hFkeys, List.toFinset_card_of_nodup hkeys, List.length_map]
  · -- an unjailed standby node comes after every active one in the ranking
    rw [hA] at ha
    rw [hS] at hb
    obtain ⟨hbR, hbA⟩ := List.mem_filter.mp hb
    have hbF : b ∈ activeOf jailed R ++ F.drop maxActiveValidators :=
      hsplit ▸ List.mem_filter.mpr ⟨hbR, decide_eq_true hbj⟩
    have hbdrop : b ∈ F.drop maxActiveValidators :=
      (List.mem_append.mp hbF).resolve_left (of_decide_eq_true hbA)
    have hlt := (List.pairwise_append.mp hFsorted).2.2 a ha b hbdrop
    rw [← toNat_of_mem_rankNodes hfit (hAsub.subset ha), ← toNat_of_mem_rankNodes hfit hbR]
    exact stake_le_of_rankCmp hlt
  · rw [hA]
    exact hsorted.sublist hAsub
  · rw [hS]
    exact hsorted.sublist hSsub
  · rw [hA, hS] at he
    rcases List.mem_append.mp he with he | he
    · exact toNat_of_mem_rankNodes hfit (hAsub.subset he)
    · exact toNat_of_mem_rankNodes hfit (hSsub.subset he)
  · rw [ActiveValidatorSet.filterActiveVoteAccounts, List.mem_filter, decide_eq_true_iff]

/-- Two nodes: one with vote accounts of stakes `10` and `7`, one with a single account of `5`. -/
def twoNodeAccounts : List VoteAccountEntry :=
  [⟨⟨11⟩, 10, ⟨1⟩⟩, ⟨⟨12⟩, 7, ⟨1⟩⟩,
   ⟨⟨13⟩, 5, ⟨2⟩⟩]

theorem compute_spec_on_two_nodes :
    (compute twoNodeAccounts {⟨⟨2, by decide⟩⟩}).activeValidators.card =
      min maxActiveValidators
        ((stakedNodes twoNodeAccounts).filter (· ∉ ({⟨⟨2, by decide⟩⟩} : Finset Pubkey))).card :=
  (compute_spec twoNodeAccounts {⟨⟨2, by decide⟩⟩}
    (fun node => lt_of_le_of_lt (aggregatedStake_le twoNodeAccounts node) (by decide))).2.2.2.1

/-- A node whose two vote accounts of `2 ^ 63` and `2 ^ 63 + 1` sum past `u64::MAX`, and a node
with one account of `5`. -/
def wrappingAccounts : List VoteAccountEntry :=
  [⟨⟨11⟩, 9223372036854775808, ⟨1⟩⟩,
   ⟨⟨12⟩, 9223372036854775809, ⟨1⟩⟩,
   ⟨⟨13⟩, 5, ⟨2⟩⟩]

/-- The first node's stakes sum to `2 ^ 64 + 1`, which `+=` wraps to `1`: it is ranked below the
node with stake `5`. -/
theorem wrapped_stake_ranked_low :
    aggregatedStake wrappingAccounts ⟨⟨1, by decide⟩⟩ = 18446744073709551617 ∧
      aggregatedStake wrappingAccounts ⟨⟨2, by decide⟩⟩ = 5 ∧
      (compute wrappingAccounts ∅).activeRanked =
        [(⟨⟨2, by decide⟩⟩, 5), (⟨⟨1, by decide⟩⟩, 1)] := by
  decide

end TRv1.Runtime.ActiveSet
