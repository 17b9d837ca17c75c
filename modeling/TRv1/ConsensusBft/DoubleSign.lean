import TRv1.ConsensusBft.Evidence

/-!
# What the evidence collector records

`EvidenceCollector::check_and_record` keeps the first vote of each (height, round, voter, vote
type) and compares every later vote of the key with that first one. This module states what the
collector holds after any sequence of messages from `EvidenceCollector::new`, with no `prune`
in between (`Collects`): the stored vote of each key is its first vote, and the entries about a
key are one for each later vote of the key whose hash differs from the first
(`evidenceFor`, `evidence_per_key`).

Entries are per conflicting message, not per offense: a conflicting vote that the network
delivers twice is recorded twice (`conflicting_vote_recorded_twice`), and the slashing module
consumes one entry per offense.
-/

set_option autoImplicit false

namespace TRv1.ConsensusBft

namespace EvidenceCollector

/-- The votes of a message sequence with their keys, in the order they arrive. -/
def votesOf (msgs : List ConsensusMessage) : List (VoteKey × StoredVote) :=
  msgs.filterMap voteOf

/-- The entry `check_and_record` builds from the stored first vote of `key` and a later vote. -/
def conflictEvidence (key : VoteKey) (first current : StoredVote) : DoubleSignEvidence where
  validator := key.voter
  height := key.height
  round := key.round
  kind := VoteType.evidenceKind key.kind
  voteA := (first.blockHash, first.signature)
  voteB := (current.blockHash, current.signature)

/-- The entries a vote of `key` adds, given the first vote stored for `key`, if any. -/
def conflictWith (first : Option StoredVote) (key : VoteKey) (current : StoredVote) :
    List DoubleSignEvidence :=
  match first with
  | some first => if first.blockHash != current.blockHash then [conflictEvidence key first current]
    else []
  | none => []

/-- The entry is about the validator, height, round and vote type of `key`. -/
def isFor (key : VoteKey) (e : DoubleSignEvidence) : Bool :=
  e.validator == key.voter && e.height == key.height && e.round == key.round &&
    e.kind == VoteType.evidenceKind key.kind

/-- The entries about `key`: one for each vote of `key` whose hash differs from the first vote
of `key`, pairing the first vote with it. -/
def evidenceFor (votes : List (VoteKey × StoredVote)) (key : VoteKey) : List DoubleSignEvidence :=
  match votes.lookup key with
  | none => []
  | some first => (votes.filter (·.1 == key)).flatMap fun kv => conflictWith (some first) key kv.2

theorem evidenceKind_injective {a b : VoteType}
    (h : VoteType.evidenceKind a = VoteType.evidenceKind b) : a = b := by
  cases a <;> cases b <;> first | rfl | cases h

theorem isFor_conflictEvidence (key key' : VoteKey) (first current : StoredVote) :
    isFor key (conflictEvidence key' first current) = decide (key' = key) := by
  rw [Bool.eq_iff_iff, decide_eq_true_iff]
  obtain ⟨h, r, v, t⟩ := key
  obtain ⟨h', r', v', t'⟩ := key'
  simp only [isFor, conflictEvidence, Bool.and_eq_true, beq_iff_eq, VoteKey.mk.injEq]
  constructor
  · rintro ⟨⟨⟨rfl, rfl⟩, rfl⟩, hk⟩
    exact ⟨rfl, rfl, rfl, evidenceKind_injective hk⟩
  · rintro ⟨rfl, rfl, rfl, rfl⟩
    exact ⟨⟨⟨rfl, rfl⟩, rfl⟩, rfl⟩

theorem filter_isFor_conflictWith (key key' : VoteKey) (first : Option StoredVote)
    (current : StoredVote) :
    (conflictWith first key' current).filter (isFor key) =
      if key' = key then conflictWith first key' current else [] := by
  unfold conflictWith
  split_ifs with hk
  · split
    · split_ifs <;> simp [isFor_conflictEvidence, hk]
    · rfl
  · split
    · split_ifs <;> simp [isFor_conflictEvidence, hk]
    · rfl

/-- A vote of `key'` appended to the votes adds to the entries about `key` what it adds in
`check_and_record`, if `key' = key`. -/
theorem evidenceFor_append (votes : List (VoteKey × StoredVote)) (key key' : VoteKey)
    (current : StoredVote) :
    evidenceFor (votes ++ [(key', current)]) key =
      evidenceFor votes key ++ if key' = key then conflictWith (votes.lookup key) key current
        else [] := by
  unfold evidenceFor
  rw [List.lookup_append]
  cases hfirst : votes.lookup key with
  | none =>
    -- no earlier vote of `key`: a vote of `key` now is the first one and conflicts with nothing
    have hnil : votes.filter (·.1 == key) = [] := by
      rw [List.filter_eq_nil_iff]
      intro p hp hpk
      have := (List.lookup_eq_none_iff.mp hfirst) p hp
      rw [beq_iff_eq] at hpk
      simp [hpk] at this
    by_cases hk : key' = key
    · subst hk
      simp [hnil, conflictWith]
    · simp only [Option.none_or, if_neg hk, List.append_nil]
      split
      · rfl
      · rename_i first hlookup
        rw [List.lookup_cons, beq_false_of_ne (Ne.symm hk)] at hlookup
        cases hlookup
  | some first =>
    by_cases hk : key' = key
    · subst hk
      simp
    · have hk' : (key' == key) = false := by simpa using hk
      simp [hk', hk]

theorem lookup_pair (key key' : VoteKey) (v : StoredVote) :
    [(key', v)].lookup key = if key = key' then some v else none := by
  rw [List.lookup_cons]
  by_cases hk : key = key'
  · rw [if_pos hk, hk, beq_self_eq_true]
  · rw [if_neg hk, beq_false_of_ne hk]
    rfl

theorem checkAndRecord_of_voteOf_none {c : EvidenceCollector} {m : ConsensusMessage}
    (h : voteOf m = none) : c.checkAndRecord m = (c, none) := by
  rw [checkAndRecord, h]

/-- `check_and_record` on a vote at or above `min_height`: the vote is stored if it is the first
of its key, and an entry is added if it differs from the first. -/
theorem checkAndRecord_of_voteOf_some {c : EvidenceCollector} {m : ConsensusMessage}
    {key : VoteKey} {current : StoredVote} (h : voteOf m = some (key, current))
    (hk : c.minHeight ≤ key.height) :
    (c.checkAndRecord m).1 =
      { c with votes := if (c.votes.lookup key).isSome then c.votes else c.votes.insert key current,
               evidence := c.evidence ++ conflictWith (c.votes.lookup key) key current } := by
  rw [checkAndRecord, h]
  dsimp only
  rw [if_neg (UInt64.not_lt.mpr hk)]
  cases hfirst : c.votes.lookup key with
  | none => simp [conflictWith]
  | some first =>
    simp only [Option.isSome_some, if_true, conflictWith]
    split_ifs <;> simp [conflictEvidence]

/-- After the messages `msgs` from a new collector, with no prune: the stored vote of each key
is its first vote, and the entries about each key are `evidenceFor`. -/
structure Collects (msgs : List ConsensusMessage) (c : EvidenceCollector) : Prop where
  minHeight : c.minHeight = 0
  votes : ∀ key, c.votes.lookup key = (votesOf msgs).lookup key
  evidence : ∀ key, c.evidence.filter (isFor key) = evidenceFor (votesOf msgs) key

theorem collects_new : Collects [] new where
  minHeight := rfl
  votes key := AList.lookup_empty key
  evidence _ := rfl

theorem Collects.checkAndRecord {msgs : List ConsensusMessage} {c : EvidenceCollector}
    (h : Collects msgs c) (m : ConsensusMessage) :
    Collects (msgs ++ [m]) (c.checkAndRecord m).1 := by
  cases hv : voteOf m with
  | none =>
    -- a proposal: nothing changes
    have hvotes : votesOf (msgs ++ [m]) = votesOf msgs := by simp [votesOf, hv]
    rw [checkAndRecord_of_voteOf_none hv]
    exact ⟨h.minHeight, fun key => hvotes ▸ h.votes key, fun key => hvotes ▸ h.evidence key⟩
  | some kc =>
    obtain ⟨key', current⟩ := kc
    have hvotes : votesOf (msgs ++ [m]) = votesOf msgs ++ [(key', current)] := by
      simp [votesOf, hv]
    rw [checkAndRecord_of_voteOf_some hv (h.minHeight ▸ UInt64.zero_le)]
    refine ⟨h.minHeight, fun key => ?_, fun key => ?_⟩ <;> rw [hvotes]
    · -- the stored vote of `key'` is its first one
      rw [List.lookup_append, ← h.votes, lookup_pair]
      dsimp only
      split_ifs with hs hk hk
      · subst hk
        obtain ⟨first, hfirst⟩ := Option.isSome_iff_exists.mp hs
        rw [hfirst]
        rfl
      · exact Option.or_none.symm
      · subst hk
        rw [AList.lookup_insert, Option.not_isSome_iff_eq_none.mp hs]
        rfl
      · rw [AList.lookup_insert_ne hk, Option.or_none]
    · dsimp only
      rw [List.filter_append, h.evidence, filter_isFor_conflictWith, evidenceFor_append, h.votes]
      split_ifs with hk
      · subst hk
        rfl
      · rfl

/-- The run: checking the messages `rest` after `done` keeps the invariant. -/
theorem Collects.checkAndRecordAll {done : List ConsensusMessage} {c : EvidenceCollector}
    (h : Collects done c) (rest : List ConsensusMessage) :
    Collects (done ++ rest) (c.checkAndRecordAll rest) := by
  induction rest generalizing done c with
  | nil => simpa [EvidenceCollector.checkAndRecordAll] using h
  | cons m rest ih =>
    have h₂ := ih (h.checkAndRecord m)
    rw [List.append_assoc, List.singleton_append] at h₂
    exact h₂

/-- For every sequence of messages checked by a new collector, with no prune in between, the
stored vote of a validator, height, round and vote type is the first vote of that key, and the
entries about the key are, in order, one for each vote of the key whose hash differs from the
first one, pairing the first vote with it. -/
theorem evidence_per_key (msgs : List ConsensusMessage) (key : VoteKey) :
    (new.checkAndRecordAll msgs).votes.lookup key = (votesOf msgs).lookup key ∧
      (new.checkAndRecordAll msgs).evidence.filter (isFor key) =
        evidenceFor (votesOf msgs) key :=
  ⟨(collects_new.checkAndRecordAll msgs).votes key,
    (collects_new.checkAndRecordAll msgs).evidence key⟩

/-- A validator that prevotes two blocks at height 1, round 0. -/
def equivocator : Pubkey := ⟨7⟩

/-- The validator's prevote for block `1`, then its prevote for block `2` delivered twice, as a
gossip network may redeliver it. -/
def redeliveredConflict : List ConsensusMessage :=
  [.prevote 1 0 (some ⟨1⟩) equivocator Signature.default,
   .prevote 1 0 (some ⟨2⟩) equivocator Signature.default,
   .prevote 1 0 (some ⟨2⟩) equivocator Signature.default]

/-- The one double vote is recorded twice: the second copy of the conflicting prevote is compared
with the stored first prevote again and adds a second, identical entry. -/
theorem conflicting_vote_recorded_twice :
    (new.checkAndRecordAll redeliveredConflict).evidence =
      [{ validator := equivocator, height := 1, round := 0, kind := .conflictingPrevote,
         voteA := (some ⟨⟨1, by decide⟩⟩, Signature.default),
         voteB := (some ⟨⟨2, by decide⟩⟩, Signature.default) },
       { validator := equivocator, height := 1, round := 0, kind := .conflictingPrevote,
         voteA := (some ⟨⟨1, by decide⟩⟩, Signature.default),
         voteB := (some ⟨⟨2, by decide⟩⟩, Signature.default) }] := by
  decide +kernel

end EvidenceCollector

end TRv1.ConsensusBft
