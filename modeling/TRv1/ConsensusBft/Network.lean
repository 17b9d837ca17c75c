import Mathlib
import TRv1.ConsensusBft.Run

/-!
# A network of engines with Byzantine validators

Every honest validator runs a `ConsensusEngine` built with the same validator set and
configuration; a step lets one honest validator take one call of `Call`. A call that delivers
a message is enabled when the message was broadcast by an honest engine before, or when its
sender is not honest: Byzantine validators send anything under their own keys, and no one
sends under an honest key (message authenticity, which the engine assumes and does not
check). Messages stay in `sent` once broadcast, so delivery may be delayed, repeated or
never happen, in any order.

`reachable_sent` shows that authenticity holds along every run: each message in flight is a
vote of an honest validator under its own key. `Agreement` is the safety property of the
crate's documentation: no two honest validators commit blocks with different hashes at the
same height. It fails with a Byzantine validator holding a quarter of the stake
(`agreement_fails_on_trusted_valid_round`): the Byzantine proposer of round `1` claims a
`valid_round` that no polka backs, `determine_prevote` trusts it, and a validator locked on
the block committed in round `0` prevotes another block.
-/

set_option autoImplicit false

namespace TRv1.ConsensusBft

open ConsensusEngine

/-- The message a call delivers, if any. -/
def ConsensusEngine.Call.message? : Call → Option ConsensusMessage
  | .onProposal m | .onPrevote m | .onPrecommit m => some m
  | _ => none

/-- The engines of all validators, the messages honest engines have broadcast, and the blocks
honest engines have committed, each with its validator and height. -/
structure Network where
  engines : Pubkey → ConsensusEngine
  sent : List ConsensusMessage
  commits : List (Pubkey × UInt64 × CommittedBlock)

namespace Network

section Steps

variable (hashv : List (List UInt8) → Hash) (honest : List Pubkey)

/-- Every validator runs `ConsensusEngine::new` with the shared configuration and set. -/
def init (config : BftConfig) (vs : ValidatorSet) : Network :=
  ⟨fun v => ConsensusEngine.new config v vs, [], []⟩

/-- A call may run at an honest validator when the message it delivers, if any, was broadcast
or comes from a validator that is not honest. -/
def enabled (s : Network) (v : Pubkey) (c : Call) : Bool :=
  honest.contains v &&
    match c.message? with
    | none => true
    | some m => decide (m ∈ s.sent) || !honest.contains m.sender

/-- Run a call at `v`: replace its engine, broadcast its messages and record its commit. -/
def apply (s : Network) (v : Pubkey) (c : Call) : Network :=
  let r := (s.engines v).handle hashv c
  { engines := Function.update s.engines v r.1
    sent := s.sent ++ r.2.messages
    commits := s.commits ++ (r.2.committedBlock.map fun b => (v, r.1.state.height, b)).toList }

/-- One enabled call at one honest validator. -/
def Step (s s' : Network) : Prop :=
  ∃ v c, enabled honest s v c = true ∧ s' = apply hashv s v c

/-- The states a network reaches from `s₀`. -/
def Reachable (s₀ : Network) : Network → Prop := Relation.ReflTransGen (Step hashv honest) s₀

/-- Run a schedule of calls, skipping those that are not enabled. -/
def replay (s : Network) : List (Pubkey × Call) → Network
  | [] => s
  | (v, c) :: rest =>
    if enabled honest s v c then replay (apply hashv s v c) rest else replay s rest

/-- Every replayed schedule is a run of the network. -/
theorem reachable_replay (s : Network) (cs : List (Pubkey × Call)) :
    Reachable hashv honest s (replay hashv honest s cs) := by
  induction cs generalizing s with
  | nil => exact Relation.ReflTransGen.refl
  | cons vc rest ih =>
    obtain ⟨v, c⟩ := vc
    by_cases hen : enabled honest s v c = true
    · -- an enabled call is one step, followed by the rest of the schedule
      have hstep : Step hashv honest s (apply hashv s v c) := ⟨v, c, hen, rfl⟩
      have hrest := ih (apply hashv s v c)
      rw [replay, if_pos hen]
      exact Relation.ReflTransGen.head hstep hrest
    · rw [replay, if_neg hen]
      exact ih s

end Steps

/-! ## Agreement -/

/-- No two honest validators committed blocks with different hashes at the same height. -/
def Agreement (hashv : List (List UInt8) → Hash) (s : Network) : Prop :=
  ∀ p ∈ s.commits, ∀ q ∈ s.commits, p.2.1 = q.2.1 →
    p.2.2.block.hash hashv = q.2.2.block.hash hashv

instance (hashv : List (List UInt8) → Hash) (s : Network) : Decidable (Agreement hashv s) :=
  inferInstanceAs (Decidable (∀ p ∈ s.commits, ∀ q ∈ s.commits, _))

/-- The stake of the validators that are not honest. -/
def byzantineStake (vs : ValidatorSet) (honest : List Pubkey) : Nat :=
  ((vs.validators.filter fun v => !honest.contains v.pubkey).map fun v => v.stake.toNat).sum

/-! ## A fork with a quarter of the stake Byzantine

Four validators of stake `2`: `byzantineD` (the proposer of rounds `0` and `1` at height `0`)
and the honest `honestA`, `honestB`, `honestC`; the quorum is `ceil(8 * 0.667) = 6`. -/

/-- The Byzantine validator. -/
def byzantineD : Pubkey := ⟨1⟩

/-- An honest validator. -/
def honestA : Pubkey := ⟨2⟩

/-- An honest validator. -/
def honestB : Pubkey := ⟨3⟩

/-- An honest validator. -/
def honestC : Pubkey := ⟨4⟩

/-- Four validators of equal stake. -/
def fourSet : ValidatorSet :=
  ValidatorSet.new [(byzantineD, 2), (honestA, 2), (honestB, 2), (honestC, 2)]

/-- The honest validators of `fourSet`. -/
def fourHonest : List Pubkey := [honestA, honestB, honestC]

/-- The block `byzantineD` proposes in round `0`. -/
def blockX : ProposedBlock := ⟨⟨0⟩, 0, 0, ⟨10⟩, byzantineD⟩

/-- The block `byzantineD` proposes in round `1`. -/
def blockY : ProposedBlock := ⟨⟨0⟩, 0, 0, ⟨11⟩, byzantineD⟩

/-- Deliver the prevote of `v` for `b` at height `0`, round `r`. -/
def prevoteBy (r : UInt32) (b : ProposedBlock) (v : Pubkey) : Call :=
  .onPrevote (.prevote 0 r (some (b.hash sampleHashv)) v Signature.default)

/-- Deliver the precommit of `v` for `b` at height `0`, round `r`. -/
def precommitBy (r : UInt32) (b : ProposedBlock) (v : Pubkey) : Call :=
  .onPrecommit (.precommit 0 r (some (b.hash sampleHashv)) v Signature.default)

/-- Round `0`: `honestA` and `honestB` prevote `blockX`, lock on it with `byzantineD`'s prevote
and precommit it, and `honestA` commits it. Round `1` (after precommit timeouts at `honestB`
and `honestC`): `byzantineD` proposes `blockY` claiming `valid_round = 0`; `honestB` unlocks on
the claim, and `honestB`, `honestC` and `byzantineD` prevote and precommit `blockY`, which
`honestC` commits. `byzantineD` never votes twice in a round. -/
def forkSchedule : List (Pubkey × Call) :=
  [(honestA, .startNewHeight 0), (honestB, .startNewHeight 0), (honestC, .startNewHeight 0),
   (honestA, .onProposal (.proposal 0 0 blockX byzantineD Signature.default none)),
   (honestB, .onProposal (.proposal 0 0 blockX byzantineD Signature.default none)),
   (honestA, prevoteBy 0 blockX honestB), (honestA, prevoteBy 0 blockX byzantineD),
   (honestB, prevoteBy 0 blockX honestA), (honestB, prevoteBy 0 blockX byzantineD),
   (honestA, precommitBy 0 blockX honestB), (honestA, precommitBy 0 blockX byzantineD),
   (honestB, .onTimeout .precommit), (honestC, .onTimeout .precommit),
   (honestB, .onProposal (.proposal 0 1 blockY byzantineD Signature.default (some 0))),
   (honestC, .onProposal (.proposal 0 1 blockY byzantineD Signature.default (some 0))),
   (honestC, prevoteBy 1 blockY honestB), (honestC, prevoteBy 1 blockY byzantineD),
   (honestB, prevoteBy 1 blockY honestC), (honestB, prevoteBy 1 blockY byzantineD),
   (honestC, precommitBy 1 blockY honestB), (honestC, precommitBy 1 blockY byzantineD)]

/-- With less than a third of the stake Byzantine, a run of the network reaches a state where
`honestA` has committed `blockX` and `honestC` has committed `blockY` at height `0`. -/
theorem agreement_fails_on_trusted_valid_round :
    3 * byzantineStake fourSet fourHonest < fourSet.totalStake.toNat ∧
      ∃ s, Reachable sampleHashv fourHonest (init BftConfig.default fourSet) s ∧
        ¬ Agreement sampleHashv s := by
  have hstake : 3 * byzantineStake fourSet fourHonest < fourSet.totalStake.toNat := by
    decide +kernel
  -- the replayed run ends with two commits at height `0` whose blocks differ
  have hfork : ¬ Agreement sampleHashv
      (replay sampleHashv fourHonest (init BftConfig.default fourSet) forkSchedule) := by
    decide +kernel
  exact ⟨hstake, _, reachable_replay sampleHashv fourHonest _ forkSchedule, hfork⟩

/-! ## Authenticity along runs -/

section Invariant

variable (hashv : List (List UInt8) → Hash) (honest : List Pubkey)

/-- Each engine runs under its validator's key, and each broadcast message is a vote of an
honest validator under its own key. -/
structure Authentic (s : Network) : Prop where
  identity : ∀ v, (s.engines v).identity = v
  sent : ∀ m ∈ s.sent, honest.contains m.sender = true ∧ ∃ h r, IsVoteAt m.sender h r m

theorem authentic_init (config : BftConfig) (vs : ValidatorSet) :
    Authentic honest (init config vs) := by
  constructor
  · intro v
    rfl
  · intro m hm
    cases hm

theorem authentic_step {s s' : Network} (hs : Authentic honest s)
    (hstep : Step hashv honest s s') : Authentic honest s' := by
  obtain ⟨v, c, hen, rfl⟩ := hstep
  have hv : honest.contains v = true := (Bool.and_eq_true _ _ ▸ hen).1
  have hsetup := handle_sameSetup hashv (s.engines v) c
  have hid : ((s.engines v).handle hashv c).1.identity = v :=
    hsetup.identity.trans (hs.identity v)
  constructor
  · -- the engine that ran keeps its key, the others are untouched
    intro w
    by_cases hw : w = v
    · subst hw
      simp only [apply, Function.update_self]
      exact hid
    · simp only [apply, Function.update_of_ne hw]
      exact hs.identity w
  · intro m hm
    simp only [apply, List.mem_append] at hm
    rcases hm with hm | hm
    · exact hs.sent m hm
    · -- a message of this call: a vote of `v`, which is honest
      obtain ⟨hash, hvote⟩ := handle_emitsAt hashv (s.engines v) c m hm
      have hvote' : IsVoteAt v ((s.engines v).handle hashv c).1.state.height
          ((s.engines v).handle hashv c).1.state.round m := by
        rw [hid] at hvote
        exact ⟨hash, hvote⟩
      rw [hvote'.sender]
      exact ⟨hv, _, _, hvote'⟩

/-- Along every run, the messages in flight are votes of honest validators under their own
keys: a message naming an honest sender was broadcast by that sender's engine. -/
theorem reachable_sent (config : BftConfig) (vs : ValidatorSet) (s : Network)
    (hs : Reachable hashv honest (init config vs) s) :
    ∀ m ∈ s.sent, honest.contains m.sender = true ∧ ∃ h r, IsVoteAt m.sender h r m := by
  have hinv : Authentic honest s := by
    induction hs with
    | refl => exact authentic_init honest config vs
    | tail _ hstep ih => exact authentic_step hashv honest ih hstep
  exact hinv.sent

/-- `reachable_sent` along the fork: every message broadcast is a vote of one of the three honest
validators under its own key. -/
theorem fork_messages_authentic :
    Reachable sampleHashv fourHonest (init BftConfig.default fourSet)
        (replay sampleHashv fourHonest (init BftConfig.default fourSet) forkSchedule) ∧
      ∀ m ∈ (replay sampleHashv fourHonest (init BftConfig.default fourSet) forkSchedule).sent,
        fourHonest.contains m.sender = true ∧ ∃ h r, IsVoteAt m.sender h r m := by
  have hreach := reachable_replay sampleHashv fourHonest (init BftConfig.default fourSet)
    forkSchedule
  exact ⟨hreach, reachable_sent sampleHashv fourHonest BftConfig.default fourSet _ hreach⟩

end Invariant

end Network

end TRv1.ConsensusBft
