import TRv1.ConsensusBft.Run

/-!
# Progress within a height

In Tendermint the round of a height only moves forward and, within a round, so does the step,
in the order `step_ord` gives: `NewRound < Propose < Prevote < Precommit < Commit`.
`ProgressLE` is the lexicographic order on `(round, step)` this describes.

The engine leaves that order in three places, all within one height:

* `on_proposal` writes `Propose` and then `Prevote` for every proposal it accepts, a second
  delivery of the current round's proposal included, so an engine that has precommitted or
  committed is moved back to `Prevote` (`repeated_proposal_moves_step_back`);
* the polka branch of `try_advance_from_prevotes` writes `Precommit` whatever the step, so a
  late prevote moves a committed engine back to `Precommit`;
* `on_timeout(Precommit)` computes `round + 1` in `u32`, which wraps at `u32::MAX`.

The round alone does move forward but for the last case: `handle_round_mono` says what one
call can do to it and `run_round_mono` lifts that to every schedule within a height.
-/

set_option autoImplicit false

namespace TRv1.ConsensusBft

/-- `(round, step)` of `s` is at most that of `s'` in the lexicographic order. -/
def ProgressLE (s s' : ConsensusState) : Prop :=
  s.round < s'.round ∨ (s.round = s'.round ∧ s.step ≤ s'.step)

instance (s s' : ConsensusState) : Decidable (ProgressLE s s') :=
  inferInstanceAs (Decidable (_ ∨ _))

namespace ConsensusEngine

/-! ## The round of one call -/

theorem onPrevote_round (e : ConsensusEngine) (m : ConsensusMessage) :
    (e.onPrevote m).1.state.round = e.state.round := by
  unfold onPrevote
  split
  · dsimp only
    split_ifs
    all_goals first
      | rfl
      | exact (tryAdvanceFromPrevotes_sameRound _ _).round
  · rfl

theorem onTimeoutPropose_round (e : ConsensusEngine) :
    e.onTimeoutPropose.1.state.round = e.state.round :=
  (onTimeoutPropose_sameRound e).round

section Hashing

variable (hashv : List (List UInt8) → Hash)

theorem onPrecommit_round (e : ConsensusEngine) (m : ConsensusMessage) :
    (e.onPrecommit hashv m).1.state.round = e.state.round := by
  unfold onPrecommit
  split
  · dsimp only
    split_ifs
    all_goals first
      | rfl
      | exact (tryCommit_sameRound hashv _).round
  · rfl

/-- A proposal either leaves the round alone or jumps to the proposal's later round. -/
theorem onProposal_round_le (e : ConsensusEngine) (m : ConsensusMessage) :
    e.state.round ≤ (e.onProposal hashv m).1.state.round := by
  unfold onProposal
  split
  · rename_i round _ _ _ _
    dsimp only
    split_ifs with _ _ _ _ hjump
    -- an accepted proposal that is prevoted on goes through `try_advance_from_prevotes`
    all_goals try rw [(tryAdvanceFromPrevotes_sameRound _ _).round]
    all_goals first
      | exact UInt32.le_refl _
      | exact UInt32.le_of_lt hjump
  · exact UInt32.le_refl _

/-- A proposal for the current round, from its proposer, once this engine has prevoted in the
round: the proposal is stored, the step is set to `prevote`, and nothing is sent. -/
theorem onProposal_of_sentPrevote (e : ConsensusEngine) (block : ProposedBlock)
    (proposer : Pubkey) (sig : Signature) (vr : Option UInt32)
    (hp : proposerForRound e.validatorSet e.state.height e.state.round = some proposer)
    (hv : e.validatorSet.contains proposer = true) (hs : e.sentPrevote = true) :
    e.onProposal hashv (.proposal e.state.height e.state.round block proposer sig vr) =
      ({ e with state := { e.state with proposal := some block, step := .prevote } },
        .empty) := by
  simp [onProposal, hp, hv, hs]

/-- Monotone progress fails: an engine that has prevoted in its round and moved past
`prevote` is moved back to `prevote` by the round's proposal delivered again. -/
theorem repeated_proposal_moves_step_back (e : ConsensusEngine) (block : ProposedBlock)
    (proposer : Pubkey) (sig : Signature) (vr : Option UInt32)
    (hp : proposerForRound e.validatorSet e.state.height e.state.round = some proposer)
    (hv : e.validatorSet.contains proposer = true) (hs : e.sentPrevote = true)
    (hstep : ConsensusStep.prevote < e.state.step) :
    ¬ ProgressLE e.state
      (e.onProposal hashv
        (.proposal e.state.height e.state.round block proposer sig vr)).1.state := by
  rw [onProposal_of_sentPrevote hashv e block proposer sig vr hp hv hs]
  rintro (hlt | ⟨-, hle⟩)
  · exact UInt32.lt_irrefl _ hlt
  · exact Nat.not_le_of_lt hstep hle

/-- The only call within a height that lowers the round is `on_timeout(Precommit)` at round
`u32::MAX`. -/
theorem handle_round_mono (e : ConsensusEngine) (c : Call) (hc : c.isStartNewHeight = false) :
    e.state.round ≤ (e.handle hashv c).1.state.round ∨
      (c = .onTimeout .precommit ∧ e.state.round = 4294967295) := by
  cases c with
  | startNewHeight h => cases hc
  | onProposal m => exact .inl (onProposal_round_le hashv e m)
  | onPrevote m => exact .inl (onPrevote_round e m ▸ UInt32.le_refl _)
  | onPrecommit m => exact .inl (onPrecommit_round hashv e m ▸ UInt32.le_refl _)
  | onTimeout s =>
    cases s with
    | precommit =>
      by_cases hmax : e.state.round = 4294967295
      · exact .inr ⟨rfl, hmax⟩
      · -- below `u32::MAX` the successor does not wrap
        left
        have hlt : e.state.round.toNat < 4294967295 := by
          have := e.state.round.toNat_lt
          have hne : e.state.round.toNat ≠ 4294967295 := fun h => hmax (UInt32.toNat_inj.mp h)
          omega
        show e.state.round ≤ e.state.round + 1
        rw [UInt32.le_iff_toNat_le, UInt32.toNat_add, UInt32.toNat_one]
        omega
    | propose => exact .inl (onTimeoutPropose_round e ▸ UInt32.le_refl _)
    | newRound => exact .inl (onTimeoutPropose_round e ▸ UInt32.le_refl _)
    | prevote =>
      left
      show e.state.round ≤ (e.onTimeout .prevote).1.state.round
      unfold onTimeout
      dsimp only
      split_ifs
      all_goals exact UInt32.le_refl _
    | commit => exact .inl (UInt32.le_refl _)

/-- Along every schedule within a height the round never decreases, unless some call of the
schedule is `on_timeout(Precommit)` reached at round `u32::MAX`. -/
theorem run_round_mono (e : ConsensusEngine) (cs : List Call)
    (hcs : ∀ c ∈ cs, c.isStartNewHeight = false) :
    e.state.round ≤ (run hashv e cs).1.state.round ∨
      ∃ pre post, cs = pre ++ .onTimeout .precommit :: post ∧
        (run hashv e pre).1.state.round = 4294967295 := by
  induction cs generalizing e with
  | nil => exact .inl (UInt32.le_refl _)
  | cons c cs ih =>
    have hstep := handle_round_mono hashv e c (hcs c List.mem_cons_self)
    have hrest := ih (e.handle hashv c).1 fun c' hc' => hcs c' (List.mem_cons_of_mem c hc')
    rcases hstep with hle | ⟨rfl, hmax⟩
    · rcases hrest with hle' | ⟨pre, post, rfl, hpre⟩
      · exact .inl (UInt32.le_trans hle hle')
      · exact .inr ⟨c :: pre, post, rfl, hpre⟩
    · -- the first call itself wraps the round
      exact .inr ⟨[], cs, rfl, hmax⟩

end Hashing

/-! ## A single validator -/

/-- The engine after `startNewHeight 0`, the round-0 proposal and its own precommit: it has
committed `soloBlock`. -/
def soloCommitted : ConsensusEngine :=
  (run sampleHashv soloEngine
    [.startNewHeight 0, .onProposal (soloProposal 0), .onPrecommit soloPrecommit]).1

/-- `repeated_proposal_moves_step_back` at the committed engine: the round-0 proposal delivered
again moves it from `commit` back to `prevote`. -/
theorem soloCommitted_moves_step_back :
    soloCommitted.state.step = .commit ∧
      proposerForRound soloCommitted.validatorSet soloCommitted.state.height
          soloCommitted.state.round = some soloValidator ∧
      soloCommitted.validatorSet.contains soloValidator = true ∧
      soloCommitted.sentPrevote = true ∧ ConsensusStep.prevote < soloCommitted.state.step ∧
      ¬ ProgressLE soloCommitted.state
        (soloCommitted.onProposal sampleHashv
          (.proposal soloCommitted.state.height soloCommitted.state.round soloBlock
            soloValidator Signature.default none)).1.state := by
  have hcommit : soloCommitted.state.step = .commit := by decide +kernel
  have hp : proposerForRound soloCommitted.validatorSet soloCommitted.state.height
      soloCommitted.state.round = some soloValidator := by decide +kernel
  have hv : soloCommitted.validatorSet.contains soloValidator = true := by decide +kernel
  have hs : soloCommitted.sentPrevote = true := by decide +kernel
  have hstep : ConsensusStep.prevote < soloCommitted.state.step := by
    rw [hcommit]
    decide
  exact ⟨hcommit, hp, hv, hs, hstep, repeated_proposal_moves_step_back sampleHashv soloCommitted
    soloBlock soloValidator Signature.default none hp hv hs hstep⟩

/-- The tail of `roundWrapSchedule`, after `startNewHeight 0`. -/
def roundWrapCalls : List Call := roundWrapSchedule.tail

/-- `run_round_mono` along `roundWrapCalls`: the round falls from `u32::MAX` to `0` at the
precommit timeout. -/
theorem roundWrap_round_mono :
    (∀ c ∈ roundWrapCalls, c.isStartNewHeight = false) ∧
      ((soloEngine.startNewHeight 0).1.state.round ≤
          (run sampleHashv (soloEngine.startNewHeight 0).1 roundWrapCalls).1.state.round ∨
        ∃ pre post, roundWrapCalls = pre ++ .onTimeout .precommit :: post ∧
          (run sampleHashv (soloEngine.startNewHeight 0).1 pre).1.state.round = 4294967295) := by
  have hcs : ∀ c ∈ roundWrapCalls, c.isStartNewHeight = false := by decide
  exact ⟨hcs, run_round_mono sampleHashv _ _ hcs⟩

end ConsensusEngine

end TRv1.ConsensusBft
