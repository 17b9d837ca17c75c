import TRv1.ConsensusBft.Engine

/-!
# Runs of one engine

`ConsensusEngine.run` feeds a schedule of calls to one engine and collects the outputs; the
messages it broadcast and the blocks it committed are read off the outputs.

The step lemmas say what a single call can change: no call but `startNewHeight` moves the
height (`handle_height`), no call changes the identity, the configuration or the validator
set (`handle_setup`), and every message a call broadcasts is a vote of the engine's own
identity at its height and its round after the call (`handle_messages`). The run lemmas
lift these to whole schedules (`run_height`, `run_emitted`).

Two schedules are about fixed inputs: a duplicated precommit after a commit makes the engine
commit the same height again (`commit_repeats_after_duplicate_precommit`), and a proposal for
round `u32::MAX` followed by a precommit timeout wraps the round to `0`, where the engine
prevotes a second time (`prevote_equivocates_after_round_wrap`).
-/

set_option autoImplicit false

namespace TRv1.ConsensusBft

namespace ConsensusEngine

/-- A vote of `voter` at height `h` and round `r`, signed with the default signature as the
engine signs its own votes. -/
def IsVoteAt (voter : Pubkey) (h : UInt64) (r : UInt32) (m : ConsensusMessage) : Prop :=
  ∃ hash, m = .prevote h r hash voter Signature.default ∨
    m = .precommit h r hash voter Signature.default

theorem IsVoteAt.sender {voter : Pubkey} {h : UInt64} {r : UInt32} {m : ConsensusMessage}
    (hm : IsVoteAt voter h r m) : m.sender = voter := by
  obtain ⟨hash, rfl | rfl⟩ := hm
  · rfl
  · rfl

/-- What every internal step keeps: identity, configuration, validator set, height and
round. -/
structure SameRound (e e' : ConsensusEngine) : Prop where
  identity : e'.identity = e.identity
  config : e'.config = e.config
  validatorSet : e'.validatorSet = e.validatorSet
  height : e'.state.height = e.state.height
  round : e'.state.round = e.state.round

theorem SameRound.refl (e : ConsensusEngine) : SameRound e e := ⟨rfl, rfl, rfl, rfl, rfl⟩

theorem SameRound.trans {e e' e'' : ConsensusEngine} (h₁ : SameRound e e')
    (h₂ : SameRound e' e'') : SameRound e e'' :=
  ⟨h₂.identity.trans h₁.identity, h₂.config.trans h₁.config,
    h₂.validatorSet.trans h₁.validatorSet, h₂.height.trans h₁.height,
    h₂.round.trans h₁.round⟩

/-- A step that only rewrites the state's step, lock or vote fields keeps the round. -/
theorem SameRound.of_state {e e' e'' : ConsensusEngine} (h : SameRound e' e'')
    (hi : e'.identity = e.identity) (hc : e'.config = e.config)
    (hv : e'.validatorSet = e.validatorSet) (hh : e'.state.height = e.state.height)
    (hr : e'.state.round = e.state.round) : SameRound e e'' :=
  SameRound.trans ⟨hi, hc, hv, hh, hr⟩ h

/-- What every call but `startNewHeight` keeps: identity, configuration, validator set and
height. -/
structure SameHeight (e e' : ConsensusEngine) : Prop where
  identity : e'.identity = e.identity
  config : e'.config = e.config
  validatorSet : e'.validatorSet = e.validatorSet
  height : e'.state.height = e.state.height

theorem SameHeight.trans {e e' e'' : ConsensusEngine} (h₁ : SameHeight e e')
    (h₂ : SameHeight e' e'') : SameHeight e e'' :=
  ⟨h₂.identity.trans h₁.identity, h₂.config.trans h₁.config,
    h₂.validatorSet.trans h₁.validatorSet, h₂.height.trans h₁.height⟩

theorem SameRound.sameHeight {e e' : ConsensusEngine} (h : SameRound e e') : SameHeight e e' :=
  ⟨h.identity, h.config, h.validatorSet, h.height⟩

/-- A step that rewrites only the round, the step, the flags, the locks or the votes keeps the
height. -/
theorem SameHeight.of_state {e e' e'' : ConsensusEngine} (h : SameHeight e' e'')
    (hi : e'.identity = e.identity) (hc : e'.config = e.config)
    (hv : e'.validatorSet = e.validatorSet) (hh : e'.state.height = e.state.height) :
    SameHeight e e'' :=
  SameHeight.trans ⟨hi, hc, hv, hh⟩ h

/-- An output that extends `o` by votes of `e` at its height and round. -/
def ExtendsByVotes (e : ConsensusEngine) (o o' : EngineOutput) : Prop :=
  o'.committedBlock = o.committedBlock ∧ ∃ new, o'.messages = o.messages ++ new ∧
    ∀ m ∈ new, IsVoteAt e.identity e.state.height e.state.round m

theorem precommitOnce_sameRound (e : ConsensusEngine) (h : Option Hash) (o : EngineOutput) :
    SameRound e (e.precommitOnce h o).1 := by
  unfold precommitOnce
  split
  · exact ⟨rfl, rfl, rfl, rfl, rfl⟩
  · exact SameRound.refl e

theorem precommitOnce_extends (e : ConsensusEngine) (h : Option Hash) (o : EngineOutput) :
    ExtendsByVotes e o (e.precommitOnce h o).2 := by
  unfold precommitOnce
  split
  · refine ⟨rfl, [e.makePrecommit h], rfl, ?_⟩
    intro m hm
    rw [List.mem_singleton] at hm
    exact ⟨h, .inr hm⟩
  · exact ⟨rfl, [], by simp, by simp⟩

theorem tryAdvanceFromPrevotes_sameRound (e : ConsensusEngine) (o : EngineOutput) :
    SameRound e (e.tryAdvanceFromPrevotes o).1 := by
  unfold tryAdvanceFromPrevotes
  split
  · exact (precommitOnce_sameRound _ _ _).of_state rfl rfl rfl rfl rfl
  · split
    · split
      · exact (precommitOnce_sameRound _ _ _).of_state rfl rfl rfl rfl rfl
      · exact SameRound.refl e
    · exact SameRound.refl e

theorem tryAdvanceFromPrevotes_extends (e : ConsensusEngine) (o : EngineOutput) :
    ExtendsByVotes e o (e.tryAdvanceFromPrevotes o).2 := by
  unfold tryAdvanceFromPrevotes
  split
  · exact precommitOnce_extends _ _ _
  · split
    · split
      · exact precommitOnce_extends _ _ _
      · exact ⟨rfl, [], by simp, by simp⟩
    · exact ⟨rfl, [], by simp, by simp⟩

/-- Every message of an output is a vote of `e` at its height and round. -/
def EmitsAt (e : ConsensusEngine) (o : EngineOutput) : Prop :=
  ∀ m ∈ o.messages, IsVoteAt e.identity e.state.height e.state.round m

theorem EmitsAt.of_sameRound {e e' : ConsensusEngine} {o : EngineOutput} (h : SameRound e e')
    (ho : EmitsAt e o) : EmitsAt e' o := by
  intro m hm
  rw [h.identity, h.height, h.round]
  exact ho m hm

theorem emitsAt_empty (e : ConsensusEngine) : EmitsAt e .empty := by
  intro m hm
  cases hm

/-- `try_advance_from_prevotes` keeps the round and adds only votes at it. -/
theorem tryAdvanceFromPrevotes_emitsAt {e : ConsensusEngine} {o : EngineOutput}
    (ho : EmitsAt e o) : EmitsAt (e.tryAdvanceFromPrevotes o).1 (e.tryAdvanceFromPrevotes o).2 := by
  have hs := tryAdvanceFromPrevotes_sameRound e o
  obtain ⟨-, new, hmsg, hnew⟩ := tryAdvanceFromPrevotes_extends e o
  intro m hm
  rw [hmsg, List.mem_append] at hm
  rw [hs.identity, hs.height, hs.round]
  rcases hm with hm | hm
  · exact ho m hm
  · exact hnew m hm

theorem onPrevote_emitsAt (e : ConsensusEngine) (msg : ConsensusMessage) :
    EmitsAt (e.onPrevote msg).1 (e.onPrevote msg).2 := by
  unfold onPrevote
  split
  · dsimp only
    split_ifs
    all_goals first
      | exact emitsAt_empty _
      | exact tryAdvanceFromPrevotes_emitsAt (emitsAt_empty _)
  · exact emitsAt_empty e

theorem onTimeoutPropose_emitsAt (e : ConsensusEngine) :
    EmitsAt e.onTimeoutPropose.1 e.onTimeoutPropose.2 := by
  unfold onTimeoutPropose
  dsimp only
  split_ifs
  · intro m hm
    rw [EngineOutput.withMessages, List.mem_singleton] at hm
    exact ⟨none, .inl hm⟩
  · exact emitsAt_empty _
  · exact emitsAt_empty _

theorem onTimeout_emitsAt (e : ConsensusEngine) (step : ConsensusStep) :
    EmitsAt (e.onTimeout step).1 (e.onTimeout step).2 := by
  cases step with
  | propose => exact onTimeoutPropose_emitsAt e
  | newRound => exact onTimeoutPropose_emitsAt e
  | prevote =>
    unfold onTimeout
    dsimp only
    split_ifs
    · intro m hm
      rw [EngineOutput.withMessages, List.mem_singleton] at hm
      exact ⟨none, .inr hm⟩
    · exact emitsAt_empty _
    · exact emitsAt_empty _
  | precommit => exact emitsAt_empty _
  | commit => exact emitsAt_empty _

/-! ## What a call keeps -/

/-- `start_round` moves to another round of the same height. -/
theorem startRound_sameHeight (e : ConsensusEngine) (r : UInt32) :
    SameHeight e (e.startRound r).1 := ⟨rfl, rfl, rfl, rfl⟩

theorem onPrevote_sameHeight (e : ConsensusEngine) (msg : ConsensusMessage) :
    SameHeight e (e.onPrevote msg).1 := by
  unfold onPrevote
  split
  · dsimp only
    split_ifs
    all_goals first
      | exact ⟨rfl, rfl, rfl, rfl⟩
      | exact SameHeight.of_state (tryAdvanceFromPrevotes_sameRound _ _).sameHeight rfl rfl rfl rfl
  · exact ⟨rfl, rfl, rfl, rfl⟩

theorem onTimeoutPropose_sameRound (e : ConsensusEngine) :
    SameRound e e.onTimeoutPropose.1 := by
  unfold onTimeoutPropose
  dsimp only
  split_ifs
  all_goals exact ⟨rfl, rfl, rfl, rfl, rfl⟩

theorem onTimeout_sameHeight (e : ConsensusEngine) (step : ConsensusStep) :
    SameHeight e (e.onTimeout step).1 := by
  cases step with
  | propose => exact (onTimeoutPropose_sameRound e).sameHeight
  | newRound => exact (onTimeoutPropose_sameRound e).sameHeight
  | prevote =>
    unfold onTimeout
    dsimp only
    split_ifs
    all_goals exact ⟨rfl, rfl, rfl, rfl⟩
  | precommit => exact startRound_sameHeight e _
  | commit => exact ⟨rfl, rfl, rfl, rfl⟩

section Runs

variable (hashv : List (List UInt8) → Hash)

/-- Feed a schedule of calls to an engine; the final engine and the output of each call. -/
def run (e : ConsensusEngine) : List Call → ConsensusEngine × List EngineOutput
  | [] => (e, [])
  | c :: cs =>
    let r := e.handle hashv c
    let rest := run r.1 cs
    (rest.1, r.2 :: rest.2)

/-- Every message broadcast along a run, in order. -/
def emitted (outs : List EngineOutput) : List ConsensusMessage :=
  outs.flatMap (·.messages)

/-- Every block committed along a run, in order. -/
def committed (outs : List EngineOutput) : List CommittedBlock :=
  outs.filterMap (·.committedBlock)

theorem tryCommit_emitsAt (e : ConsensusEngine) :
    EmitsAt (e.tryCommit hashv).1 (e.tryCommit hashv).2 := by
  unfold tryCommit
  split
  · split
    · split
      · intro m hm
        cases hm
      · exact emitsAt_empty e
    · exact emitsAt_empty e
  · exact emitsAt_empty e

theorem onProposal_emitsAt (e : ConsensusEngine) (msg : ConsensusMessage) :
    EmitsAt (e.onProposal hashv msg).1 (e.onProposal hashv msg).2 := by
  unfold onProposal
  split
  · dsimp only
    split_ifs
    all_goals first
      | exact emitsAt_empty _
      | apply tryAdvanceFromPrevotes_emitsAt
        intro m hm
        rw [EngineOutput.withMessages, List.mem_singleton] at hm
        exact ⟨_, .inl hm⟩
  · exact emitsAt_empty e

theorem onPrecommit_emitsAt (e : ConsensusEngine) (msg : ConsensusMessage) :
    EmitsAt (e.onPrecommit hashv msg).1 (e.onPrecommit hashv msg).2 := by
  unfold onPrecommit
  split
  · dsimp only
    split_ifs
    all_goals first
      | exact emitsAt_empty _
      | exact tryCommit_emitsAt _ _
  · exact emitsAt_empty e

theorem tryCommit_sameRound (e : ConsensusEngine) : SameRound e (e.tryCommit hashv).1 := by
  unfold tryCommit
  split
  · split
    · split
      · exact ⟨rfl, rfl, rfl, rfl, rfl⟩
      · exact SameRound.refl e
    · exact SameRound.refl e
  · exact SameRound.refl e

theorem onPrecommit_sameHeight (e : ConsensusEngine) (msg : ConsensusMessage) :
    SameHeight e (e.onPrecommit hashv msg).1 := by
  unfold onPrecommit
  split
  · dsimp only
    split_ifs
    all_goals first
      | exact ⟨rfl, rfl, rfl, rfl⟩
      | exact SameHeight.of_state (tryCommit_sameRound hashv _).sameHeight rfl rfl rfl rfl
  · exact ⟨rfl, rfl, rfl, rfl⟩

theorem onProposal_sameHeight (e : ConsensusEngine) (msg : ConsensusMessage) :
    SameHeight e (e.onProposal hashv msg).1 := by
  unfold onProposal
  split
  · dsimp only
    split_ifs
    all_goals first
      | exact ⟨rfl, rfl, rfl, rfl⟩
      | exact SameHeight.of_state (tryAdvanceFromPrevotes_sameRound _ _).sameHeight rfl rfl rfl rfl
  · exact ⟨rfl, rfl, rfl, rfl⟩

/-- Whether a call is `startNewHeight`, the one call that moves the height. -/
def Call.isStartNewHeight : Call → Bool
  | .startNewHeight _ => true
  | _ => false

/-- No call but `startNewHeight` changes the identity, the configuration, the validator set
or the height. -/
theorem handle_sameHeight (e : ConsensusEngine) (c : Call) (hc : c.isStartNewHeight = false) :
    SameHeight e (e.handle hashv c).1 := by
  cases c with
  | startNewHeight h => cases hc
  | onProposal m => exact onProposal_sameHeight hashv e m
  | onPrevote m => exact onPrevote_sameHeight e m
  | onPrecommit m => exact onPrecommit_sameHeight hashv e m
  | onTimeout s => exact onTimeout_sameHeight e s

/-- What every call keeps, `startNewHeight` included: identity, configuration and validator
set. -/
structure SameSetup (e e' : ConsensusEngine) : Prop where
  identity : e'.identity = e.identity
  config : e'.config = e.config
  validatorSet : e'.validatorSet = e.validatorSet

theorem handle_sameSetup (e : ConsensusEngine) (c : Call) : SameSetup e (e.handle hashv c).1 := by
  cases hc : c.isStartNewHeight with
  | true =>
    -- only `startNewHeight` moves the height, and it rebuilds the state alone
    cases c with
    | startNewHeight h => exact ⟨rfl, rfl, rfl⟩
    | _ => cases hc
  | false =>
    have h := handle_sameHeight hashv e c hc
    exact ⟨h.identity, h.config, h.validatorSet⟩

/-- Every message a call broadcasts is a vote of the engine's identity at its height and
round after the call. -/
theorem handle_emitsAt (e : ConsensusEngine) (c : Call) :
    EmitsAt (e.handle hashv c).1 (e.handle hashv c).2 := by
  cases c with
  | startNewHeight h => exact emitsAt_empty _
  | onProposal m => exact onProposal_emitsAt hashv e m
  | onPrevote m => exact onPrevote_emitsAt e m
  | onPrecommit m => exact onPrecommit_emitsAt hashv e m
  | onTimeout s => exact onTimeout_emitsAt e s

/-! ## Commits -/

/-- The block `try_commit` outputs, if any: the stored proposal when its hash has a quorum of
precommits. -/
def commitOf (e : ConsensusEngine) : Option CommittedBlock :=
  match e.findQuorumPrecommitHash with
  | some hash =>
    match e.state.proposal with
    | some proposal =>
      if proposal.hash hashv = hash then
        some { block := proposal,
               commitSignatures := (e.state.precommits.entries.filter fun v => v.2 == some hash).map
                 fun v => (v.1, Signature.default),
               commitRound := e.state.round }
      else none
    | none => none
  | none => none

/-- `try_commit` moves to `commit` exactly when `commitOf` gives a block, and outputs it. -/
theorem tryCommit_eq (e : ConsensusEngine) :
    e.tryCommit hashv = match e.commitOf hashv with
      | some b => ({ e with state := { e.state with step := .commit } }, .withCommit b)
      | none => (e, .empty) := by
  unfold tryCommit commitOf
  cases e.findQuorumPrecommitHash with
  | none => rfl
  | some hash =>
    cases e.state.proposal with
    | none => rfl
    | some p =>
      dsimp only
      split_ifs <;> rfl

/-- `commitOf` reads only the validator set, the configuration, the precommits, the proposal
and the round. -/
theorem commitOf_congr (e e' : ConsensusEngine) (hv : e'.validatorSet = e.validatorSet)
    (hc : e'.config = e.config) (hp : e'.state.precommits = e.state.precommits)
    (hpr : e'.state.proposal = e.state.proposal) (hr : e'.state.round = e.state.round) :
    e'.commitOf hashv = e.commitOf hashv := by
  unfold commitOf findQuorumPrecommitHash findQuorumHash stakeByHash quorum
  rw [hv, hc, hp, hpr, hr]

/-- A precommit for the current height and round from a validator is recorded and followed by
`try_commit`. -/
theorem onPrecommit_of_accepted (e : ConsensusEngine) (hgt : UInt64) (r : UInt32)
    (bh : Option Hash) (v : Pubkey) (sig : Signature) (hh : hgt = e.state.height)
    (hr : r = e.state.round)
    (hv : e.validatorSet.contains v = true) :
    e.onPrecommit hashv (.precommit hgt r bh v sig) =
      tryCommit hashv { e with
        evidence := (e.evidence.checkAndRecord (.precommit hgt r bh v sig)).1,
        state := { e.state with precommits := e.state.precommits.insert v bh } } := by
  subst hh hr
  simp [onPrecommit, hv]

/-- `on_precommit` commits only on a precommit it accepts. -/
theorem onPrecommit_committed (e : ConsensusEngine) (m : ConsensusMessage) (b : CommittedBlock)
    (h : (e.onPrecommit hashv m).2.committedBlock = some b) :
    ∃ hgt r bh v sig, m = .precommit hgt r bh v sig ∧ hgt = e.state.height ∧
      r = e.state.round ∧ e.validatorSet.contains v = true := by
  unfold onPrecommit at h
  split at h
  · rename_i hgt r bh v sig
    dsimp only at h
    split_ifs at h with h1 h2 h3 h4
    all_goals try (simp [EngineOutput.empty] at h)
    refine ⟨hgt, r, bh, v, sig, rfl, not_not.mp h1, ?_, by simpa using h3⟩
    exact UInt32.le_antisymm (UInt32.not_lt.mp h4) (UInt32.not_lt.mp h2)
  · simp [EngineOutput.empty] at h

/-- Commit is not final: when delivering a precommit makes the engine commit, delivering the same
precommit again makes it output the same block a second time, since `try_commit` does not look
at the step. -/
theorem precommit_redelivery_commits_again (e : ConsensusEngine) (m : ConsensusMessage)
    (b : CommittedBlock) (h : (e.onPrecommit hashv m).2.committedBlock = some b) :
    ((e.onPrecommit hashv m).1.onPrecommit hashv m).2.committedBlock = some b := by
  obtain ⟨hgt, r, bh, v, sig, rfl, hh, hr, hv⟩ := onPrecommit_committed hashv e m b h
  -- the first delivery records the vote, then tries to commit
  set e₂ : ConsensusEngine := { e with
    evidence := (e.evidence.checkAndRecord (.precommit hgt r bh v sig)).1,
    state := { e.state with precommits := e.state.precommits.insert v bh } } with he₂
  rw [onPrecommit_of_accepted hashv e hgt r bh v sig hh hr hv, tryCommit_eq] at h ⊢
  cases hc : e₂.commitOf hashv with
  | none =>
    rw [hc] at h
    cases h
  | some b' =>
    rw [hc] at h
    -- the committed engine: only the step moved
    set e₃ : ConsensusEngine :=
      { e₂ with state := { e₂.state with step := .commit } } with he₃
    show (e₃.onPrecommit hashv (.precommit hgt r bh v sig)).2.committedBlock = some b
    -- the second delivery is accepted again: commit kept the height, round and validators
    rw [onPrecommit_of_accepted hashv e₃ hgt r bh v sig hh hr hv, tryCommit_eq]
    -- re-inserting the same vote leaves the precommits as they were
    rw [commitOf_congr hashv e₂ _ ?_ ?_ ?_ ?_ ?_, hc]
    · exact h
    all_goals first
      | rfl
      | exact AList.insert_insert _

@[simp] theorem run_nil (e : ConsensusEngine) : run hashv e [] = (e, []) := rfl

@[simp] theorem run_cons (e : ConsensusEngine) (c : Call) (cs : List Call) :
    run hashv e (c :: cs) =
      ((run hashv (e.handle hashv c).1 cs).1,
        (e.handle hashv c).2 :: (run hashv (e.handle hashv c).1 cs).2) := rfl

@[simp] theorem emitted_nil : emitted [] = [] := rfl

@[simp] theorem emitted_cons (o : EngineOutput) (os : List EngineOutput) :
    emitted (o :: os) = o.messages ++ emitted os := List.flatMap_cons

/-- Along a schedule without `startNewHeight`, every broadcast message is a vote of the
engine's identity at its height. -/
theorem run_emitted (e : ConsensusEngine) (cs : List Call)
    (hcs : ∀ c ∈ cs, c.isStartNewHeight = false) :
    ∀ m ∈ emitted (run hashv e cs).2, ∃ r, IsVoteAt e.identity e.state.height r m := by
  induction cs generalizing e with
  | nil => intro m hm; cases hm
  | cons c cs ih =>
    intro m hm
    have hc := handle_sameHeight hashv e c (hcs c List.mem_cons_self)
    rw [run_cons, emitted_cons, List.mem_append] at hm
    rcases hm with hm | hm
    · -- a message of the first call, at the round the call ends in
      have hv := handle_emitsAt hashv e c m hm
      rw [hc.identity, hc.height] at hv
      exact ⟨_, hv⟩
    · -- a message of a later call, at the height the first call kept
      obtain ⟨r, hv⟩ := ih (e.handle hashv c).1
        (fun c' hc' => hcs c' (List.mem_cons_of_mem c hc')) m hm
      rw [hc.identity, hc.height] at hv
      exact ⟨r, hv⟩

/-- After `startNewHeight h`, every message broadcast until the next `startNewHeight` is a
vote of the engine's identity at height `h`. -/
theorem run_startNewHeight_emitted (e : ConsensusEngine) (h : UInt64) (cs : List Call)
    (hcs : ∀ c ∈ cs, c.isStartNewHeight = false) :
    ∀ m ∈ emitted (run hashv e (.startNewHeight h :: cs)).2,
      ∃ r, IsVoteAt e.identity h r m := by
  intro m hm
  rw [run_cons, emitted_cons] at hm
  -- `startNewHeight` itself broadcasts nothing
  have hm' : m ∈ emitted (run hashv (e.startNewHeight h).1 cs).2 := by
    simpa [handle, startNewHeight, startRound, EngineOutput.empty] using hm
  exact run_emitted hashv (e.startNewHeight h).1 cs hcs m hm'

end Runs

/-! ## A single validator

Concrete schedules run with `sampleHashv`, a stand-in for SHA-256: the engine compares block
hashes only for equality, so any function that separates the blocks of a schedule gives the
same run. -/

/-- A polynomial hash of the serialised parts, reduced to 256 bits. -/
def sampleHashv (parts : List (List UInt8)) : Hash :=
  ⟨Fin.ofNat _ (parts.foldl (fun acc p => acc * 1000003 + LittleEndian.decode p) 0)⟩

/-- The only validator of `soloSet`. -/
def soloValidator : Pubkey := ⟨1⟩

/-- A validator set of one validator with stake `1`: its quorum is `1`. -/
def soloSet : ValidatorSet := ValidatorSet.new [(soloValidator, 1)]

/-- The engine of `soloValidator` with the default configuration. -/
def soloEngine : ConsensusEngine := new BftConfig.default soloValidator soloSet

/-- A block of height `0` proposed by `soloValidator`. -/
def soloBlock : ProposedBlock := ⟨⟨0⟩, 0, 0, ⟨5⟩, soloValidator⟩

/-- The proposal of `soloBlock` at height `0` and round `r`. -/
def soloProposal (r : UInt32) : ConsensusMessage :=
  .proposal 0 r soloBlock soloValidator Signature.default none

/-- The precommit of `soloValidator` for `soloBlock` at height `0`, round `0`. -/
def soloPrecommit : ConsensusMessage :=
  .precommit 0 0 (some (soloBlock.hash sampleHashv)) soloValidator Signature.default

/-- The engine after `startNewHeight 0` and the round-0 proposal: it has prevoted and
precommitted `soloBlock` and not yet received its own precommit. -/
def soloProposed : ConsensusEngine :=
  (run sampleHashv soloEngine [.startNewHeight 0, .onProposal (soloProposal 0)]).1

theorem soloPrecommit_commits_twice :
    (soloProposed.onPrecommit sampleHashv soloPrecommit).2.committedBlock =
        some ⟨soloBlock, [(soloValidator, Signature.default)], 0⟩ ∧
      ((soloProposed.onPrecommit sampleHashv soloPrecommit).1.onPrecommit sampleHashv
        soloPrecommit).2.committedBlock =
        some ⟨soloBlock, [(soloValidator, Signature.default)], 0⟩ := by
  have h : (soloProposed.onPrecommit sampleHashv soloPrecommit).2.committedBlock =
      some ⟨soloBlock, [(soloValidator, Signature.default)], 0⟩ := by decide +kernel
  exact ⟨h, precommit_redelivery_commits_again sampleHashv _ _ _ h⟩

/-- A nil prevote on a propose timeout at round `0`, a jump to round `u32::MAX` on a proposal
there, a precommit timeout that wraps the round to `0`, and the round-0 proposal. -/
def roundWrapSchedule : List Call :=
  [.startNewHeight 0, .onTimeout .propose, .onProposal (soloProposal 4294967295),
    .onTimeout .precommit, .onProposal (soloProposal 0)]

/-- The engine prevotes nil and then `soloBlock` at height `0`, round `0`: an evidence
collector that receives its messages records it as a double signer. -/
theorem prevote_equivocates_after_round_wrap :
    (EvidenceCollector.new.checkAndRecordAll
        (emitted (run sampleHashv soloEngine roundWrapSchedule).2)).evidence =
      [{ validator := soloValidator, height := 0, round := 0, kind := .conflictingPrevote,
         voteA := (none, Signature.default),
         voteB := (some (soloBlock.hash sampleHashv), Signature.default) }] := by
  decide +kernel

/-- `run_startNewHeight_emitted` along the round-wrap schedule: the messages broadcast after
`startNewHeight 0`, the two prevotes among them, are votes of `soloValidator` at height `0`. -/
theorem roundWrap_emits_own_votes :
    (∀ c ∈ roundWrapSchedule.tail, c.isStartNewHeight = false) ∧
      ∀ m ∈ emitted (run sampleHashv soloEngine (.startNewHeight 0 :: roundWrapSchedule.tail)).2,
        ∃ r, IsVoteAt soloEngine.identity 0 r m := by
  have hcs : ∀ c ∈ roundWrapSchedule.tail, c.isStartNewHeight = false := by decide
  exact ⟨hcs, run_startNewHeight_emitted sampleHashv soloEngine 0 _ hcs⟩

end ConsensusEngine

end TRv1.ConsensusBft
