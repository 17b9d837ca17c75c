import TRv1.ConsensusBft.ValidatorSet
import TRv1.ConsensusBft.Evidence

/-!
# The BFT consensus engine

`ConsensusEngine` of `engine.rs`, one pure function per method: each handler takes the engine
and its input and returns the updated engine with the `EngineOutput` of the call. Logging is
dropped; everything else the methods read and write is kept, the evidence collector
included.

Two places name a behaviour of the source explicitly:

* `onTimeout` in the `newRound` arm runs the `propose` arm (`onTimeoutPropose`), as the
  source's recursive call `self.on_timeout(ConsensusStep::Propose)` does.
* `self.state.round + 1` in the `precommit` arm is `u32` addition, which wraps in a release
  build (the workspace's `[profile.release]` does not enable `overflow-checks`): `UInt32`
  addition wraps the same way.

`Call` lists the public entry points a schedule may invoke, and `handle` dispatches them.
-/

set_option autoImplicit false

namespace TRv1.ConsensusBft

open Binary64

/-- The configuration fields the engine reads (the timeout fields are read only by
`timeout.rs` and `validate`, which are not modelled). -/
structure BftConfig where
  finalityThreshold : F64
  maxRoundsPerHeight : UInt32

/-- `BftConfig::default()`: threshold `0.667` (as a binary64 literal), five rounds. -/
def BftConfig.default : BftConfig := ⟨ofDecimal 667 3, 5⟩

/-- The result of processing one event. -/
structure EngineOutput where
  messages : List ConsensusMessage
  committedBlock : Option CommittedBlock
  deriving DecidableEq, Repr

namespace EngineOutput

/-- No messages, no commit. -/
def empty : EngineOutput := ⟨[], none⟩

/-- Messages to broadcast, no commit. -/
def withMessages (messages : List ConsensusMessage) : EngineOutput := ⟨messages, none⟩

/-- A commit, no messages. -/
def withCommit (b : CommittedBlock) : EngineOutput := ⟨[], some b⟩

end EngineOutput

/-- The engine: configuration, identity, validator set, per-height state, evidence collector
and the two flags that keep it from voting twice in a round. -/
structure ConsensusEngine where
  config : BftConfig
  identity : Pubkey
  validatorSet : ValidatorSet
  state : ConsensusState
  evidence : EvidenceCollector
  sentPrevote : Bool
  sentPrecommit : Bool

namespace ConsensusEngine

/-- `ConsensusEngine::new`: state for height `0`, no votes sent. -/
def new (config : BftConfig) (identity : Pubkey) (validatorSet : ValidatorSet) :
    ConsensusEngine :=
  ⟨config, identity, validatorSet, ConsensusState.new 0, EvidenceCollector.new, false, false⟩

/-! ## Quorum calculations -/

/-- The quorum stake at the configured threshold. -/
def quorum (e : ConsensusEngine) : UInt64 :=
  e.validatorSet.quorumStake e.config.finalityThreshold

/-- The wrapping sum of the stakes of the voters of `votes` that voted `blockHash`. -/
def votedStake (e : ConsensusEngine) (votes : VoteMap) (blockHash : Option Hash) : UInt64 :=
  ((votes.entries.filter fun v => v.2 == blockHash).map fun v =>
    e.validatorSet.stakeOf v.1).foldl (· + ·) 0

/-- `has_quorum_prevotes`. -/
def hasQuorumPrevotes (e : ConsensusEngine) (blockHash : Option Hash) : Bool :=
  e.quorum ≤ e.votedStake e.state.prevotes blockHash

/-- `has_quorum_precommits`. -/
def hasQuorumPrecommits (e : ConsensusEngine) (blockHash : Option Hash) : Bool :=
  e.quorum ≤ e.votedStake e.state.precommits blockHash

/-- Add a voter's stake to the group of its hash (`entry(hash).or_default() += stake`). -/
def addStake (groups : List (Option Hash × UInt64)) (hash : Option Hash) (stake : UInt64) :
    List (Option Hash × UInt64) :=
  if groups.any (·.1 == hash) then groups.map fun g => if g.1 == hash then (g.1, g.2 + stake) else g
  else groups ++ [(hash, stake)]

/-- The stake of each voted hash, grouped in the order the hashes first occur. -/
def stakeByHash (e : ConsensusEngine) (votes : VoteMap) : List (Option Hash × UInt64) :=
  votes.entries.foldl (fun groups v => addStake groups v.2 (e.validatorSet.stakeOf v.1)) []

/-- The first non-nil hash whose grouped stake reaches the quorum. -/
def findQuorumHash (e : ConsensusEngine) (votes : VoteMap) : Option Hash :=
  (e.stakeByHash votes).findSome? fun g =>
    match g.1 with
    | some h => if e.quorum ≤ g.2 then some h else none
    | none => none

/-- `find_quorum_prevote_hash`. -/
def findQuorumPrevoteHash (e : ConsensusEngine) : Option Hash :=
  e.findQuorumHash e.state.prevotes

/-- `find_quorum_precommit_hash`. -/
def findQuorumPrecommitHash (e : ConsensusEngine) : Option Hash :=
  e.findQuorumHash e.state.precommits

/-- `has_any_quorum_prevotes`: the prevoters' total stake reaches the quorum. -/
def hasAnyQuorumPrevotes (e : ConsensusEngine) : Bool :=
  e.quorum ≤ (e.state.prevotes.keys.map e.validatorSet.stakeOf).foldl (· + ·) 0

/-! ## Messages and rounds -/

/-- `make_prevote`: this validator's prevote at the current height and round. -/
def makePrevote (e : ConsensusEngine) (blockHash : Option Hash) : ConsensusMessage :=
  .prevote e.state.height e.state.round blockHash e.identity Signature.default

/-- `make_precommit`: this validator's precommit at the current height and round. -/
def makePrecommit (e : ConsensusEngine) (blockHash : Option Hash) : ConsensusMessage :=
  .precommit e.state.height e.state.round blockHash e.identity Signature.default

/-- `start_round`: advance the state to `round`, reset both flags, step `propose`. -/
def startRound (e : ConsensusEngine) (round : UInt32) : ConsensusEngine × EngineOutput :=
  ({ e with state := { e.state.advanceRound round with step := .propose },
            sentPrevote := false, sentPrecommit := false }, .empty)

/-- `start_new_height`: fresh state, flags reset, old evidence pruned, round 0. -/
def startNewHeight (e : ConsensusEngine) (height : UInt64) : ConsensusEngine × EngineOutput :=
  startRound { e with state := ConsensusState.new height, sentPrevote := false,
                      sentPrecommit := false,
                      evidence := e.evidence.prune (RustInt.saturatingSub height 100) } 0

/-- `determine_prevote`: the locked value, an unlock on a claimed `valid_round` at or after
the lock round (trusted, as the source does), or the proposal when not locked. -/
def determinePrevote (e : ConsensusEngine) (blockHash : Hash) (validRound : Option UInt32) :
    Option Hash :=
  match e.state.lockedValue with
  | some lockedHash =>
    if lockedHash = blockHash then some blockHash
    else
      match validRound, e.state.lockedRound with
      | some vr, some lr => if lr ≤ vr then some blockHash else none
      | _, _ => none
  | none => some blockHash

/-- Record this validator's precommit for `blockHash` and append it to the output, unless
one was already sent this round. -/
def precommitOnce (e : ConsensusEngine) (blockHash : Option Hash) (output : EngineOutput) :
    ConsensusEngine × EngineOutput :=
  if !e.sentPrecommit then
    ({ e with sentPrecommit := true,
              state := { e.state with
                precommits := e.state.precommits.insert e.identity blockHash } },
     { output with messages := output.messages ++ [e.makePrecommit blockHash] })
  else (e, output)

/-- `try_advance_from_prevotes`: on a polka, set the valid value and the lock, move to
`precommit` and precommit the hash once; on a quorum of mixed prevotes before `precommit`,
move to `precommit` and precommit nil once. -/
def tryAdvanceFromPrevotes (e : ConsensusEngine) (output : EngineOutput) :
    ConsensusEngine × EngineOutput :=
  match e.findQuorumPrevoteHash with
  | some hash =>
    precommitOnce
      { e with state := { e.state with
          validValue := some hash, validRound := some e.state.round,
          lockedValue := some hash, lockedRound := some e.state.round,
          step := .precommit } }
      (some hash) output
  | none =>
    if e.hasAnyQuorumPrevotes then
      if e.state.step < .precommit then
        precommitOnce { e with state := { e.state with step := .precommit } } none output
      else (e, output)
    else (e, output)

/-- `on_prevote`: for this height, record the vote with the evidence collector, then keep
only current-round votes of validators and try to advance. -/
def onPrevote (e : ConsensusEngine) (prevote : ConsensusMessage) :
    ConsensusEngine × EngineOutput :=
  match prevote with
  | .prevote height round blockHash voter _ =>
    if height ≠ e.state.height then (e, .empty)
    else
      let e₁ := { e with evidence := (e.evidence.checkAndRecord prevote).1 }
      if round < e₁.state.round then (e₁, .empty)
      else if !e₁.validatorSet.contains voter then (e₁, .empty)
      else if e₁.state.round < round then (e₁, .empty)
      else
        tryAdvanceFromPrevotes
          { e₁ with state := { e₁.state with
              prevotes := e₁.state.prevotes.insert voter blockHash } } .empty
  | _ => (e, .empty)

section Hashing

variable (hashv : List (List UInt8) → Hash)

/-- `try_commit`: on a quorum of precommits for the hash of the stored proposal, move to
`commit` and output the block with the precommitters of that hash. -/
def tryCommit (e : ConsensusEngine) : ConsensusEngine × EngineOutput :=
  match e.findQuorumPrecommitHash with
  | some hash =>
    match e.state.proposal with
    | some proposal =>
      if proposal.hash hashv = hash then
        ({ e with state := { e.state with step := .commit } },
         .withCommit
          { block := proposal,
            commitSignatures := (e.state.precommits.entries.filter fun v => v.2 == some hash).map
              fun v => (v.1, Signature.default),
            commitRound := e.state.round })
      else (e, .empty)
    | none => (e, .empty)
  | none => (e, .empty)

/-- `on_proposal`: accept a proposal for this height, a current or future round, from the
round's proposer; jump to a future round; store it, prevote once per round and try to
advance. -/
def onProposal (e : ConsensusEngine) (proposal : ConsensusMessage) :
    ConsensusEngine × EngineOutput :=
  match proposal with
  | .proposal height round block proposer _ validRound =>
    if height ≠ e.state.height then (e, .empty)
    else if round < e.state.round then (e, .empty)
    else if proposerForRound e.validatorSet height round ≠ some proposer then (e, .empty)
    else if !e.validatorSet.contains proposer then (e, .empty)
    else
      let e₁ := if e.state.round < round then
        { e with state := e.state.advanceRound round, sentPrevote := false,
                 sentPrecommit := false }
        else e
      let e₂ := { e₁ with state := { e₁.state with proposal := some block, step := .propose } }
      let ourPrevote := e₂.determinePrevote (block.hash hashv) validRound
      let e₃ := { e₂ with state := { e₂.state with step := .prevote } }
      if e₃.sentPrevote then (e₃, .empty)
      else
        tryAdvanceFromPrevotes
          { e₃ with sentPrevote := true,
                    state := { e₃.state with
                      prevotes := e₃.state.prevotes.insert e₃.identity ourPrevote } }
          (.withMessages [e₃.makePrevote ourPrevote])
  | _ => (e, .empty)

/-- `on_precommit`: as `on_prevote` for precommits, then try to commit. -/
def onPrecommit (e : ConsensusEngine) (precommit : ConsensusMessage) :
    ConsensusEngine × EngineOutput :=
  match precommit with
  | .precommit height round blockHash voter _ =>
    if height ≠ e.state.height then (e, .empty)
    else
      let e₁ := { e with evidence := (e.evidence.checkAndRecord precommit).1 }
      if round < e₁.state.round then (e₁, .empty)
      else if !e₁.validatorSet.contains voter then (e₁, .empty)
      else if e₁.state.round < round then (e₁, .empty)
      else
        tryCommit hashv
          { e₁ with state := { e₁.state with
              precommits := e₁.state.precommits.insert voter blockHash } }
  | _ => (e, .empty)

/-- The `propose` arm of `on_timeout`: up to `propose`, move to `prevote` and prevote nil
once. -/
def onTimeoutPropose (e : ConsensusEngine) : ConsensusEngine × EngineOutput :=
  if e.state.step ≤ .propose then
    let e₁ := { e with state := { e.state with step := .prevote } }
    if !e₁.sentPrevote then
      ({ e₁ with sentPrevote := true,
                 state := { e₁.state with prevotes := e₁.state.prevotes.insert e₁.identity none } },
       .withMessages [e₁.makePrevote none])
    else (e₁, .empty)
  else (e, .empty)

/-- `on_timeout`. -/
def onTimeout (e : ConsensusEngine) : ConsensusStep → ConsensusEngine × EngineOutput
  | .propose => e.onTimeoutPropose
  | .prevote =>
    if e.state.step ≤ .prevote then
      let e₁ := { e with state := { e.state with step := .precommit } }
      if !e₁.sentPrecommit then
        ({ e₁ with sentPrecommit := true,
                   state := { e₁.state with
                     precommits := e₁.state.precommits.insert e₁.identity none } },
         .withMessages [e₁.makePrecommit none])
      else (e₁, .empty)
    else (e, .empty)
  | .precommit => e.startRound (e.state.round + 1)
  | .newRound => e.onTimeoutPropose
  | .commit => (e, .empty)

/-- The public entry points a schedule invokes. -/
inductive Call where
  | startNewHeight (height : UInt64)
  | onProposal (msg : ConsensusMessage)
  | onPrevote (msg : ConsensusMessage)
  | onPrecommit (msg : ConsensusMessage)
  | onTimeout (step : ConsensusStep)
  deriving DecidableEq, Repr

/-- Run one call. -/
def handle (e : ConsensusEngine) : Call → ConsensusEngine × EngineOutput
  | .startNewHeight h => e.startNewHeight h
  | .onProposal m => e.onProposal hashv m
  | .onPrevote m => e.onPrevote m
  | .onPrecommit m => e.onPrecommit hashv m
  | .onTimeout s => e.onTimeout s

end Hashing

end ConsensusEngine

end TRv1.ConsensusBft
