import TRv1.Votor.Notarization
import TRv1.Lib.Binary64Error

/-!
# `SafeToNotar` against the white paper's rule

The white paper (v1.1, p. 22) makes a block safe to notarize when its notarize stake is at least
`0.4` of the total, or at least `0.2` and with the skip stake at least `0.6`
(`SafeToNotarRule`, in exact arithmetic). `slot_stake_counters.rs` computes the shares in
binary64: `stake as f64 / total as f64`, compared with the `f64` constants.

`isSafeToNotar_within_rounding` says how far the two are apart: for a block this node did not vote
to notarize, the binary64 test admits every block that the rule admits with the stakes shrunk by
a factor `1 + 2 ^ -46`, and only blocks that the rule admits with the stakes grown by it. The
margin is not an artefact of the proof: a quotient just below `0.4` rounds to the same double as
`0.4`, so a validator holding `39999999999999999` of `10 ^ 17` lamports makes a node that voted
for another block emit `SafeToNotar` for its block (`safeToNotar_below_forty_percent`), though
its stake is below `0.4` of the total and no skip vote exists.
-/

set_option autoImplicit false

namespace TRv1.Votor

open ConsensusPool

/-- The white paper's condition for `SafeToNotar(b)`, in exact arithmetic: the notarize stake of
`b` is at least `0.4` of the total, or at least `0.2` and with the skip stake at least `0.6`. -/
def SafeToNotarRule (notar skip total : Nat) : Prop :=
  4 * total ≤ 10 * notar ∨ (2 * total ≤ 10 * notar ∧ 6 * total ≤ 10 * (notar + skip))

instance (notar skip total : Nat) : Decidable (SafeToNotarRule notar skip total) :=
  inferInstanceAs (Decidable (_ ∨ _))

/-! ## The binary64 test within rounding of the rule -/

open Binary64

/-- This node's first vote in the slot was to notarize `blockId`. -/
def SlotStakeCounters.VotedFor (c : SlotStakeCounters) (blockId : Hash) : Prop :=
  ∃ slot, c.myFirstVote = some (.notarize slot blockId)

namespace SlotStakeCounters

/-- For a block this node did not vote to notarize, `is_safe_to_notar` is the binary64 test. -/
theorem isSafeToNotar_of_not_votedFor {c : SlotStakeCounters} {blockId : Hash} (stake : Stake)
    (h : ¬ c.VotedFor blockId) :
    c.isSafeToNotar blockId stake =
      (le safeToNotarMinNotarizeOnly (stakeRatio stake c.totalStake) ||
        (le safeToNotarMinNotarizeForNotarizeOrSkip (stakeRatio stake c.totalStake) &&
          le safeToNotarMinNotarizeAndSkip
            (add (stakeRatio stake c.totalStake) (stakeRatio c.skipTotal c.totalStake)))) := by
  unfold isSafeToNotar
  rcases hvote : c.myFirstVote with _ | vote
  · rfl
  · cases vote with
    | notarize slot myBlockId =>
      have hne : myBlockId ≠ blockId := by
        rintro rfl
        exact h ⟨slot, hvote⟩
      simp only [hne, decide_false, Bool.false_eq_true, if_false]
    | _ => rfl

end SlotStakeCounters

/-- A share `stake / total` as `stakeRatio` computes it is within `2 ^ -50` of the exact share,
relatively, and `2 ^ -90` absolutely. -/
theorem stakeRatio_near (stake total : Stake) (htotal : total ≠ 0) :
    ∃ r, toRat? (stakeRatio stake total) = some r ∧
      |r - (stake.toNat : ℚ) / total.toNat| ≤
        (stake.toNat : ℚ) / total.toNat / 2 ^ 50 + 1 / 2 ^ 90 :=
  div_ofNat_near stake.toNat_lt
    (Nat.pos_of_ne_zero fun h => htotal (UInt64.toNat_inj.mp (by rw [h]; rfl))) total.toNat_lt

/-- A threshold `a / 10` as its `f64` constant: within `2 ^ -53` of it, relatively, and
`2 ^ -100` absolutely. -/
theorem ofDecimal_tenths (a : Nat) (ha : a ≤ 10) :
    ∃ d, toRat? (ofDecimal a 1) = some d ∧
      |d - (a : ℚ) / 10| ≤ (a : ℚ) / 10 / 2 ^ 53 + 1 / 2 ^ 100 := by
  have h10 : ((10 : ℚ) ^ 1) = 10 := by norm_num
  have ha1 : (a : ℚ) / 10 ≤ 1 := by
    rw [div_le_one (by norm_num)]
    exact_mod_cast ha
  obtain ⟨d, hd, herr⟩ := ofDecimal_spec (m := a) (k := 1)
    (lt_overflowBound (by rw [h10]; linarith))
  refine ⟨d, hd, ?_⟩
  rw [h10] at herr
  unfold unitRoundoff at herr
  have hη := underflowError_le
  linarith

section Threshold

variable {r X d : ℚ} {a : Nat}

/-- A value within `2 ^ -49` of a share at least `a / 10 * (1 + 2 ^ -46)` is not below the
constant of `a / 10`. -/
theorem le_of_share_ge (ha : 1 ≤ a) (hr : |r - X| ≤ X / 2 ^ 49 + 1 / 2 ^ 88)
    (hd : |d - (a : ℚ) / 10| ≤ (a : ℚ) / 10 / 2 ^ 53 + 1 / 2 ^ 100)
    (hX : (a : ℚ) / 10 * (1 + 1 / 2 ^ 46) ≤ X) : d ≤ r := by
  have haq : (1 : ℚ) ≤ a := by exact_mod_cast ha
  linarith [(abs_le.mp hr).1, (abs_le.mp hd).2]

/-- A value within `2 ^ -49` of a share and not below the constant of `a / 10` is the value of a
share at least `a / 10 * (1 - 2 ^ -47)`. -/
theorem share_ge_of_le (ha : 1 ≤ a) (hr : |r - X| ≤ X / 2 ^ 49 + 1 / 2 ^ 88)
    (hd : |d - (a : ℚ) / 10| ≤ (a : ℚ) / 10 / 2 ^ 53 + 1 / 2 ^ 100) (hdr : d ≤ r) :
    (a : ℚ) / 10 * (1 - 1 / 2 ^ 47) ≤ X := by
  have haq : (1 : ℚ) ≤ a := by exact_mod_cast ha
  linarith [(abs_le.mp hr).2, (abs_le.mp hd).1]

end Threshold

section Shares

variable {stake total a : Nat}

/-- The rule's inequality with the stake shrunk by `1 + 2 ^ -46` bounds the exact share. -/
theorem share_ge_of_rule (htotal : 0 < total)
    (h : a * (total * (2 ^ 46 + 1)) ≤ 10 * (stake * 2 ^ 46)) :
    (a : ℚ) / 10 * (1 + 1 / 2 ^ 46) ≤ (stake : ℚ) / total := by
  have hq : (a : ℚ) * (total * (2 ^ 46 + 1)) ≤ 10 * (stake * 2 ^ 46) := by exact_mod_cast h
  rw [le_div_iff₀ (by exact_mod_cast htotal)]
  linarith

/-- An exact share of at least `a / 10 * (1 - 2 ^ -47)` meets the rule's inequality with the stake
grown by `1 + 2 ^ -46`. -/
theorem rule_of_share_ge (htotal : 0 < total)
    (h : (a : ℚ) / 10 * (1 - 1 / 2 ^ 47) ≤ (stake : ℚ) / total) :
    a * (total * 2 ^ 46) ≤ 10 * (stake * (2 ^ 46 + 1)) := by
  rw [le_div_iff₀ (by exact_mod_cast htotal)] at h
  have hat : (0 : ℚ) ≤ a * total := by positivity
  have hq : (a : ℚ) * (total * 2 ^ 46) ≤ 10 * (stake * (2 ^ 46 + 1)) := by nlinarith
  exact_mod_cast hq

/-- A value within `2 ^ -49` of `stake / total` passes the constant of `a / 10` whenever the
rule's inequality holds with the stake shrunk by `1 + 2 ^ -46`. -/
theorem le_of_rule {r d : ℚ} (ha : 1 ≤ a) (htotal : 0 < total)
    (hr : |r - (stake : ℚ) / total| ≤ (stake : ℚ) / total / 2 ^ 49 + 1 / 2 ^ 88)
    (hd : |d - (a : ℚ) / 10| ≤ (a : ℚ) / 10 / 2 ^ 53 + 1 / 2 ^ 100)
    (h : a * (total * (2 ^ 46 + 1)) ≤ 10 * (stake * 2 ^ 46)) : d ≤ r :=
  le_of_share_ge ha hr hd (share_ge_of_rule htotal h)

/-- A value within `2 ^ -49` of `stake / total` passes the constant of `a / 10` only if the rule's
inequality holds with the stake grown by `1 + 2 ^ -46`. -/
theorem rule_of_le {r d : ℚ} (ha : 1 ≤ a) (htotal : 0 < total)
    (hr : |r - (stake : ℚ) / total| ≤ (stake : ℚ) / total / 2 ^ 49 + 1 / 2 ^ 88)
    (hd : |d - (a : ℚ) / 10| ≤ (a : ℚ) / 10 / 2 ^ 53 + 1 / 2 ^ 100) (hdr : d ≤ r) :
    a * (total * 2 ^ 46) ≤ 10 * (stake * (2 ^ 46 + 1)) :=
  rule_of_share_ge htotal (share_ge_of_le ha hr hd hdr)

end Shares

/-- The binary64 test of `is_safe_to_notar` decides the white paper's rule up to a relative error
of `2 ^ -46`: for a block this node did not vote to notarize, it admits every block the rule
admits with the stakes shrunk by `1 + 2 ^ -46`, and only blocks the rule admits with the stakes
grown by it. -/
theorem isSafeToNotar_within_rounding (c : SlotStakeCounters) (blockId : Hash) (stake : Stake)
    (htotal : c.totalStake ≠ 0) (hvote : ¬ c.VotedFor blockId) :
    (SafeToNotarRule (stake.toNat * 2 ^ 46) (c.skipTotal.toNat * 2 ^ 46)
        (c.totalStake.toNat * (2 ^ 46 + 1)) → c.isSafeToNotar blockId stake = true) ∧
      (c.isSafeToNotar blockId stake = true →
        SafeToNotarRule (stake.toNat * (2 ^ 46 + 1)) (c.skipTotal.toNat * (2 ^ 46 + 1))
          (c.totalStake.toNat * 2 ^ 46)) := by
  have hT : 0 < c.totalStake.toNat :=
    Nat.pos_of_ne_zero fun h => htotal (UInt64.toNat_inj.mp (by rw [h]; rfl))
  have hTq : (0 : ℚ) < c.totalStake.toNat := by exact_mod_cast hT
  -- the two shares, their sum, and the three constants
  obtain ⟨rn, hrn, hrnerr⟩ := stakeRatio_near stake c.totalStake htotal
  obtain ⟨rk, hrk, hrkerr⟩ := stakeRatio_near c.skipTotal c.totalStake htotal
  set X : ℚ := (stake.toNat : ℚ) / c.totalStake.toNat with hX
  set Y : ℚ := (c.skipTotal.toNat : ℚ) / c.totalStake.toNat with hY
  have hX0 : 0 ≤ X := by positivity
  have hY0 : 0 ≤ Y := by positivity
  have hXY : X + Y = ((stake.toNat + c.skipTotal.toNat : Nat) : ℚ) / c.totalStake.toNat := by
    rw [hX, hY, Nat.cast_add, add_div]
  have hη := underflowError_le
  have hrnX : |rn - X| ≤ X / 2 ^ 49 + 1 / 2 ^ 88 := by
    obtain ⟨h1, h2⟩ := abs_le.mp hrnerr
    rw [abs_le]
    constructor <;> linarith
  have hsum : |rn + rk - (X + Y)| ≤ (X + Y) / 2 ^ 50 + 2 / 2 ^ 90 := by
    obtain ⟨h1, h2⟩ := abs_le.mp hrnerr
    obtain ⟨h3, h4⟩ := abs_le.mp hrkerr
    rw [abs_le]
    constructor <;> linarith
  have hsumAbs : |rn + rk| ≤ (X + Y) * 2 + 1 / 2 ^ 88 := by
    obtain ⟨h1, h2⟩ := abs_le.mp hsum
    rw [abs_le]
    constructor <;> linarith
  have hXY64 : X + Y ≤ 2 ^ 65 := by
    rw [hXY, div_le_iff₀ hTq]
    have hs : ((stake.toNat + c.skipTotal.toNat : Nat) : ℚ) < 2 ^ 65 := by
      have := stake.toNat_lt
      have := c.skipTotal.toNat_lt
      exact_mod_cast (by omega : stake.toNat + c.skipTotal.toNat < 2 ^ 65)
    have h1 : (1 : ℚ) ≤ c.totalStake.toNat := by exact_mod_cast hT
    nlinarith
  obtain ⟨A, hA, hAerr⟩ := add_spec hrn hrk (lt_overflowBound (by linarith))
  unfold unitRoundoff at hAerr
  have hAXY : |A - (X + Y)| ≤ (X + Y) / 2 ^ 49 + 1 / 2 ^ 88 := by
    have hu : |rn + rk| * (1 / 2 ^ 53) ≤ ((X + Y) * 2 + 1 / 2 ^ 88) * (1 / 2 ^ 53) :=
      mul_le_mul_of_nonneg_right hsumAbs (by positivity)
    obtain ⟨h1, h2⟩ := abs_le.mp hAerr
    obtain ⟨h3, h4⟩ := abs_le.mp hsum
    rw [abs_le]
    constructor <;> linarith
  -- the sum read as the share of the summed stakes
  rw [hXY] at hAXY
  obtain ⟨d4, hd4, hd4err⟩ := ofDecimal_tenths 4 (by norm_num)
  obtain ⟨d2, hd2, hd2err⟩ := ofDecimal_tenths 2 (by norm_num)
  obtain ⟨d6, hd6, hd6err⟩ := ofDecimal_tenths 6 (by norm_num)
  rw [SlotStakeCounters.isSafeToNotar_of_not_votedFor stake hvote, Bool.or_eq_true,
    Bool.and_eq_true, safeToNotarMinNotarizeOnly, safeToNotarMinNotarizeForNotarizeOrSkip,
    safeToNotarMinNotarizeAndSkip, le_spec hd4 hrn, le_spec hd2 hrn, le_spec hd6 hA]
  unfold SafeToNotarRule
  constructor
  · -- the rule with the stakes shrunk admits the block
    rintro (h | ⟨h, hs⟩)
    · exact .inl (le_of_rule (by norm_num) hT hrnX hd4err (by linarith))
    · exact .inr ⟨le_of_rule (by norm_num) hT hrnX hd2err (by linarith),
        le_of_rule (by norm_num) hT hAXY hd6err (by rw [Nat.add_mul]; linarith)⟩
  · -- the test admits the block only under the rule with the stakes grown
    rintro (h | ⟨h, hs⟩)
    · have h₄ := rule_of_le (by norm_num) hT hrnX hd4err h
      exact .inl (by linarith)
    · have h₂ := rule_of_le (by norm_num) hT hrnX hd2err h
      have h₆ := rule_of_le (by norm_num) hT hAXY hd6err hs
      rw [← Nat.add_mul]
      exact .inr ⟨by linarith, by linarith⟩

/-- A node that has voted to skip, over a total stake of `100`. -/
def skippedCounters : SlotStakeCounters := { SlotStakeCounters.new 100 with myFirstVote := some (.skip 1) }

theorem skipped_within_rounding :
    skippedCounters.totalStake ≠ 0 ∧ ¬ skippedCounters.VotedFor ⟨10⟩ ∧
      (SafeToNotarRule ((40 : Stake).toNat * 2 ^ 46) (skippedCounters.skipTotal.toNat * 2 ^ 46)
          (skippedCounters.totalStake.toNat * (2 ^ 46 + 1)) →
        skippedCounters.isSafeToNotar ⟨10⟩ 40 = true) ∧
      (skippedCounters.isSafeToNotar ⟨10⟩ 40 = true →
        SafeToNotarRule ((40 : Stake).toNat * (2 ^ 46 + 1))
          (skippedCounters.skipTotal.toNat * (2 ^ 46 + 1)) (skippedCounters.totalStake.toNat * 2 ^ 46)) := by
  have hvote : ¬ skippedCounters.VotedFor ⟨10⟩ := by
    rintro ⟨slot, h⟩
    cases h
  exact ⟨by decide, hvote, isSafeToNotar_within_rounding skippedCounters ⟨10⟩ 40 (by decide) hvote⟩

/-! ## The margin is crossed -/

/-- The validator whose stake is just below `0.4` of the total. -/
def nearFortyKey : Pubkey := ⟨1⟩

/-- This node's vote key. -/
def nodeKey : Pubkey := ⟨2⟩

/-- The validator holding the rest of the stake. -/
def restKey : Pubkey := ⟨3⟩

/-- `39999999999999999`, `1` and `60000000000000000` lamports of a total of `10 ^ 17`. -/
def nearFortyStakes : EpochStakes where
  rankMap := [nearFortyKey, nodeKey, restKey]
  voteAccountStake k :=
    if k = nearFortyKey then 39999999999999999 else if k = nodeKey then 1 else 60000000000000000
  totalStake := 100000000000000000
  stake_pos := by decide

/-- The same stakes in every epoch. -/
def nearFortyContext : StakesContext := ⟨fun _ => 0, fun _ => some nearFortyStakes⟩

/-- The block this node notarizes. -/
def nodeBlock : Hash := ⟨11⟩

/-- The block the validator just below `0.4` notarizes. -/
def otherBlock : Hash := ⟨10⟩

/-- This node notarizes its block of slot 1, then the validator just below `0.4` notarizes
another. -/
def nearFortyMessages : List ConsensusMessage :=
  [.vote ⟨.notarize 1 nodeBlock, 1⟩, .vote ⟨.notarize 1 otherBlock, 0⟩]

/-- The pool and the events after `nearFortyMessages`, with binary64 thresholds. -/
def nearFortyRun : ConsensusPool × List VotorEvent :=
  run nearFortyContext f64BelowLimit 0 nodeKey nearFortyMessages (newFromRootBank genesisBlock)

/-- The node emits `SafeToNotar` for the other block: `39999999999999999 / 10 ^ 17` rounds to
the double of `0.4`, while in exact arithmetic the block's notarize stake is below `0.4` of the
total and there is no skip stake. -/
theorem safeToNotar_below_forty_percent :
    nearFortyRun.2 = [.safeToNotar (1, otherBlock)] ∧
      nearFortyContext.votersStake (nearFortyRun.1.poolVotes 1 .notarize (some otherBlock)) =
        39999999999999999 ∧
      stakeRatio 39999999999999999 100000000000000000 = safeToNotarMinNotarizeOnly ∧
      ¬ SafeToNotarRule
        (nearFortyContext.votersStake (nearFortyRun.1.poolVotes 1 .notarize (some otherBlock)))
        (nearFortyContext.votersStake (nearFortyRun.1.poolVotes 1 .skip none))
        nearFortyStakes.totalStake.toNat := by
  decide +kernel

end TRv1.Votor
