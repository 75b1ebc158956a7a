import PokerRoom.Application.GameQueries
import PokerRoom.Hand.BettingState
import PokerRoom.Hand.Settlement

/-!
# The explanation of a settlement

A settlement is validated against the side pots before it is written, with the players who are
active and have not folded as winners; it is explained from the rows afterwards, with those who have
not folded.  `settlement_explained` says that the explanation of every settled hand describes its
settlement.
-/

namespace PokerRoom

open Foundation

/-! ## Definitions -/

/-- The explanation of a settled round describes the settlement of the round before. -/
structure Explains (explanation : SettlementExplanation) (before after : RoundTables) : Prop where
  /-- The pots are those the settlement was validated against. -/
  pots : explanation.pots.map (·.pot) = computedPots before.players
  /-- They hold the pot. -/
  totalPot : explanation.totalPot = after.round.potAmount
  /-- What is awarded is in the payout rows. -/
  totalAwarded : explanation.totalAwarded = (after.payouts.map (·.amount)).sum
  /-- What a pot awards is in the rows of its index. -/
  awardedTotal : ∀ pot ∈ explanation.pots, pot.awardedTotal =
    ((after.payouts.filter fun row => row.potIndex = pot.potIndex).map (·.amount)).sum
  /-- What is left is left of the pots. -/
  totalUnclaimed : explanation.totalUnclaimed = (explanation.pots.map (·.unclaimed)).sum
  /-- Each contributor of a pot is either eligible for it or given a reason. -/
  contributors : ∀ pot ∈ explanation.pots, pot.Partitions

variable {d : Deal} {r r' r₀ : RoundTables} {data : ResolveHandRequest} {ids ids' : Uuids}

/-! ## Before and after the settlement -/

/-- The betting writes no payout rows. -/
lemma payouts_eq_nil (hdeal : createRound d.toRoundSetup ids = .ok r₀) (cs : List BettingCommand) :
    (bettingMachine.run r₀ cs).payouts = [] := by
  apply betting_run_invariant hdeal (I := fun r => r.payouts = [])
  · intro r r' data ids p a v _ hpayouts happ
    rw [happ.after]
    exact hpayouts
  · intro r r' _ hpayouts hout
    cases hout with
    | settleHand | showdown | nextStreet => exact hpayouts
  · rfl

/-- The betting leaves a completed round as it is. -/
lemma bettingMachine_run_of_completed (hnd : (r.players.map (·.playerId)).Nodup)
    (hstatus : r.round.status = .completed) (cs : List BettingCommand) :
    bettingMachine.run r cs = r := by
  refine Machine.run_invariant (I := fun r' => r' = r) (fun r₁ c r₂ h₁ hstep => ?_) rfl cs
  subst h₁
  rcases betting_step_cases hnd hstep with ⟨rfl, -⟩ | ⟨data, ids, p, a, v, -, happ⟩ | ⟨-, hadv⟩
  · rfl
  · have hactive : r₁.round.status = .active := happ.accepted.permitted.status
    rw [hstatus] at hactive
    cases hactive
  · have hactive := hadv.status
    rw [hstatus] at hactive
    cases hactive

/-- The explanation reads of the players what the validation reads of them. -/
lemma explainedContribution_eq {p : RoundPlayer} (h : p.isActiveInHand = !p.hasFolded) :
    p.explainedContribution = p.contribution := by
  simp [PlayerState.explainedContribution, PlayerState.contribution, h]

/-- After a settlement the explanation reads what the settlement was validated against. -/
lemma Settled.contributions_eq (hactive : ∀ p ∈ r.players, p.isActiveInHand = !p.hasFolded)
    (hset : Settled r data ids r') :
    r'.players.map (·.explainedContribution) = r.players.map (·.contribution) := by
  rw [hset.after]
  refine (map_foldl_award fun _ _ => rfl).trans ?_
  exact List.map_congr_left fun p hp => explainedContribution_eq (hactive p hp)

/-- The explanation of a round, with its payout rows pot by pot. -/
lemma settlementExplanation_eq (r : RoundTables) :
    settlementExplanation r = explainSettlement (r.players.map (·.explainedContribution))
      (some (submittedPots (getRoundPayouts r))) := by
  unfold settlementExplanation
  dsimp only
  split
  · rfl
  · next hnil =>
    rw [not_not.mp hnil]
    rfl

/-- The chips of the rows of a pot, in whichever order they are read. -/
lemma sum_potWinners (r : RoundTables) (potIndex : Int) :
    ((potWinners (submittedPots (getRoundPayouts r)) potIndex).map (·.amount)).sum =
      ((r.payouts.filter fun row => row.potIndex = potIndex).map (·.amount)).sum := by
  rw [potWinners_submittedPots, List.map_map]
  exact (((List.perm_insertionSort _ r.payouts).filter _).map _).sum_eq

/-! ## The explanation -/

/-- What an explained pot awards is in the payout rows of its index. -/
lemma awardedTotal_eq {pot : PotExplanation} (hpot : pot ∈ (settlementExplanation r).pots) :
    pot.awardedTotal =
      ((r.payouts.filter fun row => row.potIndex = pot.potIndex).map (·.amount)).sum := by
  rw [settlementExplanation_eq] at hpot
  obtain ⟨side, -, rfl⟩ := List.mem_map.mp hpot
  exact sum_potWinners r side.potIndex

/-- Where every payout row names a computed pot, what is awarded is in the payout rows. -/
lemma totalAwarded_eq
    (hrows : ∀ row ∈ r.payouts, ∃ pot ∈ (settlementExplanation r).pots, pot.potIndex =
      row.potIndex) :
    (settlementExplanation r).totalAwarded = (r.payouts.map (·.amount)).sum := by
  have hpots : (settlementExplanation r).pots.map (·.potIndex) =
      (calculateSidePots (r.players.map (·.explainedContribution))).map (·.potIndex) := by
    rw [settlementExplanation_eq,
      ← explainSettlement_pots _ (some (submittedPots (getRoundPayouts r))),
      List.map_map]
    rfl
  have hnd : ((settlementExplanation r).pots.map (·.potIndex)).Nodup := by
    rw [hpots]
    exact calculateSidePots_potIndex _
  have hfibers := sum_map_eq_sum_fibers (l := r.payouts) (fun row : RoundPayout => row.amount) hnd
    fun row hrow => by
      obtain ⟨pot, hpot, hindex⟩ := hrows row hrow
      exact List.mem_map.mpr ⟨pot, hpot, hindex⟩
  rw [hfibers, List.map_map]
  exact congrArg List.sum (List.map_congr_left fun pot hpot => awardedTotal_eq hpot)

/-- Where the pot is covered every row of an accepted settlement names a computed pot. -/
lemma Settled.exists_pot_of_row (hcov : PotCovered r) (hset : Settled r data ids r')
    {row : RoundPayout}
    (hrow : row ∈ data.awards) : ∃ pot ∈ computedPots r.players, pot.potIndex = row.potIndex := by
  obtain ⟨submitted, h, hrow⟩ := List.mem_flatMap.mp hrow
  obtain ⟨winner, -, rfl⟩ := List.mem_map.mp hrow
  obtain ⟨pot, hpot, hfit⟩ := hset.exists_pot hcov h
  exact ⟨pot, hpot, hfit.potIndex⟩

/-- **The explanation of a settlement.**  In every hand that was dealt, bet and settled once, the
explanation shows the pots the settlement was validated against and the payouts it wrote. -/
theorem settlement_explained (hdeal : createRound d.toRoundSetup ids = .ok r₀)
    (cs cs' : List BettingCommand)
    (hset : settleRound (bettingMachine.run r₀ cs) data ids' = .ok r') :
    Explains (settlementExplanation (bettingMachine.run r' cs')) (bettingMachine.run r₀ cs)
      (bettingMachine.run r' cs') := by
  have hinv := bettingInvariant_run hdeal cs
  have hnil := payouts_eq_nil hdeal cs
  have hcov := potCovered_betting hdeal cs
  set r := bettingMachine.run r₀ cs
  have hset := settleRound_eq_ok_iff.mp hset
  have hids : r'.players.map (·.playerId) = r.players.map (·.playerId) := by
    rw [hset.after]
    exact map_foldl_award fun _ _ => rfl
  have hpayouts : r'.payouts = data.awards := by
    rw [hset.after]
    exact (congrArg (· ++ data.awards) hnil).trans (List.nil_append _)
  have hpots : (settlementExplanation r').pots.map (·.pot) = computedPots r.players := by
    rw [settlementExplanation_eq, explainSettlement_pots,
      hset.contributions_eq hinv.state.isActive_eq]
    rfl
  rw [bettingMachine_run_of_completed (hids ▸ hinv.seated.ids_nodup) hset.round_eq.2 cs']
  refine ⟨hpots, ?_, totalAwarded_eq fun row hrow => ?_, fun pot hpot => awardedTotal_eq hpot, ?_,
    fun pot hpot => ?_⟩
  · -- the pots hold the commitments, and so does the pot
    have hamounts := congrArg (List.map (·.amount)) hpots
    rw [List.map_map] at hamounts
    calc (settlementExplanation r').totalPot
        = ((computedPots r.players).map (·.amount)).sum := congrArg List.sum hamounts
      _ = (r.players.map (·.committedThisHand)).sum := hcov.constraints.sum_computedPots
      _ = r'.round.potAmount := by rw [← hinv.chips.pot, hset.after]; rfl
  · rw [hpayouts] at hrow
    obtain ⟨pot, hpot, hindex⟩ := hset.exists_pot_of_row hcov hrow
    rw [← hpots] at hpot
    obtain ⟨potExp, hpotExp, rfl⟩ := List.mem_map.mp hpot
    exact ⟨potExp, hpotExp, hindex⟩
  · rw [settlementExplanation_eq]
    exact explainSettlement_totalUnclaimed _ _
  · rw [settlementExplanation_eq] at hpot
    refine contributors_partition ?_ hpot
    rw [List.map_map]
    exact hids ▸ hinv.seated.ids_nodup

/-- A heads-up hand in which the small blind has folded. -/
def foldedHeadsUp : RoundTables :=
  bettingMachine.run (headsUp.tables headsUpIds) [.send "alice" "fold" 0 "b1" "e1"]

/-- The explanation of the folded hand shows both of its pots. -/
theorem settlement_explained_headsUp :
    Explains (settlementExplanation
      (foldedHandPayout.write foldedHeadsUp (named ["p1", "p2", "done"])))
      foldedHeadsUp (foldedHandPayout.write foldedHeadsUp (named ["p1", "p2", "done"])) :=
  settlement_explained
    (show createRound headsUp.toRoundSetup headsUpIds = .ok (headsUp.tables headsUpIds) by decide)
    [.send "alice" "fold" 0 "b1" "e1"] []
    (show settleRound foldedHeadsUp foldedHandPayout (named ["p1", "p2", "done"]) = .ok _ from rfl)

end PokerRoom
