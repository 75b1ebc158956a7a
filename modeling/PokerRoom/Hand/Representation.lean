import PokerRoom.Hand.Closure

/-!
# What the fields of a betting state represent

The bet to match, the all-in and folded flags, the minimum raise and the seat of the last aggressor
are stored in separate fields that different branches of the service write.  `Represented` says how
they hang together, and `betting_state_represented` says that they do so after every run of the
betting.

The one part that no single action shows is the last aggressor: he still stands behind the bet
because the turn never comes back to him while he can act, which is the invariant
`AggressorCovered`.
-/

namespace PokerRoom

open Foundation

/-! ## Definitions -/

/-- The last aggressor, if there is one, is all-in or has matched the bet. -/
def AggressorStands (r : RoundTables) : Prop :=
  ∀ seat ∈ r.round.lastAggressorSeat, ∃ p ∈ r.players, p.seatNumber = seat ∧
    (p.isAllIn = true ∨ p.committedThisStreet = r.round.currentHighestBet)

/-- The fields of a betting state hang together. -/
structure Represented (r : RoundTables) : Prop where
  /-- The bet to match is the largest commitment to the street. -/
  highest : (r.players.map (·.committedThisStreet)).max? = some r.round.currentHighestBet
  /-- All-in means an empty stack. -/
  isAllIn_iff : ∀ p ∈ r.players, p.isAllIn = true ↔ p.stackRemaining = 0
  /-- Folding is leaving the hand. -/
  hasFolded_iff : ∀ p ∈ r.players, p.hasFolded = true ↔ p.isActiveInHand = false
  /-- A raise is at least the big blind. -/
  minRaise_ge : r.round.bigBlindAmount ≤ r.round.minimumRaiseAmount
  /-- The last aggressor stands behind the bet. -/
  aggressor : AggressorStands r

variable {r r' : RoundTables} {d : Deal} {data : PlaceBet} {ids : Uuids} {p : PlayerState}
  {a : BetAction} {v : ValidatedAction}

/-! ## The last aggressor -/

/-- An applied bet leaves a last aggressor who stands behind the bet. -/
lemma AggressorStands.betApplied (hinv : BettingInvariant d.toRoundSetup r)
    (hcov : AggressorCovered r) (h : AggressorStands r) (happ : BetApplied r data ids p a v r') :
    AggressorStands r' := by
  intro seat hseat
  have hp := happ.accepted.mem.1
  have hcan := happ.accepted.permitted.canAct
  rw [happ.aggressor_eq, aggressorAfter, Option.mem_def] at hseat
  cases hagg : v.action.isAggressive with
  | true =>
    rw [if_pos hagg] at hseat
    refine ⟨p.act v, (happ.mem_iff hinv).mpr (Or.inl rfl), Option.some.inj hseat, ?_⟩
    by_cases hstill : (p.act v).CanAct
    · exact Or.inr (happ.act_eq_highest hinv hstill)
    · have hfold : v.action ≠ .fold := fun hfold => by rw [hfold] at hagg; cases hagg
      left
      by_contra hnot
      rw [Bool.not_eq_true] at hnot
      exact hstill ⟨by simp [PlayerState.act, hcan.1, hfold],
        by simp [PlayerState.act, hcan.2.1, hfold], hnot⟩
  | false =>
    rw [if_neg (by simp [hagg])] at hseat
    obtain ⟨b, hb, hbseat, hstands⟩ := h seat hseat
    -- the actor is not the aggressor, so the aggressor is left alone
    have hne : b ≠ p := by
      rintro rfl
      have hcovered := hcov happ.accepted.permitted.open_ b hb (happ.acting hinv) b hb
        (hseat.trans (congrArg some hbseat.symm)) hcan
      exact hcovered.1 rfl
    have hhigh : r'.round.currentHighestBet = r.round.currentHighestBet := by
      rw [happ.highest_eq, highestAfter_of_not_aggressive hagg]
    exact ⟨b, (happ.mem_iff hinv).mpr (Or.inr ⟨hb, hne⟩), hbseat, by rwa [hhigh]⟩

/-- An advance of the street leaves a last aggressor who stands behind the bet, if there is one. -/
lemma AggressorStands.streetOutcome (h : AggressorStands r) (hout : StreetOutcome r r') :
    AggressorStands r' := by
  cases hout with
  | settleHand => exact h
  | showdown =>
    intro seat hseat
    obtain ⟨b, hb, hbseat, -⟩ := h seat hseat
    exact ⟨{ b with committedThisStreet := 0 }, List.mem_map_of_mem hb, hbseat, Or.inr rfl⟩
  | nextStreet st p hp hcan =>
    intro seat hseat
    cases hseat

/-- An accepted command of the betting leaves a last aggressor who stands behind the bet. -/
lemma AggressorStands.step (hinv : BettingInvariant d.toRoundSetup r) (hcov : AggressorCovered r)
    (h : AggressorStands r) {c : BettingCommand} (hstep : bettingMachine.step r c = .ok r') :
    AggressorStands r' := by
  rcases betting_step_cases hinv.seated.ids_nodup hstep with
    ⟨rfl, -⟩ | ⟨data, ids, p, a, v, -, happ⟩ | ⟨-, hadv⟩
  · exact h
  · exact h.betApplied hinv hcov happ
  · exact h.streetOutcome hadv.outcome

/-! ## Every run -/

/-- The fields hang together where the betting invariants hold and the last aggressor stands. -/
lemma BettingInvariant.represented (hinv : BettingInvariant d.toRoundSetup r)
    (h : AggressorStands r) : Represented r := by
  refine ⟨?_, hinv.state.isAllIn_iff, fun p hp => ?_, ?_, h⟩
  · rw [List.max?_eq_some_iff]
    obtain ⟨p, hp, hhigh⟩ := hinv.state.exists_highest
    refine ⟨hhigh ▸ List.mem_map_of_mem hp, ?_⟩
    rw [List.forall_mem_map]
    exact hinv.state.le_highest
  · rw [hinv.state.isActive_eq p hp, Bool.not_eq_false']
  · rw [hinv.state.bigBlind]
    exact hinv.state.minRaise_ge

/-- **What a betting state represents.** After every run of the betting of a dealt hand the bet to
match is the largest commitment to the street, a player is all-in exactly when his stack is empty
and has folded exactly when he left the hand, the minimum raise is at least the big blind, and the
last aggressor, if there is one, is all-in or has matched the bet. -/
theorem betting_state_represented {ids₀ : Uuids} {r₀ : RoundTables}
    (hdeal : createRound d.toRoundSetup ids₀ = .ok r₀) (cs : List BettingCommand) :
    Represented (bettingMachine.run r₀ cs) := by
  have h₀ : AggressorCovered r₀ ∧ AggressorStands r₀ := by
    obtain ⟨-, -, rfl⟩ := createRound_eq_ok_iff.mp hdeal
    exact ⟨aggressorCovered_of_none rfl,
      fun seat hseat => absurd hseat (by simp [RoundSetup.tables])⟩
  obtain ⟨hinv, -, hstands⟩ := Machine.run_invariant
    (I := fun r => BettingInvariant d.toRoundSetup r ∧ AggressorCovered r ∧ AggressorStands r)
    (fun _ _ _ hI hstep =>
      ⟨hI.1.step hstep, hI.2.1.step hI.1 hstep, hI.2.2.step hI.1 hI.2.1 hstep⟩)
    ⟨bettingInvariant_of_createRound hdeal, h₀⟩ cs
  exact hinv.represented hstands

/-- After a raise heads-up the small blind is the last aggressor and has matched his own bet. -/
theorem betting_state_represented_headsUp :
    AggressorStands (bettingMachine.run (headsUp.tables headsUpIds)
      [.send "alice" "raise" 6 "b1" "e1"]) :=
  (betting_state_represented
    (show createRound headsUp.toRoundSetup headsUpIds = .ok (headsUp.tables headsUpIds) by decide)
    _).aggressor

end PokerRoom
