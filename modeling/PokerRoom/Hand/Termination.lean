import PokerRoom.Hand.BettingState
import Mathlib.Algebra.Order.BigOperators.Group.List

/-!
# A hand ends

Every accepted action of a hand uses up something that is bounded: a fold a player, a call, bet,
raise or all-in at least one chip, and a check the one chance of its street to check.  Only the
player who opens a street can check, for everybody else gets the turn because he owes chips.
`spent` is the measure, and `accepted_bets_bounded` bounds the accepted actions of a hand by its
chips and five for every player.
-/

namespace PokerRoom

open Foundation

/-! ## Definitions -/

/-- Number of a street in `STREET_ORDER`. -/
def Street.index : Street → ℕ
  | .preFlop => 0
  | .flop => 1
  | .turn => 2
  | .river => 3
  | .showdown => 4

/-- Number of players who have folded. -/
def foldedCount (r : RoundTables) : Int :=
  (r.players.map fun p => if p.hasFolded then 1 else 0).sum

/-- The betting is open and the player who has the turn owes nothing. -/
def MayCheck (r : RoundTables) : Prop :=
  r.round.isActionClosed = false ∧ ∀ p ∈ r.players, r.round.actingPlayerId = some p.playerId →
    r.round.currentHighestBet ≤ p.committedThisStreet

instance : DecidablePred MayCheck := fun _ => inferInstanceAs (Decidable (_ ∧ _))

/-- What the accepted actions of a hand have used up: the chips of the pot, the players who have
folded, and one check for every street that is over or on which nobody may check any more. -/
def spent (r : RoundTables) : Int :=
  r.round.potAmount + foldedCount r + r.round.street.index + if MayCheck r then 0 else 1

/-- The transition is an action that the engine accepted, and no retry that was answered with the
bet recorded before. -/
def AcceptedBet (t : Transition RoundTables BettingCommand) : Prop :=
  match t.command with
  | .placeBet data _ => data.existing t.before = none
  | .advanceStreet => False

instance : DecidablePred AcceptedBet := fun t => by
  unfold AcceptedBet
  split <;> infer_instance

variable {r r' : RoundTables} {d : Deal} {data : PlaceBet} {ids : Uuids} {p : PlayerState}
  {a : BetAction} {v : ValidatedAction}

/-! ## One action -/

/-- An accepted action that moves no chips is a fold, or a check by a player who owes nothing. -/
lemma BetOutcome.amount_pos_or {ctx : HandContext} {amount : Int} (h : BetOutcome ctx p a amount v)
    (hstack : 0 < p.stackRemaining) :
    0 < v.amount ∨ v.amount = 0 ∧
      (v.action = .fold ∨ v.action ≠ .fold ∧ ctx.currentHighestBet ≤ p.committedThisStreet) := by
  cases h with
  | fold => exact Or.inr ⟨rfl, Or.inl rfl⟩
  | check amount h => exact Or.inr ⟨rfl, Or.inr ⟨by simp, h⟩⟩
  | call | callAllIn | bet | betAllIn | raise | raiseAllIn | allIn => left; simp only; omega

/-- After an applied bet nobody may check. -/
lemma BetApplied.not_mayCheck (hseat : SeatedAs d.toRoundSetup r')
    (happ : BetApplied r data ids p a v r') : ¬ MayCheck r' := by
  rintro ⟨hopen, hmatched⟩
  obtain ⟨c, hc, hacting, howes, -⟩ := happ.open_spec hseat hopen
  exact absurd (hmatched c hc hacting) (not_le.mpr howes.2)

/-- The players who have folded after an applied bet. -/
lemma BetApplied.foldedCount_eq (hinv : BettingInvariant d.toRoundSetup r)
    (happ : BetApplied r data ids p a v r') :
    foldedCount r' = foldedCount r + if v.action = .fold then 1 else 0 := by
  refine happ.sum_eq hinv.seated.ids_nodup _ ?_
  have hfold := happ.accepted.permitted.canAct.2.1
  by_cases hv : v.action = .fold
  · simp [PlayerState.act, hfold, hv]
  · simp [PlayerState.act, hfold, hv]

/-- An applied bet uses up something. -/
lemma BetApplied.spent_lt (hinv : BettingInvariant d.toRoundSetup r)
    (hinv' : BettingInvariant d.toRoundSetup r') (happ : BetApplied r data ids p a v r') :
    spent r + 1 ≤ spent r' := by
  have hp := happ.accepted.mem.1
  have hstack := hinv.state.stack_pos hinv.chips hp happ.accepted.permitted.canAct
  have hstreet : r'.round.street = r.round.street := by rw [happ.round_eq]; rfl
  simp only [spent, happ.pot_eq, happ.foldedCount_eq hinv, hstreet,
    if_neg (happ.not_mayCheck hinv'.seated)]
  rcases happ.accepted.outcome.amount_pos_or hstack with hpos | ⟨hzero, hfold | ⟨hfold, hmatched⟩⟩
  · split <;> split <;> omega
  · rw [if_pos hfold]
    split <;> omega
  · -- a check: its player had the turn without owing anything
    have hmay : MayCheck r := by
      refine ⟨happ.accepted.permitted.open_, fun q hq hacting => ?_⟩
      obtain rfl := eq_of_key_eq hinv.seated.ids_nodup hq hp
        (Option.some.inj (hacting.symm.trans (happ.acting hinv)))
      exact hmatched
    rw [if_neg hfold, if_pos hmay]
    omega

/-! ## One advance of the street -/

/-- The next street is the one with the next number. -/
lemma nextStreet_index {s s' : Street} (h : nextStreet s = some s') : s'.index = s.index + 1 := by
  cases s <;> simp only [nextStreet, Option.some.injEq, reduceCtorEq] at h <;> subst h <;> rfl

/-- The end of a street that leads to a next street names it. -/
lemma exists_nextStreet (haction : r.streetEnd.action = .nextStreet) :
    ∃ s, r.streetEnd.nextStreet = some s ∧ s.index = r.round.street.index + 1 := by
  unfold RoundTables.streetEnd evaluateStreetEnd at haction ⊢
  simp only at haction ⊢
  split at haction
  · cases haction
  next htwo =>
  rw [if_neg htwo]
  split at haction
  · cases haction
  next hriver =>
  rw [if_neg hriver]
  split at haction
  · cases haction
  next hcan =>
  rw [if_neg hcan]
  obtain ⟨s, hs⟩ : ∃ s, nextStreet r.round.street = some s := by
    cases hstreet : r.round.street <;> simp [hstreet, nextStreet] at hriver ⊢
  exact ⟨s, hs, nextStreet_index hs⟩

/-- Collecting the commitments of a street keeps the players who have folded. -/
lemma foldedCount_collect
    (h : r'.players = r.players.map fun rp => { rp with committedThisStreet := 0 }) :
    foldedCount r' = foldedCount r := by
  rw [foldedCount, h, List.map_map]
  rfl

/-- An advance of the street moves no chips and folds nobody, and it closes the betting or opens it
on the next street. -/
lemma StreetAdvanced.street_cases (hadv : StreetAdvanced r r') :
    r'.round.potAmount = r.round.potAmount ∧ foldedCount r' = foldedCount r ∧
      (r'.round.isActionClosed = true ∧ r.round.street.index ≤ r'.round.street.index ∨
        r'.round.street.index = r.round.street.index + 1) := by
  rw [hadv.after]
  unfold StreetAdvanceResult.write
  cases haction : r.streetEnd.action with
  | settleHand => exact ⟨rfl, rfl, Or.inl ⟨rfl, le_rfl⟩⟩
  | showdown =>
    have hindex : r.round.street.index ≤ Street.index .showdown := by
      cases r.round.street <;> decide
    exact ⟨rfl, foldedCount_collect rfl, Or.inl ⟨rfl, hindex⟩⟩
  | nextStreet =>
    obtain ⟨s, hs, hindex⟩ := exists_nextStreet haction
    exact ⟨rfl, foldedCount_collect rfl, Or.inr (by simp only [hs, Option.getD_some, hindex])⟩

/-- An advance of the street gives nothing back. -/
lemma StreetAdvanced.spent_le (hadv : StreetAdvanced r r') : spent r ≤ spent r' := by
  obtain ⟨hpot, hfolded, hstreet⟩ := hadv.street_cases
  unfold spent
  rw [hpot, hfolded]
  rcases hstreet with ⟨hclosed, hindex⟩ | hindex
  · have hmay : ¬ MayCheck r' := fun h => absurd h.1 (by simp [hclosed])
    rw [if_neg hmay]
    split <;> omega
  · split <;> split <;> omega

/-! ## Every run -/

/-- An accepted command of the betting uses up something if it is an accepted action, and gives
nothing back otherwise. -/
lemma spent_step (hinv : BettingInvariant d.toRoundSetup r) {c : BettingCommand}
    (hstep : bettingMachine.step r c = .ok r') :
    spent r + (if AcceptedBet ⟨r, c, r'⟩ then 1 else 0) ≤ spent r' := by
  have hinv' := hinv.step hstep
  cases c with
  | placeBet data ids =>
    rcases placeBet_step_cases hinv.seated.ids_nodup hstep
      with ⟨hfound, rfl⟩ | ⟨hfresh, p, a, v, happ⟩
    · have hretry : ¬ AcceptedBet ⟨r', .placeBet data ids, r'⟩ := hfound
      rw [if_neg hretry, add_zero]
    · have hnew : AcceptedBet ⟨r, .placeBet data ids, r'⟩ := hfresh
      rw [if_pos hnew]
      exact happ.spent_lt hinv hinv'
  | advanceStreet =>
    obtain ⟨⟨res, r''⟩, hadv, rfl⟩ := map_eq_ok_iff.mp hstep
    rw [if_neg (by simp [AcceptedBet]), add_zero]
    exact (advanceStreet_eq_ok_iff.mp hadv).2.spent_le

/-- What a hand has used up lies between nothing and its chips, its players and a check for each of
five streets. -/
lemma BettingInvariant.spent_bounds (hinv : BettingInvariant d.toRoundSetup r) :
    0 ≤ spent r ∧ spent r ≤ d.dealtTotal + d.players.length + 5 := by
  have hchips := hinv.chips.stackTotal_add_pot hinv.seated
  have hstacks : 0 ≤ stackTotal r := by
    apply List.sum_nonneg
    rw [List.forall_mem_map]
    exact fun p hp => (hinv.chips.players p hp).stack_nonneg
  have hpot : 0 ≤ r.round.potAmount := by
    rw [hinv.chips.pot]
    apply List.sum_nonneg
    rw [List.forall_mem_map]
    exact fun p hp => (hinv.chips.players p hp).street_nonneg.trans
      (hinv.chips.players p hp).street_le_hand
  have hfolded : 0 ≤ foldedCount r ∧ foldedCount r ≤ d.players.length := by
    have hlen := congrArg List.length hinv.seated.playerIds
    rw [List.length_map, List.length_map] at hlen
    have hcard :=
      List.sum_le_card_nsmul (r.players.map fun p => if p.hasFolded then (1 : Int) else 0) 1
    rw [List.forall_mem_map, List.length_map, hlen, nsmul_one] at hcard
    refine ⟨List.sum_nonneg ?_, hcard fun p _ => by split <;> omega⟩
    rw [List.forall_mem_map]
    intro p _
    split <;> omega
  have hindex : r.round.street.index ≤ 4 := by cases r.round.street <;> decide
  unfold spent
  split <;> omega

/-- **A hand ends.** In every run of the betting of a hand in which `n` players are dealt `T` chips
at most `T + 5 * n` actions are accepted, whoever asks for whatever; so no infinite sequence of
requests has infinitely many accepted actions. -/
theorem accepted_bets_bounded {ids₀ : Uuids} {r₀ : RoundTables}
    (hdeal : createRound d.toRoundSetup ids₀ = .ok r₀) :
    (∀ cs : List BettingCommand,
      (((bettingMachine.trace r₀ cs).filter fun t => AcceptedBet t).length : Int) ≤
        d.dealtTotal + 5 * d.players.length) ∧
    ∀ f : ℕ → BettingCommand,
      {n | ∃ r', bettingMachine.step (bettingMachine.run r₀ ((List.range n).map f)) (f n) = .ok r' ∧
        AcceptedBet ⟨bettingMachine.run r₀ ((List.range n).map f), f n, r'⟩}.Finite := by
  have hbound : ∀ cs : List BettingCommand,
      (((bettingMachine.trace r₀ cs).filter fun t => AcceptedBet t).length : Int) ≤
        d.dealtTotal + 5 * d.players.length := by
    intro cs
    have hinv₀ := bettingInvariant_of_createRound hdeal
    have hcount : spent r₀ + ((bettingMachine.trace r₀ cs).filter fun t => AcceptedBet t).length ≤
        spent (bettingMachine.run r₀ cs) := Machine.trace_count_le
      (I := fun r => BettingInvariant d.toRoundSetup r) (P := AcceptedBet)
      (fun _ _ _ hinv hstep => ⟨hinv.step hstep, spent_step hinv hstep⟩) hinv₀ cs
    have hstart := hinv₀.spent_bounds.1
    have htotal := (bettingInvariant_run hdeal cs).spent_bounds.2
    have htwo := d.two_le
    omega
  refine ⟨hbound, fun f => ?_⟩
  refine Machine.finite_setOf_step (B := (d.dealtTotal + 5 * d.players.length).toNat) fun n => ?_
  have := hbound ((List.range n).map f)
  omega

/-- A heads-up hand with two hundred chips sees at most two hundred and ten accepted actions. -/
theorem accepted_bets_bounded_headsUp :
    (((bettingMachine.trace (headsUp.tables headsUpIds)
        [.send "alice" "call" 0 "b1" "e1", .advanceStreet, .send "bob" "check" 0 "b2" "e2"]).filter
          fun t => AcceptedBet t).length : Int) ≤
      headsUp.dealtTotal + 5 * headsUp.players.length :=
  (accepted_bets_bounded
    (show createRound headsUp.toRoundSetup headsUpIds =
      .ok (headsUp.tables headsUpIds) by decide)).1 _

end PokerRoom
