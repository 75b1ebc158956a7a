import PokerRoom.Hand.Closure

/-!
# The next actor without the shortcut

The turn engine stops its scan at the last aggressor.  A scan that knows nothing of the aggressor
and looks for the first player who owes chips gives the same answer after every action
(`next_actor_exact`), because nobody between the aggressor and the actor owes anything.
-/

namespace PokerRoom

open Foundation

/-- The first player met clockwise from a seat who can act and has committed less than the bet to
match. -/
def firstOwing (r : RoundTables) (seat : Int) : Option RoundPlayer :=
  (sweep (·.seatNumber) seat r.players).find? fun q => q.Owes r.round.currentHighestBet

variable {r r' : RoundTables} {d : Deal} {data : PlaceBet} {ids : Uuids} {p : PlayerState}
  {a : BetAction} {v : ValidatedAction}

/-- The first player who owes chips, by the clockwise order. -/
lemma firstOwing_eq_some_iff (hseat : SeatedAs d.toRoundSetup r) {seat : Int} {c : RoundPlayer} :
    firstOwing r seat = some c ↔ c ∈ r.players ∧ c.Owes r.round.currentHighestBet ∧
      ∀ q ∈ r.players, q.Owes r.round.currentHighestBet →
        q = c ∨ Before seat c.seatNumber q.seatNumber := by
  unfold firstOwing
  rw [find?_sweep_eq_some_iff hseat.seats_nodup]
  simp only [decide_eq_true_eq]

/-- There is no first player who owes chips where nobody owes any. -/
lemma firstOwing_eq_none_iff {seat : Int} :
    firstOwing r seat = none ↔ ∀ q ∈ r.players, ¬ q.Owes r.round.currentHighestBet := by
  simp [firstOwing, List.find?_eq_none]

/-- Where at least two players can act, an applied bet passes the turn to the first player who owes
chips, and closes the betting when nobody does. -/
lemma BetApplied.next_actor (hinv : BettingInvariant d.toRoundSetup r)
    (hinv' : BettingInvariant d.toRoundSetup r') (hcov : AggressorCovered r)
    (happ : BetApplied r data ids p a v r')
    (htwo : ¬ ∀ q ∈ r'.players, ∀ q' ∈ r'.players, q.CanAct → q'.CanAct → q = q') :
    r'.round.actingPlayerId = (firstOwing r' p.seatNumber).map (·.playerId) ∧
      (r'.round.isActionClosed = true ↔ firstOwing r' p.seatNumber = none) := by
  cases hclosed : r'.round.isActionClosed with
  | true =>
    have hnone : firstOwing r' p.seatNumber = none := by
      refine firstOwing_eq_none_iff.mpr fun q hq howes => ?_
      have hmatch := happ.all_matched_of_closed hinv hinv' hcov hclosed htwo q hq howes.1
      exact howes.2.ne hmatch
    rw [hnone, hinv'.state.turn_of_closed hclosed]
    exact ⟨rfl, iff_of_true rfl rfl⟩
  | false =>
    obtain ⟨c, hc, hacting, howes, -, hfirst⟩ := happ.open_spec hinv'.seated hclosed
    have hsome : firstOwing r' p.seatNumber = some c := by
      refine (firstOwing_eq_some_iff hinv'.seated).mpr ⟨hc, howes, fun q hq hqowes => ?_⟩
      by_cases hseat : q.seatNumber = c.seatNumber
      · exact Or.inl (hinv'.seated.eq_of_seat hq hc hseat)
      · refine Or.inr ((before_or_before p.seatNumber hseat).resolve_left fun hbefore => ?_)
        exact (hfirst q hq hqowes.1 hbefore).1 hqowes
    rw [hsome, hacting]
    exact ⟨rfl, iff_of_false (by simp) (by simp)⟩

/-- **The aggressor shortcut never changes the answer.** In every run of the betting of a dealt
hand, an accepted action that leaves at least two players able to act passes the turn to the first
player met clockwise from the actor who can act and has committed less than the resulting bet, and
it closes the betting exactly when there is none. -/
theorem next_actor_exact {ids₀ : Uuids} {r₀ : RoundTables}
    (hdeal : createRound d.toRoundSetup ids₀ = .ok r₀) (cs : List BettingCommand)
    (t : Transition RoundTables BettingCommand) (ht : t ∈ bettingMachine.trace r₀ cs)
    (data : PlaceBet) (ids : Uuids) (hcommand : t.command = .placeBet data ids)
    (hacts : t.after ≠ t.before) (p : RoundPlayer) (hp : p ∈ t.before.players)
    (hid : p.playerId = data.playerId)
    (htwo : 2 ≤ (t.after.players.filter fun q => q.CanAct).length) :
    t.after.round.actingPlayerId = (firstOwing t.after p.seatNumber).map (·.playerId) ∧
      (t.after.round.isActionClosed = true ↔ firstOwing t.after p.seatNumber = none) := by
  obtain ⟨hinv, hinv', hcov, p', a, v, happ⟩ := betApplied_of_mem_trace hdeal ht hcommand hacts
  obtain ⟨hp', hid'⟩ := happ.accepted.mem
  obtain rfl : p = p' := eq_of_key_eq hinv.seated.ids_nodup hp hp' (hid.trans hid'.symm)
  refine happ.next_actor hinv hinv' hcov fun hsame => ?_
  obtain ⟨q, hq⟩ := List.exists_mem_of_length_pos (zero_lt_two.trans_le htwo)
  have hmem : ∀ o ∈ t.after.players.filter fun q => q.CanAct, o ∈ t.after.players ∧ o.CanAct := by
    simp
  have hsub : (t.after.players.filter fun q => q.CanAct) ⊆ [q] := fun o ho =>
    List.mem_singleton.mpr
      (hsame o (hmem o ho).1 q (hmem q hq).1 (hmem o ho).2 (hmem q hq).2)
  have hnd : (t.after.players.filter fun q => q.CanAct).Nodup :=
    (List.Nodup.of_map _ hinv'.seated.ids_nodup).filter _
  have hle := (List.subperm_of_subset hnd hsub).length_le
  rw [List.length_singleton] at hle
  omega

/-- After a raise of the small blind heads-up the turn passes to the big blind. -/
theorem next_actor_exact_headsUp :
    (bettingMachine.exec (headsUp.tables headsUpIds)
      (.send "alice" "raise" 6 "b1" "e1")).round.actingPlayerId = some "bob" := by
  obtain ⟨p, hp, hid, hseat⟩ : ∃ p ∈ (headsUp.tables headsUpIds).players,
    p.playerId = "alice" ∧ p.seatNumber = 1 := by decide
  refine (next_actor_exact
    (show createRound headsUp.toRoundSetup headsUpIds = .ok (headsUp.tables headsUpIds) by decide)
    [.send "alice" "raise" 6 "b1" "e1"]
    ⟨headsUp.tables headsUpIds, .send "alice" "raise" 6 "b1" "e1",
      bettingMachine.exec (headsUp.tables headsUpIds) (.send "alice" "raise" 6 "b1" "e1")⟩
    (Machine.mem_trace_of_step [] (by decide))
    { playerId := "alice", action := "raise", amount := 6 } (named ["b1", "e1"])
    rfl (by decide) p hp hid (by decide)).1.trans ?_
  rw [hseat]
  decide

end PokerRoom
