import PokerRoom.Game.ScenarioSetUp

/-!
# The verdict of a scenario

The runner keeps the players in the order in which a scenario lists them, where a stored round has
them by seat.  The engine does not see the difference: applied to hands that differ only in this
order it answers alike and leaves such hands (`SameHand.acted`), so a script does the same to both
(`SameHand.play_eq`).  `scenario_verdict` concludes that from three players on a scenario gives the
verdict its script has on the round production creates.
-/

namespace PokerRoom

open Foundation

/-- The players of a hand are distinct, and so are their seats. -/
structure DistinctPlayers (rows : HandRows) : Prop where
  /-- The players. -/
  playerIds : (rows.2.map (·.playerId)).Nodup
  /-- Their seats. -/
  seatNumbers : (rows.2.map (·.seatNumber)).Nodup

variable {rows rows' : HandRows} {g g' : Round} {ps ps' : List RoundPlayer}

/-! ## One action -/

/-- The validator finds the same player in either hand. -/
lemma SameHand.getPlayer_eq (h : SameHand (g, ps) (g', ps')) (hdistinct : DistinctPlayers (g, ps))
    (playerId : String) : (buildHandContext g ps).getPlayer playerId =
      (buildHandContext g' ps').getPlayer playerId :=
  find?_key_eq_of_perm hdistinct.playerIds h.players

/-- The validator accepts the same bets in either hand. -/
lemma SameHand.validateBet_eq (h : SameHand (g, ps) (g', ps')) (hdistinct : DistinctPlayers (g, ps))
    (playerId action : String) (amount : Int) :
    validateBet (buildHandContext g ps) playerId action amount =
      validateBet (buildHandContext g' ps') playerId action amount := by
  have hround : g = { g' with
      roundId := g.roundId, roundNumber := g.roundNumber, stateVersion := g.stateVersion } :=
        h.round
  have hplayer := h.getPlayer_eq hdistinct playerId
  unfold validateBet
  rw [hplayer, hround]
  rfl

/-- The turn engine is shown the same seats, in another order. -/
lemma SameHand.nextToAct_eq (h : SameHand (g, ps) (g', ps')) (hdistinct : DistinctPlayers (g, ps))
    (playerId : String) (v : ValidatedAction) (cur : Int) (agg : Option Int) (highest : Int) :
    nextToAct (actionSeats (buildHandContext g ps) playerId v) cur agg highest =
      nextToAct (actionSeats (buildHandContext g' ps') playerId v) cur agg highest := by
  have hseats : ((actionSeats (buildHandContext g ps) playerId v).map (·.seatNumber)).Nodup := by
    rw [actionSeats, List.map_map]
    exact hdistinct.seatNumbers
  exact nextToAct_eq_of_perm hseats (h.players.map _)

/-- An action has the same transition in either hand. -/
lemma SameHand.transition_eq (h : SameHand (g, ps) (g', ps')) (hdistinct : DistinctPlayers (g, ps))
    (playerId action : String) (amount : Int) (agg : Option Int) :
    transitionHandState (buildHandContext g ps) playerId action amount agg =
      transitionHandState (buildHandContext g' ps') playerId action amount agg := by
  have hround : g = { g' with
      roundId := g.roundId, roundNumber := g.roundNumber, stateVersion := g.stateVersion } :=
        h.round
  have htransition : ∀ player v, transitionOf (buildHandContext g ps) player playerId v agg =
      transitionOf (buildHandContext g' ps') player playerId v agg := by
    intro player v
    unfold transitionOf
    rw [h.nextToAct_eq hdistinct]
    rw [hround]
    rfl
  unfold transitionHandState
  rw [h.validateBet_eq hdistinct, h.getPlayer_eq hdistinct]
  simp only [htransition]

/-- The same transition leaves the same hand. -/
lemma SameHand.applied (h : SameHand (g, ps) (g', ps')) (hdistinct : DistinctPlayers (g, ps))
    (t : HandTransition) : SameHand (applyTransition g ps t) (applyTransition g' ps' t) := by
  have hround : g = { g' with
      roundId := g.roundId, roundNumber := g.roundNumber, stateVersion := g.stateVersion } :=
        h.round
  have hversion : g.version = g'.version := h.version
  refine ⟨updateFirst_perm hdistinct.playerIds h.players, ?_, ?_⟩
  · unfold applyTransition RoundMutation.apply
    rw [hround]
  · have hstate : (t.roundMutation.apply g).stateVersion =
        (t.roundMutation.apply g').stateVersion :=
      congrArg (· + 1) hversion
    change (t.roundMutation.apply g).version = (t.roundMutation.apply g').version
    unfold Round.version
    rw [hstate]

/-- A transition keeps the players distinct. -/
lemma DistinctPlayers.applied (h : DistinctPlayers (g, ps)) (t : HandTransition) :
    DistinctPlayers (applyTransition g ps t) :=
  ⟨nodup_map_updateFirst (f := t.playerMutation.apply) _ (fun _ => rfl) h.playerIds,
    nodup_map_updateFirst (f := t.playerMutation.apply) _ (fun _ => rfl) h.seatNumbers⟩

/-- The engine, applied to the same hand, answers alike and leaves the same hand. -/
theorem SameHand.acted (h : SameHand rows rows') (hdistinct : DistinctPlayers rows)
    (sa : ScriptedAction) :
    SameHand (engineAction rows sa).1 (engineAction rows' sa).1 ∧
      DistinctPlayers (engineAction rows sa).1 ∧
      (engineAction rows sa).2 = (engineAction rows' sa).2 := by
  obtain ⟨g, ps⟩ := rows
  obtain ⟨g', ps'⟩ := rows'
  have hagg : g.lastAggressorSeat = g'.lastAggressorSeat := by
    rw [show g.lastAggressorSeat = _ from congrArg Round.lastAggressorSeat h.round]
  have htransition := h.transition_eq hdistinct sa.playerId sa.action sa.amount
    g.lastAggressorSeat
  unfold engineAction applyAction
  simp only [Option.not_mem_none, false_and, exists_false, if_false, ← hagg, ← htransition]
  cases transitionHandState (buildHandContext g ps) sa.playerId sa.action sa.amount
    g.lastAggressorSeat with
  | error e => exact ⟨h, hdistinct, rfl⟩
  | ok t => exact ⟨h.applied hdistinct t, hdistinct.applied t, rfl⟩

/-! ## The script -/

/-- Every expectation is evaluated alike on the same hand. -/
lemma SameHand.evaluate_eq (h : SameHand rows rows') (hdistinct : DistinctPlayers rows)
    (exp : Expectation) (lastError : Option String) :
    evaluate exp rows.1 rows.2 lastError = evaluate exp rows'.1 rows'.2 lastError := by
  have hpot : rows.1.potAmount = rows'.1.potAmount := by rw [h.round]
  have hclosed : rows.1.isActionClosed = rows'.1.isActionClosed := by rw [h.round]
  have hplayer : ∀ pid, (rows.2.find? fun r => r.playerId = pid) =
      rows'.2.find? fun r => r.playerId = pid :=
    fun _ => find?_key_eq_of_perm hdistinct.playerIds h.players
  unfold evaluate
  simp only [hpot, hclosed, hplayer]

/-- A scenario has the same outcome on the same hand. -/
theorem SameHand.play_eq (h : SameHand rows rows') (hdistinct : DistinctPlayers rows)
    (scenario : HandScenario) : scenario.play engineAction rows =
      scenario.play engineAction rows' := by
  obtain ⟨⟨hsame, hplayed⟩, hlast⟩ := playScript_lockstep engineAction
    (R := fun rows rows' => SameHand rows rows' ∧ DistinctPlayers rows)
    (fun rows rows' sa ⟨h, hdistinct⟩ => by
      obtain ⟨hacted, hkept, hanswer⟩ := h.acted hdistinct sa
      exact ⟨⟨hacted, hkept⟩, hanswer⟩)
    ⟨h, hdistinct⟩ scenario.actions
  unfold HandScenario.play
  simp only [hlast, hsame.evaluate_eq hplayed, playScript_actionsApplied]

/-- The rows a scenario starts from are those of distinct players. -/
lemma HandScenario.SetUp.distinct {scenario : HandScenario} (hvalid : scenario.Valid)
    (hset : scenario.SetUp rows) : DistinctPlayers rows := by
  constructor
  · rw [hset.players, List.map_map]
    exact hvalid.playerIds
  · rw [hset.players, List.map_map]
    exact hvalid.seats

/-- **The verdict of a scenario is that of production.** From three players on, a scenario that is
run on the engine has the outcome its script and its expectations have on the round that
`start_round` creates for its players. -/
theorem scenario_verdict (scenario : HandScenario) (hvalid : scenario.Valid)
    (hthree : 3 ≤ scenario.players.length) (roundId : String) (ids : Uuids) :
    ∃ s ∈ scenario.productionSetup roundId,
      runScenario scenario engineAction =
        some (scenario.play engineAction (s.tables ids).handRows) := by
  obtain ⟨rows, hrows, hset⟩ := exists_setUp hvalid
  obtain ⟨s, hs, -, hproduced⟩ := exists_produced hvalid roundId
  refine ⟨s, hs, ?_⟩
  rw [runScenario, hrows, Option.map_some,
    (sameHand_setUp hvalid hthree hset hproduced ids).play_eq (hset.distinct hvalid)]

/-- The button folds and the small blind calls. -/
def sparseScript : HandScenario :=
  ((sparseTable.addAction "bob" "FOLD").addAction "carol" "CALL").expectPot 23

/-- The script has the verdict it has in production. -/
theorem scenario_verdict_threeHanded : ∃ s ∈ sparseScript.productionSetup "round",
    runScenario sparseScript engineAction =
      some (sparseScript.play engineAction (s.tables fun _ => "entry").handRows) :=
  scenario_verdict sparseScript (by decide) (by decide) "round" fun _ => "entry"

example : (runScenario sparseScript engineAction).map (·.passed) = some true := by
  decide

end PokerRoom
