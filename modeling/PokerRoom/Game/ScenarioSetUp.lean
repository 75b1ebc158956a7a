import PokerRoom.Domain.ScenarioRunner
import PokerRoom.Game.GameRun
import PokerRoom.Hand.Chips

/-!
# Scenarios and production

The scenario runner finds the blinds and the first player to act by a search of its own, where
production takes the positions of `assign_positions` and has `start_round` post the blinds and give
the turn.  `scenario_set_up_iff` says when both come to the same hand: exactly when there are three
players.  Heads-up production has the button post the small blind, and the runner has it post the
big one (`headsUp_blinds_swapped`).

`production_of_startGame` and `first_round_agrees` connect the production set-up to the commands: it
is what `start_round` creates the first round of a game from.
-/

namespace PokerRoom

open Foundation

/-! ## Definitions -/

/-- A player of a scenario as he is dealt in. -/
def PlayerSetup.seatPlayer (ps : PlayerSetup) : SeatPlayer := ⟨ps.playerId, ps.seat, ps.stack⟩

/-- What the first round with the blinds of a scenario is created from, with the given players and
positions. -/
def HandScenario.roundSetup (scenario : HandScenario) (roundId : String) (players : List SeatPlayer)
    (positions : Positions) : RoundSetup :=
  { roundId := roundId
    roundNumber := 1
    dealerSeat := positions.dealerSeat
    smallBlindSeat := positions.smallBlindSeat
    bigBlindSeat := positions.bigBlindSeat
    smallBlind := scenario.blinds.small
    bigBlind := scenario.blinds.big
    ante := scenario.blinds.ante
    players := players }

/-- What production creates the first round of a scenario from: the players by seat, and the
positions `assign_positions` gives them. -/
def HandScenario.productionSetup (scenario : HandScenario) (roundId : String) : Option RoundSetup :=
  let players := bySeat (·.seatNumber) (scenario.players.map (·.seatPlayer))
  (assignPositions (players.map (·.seatNumber)) scenario.dealerSeat).map
    (scenario.roundSetup roundId players)

/-- The rows a scenario starts from agree with those of a new round. -/
structure SetUpAgrees (rows : HandRows) (r : RoundTables) : Prop where
  /-- The small blind. -/
  smallBlindSeat : rows.1.smallBlindSeat = r.round.smallBlindSeat
  /-- The big blind. -/
  bigBlindSeat : rows.1.bigBlindSeat = r.round.bigBlindSeat
  /-- The players, with their stacks and commitments. -/
  players : rows.2.Perm r.players
  /-- The pot. -/
  potAmount : rows.1.potAmount = r.round.potAmount
  /-- The bet to match. -/
  currentHighestBet : rows.1.currentHighestBet = r.round.currentHighestBet
  /-- The first player to act. -/
  actingPlayerId : rows.1.actingPlayerId = r.round.actingPlayerId

/-- A scenario starts as production does. -/
def HandScenario.StartsAsInProduction (scenario : HandScenario) (roundId : String)
    (ids : Uuids) : Prop :=
  ∃ rows ∈ scenario.setUp, ∃ s ∈ scenario.productionSetup roundId, SetUpAgrees rows (s.tables ids)

/-- Two hands that differ only in the names and the version of their rounds and in the order of
their players. -/
structure SameHand (rows rows' : HandRows) : Prop where
  /-- The players. -/
  players : rows.2.Perm rows'.2
  /-- The round. -/
  round : rows.1 =
    { rows'.1 with
      roundId := rows.1.roundId
      roundNumber := rows.1.roundNumber
      stateVersion := rows.1.stateVersion }
  /-- The version the engine reads. -/
  version : rows.1.version = rows'.1.version

/-- The rows of the hand of a stored round. -/
def RoundTables.handRows (r : RoundTables) : HandRows := (r.round, r.players)

variable {scenario : HandScenario} {roundId : String} {rows rows' : HandRows} {s : RoundSetup}

/-- Hands that are the same agree. -/
lemma SameHand.agrees {r : RoundTables} (h : SameHand rows r.handRows) : SetUpAgrees rows r := by
  constructor
  · rw [h.round]; rfl
  · rw [h.round]; rfl
  · exact h.players
  · rw [h.round]; rfl
  · rw [h.round]; rfl
  · rw [h.round]; rfl

/-! ## The production set-up -/

/-- The production set-up of a scenario: the big blind and the first player to act follow the small
blind clockwise, and the small blind follows the button unless there are two players. -/
structure HandScenario.Produced (scenario : HandScenario) (s : RoundSetup) : Prop where
  /-- The small blind is on the button heads-up, and left of it otherwise. -/
  smallBlind : if scenario.players.length = 2 then s.smallBlindSeat = scenario.dealerSeat
    else IsNext (scenario.players.map (·.seat)) scenario.dealerSeat s.smallBlindSeat
  /-- The big blind is left of the small blind. -/
  bigBlind : IsNext (scenario.players.map (·.seat)) s.smallBlindSeat s.bigBlindSeat
  /-- The player left of the big blind has the turn. -/
  first : ∃ ps ∈ scenario.players,
    IsNext (scenario.players.map (·.seat)) s.bigBlindSeat ps.seat ∧
      s.firstActingPlayerId = some ps.playerId
  /-- The other values. -/
  setup : s = scenario.roundSetup s.roundId
    (bySeat (·.seatNumber) (scenario.players.map (·.seatPlayer)))
    ⟨scenario.dealerSeat, s.smallBlindSeat, s.bigBlindSeat⟩

/-- In a round of players by seat the first to act is the next one after the big blind. -/
lemma exists_firstActing (hasc : s.players.Pairwise fun p q => p.seatNumber < q.seatNumber)
    (hbig : s.bigBlindSeat ∈ s.players.map (·.seatNumber)) :
    ∃ p ∈ s.players, IsNext (s.players.map (·.seatNumber)) s.bigBlindSeat p.seatNumber ∧
      s.firstActingPlayerId = some p.playerId := by
  have hseats : (s.players.map (·.seatNumber)).Pairwise (· < ·) := List.pairwise_map.mpr hasc
  obtain ⟨seat, hseat, hnext⟩ := exists_isNext hseats hbig
  obtain ⟨p, hp, rfl⟩ := List.mem_map.mp hnext.1
  have hfirst : s.firstToActSeat = some p.seatNumber := by
    simp only [RoundSetup.firstToActSeat, if_pos hbig]
    exact hseat
  exact ⟨p, hp, hnext, RoundSetup.firstActingPlayerId_eq (hseats.imp ne_of_lt) hp hfirst⟩

/-- The specification of the production set-up. -/
theorem exists_produced (hvalid : scenario.Valid) (roundId : String) :
    ∃ s, scenario.productionSetup roundId = some s ∧ s.roundId = roundId ∧ scenario.Produced s := by
  set players := bySeat (·.seatNumber) (scenario.players.map (·.seatPlayer)) with hplayers
  have hkeys : ((scenario.players.map (·.seatPlayer)).map (·.seatNumber)) =
      scenario.players.map (·.seat) := by
    rw [List.map_map]
    rfl
  have hperm : (players.map (·.seatNumber)).Perm (scenario.players.map (·.seat)) :=
    hkeys ▸ bySeat_perm.map _
  have hasc : players.Pairwise fun p q => p.seatNumber < q.seatNumber :=
    bySeat_pairwise (hkeys ▸ hvalid.seats)
  have hdealer : scenario.dealerSeat ∈ players.map (·.seatNumber) := hperm.mem_iff.mpr hvalid.dealer
  have hlen : (players.map (·.seatNumber)).length = scenario.players.length := by
    rw [hperm.length_eq, List.length_map]
  have hnext : ∀ {cur x}, IsNext (players.map (·.seatNumber)) cur x →
      IsNext (scenario.players.map (·.seat)) cur x :=
    (isNext_congr fun _ => hperm.mem_iff).mp
  obtain ⟨positions, hpositions⟩ := Option.isSome_iff_exists.mp
    (positions_isSome (List.ne_nil_of_mem hdealer) scenario.dealerSeat).1
  have hbutton := assignPositions_dealer hdealer hpositions
  obtain ⟨hsmall, hbig⟩ := positionsAt_blinds (List.pairwise_map.mpr hasc) hpositions
  rw [hlen, hbutton] at hsmall
  obtain ⟨p, hp, hfirst, hacting⟩ :=
    exists_firstActing (s := scenario.roundSetup roundId players positions) hasc hbig.1
  obtain ⟨ps, hps, rfl⟩ := List.mem_map.mp (mem_bySeat.mp hp)
  refine ⟨scenario.roundSetup roundId players positions, ?_, rfl, ?_, hnext hbig,
    ⟨ps, hps, hnext hfirst, hacting⟩, ?_⟩
  · simp only [HandScenario.productionSetup, ← hplayers, hpositions, Option.map_some]
  · split
    · next htwo => rwa [if_pos htwo] at hsmall
    · next htwo =>
      rw [if_neg htwo] at hsmall
      exact hnext hsmall
  · simp only [← hbutton]
    rfl

/-! ## Scenario against production -/

/-- The rows production starts from are those of the scenario with the same blinds, by seat. -/
lemma HandScenario.Produced.players_perm (h : scenario.Produced s) (ids : Uuids) :
    (scenario.players.map (scenario.postedRow s.smallBlindSeat s.bigBlindSeat)).Perm
      (s.tables ids).players := by
  have hplayers : s.players = bySeat (·.seatNumber) (scenario.players.map (·.seatPlayer)) :=
    congrArg RoundSetup.players h.setup
  have hrow : ∀ ps, scenario.postedRow s.smallBlindSeat s.bigBlindSeat ps =
      s.postedRow ps.seatPlayer := by
    intro ps
    rw [h.setup]
    rfl
  have hperm : ((scenario.players.map (·.seatPlayer)).map s.postedRow).Perm
      (s.players.map s.postedRow) := by
    rw [hplayers]
    exact bySeat_perm.symm.map _
  rw [tables_players]
  rw [List.map_map] at hperm
  exact (List.map_congr_left fun ps _ => hrow ps) ▸ hperm

/-- The pot and the bet to match of a new round are the sum and the maximum of the commitments. -/
lemma tables_pot (s : RoundSetup) (ids : Uuids) :
    (s.tables ids).round.potAmount = ((s.tables ids).players.map (·.committedThisStreet)).sum ∧
      (s.tables ids).round.currentHighestBet =
        maxOrZero ((s.tables ids).players.map (·.committedThisStreet)) := by
  simp only [RoundSetup.tables, RoundSetup.posting, postBlindsAndAntes, List.map_map]
  exact ⟨rfl, rfl⟩

/-- Three-handed and more, a scenario and production set up the same hand. -/
theorem sameHand_setUp (hvalid : scenario.Valid) (hthree : 3 ≤ scenario.players.length)
    (hset : scenario.SetUp rows) (hproduced : scenario.Produced s) (ids : Uuids) :
    SameHand rows (s.tables ids).handRows := by
  have hsmallNext := hproduced.smallBlind
  rw [if_neg (by omega)] at hsmallNext
  have hsmall : rows.1.smallBlindSeat = s.smallBlindSeat := hset.smallBlind.unique hsmallNext
  have hbig : rows.1.bigBlindSeat = s.bigBlindSeat :=
    (hsmall ▸ hset.bigBlind).unique hproduced.bigBlind
  have hacting : rows.1.actingPlayerId = s.firstActingPlayerId := by
    obtain ⟨ps, hps, hfirst, hturn⟩ := hset.first
    obtain ⟨ps', hps', hfirst', hturn'⟩ := hproduced.first
    have hseat : ps.seat = ps'.seat := (hbig ▸ hfirst).unique hfirst'
    rw [hturn, hturn', eq_of_key_eq hvalid.seats hps hps' hseat]
  have hplayers : rows.2.Perm (s.tables ids).players := by
    rw [hset.players, hsmall, hbig]
    exact hproduced.players_perm ids
  obtain ⟨hpot, hhighest⟩ := tables_pot s ids
  have hround := hset.round
  rw [(hplayers.map _).sum_eq, maxOrZero_eq_of_perm (hplayers.map _), ← hpot, ← hhighest,
    hsmall, hbig,
    hacting] at hround
  refine ⟨hplayers, ?_, ?_⟩
  · rw [hround, hproduced.setup]
    rfl
  · rw [hround]
    rfl

/-- Heads-up the runner has the blinds the other way round: the button posts the big blind. -/
theorem headsUp_blinds_swapped (hvalid : scenario.Valid) (htwo : scenario.players.length = 2)
    (hset : scenario.SetUp rows) (hproduced : scenario.Produced s) :
    rows.1.smallBlindSeat = s.bigBlindSeat ∧ rows.1.bigBlindSeat = s.smallBlindSeat := by
  have hbutton := hproduced.smallBlind
  rw [if_pos htwo] at hbutton
  constructor
  · exact hset.smallBlind.unique (hbutton ▸ hproduced.bigBlind)
  · rw [hbutton]
    exact hset.smallBlind.back hvalid.seats (by rw [List.length_map, htwo]) hvalid.dealer
      hset.bigBlind

/-- The blinds of the production set-up are posted by different players. -/
lemma HandScenario.Produced.blinds_ne (hvalid : scenario.Valid) (hproduced : scenario.Produced s) :
    s.smallBlindSeat ≠ s.bigBlindSeat := by
  have htwo : 2 ≤ (scenario.players.map (·.seat)).length := by
    rw [List.length_map]
    exact hvalid.two_le
  obtain ⟨seat, hseat, hne⟩ := exists_mem_ne hvalid.seats htwo s.smallBlindSeat
  exact (hproduced.bigBlind.ne_start hseat hne).symm

/-! ## Production as commands -/

/-- The room seats the players of the scenario: these take part, with their chips, and its first
button is on the same seat. -/
structure HandScenario.SeatedIn (scenario : HandScenario) (roomConfig : RoomConfig) : Prop where
  /-- The players. -/
  players : (roomConfig.activePlayers.map (·.seatPlayer)).Perm (scenario.players.map (·.seatPlayer))
  /-- The button. -/
  dealer : roomConfig.startingDealerSeat = scenario.dealerSeat

/-- The blinds a game posts on a level. -/
def GameTables.blindsAt (g : GameTables) (level : BlindLevelConfig) : BlindSetup :=
  ⟨level.smallBlind, level.bigBlind, anteAmount g.snapshot level⟩

/-- In a room that seats the players of a scenario, the production set-up is what `start_game` and
`start_round` create the first round from. -/
theorem production_of_startGame {existing : Option Game} {roomConfig : RoomConfig}
    {activated : Except Rejection Unit} {gameId : String} {now : Int} {g : GameTables}
    (hseated : scenario.SeatedIn roomConfig)
    (hstart : startGame existing roomConfig activated gameId now = .ok g) {level : BlindLevelConfig}
    (hblinds : g.blindsAt level = scenario.blinds) (roundId : String) :
    scenario.productionSetup roundId = some (g.roundSetup level roundId) := by
  have hnew := gameStarted_of_startGame hstart
  have hnd : roomConfig.activeSeats.Nodup := by
    have hsnapshot := hnew.constraints.snapshot.activeSeats_nodup
    rw [hnew.snapshot] at hsnapshot
    exact activeSeats_saveRoomSnapshot_perm.nodup_iff.mpr hsnapshot
  have hasc : (roomConfig.activePlayers.map (·.seatPlayer)).Pairwise
      fun p q => p.seatNumber < q.seatNumber :=
    List.pairwise_map.mpr (bySeat_pairwise ((bySeat_perm.map _).nodup_iff.mp hnd))
  have hplayers : roomConfig.activePlayers.map (·.seatPlayer) =
      bySeat (·.seatNumber) (scenario.players.map (·.seatPlayer)) := eq_bySeat hasc hseated.players
  have hseats : (roomConfig.activePlayers.map (·.seatPlayer)).map (·.seatNumber) =
      roomConfig.activeSeats := by
    rw [List.map_map]
    rfl
  have hpositions := hnew.positions
  rw [hseated.dealer] at hpositions
  simp only [HandScenario.productionSetup, ← hplayers, hseats, hpositions, Option.map_some,
    HandScenario.roundSetup, ← hblinds, GameTables.blindsAt, GameTables.roundSetup,
      Game.roundSetup, hnew.rounds,
    hnew.snapshot, activePlayers_saveRoomSnapshot hnd]
  rfl

/-- The first round of a game in a room that seats at least three players of a scenario, on its
blinds, is the hand the scenario sets up. -/
theorem first_round_agrees {existing : Option Game} {roomConfig : RoomConfig}
    {activated : Except Rejection Unit} {gameId : String} {now : Int} {g g' : GameTables}
    (hvalid : scenario.Valid) (hthree : 3 ≤ scenario.players.length)
    (hseated : scenario.SeatedIn roomConfig)
    (hstart : startGame existing roomConfig activated gameId now = .ok g)
    (hblinds : g.roundLevel.map g.blindsAt = some scenario.blinds) {data : StartRoundRequest}
    {roundId : String} {ids : Uuids} (hround : g.startRound data roundId ids = .ok g') :
    ∃ rows ∈ scenario.setUp, ∃ r, g'.rounds = [r] ∧ SameHand rows r.handRows := by
  obtain ⟨rows, hrows, hset⟩ := exists_setUp hvalid
  obtain ⟨s, hs, -, hproduced⟩ := exists_produced hvalid roundId
  cases (startRound_cases hround).1 with
  | @started _ _ _ level r hstatus hnone hfind hdeal =>
    rw [hfind, Option.map_some] at hblinds
    have hproduction := production_of_startGame hseated hstart (Option.some.inj hblinds) roundId
    obtain rfl := Option.some.inj (hs.symm.trans hproduction)
    obtain ⟨-, -, rfl⟩ := createRound_eq_ok_iff.mp hdeal
    refine ⟨rows, hrows, _, ?_, sameHand_setUp hvalid hthree hset hproduced ids⟩
    simp only [(gameStarted_of_startGame hstart).rounds, List.nil_append]
  | administered hc => exact absurd hc id

/-- **The scenario runner starts as production does, exactly when.** At every table of at least two
players with chips, listed in any order on any distinct seats, with the button on one of these and
any blinds and ante, the rows `run_scenario` sets up before its first action agree with those of the
round that `start_round` creates for the players by seat, on the positions of `assign_positions`,
exactly when there are three players. -/
theorem scenario_set_up_iff (scenario : HandScenario) (hvalid : scenario.Valid) (roundId : String)
    (ids : Uuids) : scenario.StartsAsInProduction roundId ids ↔ 3 ≤ scenario.players.length := by
  obtain ⟨rows, hrows, hset⟩ := exists_setUp hvalid
  obtain ⟨s, hs, -, hproduced⟩ := exists_produced hvalid roundId
  constructor
  · rintro ⟨_, hrows', _, hs', hagrees⟩
    obtain rfl := Option.some.inj (hrows.symm.trans hrows')
    obtain rfl := Option.some.inj (hs.symm.trans hs')
    by_contra hfew
    have htwo : scenario.players.length = 2 := by have := hvalid.two_le; omega
    obtain ⟨hsmall, -⟩ := headsUp_blinds_swapped hvalid htwo hset hproduced
    exact hproduced.blinds_ne hvalid (hagrees.smallBlindSeat.symm.trans hsmall)
  · intro hthree
    exact ⟨rows, hrows, s, hs, (sameHand_setUp hvalid hthree hset hproduced ids).agrees⟩

/-- Three players on sparse seats, listed out of order. -/
def sparseTable : HandScenario :=
  { name := "three-handed"
    players := [⟨"carol", 9, 60⟩, ⟨"alice", 2, 100⟩, ⟨"bob", 5, 80⟩]
    blinds := { small := 5, big := 10, ante := 1 }
    dealerSeat := 5 }

/-- Three-handed the runner starts as production does. -/
theorem scenario_set_up_iff_threeHanded :
    sparseTable.StartsAsInProduction "round" fun _ => "entry" :=
  (scenario_set_up_iff sparseTable (by decide) "round" fun _ => "entry").mpr (by decide)

/-- Two players with the button on the first seat. -/
def headsUpScenario : HandScenario :=
  { name := "heads-up"
    players := [⟨"p1", 1, 1000⟩, ⟨"p2", 2, 1000⟩]
    blinds := { small := 10, big := 20 }
    dealerSeat := 1 }

/-- Heads-up the runner has the player off the button post the small blind. -/
theorem headsUp_starts_otherwise :
    ¬ ∀ scenario : HandScenario, scenario.Valid → ∀ (roundId : String) (ids : Uuids),
      scenario.StartsAsInProduction roundId ids := by
  intro h
  obtain ⟨rows, hrows, s, hs, hagrees⟩ := h headsUpScenario (by decide) "round" fun _ => "entry"
  have hrunner : headsUpScenario.setUp.map (·.1.smallBlindSeat) = some 2 := by decide
  have hproduction : (headsUpScenario.productionSetup "round").map (·.smallBlindSeat) = some 1 := by
    decide
  rw [hrows, Option.map_some] at hrunner
  rw [hs, Option.map_some] at hproduction
  have hseat : s.smallBlindSeat = 2 := hagrees.smallBlindSeat.symm.trans (Option.some.inj hrunner)
  rw [Option.some.inj hproduction] at hseat
  exact absurd hseat (by decide)

end PokerRoom
