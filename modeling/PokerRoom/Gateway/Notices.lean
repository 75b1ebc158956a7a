import PokerRoom.Application.GameQueries
import PokerRoom.Gateway.TableStateFanout
import PokerRoom.Game.ReadModel

/-!
# Notices of table states

The gateway does not watch the tables of the game service: it fetches the table state of a round
when an event names the round, from the types of events that its queue is bound to.
`table_state_noticed` says that this is enough: between two moments at which the table state of a
round differs, the game service has written an event for which the gateway starts a broadcast to the
subscribers of the round.
-/

namespace PokerRoom

open Foundation

/-! ## Definitions -/

/-- The routing keys to which the gateway binds its queue by default. -/
def tableStateEventRoutingKeys : List String :=
  ["bet.placed", "game.round_started", "game.round_completed", "game.street_advanced",
    "game.correction_applied"]

/-- An event of a game as the gateway consumes it. -/
def GameEvent.consumed (e : GameEvent) : ConsumedEvent where
  eventType := some e.eventType.value
  data := some ⟨e.roundId⟩

/-- The table state of a round, if the game has the round. -/
def GameTables.tableStateOf (g : GameTables) (roundId : String) : Option TableStateResponse :=
  (g.rounds.find? fun r => r.round.roundId = roundId).map getTableState

/-- The event reaches the gateway, and starts a broadcast of the round to its subscribers, if there
are any. -/
structure GameEvent.Notices (e : GameEvent) (roundId : String) : Prop where
  /-- The queue of the gateway is bound to its type. -/
  bound : e.eventType.value ∈ tableStateEventRoutingKeys
  /-- It starts a broadcast. -/
  handled : ∀ (s : GatewaySystem) (id : ℕ), id ∉ s.started → s.subscribers roundId ≠ [] →
    gatewayMachine.step s (.handleEvent id e.consumed) =
      .ok (s.start id roundId (some e.eventType.value) none)

variable {g g' : GameTables} {r r' : RoundTables} {e : GameEvent} {roundId : String}

/-! ## Events that name a round -/

/-- The queue of the gateway is bound to the types of the events that name a round. -/
lemma mem_routingKeys_iff : e.eventType.value ∈ tableStateEventRoutingKeys ↔ e.roundId ≠ none := by
  cases e <;> simp [tableStateEventRoutingKeys, GameEvent.eventType, GameEventType.value,
    GameEvent.roundId]

/-- An event that names a round is a notice of it. -/
lemma GameEvent.notices (hid : e.roundId = some roundId) (hne : roundId ≠ "") :
    e.Notices roundId where
  bound := mem_routingKeys_iff.mpr (by simp [hid])
  handled s id hnew hsubscribers := by
    have hround : extractRoundId e.consumed = some roundId := by
      simp [extractRoundId, GameEvent.consumed, hid, hne]
    simp only [gatewayMachine, hround, found, require_of (And.intro hnew hsubscribers),
      bind, Except.bind]
    rfl

/-! ## Commands -/

/-- Replacing the rows of a round changes no other table state. -/
lemma roundId_of_tableState_ne (hid : r'.round.roundId = r.round.roundId)
    (hne : (g.putRound r').tableStateOf roundId ≠ g.tableStateOf roundId) :
    roundId = r.round.roundId := by
  by_contra hother
  refine hne (congrArg (Option.map getTableState) ?_)
  exact find?_updateFirst_of_ne (fun _ => rfl) (hid ▸ hother)

/-- A command that changes the table state of a round writes an event that names the round. -/
lemma exists_event_of_tableState_ne (hstored : Stored g) {c : GameCommand}
    (hok : gameMachine.step g c = .ok g') (hne : g'.tableStateOf roundId ≠ g.tableStateOf roundId) :
    ∃ e ∈ c.events g g', e.roundId = some roundId := by
  obtain ⟨hstep, -⟩ := game_step_cases hok
  cases hstep with
  | @started data newId ids level r hstatus hnone hlevel hdeal =>
    obtain ⟨-, -, rfl⟩ := createRound_eq_ok_iff.mp hdeal
    rw [startRound_events hlevel]
    refine ⟨_, List.mem_cons_self, ?_⟩
    -- only the new round has another table state
    by_contra hother
    refine hne (congrArg (Option.map getTableState) ?_)
    have hnew : ¬ newId = roundId := fun h => hother (congrArg some h)
    simp [List.find?_append, RoundSetup.tables, GameTables.roundSetup, Game.roundSetup, hnew]
  | @acted roundId' c clock r r' hfind hc hstep =>
    obtain ⟨hr, -⟩ := find?_roundId hfind
    have hround := round_step_cases (hstored.2 r hr).playerIds hstep
    obtain rfl := roundId_of_tableState_ne hround.roundId_eq hne
    rw [acted_events hfind hc]
    rcases acted_cases (hstored.2 r hr).playerIds hc hstep with ⟨-, rfl⟩ | ⟨e, hone, hon, -⟩
    · rw [putRound_self hstored.1.roundIds hr] at hne
      exact absurd rfl hne
    · exact ⟨e, by rw [hone]; exact List.mem_cons_self, hon.1⟩
  | @settled roundId' c clock r r' data ids hc hset =>
    obtain rfl := roundId_of_tableState_ne hset.round_eq.1 hne
    rw [settled_events hc]
    exact ⟨_, List.mem_cons_self, rfl⟩
  | administered hc hstatus => exact absurd rfl hne

/-! ## Every run -/

/-- **No table state changes without a notice.** When the table state of a round is not the same at
two moments of a run of commands on a game, the game service has written an event in between to
which the gateway is bound, and for which it starts a broadcast of the round to its subscribers. -/
theorem table_state_noticed {existing : Option Game} {roomConfig : RoomConfig}
    {activated : Except Rejection Unit} {gameId : String} {now : Int} {g₀ : GameTables}
    (hstart : startGame existing roomConfig activated gameId now = .ok g₀)
    (cs ds : List GameCommand) (hid : roundId ≠ "")
    (hne : (gameMachine.run g₀ (cs ++ ds)).tableStateOf roundId ≠
      (gameMachine.run g₀ cs).tableStateOf roundId) :
    ∃ before after e, g₀.eventsOf (cs ++ ds) = g₀.eventsOf cs ++ before ++ e :: after ∧
      e.Notices roundId := by
  have hstored : Stored (gameMachine.run g₀ cs) :=
    Machine.run_invariant (I := Stored) (fun _ _ _ h hok => h.of_ok hok)
      (stored_of_startGame hstart).1 cs
  rw [Machine.run_append] at hne
  obtain ⟨e, he, hround⟩ := Machine.exists_event_of_ne (I := Stored)
    (P := fun e : GameEvent => e.roundId = some roundId)
    (fun _ _ _ h hok => h.of_ok hok) (fun _ _ _ h hok hne =>
      exists_event_of_tableState_ne h hok hne)
    hstored hne
  obtain ⟨before, after, hsplit⟩ := List.append_of_mem he
  refine ⟨before, after, e, ?_, GameEvent.notices hround hid⟩
  rw [GameTables.eventsOf, Machine.events_append, hsplit, GameTables.eventsOf]
  simp only [List.cons_append, List.append_assoc]

/-- The hand of a game is noticed when it is dealt. -/
theorem table_state_noticed_headsUp :
    ∃ before after e, headsUpGame.eventsOf (foldedGame foldedHandPayout) =
      headsUpGame.eventsOf [] ++ before ++ e :: after ∧ e.Notices "round" :=
  table_state_noticed
    (show startGame none headsUpRoom.toRoomConfig (.ok ()) "game" 0 = .ok headsUpGame by decide) []
    (foldedGame foldedHandPayout) (by decide) (by decide)

end PokerRoom
