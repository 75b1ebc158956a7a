import PokerRoom.Game.GameRun

/-!
# The events of the game service

What the commands of the game service write to the outbox, beside the rows that they change:
`build_event` and `add_outbox_event` in `game_command_service.py`, `action_helpers.py` and
`correction_command_service.py`.  The routing key of an event is its type.  A pause, a resumption
and a counted hand write nothing, and neither does a bet that is answered from its idempotency key.
-/

namespace PokerRoom

open Foundation

/-! ## Events -/

/-- Type of an event of a game. -/
inductive GameEventType
  | started | roundStarted | roundCompleted | streetAdvanced | blindsIncreased | correctionApplied
  | betPlaced | finished
deriving DecidableEq, Repr

/-- The word of a type. -/
def GameEventType.value : GameEventType → String
  | .started => "game.started"
  | .roundStarted => "game.round_started"
  | .roundCompleted => "game.round_completed"
  | .streetAdvanced => "game.street_advanced"
  | .blindsIncreased => "game.blinds_increased"
  | .correctionApplied => "game.correction_applied"
  | .betPlaced => "bet.placed"
  | .finished => "game.finished"

/-- An event of a game, with its data. -/
inductive GameEvent
  /-- A game was started. -/
  | started (gameId roomId : String) (dealerSeat smallBlindSeat bigBlindSeat blindLevel : Int)
  /-- A round was started. -/
  | roundStarted (gameId roomId roundId : String)
    (roundNumber dealerSeat smallBlindSeat bigBlindSeat smallBlindAmount bigBlindAmount
      anteAmount : Int)
  /-- A bet was placed. -/
  | betPlaced (betId roundId playerId : String) (action : BetAction) (amount : Int)
  /-- The street was advanced. -/
  | streetAdvanced (gameId roundId : String) (status : StreetAdvanceAction)
  /-- A round was settled. -/
  | roundCompleted (gameId roomId roundId : String) (potAmount : Int) (payouts : List PotPayout)
  /-- The blinds were raised. -/
  | blindsIncreased (gameId roomId : String)
    (blindLevel smallBlindAmount bigBlindAmount anteAmount : Int)
  /-- A round was corrected. -/
  | correctionApplied (gameId roundId entryId : String) (entryType : LedgerEntryType)
    (playerId : Option String) (amount : Option Int)
  /-- A game is over. -/
  | finished (gameId roomId : String) (status : GameStatus)
deriving DecidableEq, Repr

/-- Type of an event. -/
def GameEvent.eventType : GameEvent → GameEventType
  | .started _ _ _ _ _ _ => .started
  | .roundStarted _ _ _ _ _ _ _ _ _ _ => .roundStarted
  | .betPlaced _ _ _ _ _ => .betPlaced
  | .streetAdvanced _ _ _ => .streetAdvanced
  | .roundCompleted _ _ _ _ _ => .roundCompleted
  | .blindsIncreased _ _ _ _ _ _ => .blindsIncreased
  | .correctionApplied _ _ _ _ _ _ => .correctionApplied
  | .finished _ _ _ => .finished

/-- The round that the data of an event names. -/
def GameEvent.roundId : GameEvent → Option String
  | .roundStarted _ _ roundId _ _ _ _ _ _ _ => some roundId
  | .betPlaced _ roundId _ _ _ => some roundId
  | .streetAdvanced _ roundId _ => some roundId
  | .roundCompleted _ _ roundId _ _ => some roundId
  | .correctionApplied _ roundId _ _ _ _ => some roundId
  | .started _ _ _ _ _ _ | .blindsIncreased _ _ _ _ _ _ | .finished _ _ _ => none

/-! ## The commands -/

/-- What a start of a game writes. -/
def GameTables.startedEvent (g : GameTables) : GameEvent :=
  .started g.game.gameId g.game.roomId g.game.currentDealerSeat g.game.currentSmallBlindSeat
    g.game.currentBigBlindSeat 1

/-- What a start of a round writes. -/
def GameTables.roundStartedEvent (g : GameTables) (s : RoundSetup) : GameEvent :=
  .roundStarted g.game.gameId g.game.roomId s.roundId s.roundNumber s.dealerSeat s.smallBlindSeat
    s.bigBlindSeat s.smallBlind s.bigBlind s.ante

/-- What `record_bet_action` writes for a bet. -/
def Bet.placedEvent (bet : Bet) (roundId : String) : GameEvent :=
  .betPlaced bet.betId roundId bet.playerId bet.action bet.amount

/-- What a bet writes: nothing when it is answered from its idempotency key. -/
def PlaceBet.events (data : PlaceBet) (r : RoundTables) (ids : Uuids) : List GameEvent :=
  match data.existing r, placeBet r data ids with
  | none, .ok (bet, _) => [bet.placedEvent r.round.roundId]
  | _, _ => []

/-- The entry that an adjustment of a stack appends. -/
def AdjustStackRequest.entry (data : AdjustStackRequest) (ids : Uuids) : HandLedgerEntry :=
  { entryId := ids 0
    entryType := .stackAdjusted
    playerId := some data.playerId
    amount := some data.amount
    detail := reasonDetail data.reason
    originalEntryId := none
    dealerId := data.dealerId }

/-- The entry that reopening a hand appends. -/
def ReopenHandRequest.entry (data : ReopenHandRequest) (ids : Uuids) : HandLedgerEntry :=
  { entryId := ids 0
    entryType := .handReopened
    playerId := none
    amount := none
    detail := reasonDetail data.reason
    originalEntryId := none
    dealerId := data.dealerId }

/-- The entry that the correction of a payout appends. -/
def CorrectPayoutRequest.entry (data : CorrectPayoutRequest) (ids : Uuids) : HandLedgerEntry :=
  { entryId := ids 0
    entryType := .payoutCorrected
    playerId := some data.newPlayerId
    amount := some data.newAmount
    detail := some
      { oldPlayerId := some data.oldPlayerId
        oldAmount := some data.oldAmount
        reason := data.reason }
    originalEntryId := none
    dealerId := data.dealerId }

/-- What `_emit_correction_event` writes for an entry. -/
def HandLedgerEntry.correctionEvent (entry : HandLedgerEntry)
    (gameId roundId : String) : GameEvent :=
  .correctionApplied gameId roundId entry.entryId entry.entryType entry.playerId entry.amount

/-- What a command on a round writes, when it does not settle the round. -/
def RoundCommand.events (c : RoundCommand) (gameId : String) (r : RoundTables) : List GameEvent :=
  match c with
  | .betting (.placeBet data ids) => data.events r ids
  | .betting .advanceStreet => [.streetAdvanced gameId r.round.roundId r.streetEnd.action]
  | .reverseAction data ids =>
    ((r.ledger.find? fun e => e.entryId = data.originalEntryId).map fun original =>
      (reversalEntry original data ids).correctionEvent gameId r.round.roundId).toList
  | .adjustStack data ids => [(data.entry ids).correctionEvent gameId r.round.roundId]
  | .reopenHand data ids => [(data.entry ids).correctionEvent gameId r.round.roundId]
  | .correctPayout data ids => [(data.entry ids).correctionEvent gameId r.round.roundId]
  | .resolveHand _ _ | .declareWinner _ _ => []

/-- What a settlement of a round writes, the game being `game` afterwards. -/
def GameTables.settlementEvents (g : GameTables) (r : RoundTables) (data : ResolveHandRequest)
    (game : Game) : List GameEvent :=
  .roundCompleted g.game.gameId g.game.roomId r.round.roundId r.round.potAmount data.payouts ::
    if game.status = .finished then [.finished game.gameId game.roomId .finished] else []

/-- What an accepted command writes, in the game that it has found and the one that it has left. -/
def GameCommand.events (g : GameTables) (c : GameCommand) (g' : GameTables) : List GameEvent :=
  match c with
  | .startRound _ roundId _ =>
    (g.roundLevel.map fun level => g.roundStartedEvent (g.roundSetup level roundId)).toList
  | .round roundId c _ =>
    match g.rounds.find? fun r => r.round.roundId = roundId with
    | none => []
    | some r =>
      match c.settlement? r with
      | some (data, _) => g.settlementEvents r data g'.game
      | none => c.events g.game.gameId r
  | .advanceBlinds _ =>
    ((g.snapshot.blindLevel (g.game.currentBlindLevel + 1)).map fun level =>
      .blindsIncreased g.game.gameId g.game.roomId (g.game.currentBlindLevel + 1) level.smallBlind
        level.bigBlind (anteAmount g.snapshot level)).toList
  | .endGame _ => [.finished g.game.gameId g.game.roomId .finished]
  | .pauseTable | .resumeTable | .recordHandCompleted _ => []

/-- The recorded bet that answers a command, if it is a bet under a known idempotency key. -/
def GameCommand.existingBet (c : GameCommand) (g : GameTables) : Option Bet :=
  match c with
  | .round roundId (.betting (.placeBet data _)) _ =>
    (g.rounds.find? fun r => r.round.roundId = roundId).bind data.existing
  | _ => none

/-! ## Specification -/

variable {r r' : RoundTables} {data : PlaceBet} {ids : Uuids}

/-- What an accepted bet writes: nothing when it is answered from its idempotency key and changes
nothing, and one event about the bet that it records when it is applied. -/
lemma placeBet_events_cases (hnd : (r.players.map (·.playerId)).Nodup)
    (hstep : bettingMachine.step r (.placeBet data ids) = .ok r') :
    (data.events r ids = [] ∧ r' = r) ∨ ∃ p a v, BetApplied r data ids p a v r' ∧
      data.events r ids = [(recordBetAction data.playerId v.action v.amount data.idempotencyKey
        ids).1.placedEvent r.round.roundId] := by
  obtain ⟨⟨b, r''⟩, hplace, rfl⟩ := map_eq_ok_iff.mp hstep
  unfold PlaceBet.events
  rw [hplace]
  rcases placeBet_cases hnd hplace with ⟨hfound, rfl⟩ | ⟨p, a, v, happ, rfl⟩
  · rw [hfound]
    exact Or.inl ⟨rfl, rfl⟩
  · rw [happ.fresh]
    exact Or.inr ⟨p, a, v, happ, rfl⟩

/-- A bet under a known idempotency key writes nothing. -/
lemma PlaceBet.events_eq_nil (h : data.existing r ≠ none) : data.events r ids = [] := by
  obtain ⟨b, hb⟩ := Option.ne_none_iff_exists'.mp h
  rw [PlaceBet.events, hb]

/-- Neither does the command that places it. -/
lemma events_of_existingBet {g g' : GameTables} {c : GameCommand} (h : c.existingBet g ≠ none) :
    c.events g g' = [] := by
  cases c with
  | round roundId c clock =>
    match c with
    | .betting (.placeBet data ids) =>
      obtain ⟨b, hb⟩ := Option.ne_none_iff_exists'.mp h
      obtain ⟨r, hfind, hr⟩ := Option.bind_eq_some_iff.mp hb
      simp only [GameCommand.events, hfind, RoundCommand.settlement?, RoundCommand.events]
      exact PlaceBet.events_eq_nil (by simp [hr])
    | .betting .advanceStreet | .resolveHand _ _ | .declareWinner _ _ | .reverseAction _ _
    | .adjustStack _ _ | .reopenHand _ _ | .correctPayout _ _ => exact absurd rfl h
  | startRound | advanceBlinds | pauseTable | resumeTable | recordHandCompleted | endGame =>
    exact absurd rfl h

/-- What an accepted start of a round writes. -/
lemma startRound_events {g g' : GameTables} {level : BlindLevelConfig} {data : StartRoundRequest}
    {roundId : String} (hlevel : g.roundLevel = some level) :
    (GameCommand.startRound data roundId ids).events g g' =
      [g.roundStartedEvent (g.roundSetup level roundId)] := by
  rw [GameCommand.events, hlevel]
  rfl

/-- What an accepted command on a round writes, when it does not settle the round. -/
lemma acted_events {g g' : GameTables} {c : RoundCommand} {clock : Clock} {roundId : String}
    (hfind : (g.rounds.find? fun r => r.round.roundId = roundId) = some r)
    (hc : c.settlement? r = none) :
    (GameCommand.round roundId c clock).events g g' = c.events g.game.gameId r := by
  simp only [GameCommand.events, hfind, hc]

/-- What an accepted settlement of a round writes. -/
lemma settled_events {g g' : GameTables} {c : RoundCommand} {clock : Clock} {roundId : String}
    {request : ResolveHandRequest}
    (hc : (GameCommand.round roundId c clock).settlement? g = some (r, request, ids)) :
    (GameCommand.round roundId c clock).events g g' = g.settlementEvents r request g'.game := by
  obtain ⟨q, hfind, hq⟩ := Option.bind_eq_some_iff.mp hc
  obtain ⟨⟨request', ids'⟩, hrequest, heq⟩ := Option.map_eq_some_iff.mp hq
  simp only [Prod.mk.injEq] at heq
  obtain ⟨rfl, rfl, rfl⟩ := heq
  simp only [GameCommand.events, hfind, hrequest]

end PokerRoom
