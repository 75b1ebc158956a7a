import PokerRoom.Foundation.Projection
import PokerRoom.Application.GameEvents
import PokerRoom.Game.ActiveRound

/-!
# What the events of a game tell

A consumer of the events of a game keeps a view of it: which rounds were started and with what
settings, their streets and statuses, their bets, payouts and corrections, and whether the game is
over.  `events_tell_game` says that after every run of commands this view is what the tables hold:
no command changes any of this without an event, and no event tells of something that was not
written.
-/

namespace PokerRoom

open Foundation

/-! ## The view -/

/-- What the events tell of a round. -/
@[ext]
structure RoundView where
  /-- Identifier of the round. -/
  roundId : String
  /-- Number of the round within its game. -/
  roundNumber : Int
  /-- Seat of the button. -/
  dealerSeat : Int
  /-- Seat that posts the small blind. -/
  smallBlindSeat : Int
  /-- Seat that posts the big blind. -/
  bigBlindSeat : Int
  /-- The small blind. -/
  smallBlindAmount : Int
  /-- The big blind. -/
  bigBlindAmount : Int
  /-- The ante. -/
  anteAmount : Int
  /-- Status of the round. -/
  status : RoundStatus
  /-- The current street. -/
  street : Street
  /-- Bets: identifier, player, action and amount. -/
  bets : List (String × String × BetAction × Int)
  /-- Payouts. -/
  payouts : List RoundPayout
  /-- Corrections: entry, kind, player and amount. -/
  corrections : List (String × LedgerEntryType × Option String × Option Int)

/-- What the events tell of a game. -/
structure GameView where
  /-- Identifier of the game. -/
  gameId : String
  /-- The room of the game. -/
  roomId : String
  /-- The game is over. -/
  isFinished : Bool
  /-- The rounds, in the order in which they were started. -/
  rounds : List RoundView

/-- What an event of a round adds to the view of it. -/
def RoundView.apply (v : RoundView) : GameEvent → RoundView
  | .betPlaced betId _ playerId action amount =>
    { v with bets := v.bets ++ [(betId, playerId, action, amount)] }
  | .streetAdvanced _ _ status =>
    { v with
      street := match status with
        | .settleHand => v.street
        | .showdown => .showdown
        | .nextStreet => (nextStreet v.street).getD v.street }
  | .roundCompleted _ _ _ _ payouts =>
    { v with
      status := .completed
      street := .showdown
      payouts := v.payouts ++ payouts.flatMap (·.awards) }
  | .correctionApplied _ _ entryId entryType playerId amount =>
    { v with
      status := if entryType = .handReopened then .active else v.status
      corrections := v.corrections ++ [(entryId, entryType, playerId, amount)] }
  | .started _ _ _ _ _ _ | .roundStarted _ _ _ _ _ _ _ _ _ _ | .blindsIncreased _ _ _ _ _ _
  | .finished _ _ _ => v

/-- What an event adds to the view of the game. -/
def GameView.apply (v : GameView) (e : GameEvent) : GameView :=
  match e with
  | .started gameId roomId _ _ _ _ => ⟨gameId, roomId, false, []⟩
  | .roundStarted _ _ roundId roundNumber dealerSeat smallBlindSeat bigBlindSeat smallBlindAmount
      bigBlindAmount anteAmount =>
    { v with rounds := v.rounds ++ [⟨roundId, roundNumber, dealerSeat, smallBlindSeat, bigBlindSeat,
        smallBlindAmount, bigBlindAmount, anteAmount, .active, .preFlop, [], [], []⟩] }
  | .betPlaced _ roundId _ _ _ | .streetAdvanced _ roundId _ | .roundCompleted _ _ roundId _ _
  | .correctionApplied _ roundId _ _ _ _ =>
    { v with rounds := updateFirst (·.roundId) roundId (·.apply e) v.rounds }
  | .blindsIncreased _ _ _ _ _ _ => v
  | .finished _ _ _ => { v with isFinished := true }

/-- What the tables hold of a round. -/
def RoundTables.view (r : RoundTables) : RoundView where
  roundId := r.round.roundId
  roundNumber := r.round.roundNumber
  dealerSeat := r.round.dealerSeat
  smallBlindSeat := r.round.smallBlindSeat
  bigBlindSeat := r.round.bigBlindSeat
  smallBlindAmount := r.round.smallBlindAmount
  bigBlindAmount := r.round.bigBlindAmount
  anteAmount := r.round.anteAmount
  status := r.round.status
  street := r.round.street
  bets := r.bets.map fun b => (b.betId, b.playerId, b.action, b.amount)
  payouts := r.payouts
  corrections := (r.ledger.filter fun e => e.entryType.isCorrection).map fun e =>
    (e.entryId, e.entryType, e.playerId, e.amount)

/-- What the tables hold of a game. -/
def GameTables.view (g : GameTables) : GameView where
  gameId := g.game.gameId
  roomId := g.game.roomId
  isFinished := decide (g.game.status = .finished)
  rounds := g.rounds.map (·.view)

/-- The event changes what is known of a round that was started before. -/
def GameEvent.OnRound (e : GameEvent) (roundId : String) : Prop :=
  e.roundId = some roundId ∧ e.eventType ≠ .roundStarted

variable {r r' : RoundTables} {g g' : GameTables} {e : GameEvent} {v : GameView}
    {roundId gameId : String}

/-- An event on a round changes the view of that round. -/
lemma GameView.apply_onRound (h : e.OnRound roundId) :
    v.apply e = { v with rounds := updateFirst (·.roundId) roundId (·.apply e) v.rounds } := by
  obtain ⟨hid, htype⟩ := h
  cases e with
  | betPlaced | streetAdvanced | roundCompleted | correctionApplied =>
    obtain rfl := Option.some.inj hid
    rfl
  | roundStarted => exact absurd rfl htype
  | started | blindsIncreased | finished => cases hid

/-! ## One round -/

/-- A next street is the one after the current street. -/
lemma streetEnd_nextStreet (h : r.streetEnd.action = .nextStreet) :
    r.streetEnd.nextStreet = nextStreet r.round.street := by
  unfold RoundTables.streetEnd evaluateStreetEnd at h ⊢
  simp only at h ⊢
  split_ifs at h ⊢
  rfl

/-- The view of a round follows an advance of its street. -/
lemma view_streetAdvanced (hadv : StreetAdvanced r r') :
    r'.view = r.view.apply (.streetAdvanced gameId r.round.roundId r.streetEnd.action) := by
  rw [hadv.after]
  unfold StreetAdvanceResult.write
  cases haction : r.streetEnd.action with
  | settleHand => rfl
  | showdown => rfl
  | nextStreet =>
    rw [streetEnd_nextStreet haction]
    rfl

/-- The view of a round follows an entry of a correction, where the rows that the view shows only
change by reopening the hand. -/
lemma view_corrected {entry : HandLedgerEntry} (hcorr : entry.entryType.isCorrection = true)
    (hround : r'.round.roundId = r.round.roundId ∧ r'.round.roundNumber = r.round.roundNumber ∧
      r'.round.dealerSeat = r.round.dealerSeat ∧ r'.round.smallBlindSeat = r.round.smallBlindSeat ∧
      r'.round.bigBlindSeat = r.round.bigBlindSeat ∧
      r'.round.smallBlindAmount = r.round.smallBlindAmount ∧
      r'.round.bigBlindAmount = r.round.bigBlindAmount ∧ r'.round.anteAmount = r.round.anteAmount ∧
      r'.round.street = r.round.street)
    (hstatus : r'.round.status =
      if entry.entryType = .handReopened then .active else r.round.status)
    (hbets : r'.bets = r.bets) (hpayouts : r'.payouts = r.payouts)
    (hledger : r'.ledger = r.ledger ++ [entry]) :
    r'.view = r.view.apply (entry.correctionEvent gameId r.round.roundId) := by
  obtain ⟨hid, hnumber, hdealer, hsb, hbb, hsmall, hbig, hante, hstreet⟩ := hround
  ext1 <;> simp [RoundTables.view, RoundView.apply, HandLedgerEntry.correctionEvent, *]

/-- A reversal keeps the payouts. -/
lemma Reversed.payouts_eq {data : ReverseActionRequest} {ids : Uuids} {original : HandLedgerEntry}
    (hrev : Reversed r data ids original r') : r'.payouts = r.payouts := by
  rw [hrev.after]
  rcases data.write_cases original r ids with ⟨name, -, -, hw⟩ | ⟨-, hw⟩ <;> rw [hw]

/-- What an accepted command on a round writes, when it does not settle the round: nothing and it
changes nothing, or one event on the round that the view of the round follows. -/
lemma acted_cases {c : RoundCommand} (hnd : (r.players.map (·.playerId)).Nodup)
    (hc : c.settlement? r = none) (hstep : roundMachine.step r c = .ok r') :
    (c.events gameId r = [] ∧ r' = r) ∨ ∃ e, c.events gameId r = [e] ∧
      e.OnRound r.round.roundId ∧ r'.view = r.view.apply e := by
  cases c with
  | betting c =>
    cases c with
    | placeBet data ids =>
      rcases placeBet_events_cases hnd hstep with ⟨hnone, hsame⟩ | ⟨p, a, v, happ, hone⟩
      · exact Or.inl ⟨hnone, hsame⟩
      · refine Or.inr ⟨_, hone, ⟨rfl, by simp [Bet.placedEvent, GameEvent.eventType]⟩, ?_⟩
        rw [happ.after]
        ext1 <;> simp [RoundTables.view, RoundTables.afterBet, RoundView.apply,
          Bet.placedEvent, Round.acted,
          recordBetAction, LedgerEntryType.isCorrection]
    | advanceStreet =>
      obtain ⟨⟨result, r''⟩, hadv, rfl⟩ := map_eq_ok_iff.mp hstep
      exact Or.inr ⟨_, rfl, ⟨rfl, by simp [GameEvent.eventType]⟩,
        view_streetAdvanced (advanceStreet_eq_ok_iff.mp hadv).2⟩
  | reverseAction data ids =>
    obtain ⟨⟨entry, r''⟩, hreverse, rfl⟩ := map_eq_ok_iff.mp hstep
    obtain ⟨original, hrev, rfl⟩ := reverseAction_eq_ok_iff.mp hreverse
    obtain ⟨⟨pot, hround⟩, hbets⟩ := hrev.round_eq
    refine Or.inr ⟨_, by rw [RoundCommand.events, hrev.found]; rfl,
      ⟨rfl, by simp [HandLedgerEntry.correctionEvent, GameEvent.eventType]⟩, ?_⟩
    exact view_corrected rfl (by simp [hround]) (by rw [hround]; rfl) hbets hrev.payouts_eq
      hrev.ledger_eq
  | adjustStack data ids =>
    obtain ⟨-, rfl⟩ := RoundTables.flush_eq_ok_iff.mp hstep
    exact Or.inr ⟨_, rfl, ⟨rfl, by simp [HandLedgerEntry.correctionEvent, GameEvent.eventType]⟩,
      view_corrected rfl ⟨rfl, rfl, rfl, rfl, rfl, rfl, rfl, rfl, rfl⟩ rfl rfl rfl rfl⟩
  | reopenHand data ids =>
    obtain ⟨-, -, rfl⟩ := reopenHand_eq_ok_iff.mp hstep
    exact Or.inr ⟨_, rfl, ⟨rfl, by simp [HandLedgerEntry.correctionEvent, GameEvent.eventType]⟩,
      view_corrected rfl ⟨rfl, rfl, rfl, rfl, rfl, rfl, rfl, rfl, rfl⟩ rfl rfl rfl rfl⟩
  | correctPayout data ids =>
    obtain ⟨-, rfl⟩ := RoundTables.flush_eq_ok_iff.mp hstep
    exact Or.inr ⟨_, rfl, ⟨rfl, by simp [HandLedgerEntry.correctionEvent, GameEvent.eventType]⟩,
      view_corrected rfl ⟨rfl, rfl, rfl, rfl, rfl, rfl, rfl, rfl, rfl⟩ rfl rfl rfl rfl⟩
  | resolveHand data ids => cases hc
  | declareWinner data ids =>
    obtain ⟨request, hrequest, -⟩ := bind_eq_ok_iff.mp hstep
    simp [RoundCommand.settlement?, hrequest, Except.toOption] at hc

/-! ## The game -/

/-- The view of a game follows an event on one of its rounds. -/
lemma view_putRound (hids : (g.rounds.map (·.round.roundId)).Nodup) (hr : r ∈ g.rounds)
    (hid : r'.round.roundId = r.round.roundId) (hon : e.OnRound r.round.roundId)
    (hview : r'.view = r.view.apply e) : g.view.apply e = (g.putRound r').view := by
  rw [GameView.apply_onRound hon]
  refine congrArg (fun rounds : List RoundView => { g.view with rounds := rounds }) ?_
  rw [← hid]
  refine (map_updateFirst_view (fun _ => rfl) fun q hq hkey => ?_).symm
  rw [eq_of_key_eq hids hq hr (hkey.trans hid), hview]

/-- Replacing the rows of a round by themselves changes nothing. -/
lemma putRound_self (hids : (g.rounds.map (·.round.roundId)).Nodup) (hr : r ∈ g.rounds) :
    g.putRound r = g := by
  refine congrArg (fun rounds : List RoundTables => { g with rounds := rounds }) ?_
  rw [updateFirst_eq_map hids]
  refine (List.map_congr_left fun q hq => ?_).trans (List.map_id _)
  split
  · next hkey => exact (eq_of_key_eq hids hq hr hkey).symm
  · rfl

/-- The view of a round follows a settlement. -/
lemma view_settled {data : ResolveHandRequest} {ids : Uuids} {roomId : String}
    (hset : Settled r data ids r') :
    r'.view = r.view.apply (.roundCompleted gameId roomId r.round.roundId r.round.potAmount
      data.payouts) := by
  rw [hset.after]
  have hentries : (data.awards.mapIdx fun i row => row.entry (ids i)).filter
      (fun e => e.entryType.isCorrection) = [] := by
    refine List.filter_eq_nil_iff.mpr fun e he => ?_
    obtain ⟨i, hi, rfl⟩ := List.mem_mapIdx.mp he
    exact Bool.false_ne_true
  ext1
  case corrections =>
    simp only [RoundTables.view, RoundView.apply, ResolveHandRequest.write,
      List.filter_append, hentries,
      List.append_nil]
    rw [List.filter_singleton]
    simp [roundCompletedEntry, LedgerEntryType.isCorrection]
  all_goals rfl

/-- Only the row of the game is written, and the game was over if it is. -/
lemma view_administered {game : Game}
    (hsame : game.gameId = g.game.gameId ∧ game.roomId = g.game.roomId)
    (hover : game.status = .finished ↔ g.game.status = .finished) :
    g.view = ({ g with game := game } : GameTables).view := by
  simp [GameTables.view, hsame, hover]

/-- The view of a game follows the start of a round. -/
lemma view_started {s : RoundSetup} {ids : Uuids} :
    g.view.apply (g.roundStartedEvent s) =
      ({ g with rounds := g.rounds ++ [s.tables ids] } : GameTables).view := by
  have hnone : (s.tables ids).ledger.filter (fun e => e.entryType.isCorrection) = [] := by
    refine List.filter_eq_nil_iff.mpr fun e he => ?_
    rcases entryType_of_mem_tables he with htype | htype <;> rw [htype] <;> exact Bool.false_ne_true
  have hround : (s.tables ids).view = ⟨s.roundId, s.roundNumber, s.dealerSeat, s.smallBlindSeat,
      s.bigBlindSeat, s.smallBlind, s.bigBlind, s.ante, .active, .preFlop, [], [], []⟩ := by
    rw [RoundTables.view, hnone]
    rfl
  simp only [GameTables.view, List.map_append, List.map_singleton, hround]
  rfl

/-- A settlement keeps the status of the game or ends the game. -/
lemma status_settled_cases {clock : Clock} :
    (g.settled r r' clock).game.status = g.game.status ∨
      (g.settled r r' clock).game.status = .finished := by
  set completed := if hasRoundCompletedEntry r then g.game else
    (applyHandCompletion g.game g.snapshot true clock).write g.game with hcompleted
  have hstatus : completed.status = g.game.status := by
    rw [hcompleted]
    split <;> rfl
  rw [← hstatus]
  exact (completed.moveOn_game (remainingSeats (syncRoomSnapshotPlayersFromRound r'.players
    g.snapshot.players))).2.2

/-- The view of a game follows the end that a settlement may bring. -/
lemma view_finished (hgame : g'.game.gameId = g.game.gameId)
    (hroom : g'.game.roomId = g.game.roomId) (hrounds : g'.rounds = g.rounds)
    (hstatus : g'.game.status = g.game.status ∨ g'.game.status = .finished) :
    (if g'.game.status = .finished then
      [GameEvent.finished g'.game.gameId g'.game.roomId .finished] else []).foldl GameView.apply
        g.view = g'.view := by
  split
  · next hover => simp [GameTables.view, GameView.apply, hgame, hroom, hrounds, hover]
  · next hgoing =>
    rw [or_iff_left hgoing] at hstatus
    simp [GameTables.view, hgame, hroom, hrounds, hstatus]

/-- What an accepted command writes makes up what it changes in the view. -/
lemma view_step (hstored : Stored g) {c : GameCommand} (hok : gameMachine.step g c = .ok g') :
    (c.events g g').foldl GameView.apply g.view = g'.view := by
  obtain ⟨hstep, -⟩ := game_step_cases hok
  have hsame := game_eq_of_ok hok
  cases hstep with
  | started hstatus hnone hlevel hdeal =>
    obtain ⟨-, -, rfl⟩ := createRound_eq_ok_iff.mp hdeal
    rw [startRound_events hlevel]
    exact view_started
  | @acted roundId c clock r r' hfind hc hstep =>
    obtain ⟨hr, -⟩ := find?_roundId hfind
    have hround := round_step_cases (hstored.2 r hr).playerIds hstep
    rw [acted_events hfind hc]
    rcases acted_cases (hstored.2 r hr).playerIds hc hstep with ⟨hnone, rfl⟩ | ⟨e, hone, hon, hview⟩
    · rw [hnone, putRound_self hstored.1.roundIds hr, List.foldl_nil]
    · rw [hone, List.foldl_cons, List.foldl_nil]
      exact view_putRound hstored.1.roundIds hr hround.roundId_eq hon hview
  | @settled roundId c clock r r' data ids hc hset =>
    have hr := settlement?_mem hc
    rw [settled_events hc, GameTables.settlementEvents, List.foldl_cons,
      view_putRound hstored.1.roundIds hr hset.round_eq.1 ⟨rfl, by simp [GameEvent.eventType]⟩
        (view_settled hset)]
    exact view_finished (g := g.putRound r') hsame.1 hsame.2.1 rfl status_settled_cases
  | @administered c game hc hstatus =>
    have hstep := tableStep_of_ok hc hok
    cases hstep with
    | blindsAdvanced hactive hnext =>
      obtain ⟨level, hlevel⟩ := Option.isSome_iff_exists.mp hnext
      rw [GameCommand.events, hlevel]
      exact view_administered ⟨rfl, rfl⟩ Iff.rfl
    | paused hactive => exact view_administered ⟨rfl, rfl⟩ (by simp [hactive])
    | resumed hpaused => exact view_administered ⟨rfl, rfl⟩ (by simp [hpaused])
    | handRecorded => exact view_administered ⟨rfl, rfl⟩ Iff.rfl
    | ended => simp [GameCommand.events, GameView.apply, GameTables.view]

/-! ## Every run -/

/-- The events of a game from its start on. -/
def GameTables.eventsOf (g₀ : GameTables) (cs : List GameCommand) : List GameEvent :=
  g₀.startedEvent :: gameMachine.events (fun g c g' => c.events g g') g₀ cs

/-- A request that is rejected, or answered from an idempotency key, adds no event. -/
lemma eventsOf_concat {g₀ : GameTables} {cs : List GameCommand} {c : GameCommand}
    (h : (∃ e, gameMachine.step (gameMachine.run g₀ cs) c = .error e) ∨
      c.existingBet (gameMachine.run g₀ cs) ≠ none) :
    g₀.eventsOf (cs ++ [c]) = g₀.eventsOf cs := by
  rw [GameTables.eventsOf, Machine.events_append, GameTables.eventsOf]
  have hnil : gameMachine.events (fun g c g' => c.events g g') (gameMachine.run g₀ cs) [c] =
      [] := by
    cases hstep : gameMachine.step (gameMachine.run g₀ cs) c with
    | error e => exact Machine.events_cons_of_error hstep
    | ok g' =>
      have hexisting : c.existingBet (gameMachine.run g₀ cs) ≠ none :=
        h.resolve_left fun ⟨e, he⟩ => by rw [hstep] at he; cases he
      rw [Machine.events_cons_of_ok hstep, events_of_existingBet hexisting]
      rfl
  rw [hnil, List.append_nil]

/-- **The events of a game tell the game.** A consumer who applies the events of a game in the order
in which they are written, from its start on and to the end of any run of commands, knows what the
tables hold: the rounds with their settings, streets, statuses, bets, payouts and corrections, and
whether the game is over.  A rejected request adds no event, and neither does a bet that is answered
from its idempotency key. -/
theorem events_tell_game {existing : Option Game} {roomConfig : RoomConfig}
    {activated : Except Rejection Unit} {gameId : String} {now : Int} {g₀ : GameTables}
    (hstart : startGame existing roomConfig activated gameId now = .ok g₀) (cs : List GameCommand)
    (v : GameView) :
    (g₀.eventsOf cs).foldl GameView.apply v = (gameMachine.run g₀ cs).view ∧
      (∀ c e, gameMachine.step (gameMachine.run g₀ cs) c = .error e →
        g₀.eventsOf (cs ++ [c]) = g₀.eventsOf cs) ∧
      ∀ c, c.existingBet (gameMachine.run g₀ cs) ≠ none →
        g₀.eventsOf (cs ++ [c]) = g₀.eventsOf cs := by
  have hnew := gameStarted_of_startGame hstart
  have hview : v.apply g₀.startedEvent = g₀.view := by
    simp [GameView.apply, GameTables.startedEvent, GameTables.view, hnew.rounds, hnew.status]
  refine ⟨?_, fun c e he => eventsOf_concat (Or.inl ⟨e, he⟩),
    fun c hc => eventsOf_concat (Or.inr hc)⟩
  rw [GameTables.eventsOf, List.foldl_cons, hview]
  exact Machine.replay_events (I := Stored) (fun _ _ _ h hok => h.of_ok hok)
    (fun _ _ _ h hok => view_step h hok) (stored_of_startGame hstart).1 cs

/-- The events of a hand that is folded and settled tell that the hand is over and the game is
not. -/
theorem events_tell_game_headsUp :
    (headsUpGame.eventsOf (foldedGame foldedHandPayout)).foldl GameView.apply ⟨"", "", true, []⟩ =
      (gameMachine.run headsUpGame (foldedGame foldedHandPayout)).view :=
  (events_tell_game
    (show startGame none headsUpRoom.toRoomConfig (.ok ()) "game" 0 = .ok headsUpGame by decide)
    _ _).1

end PokerRoom
