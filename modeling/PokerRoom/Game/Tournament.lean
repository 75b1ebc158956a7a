import PokerRoom.Game.StackCarryOver

/-!
# How a game ends

A game that nobody ends by hand is over as soon as fewer than two players have chips left.  Whoever
is out stays out (`eliminated_for_good`), and the last player holds the chips all players started
with, less what the settlements have left unpaid (`winner_takes_all`).
-/

namespace PokerRoom

open Foundation

/-! ## Definitions -/

/-- The command ends the game by hand. -/
def GameCommand.EndsGame : GameCommand → Prop
  | .endGame _ => True
  | _ => False

instance : DecidablePred GameCommand.EndsGame
  | .endGame _ => .isTrue trivial
  | .startRound _ _ _ | .round _ _ _ | .advanceBlinds _ | .pauseTable | .resumeTable
  | .recordHandCompleted _ => .isFalse id

/-- The players who take part in the next hand. -/
def RoomConfig.activeIds (config : RoomConfig) : List String :=
  config.activePlayers.map (·.playerId)

/-- The chips with which a player takes part in the next hand. -/
def PlayerConfig.chipsInPlay (p : PlayerConfig) : Int := if p.plays then p.chipCount else 0

/-- What the settlement of a transition leaves of the pot, nothing where there is no settlement. -/
def unpaid (t : Transition GameTables GameCommand) : Int :=
  match t.command.settlement? t.before with
  | some (r, data, _) => r.round.potAmount - data.totalPaid
  | none => 0

/-- What the settlements of a run have left of the pots. -/
def unpaidTotal (g₀ : GameTables) (cs : List GameCommand) : Int :=
  ((gameMachine.trace g₀ cs).map unpaid).sum

/-- How far a game is played out when its players hold the given chips. -/
structure PlayedOut (chips : Int) (g : GameTables) : Prop where
  /-- The game is over when fewer than two players are left, and only then. -/
  over_iff : g.game.status = .finished ↔ g.snapshot.activePlayers.length < 2
  /-- The players who are left hold the chips. -/
  held : g.snapshot.activeChips = chips
  /-- The last one holds them all. -/
  winner : g.game.status = .finished → ∃ p, g.snapshot.activePlayers = [p] ∧ p.chipCount = chips

/-- The invariant of a game that nobody ends by hand. -/
structure TournamentSound (g : GameTables) (dealt : String → Int) : Prop where
  /-- The game is sound. -/
  sound : GameSound g dealt
  /-- Somebody is left. -/
  someone : g.snapshot.activePlayers ≠ []
  /-- After its end the game has neither two players nor an active round. -/
  ended : g.game.status = .finished →
    g.snapshot.activePlayers.length < 2 ∧ ∀ r ∈ g.rounds, r.round.status ≠ .active

/-- The players of a game and of the rounds it has started since an earlier state are among those
who took part then. -/
structure OnlyFrom (g₁ g : GameTables) : Prop where
  /-- The players who take part. -/
  active : ∀ name ∈ g.snapshot.activeIds, name ∈ g₁.snapshot.activeIds
  /-- The players of the rounds started since. -/
  dealt : ∀ r ∈ g.rounds, (∃ r₁ ∈ g₁.rounds, r₁.round.roundId = r.round.roundId) ∨
    ∀ p ∈ r.players, p.playerId ∈ g₁.snapshot.activeIds

/-- The invariant of a game whose hands are not reopened: the players of an active round take
part. -/
structure LiveInPlay (g : GameTables) : Prop where
  /-- The snapshot goes with the rounds. -/
  carry : CarryInvariant g
  /-- The players of an active round. -/
  live : ∀ r ∈ g.rounds, r.round.status = .active → ∀ p ∈ r.players,
    p.playerId ∈ g.snapshot.activeIds

variable {g g' g₁ : GameTables} {dealt : String → Int} {r r' : RoundTables} {clock : Clock}
  {config : RoomConfig} {p : PlayerConfig} {data : ResolveHandRequest} {ids : Uuids}

/-! ## The chips in play -/

/-- The chips of the active players are those all players take part with. -/
lemma activeChips_eq_sum : config.activeChips = (config.players.map (·.chipsInPlay)).sum := by
  have hsum := sum_map_filter_of_eq_zero (l := config.players) (p := fun p => p.plays)
    (·.chipsInPlay) fun p _ hp => by simp [PlayerConfig.chipsInPlay, hp]
  rw [RoomConfig.activeChips, RoomConfig.activePlayers, (bySeat_perm.map _).sum_eq, ← hsum]
  refine congrArg List.sum (List.map_congr_left fun p hp => ?_)
  rw [PlayerConfig.chipsInPlay, if_pos (List.mem_filter.mp hp).2]

/-- A player whose stack is copied takes part with his stack. -/
lemma chipsInPlay_withStack {x : Int} (hx : 0 ≤ x) : (p.withStack x).chipsInPlay = x := by
  unfold PlayerConfig.chipsInPlay
  split
  · exact max_eq_left hx
  · next hplays =>
    simp only [PlayerConfig.plays_iff, PlayerConfig.withStack] at hplays
    grind

/-- Who takes part, by name. -/
lemma mem_activeIds {name : String} :
    name ∈ config.activeIds ↔ ∃ p ∈ config.players, p.plays = true ∧ p.playerId = name := by
  simp [RoomConfig.activeIds, mem_activePlayers, and_assoc]

/-- The players of an active round are those who take part. -/
lemma DealtFrom.playerIds {d : Deal} (h : DealtFrom config dealt d r) :
    r.players.map (·.playerId) = config.activeIds := by
  rw [h.seating.playerIds, h.players, List.map_map]
  rfl

/-- Every round is seated as some round is set up. -/
lemma exists_seatedAs (r : RoundTables) : ∃ s : RoundSetup, SeatedAs s r := by
  refine ⟨{ roundId := r.round.roundId, roundNumber := r.round.roundNumber
            dealerSeat := r.round.dealerSeat, smallBlindSeat := r.round.smallBlindSeat
            bigBlindSeat := r.round.bigBlindSeat, smallBlind := r.round.smallBlindAmount
            bigBlind := r.round.bigBlindAmount, ante := r.round.anteAmount
            players := r.players.map fun p => ⟨p.playerId, p.seatNumber, p.stackRemaining⟩ },
              ?_, ?_⟩
  · rw [List.map_map]
    rfl
  · rw [List.map_map]
    rfl

/-- An accepted command keeps the players of a round. -/
lemma RoundStep.playerIds_eq {c : RoundCommand} (hstep : RoundStep r c r') :
    r'.players.map (·.playerId) = r.players.map (·.playerId) := by
  obtain ⟨s, hseat⟩ := exists_seatedAs r
  exact (hseat.roundStep hstep).playerIds.trans hseat.playerIds.symm

/-! ## A settlement -/

/-- A settlement keeps the players of its round. -/
lemma Settled.playerIds_eq (hset : Settled r data ids r') :
    r'.players.map (·.playerId) = r.players.map (·.playerId) :=
  hset.roundStep.playerIds_eq

/-- A settlement pays at least one chip. -/
lemma ResolveHandRequest.totalPaid_pos (data : ResolveHandRequest) : 0 < data.totalPaid := by
  have hpot : ∀ pot ∈ data.payouts, 0 < pot.winnerTotal := fun pot _ => by
    refine List.sum_pos _ ?_ (by simpa using pot.winners_ne)
    simp only [List.forall_mem_map]
    exact fun w _ => w.amount_pos
  refine List.sum_pos _ ?_ (by simpa using data.payouts_ne)
  simpa only [List.forall_mem_map] using hpot

variable (clock) in
/-- After a settlement the players who take part are those of its round who have chips left, and
they hold the chips of the round. -/
lemma GameSound.activeChips_settled (h : GameSound g dealt) (hr : r ∈ g.rounds)
    (hset : Settled r data ids r') :
    (g.settled r r' clock).snapshot.activeChips =
      g.snapshot.activeChips - (r.round.potAmount - data.totalPaid) := by
  obtain ⟨d, hdealt⟩ := h.in_play r hr hset.status
  have hnames := hset.playerIds_eq.trans hdealt.playerIds
  have hnd : (r'.players.map (·.playerId)).Nodup := hset.constraints.playerIds
  -- every player of the round is replaced by what he has left
  have hrow : ∀ rp ∈ r'.players, ∃ p ∈ g.snapshot.players, p.playerId = rp.playerId ∧
      (p.withStack rp.stackRemaining).chipsInPlay - p.chipsInPlay =
        rp.stackRemaining - d.dealt rp.playerId := by
    intro rp hrp
    obtain ⟨p, hp, hplays, hid⟩ := mem_activeIds.mp (hnames ▸ List.mem_map_of_mem hrp)
    have hsp : p.seatPlayer ∈ d.players := by
      rw [hdealt.players]
      exact List.mem_map_of_mem (mem_activePlayers.mpr ⟨hp, hplays⟩)
    refine ⟨p, hp, hid, ?_⟩
    rw [chipsInPlay_withStack (hset.constraints.players rp hrp).1, PlayerConfig.chipsInPlay,
      if_pos hplays, ← hid]
    exact congrArg _ (dealt_of_mem hsp).symm
  have hsum := sum_map_foldl_updateFirst (f := fun rp : RoundPlayer =>
    PlayerConfig.withStack rp.stackRemaining) (·.chipsInPlay) (fun _ _ => rfl)
    h.constraints.snapshot.playerIds hnd hrow
  have hseat : SeatedAs d.toRoundSetup r' := by
    rw [hset.after]
    exact hdealt.seating.congr (map_foldl_award fun _ _ => rfl) (map_foldl_award fun _ _ => rfl)
  have hleft : (r'.players.map fun rp => rp.stackRemaining - d.dealt rp.playerId).sum +
      d.dealtTotal = stackTotal r' := by
    rw [← hseat.sum_dealt, ← List.sum_map_add]
    simp [stackTotal]
  have hstacks := h.stackTotal_settled hr hset
  rw [hdealt.recorded] at hstacks
  rw [activeChips_eq_sum, activeChips_eq_sum]
  exact hsum.trans (by omega)

/-- The chips in play after a settlement are those its players have left. -/
lemma GameSound.activeChips_pos_settled (h : GameSound g dealt) (hr : r ∈ g.rounds)
    (hset : Settled r data ids r') : 0 < (g.settled r r' clock).snapshot.activeChips := by
  obtain ⟨d, hdealt⟩ := h.in_play r hr hset.status
  have hchips := h.activeChips_settled clock hr hset
  have hstacks := h.stackTotal_settled hr hset
  have hdealtTotal : g.snapshot.activeChips = d.dealtTotal := by
    rw [RoundSetup.dealtTotal, hdealt.players, List.map_map]
    rfl
  have hpaid : stackTotal r' = stackTotal r + data.totalPaid :=
    hset.sum_stack hdealt.seating.ids_nodup ⟨h.rounds r hr, hdealt.chips.pot.le⟩
  have hbefore : 0 ≤ stackTotal r := List.sum_nonneg (by
    simp only [List.forall_mem_map]
    exact fun p hp => ((h.rounds r hr).players p hp).1)
  have hpos := data.totalPaid_pos
  rw [hdealt.recorded] at hstacks
  omega

/-- Where chips are in play somebody takes part. -/
lemma activePlayers_ne_nil (h : 0 < config.activeChips) : config.activePlayers ≠ [] := by
  intro hnil
  simp [RoomConfig.activeChips, hnil] at h

/-- Nobody takes part after a settlement who did not take part before. -/
lemma LiveInPlay.activeIds_settled (h : LiveInPlay g) (hr : r ∈ g.rounds)
    (hset : Settled r data ids r') :
    ∀ name ∈ (g.settled r r' clock).snapshot.activeIds, name ∈ g.snapshot.activeIds := by
  intro name hname
  obtain ⟨p, hp, hplays, rfl⟩ := mem_activeIds.mp hname
  rcases (mem_syncRoomSnapshotPlayersFromRound h.carry.stored.1.snapshot.playerIds
    hset.constraints.playerIds).mp hp with ⟨rp, hrp, q, -, hid, rfl⟩ | ⟨hp, -⟩
  · obtain ⟨rp₀, hrp₀, hname₀⟩ := List.mem_map.mp (hset.playerIds_eq ▸ List.mem_map_of_mem hrp)
    exact hid ▸ hname₀ ▸ h.live r hr hset.status rp₀ hrp₀
  · exact mem_activeIds.mpr ⟨p, hp, hplays, rfl⟩

/-- As many seats remain after a settlement as players take part. -/
lemma length_remainingSeats_eq :
    (remainingSeats (g.settled r r' clock).snapshot.players).length =
      (g.settled r r' clock).snapshot.activePlayers.length := by
  rw [remainingSeats, List.length_map, RoomConfig.activePlayers, bySeat_perm.length_eq]

/-- A settlement ends the game when fewer than two players are left, and leaves its status alone
otherwise. -/
lemma status_settled : (g.settled r r' clock).game.status =
    if 2 ≤ (g.settled r r' clock).snapshot.activePlayers.length then g.game.status else
      .finished := by
  rw [← length_remainingSeats_eq]
  change (Game.moveOn _ (remainingSeats (g.settled r r' clock).snapshot.players)).status = _
  generalize remainingSeats (g.settled r r' clock).snapshot.players = seats
  unfold Game.moveOn
  split
  · split <;> split <;> rfl
  · rfl

/-- After a settlement no round is active. -/
lemma GameSound.inactive_settled (h : GameSound g dealt) (hr : r ∈ g.rounds)
    (hset : Settled r data ids r') :
    ∀ q ∈ (g.settled r r' clock).rounds, q.round.status ≠ .active := by
  obtain ⟨hid, hcompleted⟩ := hset.round_eq
  intro q hq hactive
  rcases (mem_putRound_iff h.constraints.roundIds).mp hq with ⟨-, -, -, rfl⟩ | ⟨hq, hne⟩
  · rw [hcompleted] at hactive
    cases hactive
  · exact hne ((h.one_active q hq r hr hactive hset.status).trans hid.symm)

/-- A command on the table that does not end the game does not finish it. -/
lemma TableStep.status_eq_finished {c : GameCommand} {game : Game} (hstep : TableStep g c game)
    (hend : ¬ c.EndsGame) (h : game.status = .finished) : g.game.status = .finished := by
  cases hstep with
  | blindsAdvanced | handRecorded => exact h
  | paused | resumed => cases h
  | ended => exact absurd trivial hend

/-! ## One command -/

/-- An accepted command that neither corrects anything nor ends the game keeps the invariant, and
takes what it leaves unpaid from the chips in play. -/
lemma TournamentSound.step (h : TournamentSound g dealt) {c : GameCommand}
    (hcorr : ¬ c.IsCorrection) (hend : ¬ c.EndsGame) (hok : gameMachine.step g c = .ok g') :
    TournamentSound g' (recordDeal g c g' dealt) ∧
      g'.snapshot.activeChips = g.snapshot.activeChips + -unpaid ⟨g, c, g'⟩ := by
  obtain ⟨hstep, hcons⟩ := game_step_cases hok
  have hsound := h.sound.step hcorr hstep hcons
  cases hstep with
  | started hstatus hnone hlevel hdeal =>
    have hactive : g.game.status ≠ .finished := by simp [hstatus]
    exact ⟨⟨hsound, h.someone, fun hover => absurd hover hactive⟩,
      by simp [unpaid, GameCommand.settlement?]⟩
  | @acted roundId c clock r r' hfind hc hstep =>
    obtain ⟨c', -, hbetting⟩ := exists_betting hcorr hc hstep
    obtain ⟨hr, -⟩ := find?_roundId hfind
    have hsame := (betting_keeps (h.sound.rounds r hr) hbetting).2.1
    refine ⟨⟨hsound, h.someone, fun hover => ⟨(h.ended hover).1, ?_⟩⟩, ?_⟩
    · exact forall_putRound (h.ended hover).2 (hsame ▸ (h.ended hover).2 r hr)
    · simp [unpaid, GameCommand.settlement?, hfind, hc, GameTables.putRound]
  | @settled roundId c clock r r' data ids hc hset =>
    have hr := settlement?_mem hc
    have hchips := h.sound.activeChips_settled clock hr hset
    refine ⟨⟨hsound, activePlayers_ne_nil (h.sound.activeChips_pos_settled hr hset),
      fun hover => ?_⟩, ?_⟩
    · refine ⟨?_, h.sound.inactive_settled hr hset⟩
      rw [status_settled] at hover
      split at hover
      · exact absurd hset.status ((h.ended hover).2 r hr)
      · next htwo => exact not_le.mp htwo
    · simp only [unpaid, hc, hchips]
      omega
  | @administered c game hc hstatus =>
    have hbefore := (tableStep_of_ok hc hok).status_eq_finished hend
    refine ⟨⟨hsound, h.someone, fun hover => h.ended (hbefore hover)⟩, ?_⟩
    cases c with
    | startRound | round => cases hc
    | advanceBlinds | pauseTable | resumeTable | recordHandCompleted | endGame =>
      simp [unpaid, GameCommand.settlement?]

/-- The players of a new round are those who take part. -/
lemma playerIds_of_createRound {level : BlindLevelConfig} {roundId : String}
    (h : createRound (g.roundSetup level roundId) ids = .ok r) :
    r.players.map (·.playerId) = g.snapshot.activeIds := by
  obtain ⟨-, -, rfl⟩ := createRound_eq_ok_iff.mp h
  rw [(seatedAs_tables _ ids).playerIds, GameTables.roundSetup, Game.roundSetup, List.map_map]
  rfl

/-- An accepted command that reopens nothing keeps the players of an active round in play. -/
lemma LiveInPlay.of_ok (h : LiveInPlay g) {c : GameCommand} (hc : ¬ c.IsReopening)
    (hok : gameMachine.step g c = .ok g') : LiveInPlay g' := by
  refine ⟨h.carry.of_ok hc hok, ?_⟩
  obtain ⟨hstep, -⟩ := game_step_cases hok
  cases hstep with
  | started hstatus hnone hlevel hdeal =>
    refine List.forall_mem_append.mpr ⟨fun r hr hactive => absurd hactive (hnone r hr), ?_⟩
    rw [List.forall_mem_singleton]
    exact fun _ p hp => playerIds_of_createRound hdeal ▸ List.mem_map_of_mem hp
  | @acted roundId c clock r r' hfind hcs hstep =>
    obtain ⟨hr, -⟩ := find?_roundId hfind
    have hround := round_step_cases (h.carry.stored.2 r hr).playerIds hstep
    refine forall_putRound h.live fun hactive p hp => ?_
    have hbefore : r.round.status = .active := by
      rcases hround.status_cases with ⟨data, ids, rfl, -⟩ | ⟨-, hover | hsame⟩
      · exact absurd trivial hc
      · rw [hover] at hactive
        cases hactive
      · exact hsame.symm.trans hactive
    obtain ⟨q, hq, hname⟩ := List.mem_map.mp (hround.playerIds_eq ▸ List.mem_map_of_mem hp)
    exact hname ▸ h.live r hr hbefore q hq
  | @settled roundId c clock r r' data ids hcs hset =>
    have hr := settlement?_mem hcs
    obtain ⟨hid, hcompleted⟩ := hset.round_eq
    -- only the last round was active, and it is the settled one
    intro q hq hactive
    rcases (mem_putRound_iff h.carry.stored.1.roundIds).mp hq with ⟨-, -, -, rfl⟩ | ⟨hq, hne⟩
    · rw [hcompleted] at hactive
      cases hactive
    · have hlast :=
        (h.carry.last_active q hq hactive).symm.trans (h.carry.last_active r hr hset.status)
      exact absurd (congrArg (·.round.roundId) (Option.some.inj hlast)) (hid ▸ hne)
  | administered => exact h.live

/-- An accepted command that reopens nothing brings nobody back. -/
lemma OnlyFrom.of_ok (h : OnlyFrom g₁ g) (hlive : LiveInPlay g) {c : GameCommand}
    (hok : gameMachine.step g c = .ok g') : OnlyFrom g₁ g' := by
  -- a round that is played on keeps its name and its players
  have hput : ∀ {r r' : RoundTables} {c : RoundCommand}, r ∈ g.rounds → RoundStep r c r' →
      ∀ q ∈ (g.putRound r').rounds, (∃ r₁ ∈ g₁.rounds, r₁.round.roundId = q.round.roundId) ∨
        ∀ p ∈ q.players, p.playerId ∈ g₁.snapshot.activeIds := by
    intro r r' c hr hstep
    refine forall_putRound h.dealt ?_
    refine (h.dealt r hr).imp (fun hold => hstep.roundId_eq ▸ hold) fun hfrom p hp => ?_
    obtain ⟨q, hq, hname⟩ := List.mem_map.mp (hstep.playerIds_eq ▸ List.mem_map_of_mem hp)
    exact hname ▸ hfrom q hq
  obtain ⟨hstep, -⟩ := game_step_cases hok
  cases hstep with
  | started hstatus hnone hlevel hdeal =>
    refine ⟨h.active, List.forall_mem_append.mpr ⟨h.dealt,
      List.forall_mem_singleton.mpr (Or.inr ?_)⟩⟩
    exact fun p hp => h.active _ (playerIds_of_createRound hdeal ▸ List.mem_map_of_mem hp)
  | @acted roundId c clock r r' hfind hcs hstep =>
    obtain ⟨hr, -⟩ := find?_roundId hfind
    exact ⟨h.active, hput hr (round_step_cases (hlive.carry.stored.2 r hr).playerIds hstep)⟩
  | settled hcs hset =>
    have hr := settlement?_mem hcs
    exact ⟨fun name hname => h.active name (hlive.activeIds_settled hr hset name hname),
      hput hr hset.roundStep⟩
  | administered => exact ⟨h.active, h.dealt⟩

/-! ## Every run -/

/-- A new game has all its players in play and is not over. -/
lemma tournamentSound_of_startGame {existing : Option Game} {room : RoomDetail}
    {activated : Except Rejection Unit} {gameId : String} {now : Int}
    (hstart : startGame existing room.toRoomConfig activated gameId now = .ok g) :
    TournamentSound g (fun _ => 0) ∧ g.snapshot.activeChips = room.toRoomConfig.activeChips := by
  have hnew := gameStarted_of_startGame hstart
  have hsound := gameSound_of_startGame hstart
  have hlive : g.game.status ≠ .finished := by simp [hnew.status]
  refine ⟨⟨hsound, ?_, fun hover => absurd hover hlive⟩, ?_⟩
  · have htwo := hsound.two_le hlive
    rw [RoomConfig.activeSeats, List.length_map] at htwo
    exact List.ne_nil_of_length_pos (by omega)
  · rw [hnew.snapshot, activeChips_eq_sum, activeChips_eq_sum]
    exact (bySeat_perm.map _).sum_eq

/-- **The winner takes all.** Take any game started from a room, and any run of commands on it that
neither corrects anything nor ends the game by hand.  The game is over exactly when fewer than two
of its players have chips left, those who are left hold the chips all players started with, less
what the settlements have left unpaid, and when the game is over one player holds them all. -/
theorem winner_takes_all {existing : Option Game} {room : RoomDetail}
    {activated : Except Rejection Unit} {gameId : String} {now : Int} {g₀ : GameTables}
    (hstart : startGame existing room.toRoomConfig activated gameId now = .ok g₀)
    (cs : List GameCommand) (hcs : ∀ c ∈ cs, ¬ c.IsCorrection ∧ ¬ c.EndsGame) :
    PlayedOut (room.toRoomConfig.activeChips - unpaidTotal g₀ cs) (gameMachine.run g₀ cs) := by
  obtain ⟨hsound₀, hchips₀⟩ := tournamentSound_of_startGame hstart
  have hstep : ∀ g c g', ¬ c.IsCorrection ∧ ¬ c.EndsGame → (∃ dealt, TournamentSound g dealt) →
      gameMachine.step g c = .ok g' → (∃ dealt, TournamentSound g' dealt) ∧
        g'.snapshot.activeChips = g.snapshot.activeChips + -unpaid ⟨g, c, g'⟩ := by
    rintro g c g' hc ⟨dealt, h⟩ hok
    obtain ⟨hsound, hchips⟩ := h.step hc.1 hc.2 hok
    exact ⟨⟨_, hsound⟩, hchips⟩
  obtain ⟨dealt, hsound⟩ := Machine.run_invariant_of_forall
    (fun g c g' hc h hok => (hstep g c g' hc h hok).1) ⟨_, hsound₀⟩ hcs
  have hchips : (gameMachine.run g₀ cs).snapshot.activeChips =
      g₀.snapshot.activeChips + ((gameMachine.trace g₀ cs).map fun t => -unpaid t).sum :=
    Machine.run_measure_of_forall (I := fun g => ∃ dealt, TournamentSound g dealt)
      (m := fun g => g.snapshot.activeChips) hstep ⟨_, hsound₀⟩ hcs
  have hneg : ((gameMachine.trace g₀ cs).map fun t => -unpaid t).sum = -unpaidTotal g₀ cs := by
    rw [unpaidTotal, List.sum_neg, List.map_map]
    rfl
  rw [hchips₀, hneg, ← sub_eq_add_neg] at hchips
  refine ⟨⟨fun hover => (hsound.ended hover).1, fun hfew => ?_⟩, hchips, fun hover => ?_⟩
  · by_contra hlive
    have htwo := hsound.sound.two_le hlive
    rw [RoomConfig.activeSeats, List.length_map] at htwo
    omega
  · obtain ⟨p, hp⟩ :=
      List.length_eq_one_iff.mp (le_antisymm (Nat.le_of_lt_succ (hsound.ended hover).1)
      (List.length_pos_iff.mpr hsound.someone))
    refine ⟨p, hp, ?_⟩
    rw [← hchips, RoomConfig.activeChips, hp]
    exact (add_zero _).symm

/-- A room in which the small blind has two chips. -/
def shortStackRoom : RoomDetail where
  roomId := "room"
  startingDealerSeat := 1
  antesEnabled := false
  players := [⟨"alice", 1, 2, true, false⟩, ⟨"bob", 2, 100, true, false⟩]
  blindLevels := headsUpRoom.blindLevels
  ids_ne := by decide
  smallBlind_pos := headsUpRoom.smallBlind_pos
  bigBlind_pos := headsUpRoom.bigBlind_pos

/-- The game that starts in it. -/
def shortStackGame : GameTables := { headsUpGame with snapshot := shortStackRoom.toRoomConfig }

/-- A hand in which the small blind calls with the last chip, and the big blind wins. -/
def calledAllIn : List GameCommand :=
  [.startRound controllerStart "round" headsUpIds,
    .round "round" (.betting (.send "alice" "call" 1 "b1" "e1")) fun _ => 0,
    .round "round" (.declareWinner ⟨"bob", bob_ne⟩ (named ["p1", "done"])) fun _ => 0]

/-- The big blind wins this game with the chips of both players. -/
theorem winner_takes_all_shortStack :
    ∃ p, (gameMachine.run shortStackGame calledAllIn).snapshot.activePlayers = [p] ∧
      p.chipCount = 102 :=
  (winner_takes_all
    (show startGame none shortStackRoom.toRoomConfig (.ok ()) "game" 0 =
      .ok shortStackGame by decide)
    calledAllIn (by decide)).winner (by decide)

/-- **Who is out stays out.** In every run of commands on a game in which no hand is reopened, the
players who take part at some moment, and those of every round started later, are among the players
who took part at any earlier moment. -/
theorem eliminated_for_good {existing : Option Game} {room : RoomDetail}
    {activated : Except Rejection Unit} {gameId : String} {now : Int} {g₀ : GameTables}
    (hstart : startGame existing room.toRoomConfig activated gameId now = .ok g₀)
    (pre post : List GameCommand) (hcs : ∀ c ∈ pre ++ post, ¬ c.IsReopening) :
    OnlyFrom (gameMachine.run g₀ pre) (gameMachine.run g₀ (pre ++ post)) := by
  have hnew := gameStarted_of_startGame hstart
  have hlive₀ : LiveInPlay g₀ := ⟨carryInvariant_of_startGame hstart, by simp [hnew.rounds]⟩
  obtain ⟨hpre, hpost⟩ := List.forall_mem_append.mp hcs
  have hlive := Machine.run_invariant_of_forall (I := LiveInPlay)
    (fun _ _ _ hc h hok => h.of_ok hc hok) hlive₀ hpre
  rw [Machine.run_append]
  generalize gameMachine.run g₀ pre = g₁ at hlive ⊢
  refine (Machine.run_invariant_of_forall (I := fun g => LiveInPlay g ∧ OnlyFrom g₁ g)
    (fun _ _ _ hc h hok => ⟨h.1.of_ok hc hok, h.2.of_ok h.1 hok⟩) ⟨hlive, ?_⟩ hpost).2
  exact ⟨fun _ hname => hname, fun r hr => Or.inl ⟨r, hr, rfl⟩⟩

/-- After that hand the small blind is out, also when another round is asked for. -/
theorem eliminated_for_good_shortStack :
    "alice" ∉ (gameMachine.run shortStackGame
      (calledAllIn ++ [.startRound controllerStart "second" headsUpIds])).snapshot.activeIds := by
  have hout : "alice" ∉ (gameMachine.run shortStackGame calledAllIn).snapshot.activeIds := by decide
  exact fun halice => hout ((eliminated_for_good
    (show startGame none shortStackRoom.toRoomConfig (.ok ()) "game" 0 =
      .ok shortStackGame by decide)
    calledAllIn _ (by decide)).active "alice" halice)

end PokerRoom
