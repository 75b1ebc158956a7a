import PokerRoom.Game.GameRun
import PokerRoom.Hand.Settlement

/-!
# The chips of a game

A game is played with the chips its snapshot holds at the start: every hand deals the chips of the
active players, and its settlement writes their stacks back.  `GameSound` is the invariant of a game
without corrections.  `settlements_conserve_iff` says that the settlements of a game conserve its
chips exactly when none of them asks for less than the pot.
-/

namespace PokerRoom

open Foundation

/-! ## Definitions -/

/-- The command corrects a round of the game. -/
def GameCommand.IsCorrection : GameCommand → Prop
  | .round _ c _ => c.IsCorrection
  | _ => False

instance : DecidablePred GameCommand.IsCorrection
  | .round _ c _ => inferInstanceAs (Decidable c.IsCorrection)
  | .startRound _ _ _ | .advanceBlinds _ | .pauseTable | .resumeTable | .recordHandCompleted _
  | .endGame _ => .isFalse id

/-- Record the chips every round was dealt. -/
def recordDeal (g : GameTables) (c : GameCommand) (_ : GameTables) (dealt : String → Int) :
    String → Int :=
  match c with
  | .startRound _ roundId _ => Function.update dealt roundId g.snapshot.activeChips
  | _ => dealt

/-- The transitions of a run of commands on a game, with the chips every round was dealt. -/
def dealtTrace (g₀ : GameTables) (cs : List GameCommand) :
    List (Transition (GameTables × (String → Int)) GameCommand) :=
  (gameMachine.instrument recordDeal).trace (g₀, fun _ => 0) cs

/-- The chips of the hand and those of the room are conserved by the settlement of a round: its
players hold what they were dealt, and the snapshot holds what it held at the start. -/
structure SettlementConserves (total : Int)
    (t : Transition (GameTables × (String → Int)) GameCommand) (r : RoundTables) : Prop where
  /-- The hand. -/
  hand : ∃ r' ∈ t.after.1.rounds, r'.round.roundId = r.round.roundId ∧
    stackTotal r' = t.before.2 r.round.roundId
  /-- The snapshot. -/
  snapshot : t.after.1.snapshot.chipTotal = total

/-- Every accepted settlement of a run conserves the chips. -/
def SettlementsConserve (g₀ : GameTables) (cs : List GameCommand) : Prop :=
  ∀ t ∈ dealtTrace g₀ cs, ∀ s ∈ t.command.settlement? t.before.1,
    SettlementConserves g₀.snapshot.chipTotal t s.1

/-- The round is played as it was dealt from a snapshot, and nothing is lost or gained. -/
structure DealtFrom (snapshot : RoomConfig) (dealt : String → Int) (d : Deal) (r : RoundTables) :
    Prop where
  /-- The players. -/
  seating : SeatedAs d.toRoundSetup r
  /-- The chips. -/
  chips : ChipsConserved d.toRoundSetup r
  /-- The players of the snapshot are dealt in. -/
  players : d.players = snapshot.activePlayers.map (·.seatPlayer)
  /-- The chips dealt are recorded. -/
  recorded : dealt r.round.roundId = d.dealtTotal

/-- The invariant of a game without corrections. -/
structure GameSound (g : GameTables) (dealt : String → Int) : Prop where
  /-- The rows of the game satisfy the constraints. -/
  constraints : g.Constraints
  /-- So do those of its rounds. -/
  rounds : ∀ r ∈ g.rounds, r.Constraints
  /-- The players of the room have identifiers. -/
  ids_ne : ∀ p ∈ g.snapshot.players, p.playerId ≠ ""
  /-- The blinds of its levels are not negative. -/
  blinds : ∀ bl ∈ g.snapshot.blindLevels, 0 ≤ bl.smallBlind ∧ 0 ≤ bl.bigBlind
  /-- A game that is not over has two players. -/
  two_le : g.game.status ≠ .finished → 2 ≤ g.snapshot.activeSeats.length
  /-- At most one round is active. -/
  one_active : ∀ r ∈ g.rounds, ∀ r' ∈ g.rounds, r.round.status = .active →
    r'.round.status = .active → r.round.roundId = r'.round.roundId
  /-- It is played with the chips of the snapshot. -/
  in_play : ∀ r ∈ g.rounds, r.round.status = .active → ∃ d : Deal, DealtFrom g.snapshot dealt d r

variable {g g' : GameTables} {dealt : String → Int} {r r' : RoundTables} {clock : Clock}

/-! ## Dealing -/

/-- A round can be dealt from a snapshot with two active players. -/
lemma exists_deal_of_snapshot (hcons : g.snapshot.Constraints)
    (hids : ∀ p ∈ g.snapshot.players, p.playerId ≠ "")
    (hblinds : ∀ bl ∈ g.snapshot.blindLevels, 0 ≤ bl.smallBlind ∧ 0 ≤ bl.bigBlind)
    (htwo : 2 ≤ g.snapshot.activeSeats.length) {level : BlindLevelConfig}
    (hlevel : g.roundLevel = some level) (roundId : String) :
    ∃ d : Deal, d.toRoundSetup = g.roundSetup level roundId := by
  have hmem : level ∈ g.snapshot.blindLevels := by
    rcases Option.or_eq_some_iff.mp hlevel with hcurrent | ⟨-, hfirst⟩
    · exact List.mem_of_find?_eq_some hcurrent
    · exact List.mem_of_head? hfirst
  have hseats : ((g.snapshot.players.filter (·.plays)).map (·.seatNumber)).Nodup :=
    hcons.seatNumbers.sublist (List.filter_sublist.map _)
  have hnames : (g.snapshot.activePlayers.map (·.playerId)).Nodup :=
    (bySeat_perm.map _).nodup_iff.mpr (hcons.playerIds.sublist (List.filter_sublist.map _))
  refine ⟨⟨g.roundSetup level roundId, ?_, ?_, ?_, ?_, ?_, (hblinds level hmem).1,
    (hblinds level hmem).2⟩, rfl⟩
  · simpa [GameTables.roundSetup, Game.roundSetup, RoomConfig.activeSeats] using htwo
  · simp only [GameTables.roundSetup, Game.roundSetup, List.pairwise_map]
    exact bySeat_pairwise hseats
  · simpa [GameTables.roundSetup, Game.roundSetup, Function.comp_def,
      PlayerConfig.seatPlayer] using hnames
  · simp only [GameTables.roundSetup, Game.roundSetup, List.forall_mem_map]
    exact fun p hp => hids p (mem_activePlayers.mp hp).1
  · simp only [GameTables.roundSetup, Game.roundSetup, List.forall_mem_map]
    exact fun p hp => (PlayerConfig.plays_iff.mp (mem_activePlayers.mp hp).2).2.2

/-! ## One command -/

/-- The rows of a round stay under its identifier. -/
lemma mem_putRound_iff (hids : (g.rounds.map (·.round.roundId)).Nodup) {q : RoundTables} :
    q ∈ (g.putRound r').rounds ↔
      (∃ r ∈ g.rounds, r.round.roundId = r'.round.roundId ∧ q = r') ∨
        (q ∈ g.rounds ∧ q.round.roundId ≠ r'.round.roundId) :=
  mem_updateFirst_iff hids

/-- Replacing the rows of one round keeps what holds of every round, if it holds of these rows. -/
lemma forall_putRound {P : RoundTables → Prop} (h : ∀ q ∈ g.rounds, P q) (hr' : P r') :
    ∀ q ∈ (g.putRound r').rounds, P q :=
  forall_updateFirst h fun _ _ _ => hr'

/-- Starting a round keeps a game sound. -/
lemma GameSound.started (h : GameSound g dealt) (hstatus : g.game.status = .active)
    (hnone : ∀ r ∈ g.rounds, r.round.status ≠ .active) {level : BlindLevelConfig}
    (hlevel : g.roundLevel = some level) {roundId : String} {ids : Uuids}
    (hdeal : createRound (g.roundSetup level roundId) ids = .ok r)
    (hcons : GameTables.Constraints { g with rounds := g.rounds ++ [r] }) :
    GameSound { g with rounds := g.rounds ++ [r] }
      (Function.update dealt roundId g.snapshot.activeChips) := by
  obtain ⟨d, hd⟩ := exists_deal_of_snapshot h.constraints.snapshot h.ids_ne h.blinds
    (h.two_le (by simp [hstatus])) hlevel roundId
  rw [← hd] at hdeal
  obtain ⟨-, hround, rfl⟩ := createRound_eq_ok_iff.mp hdeal
  have hplayers : d.players = g.snapshot.activePlayers.map (·.seatPlayer) := by
    rw [hd]
    rfl
  have hid : (d.tables ids).round.roundId = roundId := by
    rw [hd]
    rfl
  have hrecorded : Function.update dealt roundId g.snapshot.activeChips
      (d.tables ids).round.roundId = d.dealtTotal := by
    rw [hid, Function.update_self, RoundSetup.dealtTotal, hplayers, List.map_map]
    rfl
  have hnew : DealtFrom g.snapshot (Function.update dealt roundId g.snapshot.activeChips) d
      (d.tables ids) :=
    ⟨seatedAs_tables _ ids, chipsConserved_tables d ids, hplayers, hrecorded⟩
  have hactive : ∀ q ∈ g.rounds ++ [d.tables ids], q.round.status = .active → q = d.tables ids := by
    intro q hq hstatus'
    rcases List.mem_append.mp hq with hq | hq
    · exact absurd hstatus' (hnone q hq)
    · exact List.mem_singleton.mp hq
  refine ⟨hcons, ?_, h.ids_ne, h.blinds, h.two_le, ?_, ?_⟩
  · exact List.forall_mem_append.mpr ⟨h.rounds, List.forall_mem_singleton.mpr hround⟩
  · intro q hq q' hq' hstatus' hstatus''
    rw [hactive q hq hstatus', hactive q' hq' hstatus'']
  · intro q hq hstatus'
    rw [hactive q hq hstatus']
    exact ⟨d, hnew⟩

/-- A command of the betting keeps the identifier and the status of a round. -/
lemma betting_keeps (hcons : r.Constraints) {c : BettingCommand}
    (hstep : bettingMachine.step r c = .ok r') :
    r'.round.roundId = r.round.roundId ∧ r'.round.status = r.round.status ∧ r'.Constraints := by
  rcases betting_step_cases hcons.playerIds hstep with
    ⟨rfl, -⟩ | ⟨data, ids, p, a, v, -, happ⟩ | ⟨-, hadv⟩
  · exact ⟨rfl, rfl, hcons⟩
  · refine ⟨?_, ?_, happ.constraints⟩
    · rw [happ.after]
      rfl
    · rw [happ.after]
      rfl
  · have hsame : r'.round.roundId = r.round.roundId ∧ r'.round.status = r.round.status := by
      cases hadv.outcome with
      | settleHand | showdown | nextStreet => exact ⟨rfl, rfl⟩
    exact ⟨hsame.1, hsame.2, hadv.constraints⟩

/-- Playing on keeps a game sound. -/
lemma GameSound.acted (h : GameSound g dealt) (hr : r ∈ g.rounds) {c : BettingCommand}
    (hstep : bettingMachine.step r c = .ok r') (hcons : (g.putRound r').Constraints) :
    GameSound (g.putRound r') dealt := by
  obtain ⟨hid, hstatus, hround⟩ := betting_keeps (h.rounds r hr) hstep
  have hrows : ∀ q ∈ (g.putRound r').rounds, q = r' ∨ q ∈ g.rounds := fun q hq => by
    rcases (mem_putRound_iff h.constraints.roundIds).mp hq with ⟨-, -, -, rfl⟩ | ⟨hq, -⟩
    · exact Or.inl rfl
    · exact Or.inr hq
  -- every active round was active before, under the same identifier
  have hbefore : ∀ q ∈ (g.putRound r').rounds, q.round.status = .active →
      ∃ q₀ ∈ g.rounds, q₀.round.status = .active ∧ q₀.round.roundId = q.round.roundId := by
    intro q hq hactive
    rcases hrows q hq with rfl | hq
    · exact ⟨r, hr, hstatus.symm.trans hactive, hid.symm⟩
    · exact ⟨q, hq, hactive, rfl⟩
  refine ⟨hcons, forall_putRound h.rounds hround, h.ids_ne, h.blinds, h.two_le, ?_, ?_⟩
  · intro q hq q' hq' hactive hactive'
    obtain ⟨q₀, hq₀, hactive₀, hid₀⟩ := hbefore q hq hactive
    obtain ⟨q₁, hq₁, hactive₁, hid₁⟩ := hbefore q' hq' hactive'
    rw [← hid₀, ← hid₁]
    exact h.one_active q₀ hq₀ q₁ hq₁ hactive₀ hactive₁
  · intro q hq hactive
    rcases hrows q hq with rfl | hq
    · obtain ⟨d, hdealt⟩ := h.in_play r hr (hstatus.symm.trans hactive)
      obtain ⟨hseat, hchips⟩ := chipsConserved_step hdealt.seating hdealt.chips hstep
      exact ⟨d, hseat, hchips, hdealt.players, hid ▸ hdealt.recorded⟩
    · exact h.in_play q hq hactive

/-- After a settlement a game that is not over has two players. -/
lemma moveOn_status {game : Game} {activeSeats : List Int}
    (h : (game.moveOn activeSeats).status ≠ .finished) : 2 ≤ activeSeats.length := by
  unfold Game.moveOn at h
  split at h
  · next htwo => exact htwo
  · exact absurd rfl h

/-- A settlement keeps the players of the snapshot. -/
lemma ids_ne_settled (h : ∀ p ∈ g.snapshot.players, p.playerId ≠ "") :
    ∀ p ∈ (g.settled r r' clock).snapshot.players, p.playerId ≠ "" := by
  have hnames : (g.settled r r' clock).snapshot.players.map (·.playerId) =
      g.snapshot.players.map (·.playerId) := map_syncRoomSnapshotPlayersFromRound fun _ _ => rfl
  intro p hp
  have hmem := List.mem_map_of_mem (f := fun p : PlayerConfig => p.playerId) hp
  rw [hnames] at hmem
  obtain ⟨q, hq, hname⟩ := List.mem_map.mp hmem
  exact hname ▸ h q hq

/-- A settlement keeps a game sound. -/
lemma GameSound.settled (h : GameSound g dealt) (hr : r ∈ g.rounds) {data : ResolveHandRequest}
    {ids : Uuids} (hset : Settled r data ids r') (hcons : (g.settled r r' clock).Constraints) :
    GameSound (g.settled r r' clock) dealt := by
  obtain ⟨hid, hcompleted⟩ := hset.round_eq
  -- the settled round was the only active one
  have hinactive : ∀ q ∈ (g.settled r r' clock).rounds, q.round.status ≠ .active := by
    intro q hq hactive
    rcases (mem_putRound_iff h.constraints.roundIds).mp hq with ⟨-, -, -, rfl⟩ | ⟨hq, hne⟩
    · rw [hcompleted] at hactive
      cases hactive
    · exact hne ((h.one_active q hq r hr hactive hset.status).trans hid.symm)
  refine ⟨hcons, forall_putRound h.rounds hset.constraints, ?_, h.blinds, ?_,
    fun q hq _ _ hactive => absurd hactive (hinactive q hq),
    fun q hq hactive => absurd hactive (hinactive q hq)⟩
  · exact ids_ne_settled h.ids_ne
  · intro hstatus
    have htwo := moveOn_status hstatus
    rw [remainingSeats, List.length_map] at htwo
    rw [RoomConfig.activeSeats, List.length_map, RoomConfig.activePlayers, bySeat_perm.length_eq]
    exact htwo

/-- Only the start of a round deals chips. -/
lemma recordDeal_of_administrative {c : GameCommand} (hc : c.IsAdministrative) :
    recordDeal g c g' dealt = dealt := by
  cases c with
  | startRound | round => cases hc
  | advanceBlinds | pauseTable | resumeTable | recordHandCompleted | endGame => rfl

/-- The settled round is one of the game. -/
lemma settlement?_mem {c : GameCommand} {data : ResolveHandRequest} {ids : Uuids}
    (hc : c.settlement? g = some (r, data, ids)) : r ∈ g.rounds := by
  cases c with
  | round roundId c clock =>
    obtain ⟨r₀, hfind, hmap⟩ := Option.bind_eq_some_iff.mp hc
    obtain ⟨s, -, heq⟩ := Option.map_eq_some_iff.mp hmap
    obtain rfl := (Prod.mk.inj heq).1
    exact (find?_roundId hfind).1
  | startRound | advanceBlinds | pauseTable | resumeTable | recordHandCompleted
    | endGame => cases hc

/-- An accepted command that corrects nothing keeps a game sound. -/
lemma GameSound.step (h : GameSound g dealt) {c : GameCommand} (hcorr : ¬ c.IsCorrection)
    (hstep : GameStep g c g') (hcons : g'.Constraints) :
    GameSound g' (recordDeal g c g' dealt) := by
  cases hstep with
  | started hstatus hnone hlevel hdeal => exact h.started hstatus hnone hlevel hdeal hcons
  | acted hfind hc hstep =>
    obtain ⟨c', -, hbetting⟩ := exists_betting hcorr hc hstep
    exact h.acted (find?_roundId hfind).1 hbetting hcons
  | settled hc hset => exact h.settled (settlement?_mem hc) hset hcons
  | administered hc hstatus =>
    rw [recordDeal_of_administrative hc]
    exact ⟨hcons, h.rounds, h.ids_ne, h.blinds, fun hactive => h.two_le (hstatus hactive),
      h.one_active, h.in_play⟩

/-- The players of a new game have identifiers and its blinds are not negative. -/
lemma GameStarted.snapshot_sound {room : RoomDetail} (h : GameStarted room.toRoomConfig g) :
    (∀ p ∈ g.snapshot.players, p.playerId ≠ "") ∧
      ∀ bl ∈ g.snapshot.blindLevels, 0 ≤ bl.smallBlind ∧ 0 ≤ bl.bigBlind := by
  rw [h.snapshot]
  refine ⟨fun p hp => room.ids_ne p (mem_bySeat.mp hp), fun bl hbl => ?_⟩
  have hmem := mem_bySeat.mp hbl
  exact ⟨(room.smallBlind_pos bl hmem).le, (room.bigBlind_pos bl hmem).le⟩

/-- A new game is sound. -/
lemma gameSound_of_startGame {existing : Option Game} {room : RoomDetail}
    {activated : Except Rejection Unit} {gameId : String} {now : Int}
    (h : startGame existing room.toRoomConfig activated gameId now = .ok g) :
    GameSound g fun _ => 0 := by
  have hnew := gameStarted_of_startGame h
  obtain ⟨hids, hblinds⟩ := hnew.snapshot_sound
  refine ⟨hnew.constraints, ?_, hids, hblinds, fun _ => ?_, ?_, ?_⟩
  · simp [hnew.rounds]
  · rw [hnew.snapshot]
    exact hnew.two_le.trans_eq activeSeats_saveRoomSnapshot_perm.length_eq
  · simp [hnew.rounds]
  · simp [hnew.rounds]

/-! ## The chips -/

/-- A settlement leaves its players what they were dealt, plus what it pays, less what was in the
pot. -/
lemma GameSound.stackTotal_settled (h : GameSound g dealt) (hr : r ∈ g.rounds)
    {data : ResolveHandRequest} {ids : Uuids} (hset : Settled r data ids r') :
    stackTotal r' = dealt r.round.roundId + (data.totalPaid - r.round.potAmount) := by
  obtain ⟨d, hdealt⟩ := h.in_play r hr hset.status
  have hcov : PotCovered r := ⟨h.rounds r hr, hdealt.chips.pot.le⟩
  have hstack : stackTotal r' = stackTotal r + data.totalPaid :=
    hset.sum_stack hdealt.seating.ids_nodup hcov
  have htotal := hdealt.chips.stackTotal_add_pot hdealt.seating
  rw [hdealt.recorded]
  omega

/-- A settlement changes the chips of the snapshot by what it pays, less what was in the pot. -/
lemma GameSound.chipTotal_settled (h : GameSound g dealt) (hr : r ∈ g.rounds)
    {data : ResolveHandRequest} {ids : Uuids} (hset : Settled r data ids r') :
    (g.settled r r' clock).snapshot.chipTotal =
      g.snapshot.chipTotal + (data.totalPaid - r.round.potAmount) := by
  have hstacks := h.stackTotal_settled hr hset
  obtain ⟨d, hdealt⟩ := h.in_play r hr hset.status
  have hseat : SeatedAs d.toRoundSetup r' := by
    rw [hset.after]
    exact hdealt.seating.congr (map_foldl_award fun _ _ => rfl) (map_foldl_award fun _ _ => rfl)
  have hrow : ∀ rp ∈ r'.players, ∃ p ∈ g.snapshot.players, p.playerId = rp.playerId ∧
      p.chipCount = d.dealt rp.playerId := by
    intro rp hrp
    have hmem : rp.playerId ∈ d.players.map (·.playerId) :=
      hseat.playerIds ▸ List.mem_map_of_mem hrp
    obtain ⟨q, hq, hid⟩ := List.mem_map.mp hmem
    have hq' := hq
    rw [hdealt.players] at hq'
    obtain ⟨p, hp, rfl⟩ := List.mem_map.mp hq'
    refine ⟨p, (mem_activePlayers.mp hp).1, hid, ?_⟩
    rw [← hid, dealt_of_mem hq]
    rfl
  have hsum := sum_syncRoomSnapshotPlayersFromRound h.constraints.snapshot.playerIds
    hseat.ids_nodup hrow
  have hmax : (r'.players.map fun rp => max rp.stackRemaining 0 - d.dealt rp.playerId) =
      r'.players.map fun rp => rp.stackRemaining - d.dealt rp.playerId :=
    List.map_congr_left fun rp hrp => by rw [max_eq_left (hset.constraints.players rp hrp).1]
  have hsplit : (r'.players.map fun rp => rp.stackRemaining - d.dealt rp.playerId).sum +
      d.dealtTotal = stackTotal r' := by
    rw [← hseat.sum_dealt, ← List.sum_map_add]
    simp [stackTotal]
  rw [hmax] at hsum
  rw [hdealt.recorded] at hstacks
  simp only [RoomConfig.chipTotal, GameTables.settled] at hsum ⊢
  omega

/-- A command that settles nothing leaves the chips of the snapshot alone. -/
lemma GameStep.chipTotal_eq {c : GameCommand} (hstep : GameStep g c g')
    (hc : c.settlement? g = none) : g'.snapshot.chipTotal = g.snapshot.chipTotal := by
  cases hstep with
  | started | acted | administered => rfl
  | settled hc' hset =>
    rw [hc] at hc'
    cases hc'

/-- The settlement an accepted command asks for is carried out. -/
lemma GameStep.exists_settled {c : GameCommand} (hstep : GameStep g c g')
    {data : ResolveHandRequest} {ids : Uuids} (hc : c.settlement? g = some (r, data, ids)) :
    ∃ r' clock, Settled r data ids r' ∧ g' = g.settled r r' clock := by
  cases hstep with
  | started => cases hc
  | @acted roundId c clock r₁ r' hfind hc' hstep =>
    simp [GameCommand.settlement?, hfind, hc'] at hc
  | @settled roundId c clock r₁ r' data' ids' hc' hset =>
    obtain ⟨rfl, heq⟩ := Prod.mk.inj (Option.some.inj (hc.symm.trans hc'))
    obtain ⟨rfl, rfl⟩ := Prod.mk.inj heq
    exact ⟨r', clock, hset, rfl⟩
  | @administered c game hc' hstatus =>
    cases c with
    | startRound | round => cases hc'
    | advanceBlinds | pauseTable | resumeTable | recordHandCompleted | endGame => cases hc

/-- The hand of a settlement is conserved exactly when it pays the whole pot. -/
lemma GameSound.hand_iff (h : GameSound g dealt) (hr : r ∈ g.rounds) {data : ResolveHandRequest}
    {ids : Uuids} (hset : Settled r data ids r') :
    (∃ q ∈ (g.settled r r' clock).rounds, q.round.roundId = r.round.roundId ∧
      stackTotal q = dealt r.round.roundId) ↔ data.totalPaid = r.round.potAmount := by
  have hstacks := h.stackTotal_settled hr hset
  have hid := hset.round_eq.1
  have hmem : ∀ q, q ∈ (g.putRound r').rounds ↔
      (∃ r ∈ g.rounds, r.round.roundId = r'.round.roundId ∧ q = r') ∨
        (q ∈ g.rounds ∧ q.round.roundId ≠ r'.round.roundId) :=
    fun q => mem_putRound_iff h.constraints.roundIds
  constructor
  · rintro ⟨q, hq, hqid, hqtotal⟩
    rcases (hmem q).mp hq with ⟨-, -, -, rfl⟩ | ⟨-, hne⟩
    · omega
    · exact absurd (hqid.trans hid.symm) hne
  · intro hexact
    exact ⟨r', (hmem r').mpr (Or.inl ⟨r, hr, hid.symm, rfl⟩), hid, by omega⟩

/-- A step of a game and its record that corrects nothing. -/
lemma GameSound.step_instrument {p p' : GameTables × (String → Int)} {c : GameCommand}
    (h : GameSound p.1 p.2) (hcorr : ¬ c.IsCorrection)
    (hok : (gameMachine.instrument recordDeal).step p c = .ok p') :
    GameStep p.1 c p'.1 ∧ GameSound p'.1 p'.2 := by
  obtain ⟨g', dealt'⟩ := p'
  obtain ⟨hgame, rfl⟩ := Machine.instrument_step_eq_ok_iff.mp hok
  obtain ⟨hstep, hcons⟩ := game_step_cases hgame
  exact ⟨hstep, h.step hcorr hstep hcons⟩

/-- **When a game conserves its chips.** Take any game started from a room, and any run of commands
on it without corrections: rounds started, played and settled, hands declared won, blinds raised,
the table paused and resumed.  Every accepted settlement leaves the players of its hand what they
were dealt, and the room what it started with, exactly when none of them asks for less than the
pot. -/
theorem settlements_conserve_iff {existing : Option Game} {room : RoomDetail}
    {activated : Except Rejection Unit} {gameId : String} {now : Int} {g₀ : GameTables}
    (hstart : startGame existing room.toRoomConfig activated gameId now = .ok g₀)
    {cs : List GameCommand} (hcs : ∀ c ∈ cs, ¬ c.IsCorrection) :
    SettlementsConserve g₀ cs ↔
      ∀ t ∈ dealtTrace g₀ cs, ∀ s ∈ t.command.settlement? t.before.1,
        s.1.round.potAmount ≤ s.2.1.totalPaid := by
  have hclass : ∀ t ∈ dealtTrace g₀ cs, ¬ t.command.IsCorrection :=
    fun t ht => hcs t.command (Machine.command_mem_of_mem_trace ht)
  have hsound₀ := gameSound_of_startGame hstart
  have hsound : ∀ t ∈ dealtTrace g₀ cs, GameSound t.before.1 t.before.2 ∧
      GameStep t.before.1 t.command t.after.1 := by
    intro t ht
    obtain ⟨hbefore, hok, -⟩ := Machine.trace_invariant_of_forall
      (I := fun p : GameTables × (String → Int) => GameSound p.1 p.2)
      (P := fun t : Transition _ GameCommand => ¬ t.command.IsCorrection)
      (fun _ _ _ hcorr hp hok => (hp.step_instrument hcorr hok).2) hsound₀ hclass t ht
    exact ⟨hbefore, (hbefore.step_instrument (hclass t ht) hok).1⟩
  constructor
  · intro hconserve t ht s hs
    obtain ⟨hbefore, hstep⟩ := hsound t ht
    obtain ⟨r', clock, hset, hafter⟩ := hstep.exists_settled hs
    have hhand := (hconserve t ht s hs).hand
    rw [hafter] at hhand
    exact ((hbefore.hand_iff (settlement?_mem hs) hset).mp hhand).ge
  · intro hwhole
    have htotal : ∀ t ∈ dealtTrace g₀ cs,
        t.after.1.snapshot.chipTotal = g₀.snapshot.chipTotal := by
      intro t ht
      refine (Machine.trace_invariant_of_forall
        (I := fun p : GameTables × (String → Int) => GameSound p.1 p.2 ∧
          p.1.snapshot.chipTotal = g₀.snapshot.chipTotal)
        (P := fun t : Transition _ GameCommand => ¬ t.command.IsCorrection ∧
          ∀ s ∈ t.command.settlement? t.before.1, s.1.round.potAmount ≤ s.2.1.totalPaid)
        ?_ ⟨hsound₀, rfl⟩ (fun t ht => ⟨hclass t ht, hwhole t ht⟩) t ht).2.2.2
      rintro p c p' ⟨hcorr, hpaid⟩ ⟨hp, htotal⟩ hok
      obtain ⟨hstep, hp'⟩ := hp.step_instrument hcorr hok
      refine ⟨hp', ?_⟩
      cases hc : c.settlement? p.1 with
      | none => rw [hstep.chipTotal_eq hc, htotal]
      | some s =>
        obtain ⟨r', clock, hset, hafter⟩ := hstep.exists_settled hc
        have hexact := le_antisymm hset.total_le (hpaid s hc)
        rw [hafter, hp.chipTotal_settled (settlement?_mem hc) hset, hexact, sub_self, add_zero,
          htotal]
    intro t ht s hs
    obtain ⟨hbefore, hstep⟩ := hsound t ht
    obtain ⟨r', clock, hset, hafter⟩ := hstep.exists_settled hs
    refine ⟨?_, htotal t ht⟩
    rw [hafter]
    exact (hbefore.hand_iff (settlement?_mem hs) hset).mpr
      (le_antisymm hset.total_le (hwhole t ht s hs))

/-- A room of two players with a hundred chips each, and blinds of one and two chips. -/
def headsUpRoom : RoomDetail where
  roomId := "room"
  startingDealerSeat := 1
  antesEnabled := false
  players := [⟨"alice", 1, 100, true, false⟩, ⟨"bob", 2, 100, true, false⟩]
  blindLevels := [⟨1, 1, 2, 0, some 10⟩]
  ids_ne := by decide
  smallBlind_pos := by decide
  bigBlind_pos := by decide

/-- The game that starts in it. -/
def headsUpGame : GameTables where
  game :=
    { gameId := "game", roomId := "room", status := .active, currentBlindLevel := 1
      levelStartedAt := 0, currentDealerSeat := 1, currentSmallBlindSeat := 1
      currentBigBlindSeat := 2, handsPlayed := 0, handsAtCurrentLevel := 0 }
  snapshot := headsUpRoom.toRoomConfig
  rounds := []

/-- The controller of the table asks for a round. -/
def controllerStart : StartRoundRequest := { startedByController := true }

/-- A hand of this game in which the small blind folds before the flop and the other player is paid
as requested. -/
def foldedGame (payout : ResolveHandRequest) : List GameCommand :=
  [.startRound controllerStart "round" headsUpIds,
    .round "round" (.betting (.send "alice" "fold" 0 "b1" "e1")) fun _ => 0,
    .round "round" (.resolveHand payout (named ["p1", "p2", "done"])) fun _ => 0]

/-- The game goes on with all chips after a hand that is folded and paid in full. -/
theorem settlements_conserve_iff_headsUp :
    SettlementsConserve headsUpGame (foldedGame foldedHandPayout) :=
  (settlements_conserve_iff
    (show startGame none headsUpRoom.toRoomConfig (.ok ()) "game" 0 = .ok headsUpGame by decide)
    (by decide)).mpr (by decide)

/-- A settlement that leaves the side pot of the folded hand unpaid. -/
def mainPotOnly : ResolveHandRequest where
  payouts := foldedHandPayout.payouts.take 1
  payouts_ne := by decide

/-- A settlement that pays the main pot only is accepted, and a chip leaves the game. -/
theorem unpaid_pot_leaves_game :
    ¬ ∀ (existing : Option Game) (room : RoomDetail) (activated : Except Rejection Unit)
      (gameId : String) (now : Int) (g₀ : GameTables),
      startGame existing room.toRoomConfig activated gameId now = .ok g₀ →
      ∀ cs : List GameCommand, (∀ c ∈ cs, ¬ c.IsCorrection) → SettlementsConserve g₀ cs := by
  intro h
  have hconserve := h none headsUpRoom (.ok ()) "game" 0 headsUpGame (by decide)
    (foldedGame mainPotOnly) (by decide)
  obtain ⟨t, ht, s, hs, htotal⟩ : ∃ t ∈ dealtTrace headsUpGame (foldedGame mainPotOnly),
      ∃ s ∈ t.command.settlement? t.before.1, t.after.1.snapshot.chipTotal = 199 := by
    decide
  have hsnapshot := (hconserve t ht s hs).snapshot
  rw [htotal] at hsnapshot
  exact absurd hsnapshot (by decide)

end PokerRoom
