import PokerRoom.Game.ChipConservation

/-!
# The positions of a game

The button and the blinds are placed when a game starts and move on with every settlement, while the
players who are dealt in are read from the snapshot.  `positions_dealt_in` says that in every game
that goes on the positions are held by players who are dealt in.
-/

namespace PokerRoom

open Foundation

/-! ## Definitions -/

/-- The positions of a round are held by players who are dealt in: the blinds by two different ones,
and the button posts the small blind exactly heads-up. -/
structure PositionsDealtIn (s : RoundSetup) : Prop where
  /-- Two players are dealt in. -/
  two_le : 2 ≤ s.players.length
  /-- The button. -/
  dealer : ∃ p ∈ s.players, p.seatNumber = s.dealerSeat
  /-- The small blind. -/
  smallBlind : ∃ p ∈ s.players, p.seatNumber = s.smallBlindSeat
  /-- The big blind. -/
  bigBlind : ∃ p ∈ s.players, p.seatNumber = s.bigBlindSeat
  /-- The blinds. -/
  blinds_ne : s.smallBlindSeat ≠ s.bigBlindSeat
  /-- Heads-up. -/
  headsUp : s.dealerSeat = s.smallBlindSeat ↔ s.players.length = 2

/-- A game that is not over has its positions among the players of its snapshot. -/
def PositionsHeld (g : GameTables) : Prop :=
  g.game.status ≠ .finished → g.game.positions.Among g.snapshot.activeSeats

variable {g g' : GameTables} {r r' : RoundTables} {clock : Clock}

/-! ## One command -/

/-- The players who go on playing are the active ones of the new snapshot. -/
lemma remainingSeats_perm (config : RoomConfig) :
    (remainingSeats config.players).Perm config.activeSeats :=
  bySeat_perm.symm.map _

/-- A game that goes on moves its positions to the players who go on playing. -/
lemma moveOn_among {game : Game} {activeSeats : List Int} (hnd : activeSeats.Nodup)
    (h : (game.moveOn activeSeats).status ≠ .finished) :
    (game.moveOn activeSeats).positions.Among activeSeats := by
  have htwo := moveOn_status h
  have hne : activeSeats ≠ [] := List.length_pos_iff.mp (by omega)
  obtain ⟨positions, hpositions⟩ :=
    Option.isSome_iff_exists.mp (positions_isSome hne game.currentDealerSeat).2
  have hmove : (game.moveOn activeSeats).positions = positions := by
    simp only [Game.moveOn, if_pos htwo, hpositions, Game.positions]
  rw [hmove]
  exact positionsAt_among hnd htwo hpositions

/-- An accepted command on the table leaves the positions alone. -/
lemma TableStep.positions_eq {c : GameCommand} {game : Game} (hstep : TableStep g c game) :
    game.positions = g.game.positions := by
  cases hstep with
  | blindsAdvanced | paused | resumed | handRecorded | ended => rfl

/-- An accepted command keeps the positions held. -/
lemma PositionsHeld.of_ok {c : GameCommand} (h : PositionsHeld g)
    (hok : gameMachine.step g c = .ok g') : PositionsHeld g' := by
  obtain ⟨hstep, hcons⟩ := game_step_cases hok
  cases hstep with
  | started | acted => exact h
  | @settled roundId c clock r r' data ids hc hset =>
    intro hstatus
    have hperm := remainingSeats_perm (g.settled r r' clock).snapshot
    have hnd := hperm.nodup_iff.mpr hcons.snapshot.activeSeats_nodup
    exact (moveOn_among hnd hstatus).of_perm hperm
  | administered hc hstatus =>
    have htable := tableStep_of_ok hc hok
    intro hactive
    rw [htable.positions_eq]
    exact h (htable.status_ne hactive)

/-- A new game holds its positions. -/
lemma GameStarted.positionsHeld {roomConfig : RoomConfig} (h : GameStarted roomConfig g) :
    PositionsHeld g := by
  intro _
  have hperm : roomConfig.activeSeats.Perm g.snapshot.activeSeats := by
    rw [h.snapshot]
    exact activeSeats_saveRoomSnapshot_perm
  have hnd := hperm.nodup_iff.mpr h.constraints.snapshot.activeSeats_nodup
  exact (positionsAt_among hnd h.two_le h.positions).of_perm hperm

/-! ## Every run -/

/-- Positions held by the players of the snapshot are held by players who are dealt in. -/
lemma PositionsHeld.dealtIn (h : PositionsHeld g) (hstatus : g.game.status = .active)
    (level : BlindLevelConfig) (roundId : String) :
    PositionsDealtIn (g.roundSetup level roundId) := by
  have hheld := h (by simp [hstatus])
  have hseat : ∀ seat, seat ∈ g.snapshot.activeSeats →
      ∃ p ∈ (g.roundSetup level roundId).players, p.seatNumber = seat := by
    intro seat hmem
    obtain ⟨p, hp, rfl⟩ := List.mem_map.mp hmem
    exact ⟨p.seatPlayer, List.mem_map_of_mem hp, rfl⟩
  have hlen : (g.roundSetup level roundId).players.length = g.snapshot.activeSeats.length := by
    simp [GameTables.roundSetup, Game.roundSetup, RoomConfig.activeSeats]
  exact ⟨hlen ▸ hheld.two_le, hseat _ hheld.dealer, hseat _ hheld.smallBlind,
    hseat _ hheld.bigBlind,
    hheld.blinds_ne, hlen ▸ hheld.headsUp⟩

/-- **The positions are held by players who are dealt in.** After every run of commands on a game
started from a room, corrections and settlements of reopened hands included, the round an active
game would start next deals in at least two players; the button and the blinds are on seats of
these, the blinds on different ones, and the button posts the small blind exactly heads-up. -/
theorem positions_dealt_in {existing : Option Game} {roomConfig : RoomConfig}
    {activated : Except Rejection Unit} {gameId : String} {now : Int} {g₀ : GameTables}
    (hstart : startGame existing roomConfig activated gameId now = .ok g₀) (cs : List GameCommand)
    (hstatus : (gameMachine.run g₀ cs).game.status = .active) (level : BlindLevelConfig)
    (roundId : String) : PositionsDealtIn ((gameMachine.run g₀ cs).roundSetup level roundId) := by
  have hheld : PositionsHeld (gameMachine.run g₀ cs) :=
    Machine.run_invariant (fun _ _ _ h hok => h.of_ok hok)
      (gameStarted_of_startGame hstart).positionsHeld cs
  exact hheld.dealtIn hstatus level roundId

/-- After a hand that is folded heads-up the positions are held by its two players. -/
theorem positions_dealt_in_headsUp :
    PositionsDealtIn ((gameMachine.run headsUpGame (foldedGame foldedHandPayout)).roundSetup
      ⟨1, 1, 2, 0, some 10⟩ "second") :=
  positions_dealt_in
    (show startGame none headsUpRoom.toRoomConfig (.ok ()) "game" 0 = .ok headsUpGame by decide)
    (foldedGame foldedHandPayout) (by decide) _ _

end PokerRoom
