import PokerRoom.Foundation.Clockwise
import PokerRoom.Foundation.KeyedTable
import PokerRoom.Domain.Models

/-!
# The configuration of a room

`domain/integration/room_adapter.py` and the snapshot of `infrastructure/room_config.py`: the room
service hands out the players and the blind levels of a room, `start_game` stores them as the
snapshot of the game, and every settlement copies the stacks of its round back into the snapshot.

`sum_syncRoomSnapshotPlayersFromRound` says how such a copy changes the chips of the snapshot.
-/

namespace PokerRoom

open Foundation

/-! ## Definitions -/

/-- A level of the blind structure of a room. -/
structure BlindLevelConfig where
  /-- Number of the level. -/
  level : Int
  /-- The small blind. -/
  smallBlind : Int
  /-- The big blind. -/
  bigBlind : Int
  /-- The ante. -/
  ante : Int
  /-- How long the level lasts, if it is limited. -/
  durationMinutes : Option Int
deriving DecidableEq, Repr

/-- A player of a room. -/
structure PlayerConfig where
  /-- Identifier of the player. -/
  playerId : String
  /-- Seat the player occupies. -/
  seatNumber : Int
  /-- Chips the player has. -/
  chipCount : Int
  /-- The player takes part. -/
  isActive : Bool
  /-- The player has lost his chips. -/
  isEliminated : Bool
deriving DecidableEq, Repr

/-- The configuration of a room, and the snapshot a game keeps of it. -/
structure RoomConfig where
  /-- Identifier of the room. -/
  roomId : String
  /-- Seat of the first button. -/
  startingDealerSeat : Int
  /-- Antes are posted. -/
  antesEnabled : Bool
  /-- The players; those of a snapshot ascend by seat. -/
  players : List PlayerConfig
  /-- The blind levels; those of a snapshot ascend by number. -/
  blindLevels : List BlindLevelConfig
deriving DecidableEq, Repr

/-- The player takes part in the next hand. -/
def PlayerConfig.plays (p : PlayerConfig) : Bool :=
  p.isActive && !p.isEliminated && decide (0 < p.chipCount)

/-- The players who take part in the next hand, by seat. -/
def RoomConfig.activePlayers (config : RoomConfig) : List PlayerConfig :=
  bySeat (·.seatNumber) (config.players.filter (·.plays))

/-- Their seats. -/
def RoomConfig.activeSeats (config : RoomConfig) : List Int :=
  config.activePlayers.map (·.seatNumber)

/-- The blind level of a number. -/
def RoomConfig.blindLevel (config : RoomConfig) (levelNum : Int) : Option BlindLevelConfig :=
  config.blindLevels.find? fun bl => bl.level = levelNum

/-- The highest number of a blind level, `1` when there is none. -/
def RoomConfig.maxLevel (config : RoomConfig) : Int :=
  (config.blindLevels.map (·.level)).max?.getD 1

/-- The snapshot a configuration is saved as. -/
def saveRoomSnapshot (config : RoomConfig) : RoomConfig :=
  { config with
    players := bySeat (·.seatNumber) config.players
    blindLevels := bySeat (·.level) config.blindLevels }

/-- Copy the stack a player has left to his row of the snapshot. -/
def PlayerConfig.withStack (stackRemaining : Int) (p : PlayerConfig) : PlayerConfig :=
  let chipCount := max stackRemaining 0
  { p with
    chipCount := chipCount
    isActive := decide (0 < chipCount)
    isEliminated := decide (chipCount ≤ 0) }

/-- Copy the stacks of the players of a round to the players of a snapshot. -/
def syncRoomSnapshotPlayersFromRound (roundPlayers : List RoundPlayer)
    (snapshotPlayers : List PlayerConfig) : List PlayerConfig :=
  roundPlayers.foldl (fun players rp =>
    updateFirst (·.playerId) rp.playerId (PlayerConfig.withStack rp.stackRemaining) players)
    snapshotPlayers

/-- The check and uniqueness constraints on the rows of a snapshot. -/
structure RoomConfig.Constraints (config : RoomConfig) : Prop where
  /-- Players are distinct. -/
  playerIds : (config.players.map (·.playerId)).Nodup
  /-- Seats are distinct. -/
  seatNumbers : (config.players.map (·.seatNumber)).Nodup
  /-- Chips of the players. -/
  chipCounts : ∀ p ∈ config.players, 0 ≤ p.chipCount
  /-- Blind levels are distinct. -/
  levels : (config.blindLevels.map (·.level)).Nodup

instance : DecidablePred RoomConfig.Constraints := fun config =>
  decidable_of_iff
    ((config.players.map (·.playerId)).Nodup ∧ (config.players.map (·.seatNumber)).Nodup ∧
      (∀ p ∈ config.players, 0 ≤ p.chipCount) ∧ (config.blindLevels.map (·.level)).Nodup)
    ⟨fun ⟨h₁, h₂, h₃, h₄⟩ => ⟨h₁, h₂, h₃, h₄⟩, fun ⟨h₁, h₂, h₃, h₄⟩ => ⟨h₁, h₂, h₃, h₄⟩⟩

/-- A room as the room service hands it out: its players have identifiers, and its blind structure
was accepted by `set_blind_structure`, which refuses blinds that are not positive. -/
structure RoomDetail extends RoomConfig where
  /-- Every player has an identifier. -/
  ids_ne : ∀ p ∈ players, p.playerId ≠ ""
  /-- The small blinds are positive. -/
  smallBlind_pos : ∀ bl ∈ blindLevels, 0 < bl.smallBlind
  /-- The big blinds are positive. -/
  bigBlind_pos : ∀ bl ∈ blindLevels, 0 < bl.bigBlind

/-- The chips of all players of a room. -/
def RoomConfig.chipTotal (config : RoomConfig) : Int := (config.players.map (·.chipCount)).sum

/-- The chips of the players who take part in the next hand. -/
def RoomConfig.activeChips (config : RoomConfig) : Int :=
  (config.activePlayers.map (·.chipCount)).sum

/-! ## The players of a snapshot -/

variable {config : RoomConfig} {p : PlayerConfig} {roundPlayers : List RoundPlayer}
  {players : List PlayerConfig}

/-- Who takes part. -/
lemma PlayerConfig.plays_iff :
    p.plays = true ↔ p.isActive = true ∧ p.isEliminated = false ∧ 0 < p.chipCount := by
  simp [PlayerConfig.plays, and_assoc]

/-- The active players are the players who take part. -/
lemma mem_activePlayers : p ∈ config.activePlayers ↔ p ∈ config.players ∧ p.plays = true := by
  simp [RoomConfig.activePlayers]

/-- The snapshot of a room has the seats of the room. -/
lemma activeSeats_saveRoomSnapshot_perm :
    config.activeSeats.Perm (saveRoomSnapshot config).activeSeats := by
  refine List.Perm.map _ (bySeat_perm.trans (List.Perm.trans ?_ bySeat_perm.symm))
  exact bySeat_perm.symm.filter _

/-- Where the active players are on distinct seats, the snapshot of a room has them in the same
order. -/
lemma activePlayers_saveRoomSnapshot (hnd : config.activeSeats.Nodup) :
    (saveRoomSnapshot config).activePlayers = config.activePlayers := by
  have hseats : ((config.players.filter (·.plays)).map (·.seatNumber)).Nodup :=
    (bySeat_perm.map _).nodup_iff.mp hnd
  exact (bySeat_eq_of_perm hseats (bySeat_perm.symm.filter _)).symm

/-- The seats of the active players are distinct. -/
lemma RoomConfig.Constraints.activeSeats_nodup (h : config.Constraints) :
    config.activeSeats.Nodup :=
  (bySeat_perm.map _).nodup_iff.mpr (h.seatNumbers.sublist (List.filter_sublist.map _))

/-- A copy of stacks keeps whatever does not depend on the chips. -/
lemma map_syncRoomSnapshotPlayersFromRound {β : Type} {f : PlayerConfig → β}
    (hf : ∀ x p, f (PlayerConfig.withStack x p) = f p) :
    (syncRoomSnapshotPlayersFromRound roundPlayers players).map f = players.map f := by
  unfold syncRoomSnapshotPlayersFromRound
  induction roundPlayers generalizing players with
  | nil => rfl
  | cons rp roundPlayers ih =>
    rw [List.foldl_cons, ih]
    exact map_updateFirst_of_eq _ fun p => hf _ p

/-- The players after a copy of stacks: those of the round with the stacks they have left, and the
others as they were. -/
lemma mem_syncRoomSnapshotPlayersFromRound (hplayers : (players.map (·.playerId)).Nodup)
    (hround : (roundPlayers.map (·.playerId)).Nodup) :
    p ∈ syncRoomSnapshotPlayersFromRound roundPlayers players ↔
      (∃ rp ∈ roundPlayers, ∃ q ∈ players, q.playerId = rp.playerId ∧
        p = q.withStack rp.stackRemaining) ∨
      (p ∈ players ∧ ∀ rp ∈ roundPlayers, rp.playerId ≠ p.playerId) := by
  have hmap := foldl_updateFirst_eq_map
    (f := fun rp : RoundPlayer => PlayerConfig.withStack rp.stackRemaining)
      (fun _ _ => rfl) hplayers
    hround
  rw [syncRoomSnapshotPlayersFromRound, hmap, List.mem_map]
  constructor
  · rintro ⟨q, hq, rfl⟩
    cases hfind : roundPlayers.find? fun rp => rp.playerId = q.playerId with
    | none => exact Or.inr ⟨hq, find?_key_eq_none_iff.mp hfind⟩
    | some rp =>
      obtain ⟨hrp, hid⟩ := mem_of_find?_key hfind
      exact Or.inl ⟨rp, hrp, q, hq, hid.symm, rfl⟩
  · rintro (⟨rp, hrp, q, hq, hid, rfl⟩ | ⟨hp, hnone⟩)
    · refine ⟨q, hq, ?_⟩
      rw [(find?_key_eq_some_iff hround).mpr ⟨hrp, hid.symm⟩]
      rfl
    · refine ⟨p, hp, ?_⟩
      rw [find?_key_eq_none_iff.mpr hnone]
      rfl

/-- How a copy changes the chips of a snapshot: where every player of the round has a row, which
holds the given chips, these are replaced by what he has left. -/
theorem sum_syncRoomSnapshotPlayersFromRound (hplayers : (players.map (·.playerId)).Nodup)
    (hround : (roundPlayers.map (·.playerId)).Nodup) {dealt : String → Int}
    (hrow : ∀ rp ∈ roundPlayers, ∃ p ∈ players, p.playerId = rp.playerId ∧
      p.chipCount = dealt rp.playerId) :
    ((syncRoomSnapshotPlayersFromRound roundPlayers players).map (·.chipCount)).sum =
      (players.map (·.chipCount)).sum +
        (roundPlayers.map fun rp => max rp.stackRemaining 0 - dealt rp.playerId).sum := by
  refine sum_map_foldl_updateFirst (f := fun rp => PlayerConfig.withStack rp.stackRemaining)
    (·.chipCount) (fun _ _ => rfl) hplayers hround fun rp hrp => ?_
  obtain ⟨p, hp, hid, hchips⟩ := hrow rp hrp
  refine ⟨p, hp, hid, ?_⟩
  rw [hchips]
  rfl

end PokerRoom
