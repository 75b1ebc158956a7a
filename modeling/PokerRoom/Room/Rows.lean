import PokerRoom.Application.RoomCommands

/-!
# The rows of a room

What every command on a room keeps: the rows it leaves satisfy the constraints, nobody has a
negative number of chips, the room stays the same one, and a finished room stays finished.
-/

namespace PokerRoom

open Foundation

/-! ## Definitions -/

/-- The rows of a room that were written by its commands. -/
structure RoomTables.Sound (t : RoomTables) : Prop where
  /-- The uniqueness constraint. -/
  constraints : t.Constraints
  /-- Players start with chips. -/
  startingChips : 0 ≤ t.room.startingChips
  /-- Nobody has a negative number of chips. -/
  chips : ∀ p ∈ t.players, 0 ≤ p.chipCount

/-- The room of an accepted command is the same, and a finished one stays finished. -/
structure SameRoom (t t' : RoomTables) : Prop where
  /-- The identifier. -/
  roomId : t'.room.roomId = t.room.roomId
  /-- The chips to start with. -/
  startingChips : t'.room.startingChips = t.room.startingChips
  /-- The status. -/
  finished : t.room.status = .finished → t'.room.status = .finished

variable {t t' : RoomTables}

/-- An accepted update of the row of a player. -/
lemma updatePlayer_eq_ok_iff {playerId : String} {f : RoomPlayer → RoomPlayer} :
    t.updatePlayer playerId f = .ok t' ↔ (∃ p ∈ t.players, p.playerId = playerId) ∧
      t'.Constraints ∧
        t' = { t with players := updateFirst (·.playerId) playerId f t.players } := by
  unfold RoomTables.updatePlayer
  simp only [bind_eq_ok_iff, require_eq_ok_iff, RoomTables.flush_eq_ok_iff]
  constructor
  · rintro ⟨-, hp, hcons, rfl⟩
    exact ⟨hp, hcons, rfl⟩
  · rintro ⟨hp, hcons, rfl⟩
    exact ⟨(), hp, hcons, rfl⟩

/-- The row of a player who joins. -/
lemma player_of_joinRoomByCode {code playerId : String} {data : JoinRoom} {player : RoomPlayer}
    (h : joinRoomByCode t code data playerId = .ok (player, t')) :
    ∃ seatNumber, player = data.player t.room playerId seatNumber := by
  simp only [joinRoomByCode, bind_eq_ok_iff, insertPlayer_eq_ok_iff] at h
  obtain ⟨-, -, -, -, -, -, -, -, seat, -, hplayer, -⟩ := h
  exact ⟨seat, hplayer⟩

/-- Reordering the seats keeps the chips. -/
lemma ReorderSeats.map_chipCount_write (data : ReorderSeats) (players : List RoomPlayer) :
    (data.write players).map (·.chipCount) = players.map (·.chipCount) := by
  unfold ReorderSeats.write
  induction data.assignments generalizing players with
  | nil => rfl
  | cons assignment assignments ih =>
    rw [List.foldl_cons, ih]
    exact map_updateFirst_of_eq _ fun _ => rfl

/-! ## One command -/

/-- An accepted command keeps the room and keeps its rows sound. -/
lemma RoomTables.Sound.step (h : t.Sound) {c : RoomCommand}
    (hstep : roomMachine.step t c = .ok t') :
    t'.Sound ∧ SameRoom t t' := by
  have hupdate : ∀ {playerId : String} {f : RoomPlayer → RoomPlayer},
      (∀ p ∈ t.players, 0 ≤ (f p).chipCount) → t.updatePlayer playerId f = .ok t' →
      t'.Sound ∧ SameRoom t t' := by
    intro playerId f hf hok
    obtain ⟨-, hcons, rfl⟩ := updatePlayer_eq_ok_iff.mp hok
    exact ⟨⟨hcons, h.startingChips, forall_updateFirst h.chips fun p hp _ => hf p hp⟩,
      rfl, rfl, id⟩
  cases c with
  | joinRoomByCode code data playerId =>
    obtain ⟨⟨player, t''⟩, hjoin, rfl⟩ := map_eq_ok_iff.mp hstep
    have hjoined := joined_of_ok hjoin
    obtain ⟨seatNumber, rfl⟩ := player_of_joinRoomByCode hjoin
    refine ⟨⟨hjoined.constraints, ?_, ?_⟩, ?_⟩
    · rw [hjoined.after]
      exact h.startingChips
    · rw [hjoined.after]
      intro p hp
      rcases List.mem_append.mp hp with hp | hp
      · exact h.chips p hp
      · rw [List.mem_singleton.mp hp]
        exact h.startingChips
    · rw [hjoined.after]
      exact ⟨rfl, rfl, id⟩
  | reorderSeats data =>
    have hreordered := reordered_of_ok hstep
    have hcons := hreordered.constraints
    obtain rfl := hreordered.after
    refine ⟨⟨hcons, h.startingChips, fun p hp => ?_⟩, rfl, rfl, id⟩
    have hmem : p.chipCount ∈ (data.write t.players).map (·.chipCount) := List.mem_map_of_mem hp
    rw [data.map_chipCount_write] at hmem
    obtain ⟨q, hq, heq⟩ := List.mem_map.mp hmem
    rw [← heq]
    exact h.chips q hq
  | setBlindStructure data =>
    simp only [roomMachine, setBlindStructure, bind_eq_ok_iff, require_eq_ok_iff,
      RoomTables.flush_eq_ok_iff] at hstep
    obtain ⟨-, -, hcons, rfl⟩ := hstep
    exact ⟨⟨hcons, h.startingChips, h.chips⟩, rfl, rfl, id⟩
  | activateRoom =>
    simp only [roomMachine, activateRoom] at hstep
    split at hstep
    · obtain rfl := Except.ok.inj hstep
      exact ⟨h, rfl, rfl, id⟩
    · simp only [bind_eq_ok_iff, require_eq_ok_iff, RoomTables.flush_eq_ok_iff] at hstep
      obtain ⟨-, hwaiting, hcons, rfl⟩ := hstep
      refine ⟨⟨hcons, h.startingChips, h.chips⟩, rfl, rfl, fun hfinished => ?_⟩
      rw [hwaiting] at hfinished
      cases hfinished
  | finishRoom =>
    simp only [roomMachine, finishRoom] at hstep
    split at hstep
    · obtain rfl := Except.ok.inj hstep
      exact ⟨h, rfl, rfl, id⟩
    · simp only [bind_eq_ok_iff, require_eq_ok_iff, RoomTables.flush_eq_ok_iff] at hstep
      obtain ⟨-, -, hcons, rfl⟩ := hstep
      exact ⟨⟨hcons, h.startingChips, h.chips⟩, rfl, rfl, fun _ => rfl⟩
  | updatePlayerChips playerId chipCount =>
    exact hupdate (fun _ _ => Int.natCast_nonneg chipCount) hstep
  | eliminatePlayer playerId => exact hupdate (fun _ _ => le_rfl) hstep

end PokerRoom
