import PokerRoom.Room.Seating

/-!
# Free seats

A player who joins without asking for a seat is given the one after the highest occupied seat.  The
capacity of the room is checked against the number of its players, so that a room with a free place
refuses him when somebody sits on its last seat.  `free_seat_joinable_iff` says that it does so
exactly then.
-/

namespace PokerRoom

open Foundation

/-! ## Definitions -/

/-- The reordering seats every player of the room. -/
def ReorderSeats.Complete (data : ReorderSeats) (t : RoomTables) : Prop :=
  ∀ p ∈ t.players, p.playerId ∈ data.assignments.map (·.playerId)

instance (data : ReorderSeats) (t : RoomTables) : Decidable (data.Complete t) :=
  inferInstanceAs (Decidable (∀ p ∈ t.players, _))

/-- A reordering among the commands seats every player of the room. -/
def RoomCommand.ReordersAll (t : RoomTables) : RoomCommand → Prop
  | .reorderSeats data => data.Complete t
  | _ => True

instance (t : RoomTables) : DecidablePred (RoomCommand.ReordersAll t)
  | .reorderSeats data => inferInstanceAs (Decidable (data.Complete t))
  | .joinRoomByCode _ _ _ | .setBlindStructure _ | .activateRoom | .finishRoom
  | .updatePlayerChips _ _ | .eliminatePlayer _ => .isTrue trivial

/-- The join is accepted and places its player on a free seat of the room. -/
def JoinsFreeSeat (t : RoomTables) (code : String) (data : JoinRoom) (playerId : String) : Prop :=
  ∃ player t', joinRoomByCode t code data playerId = .ok (player, t') ∧
    1 ≤ player.seatNumber ∧ player.seatNumber ≤ t.room.maxPlayers ∧
    (∀ p ∈ t.players, p.seatNumber ≠ player.seatNumber) ∧ t'.players = t.players ++ [player]

variable {t t' : RoomTables} {data : JoinRoom} {code playerId : String}

/-! ## Joining -/

/-- A reordering of all seats assigns no seat of a player it does not name. -/
lemma RoomCommand.ReordersAll.not_takesSeat {c : RoomCommand} (h : c.ReordersAll t) :
    ¬ TakesSeat t c := by
  unfold TakesSeat
  split
  · rintro ⟨p, hp, hunnamed, -⟩
    exact hunnamed (h p hp)
  · exact id

/-- The next seat is higher than every occupied one. -/
lemma lt_getNextSeatNumber {p : RoomPlayer} (hp : p ∈ t.players) :
    p.seatNumber < t.getNextSeatNumber := by
  unfold RoomTables.getNextSeatNumber
  have hmem := List.mem_map_of_mem (f := fun p : RoomPlayer => p.seatNumber) hp
  cases hmax : (t.players.map (·.seatNumber)).max? with
  | none =>
    rw [List.max?_eq_none_iff] at hmax
    simp [hmax] at hmem
  | some seat =>
    have hle := (List.max?_eq_some_iff.mp hmax).2 _ hmem
    simp only [Option.getD_some]
    omega

/-- The next seat is the first one of an empty room, and otherwise follows an occupied one. -/
lemma getNextSeatNumber_cases (t : RoomTables) :
    t.getNextSeatNumber = 1 ∨ ∃ p ∈ t.players, t.getNextSeatNumber = p.seatNumber + 1 := by
  unfold RoomTables.getNextSeatNumber
  cases hmax : (t.players.map (·.seatNumber)).max? with
  | none => exact Or.inl rfl
  | some seat =>
    obtain ⟨p, hp, hseat⟩ := List.mem_map.mp (List.max?_eq_some_iff.mp hmax).1
    exact Or.inr ⟨p, hp, by rw [Option.getD_some, hseat]⟩

/-- A join without a seat, of a new player into a waiting room with a free place, is accepted
exactly when the next seat is one of the room. -/
lemma joinsFreeSeat_iff (ht : t.Constraints) (hpos : ∀ p ∈ t.players, 1 ≤ p.seatNumber)
    (hstatus : t.room.status = .waiting) (hplace : t.players.length < t.room.maxPlayers)
    (hcode : t.room.code = upper code) (hname : ∀ p ∈ t.players, p.playerName ≠ data.playerName)
    (hseat : data.seatNumber = none) (hid : ∀ p ∈ t.players, p.playerId ≠ playerId) :
    JoinsFreeSeat t code data playerId ↔ t.getNextSeatNumber ≤ t.room.maxPlayers := by
  constructor
  · rintro ⟨player, t', hok, -, hle, -⟩
    have hjoined := joined_of_ok hok
    have hnext := hjoined.seat
    rw [hseat] at hnext
    exact hnext.symm.trans_le hle
  · intro hle
    refine ⟨data.player t.room playerId t.getNextSeatNumber,
      { t with players := t.players ++ [data.player t.room playerId t.getNextSeatNumber] }, ?_,
      getNextSeatNumber_pos hpos, hle, fun p hp => (lt_getNextSeatNumber hp).ne, rfl⟩
    have hrequested : (requestedSeat data.seatNumber).getD t.getNextSeatNumber =
        t.getNextSeatNumber := by rw [hseat]; rfl
    have hcons : RoomTables.Constraints
        { t with players := t.players ++ [data.player t.room playerId t.getNextSeatNumber] } :=
      nodup_map_concat_iff.mpr ⟨ht, hid⟩
    simp only [joinRoomByCode, resolveJoinSeat, requireCapacity, bind_eq_ok_iff, require_eq_ok_iff,
      requireFreeName_eq_ok_iff, requireFreeSeat_eq_ok_iff, insertPlayer_eq_ok_iff, hrequested]
    exact ⟨(), hcode, (), hstatus, (), hplace, (), hname, t.getNextSeatNumber,
      ⟨(), hle, (), fun p hp => (lt_getNextSeatNumber hp).ne, rfl⟩, rfl, hcons, rfl⟩

/-- In a room whose seats are within its capacity the next seat is one of the room exactly when
nobody sits on the last one. -/
lemma getNextSeatNumber_le_iff (hcapacity : 1 ≤ t.room.maxPlayers)
    (hrange : ∀ p ∈ t.players, p.seatNumber ≤ t.room.maxPlayers) :
    t.getNextSeatNumber ≤ t.room.maxPlayers ↔
      ∀ p ∈ t.players, p.seatNumber ≠ t.room.maxPlayers := by
  constructor
  · intro hle p hp
    exact ((lt_getNextSeatNumber hp).trans_le hle).ne
  · intro hfree
    rcases getNextSeatNumber_cases t with hfirst | ⟨p, hp, hnext⟩
    · rwa [hfirst]
    · have hle := (hrange p hp).lt_of_ne (hfree p hp)
      omega

/-! ## Every run -/

/-- A new room satisfies the constraints. -/
lemma constraints_createRoom (data : CreateRoom) (roomId code : String) :
    (createRoom data roomId code).Constraints := List.nodup_nil

/-- After a run whose reorderings seat every player the seats are sound. -/
lemma seatsSound_run (data : CreateRoom) (roomId code : String) {cs : List RoomCommand}
    (hall : ∀ t ∈ roomMachine.trace (createRoom data roomId code) cs,
      t.command.ReordersAll t.before) :
    SeatsSound (roomMachine.run (createRoom data roomId code) cs) := by
  have hstates := (Machine.forall_run_take_iff (M := roomMachine) (I := SeatsSound)
    (J := RoomTables.Constraints) (P := fun t => ¬ TakesSeat t.before t.command)
    (fun _ _ _ ht hok => (room_step_cases ht hok).2) (fun _ _ _ ht hs hok => hs.step_iff ht hok)
    (constraints_createRoom data roomId code) ⟨List.nodup_nil, by simp [createRoom]⟩ cs).mpr
    fun t ht => (hall t ht).not_takesSeat
  have hlast := hstates cs.length
  rwa [List.take_length] at hlast

/-- The capacity of a room never changes. -/
lemma maxPlayers_run (data : CreateRoom) (roomId code : String) (cs : List RoomCommand) :
    (roomMachine.run (createRoom data roomId code) cs).room.maxPlayers = data.maxPlayers := by
  refine (Machine.run_invariant (M := roomMachine)
    (I := fun t => t.Constraints ∧ t.room.maxPlayers = data.maxPlayers)
    (fun t c t' hI hok => ?_) ⟨constraints_createRoom data roomId code, rfl⟩ cs).2
  obtain ⟨hstep, hcons⟩ := room_step_cases hI.1 hok
  refine ⟨hcons, Eq.trans ?_ hI.2⟩
  rcases hstep with h | h | ⟨-, hroom, -⟩
  · rw [h.after]
  · rw [h.after]
  · exact hroom

/-- **When a free seat can be taken.** After every run of commands on a new room whose reorderings
all seat every player, while the room waits and has fewer players than its capacity, a player with a
new name who joins by the code of the room without asking for a seat is placed on a free one exactly
when nobody sits on the last seat. -/
theorem free_seat_joinable_iff (room : CreateRoom) (roomId code : String) (cs : List RoomCommand)
    (hall : ∀ t ∈ roomMachine.trace (createRoom room roomId code) cs,
      t.command.ReordersAll t.before)
    (t : RoomTables) (ht : t = roomMachine.run (createRoom room roomId code) cs)
    (hstatus : t.room.status = .waiting) (hplace : t.players.length < t.room.maxPlayers)
    (data : JoinRoom) (sent playerId : String) (hcode : t.room.code = upper sent)
    (hname : ∀ p ∈ t.players, p.playerName ≠ data.playerName) (hseat : data.seatNumber = none)
    (hid : ∀ p ∈ t.players, p.playerId ≠ playerId) :
    JoinsFreeSeat t sent data playerId ↔ ∀ p ∈ t.players, p.seatNumber ≠ t.room.maxPlayers := by
  have hcons : t.Constraints := by
    rw [ht]
    exact Machine.run_invariant (M := roomMachine) (I := RoomTables.Constraints)
      (fun _ _ _ h hok => (room_step_cases h hok).2) (constraints_createRoom room roomId code) cs
  have hsound : SeatsSound t := ht ▸ seatsSound_run room roomId code hall
  have hcapacity : 1 ≤ t.room.maxPlayers := by
    have htwo := room.two_le_maxPlayers
    rw [ht, maxPlayers_run]
    omega
  rw [joinsFreeSeat_iff hcons (fun p hp => (hsound.inRange p hp).1) hstatus hplace hcode
    hname hseat hid,
    getNextSeatNumber_le_iff hcapacity fun p hp => (hsound.inRange p hp).2]

/-- When the first player takes the first seat the second one is placed. -/
theorem free_seat_joinable_iff_firstSeat :
    JoinsFreeSeat (roomMachine.run (createRoom roomForTwo "room" "ABCD")
      [.joinRoomByCode "ABCD" (joinAs "Alice" none) "alice"]) "ABCD" (joinAs "Bob" none) "bob" :=
  (free_seat_joinable_iff roomForTwo "room" "ABCD"
    [.joinRoomByCode "ABCD" (joinAs "Alice" none) "alice"] (by decide) _ rfl (by decide) (by decide)
    (joinAs "Bob" none) "ABCD" "bob" (by decide) (by decide) rfl (by decide)).mpr (by decide)

/-- When the first player takes the last seat the second one is refused. -/
theorem last_seat_blocks_room :
    ¬ ∀ (room : CreateRoom) (roomId code : String) (cs : List RoomCommand),
      (∀ t ∈ roomMachine.trace (createRoom room roomId code) cs, t.command.ReordersAll t.before) →
      ∀ t, t = roomMachine.run (createRoom room roomId code) cs → t.room.status = .waiting →
      t.players.length < t.room.maxPlayers → ∀ (data : JoinRoom) (sent playerId : String),
      t.room.code = upper sent → (∀ p ∈ t.players, p.playerName ≠ data.playerName) →
      data.seatNumber = none → (∀ p ∈ t.players, p.playerId ≠ playerId) →
      JoinsFreeSeat t sent data playerId := by
  intro h
  obtain ⟨player, t', hok, -⟩ := h roomForTwo "room" "ABCD"
    [.joinRoomByCode "ABCD" (joinAs "Alice" (some 2)) "alice"] (by decide) _ rfl (by decide)
    (by decide) (joinAs "Bob" none) "ABCD" "bob" (by decide) (by decide) rfl (by decide)
  exact absurd (joined_of_ok hok).seat_le (by rw [(joined_of_ok hok).seat]; decide)

end PokerRoom
