import PokerRoom.Application.RoomCommands

/-!
# The seats of a room

A join takes a free seat within the capacity of the room.  A reordering compares the assigned seats
with each other and with the capacity, but not with the seats of the players it does not name.
`seats_sound_iff` says that this is the only way to two players on one seat.
-/

namespace PokerRoom

open Foundation

/-! ## Definitions -/

/-- The players of a room occupy different seats within its capacity. -/
structure SeatsSound (t : RoomTables) : Prop where
  /-- Nobody shares a seat. -/
  distinct : (t.players.map (·.seatNumber)).Nodup
  /-- The seats are within the capacity. -/
  inRange : ∀ p ∈ t.players, 1 ≤ p.seatNumber ∧ p.seatNumber ≤ t.room.maxPlayers

/-- The command assigns the seat of a player it does not name. -/
def TakesSeat (t : RoomTables) : RoomCommand → Prop
  | .reorderSeats data =>
    ∃ p ∈ t.players, p.playerId ∉ data.assignments.map (·.playerId) ∧
      p.seatNumber ∈ data.assignments.map (·.seatNumber)
  | _ => False

/-- A player after a reordering: seated as assigned, if he is named. -/
def ReorderSeats.reseat (data : ReorderSeats) (p : RoomPlayer) : RoomPlayer :=
  ((data.assignments.find? fun a => a.playerId = p.playerId).map fun a => a.seat p).getD p

variable {t t' : RoomTables} {data : ReorderSeats} {p : RoomPlayer}

/-! ## Reordering -/

/-- A named player is seated as assigned, any other one stays. -/
lemma ReorderSeats.reseat_cases (data : ReorderSeats) (p : RoomPlayer) :
    (∃ a ∈ data.assignments, a.playerId = p.playerId ∧ data.reseat p = a.seat p) ∨
      p.playerId ∉ data.assignments.map (·.playerId) ∧ data.reseat p = p := by
  unfold ReorderSeats.reseat
  cases hfind : data.assignments.find? fun a => a.playerId = p.playerId with
  | some a =>
    obtain ⟨ha, hid⟩ : a ∈ data.assignments ∧ a.playerId = p.playerId := mem_of_find?_key hfind
    exact Or.inl ⟨a, ha, hid, rfl⟩
  | none =>
    have hnone : ∀ a ∈ data.assignments, a.playerId ≠ p.playerId := find?_key_eq_none_iff.mp hfind
    refine Or.inr ⟨fun hmem => ?_, rfl⟩
    obtain ⟨a, ha, hid⟩ := List.mem_map.mp hmem
    exact hnone a ha hid

/-- An accepted reordering reseats the players. -/
lemma Reordered.players_eq (h : Reordered t data t') (ht : t.Constraints) :
    t'.players = t.players.map data.reseat := by
  rw [h.after]
  exact foldl_updateFirst_eq_map (f := SeatAssignment.seat) (fun _ _ => rfl) ht h.playerIds_nodup

/-- An accepted reordering keeps the seats within the capacity. -/
lemma Reordered.inRange (h : Reordered t data t') (ht : t.Constraints) (hsound : SeatsSound t) :
    ∀ p ∈ t'.players, 1 ≤ p.seatNumber ∧ p.seatNumber ≤ t'.room.maxPlayers := by
  have hroom : t'.room = t.room := by rw [h.after]
  rw [h.players_eq ht, hroom, List.forall_mem_map]
  intro p hp
  rcases data.reseat_cases p with ⟨a, ha, -, hseat⟩ | ⟨-, hstay⟩
  · rw [hseat]
    exact ⟨a.seatNumber_pos, h.seat_le a ha⟩
  · rw [hstay]
    exact hsound.inRange p hp

/-- An accepted reordering keeps the seats different exactly when it assigns no seat of a player it
does not name. -/
lemma Reordered.distinct_iff (h : Reordered t data t') (ht : t.Constraints)
    (hsound : SeatsSound t) :
    (t'.players.map (·.seatNumber)).Nodup ↔ ¬ TakesSeat t (.reorderSeats data) := by
  have hseats : t'.players.map (·.seatNumber) =
      t.players.map fun p => (data.reseat p).seatNumber := by
    rw [h.players_eq ht, List.map_map]
    rfl
  rw [hseats]
  constructor
  · rintro hnd ⟨p, hp, hunnamed, htaken⟩
    obtain ⟨a, ha, hseat⟩ := List.mem_map.mp htaken
    obtain ⟨q, hq, hid⟩ := h.mem_players a ha
    have hstay : data.reseat p = p := by
      rcases data.reseat_cases p with ⟨b, hb, hbid, -⟩ | ⟨-, hstay⟩
      · exact absurd (List.mem_map.mpr ⟨b, hb, hbid⟩) hunnamed
      · exact hstay
    have hassigned : (data.reseat q).seatNumber = a.seatNumber := by
      rcases data.reseat_cases q with ⟨b, hb, hbid, hreseat⟩ | ⟨hno, -⟩
      · obtain rfl : b = a := eq_of_key_eq h.playerIds_nodup hb ha (hbid.trans hid)
        rw [hreseat]
        rfl
      · exact absurd (List.mem_map.mpr ⟨a, ha, hid.symm⟩) hno
    have hsame : q = p := List.inj_on_of_nodup_map hnd hq hp (by rw [hassigned, hstay, hseat])
    exact hunnamed (List.mem_map.mpr ⟨a, ha, by rw [← hid, hsame]⟩)
  · intro hkeeps
    have hunnamed : ∀ p ∈ t.players, p.playerId ∉ data.assignments.map (·.playerId) →
        ∀ a ∈ data.assignments, a.seatNumber ≠ p.seatNumber := fun p hp hno a ha hseat =>
      hkeeps ⟨p, hp, hno, List.mem_map.mpr ⟨a, ha, hseat⟩⟩
    refine List.Nodup.map_on (fun p hp q hq hseat => ?_) ht.of_map
    rcases data.reseat_cases p with ⟨a, ha, haid, hpseat⟩ | ⟨hpno, hpstay⟩ <;>
      rcases data.reseat_cases q with ⟨b, hb, hbid, hqseat⟩ | ⟨hqno, hqstay⟩
    · -- both are named, by the same assignment
      rw [hpseat, hqseat] at hseat
      obtain rfl : a = b := eq_of_key_eq h.seatNumbers_nodup ha hb hseat
      exact eq_of_key_eq ht hp hq (haid.symm.trans hbid)
    · rw [hpseat, hqstay] at hseat
      exact absurd hseat (hunnamed q hq hqno a ha)
    · rw [hpstay, hqseat] at hseat
      exact absurd hseat.symm (hunnamed p hp hpno b hb)
    · rw [hpstay, hqstay] at hseat
      exact eq_of_key_eq hsound.distinct hp hq hseat

/-! ## Joining -/

/-- An accepted join keeps the seats sound. -/
lemma Joined.seatsSound {data : JoinRoom} {player : RoomPlayer} (h : Joined t data player t')
    (hsound : SeatsSound t) : SeatsSound t' := by
  have hpos : 1 ≤ player.seatNumber := by
    rw [h.seat]
    cases hrequested : requestedSeat data.seatNumber with
    | some seat => exact data.seatNumber_pos seat (Option.mem_filter_iff.mp hrequested).1
    | none => exact getNextSeatNumber_pos fun p hp => (hsound.inRange p hp).1
  rw [h.after]
  refine ⟨nodup_map_concat_iff.mpr ⟨hsound.distinct, h.seat_free⟩, ?_⟩
  intro p hp
  rcases List.mem_append.mp hp with hp | hp
  · exact hsound.inRange p hp
  · rw [List.mem_singleton.mp hp]
    exact ⟨hpos, h.seat_le⟩

/-! ## Every run -/

/-- An accepted command keeps the seats sound exactly when it assigns no seat of a player it does
not name. -/
lemma SeatsSound.step_iff (ht : t.Constraints) (hsound : SeatsSound t) {c : RoomCommand}
    (hok : roomMachine.step t c = .ok t') : SeatsSound t' ↔ ¬ TakesSeat t c := by
  cases (room_step_cases ht hok).1 with
  | joined h => exact iff_of_true (h.seatsSound hsound) id
  | reordered h =>
    rw [← h.distinct_iff ht hsound]
    exact ⟨SeatsSound.distinct, fun hnd => ⟨hnd, h.inRange ht hsound⟩⟩
  | kept hc hroom hplaces =>
    have hseats : t'.players.map (·.seatNumber) = t.players.map (·.seatNumber) := by
      have hmap := congrArg (List.map fun place : String × String × Int => place.2.2) hplaces
      rw [List.map_map, List.map_map] at hmap
      exact hmap
    have hrange := hsound.inRange
    refine iff_of_true ⟨hseats ▸ hsound.distinct, ?_⟩ ?_
    · rw [hroom]
      rw [← List.forall_mem_map (f := fun p : RoomPlayer => p.seatNumber)
        (P := fun seat => 1 ≤ seat ∧ seat ≤ t.room.maxPlayers)] at hrange ⊢
      rwa [hseats]
    · unfold TakesSeat
      split
      · exact absurd rfl (hc _)
      · exact id

/-- **When the seats of a room are sound.** In every run of commands on a new room its players
occupy different seats within the capacity in each state it goes through, exactly when no reordering
assigns the seat of a player it does not name. -/
theorem seats_sound_iff (data : CreateRoom) (roomId code : String) (cs : List RoomCommand) :
    (∀ k, SeatsSound (roomMachine.run (createRoom data roomId code) (cs.take k))) ↔
      ∀ t ∈ roomMachine.trace (createRoom data roomId code) cs, ¬ TakesSeat t.before t.command := by
  have hcons : (createRoom data roomId code).Constraints := List.nodup_nil
  have hsound : SeatsSound (createRoom data roomId code) := ⟨List.nodup_nil, by simp [createRoom]⟩
  exact Machine.forall_run_take_iff (M := roomMachine)
    (P := fun t => ¬ TakesSeat t.before t.command) (fun _ _ _ ht hok => (room_step_cases ht hok).2)
      (fun _ _ _ ht hs hok => hs.step_iff ht hok) hcons
    hsound cs

/-- Two players join a room, and the first one is moved to the seat of the second. -/
def movedOntoSeat : List RoomCommand :=
  [.joinRoomByCode "ABCD" aliceJoins "alice", .joinRoomByCode "ABCD" bobJoins "bob",
    .reorderSeats
      { assignments := [⟨"alice", 2, by decide, one_le_two⟩], assignments_ne := by decide }]

/-- A reordering may seat a player on the seat of another one it does not name. -/
theorem reordered_onto_taken_seat :
    ¬ ∀ (data : CreateRoom) (roomId code : String) (cs : List RoomCommand),
      SeatsSound (roomMachine.run (createRoom data roomId code) cs) := by
  intro h
  have hsound := h roomForTwo "room" "ABCD" movedOntoSeat
  exact absurd hsound.distinct (by decide)

end PokerRoom
