import PokerRoom.Room.RoomStore

/-!
# What the events of the rooms tell

A consumer of the room service's events keeps, for every room it has been told of, what the events
say: the code, the capacity, the creator and the status of the room, and its players with their
seats and chips (`RoomView`).  For every room that is stored the events in the outbox tell all of
that (`events_tell_rooms`); no event tells of the blind structure, nor that a room is deleted.
-/

namespace PokerRoom

open Foundation

/-! ## Definitions -/

/-- What the events tell of a room. -/
structure RoomView where
  /-- The code. -/
  code : String
  /-- The capacity. -/
  maxPlayers : Int
  /-- Who created the room. -/
  createdBy : String
  /-- The status. -/
  status : RoomStatus
  /-- The players. -/
  players : List RoomPlayer
deriving DecidableEq, Repr

/-- The room an event is about. -/
def RoomEvent.roomId : RoomEvent → String
  | .created roomId _ _ _ | .activated roomId _ | .finished roomId _ | .playerJoined roomId _ _ _ _
  | .playerEliminated roomId _ _ | .chipsUpdated roomId _ _ | .seatsReordered roomId _ => roomId

/-- What is known of a room after an event about it. -/
def RoomView.apply (v : RoomView) : RoomEvent → RoomView
  | .created _ code maxPlayers createdBy => ⟨code, maxPlayers, createdBy, .waiting, []⟩
  | .activated _ status | .finished _ status => { v with status := status }
  | .playerJoined _ playerId playerName seatNumber chipCount =>
    { v with players := v.players ++ [⟨playerId, playerName, seatNumber, chipCount, true, false⟩] }
  | .playerEliminated _ playerId _ =>
    { v with
      players := updateFirst (·.playerId) playerId
        (fun p => { p with isEliminated := true, isActive := false, chipCount := 0 }) v.players }
  | .chipsUpdated _ playerId chipCount =>
    { v with
      players := updateFirst (·.playerId) playerId
        (fun p => { p with chipCount := chipCount }) v.players }
  | .seatsReordered _ assignments =>
    { v with
      players := assignments.foldl
        (fun players a => updateFirst (·.playerId) a.1
          (fun p => { p with seatNumber := a.2 }) players)
        v.players }

/-- What is known of the rooms after an event. -/
def tellRooms (known : String → RoomView) (e : RoomEvent) : String → RoomView :=
  Function.update known e.roomId ((known e.roomId).apply e)

/-- What the tables hold of a room. -/
def RoomTables.view (t : RoomTables) : RoomView where
  code := t.room.code
  maxPlayers := t.room.maxPlayers
  createdBy := t.room.createdBy
  status := t.room.status
  players := t.players

/-- Of every stored room is known what the tables hold of it. -/
def RoomDatabase.Told (db : RoomDatabase) (known : String → RoomView) : Prop :=
  ∀ roomId t, db.tables roomId = some t → known roomId = t.view

variable {db db' : RoomDatabase} {known : String → RoomView} {roomId : String} {t t' : RoomTables}
  {events : List RoomEvent} {c : RoomCommand}

/-! ## One command -/

/-- Events about one room change what is known of it. -/
lemma foldl_tellRooms (h : ∀ e ∈ events, e.roomId = roomId) :
    events.foldl tellRooms known =
      Function.update known roomId (events.foldl RoomView.apply (known roomId)) := by
  induction events generalizing known with
  | nil => exact (Function.update_eq_self roomId known).symm
  | cons e events ih =>
    rw [List.foldl_cons, List.foldl_cons, ih fun d hd => h d (List.mem_cons_of_mem e hd), tellRooms,
      h e List.mem_cons_self, Function.update_self, Function.update_idem]

/-- A command that is carried out on a room is told by its events. -/
lemma RoomDatabase.CarriedOut.told (h : db.CarriedOut roomId c t t' events db')
    (hknown : db.Told known) (hroom : ∀ e ∈ events, e.roomId = roomId)
    (hview : events.foldl RoomView.apply t.view = t'.view) :
    db'.Told (events.foldl tellRooms known) := by
  intro j u hu
  rw [foldl_tellRooms hroom]
  by_cases hj : j = roomId
  · subst hj
    obtain rfl := Option.some.inj (h.rewritten.after.symm.trans hu)
    rw [Function.update_self, hknown j t h.rewritten.before, hview]
  · rw [Function.update_of_ne hj]
    exact hknown j u ((h.rewritten.others j hj).symm.trans hu)

/-- The view of a room follows a reordering of its seats. -/
lemma view_reordered (data : ReorderSeats) (roomId : String) :
    t.view.apply (data.reorderedEvent roomId) =
      RoomTables.view { t with players := data.write t.players } := by
  simp only [RoomView.apply, ReorderSeats.reorderedEvent, List.foldl_map]
  rfl

/-- What an accepted command writes into the outbox tells what it has done. -/
lemma told_step (h : db.Valid) {v₀ : String → RoomView}
    (hknown : db.Told (db.outbox.foldl tellRooms v₀))
    {c : RoomServiceCommand} (hok : roomServiceMachine.step db c = .ok db') :
    db'.Told (db'.outbox.foldl tellRooms v₀) := by
  have hdone : ∀ {roomId : String} {c : RoomCommand} {t t' : RoomTables} {events : List RoomEvent},
      db.CarriedOut roomId c t t' events db' → (∀ e ∈ events, e.roomId = roomId) →
      events.foldl RoomView.apply t.view = t'.view → db'.Told (db'.outbox.foldl tellRooms v₀) := by
    intro roomId c t t' events hout hroom hview
    rw [hout.outbox, List.foldl_append]
    exact hout.told hknown hroom hview
  cases c with
  | createRoom data roomId draw =>
    obtain ⟨code, -, -, houtbox, happly⟩ := db.createRoom_spec h hok
    intro j u hu
    rw [← happly, Machine.apply] at hu
    rw [houtbox, List.foldl_append, List.foldl_cons, List.foldl_nil, tellRooms]
    by_cases hj : j = roomId
    · subst hj
      rw [Function.update_self] at hu
      obtain rfl := Option.some.inj hu
      exact Function.update_self _ _ _
    · rw [Function.update_of_ne hj] at hu
      exact (Function.update_of_ne hj _ _).trans (hknown j u hu)
  | joinRoomByCode code data playerId =>
    obtain ⟨t, seat, -, hout⟩ := db.joinRoomByCode_spec h (mapError_eq_ok_iff.mp hok)
    exact hdone hout (by simp [RoomPlayerRow.joinedEvent, RoomEvent.roomId]) rfl
  | reorderSeats roomId data =>
    obtain ⟨t, hout⟩ := db.reorderSeats_spec h (mapError_eq_ok_iff.mp hok)
    exact hdone hout (by simp [ReorderSeats.reorderedEvent, RoomEvent.roomId])
      (view_reordered data roomId)
  | setBlindStructure roomId data =>
    obtain ⟨t, hout⟩ := db.setBlindStructure_spec h (mapError_eq_ok_iff.mp hok)
    exact hdone hout (by simp) rfl
  | activateRoom roomId =>
    obtain ⟨t, hout | hout⟩ := db.activateRoom_spec h (mapError_eq_ok_iff.mp hok)
    · exact hdone hout (by simp) rfl
    · exact hdone hout (by simp [RoomEvent.roomId]) rfl
  | finishRoom roomId =>
    obtain ⟨t, hout | hout⟩ := db.finishRoom_spec h (mapError_eq_ok_iff.mp hok)
    · exact hdone hout (by simp) rfl
    · exact hdone hout (by simp [RoomEvent.roomId]) rfl
  | updatePlayerChips playerId chipCount =>
    obtain ⟨p, t, hfetch, hout⟩ := db.updatePlayer_spec h
      (c := .updatePlayerChips playerId chipCount) (fun _ => rfl) (mapError_eq_ok_iff.mp hok)
    obtain ⟨-, rfl⟩ := (RoomDatabase.fetchPlayer_eq_ok_iff h.constraints).mp hfetch
    exact hdone hout (by simp [RoomEvent.roomId]) rfl
  | eliminatePlayer playerId =>
    obtain ⟨p, t, hfetch, hout⟩ := db.updatePlayer_spec h
      (c := .eliminatePlayer playerId) (fun _ => rfl) (mapError_eq_ok_iff.mp hok)
    obtain ⟨-, rfl⟩ := (RoomDatabase.fetchPlayer_eq_ok_iff h.constraints).mp hfetch
    exact hdone hout (by simp [RoomEvent.roomId]) rfl
  | deleteRoom roomId =>
    obtain ⟨-, houtbox, happly⟩ := db.deleteRoom_spec h (mapError_eq_ok_iff.mp hok)
    intro j u hu
    rw [← happly, Machine.apply] at hu
    rw [houtbox]
    by_cases hj : j = roomId
    · subst hj
      rw [Function.update_self] at hu
      cases hu
    · rw [Function.update_of_ne hj] at hu
      exact hknown j u hu

/-! ## Every run -/

/-- **The events of the rooms tell the rooms.** After any run of the room service, a consumer who
has applied the events of the outbox in the order in which they were written knows of every stored
room what the tables hold: its code, capacity, creator and status, and its players with their names,
seats, chips and flags. -/
theorem events_tell_rooms (cs : List RoomServiceCommand) (v₀ : String → RoomView)
    (ht : (roomServiceMachine.run .empty cs).tables roomId = some t) :
    (roomServiceMachine.run .empty cs).outbox.foldl tellRooms v₀ roomId = t.view := by
  have hinv : (roomServiceMachine.run .empty cs).Valid ∧
      (roomServiceMachine.run .empty cs).Told
          ((roomServiceMachine.run .empty cs).outbox.foldl tellRooms v₀) :=
    Machine.run_invariant (I := fun db => db.Valid ∧ db.Told (db.outbox.foldl tellRooms v₀))
      (fun _ _ _ h hok => ⟨(room_service_step h.1 hok).1, told_step h.1 h.2 hok⟩)
      ⟨roomDatabase_valid_empty, fun _ _ h => by cases h⟩ cs
  exact hinv.2 roomId t ht

/-- The events of two rooms tell of the second one that its player sits on the first seat. -/
theorem events_tell_rooms_twoRooms :
    (roomServiceMachine.run .empty twoRooms).outbox.foldl tellRooms
        (fun _ => ⟨"", 0, "", .finished, []⟩) "second" =
      RoomTables.view ⟨(createRoom roomForTwo "second" "BBBB").room,
        [⟨"bob", "Bob", 1, 100, true, false⟩], []⟩ :=
  events_tell_rooms twoRooms _ (by decide)

end PokerRoom
