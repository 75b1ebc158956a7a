import PokerRoom.Room.RoomStore

/-!
# Codes of rooms

A room is joined by its code.  The codes are made of capital letters and digits, they are different
for different rooms, and a code is looked up in capital letters; so a code finds the room it was
given to, however its letters are typed (`code_leads_to_room`), and who joins by it takes a seat in
this room and in no other.
-/

namespace PokerRoom

open Foundation

variable {db db' : RoomDatabase} {room : Room} {c : Char} {s : String}

/-- A character that is a code character in capitals is put into capitals as one character. -/
lemma upperChar_of_toUpper_mem (h : c.toUpper ∈ codeChars) : upperChar c = [c.toUpper] := by
  have hne : ∀ d : Char, d.toUpper ∉ codeChars → c ≠ d := fun d hd hcd => hd (hcd ▸ h)
  unfold upperChar
  rw [if_neg (hne 'ı' (by decide)), if_neg (hne 'ſ' (by decide)), if_neg (hne 'ß' (by decide)),
    if_neg (hne 'ﬀ' (by decide)), if_neg (hne 'ﬁ' (by decide)), if_neg (hne 'ﬂ' (by decide)),
    if_neg (hne 'ﬃ' (by decide)), if_neg (hne 'ﬄ' (by decide)), if_neg (hne 'ﬅ' (by decide)),
    if_neg (hne 'ﬆ' (by decide))]

/-- A text that is a code in capitals is put into capitals as that code. -/
lemma RoomCode.upper_eq {code : RoomCode} (h : s.toList.map Char.toUpper = code.value.toList) :
    upper s = code.value := by
  have hchars : ∀ c ∈ s.toList, upperChar c = [c.toUpper] := fun c hc => by
    refine upperChar_of_toUpper_mem (code.mem_codeChars _ ?_)
    rw [← h]
    exact List.mem_map_of_mem hc
  rw [upper, List.flatMap_congr hchars, ← List.map_eq_flatMap, h, String.ofList_toList]

/-- **A code leads to its room.** In every database that the service reaches, the code of a room, in
capital or small letters, finds this room; a player who joins by it becomes a player of this room,
and the other rooms are left alone. -/
theorem code_leads_to_room (cs : List RoomServiceCommand)
    (hroom : room ∈ (roomServiceMachine.run .empty cs).rooms)
    (hs : s.toList.map Char.toUpper = room.code.toList) :
    (roomServiceMachine.run .empty cs).getRoomByCode s = .ok (some room) ∧
      ∀ data playerId db',
        (roomServiceMachine.run .empty cs).joinRoomByCode s data playerId = .ok db' →
        (∃ seat, db'.playersOf room.roomId =
          (roomServiceMachine.run .empty cs).playersOf room.roomId ++
            [data.player room playerId seat]) ∧
        ∀ roomId ≠ room.roomId, db'.tables roomId =
          (roomServiceMachine.run .empty cs).tables roomId := by
  have hvalid := roomDatabase_valid cs
  set db := roomServiceMachine.run .empty cs
  obtain ⟨code, hcode⟩ := hvalid.codes room hroom
  have hfound : db.getRoomByCode s = .ok (some room) :=
    (RoomDatabase.getRoomByCode_eq_ok_iff hvalid.constraints).mpr
      ⟨hroom, ((code.upper_eq (hcode ▸ hs)).trans hcode).symm⟩
  refine ⟨hfound, fun data playerId db' hjoin => ?_⟩
  obtain ⟨t, seat, hfound', hdone⟩ := db.joinRoomByCode_spec hvalid hjoin
  obtain rfl : t.room = room := Option.some.inj (Except.ok.inj (hfound'.symm.trans hfound))
  refine ⟨⟨seat, ?_⟩, hdone.rewritten.others⟩
  rw [RoomDatabase.playersOf_of_tables hdone.rewritten.after,
    RoomDatabase.playersOf_of_tables hdone.rewritten.before]

/-- A code of capital letters finds its room when letters are typed small. -/
theorem code_leads_to_room_twoRooms :
    (roomServiceMachine.run .empty twoRooms).getRoomByCode "bBbb" =
    .ok (some (createRoom roomForTwo "second" "BBBB").room) :=
  (code_leads_to_room twoRooms (by decide) (by decide)).1

/-- **When a room is created.** In every database that the service reaches, a room is created
exactly when its identifier is new and one of the codes that are drawn for it is free. -/
theorem room_created_iff (cs : List RoomServiceCommand) (data : CreateRoom) (roomId : String)
    (draw : ℕ → RoomCode) :
    (∃ db', (roomServiceMachine.run .empty cs).createRoom data roomId draw = .ok db') ↔
      (∀ room ∈ (roomServiceMachine.run .empty cs).rooms, room.roomId ≠ roomId) ∧
        ∃ n < codeAttempts, ∀ room ∈ (roomServiceMachine.run .empty cs).rooms,
          room.code ≠ (draw n).value := by
  have hcons := (roomDatabase_valid cs).constraints
  set db := roomServiceMachine.run .empty cs
  have hdraw := db.exists_generateUniqueCode_iff hcons ((List.range codeAttempts).map draw)
  simp only [List.mem_map, List.mem_range, exists_exists_and_eq_and] at hdraw
  rw [← hdraw]
  simp only [RoomDatabase.createRoom, bind_eq_ok_iff, mapError_eq_ok_iff,
    RoomDatabase.commit_eq_ok_iff]
  have hwritten : ∀ code : RoomCode, RoomDatabase.Constraints
      { db with rooms := db.rooms ++ [(createRoom data roomId code.value).room] } ↔
        (∀ room ∈ db.rooms, room.roomId ≠ roomId) ∧ ∀ room ∈ db.rooms, room.code ≠ code.value :=
          fun code => by
    rw [RoomDatabase.Constraints, nodup_map_concat_iff, nodup_map_concat_iff]
    simp only [hcons.1, hcons.2.1, hcons.2.2, true_and, and_true]
    rfl
  constructor
  · rintro ⟨db', code, hcode, hok, -⟩
    obtain ⟨hid, hfree⟩ := (hwritten code).mp hok
    exact ⟨hid, code, hcode, hfree⟩
  · rintro ⟨hid, code, hcode, hfree⟩
    exact ⟨_, code, hcode, (hwritten code).mpr ⟨hid, hfree⟩, rfl⟩

/-- A room is created with no players and positive chips to start with. -/
lemma sound_createRoom (data : CreateRoom) (roomId code : String) :
    (createRoom data roomId code).Sound where
  constraints := List.nodup_nil
  startingChips := data.startingChips_pos.le
  chips := fun _ hp => absurd hp List.not_mem_nil

/-- **The database of the rooms stays sound.** After any run of the service the identifiers and
codes are unique and codes are made as codes are, every player and every blind level belongs to a
stored room, although the database does not ask for it, and nobody has a negative number of
chips. -/
theorem room_database_sound (cs : List RoomServiceCommand) :
    (roomServiceMachine.run .empty cs).Valid ∧
      ∀ p ∈ (roomServiceMachine.run .empty cs).players, 0 ≤ p.chipCount := by
  have hvalid := roomDatabase_valid cs
  refine ⟨hvalid, fun p hp => ?_⟩
  obtain ⟨room, hroom, hid⟩ := List.mem_map.mp (hvalid.players p hp)
  have htables := RoomDatabase.tables_of_mem hvalid.constraints hroom
  rw [← foldl_roomHistory] at htables
  have hsound : RoomTables.Sound _ := Machine.forall_of_foldl_apply (P := RoomTables.Sound)
    (fun _ _ _ h hok => (h.step hok).1) (fun i t ht => ?_) htables
  · exact hsound.chips p.toRoomPlayer (mem_ownedBy_iff.mpr ⟨p, hp, hid.symm, rfl⟩)
  · obtain ⟨transition, -, hevent⟩ := List.mem_flatMap.mp ht
    obtain ⟨data, code, rfl⟩ := exists_of_created_mem hevent
    exact sound_createRoom data i code

end PokerRoom
