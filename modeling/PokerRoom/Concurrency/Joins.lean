import PokerRoom.Application.RoomCommands
import Mathlib.Data.List.TakeWhile

/-!
# Concurrent joins

Any number of clients join one room, and their requests interleave in any way.  A join counts the
players, looks its name up and looks its seat up in committed data, and nothing is checked again
when it commits.  `joins_respect_room_iff` says that joins of others which commit meanwhile are the
only danger: one of them may take the last place, the name or the seat.
-/

namespace PokerRoom

open Foundation

/-! ## Definitions -/

/-- A request to join a room by its code, with the identifier drawn for the player. -/
structure JoinRequest where
  /-- The code. -/
  code : String
  /-- The request. -/
  data : JoinRoom
  /-- The identifier. -/
  playerId : String

/-- The players of a room fit into it, and no two share a name or a seat. -/
structure RoomRespected (t : RoomTables) : Prop where
  /-- There is a place for everybody. -/
  capacity : t.players.length ≤ t.room.maxPlayers
  /-- Nobody shares a name. -/
  names : (t.players.map (·.playerName)).Nodup
  /-- Nobody shares a seat. -/
  seats : (t.players.map (·.seatNumber)).Nodup

section

variable {ι : Type*} [DecidableEq ι]

/-- Clients who join a room. -/
def joins (requests : ι → JoinRequest) (t : RoomTables) :
    System ι RoomTables RoomPlayer RoomRejection :=
  System.start (fun i => (requests i).data.handler (requests i).code (requests i).playerId) t

variable (requests : ι → JoinRequest) (t : RoomTables)

/-- The players of the room after some turns. -/
def playersAfter (taken : List ι) : List RoomPlayer := ((joins requests t).run taken).store.players

/-- The players of the room before the first turn of a client. -/
def playersKnown (taken : List ι) (i : ι) : List RoomPlayer :=
  playersAfter requests t (taken.takeWhile (· ≠ i))

/-- The players who have joined since the first turn of a client. -/
def joinedSince (taken : List ι) (i : ι) : List RoomPlayer :=
  (playersAfter requests t taken).drop (playersKnown requests t taken i).length

/-- The join of a client is due although others have joined since its first turn, and the room is
full by now or one of them has taken the name or the seat. -/
def Overtaken (taken : List ι) (i : ι) : Prop :=
  ∃ player ∈ ((joins requests t).run taken).due i,
    (joinedSince requests t taken i ≠ [] ∧
        t.room.maxPlayers ≤ (playersAfter requests t taken).length) ∨
      ∃ q ∈ joinedSince requests t taken i,
        q.playerName = player.playerName ∨ q.seatNumber = player.seatNumber

end

/-! ## What a join has read -/

/-- The stages of a join, with what it has found out about the players before its first turn. -/
inductive JoinStage (data : JoinRoom) (room : Room) (playerId : String) (known : List RoomPlayer)
    (p : JoinHandler) : Prop
  /-- It is to look the room up. -/
  | handler {code : String} (stage : p = data.handler code playerId)
  /-- It is to count the players. -/
  | countPlayers (stage : p = data.countPlayers room playerId)
  /-- It is to look the name up. -/
  | checkName (place_free : known.length < room.maxPlayers)
    (stage : p = data.checkName room playerId)
  /-- It is to look the highest seat up. -/
  | resolveSeat (place_free : known.length < room.maxPlayers)
    (name_free : ∀ q ∈ known, q.playerName ≠ data.playerName)
    (stage : p = .read fun t => data.checkSeat room playerId t.getNextSeatNumber)
  /-- It is to look the seat up. -/
  | checkSeat (place_free : known.length < room.maxPlayers)
    (name_free : ∀ q ∈ known, q.playerName ≠ data.playerName) {seatNumber : Int}
    (stage : p = .read fun t => .check (requireFreeSeat t seatNumber) fun _ =>
      .commit (data.commit room playerId seatNumber))
  /-- It is to commit. -/
  | commit (place_free : known.length < room.maxPlayers)
    (name_free : ∀ q ∈ known, q.playerName ≠ data.playerName) {seatNumber : Int}
    (seat_free : ∀ q ∈ known, q.seatNumber ≠ seatNumber)
    (stage : p = .commit (data.commit room playerId seatNumber))
  /-- It has ended. -/
  | ended (stage : p.Ended)

namespace JoinStage

variable {data : JoinRoom} {room : Room} {playerId : String} {known : List RoomPlayer}

/-- After a check a join is at a stage when it is at one after passing it. -/
lemma check {α : Type} {x : Except RoomRejection α} {next : α → JoinHandler}
    (h : ∀ a, x = .ok a → JoinStage data room playerId known (next a)) :
    JoinStage data room playerId known (.check x next) := by
  cases x with
  | ok a => exact h a rfl
  | error e => exact .ended trivial

/-- A seat within the capacity is looked up. -/
lemma seat (hplace : known.length < room.maxPlayers)
    (hname : ∀ q ∈ known, q.playerName ≠ data.playerName) (seatNumber : Int) :
    JoinStage data room playerId known (data.checkSeat room playerId seatNumber) :=
  .check fun _ _ => .checkSeat hplace hname rfl

variable {ι : Type*} [DecidableEq ι] {c : System ι RoomTables RoomPlayer RoomRejection} {i : ι}

/-- The turn of a client brings its join to a stage. -/
lemma turn (h : JoinStage data room playerId known (c.pending i)) (hroom : c.store.room = room)
    (hknown : known <+: c.store.players) :
    JoinStage data room playerId known ((c.turn i).pending i) := by
  cases h with
  | handler stage =>
    rw [System.turn_pending_read stage, hroom]
    exact .check fun _ _ => .check fun _ _ => .countPlayers rfl
  | countPlayers stage =>
    rw [System.turn_pending_read stage]
    refine .check fun _ hcount => ?_
    have hlt : (c.store.players.length : Int) < room.maxPlayers := require_eq_ok_iff.mp hcount
    exact .checkName ((Int.ofNat_le.mpr hknown.length_le).trans_lt hlt) rfl
  | checkName hplace stage =>
    rw [System.turn_pending_read stage]
    refine .check fun _ hfree => ?_
    have hname : ∀ q ∈ known, q.playerName ≠ data.playerName := fun q hq =>
      requireFreeName_eq_ok_iff.mp hfree q (hknown.subset hq)
    unfold JoinRoom.resolveSeat
    split
    · exact seat hplace hname _
    · exact .resolveSeat hplace hname rfl
  | resolveSeat hplace hname stage =>
    rw [System.turn_pending_read stage]
    exact seat hplace hname _
  | checkSeat hplace hname stage =>
    rw [System.turn_pending_read stage]
    exact .check fun _ hfree => .commit hplace hname
      (fun q hq => requireFreeSeat_eq_ok_iff.mp hfree q (hknown.subset hq)) rfl
  | commit hplace hname hseat stage => exact .ended (System.turn_pending_ended (Or.inl ⟨_, stage⟩))
  | ended stage => exact .ended (System.turn_pending_ended (Or.inr stage))

/-- The turn of a client inserts the player whose join is due, for whom there was a place and whose
name and seat were free. -/
lemma store_turn (h : JoinStage data room playerId known (c.pending i)) :
    (c.due i = none ∧ (c.turn i).store = c.store) ∨
      ∃ player, c.due i = some player ∧ known.length < room.maxPlayers ∧
        (∀ q ∈ known, q.playerName ≠ player.playerName ∧ q.seatNumber ≠ player.seatNumber) ∧
        (c.turn i).store = { c.store with players := c.store.players ++ [player] } := by
  rcases System.turn_store_cases c i with hnone | ⟨write, player, hpending, hdue, hwrite⟩
  · exact Or.inl hnone
  · refine Or.inr ⟨player, hdue, ?_⟩
    rw [hpending] at h
    cases h with
    | handler stage | countPlayers stage | checkName _ stage | resolveSeat _ _ stage
    | checkSeat _ _ stage => cases stage
    | ended stage => cases stage
    | commit hplace hname hseat stage =>
      cases stage
      obtain ⟨rfl, -, hstore⟩ := insertPlayer_eq_ok_iff.mp hwrite
      exact ⟨hplace, fun q hq => ⟨hname q hq, hseat q hq⟩, hstore⟩

end JoinStage

/-! ## Every schedule -/

section

variable {ι : Type*} [DecidableEq ι] {requests : ι → JoinRequest} {t : RoomTables} {taken : List ι}
  {i j : ι}

/-- A client who takes no turn has all turns before its first one. -/
lemma takeWhile_ne_of_not_mem (h : i ∉ taken) : taken.takeWhile (· ≠ i) = taken :=
  List.takeWhile_eq_self_iff.mpr fun _ hk => decide_eq_true fun hki => h (hki ▸ hk)

/-- The turns before the first one of a client stay the same once it has taken one. -/
lemma takeWhile_ne_concat (h : i ∈ taken ∨ j = i) :
    (taken ++ [j]).takeWhile (· ≠ i) = taken.takeWhile (· ≠ i) := by
  rw [List.takeWhile_append]
  split
  · next hlength =>
    have hall : taken.takeWhile (· ≠ i) = taken :=
      (List.takeWhile_prefix _).eq_of_length hlength
    rw [List.takeWhile_eq_self_iff] at hall
    have hij : j = i := h.resolve_left fun hi => of_decide_eq_true (hall i hi) rfl
    rw [hij, List.takeWhile_cons_of_neg (by simp), List.append_nil,
      List.takeWhile_eq_self_iff.mpr hall]
  · rfl

/-- What holds after some turns: the room is the same, and each client is at a stage, with what it
found out still stored. -/
structure JoinsRun (requests : ι → JoinRequest) (t : RoomTables) (taken : List ι) : Prop where
  /-- The room is the same. -/
  room : ((joins requests t).run taken).store.room = t.room
  /-- The players of a client's first turn are still stored. -/
  known : ∀ i, playersKnown requests t taken i <+: playersAfter requests t taken
  /-- Each client is at a stage. -/
  stage : ∀ i, JoinStage (requests i).data t.room (requests i).playerId
    (playersKnown requests t taken i) (((joins requests t).run taken).pending i)

/-- A turn inserts the player whose join is due, for whom there was a place and whose name and seat
were free. -/
lemma JoinsRun.turn (h : JoinsRun requests t taken) (i : ι) :
    (((joins requests t).run taken).due i = none ∧
      ((joins requests t).run (taken ++ [i])).store = ((joins requests t).run taken).store) ∨
    ∃ player, ((joins requests t).run taken).due i = some player ∧
      (playersKnown requests t taken i).length < t.room.maxPlayers ∧
      (∀ q ∈ playersKnown requests t taken i,
        q.playerName ≠ player.playerName ∧ q.seatNumber ≠ player.seatNumber) ∧
      ((joins requests t).run (taken ++ [i])).store =
        { ((joins requests t).run taken).store with
          players := playersAfter requests t taken ++ [player] } := by
  rw [System.run_concat]
  exact (h.stage i).store_turn

/-- It holds after every schedule. -/
lemma joinsRun (requests : ι → JoinRequest) (t : RoomTables) (schedule : List ι) :
    JoinsRun requests t schedule := by
  induction schedule using List.reverseRecOn with
  | nil => exact ⟨rfl, fun i => List.prefix_refl _, fun i => .handler rfl⟩
  | append_singleton taken i ih =>
    have hgrown : ((joins requests t).run (taken ++ [i])).store.room = t.room ∧
        playersAfter requests t taken <+: playersAfter requests t (taken ++ [i]) := by
      unfold playersAfter
      rcases ih.turn i with ⟨-, hsame⟩ | ⟨player, -, -, -, hinsert⟩
      · rw [hsame]
        exact ⟨ih.room, List.prefix_refl _⟩
      · rw [hinsert]
        exact ⟨ih.room, List.prefix_append _ _⟩
    have hknown : ∀ j, j ∈ taken ∨ i = j →
        playersKnown requests t (taken ++ [i]) j = playersKnown requests t taken j := fun j hj =>
      congrArg (playersAfter requests t) (takeWhile_ne_concat hj)
    have hnew : ∀ j, ¬ (j ∈ taken ∨ i = j) → j ∉ taken ++ [i] := fun j hj hmem => by
      rw [List.mem_append, List.mem_singleton] at hmem
      exact hj (hmem.imp_right Eq.symm)
    refine ⟨hgrown.1, fun j => ?_, fun j => ?_⟩
    · by_cases hj : j ∈ taken ∨ i = j
      · rw [hknown j hj]
        exact (ih.known j).trans hgrown.2
      · rw [playersKnown, takeWhile_ne_of_not_mem (hnew j hj)]
    · by_cases hj : j ∈ taken ∨ i = j
      · rw [hknown j hj, System.run_concat]
        by_cases hji : j = i
        · subst hji
          exact (ih.stage j).turn ih.room (ih.known j)
        · rw [System.turn_pending_of_ne hji]
          exact ih.stage j
      · -- a client who has taken no turn yet is to look the room up
        exact .handler (System.run_pending_of_not_mem (hnew j hj))

/-- A room with one more player is respected exactly when it was, there was a place left, and nobody
bears the name of the player or occupies his seat. -/
lemma roomRespected_concat_iff {player : RoomPlayer} :
    RoomRespected { t with players := t.players ++ [player] } ↔
      RoomRespected t ∧ (t.players.length < t.room.maxPlayers ∧
        ∀ q ∈ t.players, q.playerName ≠ player.playerName ∧ q.seatNumber ≠ player.seatNumber) := by
  have hplace : ((t.players ++ [player]).length : Int) ≤ t.room.maxPlayers ↔
      (t.players.length : Int) < t.room.maxPlayers := by
    rw [List.length_append, List.length_singleton]
    omega
  constructor
  · rintro ⟨hcapacity, hnames, hseats⟩
    have hlt := hplace.mp hcapacity
    rw [nodup_map_concat_iff] at hnames hseats
    exact ⟨⟨hlt.le, hnames.1, hseats.1⟩, hlt, fun q hq => ⟨hnames.2 q hq, hseats.2 q hq⟩⟩
  · rintro ⟨hrespected, hlt, hfree⟩
    exact ⟨hplace.mpr hlt,
      nodup_map_concat_iff.mpr ⟨hrespected.names, fun q hq => (hfree q hq).1⟩,
      nodup_map_concat_iff.mpr ⟨hrespected.seats, fun q hq => (hfree q hq).2⟩⟩

/-- A turn of a client leaves the room respected exactly when it was, and the client is not
overtaken. -/
lemma roomRespected_turn_iff (requests : ι → JoinRequest) (t : RoomTables)
    (taken : List ι) (i : ι) :
    RoomRespected ((joins requests t).run (taken ++ [i])).store ↔
      RoomRespected ((joins requests t).run taken).store ∧ ¬ Overtaken requests t taken i := by
  have hrun := joinsRun requests t taken
  unfold Overtaken
  rcases hrun.turn i with ⟨hdue, hsame⟩ | ⟨player, hdue, hplace, hfree, hinsert⟩
  · rw [hsame, hdue]
    simp
  · rw [hinsert, hdue]
    refine roomRespected_concat_iff.trans (and_congr_right fun _ => ?_)
    rw [hrun.room]
    -- those whom the client knew of bear other names and occupy other seats
    have hsplit : playersKnown requests t taken i ++ joinedSince requests t taken i =
        playersAfter requests t taken := List.prefix_iff_eq_append.mp (hrun.known i)
    have hall : (∀ q ∈ playersAfter requests t taken,
          q.playerName ≠ player.playerName ∧ q.seatNumber ≠ player.seatNumber) ↔
        ∀ q ∈ joinedSince requests t taken i,
          q.playerName ≠ player.playerName ∧ q.seatNumber ≠ player.seatNumber := by
      rw [← hsplit, List.forall_mem_append]
      exact and_iff_right hfree
    -- it had counted fewer players than there are places
    have hlt : ((playersAfter requests t taken).length : Int) < t.room.maxPlayers ↔
        ¬ (joinedSince requests t taken i ≠ [] ∧
          t.room.maxPlayers ≤ (playersAfter requests t taken).length) := by
      rw [not_and, not_le]
      refine ⟨fun h _ => h, fun h => ?_⟩
      by_cases hnone : joinedSince requests t taken i = []
      · rwa [← hsplit, hnone, List.append_nil]
      · exact h hnone
    change ((playersAfter requests t taken).length : Int) < _ ∧
      (∀ q ∈ playersAfter requests t taken, _) ↔ _
    rw [hall, hlt]
    simp

/-- **When concurrent joins respect the room.** Any number of clients join a room, and their
requests interleave in any way.  The players fit into the room afterwards and have different names
and different seats exactly when this was so before and no client commits its join although others
have joined since its first turn, and the room is full by then or one of them has taken its name or
its seat. -/
theorem joins_respect_room_iff (requests : ι → JoinRequest) (t : RoomTables) (schedule : List ι) :
    RoomRespected ((joins requests t).run schedule).store ↔
      RoomRespected t ∧ ∀ taken i, taken ++ [i] <+: schedule → ¬ Overtaken requests t taken i := by
  induction schedule using List.reverseRecOn with
  | nil => simp [joins, System.start]
  | append_singleton before j ih =>
    rw [roomRespected_turn_iff, ih, and_assoc]
    apply and_congr_right
    intro _
    constructor
    · rintro ⟨hbefore, hlast⟩ taken i htaken
      rcases List.prefix_concat_iff.mp htaken with heq | htaken
      · obtain ⟨rfl, hij⟩ := List.append_inj' heq rfl
        obtain rfl := List.singleton_injective hij
        exact hlast
      · exact hbefore taken i htaken
    · exact fun h => ⟨fun taken i htaken => h taken i (htaken.trans (List.prefix_append _ _)),
        h before j (List.prefix_refl _)⟩

end

/-- Alice and Bob join at once, and neither requests a seat. -/
def joinAtOnce : Bool → JoinRequest
  | false =>
    { code := "ABCD"
      data := aliceJoins
      playerId := "alice" }
  | true =>
    { code := "ABCD"
      data := bobJoins
      playerId := "bob" }

/-- Two joins that have both looked for the next seat of a new room before one of them commits get
the same seat. -/
theorem joined_on_one_seat :
    ¬ ∀ (ι : Type) [DecidableEq ι] (requests : ι → JoinRequest) (data : CreateRoom)
      (roomId code : String) (schedule : List ι),
      RoomRespected ((joins requests (createRoom data roomId code)).run schedule).store := by
  intro h
  have hrespected := h Bool joinAtOnce roomForTwo "room" "ABCD"
    [false, true, false, true, false, true, false, true, false, true, false, true]
  exact absurd hrespected.seats (by decide)

end PokerRoom
