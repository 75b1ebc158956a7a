import PokerRoom.Game.PlatformRun

/-!
# A start that fails

`start_game` activates the room before its rows are written.  Whatever fails afterwards leaves the
room active: rows that violate a constraint (two blind levels of one number, two players on one
seat), a failing database, or an activation whose answer is lost.
`failed_start_leaves_no_trace_iff` says that nothing else leaves a trace, except a failure after the
commit.
-/

namespace PokerRoom

open Foundation

/-! ## Definitions -/

/-- The status of a room. -/
def Platform.roomStatus (s : Platform) (roomId : String) : Option RoomStatus :=
  (s.rooms.find? fun t => t.room.roomId = roomId).map (·.room.status)

/-- A call has left no trace: no game, snapshot or outbox row, and the room as it was. -/
structure NoTrace (s s' : Platform) (roomId : String) : Prop where
  /-- The games and their snapshots. -/
  games : s'.games = s.games
  /-- The outbox. -/
  outbox : s'.outbox = s.outbox
  /-- The status of the room. -/
  status : s'.roomStatus roomId = s.roomStatus roomId

instance (s s' : Platform) (roomId : String) : Decidable (NoTrace s s' roomId) :=
  decidable_of_iff
    (s'.games = s.games ∧ s'.outbox = s.outbox ∧ s'.roomStatus roomId = s.roomStatus roomId)
    ⟨fun ⟨h₁, h₂, h₃⟩ => ⟨h₁, h₂, h₃⟩, fun ⟨h₁, h₂, h₃⟩ => ⟨h₁, h₂, h₃⟩⟩

/-- The rows of a start fit in: blind levels and seats of the room are different, and the drawn
identifiers are new. -/
structure Platform.Storable (s : Platform) (t : RoomTables) (call : StartGame) : Prop where
  /-- The blind levels. -/
  levels : (t.blindLevels.map (·.level)).Nodup
  /-- The seats. -/
  seats : (t.players.map (·.seatNumber)).Nodup
  /-- The identifier of the game. -/
  gameId : ∀ g ∈ s.games, g.game.gameId ≠ call.gameId
  /-- The identifier of the event. -/
  eventId : ∀ e ∈ s.outbox, e.eventId ≠ call.eventId

/-- A start of a game in a room that waits passes its checks, and its activation takes effect, but
it is not answered or the rows are not written. -/
def Platform.FailsBehindActivation (s : Platform) (t : RoomTables) (call : StartGame) : Prop :=
  t.room.status = .waiting ∧
    (call.fault = some .activationUnanswered ∨ call.fault = some .flush ∨
      call.fault = some .commit ∨ (call.fault ≠ some .activationLost ∧ ¬ s.Storable t call))

/-- The rows of a start are written, and the failure comes after the commit. -/
def Platform.FailsBehindCommit (s : Platform) (t : RoomTables) (call : StartGame) : Prop :=
  t.room.status ≠ .finished ∧ call.fault = some .refresh ∧ s.Storable t call

variable {s : Platform} {t : RoomTables} {call : StartGame}

/-! ## Writing the rows -/

/-- The snapshot of a room has its players. -/
lemma players_saveRoomSnapshot_perm :
    (saveRoomSnapshot t.roomConfig).players.Perm (t.players.map (·.config)) :=
  bySeat_perm.trans (bySeat_perm.map _)

/-- The snapshot of a room has its blind levels. -/
lemma blindLevels_saveRoomSnapshot_perm :
    (saveRoomSnapshot t.roomConfig).blindLevels.Perm (t.blindLevels.map (·.config)) :=
  bySeat_perm.trans (bySeat_perm.map _)

/-- The snapshot of a room satisfies the constraints exactly when its seats and blind levels are
different. -/
lemma saveRoomSnapshot_constraints_iff (hsound : t.Sound) :
    (saveRoomSnapshot t.roomConfig).Constraints ↔
      (t.blindLevels.map (·.level)).Nodup ∧ (t.players.map (·.seatNumber)).Nodup := by
  have hids : ((saveRoomSnapshot t.roomConfig).players.map (·.playerId)).Perm
      (t.players.map (·.playerId)) := by
    have h := (players_saveRoomSnapshot_perm (t := t)).map (·.playerId)
    rw [List.map_map] at h
    exact h
  have hseats : ((saveRoomSnapshot t.roomConfig).players.map (·.seatNumber)).Perm
      (t.players.map (·.seatNumber)) := by
    have h := (players_saveRoomSnapshot_perm (t := t)).map (·.seatNumber)
    rw [List.map_map] at h
    exact h
  have hlevels : ((saveRoomSnapshot t.roomConfig).blindLevels.map (·.level)).Perm
      (t.blindLevels.map (·.level)) := by
    have h := (blindLevels_saveRoomSnapshot_perm (t := t)).map (·.level)
    rw [List.map_map] at h
    exact h
  constructor
  · exact fun h => ⟨hlevels.nodup_iff.mp h.levels, hseats.nodup_iff.mp h.seatNumbers⟩
  · rintro ⟨hl, hs⟩
    refine ⟨hids.nodup_iff.mpr hsound.constraints, hseats.nodup_iff.mpr hs, fun p hp => ?_,
      hlevels.nodup_iff.mpr hl⟩
    obtain ⟨q, hq, rfl⟩ := List.mem_map.mp (players_saveRoomSnapshot_perm.mem_iff.mp hp)
    exact hsound.chips q hq

/-- A game without rounds fits in among the others exactly when its identifier is new. -/
lemma gamesConstraints_concat_iff {games : List GameTables} (hgames : GamesConstraints games)
    {g : GameTables} (hrounds : g.rounds = []) :
    GamesConstraints (games ++ [g]) ↔ ∀ g' ∈ games, g'.game.gameId ≠ g.game.gameId := by
  constructor
  · exact fun h => (nodup_map_concat_iff.mp h.gameIds).2
  · intro hnew
    refine ⟨nodup_map_concat_iff.mpr ⟨hgames.gameIds, hnew⟩, ?_, ?_, ?_⟩
    · simpa [hrounds] using hgames.roundIds
    · simpa [hrounds] using hgames.betIds
    · simpa [hrounds] using hgames.entryIds

/-- The rows of a started game satisfy the constraints exactly when they fit in. -/
lemma storable_iff (hvalid : s.Valid) (hsound : t.Sound) (positions : Positions) :
    ((startedGame t.roomConfig positions call.gameId call.now).Constraints ∧
      GamesConstraints (s.games ++ [startedGame t.roomConfig positions call.gameId call.now]) ∧
      ((s.outbox ++ [call.event (startedGame t.roomConfig positions call.gameId call.now)]).map
        (·.eventId)).Nodup) ↔ s.Storable t call := by
  rw [gamesConstraints_concat_iff hvalid.games rfl, nodup_map_concat_iff,
    and_iff_right hvalid.eventIds]
  constructor
  · rintro ⟨hrows, hgame, hevent⟩
    obtain ⟨hlevels, hseats⟩ := (saveRoomSnapshot_constraints_iff hsound).mp hrows.snapshot
    exact ⟨hlevels, hseats, hgame, hevent⟩
  · intro h
    refine ⟨⟨?_, (saveRoomSnapshot_constraints_iff hsound).mpr ⟨h.levels, h.seats⟩, ?_, ?_, ?_, ?_⟩,
      h.gameId, h.eventId⟩
    · exact ⟨le_rfl, le_rfl, le_rfl⟩
    all_goals exact List.nodup_nil

/-- The rows of a start that passed its checks are written exactly when they fit in and the database
does not fail. -/
lemma writeGame_iff (hvalid : s.Valid) (hsound : t.Sound) (positions : Positions) :
    (∃ written, s.writeGame call (startedGame t.roomConfig positions call.gameId call.now) =
        .ok written) ↔
      (call.fault ≠ some .flush ∧ call.fault ≠ some .commit) ∧ s.Storable t call := by
  simp only [writeGame_eq_ok_iff, storable_iff hvalid hsound positions]
  constructor
  · rintro ⟨-, hfault, hstorable, -⟩
    exact ⟨hfault, hstorable⟩
  · rintro ⟨hfault, hstorable⟩
    exact ⟨_, hfault, hstorable, rfl⟩

/-! ## Activating the room -/

/-- A waiting room becomes active, an active one stays as it is, and a finished one is refused. -/
lemma activateRoom_cases (hcons : t.Constraints) :
    (t.room.status = .waiting ∧
      activateRoom t = .ok { t with room := { t.room with status := .active } }) ∨
    (t.room.status = .active ∧ activateRoom t = .ok t) ∨
    (t.room.status = .finished ∧ ∃ e, activateRoom t = .error e) := by
  unfold activateRoom
  cases hstatus : t.room.status with
  | waiting =>
    refine Or.inl ⟨rfl, ?_⟩
    rw [if_neg (by simp), require_of rfl]
    exact RoomTables.flush_eq_ok_iff.mpr ⟨hcons, rfl⟩
  | active => exact Or.inr (Or.inl ⟨rfl, if_pos rfl⟩)
  | finished => exact Or.inr (Or.inr ⟨rfl, _, rfl⟩)

/-- A finished room is refused, and every other one is active afterwards. -/
lemma activateRoom_or (hcons : t.Constraints) :
    (t.room.status = .finished ∧ ∃ e, activateRoom t = .error e) ∨
    (t.room.status ≠ .finished ∧ ∃ t', activateRoom t = .ok t' ∧ t'.room.roomId = t.room.roomId ∧
      (t'.room.status = t.room.status ↔ t.room.status ≠ .waiting)) := by
  rcases activateRoom_cases hcons with ⟨hstatus, h⟩ | ⟨hstatus, h⟩ | ⟨hstatus, h⟩
  · exact Or.inr ⟨by simp [hstatus], _, h, rfl, by simp [hstatus]⟩
  · exact Or.inr ⟨by simp [hstatus], _, h, rfl, by simp [hstatus]⟩
  · exact Or.inl ⟨hstatus, h⟩

/-- A call that is carried out on a room is answered with success, if it is answered. -/
lemma postRoomStatusUpdate_of_perform {rooms : List RoomTables} {roomId : String}
    {action : RoomAction} (hfind : (rooms.find? fun t => t.room.roomId = roomId) = some t)
    {t' : RoomTables} (hperform : action.perform t = .ok t') :
    postRoomStatusUpdate rooms roomId action .answered = (.ok (), putRoom t' rooms) ∧
      postRoomStatusUpdate rooms roomId action .replyLost =
        (.error action.failed, putRoom t' rooms) := by
  have hupdate := updateRoomStatus_eq_ok_iff.mpr ⟨t, t', hfind, hperform, rfl⟩
  constructor
  · simp only [postRoomStatusUpdate, hupdate]
  · simp only [postRoomStatusUpdate, hupdate]

/-- A call that is refused fails and changes nothing. -/
lemma postRoomStatusUpdate_of_refused {rooms : List RoomTables} {roomId : String}
    {action : RoomAction} (delivery : Delivery)
    (hfind : (rooms.find? fun t => t.room.roomId = roomId) = some t) {e : RoomRejection}
    (hperform : action.perform t = .error e) :
    (postRoomStatusUpdate rooms roomId action delivery).2 = rooms ∧
      ∃ e', (postRoomStatusUpdate rooms roomId action delivery).1 = .error e' := by
  have hupdate : updateRoomStatus rooms roomId action = .error e := by
    unfold updateRoomStatus
    simp only [hfind, hperform]
    rfl
  cases delivery with
  | requestLost => exact ⟨rfl, _, rfl⟩
  | answered | replyLost =>
    simp only [postRoomStatusUpdate, hupdate]
    exact ⟨trivial, _, rfl⟩

/-- A room that was rewritten is found. -/
lemma find?_putRoom {rooms : List RoomTables} (hnd : (rooms.map (·.room.roomId)).Nodup)
    {roomId : String} (hfind : (rooms.find? fun t => t.room.roomId = roomId) = some t)
    {t' : RoomTables} (hid : t'.room.roomId = t.room.roomId) :
    ((putRoom t' rooms).find? fun t => t.room.roomId = roomId) = some t' := by
  obtain ⟨ht, hroom⟩ := mem_of_find?_key hfind
  have hids : (putRoom t' rooms).map (·.room.roomId) = rooms.map (·.room.roomId) :=
    map_key_updateFirst fun _ => rfl
  refine (find?_key_eq_some_iff (hids ▸ hnd)).mpr ⟨?_, hid.trans hroom⟩
  exact mem_updateFirst_const ⟨t, ht, hid.symm⟩

/-- Rewriting a room leaves no trace exactly when its status is the same. -/
lemma noTrace_putRoom_iff (hvalid : s.Valid) {roomId : String}
    (hfind : (s.rooms.find? fun t => t.room.roomId = roomId) = some t) {t' : RoomTables}
    (hid : t'.room.roomId = t.room.roomId) :
    NoTrace s { s with rooms := putRoom t' s.rooms } roomId ↔ t'.room.status = t.room.status := by
  have hafter := find?_putRoom hvalid.rooms.roomIds hfind hid
  constructor
  · intro h
    have hstatus := h.status
    simp only [Platform.roomStatus, hafter, hfind, Option.map_some, Option.some.injEq] at hstatus
    exact hstatus
  · intro h
    refine ⟨rfl, rfl, ?_⟩
    simp only [Platform.roomStatus, hafter, hfind, Option.map_some, h]

/-! ## Every point of failure -/

/-- A start that passes its checks and fails has at most called the room service. -/
lemma startGame_of_failed {g : GameTables} (hprepared : s.prepareGame call = .ok g) {e : Rejection}
    (hfailed : ((postRoomStatusUpdate s.rooms call.roomId .activate
      (StartFault.delivery call.fault)).1.bind fun _ => s.writeGame call g) = .error e) :
    s.startGame call = (.error e, { s with rooms :=
      (postRoomStatusUpdate s.rooms call.roomId .activate
          (StartFault.delivery call.fault)).2 }) := by
  unfold Platform.startGame
  simp only [hprepared, hfailed]

/-- A start whose rows are written fails only behind the commit. -/
lemma startGame_of_written {g : GameTables} (hprepared : s.prepareGame call = .ok g)
    {games : List GameTables} {outbox : List StartedEvent}
    (hwritten : ((postRoomStatusUpdate s.rooms call.roomId .activate
      (StartFault.delivery call.fault)).1.bind fun _ => s.writeGame call g) = .ok (games, outbox)) :
    s.startGame call = ((requireNoFault call.fault .refresh .operationalError).map fun _ => g.game,
      { games := games
        outbox := outbox
        rooms := (postRoomStatusUpdate s.rooms call.roomId .activate
          (StartFault.delivery call.fault)).2 }) := by
  unfold Platform.startGame
  simp only [hprepared, hwritten]

/-- A start that fails its checks leaves everything as it was. -/
lemma startGame_of_not_startable (h : ¬ ∃ t, s.Startable t call) :
    (s.startGame call).2 = s := by
  unfold Platform.startGame
  cases hprepared : s.prepareGame call with
  | error e => rfl
  | ok g =>
    obtain ⟨t, positions, hstart, -⟩ := prepareGame_eq_ok_iff.mp hprepared
    exact absurd ⟨t, hstart⟩ h

/-- A start that fails leaves no trace. -/
def Platform.CleanFailure (s : Platform) (call : StartGame) : Prop :=
  ∀ e, (s.startGame call).1 = .error e → NoTrace s (s.startGame call).2 call.roomId

/-- A start that fails is a clean failure exactly when it leaves no trace. -/
lemma cleanFailure_iff_of_error {e : Rejection} {s' : Platform}
    (h : s.startGame call = (.error e, s')) :
    s.CleanFailure call ↔ NoTrace s s' call.roomId := by
  unfold Platform.CleanFailure
  rw [h]
  exact ⟨fun hclean => hclean e rfl, fun hnone _ _ => hnone⟩

/-- An activation that reaches the room service and is answered. -/
lemma StartFault.delivery_eq_answered {fault : Option StartFault}
    (hlost : fault ≠ some .activationLost) (hunanswered : fault ≠ some .activationUnanswered) :
    StartFault.delivery fault = .answered := by
  unfold StartFault.delivery
  split
  · next h => exact absurd rfl hlost
  · next h => exact absurd rfl hunanswered
  · rfl

/-- The rows of a start are written: its activation is answered, the database does not fail before
the commit, and the rows fit in. -/
def Platform.Writes (s : Platform) (t : RoomTables) (call : StartGame) : Prop :=
  call.fault ≠ some .activationUnanswered ∧ (call.fault ≠ some .flush ∧ call.fault ≠ some .commit) ∧
    s.Storable t call

namespace Platform.Startable

/-- In a finished room nothing is activated. -/
lemma cleanFailure_of_finished (hvalid : s.Valid) (hstart : s.Startable t call)
    (hfinished : t.room.status = .finished) : s.CleanFailure call := by
  have hsound := hvalid.rooms.rooms t (List.mem_of_find?_eq_some hstart.found)
  obtain ⟨positions, hprepared⟩ := hstart.exists_prepared
  rcases activateRoom_or hsound.constraints with ⟨-, e, hrefused⟩ | ⟨hnot, -⟩
  · have hperform : RoomAction.activate.perform t = .error e := hrefused
    obtain ⟨hrooms, e', hpost⟩ := postRoomStatusUpdate_of_refused
      (StartFault.delivery call.fault) hstart.found hperform
    have hfailed := startGame_of_failed hprepared (e := e') (by rw [hpost]; rfl)
    rw [hrooms] at hfailed
    exact (cleanFailure_iff_of_error hfailed).mpr ⟨rfl, rfl, rfl⟩
  · exact absurd hfinished hnot

/-- An activation that does not reach the room service changes nothing. -/
lemma cleanFailure_of_activationLost (hstart : s.Startable t call)
    (hlost : call.fault = some .activationLost) : s.CleanFailure call := by
  obtain ⟨positions, hprepared⟩ := hstart.exists_prepared
  have hdelivery : StartFault.delivery call.fault = .requestLost := by rw [hlost]; rfl
  have hfailed := startGame_of_failed hprepared (e := RoomAction.activate.failed)
    (by rw [hdelivery]; rfl)
  rw [hdelivery] at hfailed
  exact (cleanFailure_iff_of_error hfailed).mpr ⟨rfl, rfl, rfl⟩

variable (hvalid : s.Valid) (hstart : s.Startable t call) (hfinished : t.room.status ≠ .finished)
  (hlost : call.fault ≠ some .activationLost)

include hvalid hstart hfinished hlost

/-- An activation that reaches the room service takes effect, and it is answered unless the answer
is lost. -/
lemma exists_activated :
    ∃ rooms, postRoomStatusUpdate s.rooms call.roomId .activate (StartFault.delivery call.fault) =
        (if call.fault = some .activationUnanswered then .error RoomAction.activate.failed
          else .ok (), rooms) ∧
      (NoTrace s { s with rooms := rooms } call.roomId ↔ t.room.status ≠ .waiting) := by
  have hsound := hvalid.rooms.rooms t (List.mem_of_find?_eq_some hstart.found)
  rcases activateRoom_or hsound.constraints with ⟨h, -⟩ | ⟨-, t', hactivated, hid, hstatus⟩
  · exact absurd h hfinished
  · have hperform : RoomAction.activate.perform t = .ok t' := hactivated
    obtain ⟨hanswered, hunanswered⟩ := postRoomStatusUpdate_of_perform hstart.found hperform
    refine ⟨putRoom t' s.rooms, ?_, (noTrace_putRoom_iff hvalid hstart.found hid).trans hstatus⟩
    split
    · next h =>
      have hdelivery : StartFault.delivery call.fault = .replyLost := by rw [h]; rfl
      rw [hdelivery, hunanswered]
    · next h => rw [StartFault.delivery_eq_answered hlost h, hanswered]

/-- A start that reached the room service and whose rows are not written leaves a trace exactly when
the room waited. -/
lemma cleanFailure_iff_of_not_writes (hwrites : ¬ s.Writes t call) :
    s.CleanFailure call ↔ t.room.status ≠ .waiting := by
  have hsound := hvalid.rooms.rooms t (List.mem_of_find?_eq_some hstart.found)
  obtain ⟨positions, hprepared⟩ := hstart.exists_prepared
  obtain ⟨rooms, hpost, htrace⟩ := exists_activated hvalid hstart hfinished hlost
  have hfailed : ∃ e, ((postRoomStatusUpdate s.rooms call.roomId .activate
      (StartFault.delivery call.fault)).1.bind fun _ => s.writeGame call
        (startedGame t.roomConfig positions call.gameId call.now)) = .error e := by
    rw [hpost]
    by_cases hunanswered : call.fault = some .activationUnanswered
    · exact ⟨_, by rw [if_pos hunanswered]; rfl⟩
    · rw [if_neg hunanswered]
      have hnone := mt (writeGame_iff hvalid hsound positions).mp fun h => hwrites ⟨hunanswered, h⟩
      cases hwritten : s.writeGame call
          (startedGame t.roomConfig positions call.gameId call.now) with
      | error e => exact ⟨e, rfl⟩
      | ok written => exact absurd ⟨written, hwritten⟩ hnone
  obtain ⟨e, hfailed⟩ := hfailed
  rw [cleanFailure_iff_of_error (startGame_of_failed hprepared hfailed), hpost, htrace]

/-- A start whose rows are written leaves a trace exactly when the database fails after the
commit. -/
lemma cleanFailure_iff_of_writes (hwrites : s.Writes t call) :
    s.CleanFailure call ↔ call.fault ≠ some .refresh := by
  have hsound := hvalid.rooms.rooms t (List.mem_of_find?_eq_some hstart.found)
  obtain ⟨positions, hprepared⟩ := hstart.exists_prepared
  obtain ⟨rooms, hpost, -⟩ := exists_activated hvalid hstart hfinished hlost
  rw [if_neg hwrites.1] at hpost
  obtain ⟨⟨games, outbox⟩, hwritten⟩ := (writeGame_iff hvalid hsound positions).mpr hwrites.2
  have hbind : ((postRoomStatusUpdate s.rooms call.roomId .activate
      (StartFault.delivery call.fault)).1.bind fun _ => s.writeGame call
        (startedGame t.roomConfig positions call.gameId call.now)) = .ok (games, outbox) := by
    rw [hpost]
    exact hwritten
  have hok := startGame_of_written hprepared hbind
  by_cases hrefresh : call.fault = some .refresh
  · rw [requireNoFault, require, if_neg (by simp [hrefresh])] at hok
    rw [cleanFailure_iff_of_error hok]
    -- the game is there
    refine iff_of_false (fun h => ?_) fun h => h hrefresh
    obtain ⟨-, -, heq⟩ := writeGame_eq_ok_iff.mp hwritten
    have hgames := h.games
    rw [(Prod.mk.inj heq).1] at hgames
    exact List.cons_ne_nil _ _ (List.append_right_eq_self.mp hgames)
  · rw [requireNoFault, require_of hrefresh] at hok
    refine iff_of_true (fun e h => ?_) hrefresh
    rw [hok] at h
    cases h

end Platform.Startable

/-- A start that reaches the room service fails behind the activation exactly when the room waited
and the rows are not written. -/
lemma failsBehindActivation_iff (hlost : call.fault ≠ some .activationLost) :
    s.FailsBehindActivation t call ↔ t.room.status = .waiting ∧ ¬ s.Writes t call := by
  unfold Platform.FailsBehindActivation Platform.Writes
  simp only [not_and_or, not_not, hlost, ne_eq, not_false_eq_true, true_and, or_assoc]

/-- A failure after the commit comes after the rows are written. -/
lemma failsBehindCommit_iff :
    s.FailsBehindCommit t call ↔
      t.room.status ≠ .finished ∧ call.fault = some .refresh ∧ s.Writes t call := by
  unfold Platform.FailsBehindCommit Platform.Writes
  refine and_congr_right fun _ => and_congr_right fun hrefresh => ?_
  simp [hrefresh]

/-- A start that passes its checks leaves no trace on failure exactly when it does not fail behind
the activation of a waiting room or behind the commit. -/
lemma Platform.Startable.cleanFailure_iff (hvalid : s.Valid) (hstart : s.Startable t call) :
    s.CleanFailure call ↔ ¬ s.FailsBehindActivation t call ∧ ¬ s.FailsBehindCommit t call := by
  by_cases hfinished : t.room.status = .finished
  · refine iff_of_true (hstart.cleanFailure_of_finished hvalid hfinished)
      ⟨?_, fun h => h.1 hfinished⟩
    rintro ⟨hwaiting, -⟩
    rw [hwaiting] at hfinished
    cases hfinished
  by_cases hlost : call.fault = some .activationLost
  · refine iff_of_true (hstart.cleanFailure_of_activationLost hlost) ⟨?_, ?_⟩
    · simp [Platform.FailsBehindActivation, hlost]
    · simp [Platform.FailsBehindCommit, hlost]
  rw [failsBehindActivation_iff hlost, failsBehindCommit_iff]
  by_cases hwrites : s.Writes t call
  · rw [hstart.cleanFailure_iff_of_writes hvalid hfinished hlost hwrites]
    simp [hwrites, hfinished]
  · rw [hstart.cleanFailure_iff_of_not_writes hvalid hfinished hlost hwrites]
    simp [hwrites]

/-- **When a failed start leaves no trace.** In every state the two services reach, a start of a
game that fails leaves no game, snapshot or outbox row and the status of its room as it was, exactly
unless its checks pass and either its room waited and the answer to the activation is lost, the
database fails when the rows are written or committed, or two blind levels or two seats of the room
or a drawn identifier coincide; or the database fails after the commit. -/
theorem failed_start_leaves_no_trace_iff (cs : List PlatformCommand) (call : StartGame) :
    (platformMachine.run .empty cs).CleanFailure call ↔
      ¬ ∃ t, (platformMachine.run .empty cs).Startable t call ∧
        ((platformMachine.run .empty cs).FailsBehindActivation t call ∨
          (platformMachine.run .empty cs).FailsBehindCommit t call) := by
  have hvalid := valid_run cs
  generalize platformMachine.run .empty cs = s at hvalid
  by_cases h : ∃ t, s.Startable t call
  · obtain ⟨t, hstart⟩ := h
    rw [hstart.cleanFailure_iff hvalid, ← not_or, not_iff_not]
    constructor
    · exact fun hfails => ⟨t, hstart, hfails⟩
    · rintro ⟨t', hstart', hfails⟩
      obtain rfl := Option.some.inj (hstart.found.symm.trans hstart'.found)
      exact hfails
  · refine iff_of_true (fun e hfail => ?_) fun ⟨t, hstart, _⟩ => h ⟨t, hstart⟩
    rw [startGame_of_not_startable h]
    exact ⟨rfl, rfl, rfl⟩

/-- Two players in a room with two blind levels of one number. -/
def twinLevels : List PlatformCommand :=
  [.createRoom roomForTwo "room" "CODE",
    .onRoom "room" (.joinRoomByCode "CODE" aliceJoins "alice"),
    .onRoom "room" (.joinRoomByCode "CODE" bobJoins "bob"),
    .onRoom "room" (.setBlindStructure
      { singleLevel with
        levels :=
          [firstLevel,
            { firstLevel with
              smallBlind := firstLevel.bigBlind
              bigBlind := 4
              smallBlind_pos := firstLevel.bigBlind_pos
              bigBlind_pos := by decide }]
        levels_ne := by decide })]

/-- The game of a room with two blind levels of one number is refused, but the room is active. -/
theorem twin_levels_leave_room_active :
    ¬ ∀ (cs : List PlatformCommand) (call : StartGame), call.fault = none →
      (platformMachine.run .empty cs).CleanFailure call := by
  intro h
  have hclean := h twinLevels ⟨"room", "game", "event", 0, none⟩ rfl .integrityError (by decide)
  exact absurd hclean.status (by decide)

end PokerRoom
