import PokerRoom.Game.StackCarryOver

/-!
# The moves of the button

A settlement counts its hand once, but it moves the button every time: a hand that is reopened and
settled again moves it again.  `button_moves_once_iff` says that between the starts of two
successive rounds the button and the blinds move on by one rotation exactly when the number of
settlements is one more than a multiple of the number of players.
-/

namespace PokerRoom

open Foundation

/-! ## Definitions -/

/-- The settlements among the accepted commands. -/
def settlements (ts : List (Transition GameTables GameCommand)) :
    List (Transition GameTables GameCommand) :=
  ts.filter fun t => (t.command.settlement? t.before).isSome

/-- The seats of the players who go on playing, by seat. -/
def GameTables.survivors (g : GameTables) : List Int := remainingSeats g.snapshot.players

variable {g g' : GameTables} {r r' : RoundTables} {clock : Clock} {c : GameCommand}

/-! ## One command -/

/-- A settlement that leaves two players moves the positions on. -/
lemma settled_positions (htwo : 2 ≤ (g.settled r r' clock).survivors.length) :
    rotatePositions (g.settled r r' clock).survivors g.game.currentDealerSeat =
      some (g.settled r r' clock).game.positions := by
  have hne : (g.settled r r' clock).survivors ≠ [] := List.ne_nil_of_length_pos (by omega)
  obtain ⟨positions, hrotate⟩ :=
    Option.isSome_iff_exists.mp (positions_isSome hne g.game.currentDealerSeat).2
  have hdealer : ∀ b : Bool, (if b then g.game else
      (applyHandCompletion g.game g.snapshot true clock).write g.game).currentDealerSeat =
        g.game.currentDealerSeat := by
    rintro (_ | _) <;> rfl
  rw [hrotate]
  simp only [GameTables.survivors, GameTables.settled] at htwo hrotate
  simp only [GameTables.settled, Game.moveOn, if_pos htwo, hdealer, hrotate, Game.positions]

/-- A command that settles nothing leaves the positions and the players alone. -/
lemma positions_of_unsettled (hok : gameMachine.step g c = .ok g')
    (hc : (c.settlement? g).isSome = false) :
    g'.game.positions = g.game.positions ∧ g'.snapshot = g.snapshot := by
  cases (game_step_cases hok).1 with
  | started | acted => exact ⟨rfl, rfl⟩
  | settled hset => simp [hset] at hc
  | administered hadm => exact ⟨(tableStep_of_ok hadm hok).positions_eq, rfl⟩

/-- A round is started in an active game, and its row and its snapshot stay as they are. -/
lemma GameCommand.StartsRound.kept (hc : c.StartsRound) (hok : gameMachine.step g c = .ok g') :
    g.game.status = .active ∧ g'.game = g.game ∧ g'.snapshot = g.snapshot := by
  cases c with
  | startRound data roundId ids =>
    cases (game_step_cases hok).1 with
    | started hstatus => exact ⟨hstatus, rfl, rfl⟩
    | administered hadm => exact absurd hadm id
  | round | advanceBlinds | pauseTable | resumeTable | recordHandCompleted | endGame => cases hc

/-- An accepted command moves the positions on once if it settles a round that leaves two players,
and not at all if it settles nothing. -/
lemma rotations_step {seats : List Int} {positions : Positions} {k : ℕ} (htwo : 2 ≤ seats.length)
    (hok : gameMachine.step g c = .ok g')
    (hsame : (c.settlement? g).isSome = true → g'.survivors = seats)
    (h : rotations seats positions k = some g.game.positions) :
    rotations seats positions (k + if (c.settlement? g).isSome then 1 else 0) =
      some g'.game.positions := by
  cases hc : (c.settlement? g).isSome with
  | false =>
    rw [(positions_of_unsettled hok hc).1]
    exact h
  | true =>
    obtain ⟨⟨r, data, ids⟩, hs⟩ := Option.isSome_iff_exists.mp hc
    obtain ⟨r', clock, -, rfl⟩ := (game_step_cases hok).1.exists_settled hs
    have hseats := hsame hc
    rw [if_pos rfl, rotations, h, Option.bind_some, ← hseats]
    exact settled_positions (hseats ▸ htwo)

/-! ## Every run -/

/-- Over a run whose settlements all leave the same players, at least two, the positions move on
once for each settlement. -/
theorem rotations_run {seats : List Int} (htwo : 2 ≤ seats.length) (cs : List GameCommand)
    (hsame : ∀ t ∈ settlements (gameMachine.trace g cs), t.after.survivors = seats) :
    rotations seats g.game.positions (settlements (gameMachine.trace g cs)).length =
      some (gameMachine.run g cs).game.positions := by
  have hrun := Machine.run_trace_invariant (M := gameMachine)
    (I := fun s ts => (∀ t ∈ settlements ts, t.after.survivors = seats) →
      rotations seats g.game.positions (settlements ts).length = some s.game.positions)
    (fun s ts c s' hI hok hall => by
      have hlen : (settlements (ts ++ [⟨s, c, s'⟩])).length =
          (settlements ts).length + if (c.settlement? s).isSome then 1 else 0 := by
        rw [settlements, List.filter_append, List.length_append, List.filter_cons, List.filter_nil]
        split <;> rfl
      rw [settlements, List.filter_append, List.forall_mem_append, List.filter_cons] at hall
      rw [hlen]
      refine rotations_step htwo hok (fun hc => ?_) (hI hall.1)
      simpa [hc] using hall.2)
    (s := g) (show (∀ t ∈ settlements [], _) →
      rotations seats g.game.positions 0 = _ from fun _ => rfl)
    cs
  exact hrun hsame

/-- **The button moves once, exactly when.** In every game started from a room, between the starts
of two successive rounds whose settlements all leave the players of the second one, the button and
the blinds move on by exactly one rotation if and only if the number of settlements is one more than
a multiple of the number of these players. -/
theorem button_moves_once_iff (g g' : GameTables) {existing : Option Game} {roomConfig : RoomConfig}
    {activated : Except Rejection Unit} {gameId : String} {now : Int} {g₀ : GameTables}
    (hstart : startGame existing roomConfig activated gameId now = .ok g₀) (pre : List GameCommand)
    (first : GameCommand) (_ : first.StartsRound)
    (hfirst : gameMachine.step (gameMachine.run g₀ pre) first = .ok g) (cs : List GameCommand)
    (_ : ∀ t ∈ gameMachine.trace g cs, ¬ t.command.StartsRound)
    (next : GameCommand) (hnext : next.StartsRound)
    (hok : gameMachine.step (gameMachine.run g cs) next = .ok g')
    (hsame : ∀ t ∈ settlements (gameMachine.trace g cs), t.after.survivors = g'.survivors) :
    rotatePositions g'.survivors g.game.currentDealerSeat = some g'.game.positions ↔
      (settlements (gameMachine.trace g cs)).length ≡ 1 [MOD g'.survivors.length] := by
  have hheld : PositionsHeld (gameMachine.run g cs) := by
    have hpre : PositionsHeld (gameMachine.run g₀ pre) :=
      Machine.run_invariant (fun _ _ _ h hok => h.of_ok hok)
        (gameStarted_of_startGame hstart).positionsHeld pre
    exact Machine.run_invariant (fun _ _ _ h hok => h.of_ok hok) (hpre.of_ok hfirst) cs
  obtain ⟨hstatus, hgame, hsnapshot⟩ := hnext.kept hok
  have hperm := remainingSeats_perm g'.snapshot
  have hnd : g'.survivors.Nodup :=
    hperm.nodup_iff.mpr (game_step_cases hok).2.snapshot.activeSeats_nodup
  have htwo : 2 ≤ g'.survivors.length := by
    rw [GameTables.survivors, hperm.length_eq, hsnapshot]
    exact (hheld (by simp [hstatus])).two_le
  rw [hgame, ← rotations_run htwo cs hsame]
  exact eq_comm.trans (rotations_eq_one_iff g.game.positions hnd htwo)

/-- The start of the first round of the heads-up game. -/
def firstStart : GameCommand := .startRound controllerStart "round" headsUpIds

/-- The start of its second round. -/
def secondStart : GameCommand :=
  .startRound controllerStart "second" (named ["sb2", "bb2"])

/-- After a hand that is folded and settled once heads-up the button moves once. -/
theorem button_moves_once_iff_headsUp :
    rotatePositions [1, 2] 1 =
      some (gameMachine.run headsUpGame (foldedGame foldedHandPayout ++
        [secondStart])).game.positions :=
  (button_moves_once_iff (gameMachine.run headsUpGame [firstStart])
    (gameMachine.run headsUpGame (foldedGame foldedHandPayout ++ [secondStart]))
    (show startGame none headsUpRoom.toRoomConfig (.ok ()) "game" 0 = .ok headsUpGame by decide) []
    firstStart trivial (by decide) ((foldedGame foldedHandPayout).drop 1) (by decide)
    secondStart trivial (by decide) (by decide)).mpr (by decide)

/-- When the folded hand is reopened and settled again the button comes back to where it was. -/
theorem resettled_button_comes_back :
    ¬ ∀ (existing : Option Game) (roomConfig : RoomConfig) (activated : Except Rejection Unit)
      (gameId : String) (now : Int) (g₀ g g' : GameTables) (pre cs : List GameCommand)
      (first next : GameCommand),
      startGame existing roomConfig activated gameId now = .ok g₀ → first.StartsRound →
      gameMachine.step (gameMachine.run g₀ pre) first = .ok g →
      (∀ t ∈ gameMachine.trace g cs, ¬ t.command.StartsRound) → next.StartsRound →
      gameMachine.step (gameMachine.run g cs) next = .ok g' →
      (∀ t ∈ settlements (gameMachine.trace g cs), t.after.survivors = g'.survivors) →
      rotatePositions g'.survivors g.game.currentDealerSeat = some g'.game.positions := by
  intro h
  have hmoved := h none headsUpRoom.toRoomConfig (.ok ()) "game" 0 headsUpGame
    (gameMachine.run headsUpGame [firstStart])
    (gameMachine.run headsUpGame (resettledGame ++ [secondStart])) [] (resettledGame.drop 1)
    firstStart secondStart (by decide) trivial (by decide) (by decide) trivial
      (by decide) (by decide)
  exact absurd hmoved (by decide)

end PokerRoom
