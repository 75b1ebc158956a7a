import PokerRoom.Game.ChipConservation

/-!
# The live hand of a game

`start_round` refuses to start a round while another one of the game is active; `reopen_hand` makes
a completed round active again without looking at the others.  `one_live_hand_iff` says that this is
the only way to a second live hand.
-/

namespace PokerRoom

open Foundation

/-! ## Definitions -/

/-- The number of active rounds of a game. -/
def liveCount (g : GameTables) : ℕ := (g.rounds.filter fun r => r.round.status = .active).length

/-- At most one round of the game is active, and the lookup of the active round never finds two. -/
structure OneLive (g : GameTables) : Prop where
  /-- The active rounds. -/
  count_le : liveCount g ≤ 1
  /-- The lookup. -/
  lookup : g.activeRound ≠ .error .multipleResultsFound

/-- The command reopens the hand of a round. -/
def GameCommand.IsReopening : GameCommand → Prop
  | .round _ (.reopenHand _ _) _ => True
  | _ => False

instance : DecidablePred GameCommand.IsReopening := fun c => by
  unfold GameCommand.IsReopening
  split <;> infer_instance

/-- The rows of a game and of its rounds satisfy the constraints. -/
def Stored (g : GameTables) : Prop := g.Constraints ∧ ∀ r ∈ g.rounds, r.Constraints

variable {g g' : GameTables} {r r' : RoundTables} {clock : Clock}

/-- The lookup of the active round finds two exactly when there are two. -/
lemma oneLive_iff : OneLive g ↔ liveCount g ≤ 1 := by
  refine ⟨OneLive.count_le, fun h => ⟨h, ?_⟩⟩
  rw [activeRound_eq_scalarOneOrNone]
  exact scalarOneOrNone_ne_error_iff.mpr h

/-- No round is active exactly when there are none to count. -/
lemma liveCount_eq_zero_iff : liveCount g = 0 ↔ ∀ r ∈ g.rounds, r.round.status ≠ .active := by
  rw [liveCount, List.length_eq_zero_iff, List.filter_eq_nil_iff]
  simp

/-! ## One command -/

/-- Replacing the rows of a round changes the number of active rounds by that round. -/
lemma liveCount_putRound (h : Stored g) (hr : r ∈ g.rounds)
    (hid : r'.round.roundId = r.round.roundId) :
    (liveCount (g.putRound r') : ℤ) = liveCount g +
      ((if r'.round.status = .active then 1 else 0) - if r.round.status = .active then 1 else 0) :=
  length_filter_updateFirst (f := fun _ => r') h.1.roundIds hr hid.symm

/-- Replacing the rows of a round keeps the stored rows sound. -/
lemma Stored.putRound (h : Stored g) (hcons : (g.putRound r').Constraints) (hr' : r'.Constraints) :
    Stored (g.putRound r') :=
  ⟨hcons, forall_updateFirst h.2 fun _ _ _ => hr'⟩

/-- A settlement of a round leaves none of its game active that was not. -/
lemma liveCount_settled (h : Stored g) (hr : r ∈ g.rounds) {data : ResolveHandRequest} {ids : Uuids}
    (hset : Settled r data ids r') : liveCount (g.settled r r' clock) ≤ liveCount g := by
  have hcount : liveCount (g.settled r r' clock) = liveCount (g.putRound r') := rfl
  obtain ⟨hid, hover⟩ := hset.round_eq
  have hput := liveCount_putRound h hr hid
  simp only [hover, reduceCtorEq, if_false] at hput
  rw [hcount]
  split at hput <;> omega

/-- An accepted command on the rows of a game keeps them sound. -/
lemma Stored.step {c : GameCommand} (h : Stored g) (hstep : GameStep g c g')
    (hcons : g'.Constraints) : Stored g' := by
  cases hstep with
  | started hstatus hnone hlevel hdeal =>
    refine ⟨hcons, fun q hq => ?_⟩
    rcases List.mem_append.mp hq with hq | hq
    · exact h.2 q hq
    · rw [List.mem_singleton.mp hq]
      exact (createRound_eq_ok_iff.mp hdeal).2.1
  | @acted roundId c clock r r' hfind hc hstep =>
    obtain ⟨hr, -⟩ := find?_roundId hfind
    have hrcons := h.2 r hr
    exact h.putRound hcons ((round_step_cases hrcons.playerIds hstep).constraints hrcons)
  | settled hc hset => exact ⟨hcons, forall_updateFirst h.2 fun _ _ _ => hset.constraints⟩
  | administered hc hstatus => exact ⟨hcons, h.2⟩

/-- The rows of a game stay sound under every accepted command. -/
lemma Stored.of_ok {c : GameCommand} (h : Stored g) (hok : gameMachine.step g c = .ok g') :
    Stored g' := by
  obtain ⟨hstep, hcons⟩ := game_step_cases hok
  exact h.step hstep hcons

/-- A new game has sound rows and no round. -/
lemma stored_of_startGame {existing : Option Game} {roomConfig : RoomConfig}
    {activated : Except Rejection Unit} {gameId : String} {now : Int}
    (hstart : startGame existing roomConfig activated gameId now = .ok g) :
    Stored g ∧ g.rounds = [] := by
  have hnew := gameStarted_of_startGame hstart
  exact ⟨⟨hnew.constraints, by simp [hnew.rounds]⟩, hnew.rounds⟩

/-! ## Every run -/

/-- An accepted command keeps one live hand exactly when it reopens none beside an active round. -/
lemma OneLive.step_iff {c : GameCommand} (h : Stored g) (hone : OneLive g)
    (hok : gameMachine.step g c = .ok g') :
    OneLive g' ↔ (c.IsReopening → ∀ q ∈ g.rounds, q.round.status ≠ .active) := by
  have hle := hone.count_le
  obtain ⟨hstep, -⟩ := game_step_cases hok
  rw [oneLive_iff, ← liveCount_eq_zero_iff]
  cases hstep with
  | @started data roundId ids level r hstatus hnone hlevel hdeal =>
    have hzero := liveCount_eq_zero_iff.mpr hnone
    have hlast : liveCount { g with rounds := g.rounds ++ [r] } ≤ 1 := by
      unfold liveCount at hzero ⊢
      rw [List.filter_append, List.length_append, hzero, zero_add]
      exact List.length_filter_le _ [r]
    exact iff_of_true hlast fun _ => hzero
  | @acted roundId c clock r r' hfind hc hstep =>
    obtain ⟨hr, -⟩ := find?_roundId hfind
    have hround := round_step_cases (h.2 r hr).playerIds hstep
    have hput := liveCount_putRound h hr hround.roundId_eq
    rcases hround.status_cases with ⟨data, ids, rfl, hover, hlive⟩ | ⟨hno, hstatus⟩
    · -- a reopened hand is one more
      simp only [hover, hlive, reduceCtorEq, if_true, if_false] at hput
      simp only [GameCommand.IsReopening, true_imp_iff]
      omega
    · have hleft : ¬ (GameCommand.round roundId c clock).IsReopening := by
        unfold GameCommand.IsReopening
        split
        · next heq => cases heq; exact absurd rfl (hno _ _)
        · exact not_false
      refine iff_of_true ?_ fun hreopen => absurd hreopen hleft
      rcases hstatus with hstatus | hstatus
      · simp only [hstatus, reduceCtorEq, if_false] at hput
        split at hput <;> omega
      · rw [hstatus] at hput
        omega
  | @settled roundId c clock r r' data ids hc hset =>
    have hr : r ∈ g.rounds := settlement?_mem hc
    have hleft : ¬ (GameCommand.round roundId c clock).IsReopening := by
      unfold GameCommand.IsReopening
      split
      · next heq =>
        cases heq
        simp [GameCommand.settlement?, RoundCommand.settlement?] at hc
      · exact not_false
    exact iff_of_true ((liveCount_settled h hr hset).trans hle) fun hreopen => absurd hreopen hleft
  | @administered c game hc hstatus =>
    refine iff_of_true hle fun hreopen => ?_
    cases c with
    | round => cases hc
    | startRound | advanceBlinds | pauseTable | resumeTable | recordHandCompleted | endGame =>
      cases hreopen

/-- **When a game has one live hand.** In every run of a game started from a room, at most one round
is active in each state it goes through exactly when no hand is reopened while a round is active. -/
theorem one_live_hand_iff {existing : Option Game} {roomConfig : RoomConfig}
    {activated : Except Rejection Unit} {gameId : String} {now : Int} {g₀ : GameTables}
    (hstart : startGame existing roomConfig activated gameId now = .ok g₀) (cs : List GameCommand) :
    (∀ k, OneLive (gameMachine.run g₀ (cs.take k))) ↔
      ∀ t ∈ gameMachine.trace g₀ cs, t.command.IsReopening →
        ∀ q ∈ t.before.rounds, q.round.status ≠ .active := by
  obtain ⟨hstored, hrounds⟩ := stored_of_startGame hstart
  have hone : OneLive g₀ := by
    rw [oneLive_iff, liveCount, hrounds]
    exact Nat.zero_le 1
  exact Machine.forall_run_take_iff (J := Stored)
    (P := fun t : Transition GameTables GameCommand => t.command.IsReopening →
      ∀ q ∈ t.before.rounds, q.round.status ≠ .active)
    (fun _ _ _ h hok => h.of_ok hok) (fun _ _ _ h hone hok => hone.step_iff h hok) hstored hone cs

/-- A game whose first hand is folded and settled, and whose second hand is under way. -/
def secondHand : List GameCommand :=
  foldedGame foldedHandPayout ++
    [.startRound controllerStart "second" (named ["sb2", "bb2"])]

/-- Dealing the second hand leaves one live hand. -/
theorem one_live_hand_iff_headsUp : OneLive (gameMachine.run headsUpGame (secondHand.take 4)) :=
  (one_live_hand_iff
    (show startGame none headsUpRoom.toRoomConfig (.ok ()) "game" 0 = .ok headsUpGame by decide)
    secondHand).mpr (by decide) 4

/-- The first hand may be reopened while the second one is under way, and the lookup of the active
round finds two. -/
theorem reopened_beside_live_hand :
    ¬ ∀ (existing : Option Game) (roomConfig : RoomConfig) (activated : Except Rejection Unit)
      (gameId : String) (now : Int) (g₀ : GameTables),
      startGame existing roomConfig activated gameId now = .ok g₀ →
      ∀ cs : List GameCommand, OneLive (gameMachine.run g₀ cs) := by
  intro h
  have hone := h none headsUpRoom.toRoomConfig (.ok ()) "game" 0 headsUpGame (by decide)
    (secondHand ++ [.round "round" (.reopenHand {} (named ["reopened"])) fun _ => 0])
  exact hone.lookup (by decide)

end PokerRoom
