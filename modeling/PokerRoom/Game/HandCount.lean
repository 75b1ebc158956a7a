import PokerRoom.Game.ActiveRound

/-!
# Counting the hands of a game

A settlement counts its hand unless the ledger of the round records a completion already;
`record_hand_completed` counts one when fewer hands are counted than rounds are completed.
`hands_counted` says that together they count every completed hand once.
-/

namespace PokerRoom

open Foundation

/-! ## Definitions -/

/-- The number of rounds of a game whose ledger records a completion. -/
def countedRounds (g : GameTables) : ℕ := (g.rounds.filter hasRoundCompletedEntry).length

/-- Every completed hand of a game is counted, and none is counted again. -/
structure HandsCounted (g : GameTables) : Prop where
  /-- The counter is the number of rounds that were completed. -/
  handsPlayed : g.game.handsPlayed = countedRounds g
  /-- Recording a completed hand changes nothing. -/
  recording : ∀ (clock : Clock) (g' : GameTables),
    gameMachine.step g (.recordHandCompleted clock) = .ok g' → g' = g
  /-- Settling a round that was completed before does not count it again. -/
  resettling : ∀ (c : GameCommand) (r : RoundTables) (data : ResolveHandRequest) (ids : Uuids)
    (g' : GameTables), c.settlement? g = some (r, data, ids) → hasRoundCompletedEntry r = true →
    gameMachine.step g c = .ok g' → g'.game.handsPlayed = g.game.handsPlayed ∧
      g'.game.handsAtCurrentLevel = g.game.handsAtCurrentLevel

/-- The rounds that are counted are those whose ledger records a completion, and every completed
round is one of these. -/
structure CountInvariant (g : GameTables) : Prop where
  /-- The stored rows are sound. -/
  stored : Stored g
  /-- The counter is the number of these rounds. -/
  handsPlayed : g.game.handsPlayed = countedRounds g
  /-- Completed rounds are recorded. -/
  completed : ∀ r ∈ g.rounds, r.round.status = .completed → hasRoundCompletedEntry r = true

variable {g g' : GameTables} {r r' : RoundTables} {clock : Clock}

/-! ## Records of a completion -/

/-- A ledger records a completion when an older part of it does or when one of the new entries
does. -/
lemma hasRoundCompletedEntry_of_append {es : List HandLedgerEntry}
    (h : r'.ledger = r.ledger ++ es) :
    hasRoundCompletedEntry r' =
      (hasRoundCompletedEntry r || es.any fun e => decide (e.entryType = .roundCompleted)) := by
  rw [hasRoundCompletedEntry, h, List.any_append]
  rfl

/-- A command that settles nothing records no completion. -/
lemma RoundStep.unsettled_entries {c : RoundCommand} (hstep : RoundStep r c r')
    (hc : c.settlement? r = none) {es : List HandLedgerEntry} (hes : r'.ledger = r.ledger ++ es) :
    ∀ e ∈ es, e.entryType ≠ .roundCompleted := by
  have hkinds : LedgerEntryType.roundCompleted ∉ c.entryTypes := by
    cases hstep with
    | settled hc' hset =>
      rw [hc] at hc'
      cases hc'
    | retried | bet | street | reversed | adjusted | reopened | corrected =>
      simp [RoundCommand.entryTypes]
  obtain ⟨es', hledger, hes'⟩ := hstep.appended
  obtain rfl := List.append_cancel_left (hes.symm.trans hledger)
  exact fun e he heq => hkinds (heq ▸ hes' e he)

/-- Only a settlement completes a round or records a completion. -/
lemma RoundStep.unsettled {c : RoundCommand} (hstep : RoundStep r c r')
    (hc : c.settlement? r = none) :
    hasRoundCompletedEntry r' = hasRoundCompletedEntry r ∧
      (r'.round.status = .completed → r.round.status = .completed) := by
  obtain ⟨es, hledger, -⟩ := hstep.appended
  have hnone : (es.any fun e => decide (e.entryType = .roundCompleted)) = false := by
    rw [List.any_eq_false]
    simpa using hstep.unsettled_entries hc hledger
  refine ⟨by rw [hasRoundCompletedEntry_of_append hledger, hnone, Bool.or_false], fun hover => ?_⟩
  cases hstep with
  | settled hc' hset =>
    rw [hc] at hc'
    cases hc'
  | retried | adjusted | corrected => exact hover
  | bet happ =>
    rw [happ.after] at hover
    exact hover
  | street hadv =>
    cases hadv.outcome with
    | settleHand | showdown | nextStreet => exact hover
  | reversed hrev =>
    obtain ⟨pot, hround⟩ := hrev.round_eq.1
    rw [hround] at hover
    exact hover
  | reopened hstatus hcons => exact hstatus

/-- A settlement records the completion of its round. -/
lemma Settled.recorded {data : ResolveHandRequest} {ids : Uuids} (hset : Settled r data ids r') :
    hasRoundCompletedEntry r' = true := by
  rw [hset.after]
  simp [hasRoundCompletedEntry, ResolveHandRequest.write, roundCompletedEntry]

/-- A new round is active and its ledger records no completion. -/
lemma createRound_uncompleted {s : RoundSetup} {ids : Uuids} (h : createRound s ids = .ok r) :
    r.round.status = .active ∧ hasRoundCompletedEntry r = false := by
  obtain ⟨-, -, rfl⟩ := createRound_eq_ok_iff.mp h
  refine ⟨rfl, ?_⟩
  rw [hasRoundCompletedEntry, List.any_eq_false]
  intro e he
  rcases entryType_of_mem_tables he with hk | hk <;> simp [hk]

/-! ## The counter -/

/-- A hand that is not counted leaves the counters as they are. -/
lemma applyHandCompletion_false (game : Game) (roomConfig : RoomConfig) (clock : Clock) :
    (applyHandCompletion game roomConfig false clock).write game = game := by
  simp [applyHandCompletion, HandCompletionResult.write]

/-- The counters after a settlement: the hand is counted unless it was completed before. -/
lemma settled_counters (g : GameTables) (r r' : RoundTables) (clock : Clock) :
    (g.settled r r' clock).game.handsPlayed =
        g.game.handsPlayed + (if hasRoundCompletedEntry r then 0 else 1) ∧
      (hasRoundCompletedEntry r = true →
        (g.settled r r' clock).game.handsAtCurrentLevel = g.game.handsAtCurrentLevel) := by
  cases hentry : hasRoundCompletedEntry r with
  | true => simp [GameTables.settled, hentry]
  | false => simp [GameTables.settled, hentry, HandCompletionResult.write, applyHandCompletion]

/-- Replacing the rows of a round changes the number of recorded rounds by that round. -/
lemma countedRounds_putRound (h : Stored g) (hr : r ∈ g.rounds)
    (hid : r'.round.roundId = r.round.roundId) :
    (countedRounds (g.putRound r') : ℤ) = countedRounds g +
      ((if hasRoundCompletedEntry r' then 1 else 0) - if hasRoundCompletedEntry r then 1
        else 0) := by
  have hcount := length_filter_updateFirst (f := fun _ => r')
    (p := fun r => hasRoundCompletedEntry r = true) h.1.roundIds hr hid.symm
  simpa [countedRounds, GameTables.putRound] using hcount

/-- Completed rounds of a game are among those that are counted. -/
lemma CountInvariant.completed_le (h : CountInvariant g) :
    ((g.rounds.filter fun r => r.round.status = .completed).length : ℤ) ≤ g.game.handsPlayed := by
  have hle := List.countP_mono_left (l := g.rounds)
    (p := fun r => decide (r.round.status = .completed)) (q := hasRoundCompletedEntry)
    fun r hr hover => h.completed r hr (by simpa using hover)
  rw [List.countP_eq_length_filter, List.countP_eq_length_filter] at hle
  rw [h.handsPlayed, countedRounds]
  exact_mod_cast hle

/-- In such a game there is nothing left for `record_hand_completed` to count. -/
lemma CountInvariant.recorded (h : CountInvariant g) (clock : Clock) :
    (applyHandCompletion g.game g.snapshot
      (decide (g.game.handsPlayed < (g.rounds.filter fun r => r.round.status = .completed).length))
      clock).write g.game = g.game := by
  rw [decide_eq_false (not_lt.mpr h.completed_le), applyHandCompletion_false]

/-- A command on the table leaves the counter of such a game alone. -/
lemma CountInvariant.handsPlayed_table (h : CountInvariant g) {c : GameCommand} {game : Game}
    (hstep : TableStep g c game) : game.handsPlayed = g.game.handsPlayed := by
  cases hstep with
  | blindsAdvanced | paused | resumed | ended => rfl
  | handRecorded => rw [h.recorded]

/-- An accepted command keeps the counter right. -/
lemma CountInvariant.of_ok {c : GameCommand} (h : CountInvariant g)
    (hok : gameMachine.step g c = .ok g') : CountInvariant g' := by
  have hstored := h.stored.of_ok hok
  obtain ⟨hstep, -⟩ := game_step_cases hok
  cases hstep with
  | started hstatus hnone hlevel hdeal =>
    obtain ⟨hactive, hnew⟩ := createRound_uncompleted hdeal
    refine ⟨hstored, by simp [countedRounds, hnew, h.handsPlayed], ?_⟩
    rw [List.forall_mem_append, List.forall_mem_singleton]
    refine ⟨h.completed, fun hover => ?_⟩
    rw [hactive] at hover
    cases hover
  | @acted roundId c clock r r' hfind hc hstep =>
    obtain ⟨hr, -⟩ := find?_roundId hfind
    have hround := round_step_cases (h.stored.2 r hr).playerIds hstep
    obtain ⟨hentry, hover⟩ := hround.unsettled hc
    have hput := countedRounds_putRound h.stored hr hround.roundId_eq
    rw [hentry, sub_self, add_zero] at hput
    exact ⟨hstored, h.handsPlayed.trans hput.symm,
      forall_putRound h.completed fun hstatus => hentry.trans (h.completed r hr (hover hstatus))⟩
  | @settled roundId c clock r r' data ids hc hset =>
    refine ⟨hstored, ?_, forall_putRound h.completed fun _ => hset.recorded⟩
    have hput := countedRounds_putRound h.stored (settlement?_mem hc) hset.round_eq.1
    have hcount : countedRounds (g.settled r r' clock) = countedRounds (g.putRound r') := rfl
    rw [(settled_counters g r r' clock).1, hcount, hput, h.handsPlayed, if_pos hset.recorded]
    split <;> omega
  | administered hc hstatus =>
    exact ⟨hstored, (h.handsPlayed_table (tableStep_of_ok hc hok)).trans h.handsPlayed, h.completed⟩

/-- A new game has counted no hand. -/
lemma countInvariant_of_startGame {existing : Option Game} {roomConfig : RoomConfig}
    {activated : Except Rejection Unit} {gameId : String} {now : Int}
    (hstart : startGame existing roomConfig activated gameId now = .ok g) : CountInvariant g := by
  have hnew := gameStarted_of_startGame hstart
  refine ⟨(stored_of_startGame hstart).1, ?_, ?_⟩
  · rw [hnew.handsPlayed, countedRounds, hnew.rounds]
    rfl
  · simp [hnew.rounds]

/-- **Hands are counted exactly once.** After every run of commands on a game started from a room,
corrections included, the counter is the number of its rounds whose ledger records a completion;
`record_hand_completed` has nothing to count, and settling a reopened hand does not count it
again. -/
theorem hands_counted {existing : Option Game} {roomConfig : RoomConfig}
    {activated : Except Rejection Unit} {gameId : String} {now : Int} {g₀ : GameTables}
    (hstart : startGame existing roomConfig activated gameId now = .ok g₀) (cs : List GameCommand) :
    HandsCounted (gameMachine.run g₀ cs) := by
  have hinv : CountInvariant (gameMachine.run g₀ cs) :=
    Machine.run_invariant (fun _ _ _ h hok => h.of_ok hok) (countInvariant_of_startGame hstart) cs
  refine ⟨hinv.handsPlayed, fun clock g' hok => ?_, fun c r data ids g' hc hentry hok => ?_⟩
  · obtain ⟨-, rfl⟩ := GameTables.flush_eq_ok_iff.mp hok
    rw [hinv.recorded clock]
  · obtain ⟨r', clock, hset, rfl⟩ := (game_step_cases hok).1.exists_settled hc
    obtain ⟨hplayed, hlevel⟩ := settled_counters (gameMachine.run g₀ cs) r r' clock
    rw [if_pos hentry, add_zero] at hplayed
    exact ⟨hplayed, hlevel hentry⟩

/-- A game whose first hand is folded, settled, reopened and settled again. -/
def resettledGame : List GameCommand :=
  foldedGame foldedHandPayout ++
    [.round "round" (.reopenHand {} (named ["reopened"])) fun _ => 0,
      .round "round" (.resolveHand foldedHandPayout (named ["p3", "p4", "done2"])) fun _ => 0]

/-- A folded hand that is settled, reopened and settled again is counted once. -/
theorem hands_counted_headsUp :
    HandsCounted (gameMachine.run headsUpGame resettledGame) :=
  hands_counted
    (show startGame none headsUpRoom.toRoomConfig (.ok ()) "game" 0 = .ok headsUpGame by decide)
    resettledGame

end PokerRoom
