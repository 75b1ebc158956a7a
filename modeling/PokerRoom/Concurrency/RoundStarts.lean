import PokerRoom.Concurrency.OnceOnly
import PokerRoom.Game.ActiveRound

/-!
# Rounds started at the same time

`start_round` reads the game, looks for an active round, counts the rounds, reads the snapshot, and
inserts a round whose number is one more than what it has counted.  Nothing is locked; the rounds of
a game are only kept apart by the uniqueness of their numbers.

However requests overlap, the rounds stay numbered from one without a gap (`numbered_run`).
`round_starts_iff` says that this lets at most one of the requests succeed, except when one of them
looks for an active round before the first commit and counts the rounds after it.
-/

namespace PokerRoom

open Foundation

/-! ## The handler -/

/-- A request to start a round, with the identifiers drawn for it. -/
structure StartCall where
  /-- The request. -/
  data : StartRoundRequest
  /-- Identifier of the round. -/
  roundId : String
  /-- Identifiers of the ledger entries. -/
  ids : Uuids

/-- What a handler of such a request still has to do. -/
abbrev StartHandler := Transaction GameTables RoundTables Rejection

namespace StartCall

variable (call : StartCall)

/-- The values the round is created from, as they were read. -/
def setup (game : Game) (roundCount : ℕ) (roomConfig : RoomConfig) (level : BlindLevelConfig) :
    RoundSetup :=
  game.roundSetup roundCount roomConfig level call.roundId

/-- Insert the round. -/
def commit (s : RoundSetup) : GameTables →
    Except Rejection (RoundTables × GameTables) := fun g => do
  let r ← createRound s call.ids
  let g' ← GameTables.flush { g with rounds := g.rounds ++ [r] }
  return (r, g')

/-- Read the snapshot of the room, choose the level and check who asks. -/
def readSnapshot (game : Game) (roundCount : ℕ) : StartHandler :=
  .read fun g =>
    match (g.snapshot.blindLevel game.currentBlindLevel).or g.snapshot.blindLevels.head? with
    | none => .failed (notFound .noBlindLevels)
    | some level =>
      .check (requireRoundStartAuthorized game g.snapshot call.data) fun _ =>
        .compute (.commit (call.commit (call.setup game roundCount g.snapshot level)))

/-- Count the rounds of the game. -/
def countRounds (game : Game) : StartHandler :=
  .read fun g => call.readSnapshot game g.rounds.length

/-- Look for an active round. -/
def lookUpActive (game : Game) : StartHandler :=
  .read fun g => .check
    (do
      let existing ← g.activeRound
      require (existing = none) (gameNotActive .roundAlreadyActive))
    fun _ => call.countRounds game

/-- The handler of a start of a round. -/
def handler : StartHandler :=
  .read fun g => .check (require (g.game.status = .active) (gameNotActive .gameNotActive))
    fun _ => call.lookUpActive g.game

end StartCall

/-- A round that is started alone is started as `startRound` does. -/
theorem StartCall.handler_exec (call : StartCall) (g : GameTables) :
    (call.handler.exec g).map (·.2) = g.startRound call.data call.roundId call.ids := by
  simp only [StartCall.handler, StartCall.lookUpActive, StartCall.countRounds,
    StartCall.readSnapshot,
    Transaction.exec, Transaction.exec_check, GameTables.startRound, GameTables.roundLevel]
  cases require (g.game.status = .active) (gameNotActive .gameNotActive) with
  | error e => rfl
  | ok _ =>
    cases g.activeRound with
    | error e => rfl
    | ok existing =>
      simp only [bind, Except.bind]
      cases require (existing = none) (gameNotActive .roundAlreadyActive) with
      | error e => rfl
      | ok _ =>
        simp only
        cases (g.snapshot.blindLevel g.game.currentBlindLevel).or g.snapshot.blindLevels.head? with
        | none => rfl
        | some level =>
          simp only [Transaction.exec_check, map_bind_except]
          refine congrArg _ (funext fun _ => ?_)
          change Except.map _ (call.commit (g.roundSetup level call.roundId) g) = _
          unfold StartCall.commit
          cases createRound (g.roundSetup level call.roundId) call.ids with
          | error e => rfl
          | ok r =>
            change Except.map _ (Except.bind (GameTables.flush _) _) = GameTables.flush _
            cases GameTables.flush { g with rounds := g.rounds ++ [r] } <;> rfl

/-! ## Definitions -/

/-- The rounds are numbered from one, in the order in which they were started. -/
def Numbered (g : GameTables) : Prop :=
  g.rounds.map (·.round.roundNumber) = (List.range g.rounds.length).map fun n : ℕ => (n : Int) + 1

/-- The identifiers drawn for several requests are new: no two of them agree, and the game has none
of them. -/
structure FreshStarts {ι : Type} (calls : ι → StartCall) (g : GameTables) : Prop where
  /-- The rounds are told apart. -/
  rounds : ∀ i j, (calls i).roundId = (calls j).roundId → i = j
  /-- No round of the game has one of the identifiers. -/
  newRounds : ∀ i, (calls i).roundId ∉ g.rounds.map (·.round.roundId)
  /-- The entries are told apart. -/
  entries : ∀ i j n m, (calls i).ids n = (calls j).ids m → i = j ∧ n = m
  /-- No ledger of the game has one of the identifiers. -/
  newEntries : ∀ i n, (calls i).ids n ∉ g.rounds.flatMap fun r => r.ledger.map (·.entryId)

/-- The clients who ask for a round of a game, before their first steps. -/
abbrev startClients {ι : Type} (calls : ι → StartCall) (g₀ : GameTables) :
    System ι GameTables RoundTables Rejection :=
  System.start (fun i => (calls i).handler) g₀

/-- The request is accepted when it is the only one. -/
def StartCall.Passes (call : StartCall) (g : GameTables) : Prop :=
  ∃ g', g.startRound call.data call.roundId call.ids = .ok g'

/-- The stages of a start of a round that has counted at most `m` rounds. -/
inductive CountedStage (call : StartCall) (m : ℕ) (p : StartHandler) : Prop
  /-- The rounds are counted. -/
  | counted (game : Game) {n : ℕ} (hn : n ≤ m) (stage : p = call.readSnapshot game n)
  /-- The round is set up. -/
  | setUp (game : Game) {n : ℕ} (hn : n ≤ m) (roomConfig : RoomConfig) (level : BlindLevelConfig)
    (stage : p = .compute (.commit (call.commit (call.setup game n roomConfig level))))
  /-- The round is to be inserted. -/
  | ready (game : Game) {n : ℕ} (hn : n ≤ m) (roomConfig : RoomConfig) (level : BlindLevelConfig)
    (stage : p = .commit (call.commit (call.setup game n roomConfig level)))
  /-- Nothing is left to do. -/
  | ended (h : p.Ended)

/-- The stages of a start of a round in a game that has `m` rounds. -/
inductive StartStage (call : StartCall) (m : ℕ) (p : StartHandler) : Prop
  /-- Nothing is read. -/
  | unread (stage : p = call.handler)
  /-- The game is read. -/
  | fetched (game : Game) (stage : p = call.lookUpActive game)
  /-- No round was active. -/
  | lookedUp (game : Game) (stage : p = call.countRounds game)
  /-- The rounds are counted. -/
  | counted (h : CountedStage call m p)

/-- A started round is an active one behind the others. -/
def RoundStarted (g g' : GameTables) : Prop :=
  ∃ r, g' = { g with rounds := g.rounds ++ [r] } ∧ r.round.status = .active

variable {call : StartCall} {g g' g₀ g₁ : GameTables} {game : Game} {r : RoundTables}
  {s : RoundSetup} {n m : ℕ}

/-! ## The numbers of the rounds -/

/-- An accepted command keeps the number of a round. -/
lemma RoundStep.roundNumber_eq {r' : RoundTables} {c : RoundCommand} (hstep : RoundStep r c r') :
    r'.round.roundNumber = r.round.roundNumber := by
  cases hstep with
  | retried | adjusted | reopened | corrected => rfl
  | bet happ => rw [happ.after]; rfl
  | street hadv => cases hadv.outcome with
    | settleHand | showdown | nextStreet => rfl
  | settled hc hset => rw [hset.after]; rfl
  | reversed hrev =>
    obtain ⟨pot, h⟩ := hrev.round_eq.1
    rw [h]

/-- A round that is put in the place of one with the same name and number leaves the rounds
numbered. -/
lemma Numbered.putRound (h : Numbered g) (hids : (g.rounds.map (·.round.roundId)).Nodup)
    {r' : RoundTables} (hr : r ∈ g.rounds) (hid : r'.round.roundId = r.round.roundId)
    (hnumber : r'.round.roundNumber = r.round.roundNumber) : Numbered (g.putRound r') := by
  have hrows : (g.putRound r').rounds.map (·.round.roundNumber) =
      g.rounds.map (·.round.roundNumber) := by
    rw [GameTables.putRound, updateFirst_eq_map hids, List.map_map]
    apply List.map_congr_left
    intro q hq
    by_cases hq' : q.round.roundId = r'.round.roundId
    · obtain rfl := eq_of_key_eq hids hq hr (hq'.trans hid)
      rw [Function.comp_apply, if_pos hq', hnumber]
    · rw [Function.comp_apply, if_neg hq']
  have hlength : (g.putRound r').rounds.length = g.rounds.length := by
    simpa using congrArg List.length hrows
  rw [Numbered, hrows, hlength, h]

/-- The next round is numbered on. -/
lemma Numbered.append (h : Numbered g) (hnumber : r.round.roundNumber = g.rounds.length + 1) :
    Numbered { g with rounds := g.rounds ++ [r] } := by
  rw [Numbered, List.map_append, h, List.length_append, List.length_singleton, List.range_succ,
    List.map_append, List.map_singleton, List.map_singleton, hnumber]

/-- A number is taken exactly when it is at most the number of rounds. -/
lemma Numbered.mem_iff (h : Numbered g) {k : ℤ} :
    k ∈ g.rounds.map (·.round.roundNumber) ↔ 1 ≤ k ∧ k ≤ g.rounds.length := by
  rw [h, List.mem_map]
  constructor
  · rintro ⟨a, ha, rfl⟩
    have := List.mem_range.mp ha
    omega
  · rintro ⟨hpos, hle⟩
    exact ⟨(k - 1).toNat, List.mem_range.mpr (by omega), by omega⟩

/-- A round is created with the number it is set up with. -/
lemma roundNumber_of_createRound {ids : Uuids} (h : createRound s ids = .ok r) :
    r.round.roundNumber = s.roundNumber ∧ r.round.roundId = s.roundId ∧ r.round.status = .active ∧
      r.bets = [] := by
  obtain ⟨-, -, rfl⟩ := createRound_eq_ok_iff.mp h
  exact ⟨rfl, rfl, rfl, rfl⟩

/-- An accepted command keeps the rounds of a game numbered. -/
lemma Numbered.of_ok (h : Numbered g) (hstored : Stored g) {c : GameCommand}
    (hok : gameMachine.step g c = .ok g') : Numbered g' := by
  obtain ⟨hstep, -⟩ := game_step_cases hok
  cases hstep with
  | started hstatus hnone hlevel hdeal =>
    exact h.append (roundNumber_of_createRound hdeal).1
  | acted hfind hc hstep =>
    obtain ⟨hr, -⟩ := find?_roundId hfind
    have hround := round_step_cases (hstored.2 _ hr).playerIds hstep
    exact h.putRound hstored.1.roundIds hr hround.roundId_eq hround.roundNumber_eq
  | @settled roundId c clock r r' data ids hc hset =>
    refine h.putRound hstored.1.roundIds (settlement?_mem hc) hset.round_eq.1 ?_
    rw [hset.after]
    rfl
  | administered => exact h

/-- In every run of a game started from a room, the rounds are numbered. -/
lemma numbered_run {existing : Option Game} {roomConfig : RoomConfig}
    {activated : Except Rejection Unit} {gameId : String} {now : Int}
    (hstart : startGame existing roomConfig activated gameId now = .ok g₀) (cs : List GameCommand) :
    Stored (gameMachine.run g₀ cs) ∧ Numbered (gameMachine.run g₀ cs) := by
  obtain ⟨hstored, hrounds⟩ := stored_of_startGame hstart
  have hnumbered : Numbered g₀ := by
    rw [Numbered, hrounds]
    rfl
  exact Machine.run_invariant (I := fun g => Stored g ∧ Numbered g)
    (fun g c g' h hok => ⟨h.1.of_ok hok, h.2.of_ok h.1 hok⟩) ⟨hstored, hnumbered⟩ cs

/-! ## The insertion -/

/-- What an insertion writes. -/
lemma StartCall.commit_eq_ok_iff : call.commit s g = .ok (r, g') ↔
    createRound s call.ids = .ok r ∧
      ({ g with rounds := g.rounds ++ [r] } : GameTables).Constraints ∧
      g' = { g with rounds := g.rounds ++ [r] } := by
  unfold StartCall.commit
  simp only [bind_eq_ok_iff]
  constructor
  · rintro ⟨r', hr', g'', hflush, hpair⟩
    obtain ⟨hcons, rfl⟩ := GameTables.flush_eq_ok_iff.mp hflush
    obtain ⟨rfl, rfl⟩ := Prod.mk.inj (Except.ok.inj hpair)
    exact ⟨hr', hcons, rfl⟩
  · rintro ⟨hr, hcons, rfl⟩
    exact ⟨r, hr, _, GameTables.flush_eq_ok_iff.mpr ⟨hcons, rfl⟩, rfl⟩

/-- A round that is inserted in a numbered game is the next one, and it is active. -/
lemma StartCall.commit_spec (hstored : Stored g) (hnumbered : Numbered g) (hn : n ≤ g.rounds.length)
    {roomConfig : RoomConfig} {level : BlindLevelConfig}
    (hok : call.commit (call.setup game n roomConfig level) g = .ok (r, g')) :
    n = g.rounds.length ∧ Stored g' ∧ Numbered g' ∧ RoundStarted g g' := by
  obtain ⟨hr, hcons, rfl⟩ := StartCall.commit_eq_ok_iff.mp hok
  obtain ⟨hnumber, -, hactive, -⟩ := roundNumber_of_createRound hr
  have hlast : n = g.rounds.length := by
    by_contra hne
    -- the number is taken
    have htaken : r.round.roundNumber ∈ g.rounds.map (·.round.roundNumber) := by
      rw [hnumbered.mem_iff, hnumber]
      simp only [StartCall.setup, Game.roundSetup]
      omega
    have hnd := hcons.roundNumbers
    rw [List.map_append] at hnd
    exact List.disjoint_of_nodup_append hnd htaken List.mem_cons_self
  subst hlast
  refine ⟨rfl, ⟨hcons, fun q hq => ?_⟩, hnumbered.append hnumber, r, rfl, hactive⟩
  rcases List.mem_append.mp hq with hq | hq
  · exact hstored.2 q hq
  · rw [List.mem_singleton.mp hq]
    exact (createRound_eq_ok_iff.mp hr).2.1

/-! ## The stages -/

/-- A step of a start that has counted the rounds. -/
lemma CountedStage.progress {p : StartHandler} (h : CountedStage call m p) :
    CountedStage call m (p.progress g) := by
  cases h with
  | counted game hn stage =>
    subst stage
    simp only [StartCall.readSnapshot, Transaction.progress]
    split
    · exact .ended trivial
    · next level _ =>
      cases requireRoundStartAuthorized game g.snapshot call.data with
      | error e => exact .ended trivial
      | ok _ => exact .setUp game hn g.snapshot level rfl
  | setUp game hn roomConfig level stage => exact stage ▸ .ready game hn roomConfig level rfl
  | ready game hn roomConfig level stage =>
    subst stage
    simp only [Transaction.progress]
    split
    · exact .ready game hn roomConfig level rfl
    · exact .ended trivial
  | ended h =>
    cases p with
    | answered | failed => exact .ended trivial
    | read | compute | commit => exact h.elim

/-- A start that has counted the rounds stays one when others start rounds. -/
lemma CountedStage.mono {p : StartHandler} (h : CountedStage call m p) (hle : m ≤ n) :
    CountedStage call n p := by
  cases h with
  | counted game hn stage => exact .counted game (hn.trans hle) stage
  | setUp game hn roomConfig level stage => exact .setUp game (hn.trans hle) roomConfig level stage
  | ready game hn roomConfig level stage => exact .ready game (hn.trans hle) roomConfig level stage
  | ended h => exact .ended h

/-- Who is to insert a round has counted the rounds. -/
lemma StartStage.ready {write : GameTables → Except Rejection (RoundTables × GameTables)}
    (h : StartStage call m (.commit write)) : ∃ game n roomConfig level, n ≤ m ∧
      write = call.commit (call.setup game n roomConfig level) := by
  cases h with
  | unread stage | fetched game stage | lookedUp game stage => cases stage
  | counted h => cases h with
    | counted game hn stage | setUp game hn roomConfig level stage => cases stage
    | ready game hn roomConfig level stage =>
      exact ⟨game, _, roomConfig, level, hn, Transaction.commit.inj stage⟩
    | ended h => exact h.elim

variable {ι : Type} {calls : ι → StartCall}

/-- However starts of rounds overlap, each inserts the next round. -/
lemma startDiscipline (calls : ι → StartCall) :
    Discipline (fun g => Stored g ∧ Numbered g) RoundStarted
      fun i g => StartStage (calls i) g.rounds.length where
  read i g next hg h := by
    cases h with
    | unread stage =>
      obtain rfl := Transaction.read.inj stage
      simp only
      cases require (g.game.status = .active) (gameNotActive .gameNotActive) with
      | error e => exact .counted (.ended trivial)
      | ok _ => exact .fetched g.game rfl
    | fetched game stage =>
      obtain rfl := Transaction.read.inj stage
      simp only
      generalize (do
        let existing ← g.activeRound
        require (existing = none) (gameNotActive .roundAlreadyActive)) = checked
      cases checked with
      | error e => exact .counted (.ended trivial)
      | ok _ => exact .lookedUp game rfl
    | lookedUp game stage =>
      obtain rfl := Transaction.read.inj stage
      exact .counted (.counted game le_rfl rfl)
    | counted h => exact .counted (h.progress (g := g))
  compute i g next hg h := by
    cases h with
    | unread stage | fetched game stage | lookedUp game stage => cases stage
    | counted h => exact .counted (h.progress (g := g))
  commit i g write r g' hg h hwrite := by
    obtain ⟨game, n, roomConfig, level, hn, rfl⟩ := h.ready
    obtain ⟨-, hstored, hnumbered, hstarted⟩ := StartCall.commit_spec hg.1 hg.2 hn hwrite
    exact ⟨⟨hstored, hnumbered⟩, hstarted, .counted (.ended trivial)⟩
  refuse i g write e hg h hwrite := .counted (.ended trivial)
  rely i g g' p hg hstarted h := by
    obtain ⟨r, rfl, -⟩ := hstarted
    cases h with
    | unread stage => exact .unread stage
    | fetched game stage => exact .fetched game stage
    | lookedUp game stage => exact .lookedUp game stage
    | counted h =>
      refine .counted (h.mono ?_)
      rw [List.length_append]
      omega

/-! ## The second start -/

/-- Looking for an active round finds none exactly when there is none. -/
lemma activeRound_eq_none_iff : g.activeRound = .ok none ↔ liveCount g = 0 := by
  rw [activeRound_eq_scalarOneOrNone, scalarOneOrNone_eq_none_iff, liveCount,
    List.length_eq_zero_iff]

/-- A start goes on after the lookup exactly when no round is active. -/
lemma StartCall.commits_lookUpActive_iff :
    (call.lookUpActive game).Commits g r g' ↔
      liveCount g = 0 ∧ (call.countRounds game).Commits g r g' := by
  rw [StartCall.lookUpActive, Transaction.commits_read_iff, Transaction.commits_check_iff,
    ← activeRound_eq_none_iff]
  cases g.activeRound with
  | error e => exact iff_of_false (fun ⟨_, h, _⟩ => by cases h) fun h => by cases h.1
  | ok existing =>
    simp only [bind, Except.bind, require_eq_ok_iff, exists_const, Except.ok.injEq]

/-- A start commits alone when the game is active, no round is, and it goes on. -/
lemma StartCall.commits_handler_iff :
    call.handler.Commits g r g' ↔
      g.game.status = .active ∧ liveCount g = 0 ∧ (call.countRounds g.game).Commits g r g' := by
  rw [StartCall.handler, Transaction.commits_read_iff, Transaction.commits_check_iff]
  simp only [require_eq_ok_iff, exists_const, StartCall.commits_lookUpActive_iff]

/-- What a start inserts after the rounds are counted. -/
lemma StartCall.commits_countRounds_iff :
    (call.countRounds game).Commits g r g' ↔
      ∃ level, (g.snapshot.blindLevel game.currentBlindLevel).or g.snapshot.blindLevels.head? =
          some level ∧ requireRoundStartAuthorized game g.snapshot call.data = .ok () ∧
        call.commit (call.setup game g.rounds.length g.snapshot level) g = .ok (r, g') := by
  rw [StartCall.countRounds, Transaction.commits_read_iff, StartCall.readSnapshot,
    Transaction.commits_read_iff]
  cases (g.snapshot.blindLevel game.currentBlindLevel).or g.snapshot.blindLevels.head? with
  | none => exact iff_of_false (fun h => by cases h) fun ⟨_, h, _⟩ => by cases h
  | some level =>
    simp only [Transaction.commits_check_iff, Option.some.injEq, exists_eq_left']
    constructor
    · rintro ⟨_, hcheck, hcommit⟩
      cases hcommit with
      | compute h => exact ⟨hcheck, Transaction.commits_commit_iff.mp h⟩
    · rintro ⟨hcheck, hwrite⟩
      exact ⟨(), hcheck, .compute (.commit hwrite)⟩

/-- The entries of a new round have the identifiers that were drawn for it. -/
lemma entryId_of_mem_tables {ids : Uuids} {id : String}
    (hid : id ∈ (s.tables ids).ledger.map (·.entryId)) : ∃ n, id = ids n := by
  obtain ⟨e, he, rfl⟩ := List.mem_map.mp hid
  obtain ⟨n, hn, rfl⟩ := List.mem_mapIdx.mp he
  refine ⟨n, ?_⟩
  unfold RoundSetup.postingEntry
  split_ifs <;> rfl

/-- Where the identifiers are new, a round is inserted in a numbered game exactly when it can be
created. -/
lemma StartCall.exists_commit_iff (hstored : Stored g) (hnumbered : Numbered g)
    (hround : call.roundId ∉ g.rounds.map (·.round.roundId))
    (hentry : ∀ n, call.ids n ∉ g.rounds.flatMap fun r => r.ledger.map (·.entryId))
    {roomConfig : RoomConfig} {level : BlindLevelConfig} :
    (∃ r g', call.commit (call.setup game g.rounds.length roomConfig level) g = .ok (r, g')) ↔
      ∃ r, createRound (call.setup game g.rounds.length roomConfig level) call.ids = .ok r := by
  constructor
  · rintro ⟨r, g', hok⟩
    exact ⟨r, (StartCall.commit_eq_ok_iff.mp hok).1⟩
  · rintro ⟨r, hr⟩
    obtain ⟨hnumber, hid, -, hbets⟩ := roundNumber_of_createRound hr
    obtain ⟨-, hcons, hrows⟩ := createRound_eq_ok_iff.mp hr
    refine ⟨r, _, StartCall.commit_eq_ok_iff.mpr ⟨hr, ?_, rfl⟩⟩
    exact {
      game := hstored.1.game
      snapshot := hstored.1.snapshot
      roundIds := by
        rw [List.map_append, List.map_singleton, ← List.concat_eq_append, hid]
        exact hstored.1.roundIds.concat hround
      roundNumbers := by
        rw [List.map_append, List.map_singleton, ← List.concat_eq_append]
        refine hstored.1.roundNumbers.concat ?_
        rw [hnumbered.mem_iff, hnumber]
        simp only [StartCall.setup, Game.roundSetup]
        omega
      betIds := by simpa [hbets] using hstored.1.betIds
      entryIds := by
        rw [List.flatMap_append, List.flatMap_singleton]
        refine List.nodup_append'.mpr ⟨hstored.1.entryIds, hcons.entryIds, fun id hold hnew => ?_⟩
        obtain ⟨n, hn⟩ := entryId_of_mem_tables (hrows ▸ hnew)
        exact hentry n (hn ▸ hold) }

/-- A round is created whatever its number is. -/
lemma exists_createRound_setup_iff {roomConfig : RoomConfig} {level : BlindLevelConfig} :
    (∃ r, createRound (call.setup game n roomConfig level) call.ids = .ok r) ↔
      ∃ r, createRound (call.setup game m roomConfig level) call.ids = .ok r := by
  have hnumber : ∀ k l : ℕ,
    (∃ r, createRound (call.setup game k roomConfig level) call.ids = .ok r) →
      ∃ r, createRound (call.setup game l roomConfig level) call.ids = .ok r := by
    rintro k l ⟨r, hr⟩
    obtain ⟨hseat, hcons, rfl⟩ := createRound_eq_ok_iff.mp hr
    refine ⟨_, createRound_eq_ok_iff.mpr ⟨hseat, ?_, rfl⟩⟩
    exact ⟨hcons.round, hcons.players, hcons.playerIds, hcons.seatNumbers, hcons.bets, hcons.betIds,
      hcons.idempotencyKeys, hcons.payouts, hcons.entryIds⟩
  exact ⟨hnumber n m, hnumber m n⟩

/-- A start that has counted the rounds does not insert one when another one was started since. -/
lemma CountedStage.not_commits {p : StartHandler} (h : CountedStage call m p) (hstored : Stored g)
    (hnumbered : Numbered g) (hm : m < g.rounds.length) : ¬ p.Commits g r g' := by
  have hwrite : ∀ {k : ℕ} {roomConfig : RoomConfig} {level : BlindLevelConfig} {game : Game},
    k ≤ m →
      call.commit (call.setup game k roomConfig level) g ≠ .ok (r, g') := by
    intro k roomConfig level game hk hok
    have := (StartCall.commit_spec hstored hnumbered (hk.trans hm.le) hok).1
    omega
  cases h with
  | counted game hn stage =>
    subst stage
    rw [StartCall.readSnapshot, Transaction.commits_read_iff]
    split
    · exact fun hfailed => by cases hfailed
    · rw [Transaction.commits_check_iff]
      rintro ⟨_, -, hcommit⟩
      cases hcommit with
      | compute hcommit => exact hwrite hn (Transaction.commits_commit_iff.mp hcommit)
  | setUp game hn roomConfig level stage =>
    subst stage
    rintro (_ | hcommit | _)
    exact hwrite hn (Transaction.commits_commit_iff.mp hcommit)
  | ready game hn roomConfig level stage =>
    subst stage
    exact fun hcommit => hwrite hn (Transaction.commits_commit_iff.mp hcommit)
  | ended h => exact fun hcommit => hcommit.not_ended h

/-- A start of a round is only answered when it inserts the round. -/
lemma StartCall.answersOnly_handler (call : StartCall) :
    call.handler.AnswersOnly fun _ => False := by
  refine fun g => .check fun _ g₁ => .check fun _ g₂ g₃ => ?_
  simp only
  split
  · trivial
  · exact .check fun _ => trivial

/-- The request is accepted alone exactly when its handler commits. -/
lemma StartCall.passes_iff : call.Passes g ↔ ∃ r g', call.handler.Commits g r g' := by
  unfold StartCall.Passes
  simp only [← StartCall.handler_exec, map_eq_ok_iff]
  constructor
  · rintro ⟨_, ⟨r, g'⟩, hexec, rfl⟩
    exact ⟨r, g', (Transaction.commits_iff_exec call.answersOnly_handler).mpr hexec⟩
  · rintro ⟨r, g', hcommits⟩
    exact ⟨g', (r, g'), hcommits.exec, rfl⟩

/-- Two starts of rounds that commit one after the other: what the second one inserts does not
depend on the first one. -/
lemma exists_countRounds_iff (hstored₁ : Stored g₁) (hnumbered₁ : Numbered g₁) (hstored : Stored g₀)
    (hnumbered : Numbered g₀) (hsame : g₁.snapshot = g₀.snapshot)
    (hround₁ : call.roundId ∉ g₁.rounds.map (·.round.roundId))
    (hentry₁ : ∀ n, call.ids n ∉ g₁.rounds.flatMap fun r => r.ledger.map (·.entryId))
    (hround : call.roundId ∉ g₀.rounds.map (·.round.roundId))
    (hentry : ∀ n, call.ids n ∉ g₀.rounds.flatMap fun r => r.ledger.map (·.entryId)) :
    (∃ r g', (call.countRounds game).Commits g₁ r g') ↔
      ∃ r g', (call.countRounds game).Commits g₀ r g' := by
  have hiff : ∀ {g : GameTables}, Stored g → Numbered g → g.snapshot = g₀.snapshot →
      call.roundId ∉ g.rounds.map (·.round.roundId) →
      (∀ n, call.ids n ∉ g.rounds.flatMap fun r => r.ledger.map (·.entryId)) →
      ((∃ r g', (call.countRounds game).Commits g r g') ↔
        ∃ level, (g₀.snapshot.blindLevel game.currentBlindLevel).or g₀.snapshot.blindLevels.head? =
            some level ∧ requireRoundStartAuthorized game g₀.snapshot call.data = .ok () ∧
          ∃ r, createRound (call.setup game 0 g₀.snapshot level) call.ids = .ok r) := by
    intro g hg hn hsnapshot hnewRound hnewEntry
    have hcommit : ∀ level, (∃ r g', call.commit
        (call.setup game g.rounds.length g₀.snapshot level) g = .ok (r, g')) ↔
          ∃ r, createRound (call.setup game 0 g₀.snapshot level) call.ids = .ok r := fun level =>
      (StartCall.exists_commit_iff hg hn hnewRound hnewEntry).trans exists_createRound_setup_iff
    simp only [StartCall.commits_countRounds_iff, hsnapshot]
    constructor
    · rintro ⟨r, g', level, hlevel, hcheck, hok⟩
      exact ⟨level, hlevel, hcheck, (hcommit level).mp ⟨r, g', hok⟩⟩
    · rintro ⟨level, hlevel, hcheck, hcreate⟩
      obtain ⟨r, g', hok⟩ := (hcommit level).mpr hcreate
      exact ⟨r, g', level, hlevel, hcheck, hok⟩
  rw [hiff hstored₁ hnumbered₁ hsame hround₁ hentry₁, hiff hstored hnumbered rfl hround hentry]

/-- When another start was first to commit, a start commits exactly if it had looked for an active
round and had not counted the rounds, and it would have been accepted. -/
lemma second_start_iff (hstored : Stored g₀) (hnumbered : Numbered g₀)
    (hfresh : FreshStarts calls g₀)
    {i j : ι} (hji : j ≠ i) (hfirst : (calls i).handler.Commits g₀ r g₁) :
    (∃ r' g', ((Transaction.progress g₀)^[n] (calls j).handler).Commits g₁ r' g') ↔
      n = 2 ∧ (calls j).Passes g₀ := by
  have hdiscipline := startDiscipline calls
  obtain ⟨write, hstage, hwrite⟩ :=
    hdiscipline.commits (i := i) (s := g₀) ⟨hstored, hnumbered⟩ (.unread rfl) hfirst
  obtain ⟨game, m, roomConfig, level, hm, rfl⟩ := hstage.ready
  obtain ⟨-, hstored₁, hnumbered₁, hstarted⟩ := StartCall.commit_spec hstored hnumbered hm hwrite
  obtain ⟨hactive, hnone, -⟩ := StartCall.commits_handler_iff.mp hfirst
  obtain ⟨hr, -, rfl⟩ := StartCall.commit_eq_ok_iff.mp hwrite
  obtain ⟨-, hid, hlive, -⟩ := roundNumber_of_createRound hr
  -- there is an active round now
  have hlive₁ : liveCount { g₀ with rounds := g₀.rounds ++ [r] } ≠ 0 := by
    rw [Ne, liveCount_eq_zero_iff]
    exact fun h => h r (List.mem_append_right _ List.mem_cons_self) hlive
  have hlookUp : Transaction.progress g₀ (calls j).handler = (calls j).lookUpActive g₀.game := by
    simp [StartCall.handler, Transaction.progress, hactive, require]
  have hcount : Transaction.progress g₀ ((calls j).lookUpActive g₀.game) =
      (calls j).countRounds g₀.game := by
    simp [StartCall.lookUpActive, Transaction.progress, activeRound_eq_none_iff.mpr hnone, require,
      bind, Except.bind]
  rcases n with _ | _ | _ | n
  · refine iff_of_false ?_ (by simp)
    rintro ⟨r', g', hcommits⟩
    exact hlive₁ (StartCall.commits_handler_iff.mp hcommits).2.1
  · refine iff_of_false ?_ (by simp)
    rintro ⟨r', g', hcommits⟩
    rw [zero_add, Function.iterate_one, hlookUp] at hcommits
    exact hlive₁ (StartCall.commits_lookUpActive_iff.mp hcommits).1
  · simp only [zero_add, Function.iterate_succ_apply, Function.iterate_zero_apply, hlookUp, hcount,
      StartCall.passes_iff, StartCall.commits_handler_iff, hactive, hnone, true_and, Nat.reduceAdd]
    refine exists_countRounds_iff hstored₁ hnumbered₁ hstored hnumbered rfl ?_ ?_
      (hfresh.newRounds j) (hfresh.newEntries j)
    · rw [List.map_append, List.mem_append, List.map_singleton, List.mem_singleton, hid]
      exact not_or.mpr ⟨hfresh.newRounds j, fun heq => hji (hfresh.rounds j i heq)⟩
    · intro k hk
      rw [List.flatMap_append, List.flatMap_singleton, List.mem_append] at hk
      obtain ⟨-, -, hrows⟩ := createRound_eq_ok_iff.mp hr
      rcases hk with hk | hk
      · exact hfresh.newEntries j k hk
      · obtain ⟨l, hl⟩ := entryId_of_mem_tables (hrows ▸ hk)
        exact hji (hfresh.entries j i k l hl).1
  · refine iff_of_false ?_ (by simp)
    rintro ⟨r', g', hcommits⟩
    simp only [Function.iterate_succ_apply, hlookUp, hcount] at hcommits
    have hcounted : CountedStage (calls j) g₀.rounds.length
        ((Transaction.progress g₀)^[n] ((calls j).readSnapshot g₀.game g₀.rounds.length)) :=
      Function.Iterate.rec (CountedStage (calls j) g₀.rounds.length) (.counted g₀.game le_rfl rfl)
        (fun p hp => hp.progress) n
    exact hcounted.not_commits hstored₁ hnumbered₁ (by simp) hcommits

/-! ## Every schedule -/

variable [DecidableEq ι]

/-- The starts that commit are the rounds that become active. -/
lemma liveCount_startClients (hstored : Stored g₀) (hnumbered : Numbered g₀) (calls : ι → StartCall)
    (schedule : List ι) :
    liveCount ((startClients calls g₀).run schedule).store =
      liveCount g₀ + ((startClients calls g₀).run schedule).commits.length := by
  refine (startDiscipline calls).commits_induction
    (I := fun done g => liveCount g = liveCount g₀ + done.length) ?_ ⟨hstored, hnumbered⟩
    (fun i => .unread rfl) rfl schedule
  intro i done g write r g' hg hstage hwrite hI
  obtain ⟨q, rfl, hactive⟩ := ((startDiscipline calls).commit i g write r g' hg hstage hwrite).2.1
  rw [List.length_append, List.length_singleton, ← add_assoc, ← hI]
  simp [liveCount, List.filter_append, hactive]

/-- **When rounds that are started at the same time leave one live hand.** Take a game after any run
of commands, and let any number of requests to start a round interleave on it in any way until all
have ended.  The rounds stay numbered from one without a gap.  One hand is live at most exactly when
this was so before and the first commit does not find another request that would be accepted between
its lookup of an active round and its count of the rounds. -/
theorem round_starts_iff {existing : Option Game} {roomConfig : RoomConfig}
    {activated : Except Rejection Unit} {gameId : String} {now : Int}
    (hstart : startGame existing roomConfig activated gameId now = .ok g₀) (cs : List GameCommand)
    (calls : ι → StartCall) (hfresh : FreshStarts calls (gameMachine.run g₀ cs)) {schedule : List ι}
    (hended : ∀ i, (((startClients calls (gameMachine.run g₀ cs)).run schedule).pending i).Ended) :
    let after := (startClients calls (gameMachine.run g₀ cs)).run schedule
    Numbered after.store ∧
      (OneLive after.store ↔ OneLive (gameMachine.run g₀ cs) ∧
        ¬ System.CriticalAtCommit (startClients calls (gameMachine.run g₀ cs))
          (fun i turns => turns = 2 ∧ (calls i).Passes (gameMachine.run g₀ cs)) schedule) := by
  obtain ⟨hstored, hnumbered⟩ := numbered_run hstart cs
  generalize gameMachine.run g₀ cs = g at hfresh hended hstored hnumbered ⊢
  intro after
  have hrun := (startDiscipline calls).run (c := startClients calls g) ⟨hstored, hnumbered⟩
    (fun i => .unread rfl) schedule
  refine ⟨hrun.1.2, ?_⟩
  rw [← System.commits_length_le_one_iff_critical
    (fun i j n reply g₁ hji hfirst => second_start_iff hstored hnumbered hfresh hji hfirst) hended,
    oneLive_iff, oneLive_iff, liveCount_startClients hstored hnumbered]
  cases hcommits : ((startClients calls g).run schedule).commits with
  | nil => exact (and_iff_left (Nat.zero_le 1)).symm
  | cons i rest =>
    -- who commits first has found no active round
    obtain ⟨pre, post, -, hpre, hfirst⟩ := System.exists_first_commit hcommits
    obtain ⟨r, g₁, halone, -⟩ := System.first_commit hpre hfirst
    rw [(StartCall.commits_handler_iff.mp halone).2.1, zero_add]
    exact (and_iff_right (Nat.zero_le 1)).symm

/-- Two requests for the first hand of a game. -/
def twoStarts (i : Bool) : StartCall where
  data := controllerStart
  roundId := bif i then "second" else "first"
  ids := drawn i

/-- One of them looks for an active round, the other one starts the round, and then the first one
counts the rounds: both are started. -/
theorem round_starts_iff_headsUp : ¬ OneLive ((startClients twoStarts headsUpGame).run
    [false, false, true, true, true, true, true, true, false, false, false, false]).store := by
  have hdrawn : FreshIds drawn (headsUp.tables headsUpIds) := freshIds_drawn (by decide)
  intro hone
  refine ((round_starts_iff
    (show startGame none headsUpRoom.toRoomConfig (.ok ()) "game" 0 = .ok headsUpGame by decide) []
    twoStarts ⟨by decide, by decide, hdrawn.injective, ?_⟩ (by decide)).2.mp hone).2
    ⟨[false, false, true, true, true, true, true], _, true, false, rfl, by decide, by decide,
      by decide, by decide, _, rfl⟩
  rintro i n ⟨⟩

end PokerRoom
