import PokerRoom.Domain.Engine.ActionPipeline
import PokerRoom.Domain.Engine.BlindPosting

/-!
# The scenario runner

`domain/scenario_runner.py`: a scenario describes a table, a script of actions and what is expected
of the hand they lead to.  `runScenario` seats the players, finds the blinds by a circular search of
its own (`seatLeftOf`), has them posted, applies the script and evaluates the expectations.

What the actions are applied with is a parameter; `engineAction` is the action pipeline in its
place.

The specification of the set-up is `exists_setUp`: the blinds and the first player to act follow the
button clockwise, one seat after the other, whatever the number of players.
-/

namespace PokerRoom

open Foundation

/-! ## Scenarios -/

/-- A player of a scenario. -/
structure PlayerSetup where
  /-- Identifier of the player. -/
  playerId : String
  /-- Seat the player occupies. -/
  seat : Int
  /-- Chips the player starts with. -/
  stack : Int
deriving DecidableEq, Repr

/-- The blinds of a scenario. -/
structure BlindSetup where
  /-- The small blind. -/
  small : Int
  /-- The big blind. -/
  big : Int
  /-- The ante. -/
  ante : Int := 0
deriving DecidableEq, Repr

/-- An action of the script. -/
structure ScriptedAction where
  /-- The player who acts. -/
  playerId : String
  /-- The word sent. -/
  action : String
  /-- The amount sent. -/
  amount : Int
deriving DecidableEq, Repr

/-- The types of an expectation that are evaluated. -/
def checkTypes : List String := ["pot", "action_closed", "player_stack", "player_folded", "error"]

/-- What is expected of a hand: an expectation of each type, with the arguments its method
stores. -/
inductive Expectation
  | pot (amount : Int)
  | actionClosed
  | playerStack (playerId : String) (stack : Int)
  | playerFolded (playerId : String)
  | error (errorType : String)
  /-- An expectation of a type that is never evaluated. -/
  | unknown (checkType : String) (unevaluated : checkType ∉ checkTypes)
deriving DecidableEq, Repr

/-- What the evaluation of an expectation reports. -/
structure ExpectationResult where
  /-- The expectation is met. -/
  passed : Bool
  /-- The expectation. -/
  expectation : Expectation
  /-- What is wrong, if anything. -/
  message : String := ""
deriving DecidableEq, Repr

/-- A scenario. -/
structure HandScenario where
  /-- Name of the scenario. -/
  name : String
  /-- The players, in any order. -/
  players : List PlayerSetup
  /-- The blinds. -/
  blinds : BlindSetup
  /-- Seat of the button. -/
  dealerSeat : Int
  /-- The script. -/
  actions : List ScriptedAction := []
  /-- What is expected of the hand. -/
  expectations : List Expectation := []
deriving DecidableEq, Repr

namespace HandScenario

/-- Add an action to the script. -/
def addAction (scenario : HandScenario) (playerId action : String) (amount : Int := 0) :
    HandScenario :=
  { scenario with actions := scenario.actions ++ [⟨playerId, action, amount⟩] }

/-- Add an expectation. -/
def expect (scenario : HandScenario) (exp : Expectation) : HandScenario :=
  { scenario with expectations := scenario.expectations ++ [exp] }

/-- Expect a pot. -/
def expectPot (scenario : HandScenario) (amount : Int) : HandScenario :=
  scenario.expect (.pot amount)

/-- Expect the betting to be over. -/
def expectActionClosed (scenario : HandScenario) : HandScenario := scenario.expect .actionClosed

/-- Expect a player to have a stack left. -/
def expectPlayerStack (scenario : HandScenario) (playerId : String) (stack : Int) : HandScenario :=
  scenario.expect (.playerStack playerId stack)

/-- Expect a player to have folded. -/
def expectPlayerFolded (scenario : HandScenario) (playerId : String) : HandScenario :=
  scenario.expect (.playerFolded playerId)

/-- Expect the last action to raise an exception. -/
def expectError (scenario : HandScenario) (errorType : String) : HandScenario :=
  scenario.expect (.error errorType)

end HandScenario

/-- The outcome of a scenario. -/
structure ScenarioResult where
  /-- Name of the scenario. -/
  scenarioName : String := ""
  /-- Every expectation is met. -/
  passed : Bool := true
  /-- How many actions were applied, those that raised an exception included. -/
  actionsApplied : ℕ := 0
  /-- The evaluated expectations. -/
  expectationResults : List ExpectationResult := []
  /-- Never set. -/
  error : Option String := none
deriving DecidableEq, Repr

/-- The expectations that are not met. -/
def ScenarioResult.failures (result : ScenarioResult) : List ExpectationResult :=
  result.expectationResults.filter fun r => !r.passed

/-! ## Setting up the hand -/

/-- The rows of a hand: its round and the players. -/
abbrev HandRows := Round × List RoundPlayer

/-- The seat to the left of a seat: the next one in ascending order, and the first one after the
last; next to a seat where nobody sits, the second one.  There is none at an empty table. -/
def seatLeftOf (seat : Int) (players : List PlayerSetup) : Option Int :=
  let seats := bySeat id (players.map (·.seat))
  let idx := if seat ∈ seats then seats.idxOf seat else 0
  seats[(idx + 1) % seats.length]?

/-- The player row a player of a scenario starts from. -/
def PlayerSetup.toRoundPlayer (ps : PlayerSetup) : RoundPlayer :=
  { playerId := ps.playerId
    seatNumber := ps.seat
    stackRemaining := ps.stack
    committedThisStreet := 0
    committedThisHand := 0
    hasFolded := false
    isAllIn := false
    isActiveInHand := true }

/-- The round a scenario starts from. -/
def HandScenario.newRound (scenario : HandScenario) (smallBlindSeat bigBlindSeat : Int) : Round :=
  { roundId := "scenario-round"
    roundNumber := 1
    dealerSeat := scenario.dealerSeat
    smallBlindSeat := smallBlindSeat
    bigBlindSeat := bigBlindSeat
    smallBlindAmount := scenario.blinds.small
    bigBlindAmount := scenario.blinds.big
    anteAmount := scenario.blinds.ante
    status := .active
    potAmount := 0
    street := .preFlop
    actingPlayerId := none
    currentHighestBet := 0
    minimumRaiseAmount := scenario.blinds.big
    isActionClosed := false
    lastAggressorSeat := none
    -- the row is never stored, so its version stays unset
    stateVersion := 0 }

/-- A row of the hand as the player it is dealt to. -/
def PlayerState.seatPlayer (rp : RoundPlayer) : SeatPlayer :=
  ⟨rp.playerId, rp.seatNumber, rp.stackRemaining⟩

/-- Write what a player has posted to his row. -/
def PostedPlayer.write (pp : PostedPlayer) (rp : RoundPlayer) : RoundPlayer :=
  { rp with
    stackRemaining := pp.stackRemaining
    committedThisStreet := pp.committedThisStreet
    committedThisHand := pp.committedThisHand
    isAllIn := pp.isAllIn }

/-- Post the blinds of a scenario and give the turn to the player left of the big blind. -/
def postBlinds (gameRound : Round) (roundPlayers : List RoundPlayer) (scenario : HandScenario) :
    Option HandRows := do
  let seatPlayers := roundPlayers.map (·.seatPlayer)
  let posting := postBlindsAndAntes seatPlayers gameRound.smallBlindSeat gameRound.bigBlindSeat
    scenario.blinds.small scenario.blinds.big scenario.blinds.ante
  let roundPlayers := posting.players.foldl
    (fun rps pp => updateFirst (·.playerId) pp.playerId pp.write rps) roundPlayers
  let firstSeat ← seatLeftOf gameRound.bigBlindSeat scenario.players
  let first := roundPlayers.find? fun rp => rp.seatNumber = firstSeat
  return (
    { gameRound with
      potAmount := posting.potTotal
      currentHighestBet := posting.currentHighestBet
      minimumRaiseAmount := scenario.blinds.big
      actingPlayerId := (first.map (·.playerId)).or gameRound.actingPlayerId },
    roundPlayers)

/-- The rows of a scenario before its first action; there are none at an empty table. -/
def HandScenario.setUp (scenario : HandScenario) : Option HandRows := do
  let smallBlindSeat ← seatLeftOf scenario.dealerSeat scenario.players
  let bigBlindSeat ← seatLeftOf smallBlindSeat scenario.players
  postBlinds (scenario.newRound smallBlindSeat bigBlindSeat)
    (scenario.players.map (·.toRoundPlayer)) scenario

/-! ## Playing the script -/

/-- What the actions of a script are applied with: the rows it leaves, and the class of the
exception if it raises one. -/
abbrev ApplyActionFn := HandRows → ScriptedAction → HandRows × Option String

/-- The state of a script that is being played. -/
structure ScriptState where
  /-- The rows of the hand. -/
  rows : HandRows
  /-- How many actions were applied. -/
  actionsApplied : ℕ := 0
  /-- The class of the exception the last action raised, if it raised one. -/
  lastError : Option String := none
deriving DecidableEq, Repr

/-- Apply one action of a script. -/
def ScriptState.apply (applyActionFn : ApplyActionFn) (s : ScriptState) (sa : ScriptedAction) :
    ScriptState :=
  let (rows, lastError) := applyActionFn s.rows sa
  { rows := rows
    actionsApplied := s.actionsApplied + 1
    lastError := lastError }

/-- Play a script from the given rows. -/
def playScript (applyActionFn : ApplyActionFn) (rows : HandRows) (actions : List ScriptedAction) :
    ScriptState :=
  actions.foldl (ScriptState.apply applyActionFn) { rows := rows }

/-- The result of an expectation, with its message when it is not met. -/
def Expectation.checked (exp : Expectation) (ok : Bool) (message : String) : ExpectationResult :=
  { passed := ok
    expectation := exp
    message := if ok then "" else message }

/-- Evaluate an expectation. -/
def evaluate (exp : Expectation) (gameRound : Round) (roundPlayers : List RoundPlayer)
    (lastError : Option String) : ExpectationResult :=
  let player (pid : String) : Option RoundPlayer := roundPlayers.find? fun r => r.playerId = pid
  match exp with
  | .pot expected =>
    exp.checked (decide (gameRound.potAmount = expected))
      ("Expected pot=" ++ toString expected ++ ", got " ++ toString gameRound.potAmount)
  | .actionClosed => exp.checked gameRound.isActionClosed "Expected action_closed=True"
  | .playerStack pid expected =>
    match player pid with
    | none => exp.checked false ("Player " ++ pid ++ " not found")
    | some rp =>
      exp.checked (decide (rp.stackRemaining = expected))
        ("Expected " ++ pid ++ " stack=" ++ toString expected ++ ", got " ++
          toString rp.stackRemaining)
  | .playerFolded pid =>
    match player pid with
    | none => exp.checked false ("Player " ++ pid ++ " not found")
    | some rp => exp.checked rp.hasFolded ("Expected " ++ pid ++ " to be folded")
  | .error expectedType =>
    match lastError with
    | none => exp.checked false ("Expected error " ++ expectedType ++ " but no error occurred")
    | some actualType =>
      exp.checked (decide (actualType = expectedType))
        ("Expected " ++ expectedType ++ ", got " ++ actualType)
  | .unknown checkType _ => exp.checked false ("Unknown expectation type: " ++ checkType)

/-- Play the script of a scenario from the given rows and evaluate its expectations. -/
def HandScenario.play (scenario : HandScenario) (applyActionFn : ApplyActionFn) (rows : HandRows) :
    ScenarioResult :=
  let played := playScript applyActionFn rows scenario.actions
  let results := scenario.expectations.map fun exp =>
    evaluate exp played.rows.1 played.rows.2 played.lastError
  { scenarioName := scenario.name
    passed := results.all (·.passed)
    actionsApplied := played.actionsApplied
    expectationResults := results }

/-- Run a scenario; at an empty table it fails with a division by zero. -/
def runScenario (scenario : HandScenario) (applyActionFn : ApplyActionFn) : Option ScenarioResult :=
  scenario.setUp.map (scenario.play applyActionFn)

/-! ## The engine as the applied function -/

/-- The name of a class of exceptions. -/
def DomainException.className : DomainException → String
  | .roundNotActive => "RoundNotActive"
  | .actionClosed => "ActionClosed"
  | .roundNotCompleted => "RoundNotCompleted"
  | .alreadyAtShowdown => "AlreadyAtShowdown"
  | .playerNotInHand => "PlayerNotInHand"
  | .playerAlreadyFolded => "PlayerAlreadyFolded"
  | .playerAlreadyAllIn => "PlayerAlreadyAllIn"
  | .notYourTurn => "NotYourTurn"
  | .illegalAction => "IllegalAction"
  | .checkNotAllowed => "CheckNotAllowed"
  | .callNotAllowed => "CallNotAllowed"
  | .betNotAllowed => "BetNotAllowed"
  | .raiseNotAllowed => "RaiseNotAllowed"
  | .raiseBelowMinimum => "RaiseBelowMinimum"
  | .amountExceedsStack => "AmountExceedsStack"
  | .invalidAmount => "InvalidAmount"
  | .gameNotActive => "GameNotActive"
  | .gameAlreadyExists => "GameAlreadyExists"
  | .roundStartNotAllowed => "RoundStartNotAllowed"
  | .notFound => "NotFound"
  | .ledgerEntryNotFound => "LedgerEntryNotFound"
  | .entryAlreadyReversed => "EntryAlreadyReversed"
  | .cannotReverseCorrection => "CannotReverseCorrection"
  | .payoutExceedsPot => "PayoutExceedsPot"
  | .payoutEmpty => "PayoutEmpty"
  | .payoutMismatch => "PayoutMismatch"
  | .staleStateError => "StaleStateError"
  | .idempotencyConflict => "IdempotencyConflict"

/-- The action pipeline, which leaves the rows alone when it raises an exception. -/
def engineAction : ApplyActionFn := fun rows sa =>
  match applyAction rows.1 rows.2 sa.playerId sa.action sa.amount none with
  | .ok (_, rows') => (rows', none)
  | .error e => (rows, some e.exception.className)

/-! ## The seat to the left -/

variable {scenario : HandScenario} {players : List PlayerSetup} {seat : Int} {rows : HandRows}
  {applyActionFn : ApplyActionFn}

/-- The seat to the left of a taken seat is the next one clockwise. -/
lemma exists_seatLeftOf (hseats : (players.map (·.seat)).Nodup)
    (hseat : seat ∈ players.map (·.seat)) :
    ∃ x, seatLeftOf seat players = some x ∧ IsNext (players.map (·.seat)) seat x := by
  have hnd : ((players.map (·.seat)).map id).Nodup := by rwa [List.map_id]
  have hasc : (bySeat id (players.map (·.seat))).Pairwise (· < ·) := bySeat_pairwise hnd
  obtain ⟨x, hx, hnext⟩ := exists_isNext hasc (mem_bySeat.mpr hseat)
  refine ⟨x, ?_, (isNext_congr fun y => mem_bySeat).mp hnext⟩
  simp only [seatLeftOf, mem_bySeat, if_pos hseat]
  exact hx

/-! ## Running a scenario -/

/-- Every action of a script is applied. -/
lemma playScript_actionsApplied (actions : List ScriptedAction) :
    (playScript applyActionFn rows actions).actionsApplied = actions.length := by
  have hcount : ∀ s : ScriptState,
    (actions.foldl (ScriptState.apply applyActionFn) s).actionsApplied =
      s.actionsApplied + actions.length := by
    induction actions with
    | nil => exact fun _ => rfl
    | cons sa actions ih =>
      intro s
      rw [List.foldl_cons, ih, List.length_cons]
      simp only [ScriptState.apply]
      omega
  rw [playScript, hcount]
  exact Nat.zero_add _

/-- Two scripts in lockstep: what holds between the rows they start from and is kept by every
action, which answers alike on both sides, holds between the rows they lead to. -/
theorem playScript_lockstep (applyActionFn : ApplyActionFn) {R : HandRows → HandRows → Prop}
    (hstep : ∀ rows rows' sa, R rows rows' →
      R (applyActionFn rows sa).1 (applyActionFn rows' sa).1 ∧
      (applyActionFn rows sa).2 = (applyActionFn rows' sa).2) {rows' : HandRows} (h : R rows rows')
    (actions : List ScriptedAction) :
    R (playScript applyActionFn rows actions).rows (playScript applyActionFn rows' actions).rows ∧
      (playScript applyActionFn rows actions).lastError =
        (playScript applyActionFn rows' actions).lastError := by
  refine List.foldl_rel (r := fun s s' : ScriptState => R s.rows s'.rows ∧
    s.lastError = s'.lastError)
    ⟨h, rfl⟩ ?_
  rintro sa - s s' ⟨hrows, -⟩
  exact hstep s.rows s'.rows sa hrows

-- Everybody folds to the big blind, who acts once more after the betting is over.
example :
    let table : HandScenario :=
      { name := "Fold to BB"
        players := [⟨"p1", 1, 1000⟩, ⟨"p2", 2, 1000⟩, ⟨"p3", 3, 1000⟩]
        blinds := { small := 10, big := 20 }
        dealerSeat := 1 }
    let script := ((table.addAction "p1" "FOLD").addAction "p2" "FOLD").addAction "p3" "CHECK"
    let expected := (script.expectPot 30).expectActionClosed.expectPlayerStack "p3" 980
    let scenario := (expected.expectPlayerFolded "p2").expectError "ActionClosed"
    (runScenario scenario engineAction).map (fun result => (result.passed, result.actionsApplied)) =
      some (true, 3) := by
  decide

/-! ## What is set up -/

/-- A table a hand can be played at: at least two players with chips, on distinct seats and under
distinct identifiers, one of them on the button. -/
structure HandScenario.Valid (scenario : HandScenario) : Prop where
  /-- There are two players. -/
  two_le : 2 ≤ scenario.players.length
  /-- The players are distinct. -/
  playerIds : (scenario.players.map (·.playerId)).Nodup
  /-- The seats are distinct. -/
  seats : (scenario.players.map (·.seat)).Nodup
  /-- Every player has chips. -/
  stack_pos : ∀ ps ∈ scenario.players, 0 < ps.stack
  /-- Somebody sits on the button. -/
  dealer : scenario.dealerSeat ∈ scenario.players.map (·.seat)

instance : DecidablePred HandScenario.Valid := fun scenario =>
  decidable_of_iff
    (2 ≤ scenario.players.length ∧ (scenario.players.map (·.playerId)).Nodup ∧
      (scenario.players.map (·.seat)).Nodup ∧ (∀ ps ∈ scenario.players, 0 < ps.stack) ∧
      scenario.dealerSeat ∈ scenario.players.map (·.seat))
    ⟨fun ⟨h₁, h₂, h₃, h₄, h₅⟩ => ⟨h₁, h₂, h₃, h₄, h₅⟩,
      fun ⟨h₁, h₂, h₃, h₄, h₅⟩ => ⟨h₁, h₂, h₃, h₄, h₅⟩⟩

/-- The row of a player of a scenario after the blinds are posted on the given seats. -/
def HandScenario.postedRow (scenario : HandScenario) (smallBlindSeat bigBlindSeat : Int)
    (ps : PlayerSetup) : RoundPlayer :=
  (postPlayer smallBlindSeat bigBlindSeat scenario.blinds.small scenario.blinds.big
    scenario.blinds.ante ps.toRoundPlayer.seatPlayer).write ps.toRoundPlayer

/-- The rows a scenario starts from: the blinds and the first player to act follow the button
clockwise, everybody has posted, and the pot and the bet to match are the sum and the maximum of
what is posted. -/
structure HandScenario.SetUp (scenario : HandScenario) (rows : HandRows) : Prop where
  /-- The small blind is left of the button. -/
  smallBlind : IsNext (scenario.players.map (·.seat)) scenario.dealerSeat rows.1.smallBlindSeat
  /-- The big blind is left of the small blind. -/
  bigBlind : IsNext (scenario.players.map (·.seat)) rows.1.smallBlindSeat rows.1.bigBlindSeat
  /-- The player left of the big blind has the turn. -/
  first : ∃ ps ∈ scenario.players,
    IsNext (scenario.players.map (·.seat)) rows.1.bigBlindSeat ps.seat ∧
      rows.1.actingPlayerId = some ps.playerId
  /-- The players have posted. -/
  players : rows.2 = scenario.players.map
    (scenario.postedRow rows.1.smallBlindSeat rows.1.bigBlindSeat)
  /-- The other fields of the round. -/
  round : rows.1 =
    { scenario.newRound rows.1.smallBlindSeat rows.1.bigBlindSeat with
      potAmount := (rows.2.map (·.committedThisStreet)).sum
      currentHighestBet := maxOrZero (rows.2.map (·.committedThisStreet))
      actingPlayerId := rows.1.actingPlayerId }

/-- Writing what everybody has posted to the rows of distinct players. -/
lemma foldl_write_posted (hids : (players.map (·.playerId)).Nodup)
    (post : SeatPlayer → PostedPlayer) (hpost : ∀ p, (post p).playerId = p.playerId) :
    (((players.map (·.toRoundPlayer)).map (·.seatPlayer)).map post).foldl
        (fun rps pp => updateFirst (·.playerId) pp.playerId pp.write rps)
        (players.map (·.toRoundPlayer)) =
      players.map fun ps => (post ps.toRoundPlayer.seatPlayer).write ps.toRoundPlayer := by
  have hrows : ((players.map (·.toRoundPlayer)).map (·.playerId)).Nodup := by
    simpa [Function.comp_def, PlayerSetup.toRoundPlayer] using hids
  have hposted : ((((players.map (·.toRoundPlayer)).map (·.seatPlayer)).map post).map
      (·.playerId)).Nodup := by
    simpa [Function.comp_def, PlayerSetup.toRoundPlayer, PlayerState.seatPlayer, hpost] using hids
  rw [foldl_updateFirst_eq_map (f := PostedPlayer.write) (fun _ _ => rfl) hrows hposted,
    List.map_map]
  apply List.map_congr_left
  intro ps hps
  have hfind := (find?_key_eq_some_iff (k := ps.playerId) hposted).mpr
    ⟨List.mem_map_of_mem (List.mem_map_of_mem (List.mem_map_of_mem hps)), hpost _⟩
  rw [Function.comp_apply]
  simp only [show ps.toRoundPlayer.playerId = ps.playerId from rfl, hfind, Option.map_some,
    Option.getD_some]

/-- The specification of the set-up of a scenario. -/
theorem exists_setUp (hvalid : scenario.Valid) :
    ∃ rows, scenario.setUp = some rows ∧ scenario.SetUp rows := by
  obtain ⟨sb, hsb, hsbNext⟩ := exists_seatLeftOf hvalid.seats hvalid.dealer
  obtain ⟨bb, hbb, hbbNext⟩ := exists_seatLeftOf hvalid.seats hsbNext.1
  obtain ⟨seat, hseat, hfirst⟩ := exists_seatLeftOf hvalid.seats hbbNext.1
  obtain ⟨ps, hps, rfl⟩ := List.mem_map.mp hfirst.1
  set post := postPlayer sb bb scenario.blinds.small scenario.blinds.big
    scenario.blinds.ante with hpost
  have hposted := (foldl_write_posted hvalid.playerIds post fun _ => rfl).trans
    (show _ = scenario.players.map (scenario.postedRow sb bb) from rfl)
  have hcommitted : (((scenario.players.map (·.toRoundPlayer)).map (·.seatPlayer)).map post).map
      (·.committedThisStreet) =
        (scenario.players.map (scenario.postedRow sb bb)).map (·.committedThisStreet) := by
    simp only [List.map_map]
    rfl
  have hseats : ((scenario.players.map (scenario.postedRow sb bb)).map (·.seatNumber)).Nodup := by
    rw [List.map_map]
    exact hvalid.seats
  have hfind := (find?_key_eq_some_iff (k := ps.seat) hseats).mpr ⟨List.mem_map_of_mem hps, rfl⟩
  have hset : scenario.setUp = some
      ({ scenario.newRound sb bb with
          potAmount := ((scenario.players.map (scenario.postedRow sb bb)).map
            (·.committedThisStreet)).sum
          currentHighestBet := maxOrZero ((scenario.players.map (scenario.postedRow sb bb)).map
            (·.committedThisStreet))
          actingPlayerId := some ps.playerId },
        scenario.players.map (scenario.postedRow sb bb)) := by
    simp only [HandScenario.setUp, hsb, Option.bind_eq_bind, Option.bind_some, hbb, postBlinds,
      HandScenario.newRound, postBlindsAndAntes, ← hpost, hposted, hcommitted, hseat, hfind]
    rfl
  exact ⟨_, hset, hsbNext, hbbNext, ⟨ps, hps, hfirst, rfl⟩, rfl, rfl⟩

end PokerRoom
