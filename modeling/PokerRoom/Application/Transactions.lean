import PokerRoom.Application.CorrectionCommands
import PokerRoom.Foundation.Transactions

/-!
# The handlers as transactions

`place_bet`, `advance_street`, `resolve_hand` and `reverse_action` select the rows they need one
after another, each from what is committed at this moment, and write when they commit.  A flush
writes the columns that were changed since they were read (`flushColumns`), to the rows as they are
stored by then; only `place_bet` asks whether the round still has the version that was read.

The `exec` theorems say that a handler that runs alone does what the commands on one round do.  What
`resolve_hand` reads and writes of the game and of the snapshot of its room is left out here.
-/

namespace PokerRoom

open Foundation

/-! ## Writing columns -/

/-- What a flush leaves in a column: the new value, unless it is the one that was read. -/
def writeColumn {α : Type} [DecidableEq α] (read new stored : α) : α :=
  if new = read then stored else new

/-- What a flush leaves in the row of a round that was read and changed. -/
def Round.flushColumns (read new stored : Round) : Round :=
  { roundId := writeColumn read.roundId new.roundId stored.roundId
    roundNumber := writeColumn read.roundNumber new.roundNumber stored.roundNumber
    dealerSeat := writeColumn read.dealerSeat new.dealerSeat stored.dealerSeat
    smallBlindSeat := writeColumn read.smallBlindSeat new.smallBlindSeat stored.smallBlindSeat
    bigBlindSeat := writeColumn read.bigBlindSeat new.bigBlindSeat stored.bigBlindSeat
    smallBlindAmount :=
      writeColumn read.smallBlindAmount new.smallBlindAmount stored.smallBlindAmount
    bigBlindAmount := writeColumn read.bigBlindAmount new.bigBlindAmount stored.bigBlindAmount
    anteAmount := writeColumn read.anteAmount new.anteAmount stored.anteAmount
    status := writeColumn read.status new.status stored.status
    potAmount := writeColumn read.potAmount new.potAmount stored.potAmount
    street := writeColumn read.street new.street stored.street
    actingPlayerId := writeColumn read.actingPlayerId new.actingPlayerId stored.actingPlayerId
    currentHighestBet :=
      writeColumn read.currentHighestBet new.currentHighestBet stored.currentHighestBet
    minimumRaiseAmount :=
      writeColumn read.minimumRaiseAmount new.minimumRaiseAmount stored.minimumRaiseAmount
    isActionClosed := writeColumn read.isActionClosed new.isActionClosed stored.isActionClosed
    lastAggressorSeat :=
      writeColumn read.lastAggressorSeat new.lastAggressorSeat stored.lastAggressorSeat
    stateVersion := writeColumn read.stateVersion new.stateVersion stored.stateVersion }

/-- What a flush leaves in the row of a player that was read and changed. -/
def PlayerState.flushColumns (read new stored : RoundPlayer) : RoundPlayer :=
  { playerId := writeColumn read.playerId new.playerId stored.playerId
    seatNumber := writeColumn read.seatNumber new.seatNumber stored.seatNumber
    stackRemaining := writeColumn read.stackRemaining new.stackRemaining stored.stackRemaining
    committedThisStreet :=
      writeColumn read.committedThisStreet new.committedThisStreet stored.committedThisStreet
    committedThisHand :=
      writeColumn read.committedThisHand new.committedThisHand stored.committedThisHand
    hasFolded := writeColumn read.hasFolded new.hasFolded stored.hasFolded
    isAllIn := writeColumn read.isAllIn new.isAllIn stored.isAllIn
    isActiveInHand := writeColumn read.isActiveInHand new.isActiveInHand stored.isActiveInHand }

/-- What a flush leaves in the rows of the players of a round: every row that was read is written by
itself. -/
def flushPlayers (read new stored : List RoundPlayer) : List RoundPlayer :=
  stored.map fun p =>
    match (read.zip new).find? fun q => q.1.playerId = p.playerId with
    | some (old, changed) => old.flushColumns changed p
    | none => p

/-- What a flush leaves of a round whose row and players were read and then changed by `write`. -/
def RoundTables.flushColumns (stored : RoundTables) (gameRound : Round)
    (roundPlayers : List RoundPlayer) (write : RoundTables → RoundTables) : RoundTables :=
  let changed := write { stored with round := gameRound, players := roundPlayers }
  { changed with
    round := gameRound.flushColumns changed.round stored.round
    players := flushPlayers roundPlayers changed.players stored.players }

/-! ## The handlers -/

/-- What a handler answers. -/
inductive Reply
  /-- A bet. -/
  | bet (b : Bet)
  /-- What the end of a street leads to. -/
  | street (result : StreetAdvanceResult)
  /-- The hand is resolved. -/
  | resolved
  /-- An action is reversed. -/
  | reversed (entry : HandLedgerEntry)
deriving DecidableEq, Repr

/-- What a handler of a request on one round still has to do. -/
abbrev Handler := Transaction RoundTables Reply Rejection

/-- Commit an action that was applied to the rows that were read. -/
def PlaceBet.commit (data : PlaceBet) (ids : Uuids) (gameRound : Round)
    (roundPlayers : List RoundPlayer) (out : ApplyActionResult × Round × List RoundPlayer) :
    RoundTables → Except Rejection (Reply × RoundTables) := fun r => do
  let (result, changedRound, changedPlayers) := out
  let written ← casUpdateRound r.round changedRound gameRound.version
  let (bet, entry) := recordBetAction data.playerId result.action result.amount
    data.idempotencyKey ids
  let r' ← RoundTables.flush
    { r with
      round := written
      players := flushPlayers roundPlayers changedPlayers r.players
      bets := r.bets ++ [bet]
      ledger := r.ledger ++ [entry] }
  return (.bet bet, r')

/-- Apply the action to the rows that were read. -/
def PlaceBet.act (data : PlaceBet) (ids : Uuids) (gameRound : Round)
    (roundPlayers : List RoundPlayer) : Handler :=
  .compute (.check
    (liftDomain (applyAction gameRound roundPlayers data.playerId (upper data.action) data.amount
      data.expectedVersion))
    fun out => .commit (data.commit ids gameRound roundPlayers out))

/-- Read the players. -/
def PlaceBet.readPlayers (data : PlaceBet) (ids : Uuids) (gameRound : Round) : Handler :=
  .read fun r => data.act ids gameRound r.players

/-- Read the round. -/
def PlaceBet.readRound (data : PlaceBet) (ids : Uuids) : Handler :=
  .read fun r => data.readPlayers ids r.round

/-- Look the idempotency key up. -/
def PlaceBet.lookUp (data : PlaceBet) (ids : Uuids) (requested : BetAction) : Handler :=
  .read fun r =>
    match data.existing r with
    | some existing =>
      if existing.playerId ≠ data.playerId ∨ existing.action ≠ requested ∨
          existing.amount ≠ data.amount then
        .failed (.domain ⟨.idempotencyConflict, "Idempotency key '" ++
          data.idempotencyKey.getD "" ++ "' already used in round " ++ r.round.roundId ++
          " with a different payload"⟩)
      else .answered (.bet existing)
    | none => data.readRound ids

/-- The handler of a bet. -/
def PlaceBet.handler (data : PlaceBet) (ids : Uuids) : Handler :=
  match BetAction.ofValue? (upper data.action) with
  | none => .failed (.domain
      ⟨.illegalAction, ErrorMessage.invalidAction.value ++ ": " ++ data.action⟩)
  | some requested =>
    match truthy data.idempotencyKey with
    | none => data.readRound ids
    | some _ => data.lookUp ids requested

/-- Commit what the end of a street leads to. -/
def commitStreet (gameRound : Round) (roundPlayers : List RoundPlayer)
    (result : StreetAdvanceResult) : RoundTables → Except Rejection (Reply × RoundTables) :=
  fun r => do
    let r' ← (r.flushColumns gameRound roundPlayers result.write).flush
    return (.street result, r')

/-- Evaluate the end of the street from the rows that were read. -/
def evaluateStreet (gameRound : Round) (roundPlayers : List RoundPlayer) : Handler :=
  .compute (.commit (commitStreet gameRound roundPlayers
    (evaluateStreetEnd gameRound.street gameRound.dealerSeat (roundPlayers.map (·.playerSeat)))))

/-- Read the players whose street ends. -/
def readStreetPlayers (gameRound : Round) : Handler :=
  .read fun r => evaluateStreet gameRound r.players

/-- The handler of an advance of the street. -/
def advanceStreetHandler : Handler :=
  .read fun r => .check
    (do
      require (r.round.status = .active)
        (.domain ⟨.roundNotActive, ErrorMessage.roundNotActive.value⟩)
      require (r.round.street ≠ .showdown)
        (.domain ⟨.alreadyAtShowdown, ErrorMessage.alreadyAtShowdown.value⟩))
    fun _ => readStreetPlayers r.round

/-- Commit a settlement of the rows that were read. -/
def ResolveHandRequest.commit (data : ResolveHandRequest) (ids : Uuids) (gameRound : Round)
    (roundPlayers : List RoundPlayer) : RoundTables → Except Rejection (Reply × RoundTables) :=
  fun r => do
    let r' ← (r.flushColumns gameRound roundPlayers (data.write · ids)).flush
    return (.resolved, r')

/-- Read the players to settle with and validate the payouts. -/
def ResolveHandRequest.readPlayers (data : ResolveHandRequest) (ids : Uuids) (gameRound : Round) :
    Handler :=
  .read fun r => .check (liftDomain (validatePayoutsAgainstSidePots r.players data.payouts))
    fun _ => .commit (data.commit ids gameRound r.players)

/-- What a settlement checks of the round. -/
def ResolveHandRequest.checkRound (data : ResolveHandRequest) (gameRound : Round) :
    Except Rejection Unit := do
  require (gameRound.status = .active)
    (.domain ⟨.roundNotActive, ErrorMessage.roundNotActive.value⟩)
  require (data.payouts ≠ []) (.domain ⟨.payoutEmpty, ErrorMessage.payoutEmpty.value⟩)
  require (data.totalPaid ≤ gameRound.potAmount)
    (.domain ⟨.payoutExceedsPot, ErrorMessage.payoutTotalExceedsPot.value⟩)
  checkAll
    (fun pot => require (pot.winnerTotal = pot.amount)
      (.domain ⟨.payoutMismatch, "Pot " ++ toString pot.potIndex ++ " winners total " ++
        toString pot.winnerTotal ++ " != pot amount " ++ toString pot.amount⟩))
    data.payouts

/-- The handler of a settlement. -/
def ResolveHandRequest.handler (data : ResolveHandRequest) (ids : Uuids) : Handler :=
  .read fun r => .check (data.checkRound r.round) fun _ => data.readPlayers ids r.round

/-- Commit the reversal of an entry. -/
def ReverseActionRequest.commit (data : ReverseActionRequest) (ids : Uuids)
    (original : HandLedgerEntry) (gameRound : Round) (roundPlayers : List RoundPlayer) :
    RoundTables → Except Rejection (Reply × RoundTables) :=
  fun r => do
    let r' ← (r.flushColumns gameRound roundPlayers (data.write original · ids)).flush
    return (.reversed (reversalEntry original data ids), r')

/-- Read the players if chips go back to one of them, and commit the reversal. -/
def ReverseActionRequest.readPlayers (data : ReverseActionRequest) (ids : Uuids)
    (original : HandLedgerEntry) (gameRound : Round) : Handler :=
  if truthy original.playerId ≠ none ∧ original.amount.getD 0 > 0 then
    .read fun r => .commit (data.commit ids original gameRound r.players)
  else .commit fun r => data.commit ids original gameRound r.players r

/-- Read the ledger and check that the entry was not reversed. -/
def ReverseActionRequest.readLedger (data : ReverseActionRequest) (ids : Uuids)
    (original : HandLedgerEntry) (gameRound : Round) : Handler :=
  .read fun r => .check (data.checkNotReversed r.ledger)
    fun _ => data.readPlayers ids original gameRound

/-- Read the entry to reverse and check that it is no correction. -/
def ReverseActionRequest.readOriginal (data : ReverseActionRequest) (ids : Uuids)
    (gameRound : Round) : Handler :=
  .read fun r =>
    match r.ledger.find? fun e => e.entryId = data.originalEntryId with
    | none => .failed (.domain ⟨.ledgerEntryNotFound, ErrorMessage.ledgerEntryNotFound.value⟩)
    | some original => .check
      (require (original.entryType.isCorrection = false)
        (.domain ⟨.cannotReverseCorrection, ErrorMessage.cannotReverseCorrection.value⟩))
      fun _ => data.readLedger ids original gameRound

/-- The handler of a reversal. -/
def ReverseActionRequest.handler (data : ReverseActionRequest) (ids : Uuids) : Handler :=
  .read fun r => data.readOriginal ids r.round

/-! ## Specification -/

/-- A column that is stored as it was read has the new value afterwards. -/
@[simp] lemma writeColumn_self {α : Type} [DecidableEq α] (read new : α) :
    writeColumn read new read = new := by
  unfold writeColumn
  split
  · next h => exact h.symm
  · rfl

/-- A column that was not changed stays as it is stored. -/
@[simp] lemma writeColumn_unchanged {α : Type} [DecidableEq α] (read stored : α) :
    writeColumn read read stored = stored := if_pos rfl

/-- A round that is stored as it was read is the changed one afterwards. -/
@[simp] lemma Round.flushColumns_self (read new : Round) : read.flushColumns new read = new := by
  simp [Round.flushColumns]

/-- A player who is stored as he was read is the changed one afterwards. -/
@[simp] lemma PlayerState.flushColumns_self (read new : RoundPlayer) :
    read.flushColumns new read = new := by
  simp [PlayerState.flushColumns]

/-- Players who are stored as they were read are the changed ones afterwards. -/
lemma flushPlayers_self {read new : List RoundPlayer} (hnd : (read.map (·.playerId)).Nodup)
    (hlength : new.length = read.length) : flushPlayers read new read = new := by
  unfold flushPlayers
  induction read generalizing new with
  | nil => rw [List.map_nil, List.eq_nil_of_length_eq_zero hlength]
  | cons p read ih =>
    obtain ⟨q, new, rfl⟩ := List.exists_cons_of_length_eq_add_one hlength
    rw [List.map_cons, List.nodup_cons] at hnd
    have hrest := ih hnd.2 (Nat.succ.inj hlength)
    rw [List.map_cons, List.zip_cons_cons, List.find?_cons_of_pos (by simp)]
    refine congrArg₂ List.cons (PlayerState.flushColumns_self p q) (Eq.trans ?_ hrest)
    apply List.map_congr_left
    intro o ho
    have hne : p.playerId ≠ o.playerId := fun h =>
      hnd.1 (h ▸ List.mem_map_of_mem ho)
    rw [List.find?_cons_of_neg (by simpa using hne)]

/-- Rows that are stored as they were read are the changed ones afterwards. -/
lemma RoundTables.flushColumns_self {r : RoundTables} {write : RoundTables → RoundTables}
    (hnd : (r.players.map (·.playerId)).Nodup)
    (hlength : (write r).players.length = r.players.length) :
    r.flushColumns r.round r.players write = write r := by
  simp only [RoundTables.flushColumns, Round.flushColumns_self, flushPlayers_self hnd hlength]

/-- The street progression keeps the number of players. -/
lemma StreetAdvanceResult.length_write (result : StreetAdvanceResult) (r : RoundTables) :
    (result.write r).players.length = r.players.length := by
  unfold StreetAdvanceResult.write
  split
  · rfl
  · exact List.length_map _
  · exact List.length_map _

/-- A settlement keeps the number of players. -/
lemma ResolveHandRequest.length_write (data : ResolveHandRequest) (r : RoundTables) (ids : Uuids) :
    (data.write r ids).players.length = r.players.length := by
  have hids : (data.write r ids).players.map (·.playerId) = r.players.map (·.playerId) :=
    map_foldl_award fun _ _ => rfl
  simpa using congrArg List.length hids

/-- A reversal keeps the number of players. -/
lemma ReverseActionRequest.length_write (data : ReverseActionRequest) (original : HandLedgerEntry)
    (r : RoundTables) (ids : Uuids) :
    (data.write original r ids).players.length = r.players.length := by
  rcases data.write_cases original r ids with ⟨name, -, -, hw⟩ | ⟨-, hw⟩
  · have hids : (data.write original r ids).players.map (·.playerId) =
        r.players.map (·.playerId) := by
      rw [hw]
      exact map_updateFirst_of_eq _ fun _ => rfl
    simpa using congrArg List.length hids
  · rw [hw]

/-- What a bet commits to the rows it has read. -/
lemma PlaceBet.commit_self {r : RoundTables} (hnd : (r.players.map (·.playerId)).Nodup)
    (data : PlaceBet) (ids : Uuids) {out : ApplyActionResult × Round × List RoundPlayer}
    (hlength : out.2.2.length = r.players.length) :
    data.commit ids r.round r.players out r = do
      let written ← casUpdateRound r.round out.2.1 r.round.version
      let recorded :=
        recordBetAction data.playerId out.1.action out.1.amount data.idempotencyKey ids
      let r' ← RoundTables.flush
        { r with
          round := written
          players := out.2.2
          bets := r.bets ++ [recorded.1]
          ledger := r.ledger ++ [recorded.2] }
      return (.bet recorded.1, r') := by
  simp only [PlaceBet.commit, flushPlayers_self hnd hlength]

/-- What the end of a street commits to the rows it has read. -/
lemma commitStreet_self {r : RoundTables} (hnd : (r.players.map (·.playerId)).Nodup)
    (result : StreetAdvanceResult) :
    commitStreet r.round r.players result r =
      (result.write r).flush.map fun r' => (.street result, r') := by
  have hwrite := RoundTables.flushColumns_self hnd (result.length_write r)
  rw [commitStreet, hwrite]
  cases (result.write r).flush <;> rfl

/-- What a settlement commits to the rows it has read. -/
lemma ResolveHandRequest.commit_self {r : RoundTables} (hnd : (r.players.map (·.playerId)).Nodup)
    (data : ResolveHandRequest) (ids : Uuids) :
    data.commit ids r.round r.players r =
      (data.write r ids).flush.map fun r' => (.resolved, r') := by
  have hwrite : r.flushColumns r.round r.players (data.write · ids) = data.write r ids :=
    RoundTables.flushColumns_self hnd (data.length_write r ids)
  rw [ResolveHandRequest.commit, hwrite]
  cases (data.write r ids).flush <;> rfl

/-- What a reversal commits to the rows it has read. -/
lemma ReverseActionRequest.commit_self {r : RoundTables}
    (hnd : (r.players.map (·.playerId)).Nodup) (data : ReverseActionRequest) (ids : Uuids)
    (original : HandLedgerEntry) :
    data.commit ids original r.round r.players r =
      (data.write original r ids).flush.map fun r' =>
        (.reversed (reversalEntry original data ids), r') := by
  have hwrite : r.flushColumns r.round r.players (data.write original · ids) =
      data.write original r ids :=
    RoundTables.flushColumns_self hnd (data.length_write original r ids)
  rw [ReverseActionRequest.commit, hwrite]
  cases (data.write original r ids).flush <;> rfl

/-- An action that is applied to the stored rows and committed is placed as `placeBet` does. -/
lemma PlaceBet.exec_readRound {r : RoundTables} (hnd : (r.players.map (·.playerId)).Nodup)
    {data : PlaceBet} {ids : Uuids} {requested : BetAction}
    (hword : BetAction.ofValue? (upper data.action) = some requested)
    (hfresh : data.existing r = none) :
    (data.readRound ids).exec r = (placeBet r data ids).map fun out => (.bet out.1, out.2) := by
  simp only [placeBet, hword, hfresh, PlaceBet.readRound, PlaceBet.readPlayers, PlaceBet.act,
    Transaction.exec, Transaction.exec_check, map_bind_except]
  cases happly : liftDomain (applyAction r.round r.players data.playerId (upper data.action)
    data.amount data.expectedVersion) with
  | error e => rfl
  | ok out =>
    obtain ⟨-, p, a, v, -, rfl⟩ :=
      exists_accepted_of_applyAction hnd (liftDomain_eq_ok_iff.mp happly)
    have hlength : (actedPlayers data.playerId v r.players).length = r.players.length := by
      have hids : (actedPlayers data.playerId v r.players).map (·.playerId) =
          r.players.map (·.playerId) := map_updateFirst_of_eq _ fun _ => rfl
      simpa using congrArg List.length hids
    simp only [bind, Except.bind]
    rw [PlaceBet.commit_self hnd data ids hlength]
    rfl

/-- A bet that is placed alone is placed as `placeBet` does. -/
theorem PlaceBet.exec_handler {r : RoundTables} (hnd : (r.players.map (·.playerId)).Nodup)
    (data : PlaceBet) (ids : Uuids) :
    (data.handler ids).exec r = (placeBet r data ids).map fun out => (.bet out.1, out.2) := by
  unfold PlaceBet.handler
  cases hword : BetAction.ofValue? (upper data.action) with
  | none => simp [placeBet, hword, Transaction.exec, Except.map]
  | some requested =>
    cases hkey : truthy data.idempotencyKey with
    | none =>
      have hfresh : data.existing r = none := by
        unfold PlaceBet.existing
        cases hdata : data.idempotencyKey with
        | none => rfl
        | some key =>
          by_cases hempty : key = ""
          · simp [hempty]
          · rw [hdata, truthy_some hempty] at hkey
            cases hkey
      exact PlaceBet.exec_readRound hnd hword hfresh
    | some key =>
      simp only [PlaceBet.lookUp, Transaction.exec]
      cases hfresh : data.existing r with
      | none => exact PlaceBet.exec_readRound hnd hword hfresh
      | some existing =>
        simp only [placeBet, hword, hfresh]
        split
        · rfl
        · rfl

/-- A street that is advanced alone is advanced as `advanceStreet` does. -/
theorem exec_advanceStreetHandler {r : RoundTables} (hnd : (r.players.map (·.playerId)).Nodup) :
    advanceStreetHandler.exec r = (advanceStreet r).map fun out => (.street out.1, out.2) := by
  simp only [advanceStreetHandler, Transaction.exec, Transaction.exec_check, advanceStreet,
    map_bind_except, readStreetPlayers, evaluateStreet, bind_assoc, commitStreet_self hnd]
  rfl

/-- A hand that is resolved alone is settled as `settleRound` does. -/
theorem ResolveHandRequest.exec_handler {r : RoundTables}
    (hnd : (r.players.map (·.playerId)).Nodup) (data : ResolveHandRequest) (ids : Uuids) :
    (data.handler ids).exec r = (settleRound r data ids).map fun r' => (.resolved, r') := by
  simp only [ResolveHandRequest.handler, ResolveHandRequest.readPlayers,
    ResolveHandRequest.checkRound,
    Transaction.exec, Transaction.exec_check, settleRound, map_bind_except, bind_assoc,
    ResolveHandRequest.commit_self hnd]

/-- An action that is reversed alone is reversed as `reverseAction` does. -/
theorem ReverseActionRequest.exec_handler {r : RoundTables}
    (hnd : (r.players.map (·.playerId)).Nodup) (data : ReverseActionRequest) (ids : Uuids) :
    (data.handler ids).exec r =
      (reverseAction r data ids).map fun out => (.reversed out.1, out.2) := by
  have hcommit : ∀ original, (data.readPlayers ids original r.round).exec r =
      data.commit ids original r.round r.players r := by
    intro original
    unfold ReverseActionRequest.readPlayers
    split <;> rfl
  simp only [ReverseActionRequest.handler, ReverseActionRequest.readOriginal, Transaction.exec,
    reverseAction]
  cases hfind : r.ledger.find? fun e => e.entryId = data.originalEntryId with
  | none => rfl
  | some original =>
    simp only [ReverseActionRequest.readLedger, Transaction.exec, Transaction.exec_check, hcommit,
      ReverseActionRequest.commit_self hnd, map_bind_except]
    rfl

end PokerRoom
