import PokerRoom.Application.BetCommands
import PokerRoom.Domain.Engine.BlindPosting
import PokerRoom.Domain.Engine.StreetProgression
import PokerRoom.Domain.Engine.PayoutValidation

/-!
# Commands on one round

The part of `application/commands/game_command_service.py` that reads and writes one round: the
rows `start_round` creates, `advance_street`, the settlement of `resolve_hand`, and the settlement
request of `declare_winner`.
-/

namespace PokerRoom

open Foundation

/-! ## Creating a round -/

/-- The values a new round is created from. -/
structure RoundSetup where
  /-- Identifier of the round. -/
  roundId : String
  /-- Number of the round within its game. -/
  roundNumber : Int
  /-- Seat of the button. -/
  dealerSeat : Int
  /-- Seat that posts the small blind. -/
  smallBlindSeat : Int
  /-- Seat that posts the big blind. -/
  bigBlindSeat : Int
  /-- The small blind. -/
  smallBlind : Int
  /-- The big blind. -/
  bigBlind : Int
  /-- The ante. -/
  ante : Int
  /-- The players dealt in. -/
  players : List SeatPlayer
deriving DecidableEq, Repr

/-- The seat that acts first: the one after the big blind in the list of seats, or the first one
when nobody sits on the big blind. -/
def RoundSetup.firstToActSeat (s : RoundSetup) : Option Int :=
  let activeSeats := s.players.map (·.seatNumber)
  let firstToActIdx :=
    if s.bigBlindSeat ∈ activeSeats then
      (activeSeats.idxOf s.bigBlindSeat + 1) % activeSeats.length
    else 0
  activeSeats[firstToActIdx]?

/-- The player row created for a posted player. -/
def PostedPlayer.toRoundPlayer (pp : PostedPlayer) : RoundPlayer :=
  { playerId := pp.playerId
    seatNumber := pp.seatNumber
    stackRemaining := pp.stackRemaining
    committedThisStreet := pp.committedThisStreet
    committedThisHand := pp.committedThisHand
    hasFolded := false
    isAllIn := pp.isAllIn
    isActiveInHand := true }

/-- The ledger entry of a posted player. -/
def RoundSetup.postingEntry (s : RoundSetup) (entryId : String) (pp : PostedPlayer) :
    HandLedgerEntry :=
  let (entryType, detail) : LedgerEntryType × Option LedgerDetail :=
    if pp.seatNumber = s.smallBlindSeat then (.blindPosted, some { role := some "SB" })
    else if pp.seatNumber = s.bigBlindSeat then (.blindPosted, some { role := some "BB" })
    else (.antePosted, none)
  { entryId := entryId
    entryType := entryType
    playerId := some pp.playerId
    amount := some pp.committedThisHand
    detail := detail
    originalEntryId := none
    dealerId := none }

/-- What the players of a new round post. -/
def RoundSetup.posting (s : RoundSetup) : BlindPostingResult :=
  postBlindsAndAntes s.players s.smallBlindSeat s.bigBlindSeat s.smallBlind s.bigBlind s.ante

/-- The last posted player on the seat that acts first. -/
def RoundSetup.firstActingPlayerId (s : RoundSetup) : Option String :=
  (s.posting.players.reverse.find? fun pp => s.firstToActSeat = some pp.seatNumber).map (·.playerId)

/-- The rows of a new round. -/
def RoundSetup.tables (s : RoundSetup) (ids : Uuids) : RoundTables :=
  { round :=
      { roundId := s.roundId
        roundNumber := s.roundNumber
        dealerSeat := s.dealerSeat
        smallBlindSeat := s.smallBlindSeat
        bigBlindSeat := s.bigBlindSeat
        smallBlindAmount := s.smallBlind
        bigBlindAmount := s.bigBlind
        anteAmount := s.ante
        status := .active
        potAmount := s.posting.potTotal
        street := .preFlop
        actingPlayerId := s.firstActingPlayerId
        currentHighestBet := s.posting.currentHighestBet
        minimumRaiseAmount := s.bigBlind
        isActionClosed := false
        lastAggressorSeat := none
        stateVersion := 1 }
    players := s.posting.players.map (·.toRoundPlayer)
    bets := []
    payouts := []
    ledger := (s.posting.players.filter fun pp => pp.committedThisHand > 0).mapIdx fun i pp =>
      s.postingEntry (ids i) pp }

/-- Create the rows of a round; without any player there is no seat to act first. -/
def createRound (s : RoundSetup) (ids : Uuids) : Except Rejection RoundTables :=
  match s.firstToActSeat with
  | none => .error .indexError
  | some _ => (s.tables ids).flush

/-- Posting keeps everybody on his seat. -/
@[simp] lemma map_seatNumber_posting (s : RoundSetup) :
    s.posting.players.map (·.seatNumber) = s.players.map (·.seatNumber) := by
  simp only [RoundSetup.posting, postBlindsAndAntes, List.map_map]
  rfl

/-- The player on the seat that acts first has the turn in a new round. -/
lemma RoundSetup.firstActingPlayerId_eq {s : RoundSetup}
    (hseats : (s.players.map (·.seatNumber)).Nodup) {p : SeatPlayer} (hp : p ∈ s.players)
    (hseat : s.firstToActSeat = some p.seatNumber) : s.firstActingPlayerId = some p.playerId := by
  have hpred : (fun pp : PostedPlayer => decide (s.firstToActSeat = some pp.seatNumber)) =
      fun pp => decide (pp.seatNumber = p.seatNumber) := by
    funext pp
    simp [hseat, eq_comm]
  have hnd : (s.posting.players.reverse.map (·.seatNumber)).Nodup := by
    rw [List.map_reverse, List.nodup_reverse, map_seatNumber_posting]
    exact hseats
  have hfind := (find?_key_eq_some_iff (k := p.seatNumber) hnd).mpr
    ⟨List.mem_reverse.mpr (List.mem_map_of_mem (f := postPlayer s.smallBlindSeat s.bigBlindSeat
      s.smallBlind s.bigBlind s.ante) hp), rfl⟩
  unfold RoundSetup.firstActingPlayerId
  rw [hpred, hfind]
  rfl

/-- The entry of a posted player names him with what he has posted. -/
@[simp] lemma postingEntry_named (s : RoundSetup) (id : String) (pp : PostedPlayer) :
    (s.postingEntry id pp).playerId = some pp.playerId ∧
      (s.postingEntry id pp).amount = some pp.committedThisHand := by
  unfold RoundSetup.postingEntry
  split_ifs <;> exact ⟨rfl, rfl⟩

/-- The entry of a posted player records a blind or an ante. -/
lemma postingEntry_entryType (s : RoundSetup) (id : String) (pp : PostedPlayer) :
    (s.postingEntry id pp).entryType = .blindPosted ∨
      (s.postingEntry id pp).entryType = .antePosted := by
  unfold RoundSetup.postingEntry
  split_ifs
  · exact Or.inl rfl
  · exact Or.inl rfl
  · exact Or.inr rfl

/-- The ledger of a new round holds the entries of the players who have posted chips. -/
lemma exists_posting {s : RoundSetup} {ids : Uuids} {e : HandLedgerEntry}
    (he : e ∈ (s.tables ids).ledger) :
    ∃ id, ∃ pp ∈ s.posting.players, 0 < pp.committedThisHand ∧ e = s.postingEntry id pp := by
  obtain ⟨i, hi, rfl⟩ := List.mem_mapIdx.mp he
  have hmem := List.getElem_mem hi
  exact ⟨ids i, _, List.mem_of_mem_filter hmem, by simpa using List.of_mem_filter hmem, rfl⟩

/-- The ledger of a new round holds blinds and antes. -/
lemma entryType_of_mem_tables {s : RoundSetup} {ids : Uuids} {e : HandLedgerEntry}
    (he : e ∈ (s.tables ids).ledger) : e.entryType = .blindPosted ∨ e.entryType = .antePosted := by
  obtain ⟨id, pp, -, -, rfl⟩ := exists_posting he
  exact postingEntry_entryType s id pp

/-- The values of a round whose players are dealt in properly: at least two players with chips, on
ascending seats, under distinct nonempty identifiers, and no negative blind. -/
structure Deal extends RoundSetup where
  /-- At least two players are dealt in. -/
  two_le : 2 ≤ players.length
  /-- The seats ascend. -/
  seats_lt : players.Pairwise fun p q => p.seatNumber < q.seatNumber
  /-- The players are distinct. -/
  ids_nodup : (players.map (·.playerId)).Nodup
  /-- Every player has an identifier. -/
  ids_ne : ∀ p ∈ players, p.playerId ≠ ""
  /-- Every player has chips. -/
  stack_pos : ∀ p ∈ players, 0 < p.stack
  /-- The small blind is not negative. -/
  smallBlind_nonneg : 0 ≤ smallBlind
  /-- The big blind is not negative. -/
  bigBlind_nonneg : 0 ≤ bigBlind

/-- The seats of a deal are distinct. -/
lemma Deal.seats_nodup (d : Deal) : (d.players.map (·.seatNumber)).Nodup :=
  (List.pairwise_map.mpr d.seats_lt).imp ne_of_lt

/-! ## Advancing the street -/

/-- Write what the end of a street leads to. -/
def StreetAdvanceResult.write (result : StreetAdvanceResult) (r : RoundTables) : RoundTables :=
  match result.action with
  | .settleHand =>
    { r with
      round := { r.round with
        isActionClosed := true
        actingPlayerId := none
        stateVersion := r.round.version + 1 } }
  | .showdown =>
    { r with
      round := { r.round with
        street := .showdown
        isActionClosed := true
        actingPlayerId := none
        currentHighestBet := 0
        stateVersion := r.round.version + 1 }
      players := r.players.map fun rp => { rp with committedThisStreet := 0 } }
  | .nextStreet =>
    { r with
      round := { r.round with
        -- the result of a next street always names one
        street := result.nextStreet.getD r.round.street
        currentHighestBet := 0
        minimumRaiseAmount := r.round.bigBlindAmount
        actingPlayerId := result.actingPlayerId
        isActionClosed := false
        lastAggressorSeat := none
        stateVersion := r.round.version + 1 }
      players := r.players.map fun rp => { rp with committedThisStreet := 0 } }

/-- What the end of the current street of a round leads to. -/
def RoundTables.streetEnd (r : RoundTables) : StreetAdvanceResult :=
  evaluateStreetEnd r.round.street r.round.dealerSeat (r.players.map (·.playerSeat))

/-- Advance to the next street, the showdown or the settlement. -/
def advanceStreet (r : RoundTables) : Except Rejection (StreetAdvanceResult × RoundTables) := do
  require (r.round.status = .active)
    (.domain ⟨.roundNotActive, ErrorMessage.roundNotActive.value⟩)
  require (r.round.street ≠ .showdown)
    (.domain ⟨.alreadyAtShowdown, ErrorMessage.alreadyAtShowdown.value⟩)
  let r' ← (r.streetEnd.write r).flush
  return (r.streetEnd, r')

/-- What an accepted advance of the street does. -/
structure StreetAdvanced (r r' : RoundTables) : Prop where
  /-- The round is active. -/
  status : r.round.status = .active
  /-- It is not at the showdown yet. -/
  street : r.round.street ≠ .showdown
  /-- The constraints hold afterwards. -/
  constraints : r'.Constraints
  /-- The rows afterwards. -/
  after : r' = r.streetEnd.write r

/-- The specification of an advance of the street. -/
theorem advanceStreet_eq_ok_iff {r r' : RoundTables} {result : StreetAdvanceResult} :
    advanceStreet r = .ok (result, r') ↔ result = r.streetEnd ∧ StreetAdvanced r r' := by
  unfold advanceStreet
  simp only [bind_eq_ok_iff, require_eq_ok_iff, RoundTables.flush_eq_ok_iff]
  constructor
  · rintro ⟨-, hstatus, -, hstreet, r'', ⟨hcons, rfl⟩, hret⟩
    obtain ⟨rfl, rfl⟩ := Prod.mk.inj (Except.ok.inj hret)
    exact ⟨rfl, hstatus, hstreet, hcons, rfl⟩
  · rintro ⟨rfl, hstatus, hstreet, hcons, rfl⟩
    exact ⟨(), hstatus, (), hstreet, _, ⟨hcons, rfl⟩, rfl⟩

/-! ## Settling -/

/-- A request to resolve a hand, as the request schema admits it. -/
structure ResolveHandRequest where
  /-- The payouts of the pots. -/
  payouts : List PotPayout
  /-- There is at least one. -/
  payouts_ne : payouts ≠ []
deriving DecidableEq, Repr

/-- All chips a request hands out. -/
def ResolveHandRequest.totalPaid (data : ResolveHandRequest) : Int :=
  (data.payouts.map (·.winnerTotal)).sum

/-- The payout rows of one pot. -/
def PotPayout.awards (pot : PotPayout) : List RoundPayout :=
  pot.winners.map fun w => ⟨pot.potIndex, pot.potType, w.playerId, w.amount⟩

/-- The payout rows of a request, in order. -/
def ResolveHandRequest.awards (data : ResolveHandRequest) : List RoundPayout :=
  data.payouts.flatMap (·.awards)

/-- Hand the chips of a payout row to its winner. -/
def award (players : List RoundPlayer) (row : RoundPayout) : List RoundPlayer :=
  updateFirst (·.playerId) row.playerId
    (fun rp => { rp with stackRemaining := rp.stackRemaining + row.amount }) players

/-- The ledger entry of a payout row. -/
def RoundPayout.entry (row : RoundPayout) (entryId : String) : HandLedgerEntry :=
  { entryId := entryId
    entryType := .payoutAwarded
    playerId := some row.playerId
    amount := some row.amount
    detail := some { potIndex := some row.potIndex, potType := some row.potType }
    originalEntryId := none
    dealerId := none }

/-- The ledger entry of a completed round. -/
def roundCompletedEntry (potAmount : Int) (entryId : String) : HandLedgerEntry :=
  { entryId := entryId
    entryType := .roundCompleted
    playerId := none
    amount := some potAmount
    detail := none
    originalEntryId := none
    dealerId := none }

/-- The rows after a settlement. -/
def ResolveHandRequest.write (data : ResolveHandRequest) (r : RoundTables) (ids : Uuids) :
    RoundTables :=
  { r with
    round := { r.round with
      status := .completed
      street := .showdown
      actingPlayerId := none
      isActionClosed := true
      stateVersion := r.round.version + 1 }
    players := data.awards.foldl award r.players
    payouts := r.payouts ++ data.awards
    ledger := r.ledger ++ (data.awards.mapIdx fun i row => row.entry (ids i)) ++
      [roundCompletedEntry r.round.potAmount (ids data.awards.length)] }

/-- Settle a round: the checks of `resolve_hand` and what it writes to the round. -/
def settleRound (r : RoundTables) (data : ResolveHandRequest) (ids : Uuids) :
    Except Rejection RoundTables := do
  require (r.round.status = .active)
    (.domain ⟨.roundNotActive, ErrorMessage.roundNotActive.value⟩)
  require (data.payouts ≠ []) (.domain ⟨.payoutEmpty, ErrorMessage.payoutEmpty.value⟩)
  require (data.totalPaid ≤ r.round.potAmount)
    (.domain ⟨.payoutExceedsPot, ErrorMessage.payoutTotalExceedsPot.value⟩)
  checkAll
    (fun pot => require (pot.winnerTotal = pot.amount)
      (.domain ⟨.payoutMismatch, "Pot " ++ toString pot.potIndex ++ " winners total " ++
        toString pot.winnerTotal ++ " != pot amount " ++ toString pot.amount⟩))
    data.payouts
  let _ ← liftDomain (validatePayoutsAgainstSidePots r.players data.payouts)
  (data.write r ids).flush

/-- What an accepted settlement has passed, and what it does. -/
structure Settled (r : RoundTables) (data : ResolveHandRequest) (ids : Uuids) (r' : RoundTables) :
    Prop where
  /-- The round is active. -/
  status : r.round.status = .active
  /-- No more than the pot is paid. -/
  total_le : data.totalPaid ≤ r.round.potAmount
  /-- The winners of each pot get what is said of the pot. -/
  winners : ∀ pot ∈ data.payouts, pot.winnerTotal = pot.amount
  /-- Every payout fits the computed pot it names, where there are computed pots. -/
  fits : computedPots r.players = [] ∨ ∀ submitted ∈ data.payouts, ∃ pot,
    (computedPots r.players).find? (fun p => p.potIndex = submitted.potIndex) = some pot ∧
      submitted.Fits pot
  /-- The constraints hold afterwards. -/
  constraints : r'.Constraints
  /-- The rows afterwards. -/
  after : r' = data.write r ids

/-- The specification of a settlement. -/
theorem settleRound_eq_ok_iff {r r' : RoundTables} {data : ResolveHandRequest} {ids : Uuids} :
    settleRound r data ids = .ok r' ↔ Settled r data ids r' := by
  unfold settleRound
  simp only [bind_eq_ok_iff, require_eq_ok_iff, checkAll_eq_ok_iff, liftDomain_eq_ok_iff,
    validatePayoutsAgainstSidePots_eq_ok_iff, RoundTables.flush_eq_ok_iff]
  constructor
  · rintro ⟨-, hstatus, -, -, -, htotal, -, hwinners, pots, ⟨-, hfits⟩, hcons, rfl⟩
    exact ⟨hstatus, htotal, hwinners, hfits, hcons, rfl⟩
  · rintro ⟨hstatus, htotal, hwinners, hfits, hcons, rfl⟩
    exact ⟨(), hstatus, (), data.payouts_ne, (), htotal, (), hwinners, _, ⟨rfl, hfits⟩, hcons, rfl⟩

/-- Handing out payouts keeps whatever of a player does not depend on his stack. -/
lemma map_foldl_award {β : Type} {awards : List RoundPayout} {players : List RoundPlayer}
    {f : RoundPlayer → β} (hf : ∀ (rp : RoundPlayer) x, f { rp with stackRemaining := x } = f rp) :
    (awards.foldl award players).map f = players.map f := by
  induction awards generalizing players with
  | nil => rfl
  | cons row awards ih =>
    rw [List.foldl_cons, ih, award]
    exact map_updateFirst_of_eq _ fun rp => hf rp _

/-- A request to declare the winner of a hand, as the request schema admits it. -/
@[ext]
structure DeclareWinner where
  /-- The winner. -/
  winnerPlayerId : String
  /-- The identifier is not empty. -/
  winnerPlayerId_ne : winnerPlayerId ≠ ""
deriving Repr

instance : DecidableEq DeclareWinner := fun _ _ => decidable_of_iff _ DeclareWinner.ext_iff.symm

/-- What is submitted for a declared winner. -/
def DeclareWinner.payout (data : DeclareWinner) (r : RoundTables)
    (h : 1 ≤ r.round.potAmount) : PotPayout :=
  { potIndex := 0
    potType := "main"
    amount := r.round.potAmount
    winners := [⟨data.winnerPlayerId, r.round.potAmount, data.winnerPlayerId_ne, h⟩]
    potIndex_nonneg := le_rfl
    amount_pos := h
    winners_ne := List.cons_ne_nil _ _ }

/-- The settlement that hands the whole pot to the declared winner; the schema refuses it for an
empty pot. -/
def DeclareWinner.request (data : DeclareWinner) (r : RoundTables) :
    Except Rejection ResolveHandRequest :=
  if h : 1 ≤ r.round.potAmount then
    .ok { payouts := [data.payout r h], payouts_ne := List.cons_ne_nil _ _ }
  else .error .validationError

/-- Settle a round by declaring its winner. -/
def declareWinnerOnRound (r : RoundTables) (data : DeclareWinner) (ids : Uuids) :
    Except Rejection RoundTables := do
  let request ← data.request r
  settleRound r request ids

end PokerRoom
