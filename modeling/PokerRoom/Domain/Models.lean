import PokerRoom.Domain.Constants
import Mathlib.Data.List.Nodup

/-!
# Stored rows

The rows of `domain/models.py` that the commands read and write.  A `RoundTables` gathers what is
stored for one round; `RoundTables.Constraints` are the check and uniqueness constraints the
database declares on these rows, and `RoundTables.flush` is the write that enforces them.

Time stamps, the engine version and foreign keys are left out: no modelled command reads them.
-/

namespace PokerRoom

/-! ## Rows of one round -/

/-- One player of a round.  The engine's `PlayerState` is built field by field from the stored
row, so both are this structure. -/
structure PlayerState where
  /-- Identifier of the player. -/
  playerId : String
  /-- Seat the player occupies. -/
  seatNumber : Int
  /-- Chips in front of the player. -/
  stackRemaining : Int
  /-- Chips committed on the current street. -/
  committedThisStreet : Int
  /-- Chips committed in the whole hand. -/
  committedThisHand : Int
  /-- The player has folded. -/
  hasFolded : Bool
  /-- The player is all-in. -/
  isAllIn : Bool
  /-- The player takes part in the hand. -/
  isActiveInHand : Bool
deriving DecidableEq, Repr

/-- A stored row of the table of round players. -/
abbrev RoundPlayer := PlayerState

/-- A stored round. -/
structure Round where
  /-- Identifier of the round. -/
  roundId : String
  /-- Number of the round within its game. -/
  roundNumber : Int
  /-- Seat of the button. -/
  dealerSeat : Int
  /-- Seat that posts the small blind. -/
  smallBlindSeat : Int
  /-- Seat that posts the big blind. -/
  bigBlindSeat : Int
  /-- The small blind. -/
  smallBlindAmount : Int
  /-- The big blind. -/
  bigBlindAmount : Int
  /-- The ante. -/
  anteAmount : Int
  /-- Status of the round. -/
  status : RoundStatus
  /-- Chips in the pot. -/
  potAmount : Int
  /-- The current street. -/
  street : Street
  /-- The player whose turn it is, if any. -/
  actingPlayerId : Option String
  /-- The bet to match on this street. -/
  currentHighestBet : Int
  /-- The smallest allowed raise increment. -/
  minimumRaiseAmount : Int
  /-- The betting on this street is over. -/
  isActionClosed : Bool
  /-- Seat of the last aggressor on this street, if any. -/
  lastAggressorSeat : Option Int
  /-- Version counter of the round. -/
  stateVersion : Int
deriving DecidableEq, Repr

/-- A recorded bet. -/
structure Bet where
  /-- Identifier of the bet. -/
  betId : String
  /-- The player who acted. -/
  playerId : String
  /-- The effective action. -/
  action : BetAction
  /-- The chips it moved. -/
  amount : Int
  /-- Client key that makes retries idempotent. -/
  idempotencyKey : Option String
deriving DecidableEq, Repr

/-- A recorded payout. -/
structure RoundPayout where
  /-- Index of the pot. -/
  potIndex : Int
  /-- Type of the pot. -/
  potType : String
  /-- The winner. -/
  playerId : String
  /-- The chips awarded. -/
  amount : Int
deriving DecidableEq, Repr

/-- The JSON detail of a ledger entry: the keys the commands write, each present or absent. -/
structure LedgerDetail where
  /-- Which blind was posted. -/
  role : Option String := none
  /-- The effective action of a bet. -/
  action : Option BetAction := none
  /-- The recorded bet. -/
  betId : Option String := none
  /-- Index of the pot of a payout. -/
  potIndex : Option Int := none
  /-- Type of the pot of a payout. -/
  potType : Option String := none
  /-- Stated reason of a correction. -/
  reason : Option String := none
  /-- Player a corrected payout is taken from. -/
  oldPlayerId : Option String := none
  /-- Chips a corrected payout takes back. -/
  oldAmount : Option Int := none
  /-- Street that was dealt. -/
  street : Option String := none
deriving DecidableEq, Repr

/-- A ledger row as the replay reads it. -/
structure LedgerRow where
  /-- Identifier of the entry. -/
  entryId : String
  /-- Kind of the entry. -/
  entryType : LedgerEntryType
  /-- Player the entry is about, if any. -/
  playerId : Option String
  /-- Chips the entry is about, if any. -/
  amount : Option Int
  /-- Further data. -/
  detail : Option LedgerDetail
  /-- The entry a reversal refers to. -/
  originalEntryId : Option String
deriving DecidableEq, Repr

/-- A stored ledger entry. -/
structure HandLedgerEntry extends LedgerRow where
  /-- The dealer who made a correction. -/
  dealerId : Option String
deriving DecidableEq, Repr

/-- Everything stored for one round, the players in ascending seat order and the bets, payouts and
ledger entries in the order of their insertion. -/
structure RoundTables where
  /-- The round. -/
  round : Round
  /-- Its players. -/
  players : List RoundPlayer
  /-- Its bets. -/
  bets : List Bet
  /-- Its payouts. -/
  payouts : List RoundPayout
  /-- Its ledger. -/
  ledger : List HandLedgerEntry
deriving DecidableEq, Repr

/-! ## Constraints of the database -/

/-- Check constraints on the row of a round player. -/
def PlayerState.NonNegative (p : RoundPlayer) : Prop :=
  0 ≤ p.stackRemaining ∧ 0 ≤ p.committedThisStreet ∧ 0 ≤ p.committedThisHand

instance : DecidablePred PlayerState.NonNegative := fun p =>
  inferInstanceAs (Decidable (0 ≤ p.stackRemaining ∧ _))

/-- Check constraints on the row of a round. -/
def Round.NonNegative (g : Round) : Prop :=
  0 ≤ g.potAmount ∧ 0 ≤ g.currentHighestBet ∧ 0 ≤ g.minimumRaiseAmount ∧ 1 ≤ g.stateVersion

instance : DecidablePred Round.NonNegative := fun g =>
  inferInstanceAs (Decidable (0 ≤ g.potAmount ∧ _))

/-- The check and uniqueness constraints on the rows of one round.  A missing idempotency key is
never a duplicate. -/
structure RoundTables.Constraints (r : RoundTables) : Prop where
  /-- Counters of the round. -/
  round : r.round.NonNegative
  /-- Chips of the players. -/
  players : ∀ p ∈ r.players, p.NonNegative
  /-- Players are distinct. -/
  playerIds : (r.players.map (·.playerId)).Nodup
  /-- Seats are distinct. -/
  seatNumbers : (r.players.map (·.seatNumber)).Nodup
  /-- Amounts of the bets. -/
  bets : ∀ b ∈ r.bets, 0 ≤ b.amount
  /-- Bets are distinct. -/
  betIds : (r.bets.map (·.betId)).Nodup
  /-- An idempotency key is used once. -/
  idempotencyKeys : (r.bets.filterMap (·.idempotencyKey)).Nodup
  /-- Amounts of the payouts. -/
  payouts : ∀ p ∈ r.payouts, 0 ≤ p.amount
  /-- Ledger entries are distinct. -/
  entryIds : (r.ledger.map (·.entryId)).Nodup

instance : DecidablePred RoundTables.Constraints := fun r =>
  decidable_of_iff
    (r.round.NonNegative ∧ (∀ p ∈ r.players, p.NonNegative) ∧
      (r.players.map (·.playerId)).Nodup ∧ (r.players.map (·.seatNumber)).Nodup ∧
      (∀ b ∈ r.bets, 0 ≤ b.amount) ∧ (r.bets.map (·.betId)).Nodup ∧
      (r.bets.filterMap (·.idempotencyKey)).Nodup ∧ (∀ p ∈ r.payouts, 0 ≤ p.amount) ∧
      (r.ledger.map (·.entryId)).Nodup)
    ⟨fun ⟨h₁, h₂, h₃, h₄, h₅, h₆, h₇, h₈, h₉⟩ => ⟨h₁, h₂, h₃, h₄, h₅, h₆, h₇, h₈, h₉⟩,
      fun ⟨h₁, h₂, h₃, h₄, h₅, h₆, h₇, h₈, h₉⟩ => ⟨h₁, h₂, h₃, h₄, h₅, h₆, h₇, h₈, h₉⟩⟩

/-- Write the rows of a round; the transaction is rolled back when they violate a constraint. -/
def RoundTables.flush (r : RoundTables) : Except Rejection RoundTables :=
  if r.Constraints then .ok r else .error .integrityError

/-- A flush that succeeds writes the rows it was given, and they satisfy the constraints. -/
lemma RoundTables.flush_eq_ok_iff {r r' : RoundTables} :
    r.flush = .ok r' ↔ r.Constraints ∧ r' = r := by
  unfold RoundTables.flush
  split
  · next h => simp [h, eq_comm]
  · next h => simp [h]

/-- The version counter, with the default the service reads for an unset one. -/
def Round.version (g : Round) : Int := if g.stateVersion = 0 then 1 else g.stateVersion

/-- A version that satisfies the constraints is its own value. -/
lemma Round.version_eq {g : Round} (h : 1 ≤ g.stateVersion) : g.version = g.stateVersion :=
  if_neg (by omega)

/-- The value of an optional identifier, unless it is missing or empty. -/
def truthy (s : Option String) : Option String := s.filter (· ≠ "")

/-- A nonempty identifier is its own value. -/
lemma truthy_some {s : String} (hs : s ≠ "") : truthy (some s) = some s := by
  simp [truthy, Option.filter, hs]

/-! ## Games -/

/-- A stored game. -/
structure Game where
  /-- Identifier of the game. -/
  gameId : String
  /-- The room it is played in. -/
  roomId : String
  /-- Status of the game. -/
  status : GameStatus
  /-- Number of the current blind level. -/
  currentBlindLevel : Int
  /-- When the level started, in microseconds. -/
  levelStartedAt : Int
  /-- Seat of the button. -/
  currentDealerSeat : Int
  /-- Seat that posts the small blind. -/
  currentSmallBlindSeat : Int
  /-- Seat that posts the big blind. -/
  currentBigBlindSeat : Int
  /-- Hands played so far. -/
  handsPlayed : Int
  /-- Hands played on the current level. -/
  handsAtCurrentLevel : Int
deriving DecidableEq, Repr

/-- Identifiers a command draws, in the order in which it draws them. -/
abbrev Uuids := ℕ → String

end PokerRoom
