import Mathlib.Data.List.Basic

/-!
# Constants and errors of the game service

The enumerations of `domain/constants.py`, the texts of its error messages, and the exceptions of
`domain/exceptions.py`.  An action arrives as a free string; `BetAction.ofValue?` is the comparison
with the six legal words and `upper` the case folding the service applies before it.
-/

namespace PokerRoom

/-! ## Enumerations -/

/-- Status of a game. -/
inductive GameStatus
  | waiting | active | paused | finished
deriving DecidableEq, Repr

/-- Status of a round. -/
inductive RoundStatus
  | active | completed
deriving DecidableEq, Repr

/-- Betting streets of a round, ended by the showdown. -/
inductive Street
  | preFlop | flop | turn | river | showdown
deriving DecidableEq, Repr

/-- The word stored for a street. -/
def Street.value : Street → String
  | .preFlop => "PRE_FLOP"
  | .flop => "FLOP"
  | .turn => "TURN"
  | .river => "RIVER"
  | .showdown => "SHOWDOWN"

/-- What the end of a street leads to. -/
inductive StreetAdvanceAction
  | nextStreet | settleHand | showdown
deriving DecidableEq, Repr

/-- The words of the kinds of hand ledger entries. -/
def ledgerEntryTypeWords : List String :=
  ["BLIND_POSTED", "ANTE_POSTED", "BET_PLACED", "STREET_DEALT", "PAYOUT_AWARDED", "ROUND_COMPLETED",
    "ACTION_REVERSED", "STACK_ADJUSTED", "HAND_REOPENED", "PAYOUT_CORRECTED"]

/-- Kinds of hand ledger entries.  The column holds a word, so a row may also be of no kind. -/
inductive LedgerEntryType
  | blindPosted | antePosted | betPlaced | streetDealt | payoutAwarded | roundCompleted
  | actionReversed | stackAdjusted | handReopened | payoutCorrected
  | unknown (word : String) (h : word ∉ ledgerEntryTypeWords)
deriving DecidableEq, Repr

/-- The correction entries, `CORRECTION_ENTRY_TYPES` of the source. -/
def LedgerEntryType.isCorrection : LedgerEntryType → Bool
  | .actionReversed | .stackAdjusted | .handReopened | .payoutCorrected => true
  | _ => false

/-- The six actions a player can take. -/
inductive BetAction
  | fold | check | call | bet | raise | allIn
deriving DecidableEq, Repr

/-- The word stored and sent for an action. -/
def BetAction.value : BetAction → String
  | .fold => "FOLD"
  | .check => "CHECK"
  | .call => "CALL"
  | .bet => "BET"
  | .raise => "RAISE"
  | .allIn => "ALL_IN"

/-- The action a word stands for, if it is one of `VALID_BET_ACTIONS`. -/
def BetAction.ofValue? (s : String) : Option BetAction :=
  [BetAction.fold, .check, .call, .bet, .raise, .allIn].find? fun a => a.value = s

/-- Upper-case form of one character.  Every character whose upper case is a word over
`A`–`Z` and `_` is mapped to it; other characters only have to stay outside that alphabet. -/
def upperChar (c : Char) : List Char :=
  if c = 'ı' then ['I']
  else if c = 'ſ' then ['S']
  else if c = 'ß' then ['S', 'S']
  else if c = 'ﬀ' then ['F', 'F']
  else if c = 'ﬁ' then ['F', 'I']
  else if c = 'ﬂ' then ['F', 'L']
  else if c = 'ﬃ' then ['F', 'F', 'I']
  else if c = 'ﬄ' then ['F', 'F', 'L']
  else if c = 'ﬅ' then ['S', 'T']
  else if c = 'ﬆ' then ['S', 'T']
  else [c.toUpper]

/-- Upper-case form of a string, exact wherever the result is a word over `A`–`Z` and `_`. -/
def upper (s : String) : String := String.ofList (s.toList.flatMap upperChar)

/-! ## Errors -/

/-- Texts of the error messages. -/
inductive ErrorMessage
  | gameNotFound | roomNotFound | roundNotFound | gameNotActive | gameNotPaused | roundNotActive
  | gameAlreadyExists | noBlindLevels | activePlayersRequired | maxBlindLevelReached
  | payoutTotalExceedsPot | payoutEmpty
  | alreadyAtShowdown | ledgerEntryNotFound | entryAlreadyReversed | cannotReverseCorrection
  | roundNotCompleted | roundAlreadyActive | roundStartNotAllowed | invalidAction
  | playerAlreadyFolded | raiseAmountTooLow | actionClosed | notYourTurn | playerNotInHand
  | playerAllIn | checkNotAllowed | callNotAllowed | betNotAllowed | raiseNotAllowed
  | raiseBelowMinimum | amountExceedsStack | betAmountTooLow | betBelowMinimum | raiseExceedsStack
deriving DecidableEq, Repr

/-- The text of an error message. -/
def ErrorMessage.value : ErrorMessage → String
  | .gameNotFound => "Game not found"
  | .roomNotFound => "Room not found"
  | .roundNotFound => "Round not found"
  | .gameNotActive => "Game is not in ACTIVE status"
  | .gameNotPaused => "Game is not paused"
  | .roundNotActive => "Round is not in ACTIVE status"
  | .gameAlreadyExists => "An active game already exists for this room"
  | .noBlindLevels => "No blind levels configured for this room"
  | .activePlayersRequired => "At least 2 active players are required"
  | .maxBlindLevelReached => "Already at the maximum blind level"
  | .payoutTotalExceedsPot => "Total payouts exceed pot amount"
  | .payoutEmpty => "At least one pot payout is required"
  | .alreadyAtShowdown => "Cannot advance street: round is already at showdown"
  | .ledgerEntryNotFound => "Ledger entry not found"
  | .entryAlreadyReversed => "This ledger entry has already been reversed"
  | .cannotReverseCorrection => "Cannot reverse a correction entry"
  | .roundNotCompleted => "Round must be completed before applying this correction"
  | .roundAlreadyActive => "Round is already active"
  | .roundStartNotAllowed =>
    "Round can only be started by the table controller or the player on the current button seat"
  | .invalidAction => "Invalid bet action"
  | .playerAlreadyFolded => "Player has already folded this round"
  | .raiseAmountTooLow => "Raise amount must be greater than 0"
  | .actionClosed => "Betting action is closed for this street"
  | .notYourTurn => "It is not your turn to act"
  | .playerNotInHand => "Player is not in this hand"
  | .playerAllIn => "Player is already all-in"
  | .checkNotAllowed => "Cannot check when there is a bet to call"
  | .callNotAllowed => "Nothing to call - use check instead"
  | .betNotAllowed => "Cannot bet - there is already a bet on this street; use raise"
  | .raiseNotAllowed => "Cannot raise - no previous bet to raise; use bet"
  | .raiseBelowMinimum => "Raise amount is below the minimum raise"
  | .amountExceedsStack => "Bet amount exceeds remaining stack"
  | .betAmountTooLow => "Bet amount must be greater than 0"
  | .betBelowMinimum => "Bet amount is below the minimum"
  | .raiseExceedsStack => "Raise amount exceeds remaining stack"

/-- Classes of the domain exceptions. -/
inductive DomainException
  | roundNotActive | actionClosed | roundNotCompleted | alreadyAtShowdown | playerNotInHand
  | playerAlreadyFolded | playerAlreadyAllIn | notYourTurn | illegalAction | checkNotAllowed
  | callNotAllowed | betNotAllowed | raiseNotAllowed | raiseBelowMinimum | amountExceedsStack
  | invalidAmount | gameNotActive | gameAlreadyExists | roundStartNotAllowed | notFound
  | ledgerEntryNotFound | entryAlreadyReversed | cannotReverseCorrection | payoutExceedsPot
  | payoutEmpty | payoutMismatch | staleStateError | idempotencyConflict
deriving DecidableEq, Repr

/-- A domain exception: its class and its message. -/
structure DomainError where
  /-- Class of the exception. -/
  exception : DomainException
  /-- Message it carries. -/
  message : String
deriving DecidableEq, Repr

/-- Why a request was rejected.  Besides the domain exceptions these are a violated database
constraint, a value the request schema refuses, an index out of range, several rows where one is
expected, an error of the room service, an HTTP exception, and a failure of the database. -/
inductive Rejection
  | domain (e : DomainError)
  | integrityError
  | validationError
  | indexError
  | multipleResultsFound
  | roomService
  | http (statusCode : ℕ) (detail : String)
  | operationalError
deriving DecidableEq, Repr

/-- Raise a domain exception with one of the fixed messages. -/
def raise {α : Type} (e : DomainException) (m : ErrorMessage) : Except DomainError α :=
  .error ⟨e, m.value⟩

@[simp] lemma raise_ne_ok {α : Type} {e : DomainException} {m : ErrorMessage} {a : α} :
    raise e m ≠ .ok a := by
  simp [raise]

end PokerRoom
