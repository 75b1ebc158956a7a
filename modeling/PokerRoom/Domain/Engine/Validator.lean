import PokerRoom.Domain.Models
import PokerRoom.Foundation.KeyedTable
import Mathlib.Algebra.Order.Group.Int

/-!
# Validation of a bet

`domain/engine/validator.py`: the gates an action has to pass and its normalisation to an effective
action with the chips it moves.  The rules profile the source passes along is never read there and
is left out.

The specification `validateBet_eq_ok_iff` separates the gates (`Permitted`) from what the acting
player may do (`BetOutcome`).
-/

namespace PokerRoom

/-! ## Definitions -/

/-- What the validator sees of a hand. -/
structure HandContext where
  /-- Identifier of the round. -/
  roundId : String
  /-- Status of the round. -/
  status : RoundStatus
  /-- The current street. -/
  street : Street
  /-- The player whose turn it is, if any. -/
  actingPlayerId : Option String
  /-- The bet to match. -/
  currentHighestBet : Int
  /-- The smallest allowed raise increment. -/
  minimumRaiseAmount : Int
  /-- The betting on this street is over. -/
  isActionClosed : Bool
  /-- The players of the round. -/
  players : List PlayerState

/-- The first player with the identifier. -/
def HandContext.getPlayer (ctx : HandContext) (playerId : String) : Option PlayerState :=
  ctx.players.find? fun p => p.playerId = playerId

/-- An action the validator accepted. -/
structure ValidatedAction where
  /-- The effective action. -/
  action : BetAction
  /-- The chips it moves. -/
  amount : Int
deriving DecidableEq, Repr

/-- What a player owes to stay in the hand. -/
def callAmount (ctx : HandContext) (player : PlayerState) : Int :=
  max 0 (ctx.currentHighestBet - player.committedThisStreet)

/-- The action rules, for a player who passed the gates. -/
def validateAction (ctx : HandContext) (player : PlayerState) (action : String) (amount : Int) :
    Except DomainError ValidatedAction :=
  let stack := player.stackRemaining
  match BetAction.ofValue? (upper action) with
  | some .fold => .ok ⟨.fold, 0⟩
  | some .check =>
    if callAmount ctx player > 0 then raise .checkNotAllowed .checkNotAllowed
    else .ok ⟨.check, 0⟩
  | some .call =>
    if callAmount ctx player = 0 then raise .callNotAllowed .callNotAllowed
    else
      let effective := min (callAmount ctx player) stack
      if effective = stack then .ok ⟨.allIn, effective⟩ else .ok ⟨.call, effective⟩
  | some .bet =>
    if ctx.currentHighestBet > 0 then raise .betNotAllowed .betNotAllowed
    else if amount ≤ 0 then raise .invalidAmount .betAmountTooLow
    else if amount > stack then raise .amountExceedsStack .amountExceedsStack
    else if amount < ctx.minimumRaiseAmount ∧ amount ≠ stack then
      raise .raiseBelowMinimum .betBelowMinimum
    else if amount = stack then .ok ⟨.allIn, amount⟩
    else .ok ⟨.bet, amount⟩
  | some .raise =>
    if ctx.currentHighestBet = 0 then raise .raiseNotAllowed .raiseNotAllowed
    else if amount ≤ 0 then raise .invalidAmount .raiseAmountTooLow
    else
      let totalToCommit := amount
      let additionalChips := totalToCommit - player.committedThisStreet
      if additionalChips ≤ 0 then raise .invalidAmount .raiseAmountTooLow
      else if additionalChips > stack then raise .amountExceedsStack .raiseExceedsStack
      else
        let raiseIncrement := totalToCommit - ctx.currentHighestBet
        if raiseIncrement < ctx.minimumRaiseAmount ∧ additionalChips ≠ stack then
          raise .raiseBelowMinimum .raiseBelowMinimum
        else if additionalChips = stack then .ok ⟨.allIn, additionalChips⟩
        else .ok ⟨.raise, additionalChips⟩
  | some .allIn =>
    if stack ≤ 0 then raise .playerAlreadyAllIn .playerAllIn else .ok ⟨.allIn, stack⟩
  | none => .error ⟨.illegalAction, ErrorMessage.invalidAction.value ++ ": " ++ action⟩

/-- Validate the action a player requests. -/
def validateBet (ctx : HandContext) (playerId : String) (action : String) (amount : Int) :
    Except DomainError ValidatedAction :=
  if ctx.status ≠ .active then raise .roundNotActive .roundNotActive
  else if ctx.isActionClosed then raise .actionClosed .actionClosed
  else match ctx.getPlayer playerId with
    | none => raise .playerNotInHand .playerNotInHand
    | some player =>
      if ¬ player.isActiveInHand then raise .playerNotInHand .playerNotInHand
      else if player.hasFolded then raise .playerAlreadyFolded .playerAlreadyFolded
      else if player.isAllIn then raise .playerAlreadyAllIn .playerAllIn
      else if ctx.actingPlayerId ≠ none ∧ ctx.actingPlayerId ≠ some playerId then
        raise .notYourTurn .notYourTurn
      else validateAction ctx player action amount

/-! ## Specification -/

/-- The player can take part in the betting. -/
def PlayerState.CanAct (p : PlayerState) : Prop :=
  p.isActiveInHand = true ∧ p.hasFolded = false ∧ p.isAllIn = false

instance : DecidablePred PlayerState.CanAct := fun p =>
  inferInstanceAs (Decidable (p.isActiveInHand = true ∧ _))

/-- The gates: the betting is open, the player is in it, and it is his turn if it is anybody's. -/
structure Permitted (ctx : HandContext) (playerId : String) (p : PlayerState) : Prop where
  /-- The round is active. -/
  status : ctx.status = .active
  /-- The betting is open. -/
  open_ : ctx.isActionClosed = false
  /-- The identifier names the player. -/
  found : ctx.getPlayer playerId = some p
  /-- The player can act. -/
  canAct : p.CanAct
  /-- No other player has the turn. -/
  turn : ctx.actingPlayerId = none ∨ ctx.actingPlayerId = some playerId

/-- What a player who passed the gates may do: the requested word and amount, and the effective
action with the chips it moves. -/
inductive BetOutcome (ctx : HandContext) (p : PlayerState) :
    BetAction → Int → ValidatedAction → Prop
  | fold (amount : Int) : BetOutcome ctx p .fold amount ⟨.fold, 0⟩
  | check (amount : Int) (h : ctx.currentHighestBet ≤ p.committedThisStreet) :
    BetOutcome ctx p .check amount ⟨.check, 0⟩
  | call (amount : Int) (howes : p.committedThisStreet < ctx.currentHighestBet)
      (hlt : ctx.currentHighestBet - p.committedThisStreet < p.stackRemaining) :
    BetOutcome ctx p .call amount ⟨.call, ctx.currentHighestBet - p.committedThisStreet⟩
  | callAllIn (amount : Int) (howes : p.committedThisStreet < ctx.currentHighestBet)
      (hle : p.stackRemaining ≤ ctx.currentHighestBet - p.committedThisStreet) :
    BetOutcome ctx p .call amount ⟨.allIn, p.stackRemaining⟩
  | bet (amount : Int) (hopen : ctx.currentHighestBet ≤ 0) (hpos : 0 < amount)
      (hlt : amount < p.stackRemaining) (hmin : ctx.minimumRaiseAmount ≤ amount) :
    BetOutcome ctx p .bet amount ⟨.bet, amount⟩
  | betAllIn (amount : Int) (hopen : ctx.currentHighestBet ≤ 0) (hpos : 0 < amount)
      (hall : amount = p.stackRemaining) :
    BetOutcome ctx p .bet amount ⟨.allIn, amount⟩
  | raise (amount : Int) (hbet : ctx.currentHighestBet ≠ 0) (hpos : 0 < amount)
      (hadd : p.committedThisStreet < amount)
      (hlt : amount - p.committedThisStreet < p.stackRemaining)
      (hmin : ctx.minimumRaiseAmount ≤ amount - ctx.currentHighestBet) :
    BetOutcome ctx p .raise amount ⟨.raise, amount - p.committedThisStreet⟩
  | raiseAllIn (amount : Int) (hbet : ctx.currentHighestBet ≠ 0) (hpos : 0 < amount)
      (hadd : p.committedThisStreet < amount)
      (hall : amount - p.committedThisStreet = p.stackRemaining) :
    BetOutcome ctx p .raise amount ⟨.allIn, amount - p.committedThisStreet⟩
  | allIn (amount : Int) (hpos : 0 < p.stackRemaining) :
    BetOutcome ctx p .allIn amount ⟨.allIn, p.stackRemaining⟩

variable {ctx : HandContext} {p : PlayerState} {action playerId : String} {amount : Int}
  {v : ValidatedAction} {a : BetAction}

/-- What the action rules accept is one of the listed outcomes of the requested word. -/
lemma betOutcome_of_validateAction (ha : BetAction.ofValue? (upper action) = some a)
    (h : validateAction ctx p action amount = .ok v) : BetOutcome ctx p a amount v := by
  unfold validateAction callAmount at h
  rw [ha] at h
  cases a with
  | fold =>
    simp only [Except.ok.injEq] at h
    exact h ▸ BetOutcome.fold amount
  | check =>
    simp only at h
    split at h
    · simp at h
    · simp only [Except.ok.injEq] at h
      exact h ▸ BetOutcome.check amount (by omega)
  | call =>
    simp only at h
    split at h
    · simp at h
    · split at h
      · next hall =>
        simp only [Except.ok.injEq] at h
        rw [hall] at h
        exact h ▸ BetOutcome.callAllIn amount (by omega) (by omega)
      · next hnot =>
        simp only [Except.ok.injEq] at h
        have hmin : min (max 0 (ctx.currentHighestBet - p.committedThisStreet))
            p.stackRemaining = ctx.currentHighestBet - p.committedThisStreet := by omega
        rw [hmin] at h
        exact h ▸ BetOutcome.call amount (by omega) (by omega)
  | bet =>
    simp only at h
    split at h
    · simp at h
    split at h
    · simp at h
    split at h
    · simp at h
    split at h
    · simp at h
    split at h
    · simp only [Except.ok.injEq] at h
      exact h ▸ BetOutcome.betAllIn amount (by omega) (by omega) (by omega)
    · simp only [Except.ok.injEq] at h
      exact h ▸ BetOutcome.bet amount (by omega) (by omega) (by omega) (by omega)
  | raise =>
    simp only at h
    split at h
    · simp at h
    split at h
    · simp at h
    split at h
    · simp at h
    split at h
    · simp at h
    split at h
    · simp at h
    split at h
    · simp only [Except.ok.injEq] at h
      exact h ▸ BetOutcome.raiseAllIn amount (by omega) (by omega) (by omega) (by omega)
    · simp only [Except.ok.injEq] at h
      exact h ▸ BetOutcome.raise amount (by omega) (by omega) (by omega) (by omega) (by omega)
  | allIn =>
    simp only at h
    split at h
    · simp at h
    · simp only [Except.ok.injEq] at h
      exact h ▸ BetOutcome.allIn amount (by omega)

/-- The action rules accept the listed outcomes. -/
lemma BetOutcome.validateAction_eq (ha : BetAction.ofValue? (upper action) = some a)
    (hout : BetOutcome ctx p a amount v) : validateAction ctx p action amount = .ok v := by
  unfold validateAction callAmount
  rw [ha]
  cases hout with
  | fold => rfl
  | check h => simp only; rw [if_neg (by omega)]
  | call howes hlt =>
    simp only
    rw [if_neg (by omega), if_neg (by omega)]
    congr 2
    omega
  | callAllIn howes hle =>
    simp only
    rw [if_neg (by omega), if_pos (by omega)]
    congr 2
    omega
  | bet hopen hpos hlt hmin =>
    simp only
    rw [if_neg (by omega), if_neg (by omega), if_neg (by omega), if_neg (by omega),
      if_neg (by omega)]
  | betAllIn hopen hpos hall =>
    simp only
    rw [if_neg (by omega), if_neg (by omega), if_neg (by omega), if_neg (by omega),
      if_pos (by omega)]
  | raise hbet hpos hadd hlt hmin =>
    simp only
    rw [if_neg (by omega), if_neg (by omega), if_neg (by omega), if_neg (by omega),
      if_neg (by omega), if_neg (by omega)]
  | raiseAllIn hbet hpos hadd hall =>
    simp only
    rw [if_neg (by omega), if_neg (by omega), if_neg (by omega), if_neg (by omega),
      if_neg (by omega), if_pos (by omega)]
  | allIn hpos => simp only; rw [if_neg (by omega)]

/-- The action rules accept exactly the listed outcomes of the requested word. -/
theorem validateAction_eq_ok_iff :
    validateAction ctx p action amount = .ok v ↔
      ∃ a, BetAction.ofValue? (upper action) = some a ∧ BetOutcome ctx p a amount v := by
  constructor
  · intro h
    cases ha : BetAction.ofValue? (upper action) with
    | none => simp [validateAction, ha] at h
    | some a => exact ⟨a, rfl, betOutcome_of_validateAction ha h⟩
  · rintro ⟨a, ha, hout⟩
    exact hout.validateAction_eq ha

/-- The gates let exactly the permitted players through to the action rules. -/
theorem validateBet_eq_ok_iff :
    validateBet ctx playerId action amount = .ok v ↔
      ∃ p, Permitted ctx playerId p ∧ validateAction ctx p action amount = .ok v := by
  constructor
  · intro h
    unfold validateBet at h
    split at h
    · simp at h
    next hstatus =>
    split at h
    · simp at h
    next hopen =>
    split at h
    · simp at h
    next p hfound =>
    split at h
    · simp at h
    next hactive =>
    split at h
    · simp at h
    next hfold =>
    split at h
    · simp at h
    next hallIn =>
    split at h
    · simp at h
    next hturn =>
    refine ⟨p, ⟨by simpa using hstatus, by simpa using hopen, hfound, ?_, ?_⟩, h⟩
    · exact ⟨by simpa using hactive, by simpa using hfold, by simpa using hallIn⟩
    · tauto
  · rintro ⟨p, ⟨hstatus, hopen, hfound, ⟨hactive, hfold, hallIn⟩, hturn⟩, h⟩
    unfold validateBet
    simp only [hstatus, hopen, hfound, hactive, hfold, hallIn]
    rcases hturn with hturn | hturn <;> simp [hturn, h]

end PokerRoom
