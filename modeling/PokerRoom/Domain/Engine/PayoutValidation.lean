import PokerRoom.Domain.Engine.SidePots
import PokerRoom.Foundation.Checks

/-!
# Validation of payouts

`domain/engine/payout_validation.py`: every submitted payout has to name a computed side pot, may
not exceed it, and may only go to players who are eligible for it.  The total pot the source passes
along is never read there and is left out.
-/

namespace PokerRoom

open Foundation

/-! ## Requests -/

/-- The share of one winner, as the request schema admits it. -/
structure WinnerShare where
  /-- The winner. -/
  playerId : String
  /-- Chips awarded to him. -/
  amount : Int
  /-- The identifier is not empty. -/
  playerId_ne : playerId ≠ ""
  /-- At least one chip is awarded. -/
  amount_pos : 1 ≤ amount
deriving DecidableEq, Repr

/-- The payout of one pot, as the request schema admits it. -/
structure PotPayout where
  /-- Index of the pot. -/
  potIndex : Int
  /-- Type of the pot. -/
  potType : String
  /-- Chips awarded. -/
  amount : Int
  /-- The winners. -/
  winners : List WinnerShare
  /-- The index is not negative. -/
  potIndex_nonneg : 0 ≤ potIndex
  /-- At least one chip is awarded. -/
  amount_pos : 1 ≤ amount
  /-- Somebody wins. -/
  winners_ne : winners ≠ []
deriving DecidableEq, Repr

/-- Chips a payout hands to its winners. -/
def PotPayout.winnerTotal (pot : PotPayout) : Int := (pot.winners.map (·.amount)).sum

/-! ## Definitions -/

/-- What a stored player contributed to the hand. -/
def PlayerState.contribution (rp : RoundPlayer) : PlayerContribution :=
  { playerId := rp.playerId
    committedThisHand := rp.committedThisHand
    hasFolded := rp.hasFolded
    reachedShowdown := !rp.hasFolded && rp.isActiveInHand }

/-- The side pots the validation computes. -/
def computedPots (roundPlayers : List RoundPlayer) : List Pot :=
  calculateSidePots (roundPlayers.map (·.contribution))

/-- Check one submitted payout against the computed pots. -/
def validatePayout (computed : List Pot) (submitted : PotPayout) : Except DomainError Unit :=
  match computed.find? fun p => p.potIndex = submitted.potIndex with
  | none =>
    .error ⟨.payoutMismatch, "Submitted pot_index " ++ toString submitted.potIndex ++
      " does not exist in the computed pot structure"⟩
  | some pot =>
    if submitted.winnerTotal > pot.amount then
      .error ⟨.payoutExceedsPot, "Pot " ++ toString submitted.potIndex ++ " payout (" ++
        toString submitted.winnerTotal ++ ") exceeds computed pot (" ++ toString pot.amount ++ ")"⟩
    else
      checkAll
        (fun w => require (w.playerId ∈ pot.eligibleWinnerPlayerIds)
          ⟨.payoutMismatch, "Player " ++ w.playerId ++ " is not eligible to win pot " ++
            toString submitted.potIndex⟩)
        submitted.winners

/-- Check all submitted payouts; without any computed pot nothing is checked. -/
def validatePayoutsAgainstSidePots (roundPlayers : List RoundPlayer)
    (submittedPayouts : List PotPayout) : Except DomainError (List Pot) := do
  if computedPots roundPlayers ≠ [] then
    checkAll (validatePayout (computedPots roundPlayers)) submittedPayouts
  return computedPots roundPlayers

/-! ## Specification -/

/-- A submitted payout fits a computed pot. -/
structure PotPayout.Fits (submitted : PotPayout) (pot : Pot) : Prop where
  /-- It names the pot. -/
  potIndex : pot.potIndex = submitted.potIndex
  /-- It does not exceed it. -/
  amount : submitted.winnerTotal ≤ pot.amount
  /-- All its winners are eligible. -/
  eligible : ∀ w ∈ submitted.winners, w.playerId ∈ pot.eligibleWinnerPlayerIds

/-- A payout that passes fits the pot its index looks up. -/
lemma validatePayout_eq_ok_iff {computed : List Pot} {submitted : PotPayout} {u : Unit} :
    validatePayout computed submitted = .ok u ↔
      ∃ pot, computed.find? (fun p => p.potIndex = submitted.potIndex) = some pot ∧
        submitted.Fits pot := by
  unfold validatePayout
  cases hfind : computed.find? fun p => p.potIndex = submitted.potIndex with
  | none => simp
  | some pot =>
    have hidx : pot.potIndex = submitted.potIndex := by simpa using List.find?_some hfind
    simp only [Option.some.injEq, exists_eq_left']
    split
    · next hgt =>
      simp only [reduceCtorEq, false_iff]
      exact fun hfits => absurd hfits.amount (by omega)
    · next hle =>
      rw [checkAll_eq_ok_iff]
      simp only [require_eq_ok_iff]
      exact ⟨fun h => ⟨hidx, by omega, h⟩, fun h => h.eligible⟩

/-- The validation passes exactly when there is no computed pot or every payout fits the pot its
index looks up. -/
theorem validatePayoutsAgainstSidePots_eq_ok_iff {roundPlayers : List RoundPlayer}
    {payouts : List PotPayout} {pots : List Pot} :
    validatePayoutsAgainstSidePots roundPlayers payouts = .ok pots ↔
      pots = computedPots roundPlayers ∧ (computedPots roundPlayers = [] ∨
        ∀ submitted ∈ payouts, ∃ pot, (computedPots roundPlayers).find?
          (fun p => p.potIndex = submitted.potIndex) = some pot ∧ submitted.Fits pot) := by
  unfold validatePayoutsAgainstSidePots
  by_cases hnil : computedPots roundPlayers = []
  · rw [if_neg (not_not.mpr hnil)]
    simp [hnil, pure, Except.pure, eq_comm]
  · rw [if_pos hnil, bind_eq_ok_iff]
    simp only [checkAll_eq_ok_iff, validatePayout_eq_ok_iff, hnil, false_or]
    constructor
    · rintro ⟨u, hall, hpots⟩
      exact ⟨(Except.ok.inj hpots).symm, hall⟩
    · rintro ⟨rfl, hall⟩
      exact ⟨(), hall, rfl⟩

end PokerRoom
