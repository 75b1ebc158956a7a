import PokerRoom.Foundation.Clockwise
import PokerRoom.Domain.Models

/-!
# The end of a street

`domain/engine/street_progression.py`: whether a hand goes on to the next street, to the showdown or
to its settlement, and who acts first on a new street.
-/

namespace PokerRoom

open Foundation

/-! ## Definitions -/

/-- What the street progression sees of a player. -/
structure PlayerSeat where
  /-- Identifier of the player. -/
  playerId : String
  /-- Seat the player occupies. -/
  seatNumber : Int
  /-- The player has folded. -/
  hasFolded : Bool
  /-- The player is all-in. -/
  isAllIn : Bool
  /-- The player takes part in the hand. -/
  isActiveInHand : Bool
deriving DecidableEq, Repr

/-- What the end of a street leads to. -/
structure StreetAdvanceResult where
  /-- The kind of progress. -/
  action : StreetAdvanceAction
  /-- The next street, if there is one. -/
  nextStreet : Option Street := none
  /-- The first player to act on it, if any. -/
  actingPlayerId : Option String := none
  /-- The only player left, when the hand is settled without a showdown. -/
  winningPlayerId : Option String := none
deriving DecidableEq, Repr

/-- The street after the given one in `STREET_ORDER`. -/
def nextStreet : Street → Option Street
  | .preFlop => some .flop
  | .flop => some .turn
  | .turn => some .river
  | .river => some .showdown
  | .showdown => none

/-- The first eligible player on a seat above the reference seat, or else on the lowest seat. -/
def findFirstToAct (eligible : List PlayerSeat) (referenceSeat : Int) : Option String :=
  let sortedPlayers := bySeat (·.seatNumber) eligible
  ((sortedPlayers.find? fun p => referenceSeat < p.seatNumber).or sortedPlayers.head?).map
    (·.playerId)

/-- What the end of the current street leads to. -/
def evaluateStreetEnd (currentStreet : Street) (dealerSeat : Int) (players : List PlayerSeat) :
    StreetAdvanceResult :=
  let notFolded := players.filter fun p => !p.hasFolded && p.isActiveInHand
  if notFolded.length ≤ 1 then
    { action := .settleHand, winningPlayerId := notFolded.head?.map (·.playerId) }
  else if currentStreet = .river ∨ currentStreet = .showdown then
    { action := .showdown, nextStreet := some .showdown }
  else
    let canAct := notFolded.filter fun p => !p.isAllIn
    if canAct.length ≤ 1 then { action := .showdown, nextStreet := some .showdown }
    else
      { action := .nextStreet
        nextStreet := nextStreet currentStreet
        actingPlayerId := findFirstToAct canAct dealerSeat }

/-- What the street progression sees of a stored player. -/
def PlayerState.playerSeat (p : PlayerState) : PlayerSeat :=
  { playerId := p.playerId
    seatNumber := p.seatNumber
    hasFolded := p.hasFolded
    isAllIn := p.isAllIn
    isActiveInHand := p.isActiveInHand }

/-- The player has not folded and takes part in the hand. -/
def PlayerState.InHand (p : PlayerState) : Prop := p.hasFolded = false ∧ p.isActiveInHand = true

instance : DecidablePred PlayerState.InHand := fun p =>
  inferInstanceAs (Decidable (p.hasFolded = false ∧ _))

/-! ## Who acts first on a street -/

/-- The first to act is the first eligible player met clockwise from the reference seat. -/
lemma findFirstToAct_eq (eligible : List PlayerSeat) (referenceSeat : Int) :
    findFirstToAct eligible referenceSeat =
      (sweep (·.seatNumber) referenceSeat eligible).head?.map (·.playerId) := by
  rw [head?_sweep]
  rfl

/-- Where anybody is eligible, somebody eligible is the first to act. -/
lemma exists_findFirstToAct {eligible : List PlayerSeat} (h : eligible ≠ [])
    (referenceSeat : Int) :
    ∃ p ∈ eligible, findFirstToAct eligible referenceSeat = some p.playerId := by
  rw [findFirstToAct_eq]
  cases hs : sweep (·.seatNumber) referenceSeat eligible with
  | nil =>
    have hperm : (sweep (·.seatNumber) referenceSeat eligible).Perm eligible := sweep_perm
    rw [hs] at hperm
    exact absurd hperm.symm.eq_nil h
  | cons p l => exact ⟨p, mem_sweep.mp (hs ▸ List.mem_cons_self), rfl⟩

end PokerRoom
