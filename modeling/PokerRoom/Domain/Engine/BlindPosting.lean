import PokerRoom.Domain.Models
import Mathlib.Algebra.BigOperators.Group.List.Basic
import Mathlib.Algebra.Order.Ring.Int

/-!
# Posting blinds and antes

`domain/engine/blind_posting.py`: every player posts the ante, and the players on the blind seats
post their blind, each capped by the chips that are left.

The specification of one posting is `postPlayer_spec`: chips only move from the stack to the
commitment, no more than there are.
-/

namespace PokerRoom

/-! ## Definitions -/

/-- A player about to be dealt in. -/
structure SeatPlayer where
  /-- Identifier of the player. -/
  playerId : String
  /-- Seat the player occupies. -/
  seatNumber : Int
  /-- Chips the player is dealt. -/
  stack : Int
deriving DecidableEq, Repr

/-- A player after posting. -/
structure PostedPlayer where
  /-- Identifier of the player. -/
  playerId : String
  /-- Seat the player occupies. -/
  seatNumber : Int
  /-- Chips left. -/
  stackRemaining : Int
  /-- Chips posted, as a commitment to the first street. -/
  committedThisStreet : Int
  /-- Chips posted, as a commitment to the hand. -/
  committedThisHand : Int
  /-- Posting took the last chip. -/
  isAllIn : Bool
deriving DecidableEq, Repr

/-- The outcome of posting. -/
structure BlindPostingResult where
  /-- The players, in the given order. -/
  players : List PostedPlayer
  /-- Everything posted. -/
  potTotal : Int
  /-- The largest amount posted. -/
  currentHighestBet : Int
deriving DecidableEq, Repr

/-- The maximum of a list of integers, `0` for the empty list. -/
def maxOrZero (l : List Int) : Int := l.max?.getD 0

/-- The ante a player posts. -/
def antePosted (anteAmount : Int) (p : SeatPlayer) : Int :=
  if anteAmount > 0 then min anteAmount p.stack else 0

/-- The blind a player posts with the given chips left after the ante. -/
def blindPosted (smallBlindSeat bigBlindSeat smallBlindAmount bigBlindAmount : Int)
    (p : SeatPlayer) (remaining : Int) : Int :=
  if p.seatNumber = smallBlindSeat then min smallBlindAmount remaining
  else if p.seatNumber = bigBlindSeat then min bigBlindAmount remaining
  else 0

/-- One player posts ante and blind. -/
def postPlayer (smallBlindSeat bigBlindSeat smallBlindAmount bigBlindAmount anteAmount : Int)
    (p : SeatPlayer) : PostedPlayer :=
  let ante := antePosted anteAmount p
  let blind := blindPosted smallBlindSeat bigBlindSeat smallBlindAmount bigBlindAmount p
    (p.stack - ante)
  let committed := ante + blind
  let remaining := p.stack - ante - blind
  { playerId := p.playerId
    seatNumber := p.seatNumber
    stackRemaining := remaining
    committedThisStreet := committed
    committedThisHand := committed
    isAllIn := decide (remaining = 0 ∧ committed > 0) }

/-- All players post, in order. -/
def postBlindsAndAntes (players : List SeatPlayer)
    (smallBlindSeat bigBlindSeat smallBlindAmount bigBlindAmount anteAmount : Int) :
    BlindPostingResult :=
  let posted := players.map
    (postPlayer smallBlindSeat bigBlindSeat smallBlindAmount bigBlindAmount anteAmount)
  { players := posted
    potTotal := (posted.map (·.committedThisStreet)).sum
    currentHighestBet := maxOrZero (posted.map (·.committedThisStreet)) }

/-! ## Maxima -/

/-- The maximum bounds every element. -/
lemma le_maxOrZero {l : List Int} {a : Int} (ha : a ∈ l) : a ≤ maxOrZero l := by
  cases hm : l.max? with
  | none => rw [List.max?_eq_none_iff.mp hm] at ha; simp at ha
  | some m =>
    rw [maxOrZero, hm, Option.getD_some]
    exact (List.max?_eq_some_iff.mp hm).2 a ha

/-- The maximum of a nonempty list is one of its elements. -/
lemma maxOrZero_mem {l : List Int} (hl : l ≠ []) : maxOrZero l ∈ l := by
  cases hm : l.max? with
  | none => exact absurd (List.max?_eq_none_iff.mp hm) hl
  | some m =>
    rw [maxOrZero, hm, Option.getD_some]
    exact (List.max?_eq_some_iff.mp hm).1

/-- The maximum does not depend on the order of the list. -/
lemma maxOrZero_eq_of_perm {l l' : List Int} (hperm : l.Perm l') : maxOrZero l = maxOrZero l' := by
  by_cases hl : l = []
  · subst hl
    rw [hperm.nil_eq]
  · have hl' : l' ≠ [] := fun hnil => hl (hnil ▸ hperm).eq_nil
    exact le_antisymm (le_maxOrZero (hperm.mem_iff.mp (maxOrZero_mem hl)))
      (le_maxOrZero (hperm.mem_iff.mpr (maxOrZero_mem hl')))

/-! ## What one player posts -/

section

variable {sbSeat bbSeat sb bb ante : Int} {p : SeatPlayer}

/-- The ante is nonnegative and no more than the stack. -/
lemma antePosted_bounds (ante : Int) (hstack : 0 ≤ p.stack) :
    0 ≤ antePosted ante p ∧ antePosted ante p ≤ p.stack := by
  unfold antePosted
  split <;> omega

/-- The blind is nonnegative and no more than what is left. -/
lemma blindPosted_bounds (sbSeat bbSeat : Int) (p : SeatPlayer) {remaining : Int} (hsb : 0 ≤ sb)
    (hbb : 0 ≤ bb) (hr : 0 ≤ remaining) :
    0 ≤ blindPosted sbSeat bbSeat sb bb p remaining ∧
      blindPosted sbSeat bbSeat sb bb p remaining ≤ remaining := by
  unfold blindPosted
  split
  · omega
  · split <;> omega

/-- What a posting does to one player. -/
structure PostPlayerSpec (p : SeatPlayer) (q : PostedPlayer) : Prop where
  /-- It is the same player. -/
  playerId : q.playerId = p.playerId
  /-- On the same seat. -/
  seatNumber : q.seatNumber = p.seatNumber
  /-- Chips only move from the stack to the commitment. -/
  conserved : q.stackRemaining + q.committedThisHand = p.stack
  /-- The stack stays nonnegative. -/
  stack_nonneg : 0 ≤ q.stackRemaining
  /-- Something nonnegative is committed. -/
  committed_nonneg : 0 ≤ q.committedThisStreet
  /-- The commitment to the hand is the commitment to the street. -/
  hand_eq_street : q.committedThisHand = q.committedThisStreet
  /-- All-in means that no chip is left. -/
  isAllIn_iff : q.isAllIn = true ↔ q.stackRemaining = 0

/-- The specification of one posting. -/
theorem postPlayer_spec (hsb : 0 ≤ sb) (hbb : 0 ≤ bb) (hstack : 0 < p.stack) :
    PostPlayerSpec p (postPlayer sbSeat bbSeat sb bb ante p) := by
  obtain ⟨hante, hanteLe⟩ := antePosted_bounds ante hstack.le
  obtain ⟨hblind, hblindLe⟩ := blindPosted_bounds sbSeat bbSeat p hsb hbb
    (show 0 ≤ p.stack - antePosted ante p by omega)
  constructor
  · rfl
  · rfl
  · simp only [postPlayer]; omega
  · simp only [postPlayer]; omega
  · simp only [postPlayer]; omega
  · rfl
  · simp only [postPlayer, decide_eq_true_eq]; omega

end

end PokerRoom
