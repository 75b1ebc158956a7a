import PokerRoom.Foundation.Clockwise
import PokerRoom.Domain.Models

/-!
# Who acts next

`domain/engine/turn_engine.py`: after an action the players who can act are scanned clockwise from
the actor.  The scan stops at the last aggressor, who closes the betting, or at the first player
who still owes chips, who is next; a scan that meets neither closes the betting.

`nextToAct_open` and `nextToAct_closed` say what either answer means in terms of the clockwise
order.
-/

namespace PokerRoom

open Foundation

/-! ## Definitions -/

/-- What the turn engine sees of a player. -/
structure ActionSeat where
  /-- Identifier of the player. -/
  playerId : String
  /-- Seat the player occupies. -/
  seatNumber : Int
  /-- The player has folded. -/
  hasFolded : Bool
  /-- The player is all-in. -/
  isAllIn : Bool
  /-- The player takes part in the hand. -/
  isActiveInHand : Bool
  /-- Chips committed on the current street. -/
  committedThisStreet : Int
deriving DecidableEq, Repr

/-- The answer of the turn engine. -/
structure NextActorResult where
  /-- The next player to act, if any. -/
  playerId : Option String
  /-- The seat of that player. -/
  seatNumber : Option Int
  /-- The betting is over. -/
  isRoundClosed : Bool
deriving DecidableEq, Repr

/-- The player can take part in the betting. -/
def ActionSeat.canAct (p : ActionSeat) : Bool := p.isActiveInHand && !p.hasFolded && !p.isAllIn

/-- The player can act and has committed less than the bet to match. -/
def ActionSeat.needsAction (p : ActionSeat) (highestBet : Int) : Bool :=
  p.canAct && decide (p.committedThisStreet < highestBet)

/-- The answer that ends the betting. -/
def NextActorResult.closed : NextActorResult := ⟨none, none, true⟩

/-- Scan the candidates in order. -/
def scanActors (lastAggressorSeat : Option Int) (currentHighestBet : Int) :
    List ActionSeat → NextActorResult
  | [] => .closed
  | candidate :: rest =>
    if lastAggressorSeat = some candidate.seatNumber then .closed
    else if candidate.needsAction currentHighestBet then
      ⟨some candidate.playerId, some candidate.seatNumber, false⟩
    else scanActors lastAggressorSeat currentHighestBet rest

/-- The next player to act after the player on `currentActorSeat`. -/
def nextToAct (players : List ActionSeat) (currentActorSeat : Int)
    (lastAggressorSeat : Option Int) (currentHighestBet : Int) : NextActorResult :=
  let eligible := players.filter (·.canAct)
  if eligible.length < 2 then .closed
  else scanActors lastAggressorSeat currentHighestBet
    (sweep (·.seatNumber) currentActorSeat eligible)

/-! ## What the answer means -/

variable {players : List ActionSeat} {cur : Int} {agg : Option Int} {highest : Int}

/-- The scan stops at the first candidate who is the last aggressor or still owes chips, and the
betting goes on exactly when that candidate is not the aggressor. -/
lemma scanActors_eq (l : List ActionSeat) :
    scanActors agg highest l =
      match l.find? fun p => agg = some p.seatNumber || p.needsAction highest with
      | none => .closed
      | some c =>
        if agg = some c.seatNumber then .closed else
            ⟨some c.playerId, some c.seatNumber, false⟩ := by
  induction l with
  | nil => rfl
  | cons c l ih =>
    rw [scanActors, List.find?_cons]
    by_cases hagg : agg = some c.seatNumber
    · simp [hagg]
    · by_cases hneeds : c.needsAction highest = true
      · simp [hagg, hneeds]
      · rw [if_neg hagg, if_neg hneeds, ih]
        simp [hagg, hneeds]

/-- When the betting goes on, the next player owes chips and is not the last aggressor, and
everybody met before him going clockwise from the actor neither owes chips nor is the last
aggressor. -/
theorem nextToAct_open (hnd : (players.map (·.seatNumber)).Nodup)
    (h : (nextToAct players cur agg highest).isRoundClosed = false) :
    ∃ c ∈ players, nextToAct players cur agg highest = ⟨some c.playerId, some c.seatNumber, false⟩ ∧
      c.needsAction highest = true ∧ agg ≠ some c.seatNumber ∧
      ∀ p ∈ players, p.canAct = true → Before cur p.seatNumber c.seatNumber →
        p.needsAction highest = false ∧ agg ≠ some p.seatNumber := by
  have hsub : ((players.filter (·.canAct)).map (·.seatNumber)).Nodup :=
    hnd.sublist (List.Sublist.map _ List.filter_sublist)
  simp only [nextToAct] at h ⊢
  split at h
  · simp [NextActorResult.closed] at h
  next htwo =>
  rw [if_neg htwo]
  rw [scanActors_eq] at h ⊢
  split at h
  · simp [NextActorResult.closed] at h
  next c hfind =>
  split at h
  · simp [NextActorResult.closed] at h
  next hagg =>
  obtain ⟨hmem, hstop, hfirst⟩ := (find?_sweep_eq_some_iff hsub).mp hfind
  have hneeds : c.needsAction highest = true := by simpa [hagg] using hstop
  refine ⟨c, List.mem_of_mem_filter hmem, ?_, hneeds, hagg, fun p hp hcan hbefore => ?_⟩
  · exact if_neg hagg
  · by_contra hcon
    have hpstop : (decide (agg = some p.seatNumber) || p.needsAction highest) = true := by
      rw [Bool.or_eq_true, decide_eq_true_eq]
      by_contra hor
      push Not at hor
      exact hcon ⟨by simpa using hor.2, hor.1⟩
    rcases hfirst p (List.mem_filter.mpr ⟨hp, hcan⟩) hpstop with rfl | hafter
    · exact not_before_self hbefore
    · exact hafter.asymm hbefore

/-- The answer does not depend on the order in which the players are listed. -/
lemma nextToAct_eq_of_perm {players' : List ActionSeat} (hnd : (players.map (·.seatNumber)).Nodup)
    (hperm : players.Perm players') :
    nextToAct players cur agg highest = nextToAct players' cur agg highest := by
  have hsub : ((players.filter (·.canAct)).map (·.seatNumber)).Nodup :=
    hnd.sublist (List.Sublist.map _ List.filter_sublist)
  have heligible := hperm.filter (·.canAct)
  simp only [nextToAct, heligible.length_eq, sweep_eq_of_perm hsub heligible]

/-- When the betting goes on, at least two players can act. -/
lemma two_le_of_nextToAct_open (h : (nextToAct players cur agg highest).isRoundClosed = false) :
    2 ≤ (players.filter (·.canAct)).length := by
  by_contra hfew
  rw [nextToAct, if_pos (not_le.mp hfew)] at h
  cases h

/-- When the betting is over, fewer than two players can act, or nobody who can act owes chips, or
the last aggressor can act and nobody met before him going clockwise from the actor owes chips. -/
theorem nextToAct_closed (hnd : (players.map (·.seatNumber)).Nodup)
    (h : (nextToAct players cur agg highest).isRoundClosed = true) :
    nextToAct players cur agg highest = .closed ∧
      ((players.filter (·.canAct)).length < 2 ∨
      (∀ p ∈ players, p.needsAction highest = false) ∨
      ∃ g ∈ players, agg = some g.seatNumber ∧ g.canAct = true ∧
        ∀ p ∈ players, Before cur p.seatNumber g.seatNumber → p.needsAction highest = false) := by
  have hsub : ((players.filter (·.canAct)).map (·.seatNumber)).Nodup :=
    hnd.sublist (List.Sublist.map _ List.filter_sublist)
  have hcan : ∀ p : ActionSeat, p.needsAction highest = true → p.canAct = true := fun p hp => by
    rw [ActionSeat.needsAction, Bool.and_eq_true] at hp
    exact hp.1
  simp only [nextToAct] at h ⊢
  split at h
  · next hfew => exact ⟨if_pos hfew, Or.inl hfew⟩
  next htwo =>
  rw [if_neg htwo]
  rw [scanActors_eq] at h ⊢
  split at h
  · next hnone =>
    refine ⟨rfl, Or.inr (Or.inl fun p hp => ?_)⟩
    by_contra hneeds
    rw [Bool.not_eq_false] at hneeds
    have := List.find?_eq_none.mp hnone p
      (mem_sweep.mpr (List.mem_filter.mpr ⟨hp, hcan p hneeds⟩))
    simp [hneeds] at this
  · next g hfind =>
    split at h
    · next hagg =>
      obtain ⟨hmem, -, hfirst⟩ := (find?_sweep_eq_some_iff hsub).mp hfind
      refine ⟨if_pos hagg, Or.inr (Or.inr ⟨g, List.mem_of_mem_filter hmem, hagg,
        (List.mem_filter.mp hmem).2, fun p hp hbefore => ?_⟩)⟩
      by_contra hneeds
      rw [Bool.not_eq_false] at hneeds
      rcases hfirst p (List.mem_filter.mpr ⟨hp, hcan p hneeds⟩) (by simp [hneeds]) with rfl | hafter
      · exact not_before_self hbefore
      · exact hafter.asymm hbefore
    · simp at h

end PokerRoom
