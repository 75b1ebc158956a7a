import PokerRoom.Domain.Engine.TurnEngine
import PokerRoom.Domain.Engine.Validator

/-!
# The action pipeline

`domain/engine/action_pipeline.py`: an action is validated, turned into a transition that lists the
changes of the acting player and of the round, and applied to the stored rows.

The specification `applyAction_eq` describes an accepted action by what it does to the acting
player (`PlayerState.act`) and to the round (`Round.acted`).
-/

namespace PokerRoom

open Foundation

/-! ## Definitions -/

/-- Changes of the acting player. -/
structure PlayerMutation where
  /-- The acting player. -/
  playerId : String
  /-- Change of the stack. -/
  stackDelta : Int
  /-- Change of the commitment to the street. -/
  streetCommitDelta : Int
  /-- Change of the commitment to the hand. -/
  handCommitDelta : Int
  /-- The player folds. -/
  shouldFold : Bool
  /-- The player is all-in. -/
  shouldAllIn : Bool
deriving DecidableEq, Repr

/-- Changes of the round. -/
structure RoundMutation where
  /-- Change of the pot. -/
  potDelta : Int
  /-- The new bet to match, if it changes. -/
  newHighestBet : Option Int
  /-- The new minimum raise, if it changes. -/
  newMinRaise : Option Int
  /-- The next player to act, if any. -/
  newActingPlayerId : Option String
  /-- The new last aggressor, if it changes. -/
  newLastAggressorSeat : Option Int
  /-- The betting is over. -/
  isActionClosed : Bool
deriving DecidableEq, Repr

/-- A transition: the effective action and all changes it makes. -/
structure HandTransition where
  /-- The effective action. -/
  action : BetAction
  /-- The chips it moves. -/
  amount : Int
  /-- The betting is over. -/
  isRoundClosed : Bool
  /-- The next player to act, if any. -/
  nextPlayerId : Option String
  /-- Changes of the acting player. -/
  playerMutation : PlayerMutation
  /-- Changes of the round. -/
  roundMutation : RoundMutation
deriving DecidableEq, Repr

/-- What the pipeline reports of an applied action. -/
structure ApplyActionResult where
  /-- The effective action. -/
  action : BetAction
  /-- The chips it moved. -/
  amount : Int
  /-- The betting is over. -/
  isRoundClosed : Bool
  /-- The next player to act, if any. -/
  nextPlayerId : Option String
deriving DecidableEq, Repr

/-- The actions that move chips. -/
def BetAction.movesChips : BetAction → Bool
  | .call | .bet | .raise | .allIn => true
  | _ => false

/-- The actions that make their player the last aggressor. -/
def BetAction.isAggressive : BetAction → Bool
  | .bet | .raise | .allIn => true
  | _ => false

/-- Change of the commitments of the acting player. -/
def commitDelta (result : ValidatedAction) : Int :=
  if result.action.movesChips then result.amount else 0

/-- The new bet to match, if the action raises it. -/
def newHighestBet (ctx : HandContext) (player : PlayerState) (result : ValidatedAction) :
    Option Int :=
  let postCommitted := player.committedThisStreet + commitDelta result
  if result.action.isAggressive ∧ postCommitted > ctx.currentHighestBet then some postCommitted
  else none

/-- The new minimum raise, if the action raises by more than the current one. -/
def newMinRaise (ctx : HandContext) (player : PlayerState) (result : ValidatedAction) :
    Option Int :=
  let postCommitted := player.committedThisStreet + commitDelta result
  let raiseIncrement := postCommitted - ctx.currentHighestBet
  if result.action.isAggressive ∧ postCommitted > ctx.currentHighestBet then
    if raiseIncrement > ctx.minimumRaiseAmount then some raiseIncrement else none
  else none

/-- The new last aggressor, if the action makes its player one. -/
def newAggressorSeat (player : PlayerState) (result : ValidatedAction) : Option Int :=
  if result.action.isAggressive then some player.seatNumber else none

/-- What the turn engine is shown: every player, with the action applied to the acting one. -/
def actionSeats (ctx : HandContext) (playerId : String) (result : ValidatedAction) :
    List ActionSeat :=
  ctx.players.map fun p =>
    { playerId := p.playerId
      seatNumber := p.seatNumber
      hasFolded := if p.playerId = playerId ∧ result.action = .fold then true else p.hasFolded
      isAllIn := if p.playerId = playerId ∧ result.action = .allIn then true else p.isAllIn
      isActiveInHand :=
        if p.playerId = playerId ∧ result.action = .fold then false else p.isActiveInHand
      committedThisStreet :=
        if p.playerId = playerId then p.committedThisStreet + commitDelta result
        else p.committedThisStreet }

/-- The transition of a validated action. -/
def transitionOf (ctx : HandContext) (player : PlayerState) (playerId : String)
    (result : ValidatedAction) (lastAggressorSeat : Option Int) : HandTransition :=
  let nta := nextToAct (actionSeats ctx playerId result) player.seatNumber
    ((newAggressorSeat player result).or lastAggressorSeat)
    ((newHighestBet ctx player result).getD ctx.currentHighestBet)
  { action := result.action
    amount := result.amount
    isRoundClosed := nta.isRoundClosed
    nextPlayerId := nta.playerId
    playerMutation :=
      { playerId := playerId
        stackDelta := if result.action.movesChips then -result.amount else 0
        streetCommitDelta := commitDelta result
        handCommitDelta := commitDelta result
        shouldFold := decide (result.action = .fold)
        shouldAllIn := decide (result.action = .allIn) }
    roundMutation :=
      { potDelta := result.amount
        newHighestBet := newHighestBet ctx player result
        newMinRaise := newMinRaise ctx player result
        newActingPlayerId := if nta.isRoundClosed then none else nta.playerId
        newLastAggressorSeat := newAggressorSeat player result
        isActionClosed := nta.isRoundClosed } }

/-- Validate an action and compute its transition. -/
def transitionHandState (ctx : HandContext) (playerId action : String) (amount : Int)
    (lastAggressorSeat : Option Int) : Except DomainError HandTransition :=
  match validateBet ctx playerId action amount, ctx.getPlayer playerId with
  | .error e, _ => .error e
  | .ok result, some player => .ok (transitionOf ctx player playerId result lastAggressorSeat)
  -- the assertion of the source: a validated player exists
  | .ok _, none => raise .playerNotInHand .playerNotInHand

/-- What the validator sees of the stored rows. -/
def buildHandContext (gameRound : Round) (roundPlayers : List RoundPlayer) : HandContext :=
  { roundId := gameRound.roundId
    status := gameRound.status
    street := gameRound.street
    actingPlayerId := gameRound.actingPlayerId
    currentHighestBet := gameRound.currentHighestBet
    minimumRaiseAmount := gameRound.minimumRaiseAmount
    isActionClosed := gameRound.isActionClosed
    players := roundPlayers }

/-- Apply the changes of the acting player to his row. -/
def PlayerMutation.apply (pm : PlayerMutation) (rp : RoundPlayer) : RoundPlayer :=
  { rp with
    stackRemaining := rp.stackRemaining + pm.stackDelta
    committedThisStreet := rp.committedThisStreet + pm.streetCommitDelta
    committedThisHand := rp.committedThisHand + pm.handCommitDelta
    hasFolded := if pm.shouldFold then true else rp.hasFolded
    isActiveInHand := if pm.shouldFold then false else rp.isActiveInHand
    isAllIn := if pm.shouldAllIn then true else rp.isAllIn }

/-- Apply the changes of the round to its row. -/
def RoundMutation.apply (rm : RoundMutation) (gameRound : Round) : Round :=
  { gameRound with
    potAmount := gameRound.potAmount + rm.potDelta
    currentHighestBet := rm.newHighestBet.getD gameRound.currentHighestBet
    minimumRaiseAmount := rm.newMinRaise.getD gameRound.minimumRaiseAmount
    lastAggressorSeat := rm.newLastAggressorSeat.or gameRound.lastAggressorSeat
    actingPlayerId := if rm.isActionClosed then none else rm.newActingPlayerId
    isActionClosed := rm.isActionClosed
    stateVersion := gameRound.version + 1 }

/-- Apply a transition to the stored rows. -/
def applyTransition (gameRound : Round) (roundPlayers : List RoundPlayer)
    (transition : HandTransition) : Round × List RoundPlayer :=
  (transition.roundMutation.apply gameRound,
    updateFirst (·.playerId) transition.playerMutation.playerId transition.playerMutation.apply
      roundPlayers)

/-- Apply one action to the stored rows of a round. -/
def applyAction (gameRound : Round) (roundPlayers : List RoundPlayer) (playerId action : String)
    (amount : Int) (expectedVersion : Option Int) :
    Except DomainError (ApplyActionResult × Round × List RoundPlayer) :=
  if ∃ v ∈ expectedVersion, gameRound.version ≠ v then
    .error ⟨.staleStateError, "Expected state_version=" ++ toString (expectedVersion.getD 0) ++
      ", current=" ++ toString gameRound.version⟩
  else
    match transitionHandState (buildHandContext gameRound roundPlayers) playerId action amount
        gameRound.lastAggressorSeat with
    | .error e => .error e
    | .ok transition =>
      .ok ({ action := transition.action
             amount := transition.amount
             isRoundClosed := transition.isRoundClosed
             nextPlayerId := transition.nextPlayerId },
        applyTransition gameRound roundPlayers transition)

/-! ## Specification -/

/-- The acting player after an action. -/
def PlayerState.act (v : ValidatedAction) (p : PlayerState) : PlayerState :=
  { p with
    stackRemaining := p.stackRemaining - v.amount
    committedThisStreet := p.committedThisStreet + v.amount
    committedThisHand := p.committedThisHand + v.amount
    hasFolded := p.hasFolded || decide (v.action = .fold)
    isActiveInHand := p.isActiveInHand && decide (v.action ≠ .fold)
    isAllIn := p.isAllIn || decide (v.action = .allIn) }

/-- What the turn engine sees of a player. -/
def PlayerState.actionSeat (p : PlayerState) : ActionSeat :=
  { playerId := p.playerId
    seatNumber := p.seatNumber
    hasFolded := p.hasFolded
    isAllIn := p.isAllIn
    isActiveInHand := p.isActiveInHand
    committedThisStreet := p.committedThisStreet }

/-- The action raises the bet to match. -/
def Raises (g : Round) (p : PlayerState) (v : ValidatedAction) : Prop :=
  v.action.isAggressive = true ∧ g.currentHighestBet < p.committedThisStreet + v.amount

instance (g : Round) (p : PlayerState) (v : ValidatedAction) : Decidable (Raises g p v) :=
  inferInstanceAs (Decidable (_ ∧ _))

/-- The bet to match after an action. -/
def highestAfter (g : Round) (p : PlayerState) (v : ValidatedAction) : Int :=
  if Raises g p v then p.committedThisStreet + v.amount else g.currentHighestBet

/-- The last aggressor after an action. -/
def aggressorAfter (g : Round) (p : PlayerState) (v : ValidatedAction) : Option Int :=
  if v.action.isAggressive then some p.seatNumber else g.lastAggressorSeat

/-- The minimum raise after an action. -/
def minRaiseAfter (g : Round) (p : PlayerState) (v : ValidatedAction) : Int :=
  if Raises g p v then
    max g.minimumRaiseAmount (p.committedThisStreet + v.amount - g.currentHighestBet)
  else g.minimumRaiseAmount

/-- Who acts next after an action that leaves the players `ps`. -/
def nextAfter (g : Round) (p : PlayerState) (v : ValidatedAction) (ps : List RoundPlayer) :
    NextActorResult :=
  nextToAct (ps.map (·.actionSeat)) p.seatNumber (aggressorAfter g p v) (highestAfter g p v)

/-- The round after an action that leaves the players `ps`. -/
def Round.acted (g : Round) (p : PlayerState) (v : ValidatedAction) (ps : List RoundPlayer) :
    Round :=
  { g with
    potAmount := g.potAmount + v.amount
    currentHighestBet := highestAfter g p v
    minimumRaiseAmount := minRaiseAfter g p v
    lastAggressorSeat := aggressorAfter g p v
    actingPlayerId := (nextAfter g p v ps).playerId
    isActionClosed := (nextAfter g p v ps).isRoundClosed
    stateVersion := g.version + 1 }

/-- The players after an action. -/
def actedPlayers (playerId : String) (v : ValidatedAction) (ps : List RoundPlayer) :
    List RoundPlayer :=
  updateFirst (·.playerId) playerId (·.act v) ps

/-- An accepted action: the player who acts, the word and amount he sent, and what it amounts to. -/
structure Accepted (g : Round) (ps : List RoundPlayer) (playerId action : String) (amount : Int)
    (p : PlayerState) (a : BetAction) (v : ValidatedAction) : Prop where
  /-- The player passes the gates. -/
  permitted : Permitted (buildHandContext g ps) playerId p
  /-- The word names an action. -/
  word : BetAction.ofValue? (upper action) = some a
  /-- The action rules allow it. -/
  outcome : BetOutcome (buildHandContext g ps) p a amount v

variable {g g' : Round} {ps ps' : List RoundPlayer} {p : PlayerState} {v : ValidatedAction}
  {a : BetAction} {playerId action : String} {amount : Int}

/-- An answer that closes the betting names nobody. -/
lemma nextToAct_playerId_of_closed {players : List ActionSeat} {cur : Int} {agg : Option Int}
    {highest : Int} (h : (nextToAct players cur agg highest).isRoundClosed = true) :
    (nextToAct players cur agg highest).playerId = none := by
  simp only [nextToAct, scanActors_eq] at h ⊢
  split
  · rfl
  next hfew =>
  rw [if_neg hfew] at h
  split
  · rfl
  next c hfind =>
  rw [hfind] at h
  split
  · rfl
  next hagg => simp [hagg] at h

/-- An effective action commits exactly the chips it moves. -/
lemma BetOutcome.commitDelta_eq {ctx : HandContext} (h : BetOutcome ctx p a amount v) :
    commitDelta v = v.amount := by
  cases h <;> rfl

/-- The amount of an effective action lies between `0` and the stack. -/
lemma BetOutcome.amount_bounds {ctx : HandContext} (h : BetOutcome ctx p a amount v)
    (hstack : 0 ≤ p.stackRemaining) : 0 ≤ v.amount ∧ v.amount ≤ p.stackRemaining := by
  cases h <;> simp only <;> omega

/-- The row changes of the transition are those of `PlayerState.act`. -/
lemma transitionOf_playerMutation {ctx : HandContext} (playerId : String) (agg : Option Int)
    (h : BetOutcome ctx p a amount v) :
    (transitionOf ctx p playerId v agg).playerMutation.apply = PlayerState.act v := by
  have hamt := h.commitDelta_eq
  have hneg : (if v.action.movesChips then -v.amount else 0) = -v.amount := by
    rw [commitDelta] at hamt
    split
    · rfl
    · next hno => rw [if_neg hno] at hamt; omega
  funext q
  simp only [transitionOf, PlayerMutation.apply, PlayerState.act, hamt, hneg, PlayerState.mk.injEq,
    true_and]
  refine ⟨by omega, ?_, ?_, ?_⟩
  · cases q.hasFolded <;> simp
  · cases q.isAllIn <;> simp
  · cases q.isActiveInHand <;> simp

/-- The seats the turn engine is shown are those of the players after the action. -/
lemma actionSeats_eq (playerId : String) (hnd : (ps.map (·.playerId)).Nodup)
    (h : BetOutcome (buildHandContext g ps) p a amount v) :
    actionSeats (buildHandContext g ps) playerId v =
      (actedPlayers playerId v ps).map (·.actionSeat) := by
  rw [actedPlayers, updateFirst_eq_map hnd, List.map_map]
  apply List.map_congr_left
  intro q _
  rw [h.commitDelta_eq]
  by_cases hq : q.playerId = playerId
  · simp only [hq, Function.comp_apply, if_true, true_and, PlayerState.act, PlayerState.actionSeat,
      ActionSeat.mk.injEq, and_true]
    refine ⟨?_, ?_, ?_⟩
    · cases q.hasFolded <;> simp
    · cases q.isAllIn <;> simp
    · cases q.isActiveInHand <;> simp
  · simp [hq, PlayerState.actionSeat]

/-- The new bet to match. -/
lemma newHighestBet_getD (h : BetOutcome (buildHandContext g ps) p a amount v) :
    (newHighestBet (buildHandContext g ps) p v).getD g.currentHighestBet = highestAfter g p v := by
  simp only [newHighestBet, h.commitDelta_eq, buildHandContext, highestAfter]
  by_cases hr : v.action.isAggressive = true ∧
    p.committedThisStreet + v.amount > g.currentHighestBet
  · have hraises : Raises g p v := hr
    rw [if_pos hr, if_pos hraises, Option.getD_some]
  · have hraises : ¬ Raises g p v := hr
    rw [if_neg hr, if_neg hraises, Option.getD_none]

/-- The new minimum raise. -/
lemma newMinRaise_getD (h : BetOutcome (buildHandContext g ps) p a amount v) :
    (newMinRaise (buildHandContext g ps) p v).getD g.minimumRaiseAmount = minRaiseAfter g p v := by
  simp only [newMinRaise, h.commitDelta_eq, buildHandContext, minRaiseAfter]
  by_cases hr : v.action.isAggressive = true ∧
    p.committedThisStreet + v.amount > g.currentHighestBet
  · have hraises : Raises g p v := hr
    rw [if_pos hr, if_pos hraises]
    split
    · rw [Option.getD_some]; omega
    · rw [Option.getD_none]; omega
  · have hraises : ¬ Raises g p v := hr
    rw [if_neg hr, if_neg hraises, Option.getD_none]

/-- The new last aggressor. -/
lemma newAggressorSeat_or : (newAggressorSeat p v).or g.lastAggressorSeat =
    aggressorAfter g p v := by
  unfold newAggressorSeat aggressorAfter
  split <;> rfl

/-- The answer of the turn engine that the transition uses. -/
lemma nextToAct_actionSeats (playerId : String) (hnd : (ps.map (·.playerId)).Nodup)
    (h : BetOutcome (buildHandContext g ps) p a amount v) :
    nextToAct (actionSeats (buildHandContext g ps) playerId v) p.seatNumber
        ((newAggressorSeat p v).or g.lastAggressorSeat)
        ((newHighestBet (buildHandContext g ps) p v).getD g.currentHighestBet) =
      nextAfter g p v (actedPlayers playerId v ps) := by
  rw [actionSeats_eq playerId hnd h, newAggressorSeat_or, newHighestBet_getD h, nextAfter]

/-- The changes of the transition lead to the round `Round.acted`. -/
lemma transitionOf_roundMutation (playerId : String) (hnd : (ps.map (·.playerId)).Nodup)
    (h : BetOutcome (buildHandContext g ps) p a amount v) :
    (transitionOf (buildHandContext g ps) p playerId v g.lastAggressorSeat).roundMutation.apply g =
      g.acted p v (actedPlayers playerId v ps) := by
  have hnta := nextToAct_actionSeats playerId hnd h
  have hnone : (nextAfter g p v (actedPlayers playerId v ps)).isRoundClosed = true →
      (nextAfter g p v (actedPlayers playerId v ps)).playerId = none := nextToAct_playerId_of_closed
  have hhigh : (buildHandContext g ps).currentHighestBet = g.currentHighestBet := rfl
  simp only [transitionOf, hhigh, hnta]
  simp only [RoundMutation.apply, newHighestBet_getD h, newMinRaise_getD h, newAggressorSeat_or,
    Round.acted]
  cases hc : (nextAfter g p v (actedPlayers playerId v ps)).isRoundClosed with
  | false => simp
  | true => simp [hnone hc]

/-- A validated action leads to the described rows. -/
lemma applyTransition_transitionOf (playerId : String) (hnd : (ps.map (·.playerId)).Nodup)
    (h : BetOutcome (buildHandContext g ps) p a amount v) :
    applyTransition g ps (transitionOf (buildHandContext g ps) p playerId v g.lastAggressorSeat) =
      (g.acted p v (actedPlayers playerId v ps), actedPlayers playerId v ps) := by
  rw [applyTransition, transitionOf_playerMutation playerId _ h,
    transitionOf_roundMutation playerId hnd h]
  rfl

/-- The pipeline accepts exactly what the validator accepts, at the expected version, and applies
it as described. -/
theorem applyAction_eq (hnd : (ps.map (·.playerId)).Nodup) (ev : Option Int)
    (hacc : Accepted g ps playerId action amount p a v) (hev : ∀ n ∈ ev, g.version = n) :
    applyAction g ps playerId action amount ev =
      .ok (⟨v.action, v.amount, (g.acted p v (actedPlayers playerId v ps)).isActionClosed,
          (g.acted p v (actedPlayers playerId v ps)).actingPlayerId⟩,
        g.acted p v (actedPlayers playerId v ps), actedPlayers playerId v ps) := by
  have hval : validateBet (buildHandContext g ps) playerId action amount = .ok v :=
    validateBet_eq_ok_iff.mpr
      ⟨p, hacc.permitted, validateAction_eq_ok_iff.mpr ⟨a, hacc.word, hacc.outcome⟩⟩
  have hnta := nextToAct_actionSeats playerId hnd hacc.outcome
  have hhigh : (buildHandContext g ps).currentHighestBet = g.currentHighestBet := rfl
  rw [applyAction, if_neg (by rintro ⟨n, hn, hne⟩; exact hne (hev n hn))]
  simp only [transitionHandState, hval, hacc.permitted.found,
    applyTransition_transitionOf playerId hnd hacc.outcome]
  simp only [transitionOf, hhigh, hnta, Round.acted]

/-- What an accepted action does to the stored rows. -/
theorem exists_accepted_of_applyAction (hnd : (ps.map (·.playerId)).Nodup) {ev : Option Int}
    {out : ApplyActionResult × Round × List RoundPlayer}
    (h : applyAction g ps playerId action amount ev = .ok out) :
    (∀ n ∈ ev, g.version = n) ∧ ∃ p a v, Accepted g ps playerId action amount p a v ∧
      out = (⟨v.action, v.amount, (g.acted p v (actedPlayers playerId v ps)).isActionClosed,
          (g.acted p v (actedPlayers playerId v ps)).actingPlayerId⟩,
        g.acted p v (actedPlayers playerId v ps), actedPlayers playerId v ps) := by
  have hev : ∀ n ∈ ev, g.version = n := by
    intro n hn
    by_contra hne
    rw [applyAction, if_pos ⟨n, hn, hne⟩] at h
    cases h
  refine ⟨hev, ?_⟩
  have hval : ∃ v, validateBet (buildHandContext g ps) playerId action amount = .ok v := by
    rw [applyAction, if_neg (by rintro ⟨n, hn, hne⟩; exact hne (hev n hn))] at h
    simp only [transitionHandState] at h
    cases hv : validateBet (buildHandContext g ps) playerId action amount with
    | ok v => exact ⟨v, rfl⟩
    | error e => rw [hv] at h; simp at h
  obtain ⟨v, hval⟩ := hval
  obtain ⟨p, hper, hact⟩ := validateBet_eq_ok_iff.mp hval
  obtain ⟨a, hword, hout⟩ := validateAction_eq_ok_iff.mp hact
  have hacc : Accepted g ps playerId action amount p a v := ⟨hper, hword, hout⟩
  rw [applyAction_eq hnd ev hacc hev, Except.ok.injEq] at h
  exact ⟨p, a, v, hacc, h.symm⟩

end PokerRoom
