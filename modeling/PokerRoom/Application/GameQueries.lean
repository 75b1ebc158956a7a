import PokerRoom.Domain.Ledger.HandReplay
import PokerRoom.Domain.Reporting.SettlementExplainer

/-!
# Queries on a round

`get_table_state` of `application/queries/game_query_service.py`: what a client is shown of a round,
with the actions the player who has the turn may take and the amounts he may send with them.  The
amount of a raise is the total commitment to the street, as the validator reads it.
`check_consistency` compares the stored rows of a round with its ledger.
`get_settlement_explanation` explains the stored payouts; `potWinners_submittedPots` says which
winners it hands to the explainer.
-/

namespace PokerRoom

open Foundation

/-! ## Definitions -/

/-- An action a client is offered, with the bounds of its amount where it needs one. -/
structure LegalAction where
  /-- The action. -/
  action : BetAction
  /-- The least amount, if the action needs one. -/
  minAmount : Option Int := none
  /-- The largest amount, if the action needs one. -/
  maxAmount : Option Int := none
deriving DecidableEq, Repr

/-- What a client is shown of a round.  The identifier of its game is left out. -/
structure TableStateResponse where
  /-- Identifier of the round. -/
  roundId : String
  /-- Number of the round within its game. -/
  roundNumber : Int
  /-- The current street. -/
  street : Street
  /-- Chips in the pot. -/
  potAmount : Int
  /-- The player whose turn it is, if any. -/
  actingPlayerId : Option String
  /-- The bet to match. -/
  currentHighestBet : Int
  /-- The smallest allowed raise increment. -/
  minimumRaiseAmount : Int
  /-- The betting on this street is over. -/
  isActionClosed : Bool
  /-- Version counter of the round. -/
  stateVersion : Int
  /-- Seat of the button. -/
  dealerSeat : Int
  /-- Seat that posts the small blind. -/
  smallBlindSeat : Int
  /-- Seat that posts the big blind. -/
  bigBlindSeat : Int
  /-- Seat of the last aggressor, if any. -/
  lastAggressorSeat : Option Int
  /-- What the player who has the turn owes, if there is one. -/
  callAmount : Option Int
  /-- The cards can be shown. -/
  isShowdownReady : Bool
  /-- What the player who has the turn may do. -/
  legalActions : List LegalAction
  /-- The players. -/
  players : List RoundPlayer
deriving DecidableEq, Repr

/-- What the acting player owes. -/
def Round.callAmountOf (g : Round) (actingRp : RoundPlayer) : Int :=
  max 0 (g.currentHighestBet - actingRp.committedThisStreet)

/-- The actions the acting player is offered. -/
def Round.offers (g : Round) (actingRp : RoundPlayer) : List LegalAction :=
  let callAmount := g.callAmountOf actingRp
  let stack := actingRp.stackRemaining
  let effectiveCall := min callAmount stack
  [{ action := .fold }] ++
  (if callAmount = 0 then [{ action := .check }]
    else [{ action := .call, minAmount := some effectiveCall, maxAmount := some effectiveCall }]) ++
  (if g.currentHighestBet = 0 ∧ stack > 0 then
      [{ action := .bet, minAmount := some g.minimumRaiseAmount, maxAmount := some stack }]
    else if g.currentHighestBet > 0 ∧ stack > callAmount then
      [{ action := .raise
         minAmount := some (g.currentHighestBet + g.minimumRaiseAmount)
         maxAmount := some (actingRp.committedThisStreet + stack) }]
    else []) ++
  (if stack > 0 then
    [{ action := .allIn, minAmount := some stack, maxAmount := some stack }] else [])

/-- The row of the player who is to act, while the betting is open. -/
def RoundTables.actingRp (r : RoundTables) : Option RoundPlayer :=
  match truthy r.round.actingPlayerId with
  | some playerId =>
    if r.round.isActionClosed then none else r.players.find? fun rp => rp.playerId = playerId
  | none => none

/-- What a client is shown of a round. -/
def getTableState (r : RoundTables) : TableStateResponse :=
  { roundId := r.round.roundId
    roundNumber := r.round.roundNumber
    street := r.round.street
    potAmount := r.round.potAmount
    actingPlayerId := r.round.actingPlayerId
    currentHighestBet := r.round.currentHighestBet
    minimumRaiseAmount := r.round.minimumRaiseAmount
    isActionClosed := r.round.isActionClosed
    stateVersion := r.round.stateVersion
    dealerSeat := r.round.dealerSeat
    smallBlindSeat := r.round.smallBlindSeat
    bigBlindSeat := r.round.bigBlindSeat
    lastAggressorSeat := r.round.lastAggressorSeat
    callAmount := r.actingRp.map r.round.callAmountOf
    isShowdownReady := decide (r.round.street = .showdown ∨ r.round.status = .completed)
    legalActions := (r.actingRp.map r.round.offers).getD []
    players := r.players }

/-! ## Specification -/

/-- The amount lies between the bounds of the offered action, where they are given. -/
def LegalAction.Admits (offer : LegalAction) (amount : Int) : Prop :=
  (∀ least ∈ offer.minAmount, least ≤ amount) ∧ ∀ largest ∈ offer.maxAmount, amount ≤ largest

instance (offer : LegalAction) (amount : Int) : Decidable (offer.Admits amount) :=
  inferInstanceAs (Decidable ((∀ least ∈ offer.minAmount, _) ∧ _))

/-- An action without bounds admits every amount. -/
lemma admits_unbounded (a : BetAction) (amount : Int) :
    LegalAction.Admits { action := a } amount := by
  simp [LegalAction.Admits]

/-- An action with bounds admits the amounts between them. -/
lemma admits_iff {a : BetAction} {least largest amount : Int} :
    LegalAction.Admits { action := a, minAmount := some least, maxAmount := some largest } amount ↔
      least ≤ amount ∧ amount ≤ largest := by
  simp [LegalAction.Admits]

/-- What a player with chips is offered. -/
inductive Offered (g : Round) (p : RoundPlayer) : LegalAction → Prop
  | fold : Offered g p { action := .fold }
  | check (h : g.callAmountOf p = 0) : Offered g p { action := .check }
  | call (h : g.callAmountOf p ≠ 0) :
    Offered g p
      { action := .call
        minAmount := some (min (g.callAmountOf p) p.stackRemaining)
        maxAmount := some (min (g.callAmountOf p) p.stackRemaining) }
  | bet (h : g.currentHighestBet = 0) :
    Offered g p
      { action := .bet
        minAmount := some g.minimumRaiseAmount
        maxAmount := some p.stackRemaining }
  | raise (h : 0 < g.currentHighestBet) (hstack : g.callAmountOf p < p.stackRemaining) :
    Offered g p
      { action := .raise
        minAmount := some (g.currentHighestBet + g.minimumRaiseAmount)
        maxAmount := some (p.committedThisStreet + p.stackRemaining) }
  | allIn : Offered g p
      { action := .allIn
        minAmount := some p.stackRemaining
        maxAmount := some p.stackRemaining }

/-- A player with chips is offered exactly the listed actions. -/
theorem mem_offers_iff {g : Round} {p : RoundPlayer} (hstack : 0 < p.stackRemaining)
    {offer : LegalAction} : offer ∈ g.offers p ↔ Offered g p offer := by
  constructor
  · intro h
    simp only [Round.offers, List.mem_append, List.mem_singleton] at h
    rcases h with ((rfl | h) | h) | h
    · exact .fold
    · split at h
      · next hzero => exact List.mem_singleton.mp h ▸ .check hzero
      · next howes => exact List.mem_singleton.mp h ▸ .call howes
    · split at h
      · next hbet => exact List.mem_singleton.mp h ▸ .bet hbet.1
      · split at h
        · next hraise => exact List.mem_singleton.mp h ▸ .raise hraise.1 hraise.2
        · cases h
    · rw [if_pos hstack] at h
      exact List.mem_singleton.mp h ▸ .allIn
  · intro h
    simp only [Round.offers, List.mem_append, List.mem_singleton]
    cases h with
    | fold => exact Or.inl (Or.inl (Or.inl rfl))
    | check h => exact Or.inl (Or.inl (Or.inr (by rw [if_pos h]; exact List.mem_singleton_self _)))
    | call h => exact Or.inl (Or.inl (Or.inr (by rw [if_neg h]; exact List.mem_singleton_self _)))
    | bet h =>
      exact Or.inl (Or.inr (by rw [if_pos ⟨h, hstack⟩]; exact List.mem_singleton_self _))
    | raise h hlt =>
      refine Or.inl (Or.inr ?_)
      rw [if_neg (by omega), if_pos ⟨h, hlt⟩]
      exact List.mem_singleton_self _
    | allIn => exact Or.inr (by rw [if_pos hstack]; exact List.mem_singleton_self _)

/-! ## The consistency check -/

/-- The answer of the consistency check. -/
structure ConsistencyCheckResponse where
  /-- Identifier of the round. -/
  roundId : String
  /-- Nothing is reported. -/
  isConsistent : Bool
  /-- What is reported. -/
  discrepancies : List String
deriving DecidableEq, Repr

/-- Compare the rows of a round with the hand rebuilt from its ledger. -/
def checkConsistency (r : RoundTables) : ConsistencyCheckResponse :=
  let liveCommitted := r.players.map fun rp => (rp.playerId, rp.committedThisHand)
  let discrepancies :=
    verifyConsistency (r.ledger.map (·.toLedgerRow)) r.round.potAmount liveCommitted
  { roundId := r.round.roundId
    isConsistent := discrepancies.length = 0
    discrepancies := discrepancies }

/-! ## The settlement explanation -/

/-- What a client is shown of a pot of a settlement. -/
structure PotExplanationSchema where
  /-- Index of the pot. -/
  potIndex : Int
  /-- What the pot is called. -/
  potType : String
  /-- Chips in the pot. -/
  amount : Int
  /-- Players who contributed to it. -/
  contributors : List String
  /-- Its winners. -/
  winners : List WinnerDetail
deriving DecidableEq, Repr

/-- What a client is shown of a settlement. -/
structure SettlementExplanationResponse where
  /-- Identifier of the round. -/
  roundId : String
  /-- The pots. -/
  pots : List PotExplanationSchema
  /-- The explanation in words. -/
  narrative : List String
deriving DecidableEq, Repr

/-- The payout rows of a round, ordered by their pots. -/
def getRoundPayouts (r : RoundTables) : List RoundPayout :=
  r.payouts.insertionSort fun p q => p.potIndex ≤ q.potIndex

/-- What a stored player contributed to the hand, as the explanation reads it. -/
def PlayerState.explainedContribution (rp : RoundPlayer) : PlayerContribution :=
  { playerId := rp.playerId
    committedThisHand := rp.committedThisHand
    hasFolded := rp.hasFolded
    reachedShowdown := !rp.hasFolded }

/-- The winner a payout row names. -/
def RoundPayout.winner (p : RoundPayout) : WinnerDetail := ⟨p.playerId, p.amount⟩

/-- The winners of a pot with those of a further row. -/
def SubmittedPot.add (p : RoundPayout) (sp : SubmittedPot) : SubmittedPot :=
  { sp with winners := sp.winners ++ [p.winner] }

/-- The payout rows, pot by pot. -/
def submittedPots (payouts : List RoundPayout) : List SubmittedPot :=
  payouts.foldl (fun submitted p =>
    upsert (·.potIndex) p.potIndex { potIndex := p.potIndex } (·.add p) submitted) []

/-- The explanation of the stored payouts of a round. -/
def settlementExplanation (r : RoundTables) : SettlementExplanation :=
  let submitted := submittedPots (getRoundPayouts r)
  explainSettlement (r.players.map (·.explainedContribution))
    (if submitted ≠ [] then some submitted else none)

/-- What a client is shown of the settlement of a round. -/
def getSettlementExplanation (r : RoundTables) : SettlementExplanationResponse :=
  { roundId := r.round.roundId
    pots := (settlementExplanation r).pots.map fun pe =>
      { potIndex := pe.potIndex
        potType := pe.potLabel
        amount := pe.amount
        contributors := pe.contributorPlayerIds
        winners := pe.winners }
    narrative := (settlementExplanation r).narrative }

variable {payouts : List RoundPayout}

/-- There is at most one list of winners of a pot. -/
lemma submittedPots_nodup (payouts : List RoundPayout) :
    ((submittedPots payouts).map (·.potIndex)).Nodup := by
  induction payouts using List.reverseRecOn with
  | nil => exact List.nodup_nil
  | append_singleton payouts p ih =>
    rw [submittedPots, List.foldl_concat]
    exact nodup_upsert (f := SubmittedPot.add p) (fun _ => rfl) rfl ih

/-- The winners of a pot are those its rows name, in their order. -/
lemma find?_submittedPots (payouts : List RoundPayout) (potIndex : Int) :
    (((submittedPots payouts).find? fun sp => sp.potIndex = potIndex).map (·.winners)).getD [] =
      (payouts.filter fun p => p.potIndex = potIndex).map (·.winner) := by
  induction payouts using List.reverseRecOn with
  | nil => rfl
  | append_singleton payouts p ih =>
    have hkey : ∀ sp : SubmittedPot, (sp.add p).potIndex = sp.potIndex := fun _ => rfl
    have hlook :=
      find?_upsert hkey (l := submittedPots payouts) (a := { potIndex := p.potIndex }) rfl
      potIndex
    rw [submittedPots, List.foldl_concat, ← submittedPots, hlook, List.filter_append,
      List.map_append,
      ← ih]
    by_cases hindex : potIndex = p.potIndex
    · subst hindex
      rw [if_pos rfl]
      cases (submittedPots payouts).find? fun sp => sp.potIndex = p.potIndex with
      | none => simp [SubmittedPot.add]
      | some sp => simp [SubmittedPot.add]
    · rw [if_neg hindex]
      simp [Ne.symm hindex]

/-- The explanation of a pot is handed the winners its rows name, in their order. -/
lemma potWinners_submittedPots (payouts : List RoundPayout) (potIndex : Int) :
    potWinners (submittedPots payouts) potIndex =
      (payouts.filter fun p => p.potIndex = potIndex).map (·.winner) := by
  have hnd := submittedPots_nodup payouts
  have hrev : ((submittedPots payouts).reverse.map (·.potIndex)).Nodup := by
    rw [List.map_reverse]
    exact List.nodup_reverse.mpr hnd
  have hfind : (submittedPots payouts).reverse.find? (fun sp => sp.potIndex = potIndex) =
      (submittedPots payouts).find? fun sp => sp.potIndex = potIndex := by
    ext sp
    rw [find?_key_eq_some_iff hrev, find?_key_eq_some_iff hnd, List.mem_reverse]
  rw [potWinners, hfind, ← find?_submittedPots]
  cases (submittedPots payouts).find? fun sp => sp.potIndex = potIndex <;> rfl

end PokerRoom
