import PokerRoom.Application.GameQueries
import PokerRoom.Hand.BettingRun

/-!
# The offered actions are the accepted ones

The rules of betting are written twice: the validator checks a request, and the table state offers
the player who has the turn his actions with the bounds of their amounts.  `legal_actions_exact`
says that the two agree: what is offered is accepted, and what is accepted comes to the same as
something offered.  A bet or raise below the minimum that takes the whole stack is not offered as
such; it comes to the all-in that is.
-/

namespace PokerRoom

open Foundation

/-! ## Definitions -/

/-- The player has to decide: he has the turn in an open betting and has chips to bet. -/
structure Deciding (r : RoundTables) (p : RoundPlayer) : Prop where
  /-- The round is active. -/
  status : r.round.status = .active
  /-- The betting is open. -/
  open_ : r.round.isActionClosed = false
  /-- A raise is by something. -/
  minRaise_pos : 0 < r.round.minimumRaiseAmount
  /-- The turn is the player's. -/
  acting : r.round.actingPlayerId = some p.playerId
  /-- The player has an identifier. -/
  playerId_ne : p.playerId ≠ ""
  /-- The identifier names him. -/
  found : (r.players.find? fun q => q.playerId = p.playerId) = some p
  /-- He can act. -/
  canAct : p.CanAct
  /-- He has chips. -/
  stack_pos : 0 < p.stackRemaining
  /-- His commitment to the street is not negative. -/
  street_nonneg : 0 ≤ p.committedThisStreet
  /-- It is at most the bet to match. -/
  le_highest : p.committedThisStreet ≤ r.round.currentHighestBet

/-- What the validator answers to a request of the player. -/
def validated (r : RoundTables) (p : RoundPlayer) (action : String) (amount : Int) :
    Except DomainError ValidatedAction :=
  validateBet (buildHandContext r.round r.players) p.playerId action amount

variable {r : RoundTables} {p : RoundPlayer} {action : String} {amount : Int} {v : ValidatedAction}

/-! ## The validator and the offers -/

/-- A player who has to decide passes the gates. -/
lemma Deciding.permitted (h : Deciding r p) :
    Permitted (buildHandContext r.round r.players) p.playerId p :=
  ⟨h.status, h.open_, h.found, h.canAct, Or.inr h.acting⟩

/-- The validator accepts of a player who has to decide exactly the outcomes of the action rules. -/
lemma Deciding.validated_eq_ok_iff (h : Deciding r p) :
    validated r p action amount = .ok v ↔
      ∃ a, BetAction.ofValue? (upper action) = some a ∧
        BetOutcome (buildHandContext r.round r.players) p a amount v := by
  rw [validated, validateBet_eq_ok_iff, ← validateAction_eq_ok_iff]
  constructor
  · rintro ⟨q, hper, hact⟩
    obtain rfl := Option.some.inj (h.found.symm.trans hper.found)
    exact hact
  · exact fun hact => ⟨p, h.permitted, hact⟩

/-- A player who has to decide is offered the listed actions. -/
lemma Deciding.mem_legalActions_iff (h : Deciding r p) {offer : LegalAction} :
    offer ∈ (getTableState r).legalActions ↔ Offered r.round p offer := by
  have hacting : r.actingRp = some p := by
    simp [RoundTables.actingRp, h.acting, truthy_some h.playerId_ne, h.open_, h.found]
  rw [← mem_offers_iff h.stack_pos, getTableState, hacting]
  rfl

/-- The word of an action names it. -/
lemma ofValue?_upper_value (a : BetAction) : BetAction.ofValue? (upper a.value) = some a := by
  rw [upper_value, ofValue?_eq_some_iff]

/-- The word of an action is accepted with an amount where the action rules allow it. -/
lemma Deciding.validated_value (h : Deciding r p) {a : BetAction}
    (hout : BetOutcome (buildHandContext r.round r.players) p a amount v) :
    validated r p a.value amount = .ok v :=
  h.validated_eq_ok_iff.mpr ⟨a, ofValue?_upper_value a, hout⟩

/-- What is offered is accepted. -/
lemma Deciding.accepted_of_offered (h : Deciding r p) {offer : LegalAction}
    (hoffer : Offered r.round p offer) (hadmits : offer.Admits amount) :
    ∃ v, validated r p offer.action.value amount = .ok v := by
  have hstack := h.stack_pos
  have hmin := h.minRaise_pos
  have hstreet := h.street_nonneg
  have hle := h.le_highest
  cases hoffer with
  | fold => exact ⟨_, h.validated_value (.fold amount)⟩
  | check hzero =>
    refine ⟨_, h.validated_value (.check amount ?_)⟩
    simp only [Round.callAmountOf, buildHandContext] at hzero ⊢
    omega
  | call howes =>
    simp only [Round.callAmountOf] at howes
    by_cases hall : p.stackRemaining ≤ r.round.currentHighestBet - p.committedThisStreet
    · exact ⟨_, h.validated_value (.callAllIn amount (by simp only [buildHandContext]; omega) hall)⟩
    · exact ⟨_, h.validated_value (.call amount (by simp only [buildHandContext]; omega)
        (not_le.mp hall))⟩
  | bet hzero =>
    obtain ⟨hleast, hlargest⟩ := admits_iff.mp hadmits
    by_cases hall : amount = p.stackRemaining
    · exact ⟨_, h.validated_value (.betAllIn amount hzero.le (by omega) hall)⟩
    · exact ⟨_, h.validated_value (.bet amount hzero.le (by omega) (by omega) hleast)⟩
  | raise hbet hcall =>
    obtain ⟨hleast, hlargest⟩ := admits_iff.mp hadmits
    simp only [Round.callAmountOf] at hleast hlargest hcall
    by_cases hall : amount - p.committedThisStreet = p.stackRemaining
    · exact ⟨_, h.validated_value (.raiseAllIn amount hbet.ne' (by omega) (by omega) hall)⟩
    · refine ⟨_, h.validated_value (.raise amount hbet.ne' (by omega) (by omega) (by omega) ?_)⟩
      simp only [buildHandContext]
      omega
  | allIn => exact ⟨_, h.validated_value (.allIn amount hstack)⟩

/-- What is accepted comes to the same as something offered. -/
lemma Deciding.offered_of_accepted (h : Deciding r p)
    {a : BetAction} (hout : BetOutcome (buildHandContext r.round r.players) p a amount v) :
    ∃ offer, Offered r.round p offer ∧
      ∃ amount', offer.Admits amount' ∧ validated r p offer.action.value amount' = .ok v := by
  have hstack := h.stack_pos
  have hle := h.le_highest
  have hstreet := h.street_nonneg
  -- an action that takes the whole stack comes to the offered all-in
  have hallIn : ∃ offer, Offered r.round p offer ∧ ∃ amount', offer.Admits amount' ∧
      validated r p offer.action.value amount' = .ok ⟨.allIn, p.stackRemaining⟩ :=
    ⟨_, .allIn, p.stackRemaining, admits_iff.mpr ⟨le_rfl, le_rfl⟩,
      h.validated_value (.allIn p.stackRemaining hstack)⟩
  cases hout with
  | fold amount =>
    exact ⟨_, .fold, amount, admits_unbounded .fold amount, h.validated_value (.fold amount)⟩
  | check amount hmatched =>
    refine ⟨_, .check ?_, amount, admits_unbounded .check amount,
      h.validated_value (.check amount hmatched)⟩
    simp only [Round.callAmountOf, buildHandContext] at hmatched ⊢
    omega
  | call amount howes hlt =>
    refine ⟨_, .call ?_, min (r.round.callAmountOf p) p.stackRemaining,
      admits_iff.mpr ⟨le_rfl, le_rfl⟩, h.validated_value (.call _ howes hlt)⟩
    simp only [Round.callAmountOf, buildHandContext] at howes ⊢
    omega
  | callAllIn | allIn => exact hallIn
  | betAllIn amount hopen hpos hall => rw [hall]; exact hallIn
  | raiseAllIn amount hbet hpos hadd hall => rw [hall]; exact hallIn
  | bet amount hopen hpos hlt hmin =>
    refine ⟨_, .bet ?_, amount, admits_iff.mpr ⟨hmin, hlt.le⟩,
      h.validated_value (.bet amount hopen hpos hlt hmin)⟩
    simp only [buildHandContext] at hopen
    omega
  | raise amount hbet hpos hadd hlt hmin =>
    have hminRaise := h.minRaise_pos
    simp only [buildHandContext] at hbet hmin
    refine ⟨_, .raise (by omega) ?_, amount, admits_iff.mpr ⟨by omega, by omega⟩,
      h.validated_value (.raise amount hbet hpos hadd hlt hmin)⟩
    simp only [Round.callAmountOf]
    omega

/-- **The offered actions are exactly the accepted ones.** Whatever a player who has to decide is
offered is accepted with every amount between its bounds, and whatever is accepted of him comes to
the same effective action as something he is offered. -/
theorem legal_actions_exact (h : Deciding r p) :
    (∀ offer ∈ (getTableState r).legalActions, ∀ amount, offer.Admits amount →
      ∃ v, validated r p offer.action.value amount = .ok v) ∧
    ∀ action amount v, validated r p action amount = .ok v →
      ∃ offer ∈ (getTableState r).legalActions, ∃ amount', offer.Admits amount' ∧
        validated r p offer.action.value amount' = .ok v := by
  constructor
  · intro offer hoffer amount hadmits
    exact h.accepted_of_offered (h.mem_legalActions_iff.mp hoffer) hadmits
  · intro action amount v hok
    obtain ⟨a, -, hout⟩ := h.validated_eq_ok_iff.mp hok
    obtain ⟨offer, hoffer, haccepted⟩ := h.offered_of_accepted hout
    exact ⟨offer, h.mem_legalActions_iff.mpr hoffer, haccepted⟩

/-- The small blind who opens a heads-up hand is offered a raise to a total of four chips and more,
and one to six is accepted. -/
theorem legal_actions_exact_headsUp :
    ∃ v, validated (headsUp.tables headsUpIds)
      ⟨"alice", 1, 99, 1, 1, false, false, true⟩ "RAISE" 6 =
      .ok v :=
  (legal_actions_exact (r := headsUp.tables headsUpIds)
    (p := ⟨"alice", 1, 99, 1, 1, false, false, true⟩)
    ⟨by decide, by decide, by decide, by decide, by decide, by decide, by decide, by decide,
      by decide, by decide⟩).1
    { action := .raise, minAmount := some 4, maxAmount := some 100 } (by decide) 6 (by decide)

end PokerRoom
