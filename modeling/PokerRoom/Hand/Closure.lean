import PokerRoom.Hand.BettingState

/-!
# When the betting closes

The turn engine closes the betting when the scan from the actor returns to the last aggressor or
meets nobody who owes chips, and also as soon as fewer than two players can act.  In the first two
cases everybody who can act has matched the bet; in the last one the only player who can still act
may be cut off while he owes chips.  `settledUp_iff` says exactly when an action does that.

The scan is trusted to stop at the last aggressor because everybody met between him and the actor
has matched the bet; this is the invariant `AggressorCovered`.
-/

namespace PokerRoom

open Foundation

/-! ## Definitions -/

/-- At most one player has not folded, or everybody who can act has matched the bet. -/
def SettledUp (r : RoundTables) : Prop :=
  (r.players.filter fun p => p.hasFolded = false).length ≤ 1 ∨
    ∀ p ∈ r.players, p.CanAct → p.committedThisStreet = r.round.currentHighestBet

instance : DecidablePred SettledUp := fun _ => inferInstanceAs (Decidable (_ ∨ _))

/-- What a player will have committed to the street when his action is accepted. -/
def requestedTotal (g : Round) (p : PlayerState) (a : BetAction) (amount : Int) : Int :=
  match a with
  | .fold | .check => p.committedThisStreet
  | .call => min g.currentHighestBet (p.committedThisStreet + p.stackRemaining)
  | .bet => p.committedThisStreet + amount
  | .raise => amount
  | .allIn => p.committedThisStreet + p.stackRemaining

/-- The action takes its player out of the betting: he folds or commits his last chip. -/
def Leaves (g : Round) (p : PlayerState) (a : BetAction) (amount : Int) : Prop :=
  a = .fold ∨ requestedTotal g p a amount = p.committedThisStreet + p.stackRemaining

instance (g : Round) (p : PlayerState) (a : BetAction) (amount : Int) :
    Decidable (Leaves g p a amount) := inferInstanceAs (Decidable (_ ∨ _))

/-- The action of the player `p` leaves exactly one other player `q` able to act, who has committed
less than the bet that results, and somebody else is still in the hand. -/
structure CutsOff (r : RoundTables) (p : RoundPlayer) (a : BetAction) (amount : Int)
    (q : RoundPlayer) : Prop where
  /-- The actor leaves the betting. -/
  leaves : Leaves r.round p a amount
  /-- The other player is one of the round. -/
  mem : q ∈ r.players
  /-- He is another one. -/
  ne : q ≠ p
  /-- He can act. -/
  canAct : q.CanAct
  /-- Nobody else but the actor can. -/
  only : ∀ o ∈ r.players, o ≠ p → o.CanAct → o = q
  /-- He has committed less than the bet that results. -/
  owes : q.committedThisStreet <
    max r.round.currentHighestBet (requestedTotal r.round p a amount)
  /-- The actor stays in the hand, or somebody else does. -/
  contested : a ≠ .fold ∨ ∃ o ∈ r.players, o ≠ p ∧ o ≠ q ∧ o.hasFolded = false

instance (r : RoundTables) (p : RoundPlayer) (a : BetAction) (amount : Int) (q : RoundPlayer) :
    Decidable (CutsOff r p a amount q) :=
  decidable_of_iff
    (Leaves r.round p a amount ∧ q ∈ r.players ∧ q ≠ p ∧ q.CanAct ∧
      (∀ o ∈ r.players, o ≠ p → o.CanAct → o = q) ∧
      q.committedThisStreet < max r.round.currentHighestBet (requestedTotal r.round p a amount) ∧
      (a ≠ .fold ∨ ∃ o ∈ r.players, o ≠ p ∧ o ≠ q ∧ o.hasFolded = false))
    ⟨fun ⟨h₁, h₂, h₃, h₄, h₅, h₆, h₇⟩ => ⟨h₁, h₂, h₃, h₄, h₅, h₆, h₇⟩,
      fun ⟨h₁, h₂, h₃, h₄, h₅, h₆, h₇⟩ => ⟨h₁, h₂, h₃, h₄, h₅, h₆, h₇⟩⟩

/-- While the betting is open, a last aggressor who can act is not the actor, has matched the bet,
and so has everybody who can act and is met between him and the actor. -/
def AggressorCovered (r : RoundTables) : Prop :=
  r.round.isActionClosed = false → ∀ actor ∈ r.players,
    r.round.actingPlayerId = some actor.playerId → ∀ b ∈ r.players,
    r.round.lastAggressorSeat = some b.seatNumber → b.CanAct →
      b ≠ actor ∧ b.committedThisStreet = r.round.currentHighestBet ∧
      ∀ q ∈ r.players, q.CanAct → Before b.seatNumber q.seatNumber actor.seatNumber →
        q.committedThisStreet = r.round.currentHighestBet

variable {r r' : RoundTables} {d : Deal} {data : PlaceBet} {ids : Uuids} {p : PlayerState}
  {a : BetAction} {v : ValidatedAction} {amount : Int}

/-! ## One action -/

/-- After his action the player has committed what he requested. -/
lemma BetOutcome.requestedTotal_eq {g : Round} {ps : List RoundPlayer}
    (h : BetOutcome (buildHandContext g ps) p a amount v) :
    p.committedThisStreet + v.amount = requestedTotal g p a amount := by
  cases h <;> simp only [requestedTotal, buildHandContext] at * <;> omega

/-- A player who can act afterwards has matched the bet with his action. -/
lemma BetOutcome.act_matches {g : Round} {ps : List RoundPlayer}
    (h : BetOutcome (buildHandContext g ps) p a amount v)
    (hstreet : 0 ≤ p.committedThisStreet) (hle : p.committedThisStreet ≤ g.currentHighestBet)
    (hmin : 0 ≤ g.minimumRaiseAmount) (hcan : (p.act v).CanAct) :
    (p.act v).committedThisStreet = highestAfter g p v := by
  rw [highestAfter_eq_max h hle]
  simp only [PlayerState.CanAct, PlayerState.act] at hcan ⊢
  cases h with
  | fold => simp at hcan
  | callAllIn | betAllIn | raiseAllIn | allIn => simp at hcan
  | check | call | bet | raise => simp only [buildHandContext] at *; omega

/-- The actor can act afterwards unless his action takes him out of the betting. -/
lemma BetOutcome.act_canAct_iff {g : Round} {ps : List RoundPlayer}
    (h : BetOutcome (buildHandContext g ps) p a amount v) (hcan : p.CanAct)
    (hstack : 0 < p.stackRemaining) : (p.act v).CanAct ↔ ¬ Leaves g p a amount := by
  have hallIn := h.allIn_iff hstack
  have htotal := h.requestedTotal_eq
  have hfold : v.action = .fold ↔ a = .fold := by cases h <;> simp
  obtain ⟨hactive, hfolded, hnot⟩ := hcan
  simp only [PlayerState.CanAct, PlayerState.act, hactive, hfolded, hnot, Bool.true_and,
    Bool.false_or, decide_eq_true_eq, decide_eq_false_iff_not, Leaves]
  have hall : p.committedThisStreet + v.amount = p.committedThisStreet + p.stackRemaining ↔
      v.amount = p.stackRemaining := by omega
  rw [hallIn, ne_eq, hfold, ← htotal, hall]
  tauto

/-- A player who can act after his own action has matched the bet. -/
lemma BetApplied.act_eq_highest (hinv : BettingInvariant d.toRoundSetup r)
    (happ : BetApplied r data ids p a v r') (hcan : (p.act v).CanAct) :
    (p.act v).committedThisStreet = r'.round.currentHighestBet := by
  have hp := happ.accepted.mem.1
  rw [happ.highest_eq]
  refine happ.accepted.outcome.act_matches (hinv.chips.players p hp).street_nonneg
    (hinv.state.le_highest p hp) ?_ hcan
  exact d.bigBlind_nonneg.trans hinv.state.minRaise_ge

/-- Where the action was not aggressive, a last aggressor who can act is somebody else, who had been
the last aggressor before. -/
lemma BetApplied.aggressor_before (hinv : BettingInvariant d.toRoundSetup r)
    (hcov : AggressorCovered r) (happ : BetApplied r data ids p a v r')
    (hagg : v.action.isAggressive = false) {b : RoundPlayer} (hb : b ∈ r'.players)
    (hbagg : r'.round.lastAggressorSeat = some b.seatNumber) (hbcan : b.CanAct) :
    b ∈ r.players ∧ b ≠ p ∧ b.committedThisStreet = r.round.currentHighestBet ∧
      ∀ q ∈ r.players, q.CanAct → Before b.seatNumber q.seatNumber p.seatNumber →
        q.committedThisStreet = r.round.currentHighestBet := by
  have hp := happ.accepted.mem.1
  have hopen : r.round.isActionClosed = false := happ.accepted.permitted.open_
  have hacting := happ.acting hinv
  have hbefore : r.round.lastAggressorSeat = some b.seatNumber := by
    rw [happ.aggressor_eq, aggressorAfter, if_neg (by simp [hagg])] at hbagg
    exact hbagg
  rcases (happ.mem_iff hinv).mp hb with rfl | ⟨hb, hne⟩
  · exact absurd rfl (hcov hopen p hp hacting p hp hbefore happ.accepted.permitted.canAct).1
  · obtain ⟨-, hmatch, hcovered⟩ := hcov hopen p hp hacting b hb hbefore hbcan
    exact ⟨hb, hne, hmatch, hcovered⟩

/-- Two players of a round on the same seat are the same player. -/
lemma SeatedAs.eq_of_seat (hseat : SeatedAs d.toRoundSetup r) {q q' : RoundPlayer}
    (hq : q ∈ r.players) (hq' : q' ∈ r.players) (h : q.seatNumber = q'.seatNumber) : q = q' :=
  eq_of_key_eq hseat.seats_nodup hq hq' h

/-- An applied bet keeps the last aggressor covered. -/
lemma AggressorCovered.betApplied (hinv : BettingInvariant d.toRoundSetup r)
    (hinv' : BettingInvariant d.toRoundSetup r') (hcov : AggressorCovered r)
    (happ : BetApplied r data ids p a v r') : AggressorCovered r' := by
  intro hopen actor hactor hacting b hb hbagg hbcan
  obtain ⟨c, hc, hnext, -, hcagg, hfirst⟩ := happ.open_spec hinv'.seated hopen
  obtain rfl := eq_of_key_eq hinv'.seated.ids_nodup hactor hc
    (Option.some.inj (hacting.symm.trans hnext))
  have hmatched : ∀ q ∈ r'.players, q.CanAct →
      Before p.seatNumber q.seatNumber actor.seatNumber →
      q.committedThisStreet = r'.round.currentHighestBet := fun q hq hqcan hbefore =>
    hinv'.state.eq_highest hq hqcan (hfirst q hq hqcan hbefore).1
  refine ⟨fun heq => hcagg (heq ▸ hbagg), ?_⟩
  cases hagg : v.action.isAggressive with
  | true =>
    -- the actor is the new last aggressor
    have hact : p.act v ∈ r'.players := (happ.mem_iff hinv).mpr (Or.inl rfl)
    have hseat : r'.round.lastAggressorSeat = some p.seatNumber := by
      rw [happ.aggressor_eq, aggressorAfter, if_pos hagg]
    obtain rfl := hinv'.seated.eq_of_seat hb hact (Option.some.inj (hbagg.symm.trans hseat))
    exact ⟨happ.act_eq_highest hinv hbcan, hmatched⟩
  | false =>
    obtain ⟨hbr, hbp, hbmatch, hcovered⟩ := happ.aggressor_before hinv hcov hagg hb hbagg hbcan
    have hhigh : r'.round.currentHighestBet = r.round.currentHighestBet := by
      rw [happ.highest_eq, highestAfter_of_not_aggressive hagg]
    refine ⟨hbmatch.trans hhigh.symm, fun q hq hqcan hbefore => ?_⟩
    rcases hbefore.split p.seatNumber with hup | hat | hdown
    · rcases (happ.mem_iff hinv).mp hq with rfl | ⟨hq, -⟩
      · exact happ.act_eq_highest hinv hqcan
      · exact (hcovered q hq hqcan hup).trans hhigh.symm
    · rcases (happ.mem_iff hinv).mp hq with rfl | ⟨hq, hne⟩
      · exact happ.act_eq_highest hinv hqcan
      · exact absurd (hinv.seated.eq_of_seat hq happ.accepted.mem.1 hat) hne
    · exact hmatched q hq hqcan hdown

/-- Where there is no last aggressor, none has to be covered. -/
lemma aggressorCovered_of_none (h : r.round.lastAggressorSeat = none) : AggressorCovered r := by
  intro _ _ _ _ b _ hb
  rw [h] at hb
  cases hb

/-- An accepted command of the betting keeps the last aggressor covered. -/
lemma AggressorCovered.step (hinv : BettingInvariant d.toRoundSetup r) (hcov : AggressorCovered r)
    {c : BettingCommand} (hstep : bettingMachine.step r c = .ok r') : AggressorCovered r' := by
  rcases betting_step_cases hinv.seated.ids_nodup hstep with
    ⟨rfl, -⟩ | ⟨data, ids, p, a, v, -, happ⟩ | ⟨-, hadv⟩
  · exact hcov
  · exact hcov.betApplied hinv (hinv.step hstep) happ
  · cases hadv.outcome with
    | settleHand => exact fun hopen => absurd hopen (by simp)
    | showdown => exact fun hopen => absurd hopen (by simp)
    | nextStreet st p hp hcan => exact aggressorCovered_of_none rfl

/-! ## Closing the betting -/

/-- Where at least two players can act, a bet that closes the betting leaves everybody who can act
with the bet matched. -/
lemma BetApplied.all_matched_of_closed (hinv : BettingInvariant d.toRoundSetup r)
    (hinv' : BettingInvariant d.toRoundSetup r') (hcov : AggressorCovered r)
    (happ : BetApplied r data ids p a v r') (hclosed : r'.round.isActionClosed = true)
    (htwo : ¬ ∀ q ∈ r'.players, ∀ q' ∈ r'.players, q.CanAct → q'.CanAct → q = q') :
    ∀ q ∈ r'.players, q.CanAct → q.committedThisStreet = r'.round.currentHighestBet := by
  intro q hq hqcan
  rcases happ.closed_spec hinv'.seated hclosed with hfew | hnobody | ⟨b, hb, hbagg, hbcan, hbefore⟩
  · exact absurd hfew htwo
  · exact hinv'.state.eq_highest hq hqcan (hnobody q hq)
  · rcases (happ.mem_iff hinv).mp hq with rfl | ⟨hqr, hqp⟩
    · exact happ.act_eq_highest hinv hqcan
    have hqseat : q.seatNumber ≠ p.seatNumber := fun h =>
      hqp (hinv.seated.eq_of_seat hqr happ.accepted.mem.1 h)
    by_cases hup : Before p.seatNumber q.seatNumber b.seatNumber
    · exact hinv'.state.eq_highest hq hqcan (hbefore q hq hup)
    cases hagg : v.action.isAggressive with
    | true =>
      have hseat : b.seatNumber = p.seatNumber := by
        rw [happ.aggressor_eq, aggressorAfter, if_pos hagg] at hbagg
        exact (Option.some.inj hbagg).symm
      rw [hseat] at hup
      exact absurd (before_start hqseat) hup
    | false =>
      obtain ⟨hbr, hbp, hbmatch, hcovered⟩ := happ.aggressor_before hinv hcov hagg hb hbagg hbcan
      have hhigh : r'.round.currentHighestBet = r.round.currentHighestBet := by
        rw [happ.highest_eq, highestAfter_of_not_aggressive hagg]
      by_cases hqb : q = b
      · rw [hqb, hhigh]; exact hbmatch
      have hbseat : b.seatNumber ≠ q.seatNumber := fun h =>
        hqb (hinv.seated.eq_of_seat hbr hqr h).symm
      rcases before_or_before p.seatNumber hbseat with hdown | hdown
      · rw [hhigh]
        exact hcovered q hqr hqcan (hdown.restart hqseat)
      · exact absurd hdown hup

/-- The bet that results is the higher one of the bet before and the requested total. -/
lemma BetApplied.highest_eq_max (hinv : BettingInvariant d.toRoundSetup r)
    (happ : BetApplied r data ids p a v r') :
    r'.round.currentHighestBet =
      max r.round.currentHighestBet (requestedTotal r.round p a data.amount) := by
  have hout := happ.accepted.outcome
  rw [happ.highest_eq, highestAfter_eq_max hout (hinv.state.le_highest p happ.accepted.mem.1),
    hout.requestedTotal_eq]

/-- A bet that cuts off the only other player who can act leaves him owing chips in a contested
hand. -/
lemma CutsOff.not_settledUp (hinv : BettingInvariant d.toRoundSetup r)
    (happ : BetApplied r data ids p a v r') {q : RoundPlayer} (hcut : CutsOff r p a data.amount q) :
    ¬ SettledUp r' := by
  have hp := happ.accepted.mem.1
  have hout := happ.accepted.outcome
  have hact : p.act v ∈ r'.players := (happ.mem_iff hinv).mpr (Or.inl rfl)
  have hothers : ∀ q ∈ r.players, q ≠ p → q ∈ r'.players := fun q hq hne =>
    (happ.mem_iff hinv).mpr (Or.inr ⟨hq, hne⟩)
  rintro (hone | hall)
  · have hq' := hothers q hcut.mem hcut.ne
    -- a second player who has not folded, besides the one cut off
    obtain ⟨o, ho, hoq, hofold⟩ : ∃ o ∈ r'.players, o ≠ q ∧ o.hasFolded = false := by
      rcases hcut.contested with hfold | ⟨o, ho, hop, hoq, hofold⟩
      · refine ⟨p.act v, hact, ?_, ?_⟩
        · intro heq
          exact hcut.ne (eq_of_key_eq hinv.seated.ids_nodup hcut.mem hp
            (by rw [← heq]; rfl))
        · have hv : v.action ≠ .fold := by
            intro hv
            cases hout <;> simp at hv hfold
          simp only [PlayerState.act, happ.accepted.permitted.canAct.2.1, Bool.false_or]
          simpa using hv
      · exact ⟨o, hothers o ho hop, hoq, hofold⟩
    have hsame := eq_of_mem_of_length_lt_two (Nat.lt_succ_of_le hone)
      (List.mem_filter.mpr ⟨ho, by simpa using hofold⟩)
      (List.mem_filter.mpr ⟨hq', by simpa using hcut.canAct.2.1⟩)
    exact hoq hsame
  · have hmatch := hall q (hothers q hcut.mem hcut.ne) hcut.canAct
    have howes := hcut.owes
    rw [← happ.highest_eq_max hinv] at howes
    omega

/-- A bet that closes the betting and cuts off nobody leaves everybody settled up. -/
lemma BetApplied.settledUp (hinv : BettingInvariant d.toRoundSetup r)
    (hinv' : BettingInvariant d.toRoundSetup r') (hcov : AggressorCovered r)
    (happ : BetApplied r data ids p a v r') (hclosed : r'.round.isActionClosed = true)
    (hno : ¬ ∃ q, CutsOff r p a data.amount q) : SettledUp r' := by
  have hp := happ.accepted.mem.1
  have hout := happ.accepted.outcome
  have hact : p.act v ∈ r'.players := (happ.mem_iff hinv).mpr (Or.inl rfl)
  have hothers : ∀ q ∈ r.players, q ≠ p → q ∈ r'.players := fun q hq hne =>
    (happ.mem_iff hinv).mpr (Or.inr ⟨hq, hne⟩)
  have hleaves := hout.act_canAct_iff happ.accepted.permitted.canAct
    (hinv.state.stack_pos hinv.chips hp happ.accepted.permitted.canAct)
  have hnd : r'.players.Nodup := List.Nodup.of_map _ hinv'.seated.ids_nodup
  by_contra hnot
  rw [SettledUp, not_or] at hnot
  obtain ⟨hmany, hunmatched⟩ := hnot
  push Not at hunmatched
  obtain ⟨q, hq, hqcan, hqne⟩ := hunmatched
  have hfew : ∀ o ∈ r'.players, ∀ o' ∈ r'.players, o.CanAct → o'.CanAct → o = o' := by
    by_contra htwo
    exact hqne (happ.all_matched_of_closed hinv hinv' hcov hclosed htwo q hq hqcan)
  rcases (happ.mem_iff hinv).mp hq with rfl | ⟨hqr, hqp⟩
  · exact hqne (happ.act_eq_highest hinv hqcan)
  refine hno ⟨q, ?_, hqr, hqp, hqcan, ?_, ?_, ?_⟩
  · by_contra hstay
    have heq := hfew _ hact q hq (hleaves.mpr hstay) hqcan
    exact hqp (eq_of_key_eq hinv.seated.ids_nodup hqr hp (by rw [← heq]; rfl))
  · exact fun o ho hop hocan => hfew o (hothers o ho hop) q hq hocan hqcan
  · rw [← happ.highest_eq_max hinv]
    exact lt_of_le_of_ne (hinv'.state.le_highest q hq) hqne
  · by_contra hcon
    rw [not_or, not_not] at hcon
    obtain ⟨hfold, hall⟩ := hcon
    push Not at hall
    -- everybody but the one cut off has folded
    apply hmany
    have hsub : r'.players.filter (fun o => o.hasFolded = false) ⊆ [q] := by
      intro o ho
      obtain ⟨ho, hofold⟩ := List.mem_filter.mp ho
      rw [decide_eq_true_eq] at hofold
      rcases (happ.mem_iff hinv).mp ho with rfl | ⟨hor, hop⟩
      · have hv : v.action = .fold := by cases hout <;> simp at hfold ⊢
        simp [PlayerState.act, hv] at hofold
      · by_contra hoq
        rw [List.mem_singleton] at hoq
        exact hall o hor hop hoq hofold
    exact (List.subperm_of_subset (hnd.filter _) hsub).length_le

/-- **When nobody is cut off.**  A bet that closes the betting leaves everybody settled up, exactly
when its action does not cut off the only other player who can act. -/
theorem BetApplied.settledUp_iff (hinv : BettingInvariant d.toRoundSetup r)
    (hinv' : BettingInvariant d.toRoundSetup r') (hcov : AggressorCovered r)
    (happ : BetApplied r data ids p a v r') (hclosed : r'.round.isActionClosed = true) :
    SettledUp r' ↔ ¬ ∃ q, CutsOff r p a data.amount q :=
  ⟨fun hup ⟨_, hcut⟩ => hcut.not_settledUp hinv happ hup,
    fun hno => happ.settledUp hinv hinv' hcov hclosed hno⟩

/-! ## Every run -/

/-- The transition is an action that closes the betting. -/
structure ClosingAction (t : Transition RoundTables BettingCommand) (data : PlaceBet)
    (ids : Uuids) : Prop where
  /-- A player acts. -/
  command : t.command = .placeBet data ids
  /-- The betting was open. -/
  open_before : t.before.round.isActionClosed = false
  /-- It is closed afterwards. -/
  closed_after : t.after.round.isActionClosed = true

/-- A request of a player that changes the round is an applied bet between states that satisfy the
invariants. -/
lemma betApplied_of_mem_trace {ids₀ : Uuids} {r₀ : RoundTables}
    (hdeal : createRound d.toRoundSetup ids₀ = .ok r₀) {cs : List BettingCommand}
    {t : Transition RoundTables BettingCommand} (ht : t ∈ bettingMachine.trace r₀ cs)
    (hcommand : t.command = .placeBet data ids) (hacts : t.after ≠ t.before) :
    BettingInvariant d.toRoundSetup t.before ∧ BettingInvariant d.toRoundSetup t.after ∧
      AggressorCovered t.before ∧ ∃ p a v, BetApplied t.before data ids p a v t.after := by
  have h₀ : AggressorCovered r₀ := by
    obtain ⟨-, -, rfl⟩ := createRound_eq_ok_iff.mp hdeal
    exact aggressorCovered_of_none rfl
  obtain ⟨⟨hinv, hcov⟩, hstep, ⟨hinv', -⟩⟩ := Machine.trace_invariant
    (I := fun r => BettingInvariant d.toRoundSetup r ∧ AggressorCovered r)
    (fun _ _ _ hI hstep => ⟨hI.1.step hstep, hI.2.step hI.1 hstep⟩)
    ⟨bettingInvariant_of_createRound hdeal, h₀⟩ cs t ht
  refine ⟨hinv, hinv', hcov, ?_⟩
  rcases betting_step_cases hinv.seated.ids_nodup hstep with
    ⟨heq, -⟩ | ⟨data', ids', p, a, v, hcmd, happ⟩ | ⟨hcmd, -⟩
  · exact absurd heq hacts
  · obtain ⟨rfl, rfl⟩ := BettingCommand.placeBet.inj (hcommand.symm.trans hcmd)
    exact ⟨p, a, v, happ⟩
  · rw [hcommand] at hcmd
    cases hcmd

/-- A closing action is an applied bet between states that satisfy the invariants. -/
lemma ClosingAction.betApplied {ids₀ : Uuids} {r₀ : RoundTables}
    (hdeal : createRound d.toRoundSetup ids₀ = .ok r₀) {cs : List BettingCommand}
    {t : Transition RoundTables BettingCommand} (ht : t ∈ bettingMachine.trace r₀ cs)
    (hclosing : ClosingAction t data ids) :
    BettingInvariant d.toRoundSetup t.before ∧ BettingInvariant d.toRoundSetup t.after ∧
      AggressorCovered t.before ∧ ∃ p a v, BetApplied t.before data ids p a v t.after := by
  refine betApplied_of_mem_trace hdeal ht hclosing.command fun heq => ?_
  have := hclosing.closed_after
  rw [heq, hclosing.open_before] at this
  cases this

/-- The action a request names cuts somebody off. -/
def PlaceBet.CutsOff (data : PlaceBet) (r : RoundTables) : Prop :=
  ∃ p ∈ r.players, p.playerId = data.playerId ∧
    ∃ a ∈ BetAction.ofValue? (upper data.action), ∃ q ∈ r.players,
      PokerRoom.CutsOff r p a data.amount q

instance (data : PlaceBet) (r : RoundTables) : Decidable (data.CutsOff r) :=
  inferInstanceAs (Decidable (∃ p ∈ r.players, _))

/-- The action of an applied bet is the one its request names. -/
lemma BetApplied.cutsOff_iff (hinv : BettingInvariant d.toRoundSetup r)
    (happ : BetApplied r data ids p a v r') :
    (∃ q, PokerRoom.CutsOff r p a data.amount q) ↔ data.CutsOff r := by
  obtain ⟨hp, hid⟩ := happ.accepted.mem
  constructor
  · exact fun ⟨q, hcut⟩ => ⟨p, hp, hid, a, happ.word, q, hcut.mem, hcut⟩
  · rintro ⟨p', hp', hid', a', hword', q, -, hcut⟩
    obtain rfl := eq_of_key_eq hinv.seated.ids_nodup hp' hp (hid'.trans hid.symm)
    obtain rfl := Option.some.inj (hword'.symm.trans happ.word)
    exact ⟨q, hcut⟩

/-- **Nobody is cut off while owing chips, exactly when.** In every run of the betting of a dealt
hand, an action that closes the betting leaves at most one player in the hand or everybody who can
act with the bet matched, exactly when it does not take its player out of the betting and leave
exactly one other player able to act who has committed less than the resulting bet, in a contested
hand. -/
theorem closing_settles_up_iff {ids₀ : Uuids} {r₀ : RoundTables}
    (hdeal : createRound d.toRoundSetup ids₀ = .ok r₀) (cs : List BettingCommand)
    (t : Transition RoundTables BettingCommand) (ht : t ∈ bettingMachine.trace r₀ cs)
    (data : PlaceBet) (ids : Uuids) (hclosing : ClosingAction t data ids) :
    SettledUp t.after ↔ ¬ data.CutsOff t.before := by
  obtain ⟨hinv, hinv', hcov, p, a, v, happ⟩ := hclosing.betApplied hdeal ht
  rw [happ.settledUp_iff hinv hinv' hcov hclosing.closed_after, happ.cutsOff_iff hinv]

/-- A fold heads-up settles the hand. -/
theorem closing_settles_up_iff_headsUp :
    SettledUp (bettingMachine.exec (headsUp.tables headsUpIds)
      (.send "alice" "fold" 0 "b1" "e1")) :=
  (closing_settles_up_iff
    (show createRound headsUp.toRoundSetup headsUpIds = .ok (headsUp.tables headsUpIds) by decide)
    [.send "alice" "fold" 0 "b1" "e1"]
    ⟨headsUp.tables headsUpIds, .send "alice" "fold" 0 "b1" "e1",
      bettingMachine.exec (headsUp.tables headsUpIds) (.send "alice" "fold" 0 "b1" "e1")⟩
    (Machine.mem_trace_of_step [] (by decide))
    { playerId := "alice", action := "fold", amount := 0 } (named ["b1", "e1"])
    ⟨rfl, by decide, by decide⟩).mpr (by decide)

/-- An all-in of the small blind heads-up cuts the big blind off. -/
theorem all_in_cuts_off :
    ¬ ∀ (d : Deal) (ids₀ : Uuids) (r₀ : RoundTables), 0 < d.bigBlind →
      createRound d.toRoundSetup ids₀ = .ok r₀ → ∀ (cs : List BettingCommand),
      ∀ t ∈ bettingMachine.trace r₀ cs, ∀ data ids, ClosingAction t data ids →
        SettledUp t.after := by
  intro h
  have hstep : bettingMachine.step (headsUp.tables headsUpIds)
    (.send "alice" "all_in" 0 "b1" "e1") =
      .ok (bettingMachine.exec (headsUp.tables headsUpIds)
          (.send "alice" "all_in" 0 "b1" "e1")) := by
    decide
  have hsettled := h headsUp headsUpIds (headsUp.tables headsUpIds) (by decide) (by decide) _ _
    (Machine.mem_trace_of_step [] hstep)
    { playerId := "alice", action := "all_in", amount := 0 } (named ["b1", "e1"])
    ⟨rfl, by decide, by decide⟩
  exact absurd hsettled (by decide)

end PokerRoom
