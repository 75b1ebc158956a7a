import PokerRoom.Hand.BettingState

/-!
# Whose turn it is

While the betting is open one player has the turn.  After an action and on a new street the service
gives it to a player who can act; `start_round` gives it to the seat after the big blind, also when
posting has taken that player's last chip.  `hand_never_sticks_iff` says that this is the only way
in which a hand gets stuck.
-/

namespace PokerRoom

open Foundation

/-! ## Holding the turn -/

/-- The player has the turn: he alone is named, he can act, he may fold, and no request of anybody
else is accepted. -/
structure TurnHeld (r : RoundTables) (p : RoundPlayer) : Prop where
  /-- He is a player of the round. -/
  mem : p ∈ r.players
  /-- The turn is his. -/
  acting : r.round.actingPlayerId = some p.playerId
  /-- The turn is nobody else's. -/
  unique : ∀ q ∈ r.players, r.round.actingPlayerId = some q.playerId → q = p
  /-- He is active, has not folded and is not all-in. -/
  canAct : p.CanAct
  /-- He may fold. -/
  fold : ∀ amount,
    validateBet (buildHandContext r.round r.players) p.playerId "FOLD" amount = .ok ⟨.fold, 0⟩
  /-- Nobody else may do anything. -/
  others : ∀ playerId, playerId ≠ p.playerId → ∀ action amount v,
    validateBet (buildHandContext r.round r.players) playerId action amount ≠ .ok v

/-- The player who has the turn can act. -/
def ActorCanAct (r : RoundTables) : Prop :=
  r.round.isActionClosed = false →
    ∃ p ∈ r.players, r.round.actingPlayerId = some p.playerId ∧ p.CanAct

variable {r r' : RoundTables}

/-- In an open active round whose actor can act, he holds the turn. -/
lemma exists_turnHeld (hnd : (r.players.map (·.playerId)).Nodup) (h : ActorCanAct r)
    (hstatus : r.round.status = .active) (hopen : r.round.isActionClosed = false) :
    ∃ p, TurnHeld r p := by
  obtain ⟨p, hp, hacting, hcan⟩ := h hopen
  refine ⟨p, hp, hacting, ?_, hcan, ?_, ?_⟩
  · intro q hq hacting'
    exact eq_of_key_eq hnd hq hp (Option.some.inj (hacting'.symm.trans hacting))
  · intro amount
    refine validateBet_eq_ok_iff.mpr ⟨p, ⟨hstatus, hopen, ?_, hcan, Or.inr hacting⟩, ?_⟩
    · exact (find?_key_eq_some_iff hnd).mpr ⟨hp, rfl⟩
    · exact validateAction_eq_ok_iff.mpr ⟨.fold, by decide, BetOutcome.fold amount⟩
  · intro playerId hne action amount v hok
    obtain ⟨q, hper, -⟩ := validateBet_eq_ok_iff.mp hok
    rcases hper.turn with hnone | hsome
    · exact Option.some_ne_none _ (hacting.symm.trans hnone)
    · exact hne (Option.some.inj (hsome.symm.trans hacting))

/-! ## Every run -/

/-- An accepted command of the betting gives the turn to a player who can act. -/
lemma ActorCanAct.step {d : Deal} (hinv : BettingInvariant d.toRoundSetup r) (h : ActorCanAct r)
    {c : BettingCommand} (hstep : bettingMachine.step r c = .ok r') : ActorCanAct r' := by
  rcases betting_step_cases hinv.seated.ids_nodup hstep with
    ⟨rfl, -⟩ | ⟨data, ids, p, a, v, -, happ⟩ | ⟨-, hadv⟩
  · exact h
  · rw [happ.after]
    intro hopen
    have hseats : ((actedPlayers data.playerId v r.players).map (·.seatNumber)).Nodup := by
      rw [actedPlayers_seats]
      exact hinv.seated.seats_nodup
    obtain ⟨c, hc, hnext, howes, -⟩ := nextAfter_open hseats hopen
    exact ⟨c, hc, hnext, howes.1⟩
  · cases hadv.outcome with
    | settleHand => exact fun hopen => absurd hopen (by simp)
    | showdown => exact fun hopen => absurd hopen (by simp)
    | nextStreet st p hp hcan =>
      exact fun _ => ⟨_, List.mem_map_of_mem hp, rfl, hcan⟩

/-- What the player has to post. -/
def RoundSetup.due (s : RoundSetup) (p : SeatPlayer) : Int :=
  max s.ante 0 +
    (if p.seatNumber = s.smallBlindSeat then s.smallBlind
      else if p.seatNumber = s.bigBlindSeat then s.bigBlind else 0)

/-- The player who acts first has more chips than he has to post. -/
def RoundSetup.FirstCanAct (s : RoundSetup) : Prop :=
  ∃ p ∈ s.players, s.firstToActSeat = some p.seatNumber ∧ s.due p < p.stack

/-- Posting leaves a player what exceeds his due. -/
lemma Deal.postedRow_stack (d : Deal) {p : SeatPlayer} (hp : p ∈ d.players) :
    (d.postedRow p).stackRemaining = max 0 (p.stack - d.due p) := by
  have hpos := d.stack_pos p hp
  have hsb := d.smallBlind_nonneg
  have hbb := d.bigBlind_nonneg
  have hante : antePosted d.ante p = min (max d.ante 0) p.stack := by
    unfold antePosted
    split <;> omega
  simp only [RoundSetup.postedRow, PostedPlayer.toRoundPlayer, postPlayer, blindPosted,
    RoundSetup.due, hante]
  split
  · omega
  · split <;> omega

/-- A dealt player can act exactly when he has more chips than he has to post. -/
lemma Deal.postedRow_canAct_iff (d : Deal) {p : SeatPlayer} (hp : p ∈ d.players) :
    (d.postedRow p).CanAct ↔ d.due p < p.stack := by
  have hallIn : (d.postedRow p).isAllIn = true ↔ (d.postedRow p).stackRemaining = 0 :=
    (d.postPlayer_spec hp).isAllIn_iff
  rw [d.postedRow_stack hp] at hallIn
  have hcan : (d.postedRow p).CanAct ↔ ¬ (d.postedRow p).isAllIn = true := by
    rw [Bool.not_eq_true]
    exact ⟨fun h => h.2.2, fun h => ⟨rfl, rfl, h⟩⟩
  rw [hcan, hallIn]
  omega

/-- In a new round the actor can act exactly when the first player has more than his due. -/
lemma actorCanAct_tables_iff (d : Deal) (ids : Uuids) :
    ActorCanAct (d.tables ids) ↔ d.FirstCanAct := by
  obtain ⟨first, hfirst, hseat⟩ := d.exists_firstToAct
  have hacting : (d.tables ids).round.actingPlayerId = some first.playerId :=
    d.firstActingPlayerId_eq hfirst hseat
  constructor
  · intro h
    obtain ⟨q, hq, hq', hcan⟩ := h rfl
    rw [tables_players] at hq
    obtain ⟨p, hp, rfl⟩ := List.mem_map.mp hq
    have hid : p.playerId = first.playerId := Option.some.inj (hq'.symm.trans hacting)
    obtain rfl := eq_of_key_eq d.ids_nodup hp hfirst hid
    exact ⟨p, hp, hseat, (d.postedRow_canAct_iff hp).mp hcan⟩
  · rintro ⟨p, hp, hpseat, hdue⟩ -
    obtain rfl := eq_of_key_eq d.seats_nodup hp hfirst (Option.some.inj (hpseat.symm.trans hseat))
    rw [tables_players]
    exact ⟨d.postedRow p, List.mem_map_of_mem hp, hacting, (d.postedRow_canAct_iff hp).mpr hdue⟩

/-- **When a hand never sticks.** In every open active round that the betting of a dealt hand
reaches somebody holds the turn, exactly when the player who acts first has more chips than he has
to post. -/
theorem hand_never_sticks_iff {d : Deal} {ids : Uuids} {r₀ : RoundTables}
    (hdeal : createRound d.toRoundSetup ids = .ok r₀) :
    (∀ cs : List BettingCommand, (bettingMachine.run r₀ cs).round.status = .active →
      (bettingMachine.run r₀ cs).round.isActionClosed = false →
      ∃ p, TurnHeld (bettingMachine.run r₀ cs) p) ↔ d.FirstCanAct := by
  have hinv₀ := bettingInvariant_of_createRound hdeal
  have hrun : ActorCanAct r₀ → ∀ cs, BettingInvariant d.toRoundSetup (bettingMachine.run r₀ cs) ∧
      ActorCanAct (bettingMachine.run r₀ cs) := fun h₀ cs =>
    Machine.run_invariant
      (I := fun r => BettingInvariant d.toRoundSetup r ∧ ActorCanAct r)
      (fun _ _ _ hI hstep => ⟨hI.1.step hstep, hI.2.step hI.1 hstep⟩) ⟨hinv₀, h₀⟩ cs
  obtain ⟨-, -, rfl⟩ := createRound_eq_ok_iff.mp hdeal
  rw [← actorCanAct_tables_iff d ids]
  constructor
  · intro h hopen
    obtain ⟨p, hp⟩ := h [] rfl hopen
    exact ⟨p, hp.mem, hp.acting, hp.canAct⟩
  · intro h₀ cs hstatus hopen
    obtain ⟨hinv, hactor⟩ := hrun h₀ cs
    exact exists_turnHeld hinv.seated.ids_nodup hactor hstatus hopen

/-- In a heads-up hand with stacks above the blinds somebody holds the turn. -/
theorem hand_never_sticks_iff_headsUp :
    ∃ p, TurnHeld (bettingMachine.run (headsUp.tables headsUpIds)
      [.send "alice" "raise" 6 "b1" "e1"]) p :=
  (hand_never_sticks_iff
    (show createRound headsUp.toRoundSetup headsUpIds = .ok (headsUp.tables headsUpIds) by
      decide)).mpr ⟨⟨"alice", 1, 100⟩, by decide, by decide, by decide⟩ _ (by decide) (by decide)

/-- A heads-up hand in which the small blind, who acts first, takes a player's last chip. -/
def shortSmallBlind : Deal :=
  { headsUp with
    players := [⟨"alice", 1, 1⟩, ⟨"bob", 2, 100⟩]
    two_le := by decide
    seats_lt := by decide
    ids_nodup := by decide
    ids_ne := by decide
    stack_pos := by decide }

/-- The small blind who is all-in has the turn and cannot act: the hand sticks. -/
theorem first_actor_all_in_sticks :
    ¬ ∀ (d : Deal) (ids : Uuids) (r₀ : RoundTables), createRound d.toRoundSetup ids = .ok r₀ →
      ∀ cs : List BettingCommand, (bettingMachine.run r₀ cs).round.status = .active →
        (bettingMachine.run r₀ cs).round.isActionClosed = false →
        ∃ p, TurnHeld (bettingMachine.run r₀ cs) p := by
  intro h
  have hdeal : createRound shortSmallBlind.toRoundSetup headsUpIds =
      .ok (shortSmallBlind.tables headsUpIds) := by decide
  obtain ⟨p, hp⟩ := h shortSmallBlind headsUpIds _ hdeal [] (by decide) (by decide)
  have hstuck : ∀ q ∈ (shortSmallBlind.tables headsUpIds).players,
      (shortSmallBlind.tables headsUpIds).round.actingPlayerId = some q.playerId → ¬ q.CanAct := by
    decide
  exact hstuck p hp.mem hp.acting hp.canAct

end PokerRoom
