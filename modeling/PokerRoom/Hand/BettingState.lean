import PokerRoom.Hand.Chips

/-!
# The state of the betting

What the fields of a round mean while the betting goes on: the bet to match is the largest
commitment to the street, a player is all-in exactly when his stack is empty, a player has folded
exactly when he left the hand, and somebody has the turn exactly when the betting is open.
`BettingState` is the invariant and `bettingInvariant_run` says that it holds after every run of the
betting.

The answers of the turn engine are read as facts about the stored players here (`nextAfter_open`,
`nextAfter_closed`); the modules on turns, closure and history build on them.
-/

namespace PokerRoom

open Foundation

/-! ## The turn engine on stored players -/

/-- The player can act and has committed less than the bet to match. -/
def PlayerState.Owes (highest : Int) (p : PlayerState) : Prop :=
  p.CanAct ∧ p.committedThisStreet < highest

instance (highest : Int) : DecidablePred (PlayerState.Owes highest) := fun p =>
  inferInstanceAs (Decidable (p.CanAct ∧ _))

/-- The turn engine sees the players who can act. -/
@[simp] lemma canAct_actionSeat {p : PlayerState} : p.actionSeat.canAct = true ↔ p.CanAct := by
  simp [PlayerState.actionSeat, ActionSeat.canAct, PlayerState.CanAct, and_assoc]

/-- The turn engine sees the players who owe chips. -/
@[simp] lemma needsAction_actionSeat {p : PlayerState} {highest : Int} :
    p.actionSeat.needsAction highest = true ↔ p.Owes highest := by
  simp only [ActionSeat.needsAction, Bool.and_eq_true, canAct_actionSeat, decide_eq_true_eq]
  rfl

/-- The turn engine sees the players who do not owe chips. -/
@[simp] lemma needsAction_actionSeat_eq_false {p : PlayerState} {highest : Int} :
    p.actionSeat.needsAction highest = false ↔ ¬ p.Owes highest := by
  rw [← needsAction_actionSeat, Bool.not_eq_true]

/-- A list of fewer than two items holds at most one. -/
lemma eq_of_mem_of_length_lt_two {α : Type} {l : List α} (h : l.length < 2) {a b : α} (ha : a ∈ l)
    (hb : b ∈ l) : a = b := by
  match l, h with
  | [], _ => simp at ha
  | [x], _ => rw [List.mem_singleton] at ha hb; rw [ha, hb]

section

variable {g : Round} {p : PlayerState} {v : ValidatedAction} {ps : List RoundPlayer}

/-- When the betting goes on, the next player owes chips and is not the last aggressor, and nobody
who can act and is met before him going clockwise from the actor owes chips or is the last
aggressor. -/
theorem nextAfter_open (hnd : (ps.map (·.seatNumber)).Nodup)
    (h : (nextAfter g p v ps).isRoundClosed = false) :
    ∃ c ∈ ps, (nextAfter g p v ps).playerId = some c.playerId ∧ c.Owes (highestAfter g p v) ∧
      aggressorAfter g p v ≠ some c.seatNumber ∧
      ∀ q ∈ ps, q.CanAct → Before p.seatNumber q.seatNumber c.seatNumber →
        ¬ q.Owes (highestAfter g p v) ∧ aggressorAfter g p v ≠ some q.seatNumber := by
  have hseats : ((ps.map (·.actionSeat)).map (·.seatNumber)).Nodup := by
    rw [List.map_map]; exact hnd
  obtain ⟨s, hs, hnext, hneeds, hagg, hfirst⟩ := nextToAct_open hseats h
  obtain ⟨c, hc, rfl⟩ := List.mem_map.mp hs
  refine ⟨c, hc, by rw [nextAfter, hnext]; rfl, needsAction_actionSeat.mp hneeds, hagg, ?_⟩
  intro q hq hcan hbefore
  obtain ⟨hno, hne⟩ := hfirst q.actionSeat (List.mem_map_of_mem hq) (canAct_actionSeat.mpr hcan)
    hbefore
  exact ⟨needsAction_actionSeat_eq_false.mp hno, hne⟩

/-- When the betting is over, nobody is next, and fewer than two players can act, or nobody owes
chips, or the last aggressor can act and nobody met before him going clockwise from the actor owes
chips. -/
theorem nextAfter_closed (hnd : (ps.map (·.seatNumber)).Nodup)
    (h : (nextAfter g p v ps).isRoundClosed = true) :
    (nextAfter g p v ps).playerId = none ∧
      ((∀ q ∈ ps, ∀ q' ∈ ps, q.CanAct → q'.CanAct → q = q') ∨
      (∀ q ∈ ps, ¬ q.Owes (highestAfter g p v)) ∨
      ∃ b ∈ ps, aggressorAfter g p v = some b.seatNumber ∧ b.CanAct ∧
        ∀ q ∈ ps, Before p.seatNumber q.seatNumber b.seatNumber →
          ¬ q.Owes (highestAfter g p v)) := by
  have hseats : ((ps.map (·.actionSeat)).map (·.seatNumber)).Nodup := by
    rw [List.map_map]; exact hnd
  obtain ⟨hclosed, hwhy⟩ := nextToAct_closed hseats h
  refine ⟨by rw [nextAfter, hclosed]; rfl, ?_⟩
  rcases hwhy with hfew | hnone | ⟨s, hs, hagg, hcan, hbefore⟩
  · left
    intro q hq q' hq' hcan hcan'
    rw [List.filter_map, List.length_map] at hfew
    have hmem : ∀ x ∈ ps, x.CanAct →
        x ∈ ps.filter ((fun s : ActionSeat => s.canAct) ∘ fun y => y.actionSeat) :=
      fun x hx hx' => List.mem_filter.mpr ⟨hx, canAct_actionSeat.mpr hx'⟩
    exact eq_of_mem_of_length_lt_two hfew (hmem q hq hcan) (hmem q' hq' hcan')
  · right; left
    exact fun q hq =>
      needsAction_actionSeat_eq_false.mp (hnone q.actionSeat (List.mem_map_of_mem hq))
  · right; right
    obtain ⟨b, hb, rfl⟩ := List.mem_map.mp hs
    refine ⟨b, hb, hagg, canAct_actionSeat.mp hcan, fun q hq hq' => ?_⟩
    exact needsAction_actionSeat_eq_false.mp
      (hbefore q.actionSeat (List.mem_map_of_mem hq) hq')

end

/-! ## The invariant -/

/-- The fields of a round mean what they say while the betting goes on. -/
structure BettingState (s : RoundSetup) (r : RoundTables) : Prop where
  /-- The round is active. -/
  status : r.round.status = .active
  /-- The big blind is the one the round was created with. -/
  bigBlind : r.round.bigBlindAmount = s.bigBlind
  /-- Nobody has committed more to the street than the bet to match. -/
  le_highest : ∀ p ∈ r.players, p.committedThisStreet ≤ r.round.currentHighestBet
  /-- Somebody has committed that much. -/
  exists_highest : ∃ p ∈ r.players, p.committedThisStreet = r.round.currentHighestBet
  /-- All-in means an empty stack. -/
  isAllIn_iff : ∀ p ∈ r.players, p.isAllIn = true ↔ p.stackRemaining = 0
  /-- Folding is leaving the hand. -/
  isActive_eq : ∀ p ∈ r.players, p.isActiveInHand = !p.hasFolded
  /-- A raise is at least the big blind. -/
  minRaise_ge : s.bigBlind ≤ r.round.minimumRaiseAmount
  /-- While the betting is open a player of the round has the turn. -/
  turn_of_open : r.round.isActionClosed = false →
    ∃ p ∈ r.players, r.round.actingPlayerId = some p.playerId
  /-- When the betting is closed nobody has the turn. -/
  turn_of_closed : r.round.isActionClosed = true → r.round.actingPlayerId = none

variable {s : RoundSetup} {r r' : RoundTables} {g : Round} {ctx : HandContext} {p : PlayerState}
  {a : BetAction} {amount : Int} {v : ValidatedAction}

/-! ## One action -/

/-- An action that is not aggressive keeps the bet to match. -/
lemma highestAfter_of_not_aggressive (h : v.action.isAggressive = false) :
    highestAfter g p v = g.currentHighestBet := by
  unfold highestAfter
  exact if_neg fun hraises => by rw [hraises.1] at h; cases h

/-- An action makes the larger of the bet to match and the player's commitment the bet to match. -/
lemma highestAfter_eq_max {ps : List RoundPlayer}
    (h : BetOutcome (buildHandContext g ps) p a amount v)
    (hle : p.committedThisStreet ≤ g.currentHighestBet) :
    highestAfter g p v = max g.currentHighestBet (p.committedThisStreet + v.amount) := by
  have hraises : v.action.isAggressive = true →
      highestAfter g p v = max g.currentHighestBet (p.committedThisStreet + v.amount) := by
    intro hagg
    unfold highestAfter Raises
    simp only [hagg, true_and]
    split <;> omega
  have hkeeps : v.action.isAggressive = false →
      p.committedThisStreet + v.amount ≤ g.currentHighestBet →
      highestAfter g p v = max g.currentHighestBet (p.committedThisStreet + v.amount) := by
    intro hagg hle'
    rw [highestAfter_of_not_aggressive hagg]
    omega
  cases h with
  | fold => exact hkeeps rfl (by simpa using hle)
  | check => exact hkeeps rfl (by simpa using hle)
  | call howes hlt =>
    refine hkeeps rfl ?_
    simp only [buildHandContext]
    omega
  | callAllIn | bet | betAllIn | raise | raiseAllIn | allIn => exact hraises rfl

/-- The bet to match never shrinks by an action. -/
lemma le_highestAfter : g.currentHighestBet ≤ highestAfter g p v := by
  unfold highestAfter
  split
  · next hraises => exact hraises.2.le
  · exact le_rfl

/-- The effective action is all-in exactly when it takes the last chip. -/
lemma BetOutcome.allIn_iff (h : BetOutcome ctx p a amount v) (hstack : 0 < p.stackRemaining) :
    v.action = .allIn ↔ v.amount = p.stackRemaining := by
  cases h <;> simp <;> omega

/-- A player who can act has chips. -/
lemma BettingState.stack_pos (h : BettingState s r) (hchips : ChipsConserved s r)
    (hp : p ∈ r.players) (hcan : p.CanAct) : 0 < p.stackRemaining := by
  have hne : p.stackRemaining ≠ 0 := fun hzero => by
    have := (h.isAllIn_iff p hp).mpr hzero
    rw [hcan.2.2] at this
    cases this
  have hnonneg := (hchips.players p hp).stack_nonneg
  omega

/-- The players after an action: the acting one, and everybody else as before. -/
lemma mem_actedPlayers {ps : List RoundPlayer} {playerId : String} {q : RoundPlayer}
    (hnd : (ps.map (·.playerId)).Nodup) (hp : p ∈ ps) (hid : p.playerId = playerId) :
    q ∈ actedPlayers playerId v ps ↔ q = p.act v ∨ (q ∈ ps ∧ q.playerId ≠ playerId) := by
  rw [actedPlayers, mem_updateFirst_iff hnd]
  refine or_congr_left ⟨?_, fun hq => ⟨p, hp, hid, hq⟩⟩
  rintro ⟨q', hq', hid', rfl⟩
  rw [eq_of_key_eq hnd hq' hp (hid'.trans hid.symm)]

/-- An action keeps the seats. -/
lemma actedPlayers_seats {ps : List RoundPlayer} {playerId : String} :
    (actedPlayers playerId v ps).map (·.seatNumber) = ps.map (·.seatNumber) :=
  map_updateFirst_of_eq (f := PlayerState.act v) _ fun _ => rfl

/-- An applied bet keeps the meaning of the fields. -/
lemma BettingState.betApplied {d : Deal} (hseat : SeatedAs d.toRoundSetup r)
    (hchips : ChipsConserved d.toRoundSetup r) (h : BettingState d.toRoundSetup r) {data : PlaceBet}
    {ids : Uuids} (happ : BetApplied r data ids p a v r') : BettingState d.toRoundSetup r' := by
  obtain ⟨hp, hid⟩ := happ.accepted.mem
  have hout := happ.accepted.outcome
  have hle := h.le_highest p hp
  have hpos := h.stack_pos hchips hp happ.accepted.permitted.canAct
  have hmax := highestAfter_eq_max hout hle
  have hmem := fun q => mem_actedPlayers hseat.ids_nodup hp hid (v := v) (q := q)
  have hseats : ((actedPlayers data.playerId v r.players).map (·.seatNumber)).Nodup := by
    rw [actedPlayers_seats]
    exact hseat.seats_nodup
  rw [happ.after]
  constructor
  · exact h.status
  · exact h.bigBlind
  · intro q hq
    simp only [RoundTables.afterBet, Round.acted] at hq ⊢
    rw [hmax]
    rcases (hmem q).mp hq with rfl | ⟨hq, -⟩
    · exact le_max_right _ _
    · exact (h.le_highest q hq).trans (le_max_left _ _)
  · simp only [RoundTables.afterBet, Round.acted]
    rw [hmax]
    by_cases hraise : r.round.currentHighestBet ≤ p.committedThisStreet + v.amount
    · exact ⟨p.act v, (hmem _).mpr (Or.inl rfl), (max_eq_right hraise).symm⟩
    · obtain ⟨q, hq, hqh⟩ := h.exists_highest
      have hbounds := hout.amount_bounds hpos.le
      have hne : q.playerId ≠ data.playerId := fun hqid => by
        have := eq_of_key_eq hseat.ids_nodup hq hp (hqid.trans hid.symm)
        subst this
        omega
      exact ⟨q, (hmem _).mpr (Or.inr ⟨hq, hne⟩), by rw [hqh]; omega⟩
  · intro q hq
    rcases (hmem q).mp hq with rfl | ⟨hq, -⟩
    · have hnot := happ.accepted.permitted.canAct.2.2
      have hiff := hout.allIn_iff hpos
      simp only [PlayerState.act, hnot, Bool.false_or, decide_eq_true_eq]
      rw [hiff]
      omega
    · exact h.isAllIn_iff q hq
  · intro q hq
    rcases (hmem q).mp hq with rfl | ⟨hq, -⟩
    · have hactive := h.isActive_eq p hp
      simp only [PlayerState.act, hactive]
      cases p.hasFolded <;> simp
    · exact h.isActive_eq q hq
  · simp only [RoundTables.afterBet, Round.acted, minRaiseAfter]
    have := h.minRaise_ge
    split <;> omega
  · intro hopen
    obtain ⟨c, hc, hnext, -⟩ := nextAfter_open hseats hopen
    exact ⟨c, hc, hnext⟩
  · intro hclosed
    exact (nextAfter_closed hseats hclosed).1

/-! ## Every run -/

/-- Collecting the commitments of a street keeps the meaning of the fields. -/
lemma BettingState.collect {d : Deal} (hseat : SeatedAs d.toRoundSetup r)
    (h : BettingState d.toRoundSetup r)
    (hplayers : r'.players = r.players.map fun rp => { rp with committedThisStreet := 0 })
    (hstatus : r'.round.status = r.round.status)
    (hbb : r'.round.bigBlindAmount = r.round.bigBlindAmount)
    (hhigh : r'.round.currentHighestBet = 0)
    (hmin : d.bigBlind ≤ r'.round.minimumRaiseAmount)
    (hopen : r'.round.isActionClosed = false →
      ∃ p ∈ r.players, r'.round.actingPlayerId = some p.playerId)
    (hclosed : r'.round.isActionClosed = true → r'.round.actingPlayerId = none) :
    BettingState d.toRoundSetup r' := by
  have hne : r.players ≠ [] := List.ne_nil_of_length_pos (by have := hseat.two_le; omega)
  obtain ⟨p, hp⟩ := List.exists_mem_of_ne_nil _ hne
  constructor
  · rw [hstatus]; exact h.status
  · rw [hbb]; exact h.bigBlind
  · rw [hplayers, List.forall_mem_map, hhigh]
    exact fun _ _ => le_rfl
  · rw [hplayers, hhigh]
    exact ⟨_, List.mem_map_of_mem hp, rfl⟩
  · rw [hplayers, List.forall_mem_map]
    exact h.isAllIn_iff
  · rw [hplayers, List.forall_mem_map]
    exact h.isActive_eq
  · exact hmin
  · intro ho
    obtain ⟨q, hq, hacting⟩ := hopen ho
    refine ⟨{ q with committedThisStreet := 0 }, ?_, hacting⟩
    rw [hplayers]
    exact List.mem_map_of_mem hq
  · exact hclosed

/-- An advance of the street keeps the meaning of the fields. -/
lemma BettingState.streetOutcome {d : Deal} (hseat : SeatedAs d.toRoundSetup r)
    (h : BettingState d.toRoundSetup r) (hout : StreetOutcome r r') :
    BettingState d.toRoundSetup r' := by
  cases hout with
  | settleHand =>
    exact ⟨h.status, h.bigBlind, h.le_highest, h.exists_highest, h.isAllIn_iff, h.isActive_eq,
      h.minRaise_ge, fun ho => absurd ho (by simp), fun _ => rfl⟩
  | showdown =>
    exact h.collect hseat rfl rfl rfl rfl h.minRaise_ge (fun ho => absurd ho (by simp))
      fun _ => rfl
  | nextStreet st p hp hcan =>
    exact h.collect hseat rfl rfl rfl rfl h.bigBlind.ge (fun _ => ⟨p, hp, rfl⟩)
      fun hc => absurd hc (by simp)

/-- The seat that acts first is a dealt one. -/
lemma Deal.exists_firstToAct (d : Deal) :
    ∃ p ∈ d.players, d.firstToActSeat = some p.seatNumber := by
  have hlen : 0 < d.players.length := by have := d.two_le; omega
  unfold RoundSetup.firstToActSeat
  simp only
  set i := if d.bigBlindSeat ∈ d.players.map (·.seatNumber) then
    ((d.players.map (·.seatNumber)).idxOf d.bigBlindSeat + 1) %
      (d.players.map (·.seatNumber)).length
    else 0 with hi
  have hlt : i < d.players.length := by
    rw [hi]
    split
    · rw [List.length_map]; exact Nat.mod_lt _ hlen
    · exact hlen
  refine ⟨d.players[i], List.getElem_mem hlt, ?_⟩
  rw [List.getElem?_map, List.getElem?_eq_getElem hlt]
  rfl

/-- The player on the seat that acts first has the turn in a dealt round. -/
lemma Deal.firstActingPlayerId_eq (d : Deal) {p : SeatPlayer} (hp : p ∈ d.players)
    (hseat : d.firstToActSeat = some p.seatNumber) : d.firstActingPlayerId = some p.playerId :=
  RoundSetup.firstActingPlayerId_eq d.seats_nodup hp hseat

/-- In a new round the fields mean what they say. -/
lemma bettingState_tables (d : Deal) (ids : Uuids) :
    BettingState d.toRoundSetup (d.tables ids) := by
  have hhigh : (d.tables ids).round.currentHighestBet =
      maxOrZero ((d.players.map d.postedRow).map (·.committedThisStreet)) := by
    simp only [RoundSetup.tables, RoundSetup.posting, postBlindsAndAntes, List.map_map]
    rfl
  have hne : (d.players.map d.postedRow).map (·.committedThisStreet) ≠ [] := by
    apply List.ne_nil_of_length_pos
    rw [List.length_map, List.length_map]
    have := d.two_le
    omega
  obtain ⟨first, hfirst, hseat⟩ := d.exists_firstToAct
  constructor
  · rfl
  · rfl
  · rw [tables_players, hhigh]
    exact fun p hp => le_maxOrZero (List.mem_map_of_mem hp)
  · rw [tables_players, hhigh]
    obtain ⟨p, hp, hstreet⟩ := List.mem_map.mp (maxOrZero_mem hne)
    exact ⟨p, hp, hstreet⟩
  · rw [tables_players, List.forall_mem_map]
    exact fun p hp => (d.postPlayer_spec hp).isAllIn_iff
  · rw [tables_players, List.forall_mem_map]
    exact fun _ _ => rfl
  · exact le_rfl
  · intro _
    rw [tables_players]
    exact ⟨d.postedRow first, List.mem_map_of_mem hfirst, d.firstActingPlayerId_eq hfirst hseat⟩
  · exact fun hclosed => absurd hclosed (by simp [RoundSetup.tables])

/-- The invariants of the betting. -/
structure BettingInvariant (s : RoundSetup) (r : RoundTables) : Prop where
  /-- The seating is fixed. -/
  seated : SeatedAs s r
  /-- The chips are accounted for. -/
  chips : ChipsConserved s r
  /-- The fields mean what they say. -/
  state : BettingState s r

/-- An accepted command of the betting keeps the invariants. -/
lemma BettingInvariant.step {d : Deal} (h : BettingInvariant d.toRoundSetup r)
    {c : BettingCommand} (hstep : bettingMachine.step r c = .ok r') :
    BettingInvariant d.toRoundSetup r' := by
  obtain ⟨hseat, hchips⟩ := chipsConserved_step h.seated h.chips hstep
  refine ⟨hseat, hchips, ?_⟩
  rcases betting_step_cases h.seated.ids_nodup hstep with
    ⟨rfl, -⟩ | ⟨data, ids, p, a, v, -, happ⟩ | ⟨-, hadv⟩
  · exact h.state
  · exact h.state.betApplied h.seated h.chips happ
  · exact h.state.streetOutcome h.seated hadv.outcome

/-- The invariants hold in a created round. -/
lemma bettingInvariant_of_createRound {d : Deal} {ids : Uuids} {r₀ : RoundTables}
    (hdeal : createRound d.toRoundSetup ids = .ok r₀) : BettingInvariant d.toRoundSetup r₀ := by
  obtain ⟨-, -, rfl⟩ := createRound_eq_ok_iff.mp hdeal
  exact ⟨seatedAs_tables _ ids, chipsConserved_tables d ids, bettingState_tables d ids⟩

/-- The invariants hold after every run of the betting. -/
theorem bettingInvariant_run {d : Deal} {ids : Uuids} {r₀ : RoundTables}
    (hdeal : createRound d.toRoundSetup ids = .ok r₀) (cs : List BettingCommand) :
    BettingInvariant d.toRoundSetup (bettingMachine.run r₀ cs) :=
  Machine.run_invariant (fun _ _ _ hI hstep => BettingInvariant.step hI hstep)
    (bettingInvariant_of_createRound hdeal) cs

/-! ## An applied bet -/

section

variable {d : Deal} {data : PlaceBet} {ids : Uuids} {q : RoundPlayer}

/-- The players after an applied bet: the acting one, and everybody else as before. -/
lemma BetApplied.mem_iff (hinv : BettingInvariant d.toRoundSetup r)
    (happ : BetApplied r data ids p a v r') :
    q ∈ r'.players ↔ q = p.act v ∨ (q ∈ r.players ∧ q ≠ p) := by
  obtain ⟨hp, hid⟩ := happ.accepted.mem
  have hafter : r'.players = actedPlayers data.playerId v r.players := by rw [happ.after]; rfl
  rw [hafter, mem_actedPlayers hinv.seated.ids_nodup hp hid]
  refine or_congr_right (and_congr_right fun hq => ?_)
  refine ⟨fun hne heq => hne (heq ▸ hid), fun hne hqid => hne ?_⟩
  exact eq_of_key_eq hinv.seated.ids_nodup hq hp (hqid.trans hid.symm)

/-- The round after an applied bet. -/
lemma BetApplied.round_eq (happ : BetApplied r data ids p a v r') :
    r'.round = r.round.acted p v r'.players := by
  rw [happ.after]; rfl

/-- The bet to match after an applied bet. -/
lemma BetApplied.highest_eq (happ : BetApplied r data ids p a v r') :
    r'.round.currentHighestBet = highestAfter r.round p v := by
  rw [happ.round_eq]; rfl

/-- The last aggressor after an applied bet. -/
lemma BetApplied.aggressor_eq (happ : BetApplied r data ids p a v r') :
    r'.round.lastAggressorSeat = aggressorAfter r.round p v := by
  rw [happ.round_eq]; rfl

/-- A player who acts on an open round has the turn. -/
lemma BetApplied.acting (hinv : BettingInvariant d.toRoundSetup r)
    (happ : BetApplied r data ids p a v r') : r.round.actingPlayerId = some p.playerId := by
  obtain ⟨q, -, hacting⟩ := hinv.state.turn_of_open happ.accepted.permitted.open_
  rcases happ.accepted.permitted.turn with hnone | hsome
  · exact absurd (hacting.symm.trans hnone) (Option.some_ne_none _)
  · rw [happ.accepted.mem.2]; exact hsome

/-- Where an applied bet leaves the betting open: the next player owes chips and is not the last
aggressor, and nobody who can act and is met before him owes chips or is the last aggressor. -/
theorem BetApplied.open_spec (hseat : SeatedAs d.toRoundSetup r')
    (happ : BetApplied r data ids p a v r') (hopen : r'.round.isActionClosed = false) :
    ∃ c ∈ r'.players, r'.round.actingPlayerId = some c.playerId ∧
      c.Owes r'.round.currentHighestBet ∧ r'.round.lastAggressorSeat ≠ some c.seatNumber ∧
      ∀ q ∈ r'.players, q.CanAct → Before p.seatNumber q.seatNumber c.seatNumber →
        ¬ q.Owes r'.round.currentHighestBet ∧
          r'.round.lastAggressorSeat ≠ some q.seatNumber := by
  rw [happ.highest_eq, happ.aggressor_eq]
  rw [happ.round_eq] at hopen ⊢
  exact nextAfter_open hseat.seats_nodup hopen

/-- Where an applied bet closes the betting: at most one player can act, or nobody owes chips, or
the last aggressor can act and nobody met before him owes chips. -/
theorem BetApplied.closed_spec (hseat : SeatedAs d.toRoundSetup r')
    (happ : BetApplied r data ids p a v r') (hclosed : r'.round.isActionClosed = true) :
    (∀ q ∈ r'.players, ∀ q' ∈ r'.players, q.CanAct → q'.CanAct → q = q') ∨
    (∀ q ∈ r'.players, ¬ q.Owes r'.round.currentHighestBet) ∨
    ∃ b ∈ r'.players, r'.round.lastAggressorSeat = some b.seatNumber ∧ b.CanAct ∧
      ∀ q ∈ r'.players, Before p.seatNumber q.seatNumber b.seatNumber →
        ¬ q.Owes r'.round.currentHighestBet := by
  rw [happ.highest_eq, happ.aggressor_eq]
  rw [happ.round_eq] at hclosed
  exact (nextAfter_closed hseat.seats_nodup hclosed).2

/-- A player who can act and owes nothing has matched the bet. -/
lemma BettingState.eq_highest (h : BettingState s r) (hq : q ∈ r.players) (hcan : q.CanAct)
    (howes : ¬ q.Owes r.round.currentHighestBet) :
    q.committedThisStreet = r.round.currentHighestBet :=
  le_antisymm (h.le_highest q hq) (not_lt.mp fun hlt => howes ⟨hcan, hlt⟩)

end

end PokerRoom
