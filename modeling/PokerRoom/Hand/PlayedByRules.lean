import PokerRoom.Hand.Closure
import PokerRoom.Hand.FullSettlement
import PokerRoom.Hand.PlayedOut

/-!
# Playing by the rules

`hand_settles_iff` says that a hand can be settled when somebody who is still in it has committed
chips.  Streets may be advanced while the betting is open, so that everybody who has posted folds
before the others had to pay.  Where this does not happen there is always such a player (`Funded`):
nobody who has not paid is passed over on the first street, for all of them are met before the big
blind.  So a hand that is played by its rules can be settled in full at every moment
(`settleable_by_rules`).
-/

namespace PokerRoom

open Foundation

/-! ## Definitions -/

/-- The street is advanced only when the betting on it is closed. -/
def StreetClosed (t : Transition RoundTables BettingCommand) : Prop :=
  match t.command with
  | .placeBet _ _ => True
  | .advanceStreet => t.before.round.isActionClosed = true

instance : DecidablePred StreetClosed
  | ⟨_, .placeBet _ _, _⟩ => isTrue trivial
  | ⟨r, .advanceStreet, _⟩ => inferInstanceAs (Decidable (r.round.isActionClosed = true))

/-- The big blind is dealt in and posts it. -/
structure BigBlindPosts (s : RoundSetup) : Prop where
  /-- He is dealt in. -/
  dealtIn : ∃ p ∈ s.players, p.seatNumber = s.bigBlindSeat
  /-- He does not post the small blind. -/
  blinds_ne : s.smallBlindSeat ≠ s.bigBlindSeat
  /-- He posts something. -/
  bigBlind_pos : 0 < s.bigBlind

/-- Everybody who is still in the hand has committed chips. -/
def AllPaid (r : RoundTables) : Prop :=
  ∀ q ∈ r.players, q.hasFolded = false → 0 < q.committedThisHand

/-- The big blind is still in the hand, and going clockwise from the one who has the turn, whoever
has not committed chips is met before him. -/
def StillToPay (s : RoundSetup) (r : RoundTables) : Prop :=
  ∃ b ∈ r.players, b.seatNumber = s.bigBlindSeat ∧ b.hasFolded = false ∧ 0 < b.committedThisHand ∧
    ∀ c ∈ r.players, r.round.actingPlayerId = some c.playerId → c ≠ b ∧
      ∀ q ∈ r.players, q.hasFolded = false → q.committedThisHand ≤ 0 →
        q = c ∨ Before c.seatNumber q.seatNumber b.seatNumber

/-- At most one player can act. -/
def FewCanAct (r : RoundTables) : Prop :=
  ∀ q ∈ r.players, ∀ q' ∈ r.players, q.CanAct → q'.CanAct → q = q'

/-- Somebody who is still in the hand has committed chips, and so has somebody who does not have the
turn. -/
structure Funded (s : RoundSetup) (r : RoundTables) : Prop where
  /-- Somebody has. -/
  somebody : ∃ q ∈ r.players, q.hasFolded = false ∧ 0 < q.committedThisHand
  /-- There is a bet to match on the first street. -/
  bet : r.round.street = .preFlop → 0 < r.round.currentHighestBet
  /-- Somebody has who does not have the turn. -/
  other : r.round.isActionClosed = false → ∃ q ∈ r.players, q.hasFolded = false ∧
    0 < q.committedThisHand ∧ r.round.actingPlayerId ≠ some q.playerId
  /-- On the first street who has not is still to act. -/
  preFlop : r.round.street = .preFlop → r.round.isActionClosed = false → AllPaid r ∨ StillToPay s r
  /-- Later everybody has. -/
  later : r.round.street ≠ .preFlop → r.round.isActionClosed = false → AllPaid r
  /-- Everybody has when a betting is closed that goes on. -/
  closed : r.round.isActionClosed = true → FewCanAct r ∨ AllPaid r

variable {d : Deal} {s : RoundSetup} {r r' r₀ : RoundTables} {data : PlaceBet} {ids ids₀ : Uuids}
  {p : PlayerState} {a : BetAction} {v : ValidatedAction} {q : RoundPlayer}

/-! ## One action -/

/-- Who is all-in has committed his stack, so whoever has committed nothing and is still in the hand
can act. -/
lemma BettingInvariant.canAct_of_unpaid (hinv : BettingInvariant d.toRoundSetup r)
    (hq : q ∈ r.players)
    (hstays : q.hasFolded = false) (hunpaid : q.committedThisHand ≤ 0) : q.CanAct := by
  have hids : q.playerId ∈ d.players.map (·.playerId) :=
    hinv.seated.playerIds ▸ List.mem_map_of_mem hq
  obtain ⟨p, hp, hid⟩ := List.mem_map.mp hids
  have hdealt : d.dealt q.playerId = p.stack := hid ▸ dealt_of_mem hp
  have hstack := (hinv.chips.players q hq).stack_add_hand
  have hpos := d.stack_pos p hp
  refine ⟨by simp [hinv.state.isActive_eq q hq, hstays], hstays,
    Bool.eq_false_iff.mpr fun hall => ?_⟩
  have hzero := (hinv.state.isAllIn_iff q hq).mp hall
  omega

/-- Whoever is still in the hand after his action on a street with a bet has committed chips. -/
lemma BetApplied.paid (hinv : BettingInvariant d.toRoundSetup r)
    (happ : BetApplied r data ids p a v r')
    (hbet : 0 < r.round.currentHighestBet) (hstays : (p.act v).hasFolded = false) :
    0 < (p.act v).committedThisHand := by
  have hp := happ.accepted.mem.1
  have hchips := hinv.chips.players p hp
  have hstack := hinv.state.stack_pos hinv.chips hp happ.accepted.permitted.canAct
  have hstreet := hchips.street_nonneg
  have hhand := hchips.street_le_hand
  simp only [PlayerState.act, Bool.or_eq_false_iff, decide_eq_false_iff_not] at hstays ⊢
  rcases happ.accepted.outcome.amount_pos_or hstack with hpos | ⟨hzero, hfold | ⟨-, hmatched⟩⟩
  · omega
  · exact absurd hfold hstays.2
  · simp only [buildHandContext] at hmatched
    omega

/-- Whoever has paid has paid after an applied bet. -/
lemma AllPaid.betApplied (hinv : BettingInvariant d.toRoundSetup r)
    (happ : BetApplied r data ids p a v r') (h : AllPaid r) : AllPaid r' := by
  intro q hq hstays
  rcases (happ.mem_iff hinv).mp hq with rfl | ⟨hq, -⟩
  · have hp := happ.accepted.mem.1
    have hpaid := h p hp happ.accepted.permitted.canAct.2.1
    have hamount := (happ.accepted.outcome.amount_bounds (hinv.chips.players p hp).stack_nonneg).1
    simp only [PlayerState.act]
    omega
  · exact h q hq hstays

/-- Where at most one player can act, no two pass a test that only those pass who can act. -/
lemma FewCanAct.length_le (hfew : FewCanAct r) (hnd : r.players.Nodup) {test : RoundPlayer → Bool}
    (htest : ∀ q, test q = true → q.CanAct) : (r.players.filter test).length ≤ 1 := by
  have hmem : ∀ q ∈ r.players.filter test, q ∈ r.players ∧ q.CanAct := fun q hq =>
    ⟨List.mem_of_mem_filter hq, htest q (List.mem_filter.mp hq).2⟩
  cases hl : r.players.filter test with
  | nil => exact Nat.zero_le 1
  | cons q l =>
    have hnd' := hnd.filter test
    rw [hl] at hmem hnd'
    have hsame : ∀ q' ∈ q :: l, q' = q := fun q' hq' =>
      hfew q' (hmem q' hq').1 q (hmem q List.mem_cons_self).1 (hmem q' hq').2
        (hmem q List.mem_cons_self).2
    have hnil : l = [] := List.eq_nil_iff_forall_not_mem.mpr fun q' hq' =>
      (List.nodup_cons.mp hnd').1 (hsame q' (List.mem_cons_of_mem _ hq') ▸ hq')
    rw [hnil, List.length_singleton]

/-- Where the betting goes on after an applied bet, two players can act. -/
lemma BetApplied.two_canAct (hnd : r'.players.Nodup) (happ : BetApplied r data ids p a v r')
    (hopen : r'.round.isActionClosed = false) : ¬ FewCanAct r' := by
  intro hfew
  rw [happ.round_eq] at hopen
  simp only [Round.acted, nextAfter, nextToAct] at hopen
  split at hopen
  · cases hopen
  next htwo =>
  rw [List.filter_map, List.length_map] at htwo
  exact htwo (Nat.lt_succ_of_le (hfew.length_le hnd fun q hq => canAct_actionSeat.mp hq))

/-- Whoever has not paid after an applied bet still owes chips. -/
lemma BetApplied.owes_of_unpaid (hinv' : BettingInvariant d.toRoundSetup r')
    (happ : BetApplied r data ids p a v r') (hbet : 0 < r.round.currentHighestBet)
    {q : RoundPlayer} (hq : q ∈ r'.players) (hqstays : q.hasFolded = false)
    (hqzero : q.committedThisHand ≤ 0) : q.Owes r'.round.currentHighestBet := by
  have hbet' : 0 < r'.round.currentHighestBet := by
    rw [happ.highest_eq]
    exact hbet.trans_le le_highestAfter
  refine ⟨hinv'.canAct_of_unpaid hq hqstays hqzero, ?_⟩
  have hstreet := (hinv'.chips.players q hq).street_le_hand
  omega

/-- A bet that lets the betting of the first street go on leaves whoever has not paid to act before
the big blind. -/
lemma StillToPay.betApplied (hinv : BettingInvariant d.toRoundSetup r)
    (hinv' : BettingInvariant d.toRoundSetup r') (happ : BetApplied r data ids p a v r')
    (hbet : 0 < r.round.currentHighestBet) (hopen : r'.round.isActionClosed = false)
    (h : StillToPay d.toRoundSetup r) : AllPaid r' ∨ StillToPay d.toRoundSetup r' := by
  by_cases hpaid : AllPaid r'
  · exact Or.inl hpaid
  right
  obtain ⟨b, hb, hseat, hstays, hpos, hturn⟩ := h
  have hp := happ.accepted.mem.1
  obtain ⟨hpb, harc⟩ := hturn p hp (happ.acting hinv)
  obtain ⟨c, hc, hacting, -, -, hfirst⟩ := happ.open_spec hinv'.seated hopen
  -- whoever has not paid is met between the actor and the big blind, and not before the next actor
  have hbetween : ∀ q ∈ r'.players, q.hasFolded = false → q.committedThisHand ≤ 0 →
      Before p.seatNumber q.seatNumber b.seatNumber := by
    intro q hq hqstays hqzero
    rcases (happ.mem_iff hinv).mp hq with rfl | ⟨hq, hne⟩
    · exact absurd (happ.paid hinv hbet hqstays) (not_lt.mpr hqzero)
    · exact (harc q hq hqstays hqzero).resolve_left hne
  have hafter : ∀ q ∈ r'.players, q.hasFolded = false → q.committedThisHand ≤ 0 →
      q = c ∨ Before p.seatNumber c.seatNumber q.seatNumber := by
    intro q hq hqstays hqzero
    have howes := happ.owes_of_unpaid hinv' hbet hq hqstays hqzero
    by_cases heq : q = c
    · exact Or.inl heq
    · have hseats : q.seatNumber ≠ c.seatNumber := fun h => heq (hinv'.seated.eq_of_seat hq hc h)
      refine Or.inr ((before_or_before p.seatNumber hseats).resolve_left fun hqc => ?_)
      exact (hfirst q hq howes.1 hqc).1 howes
  have hb' : b ∈ r'.players := (happ.mem_iff hinv).mpr (Or.inr ⟨hb, hpb.symm⟩)
  refine ⟨b, hb', hseat, hstays, hpos, fun c' hc' hacting' => ?_⟩
  obtain rfl :=
    eq_of_key_eq hinv'.seated.ids_nodup hc' hc (Option.some.inj (hacting'.symm.trans hacting))
  constructor
  · rintro rfl
    simp only [AllPaid, not_forall, not_lt] at hpaid
    obtain ⟨q, hq, hqstays, hqzero⟩ := hpaid
    have hqb := hbetween q hq hqstays hqzero
    rcases hafter q hq hqstays hqzero with rfl | hcq
    · omega
    · exact hcq.asymm hqb
  · intro q hq hqstays hqzero
    exact (hafter q hq hqstays hqzero).imp_right fun hcq =>
      hcq.advance (hbetween q hq hqstays hqzero)

/-- Where two players can act, one of them does not have the turn. -/
lemma exists_other (hnd : (r.players.map (·.playerId)).Nodup) (htwo : ¬ FewCanAct r) :
    ∃ q ∈ r.players, q.CanAct ∧ r.round.actingPlayerId ≠ some q.playerId := by
  simp only [FewCanAct, not_forall] at htwo
  obtain ⟨q, hq, q', hq', hcan, hcan', hne⟩ := htwo
  by_cases hacting : r.round.actingPlayerId = some q.playerId
  · refine ⟨q', hq', hcan', fun hacting' => hne ?_⟩
    exact eq_of_key_eq hnd hq hq' (Option.some.inj (hacting.symm.trans hacting'))
  · exact ⟨q, hq, hcan, hacting⟩

/-- Where everybody has paid and two players can act, one of them has paid and does not have the
turn. -/
lemma AllPaid.exists_other (hnd : (r.players.map (·.playerId)).Nodup) (h : AllPaid r)
    (htwo : ¬ FewCanAct r) :
    ∃ q ∈ r.players, q.hasFolded = false ∧ 0 < q.committedThisHand ∧
      r.round.actingPlayerId ≠ some q.playerId := by
  obtain ⟨q, hq, hcan, hacting⟩ := PokerRoom.exists_other hnd htwo
  exact ⟨q, hq, hcan.2.1, h q hq hcan.2.1, hacting⟩

/-- An applied bet keeps the hand funded. -/
lemma Funded.betApplied (hinv : BettingInvariant d.toRoundSetup r)
    (hinv' : BettingInvariant d.toRoundSetup r') (hcov : AggressorCovered r)
    (happ : BetApplied r data ids p a v r') (h : Funded d.toRoundSetup r) :
    Funded d.toRoundSetup r' := by
  have hp := happ.accepted.mem.1
  have hopen := happ.accepted.permitted.open_
  have hstreet : r'.round.street = r.round.street := by rw [happ.round_eq]; rfl
  have hbet : r'.round.street = .preFlop → 0 < r'.round.currentHighestBet := fun hs => by
    rw [happ.highest_eq]
    exact (h.bet (hstreet ▸ hs)).trans_le le_highestAfter
  have hpreFlop : r'.round.street = .preFlop → r'.round.isActionClosed = false →
      AllPaid r' ∨ StillToPay d.toRoundSetup r' := by
    intro hs hopen'
    rcases h.preFlop (hstreet ▸ hs) hopen with hpaid | hturn
    · exact Or.inl (hpaid.betApplied hinv happ)
    · exact hturn.betApplied hinv hinv' happ (h.bet (hstreet ▸ hs)) hopen'
  have hlater : r'.round.street ≠ .preFlop → AllPaid r' := fun hs =>
    (h.later (hstreet ▸ hs) hopen).betApplied hinv happ
  refine ⟨?_, hbet, fun hopen' => ?_, hpreFlop, fun hs _ => hlater hs, fun hclosed => ?_⟩
  · -- somebody has paid who did not act
    obtain ⟨q, hq, hstays, hpos, hother⟩ := h.other hopen
    refine ⟨q, (happ.mem_iff hinv).mpr (Or.inr ⟨hq, fun heq => hother ?_⟩), hstays, hpos⟩
    rw [heq]
    exact happ.acting hinv
  · have htwo := happ.two_canAct (List.Nodup.of_map _ hinv'.seated.ids_nodup) hopen'
    by_cases hs : r'.round.street = .preFlop
    · rcases hpreFlop hs hopen' with hpaid | ⟨b, hb, -, hstays, hpos, hturn⟩
      · exact hpaid.exists_other hinv'.seated.ids_nodup htwo
      · refine ⟨b, hb, hstays, hpos, fun hacting => ?_⟩
        exact (hturn b hb hacting).1 rfl
    · exact (hlater hs).exists_other hinv'.seated.ids_nodup htwo
  · by_cases hfew : FewCanAct r'
    · exact Or.inl hfew
    · right
      by_cases hs : r'.round.street = .preFlop
      · intro q hq hstays
        by_contra hunpaid
        have hcan := hinv'.canAct_of_unpaid hq hstays (not_lt.mp hunpaid)
        have hmatched := happ.all_matched_of_closed hinv hinv' hcov hclosed hfew q hq hcan
        have hhand := (hinv'.chips.players q hq).street_le_hand
        have hpos := hbet hs
        omega
      · exact hlater hs

/-! ## One advance of the street -/

/-- A street goes on to the next one when two players can act. -/
lemma not_fewCanAct_of_nextStreet (hnd : r.players.Nodup)
    (haction : r.streetEnd.action = .nextStreet) :
    ¬ FewCanAct r := by
  intro hfew
  unfold RoundTables.streetEnd evaluateStreetEnd at haction
  simp only at haction
  split at haction
  · cases haction
  split at haction
  · cases haction
  split at haction
  · cases haction
  next htwo =>
  rw [List.filter_filter, List.filter_map, List.length_map] at htwo
  refine htwo (hfew.length_le hnd fun q hq => ?_)
  simp only [Function.comp_apply, PlayerState.playerSeat, Bool.and_eq_true, Bool.not_eq_true'] at hq
  exact ⟨hq.2.2, hq.2.1, hq.1⟩

/-- Collecting the commitments of a street leaves who has paid and who can act. -/
lemma Funded.collect (h : Funded s r)
    (hr' : r'.players = r.players.map fun rp => { rp with committedThisStreet := 0 }) :
    (∃ q ∈ r'.players, q.hasFolded = false ∧ 0 < q.committedThisHand) ∧ (AllPaid r → AllPaid r') ∧
      (FewCanAct r → FewCanAct r') := by
  refine ⟨?_, fun hpaid => ?_, fun hfew => ?_⟩
  · obtain ⟨q, hq, hstays, hpos⟩ := h.somebody
    rw [hr']
    exact ⟨_, List.mem_map_of_mem hq, hstays, hpos⟩
  · rw [AllPaid, hr', List.forall_mem_map]
    exact hpaid
  · intro q hq q' hq' hcan hcan'
    rw [hr'] at hq hq'
    obtain ⟨o, ho, rfl⟩ := List.mem_map.mp hq
    obtain ⟨o', ho', rfl⟩ := List.mem_map.mp hq'
    rw [hfew o ho o' ho' hcan hcan']

/-- An advance of a closed street keeps the hand funded. -/
lemma Funded.streetAdvanced (hinv : BettingInvariant d.toRoundSetup r)
    (hinv' : BettingInvariant d.toRoundSetup r') (hadv : StreetAdvanced r r')
    (hclosed : r.round.isActionClosed = true) (h : Funded d.toRoundSetup r) :
    Funded d.toRoundSetup r' := by
  have hafter := hadv.after
  unfold StreetAdvanceResult.write at hafter
  cases haction : r.streetEnd.action with
  | settleHand =>
    simp only [haction] at hafter
    subst hafter
    exact ⟨h.somebody, h.bet, by simp, by simp, by simp, fun _ => h.closed hclosed⟩
  | showdown =>
    simp only [haction] at hafter
    obtain ⟨hsomebody, hpaid, hfew⟩ := h.collect (congrArg RoundTables.players hafter)
    subst hafter
    exact ⟨hsomebody, by simp, by simp, by simp, by simp, fun _ =>
      (h.closed hclosed).imp hfew hpaid⟩
  | nextStreet =>
    obtain ⟨street, hstreet, hindex⟩ := exists_nextStreet haction
    have hne : street ≠ .preFlop := by
      rintro rfl
      simp [Street.index] at hindex
    have htwo := not_fewCanAct_of_nextStreet (List.Nodup.of_map _ hinv.seated.ids_nodup) haction
    simp only [haction, hstreet, Option.getD_some] at hafter
    obtain ⟨hsomebody, hpaid, -⟩ := h.collect (congrArg RoundTables.players hafter)
    have hall : AllPaid r' := hpaid ((h.closed hclosed).resolve_left htwo)
    have htwo' : ¬ FewCanAct r' := fun hfew => htwo fun q hq q' hq' hcan hcan' => by
      rw [hafter] at hfew
      have heq := hfew _ (List.mem_map_of_mem hq) _ (List.mem_map_of_mem hq') hcan hcan'
      exact eq_of_key_eq hinv.seated.ids_nodup hq hq' (PlayerState.mk.inj heq).1
    have hother := hall.exists_other hinv'.seated.ids_nodup htwo'
    subst hafter
    exact ⟨hsomebody, fun hs => absurd hs hne, fun _ => hother, fun hs => absurd hs hne,
      fun _ _ => hall, by simp⟩

/-- An accepted command keeps the hand funded, when streets are advanced only when they are
closed. -/
lemma Funded.step (hinv : BettingInvariant d.toRoundSetup r) (hcov : AggressorCovered r)
    {c : BettingCommand} (hrule : StreetClosed ⟨r, c, r'⟩)
    (hstep : bettingMachine.step r c = .ok r')
    (h : Funded d.toRoundSetup r) : Funded d.toRoundSetup r' := by
  rcases betting_step_cases hinv.seated.ids_nodup hstep with
    ⟨rfl, -⟩ | ⟨data, ids, p, a, v, -, happ⟩ | ⟨hc, hadv⟩
  · exact h
  · exact h.betApplied hinv (hinv.step hstep) hcov happ
  · subst hc
    exact h.streetAdvanced hinv (hinv.step hstep) hadv hrule

/-! ## Every run -/

/-- The posted big blind is not empty. -/
lemma BigBlindPosts.committed_pos (hblind : BigBlindPosts d.toRoundSetup) {b : SeatPlayer}
    (hb : b ∈ d.players)
    (hseat : b.seatNumber = d.bigBlindSeat) : 0 < (d.postedRow b).committedThisHand := by
  have hconserved : (d.postedRow b).stackRemaining + (d.postedRow b).committedThisHand = b.stack :=
    (d.postPlayer_spec hb).conserved
  have hstack := d.postedRow_stack hb
  have hpos := d.stack_pos b hb
  have hbig := hblind.bigBlind_pos
  have hdue : d.bigBlind ≤ d.due b := by
    have hante : 0 ≤ max d.ante 0 := le_max_right _ _
    simp only [RoundSetup.due, if_neg (hseat ▸ hblind.blinds_ne.symm), if_pos hseat]
    omega
  omega

/-- The one who acts first in a new hand is the next one after the big blind. -/
lemma exists_first_actor (d : Deal) {b : SeatPlayer} (hb : b ∈ d.players)
    (hseat : b.seatNumber = d.bigBlindSeat) (ids : Uuids) :
    ∃ first ∈ d.players, first.playerId ≠ b.playerId ∧
      (d.tables ids).round.actingPlayerId = some first.playerId ∧
      IsNext (d.players.map (·.seatNumber)) d.bigBlindSeat first.seatNumber := by
  have hasc : (d.players.map (·.seatNumber)).Pairwise (· < ·) := List.pairwise_map.mpr d.seats_lt
  have hbseat : d.bigBlindSeat ∈ d.players.map (·.seatNumber) := hseat ▸ List.mem_map_of_mem hb
  obtain ⟨x, hx, hnext⟩ := exists_isNext hasc hbseat
  have hfirst : d.firstToActSeat = some x := by
    rw [RoundSetup.firstToActSeat, if_pos hbseat]
    exact hx
  obtain ⟨first, hfirstmem, rfl⟩ := List.mem_map.mp hnext.1
  obtain ⟨y, hy, hyne⟩ :=
    exists_mem_ne d.seats_nodup (by rw [List.length_map]; exact d.two_le) d.bigBlindSeat
  have hne : first.seatNumber ≠ d.bigBlindSeat := hnext.ne_start hy hyne
  refine ⟨first, hfirstmem, fun hid => hne ?_, d.firstActingPlayerId_eq hfirstmem hfirst, hnext⟩
  exact eq_of_key_eq d.ids_nodup hfirstmem hb hid ▸ hseat

/-- A new hand is funded when its big blind is posted. -/
lemma funded_tables (d : Deal) (hblind : BigBlindPosts d.toRoundSetup) (ids : Uuids) :
    Funded d.toRoundSetup (d.tables ids) := by
  obtain ⟨b, hb, hseat⟩ := hblind.dealtIn
  have hpos := hblind.committed_pos hb hseat
  have hmem : d.postedRow b ∈ (d.tables ids).players := by
    rw [tables_players]
    exact List.mem_map_of_mem hb
  have hstate := bettingState_tables d ids
  obtain ⟨first, hfirstmem, hother, hacting, hnext⟩ := exists_first_actor d hb hseat ids
  refine ⟨⟨_, hmem, rfl, hpos⟩, fun _ => ?_, fun _ => ⟨_, hmem, rfl, hpos, fun h => ?_⟩,
    fun _ _ => Or.inr ⟨_, hmem, hseat, rfl, hpos, ?_⟩, fun hs => absurd rfl hs,
    fun hs => absurd hs Bool.false_ne_true⟩
  · have hstreet : (d.postedRow b).committedThisHand = (d.postedRow b).committedThisStreet :=
      (d.postPlayer_spec hb).hand_eq_street
    exact (hstreet ▸ hpos).trans_le (hstate.le_highest _ hmem)
  · exact hother (Option.some.inj (hacting.symm.trans h))
  · rw [tables_players]
    intro c hc hturn
    obtain ⟨p, hp, rfl⟩ := List.mem_map.mp hc
    have hid : p.playerId = first.playerId := Option.some.inj (hturn.symm.trans hacting)
    obtain rfl := eq_of_key_eq d.ids_nodup hp hfirstmem hid
    refine ⟨fun heq => hother (PlayerState.mk.inj heq).1, fun q hq _ hunpaid => ?_⟩
    obtain ⟨o, ho, rfl⟩ := List.mem_map.mp hq
    have hob : o.seatNumber ≠ d.bigBlindSeat := fun h =>
      absurd (hblind.committed_pos ho h) (not_lt.mpr hunpaid)
    rcases hnext.2 o.seatNumber (List.mem_map_of_mem ho) with hsame | hbefore
    · exact Or.inl (congrArg d.postedRow (eq_of_key_eq d.seats_nodup ho hp hsame))
    · right
      have harc := hbefore.restart hob
      rw [← hseat] at harc
      exact harc

/-- **A hand that is played by its rules can be settled.** In every run of the betting of a dealt
hand whose big blind is posted, and in which streets are advanced only when the betting on them is
closed, there is at every moment a settlement that pays every pot in full to players who may win it;
and every such settlement is accepted, completes the round and puts all dealt chips back into the
stacks. -/
theorem settleable_by_rules (hdeal : createRound d.toRoundSetup ids₀ = .ok r₀)
    (hblind : BigBlindPosts d.toRoundSetup) {cs : List BettingCommand}
    (hrules : ∀ t ∈ bettingMachine.trace r₀ cs, StreetClosed t)
    (hids : Unused ids (bettingMachine.run r₀ cs)) :
    (∃ data, PaysInFull (bettingMachine.run r₀ cs) data) ∧
      ∀ data, PaysInFull (bettingMachine.run r₀ cs) data →
        ∃ r', settleRound (bettingMachine.run r₀ cs) data ids = .ok r' ∧
          r'.round.status = .completed ∧
          stackTotal r' = d.dealtTotal := by
  have hcov₀ : AggressorCovered r₀ := by
    obtain ⟨-, -, rfl⟩ := createRound_eq_ok_iff.mp hdeal
    exact aggressorCovered_of_none rfl
  have hfunded₀ : Funded d.toRoundSetup r₀ := by
    obtain ⟨-, -, rfl⟩ := createRound_eq_ok_iff.mp hdeal
    exact funded_tables d hblind ids₀
  obtain ⟨hinv, -, hfunded⟩ := Machine.run_invariant_of_trace (M := bettingMachine)
    (I := fun r => BettingInvariant d.toRoundSetup r ∧ AggressorCovered r ∧ Funded d.toRoundSetup r)
    (fun _ _ _ hrule hI hstep =>
      ⟨hI.1.step hstep, hI.2.1.step hI.1 hstep, Funded.step hI.1 hI.2.1 hrule hstep hI.2.2⟩)
    ⟨bettingInvariant_of_createRound hdeal, hcov₀, hfunded₀⟩ hrules
  have hcov := potCovered_betting hdeal cs
  set r := bettingMachine.run r₀ cs
  have hexactly := hcov.settlesExactly (fun p hp => hinv.seated.playerId_ne hp) hids
  obtain ⟨q, hq, hstays, hpos⟩ := hfunded.somebody
  refine ⟨hexactly.payable.mpr ⟨q, hq,
    (contribution_live_iff (hinv.state.isActive_eq q hq)).mpr hstays, hpos⟩,
    fun data hdata => ?_⟩
  obtain ⟨r', hok⟩ := (hexactly.inFull data hdata).mpr ⟨hinv.state.status, hinv.chips.pot⟩
  have hset := settleRound_eq_ok_iff.mp hok
  refine ⟨r', hok, by rw [hset.after]; rfl, ?_⟩
  have hpaid := hset.sum_stack hinv.seated.ids_nodup hcov
  have htotal := hinv.chips.stackTotal_add_pot hinv.seated
  rw [hdata.totalPaid_eq hcov.constraints, ← hinv.chips.pot] at hpaid
  exact hpaid.trans htotal

/-- A hand that is folded on the flop can be settled in full. -/
theorem settleable_by_rules_headsUp :
    ∃ data, PaysInFull (bettingMachine.run (headsUp.tables headsUpIds) foldedFlop) data :=
  (settleable_by_rules
    (show createRound headsUp.toRoundSetup headsUpIds = .ok (headsUp.tables headsUpIds) by decide)
    ⟨⟨⟨"bob", 2, 100⟩, by decide, rfl⟩, by decide, by decide⟩
    (show ∀ t ∈ bettingMachine.trace (headsUp.tables headsUpIds) foldedFlop,
      StreetClosed t by decide)
    (unused_marks (by decide))).1

-- where an open street is advanced, everybody who has posted can fold before the button had to pay
example : ¬ SomebodyEligible (bettingMachine.run (threeHanded.tables headsUpIds)
    [.advanceStreet, .send "bob" "fold" 0 "b1" "e1", .advanceStreet,
      .send "carol" "fold" 0 "b2" "e2"]) := by
  decide

end PokerRoom
