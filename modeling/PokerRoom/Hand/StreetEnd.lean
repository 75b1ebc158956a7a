import PokerRoom.Hand.Closure
import PokerRoom.Hand.RoundRun
import PokerRoom.Hand.Termination

/-!
# Leaving a street

`advance_street`, `resolve_hand` and `declare_winner` take a hand past the current street without
looking whether its betting is over.  `streets_end_over_iff` says that a hand only leaves streets
whose betting is over exactly when these commands only arrive at a closed betting, and the action
that closed it cut nobody off.
-/

namespace PokerRoom

open Foundation

/-! ## Definitions -/

/-- The betting is over: it is closed, nobody has the turn, and nobody owes chips in a contested
hand. -/
structure BettingOver (r : RoundTables) : Prop where
  /-- The betting is closed. -/
  closed : r.round.isActionClosed = true
  /-- Nobody has the turn. -/
  turn : r.round.actingPlayerId = none
  /-- Nobody owes chips. -/
  settledUp : SettledUp r

/-- The command asks to go past the current street. -/
def RoundCommand.EndsStreet : RoundCommand → Prop
  | .betting .advanceStreet | .resolveHand _ _ | .declareWinner _ _ => True
  | _ => False

/-- The hand leaves the current street: the street is changed or the round is settled. -/
def LeavesStreet (r : RoundTables) (c : RoundCommand) (r' : RoundTables) : Prop :=
  match c with
  | .betting .advanceStreet => r'.round.street ≠ r.round.street
  | .resolveHand _ _ | .declareWinner _ _ => True
  | _ => False

instance : DecidablePred RoundCommand.EndsStreet := fun c => by
  unfold RoundCommand.EndsStreet
  split <;> infer_instance

instance (r : RoundTables) (c : RoundCommand) (r' : RoundTables) :
    Decidable (LeavesStreet r c r') := by
  unfold LeavesStreet
  split <;> infer_instance

/-- Record whether the last action on the current street has cut somebody off. -/
def recordCut (r : RoundTables) (c : RoundCommand) (r' : RoundTables) (cut : Bool) : Bool :=
  match c with
  | .betting (.placeBet data _) => if data.existing r = none then decide (data.CutsOff r) else cut
  | .betting .advanceStreet => if r'.round.street = r.round.street then cut else false
  | _ => cut

/-- The transitions of a run, with the record whether the last action on the street has cut somebody
off. -/
def cutTrace (r₀ : RoundTables) (cs : List RoundCommand) :
    List (Transition (RoundTables × Bool) RoundCommand) :=
  (roundMachine.instrument recordCut).trace (r₀, false) cs

/-- The number of players who have not folded. -/
def unfoldedCount (r : RoundTables) : ℕ := (r.players.filter fun p => p.hasFolded = false).length

/-- What holds of the rows of an active round and the record while the hand is played. -/
structure StreetEndInvariant (s : RoundSetup) (r : RoundTables) (cut : Bool) : Prop where
  /-- The invariants of the betting. -/
  betting : BettingInvariant s r
  /-- The last aggressor is covered. -/
  covered : AggressorCovered r
  /-- A hand whose betting is open is contested. -/
  contested : r.round.isActionClosed = false → 2 ≤ unfoldedCount r
  /-- A closed betting has settled everybody up unless its last action cut somebody off. -/
  settledUp_iff : r.round.isActionClosed = true → (SettledUp r ↔ cut = false)

variable {r r' : RoundTables} {d : Deal} {data : PlaceBet} {ids : Uuids} {p : PlayerState}
  {a : BetAction} {v : ValidatedAction} {cut : Bool}

/-! ## Contested hands -/

/-- A bet that leaves the betting open leaves the hand contested. -/
lemma BetApplied.contested (happ : BetApplied r data ids p a v r')
    (hopen : r'.round.isActionClosed = false) : 2 ≤ unfoldedCount r' := by
  rw [happ.round_eq] at hopen
  have htwo := two_le_of_nextToAct_open hopen
  rw [List.filter_map, List.length_map] at htwo
  refine htwo.trans (List.Sublist.length_le (List.monotone_filter_right _ fun q hq => ?_))
  simpa using (canAct_actionSeat.mp hq).2.1

/-- The players in the hand are those who have not folded. -/
lemma unfoldedCount_eq (h : ∀ p ∈ r.players, p.isActiveInHand = !p.hasFolded) :
    (r.players.filter fun p => p.InHand).length = unfoldedCount r := by
  refine congrArg List.length (List.filter_congr fun p hp => ?_)
  simp [PlayerState.InHand, h p hp]

/-- The street progression settles the hand exactly when at most one player is in it. -/
lemma streetEnd_settleHand_iff_inHand :
    r.streetEnd.action = .settleHand ↔ (r.players.filter fun p => p.InHand).length ≤ 1 := by
  have hcount : ((r.players.map (·.playerSeat)).filter fun p =>
      !p.hasFolded && p.isActiveInHand).length = (r.players.filter fun p => p.InHand).length := by
    rw [List.filter_map, List.length_map]
    refine congrArg List.length (List.filter_congr fun p _ => ?_)
    rw [Bool.eq_iff_iff, decide_eq_true_iff]
    simp [PlayerState.playerSeat, PlayerState.InHand]
  rw [← hcount]
  unfold RoundTables.streetEnd evaluateStreetEnd
  simp only
  split
  · next hfew => simpa using hfew
  next hmany =>
  split
  · simpa using hmany
  split
  · simpa using hmany
  · simpa using hmany

/-- The street progression settles the hand exactly when it is not contested. -/
lemma streetEnd_settleHand_iff (h : ∀ p ∈ r.players, p.isActiveInHand = !p.hasFolded) :
    r.streetEnd.action = .settleHand ↔ unfoldedCount r ≤ 1 := by
  rw [streetEnd_settleHand_iff_inHand, unfoldedCount_eq h]

/-- An advance of the street changes the street unless it settles the hand. -/
lemma StreetAdvanced.street_ne_iff (hadv : StreetAdvanced r r') :
    r'.round.street ≠ r.round.street ↔ r.streetEnd.action ≠ .settleHand := by
  rw [hadv.after]
  unfold StreetAdvanceResult.write
  cases haction : r.streetEnd.action with
  | settleHand => simp
  | showdown => simpa using hadv.street.symm
  | nextStreet =>
    obtain ⟨s, hs, hindex⟩ := exists_nextStreet haction
    simp only [hs, Option.getD_some, ne_eq, reduceCtorEq, not_false_eq_true, iff_true]
    rintro rfl
    omega

/-! ## One command -/

/-- An advance of the street keeps the invariant. -/
lemma StreetEndInvariant.streetAdvanced (h : StreetEndInvariant d.toRoundSetup r cut)
    (hadv : StreetAdvanced r r') (hok : bettingMachine.step r .advanceStreet = .ok r') :
    StreetEndInvariant d.toRoundSetup r' (recordCut r (.betting .advanceStreet) r' cut) := by
  have hcount := streetEnd_settleHand_iff h.betting.state.isActive_eq
  have hchanged := hadv.street_ne_iff
  refine ⟨h.betting.step hok, h.covered.step h.betting hok, ?_, ?_⟩
  · intro hopen
    have hsame : unfoldedCount r' = unfoldedCount r ∧ r.streetEnd.action ≠ .settleHand := by
      rw [hadv.after] at hopen ⊢
      unfold StreetAdvanceResult.write at hopen ⊢
      cases haction : r.streetEnd.action with
      | settleHand | showdown => simp [haction] at hopen
      | nextStreet =>
        refine ⟨?_, by simp⟩
        simp only [unfoldedCount, List.filter_map, List.length_map]
        rfl
    rw [hsame.1]
    exact not_le.mp fun hfew => hsame.2 (hcount.mpr hfew)
  · intro hclosed
    by_cases hsettle : r.streetEnd.action = .settleHand
    · -- an uncontested hand was closed before, and its rows are left alone
      have hfew := hcount.mp hsettle
      have hbefore : r.round.isActionClosed = true := by
        rw [← Bool.not_eq_false]
        exact fun hopen => absurd (h.contested hopen) (by omega)
      have hstreet : r'.round.street = r.round.street := by
        by_contra hne
        exact hchanged.mp hne hsettle
      have hplayers : r'.players = r.players := by
        rw [hadv.after]
        simp only [StreetAdvanceResult.write, hsettle]
      have hcut : cut = false := (h.settledUp_iff hbefore).mp (Or.inl hfew)
      rw [recordCut, if_pos hstreet]
      exact iff_of_true (Or.inl (hplayers ▸ hfew)) hcut
    · have hstreet := hchanged.mpr hsettle
      rw [recordCut, if_neg hstreet]
      refine iff_of_true (Or.inr ?_) rfl
      rw [hadv.after] at hclosed ⊢
      unfold StreetAdvanceResult.write at hclosed ⊢
      cases haction : r.streetEnd.action with
      | settleHand => exact absurd haction hsettle
      | nextStreet => simp [haction] at hclosed
      | showdown =>
        intro q hq _
        obtain ⟨o, -, rfl⟩ := List.mem_map.mp hq
        rfl

/-- A command of the betting keeps the invariant. -/
lemma StreetEndInvariant.step (h : StreetEndInvariant d.toRoundSetup r cut) {c : BettingCommand}
    (hok : bettingMachine.step r c = .ok r') :
    StreetEndInvariant d.toRoundSetup r' (recordCut r (.betting c) r' cut) := by
  cases c with
  | placeBet data ids =>
    rcases placeBet_step_cases h.betting.seated.ids_nodup hok with
      ⟨hfound, rfl⟩ | ⟨hfresh, p, a, v, happ⟩
    · rw [recordCut, if_neg hfound]
      exact h
    · have hinv' := h.betting.step hok
      refine ⟨hinv', h.covered.step h.betting hok, happ.contested, fun hclosed => ?_⟩
      rw [happ.settledUp_iff h.betting hinv' h.covered hclosed, happ.cutsOff_iff h.betting,
        recordCut, if_pos hfresh, decide_eq_false_iff_not]
  | advanceStreet =>
    obtain ⟨⟨res, r''⟩, hadv, rfl⟩ := map_eq_ok_iff.mp hok
    exact h.streetAdvanced (advanceStreet_eq_ok_iff.mp hadv).2 hok

/-- The rows of a round and the record: the seating is fixed, and the invariant holds while the
round is active. -/
def InHand (s : RoundSetup) (r : RoundTables) (cut : Bool) : Prop :=
  SeatedAs s r ∧ (r.round.status = .active → StreetEndInvariant s r cut)

/-- An accepted command that corrects nothing keeps the invariant of an active round. -/
lemma InHand.step (h : InHand d.toRoundSetup r cut) {c : RoundCommand} (hcorr : ¬ c.IsCorrection)
    (hok : roundMachine.step r c = .ok r') :
    InHand d.toRoundSetup r' (recordCut r c r' cut) := by
  have hstep := round_step_cases h.1.ids_nodup hok
  refine ⟨h.1.roundStep hstep, fun hactive => ?_⟩
  have hsettled : ∀ {data ids}, ¬ Settled r data ids r' := fun hset => by
    rw [hset.after] at hactive
    cases hactive
  cases c with
  | betting c =>
    have hbefore : r.round.status = .active := by
      rcases hstep.status_cases with ⟨data, ids, hc, -⟩ | ⟨-, hcompleted | hstatus⟩
      · cases hc
      · rw [hcompleted] at hactive
        cases hactive
      · exact hstatus.symm.trans hactive
    exact (h.2 hbefore).step hok
  | resolveHand data ids => exact absurd (settleRound_eq_ok_iff.mp hok) hsettled
  | declareWinner data ids =>
    obtain ⟨request, -, hset⟩ := bind_eq_ok_iff.mp hok
    exact absurd (settleRound_eq_ok_iff.mp hset) hsettled
  | reverseAction | adjustStack | reopenHand | correctPayout => exact absurd trivial hcorr

/-- A new round satisfies the invariant. -/
lemma inHand_of_createRound {ids₀ : Uuids} {r₀ : RoundTables}
    (hdeal : createRound d.toRoundSetup ids₀ = .ok r₀) : InHand d.toRoundSetup r₀ false := by
  have hinv := bettingInvariant_of_createRound hdeal
  obtain ⟨-, -, rfl⟩ := createRound_eq_ok_iff.mp hdeal
  refine ⟨hinv.seated, fun _ => ⟨hinv, ?_, fun _ => ?_, fun hclosed => ?_⟩⟩
  · exact aggressorCovered_of_none rfl
  · -- nobody has folded yet
    have hall : (d.tables ids₀).players.filter (fun p => p.hasFolded = false) =
        (d.tables ids₀).players := by
      rw [List.filter_eq_self, tables_players, List.forall_mem_map]
      exact fun p _ => decide_eq_true rfl
    rw [unfoldedCount, hall]
    exact hinv.seated.two_le
  · simp [RoundSetup.tables] at hclosed

/-- The betting of an active round is over exactly when it is closed and its last action cut nobody
off. -/
lemma StreetEndInvariant.bettingOver_iff (h : StreetEndInvariant d.toRoundSetup r cut) :
    BettingOver r ↔ r.round.isActionClosed = true ∧ cut = false := by
  constructor
  · rintro ⟨hclosed, -, hup⟩
    exact ⟨hclosed, (h.settledUp_iff hclosed).mp hup⟩
  · rintro ⟨hclosed, hcut⟩
    exact ⟨hclosed, h.betting.state.turn_of_closed hclosed, (h.settledUp_iff hclosed).mpr hcut⟩

/-- A command that takes the hand past a street finds the betting of the street over exactly when it
finds it closed, by an action that cut nobody off. -/
lemma InHand.bettingOver_iff (h : InHand d.toRoundSetup r cut) {c : RoundCommand}
    (hok : roundMachine.step r c = .ok r') :
    (LeavesStreet r c r' → BettingOver r) ↔
      (c.EndsStreet → r.round.isActionClosed = true ∧ cut = false) := by
  have hsettled : ∀ {data ids}, Settled r data ids r' →
      (BettingOver r ↔ r.round.isActionClosed = true ∧ cut = false) :=
    fun hset => (h.2 hset.status).bettingOver_iff
  cases c with
  | betting c =>
    cases c with
    | placeBet data ids => exact iff_of_true (fun hleaves => hleaves.elim) fun hends => hends.elim
    | advanceStreet =>
      obtain ⟨⟨res, r''⟩, hadvance, rfl⟩ := map_eq_ok_iff.mp hok
      obtain ⟨-, hadv⟩ := advanceStreet_eq_ok_iff.mp hadvance
      have hinv := h.2 hadv.status
      rw [← hinv.bettingOver_iff]
      refine ⟨fun hover _ => ?_, fun hover _ => hover trivial⟩
      by_cases hstreet : r''.round.street = r.round.street
      · -- the street stays: the hand is not contested any more, and its betting closed
        have hfew : unfoldedCount r ≤ 1 := by
          refine (streetEnd_settleHand_iff hinv.betting.state.isActive_eq).mp ?_
          by_contra hgo
          exact hadv.street_ne_iff.mpr hgo hstreet
        have hclosed : r.round.isActionClosed = true := by
          rw [← Bool.not_eq_false]
          exact fun hopen => absurd (hinv.contested hopen) (by omega)
        exact ⟨hclosed, hinv.betting.state.turn_of_closed hclosed, Or.inl hfew⟩
      · exact hover hstreet
  | resolveHand data ids =>
    simpa [LeavesStreet, RoundCommand.EndsStreet] using hsettled (settleRound_eq_ok_iff.mp hok)
  | declareWinner data ids =>
    obtain ⟨request, -, hset⟩ := bind_eq_ok_iff.mp hok
    simpa [LeavesStreet, RoundCommand.EndsStreet] using hsettled (settleRound_eq_ok_iff.mp hset)
  | reverseAction | adjustStack | reopenHand | correctPayout =>
    exact iff_of_true (fun hleaves => hleaves.elim) fun hends => hends.elim

/-! ## Every run -/

/-- **When streets are left with their betting over.** Take any run of bets, advances of the street
and settlements on a dealt round.  Every advance that changes the street and every settlement finds
the betting over exactly when every advance and settlement finds it closed, by an action that cut
nobody off. -/
theorem streets_end_over_iff {ids₀ : Uuids} {r₀ : RoundTables}
    (hdeal : createRound d.toRoundSetup ids₀ = .ok r₀) {cs : List RoundCommand}
    (hcs : ∀ c ∈ cs, ¬ c.IsCorrection) :
    (∀ t ∈ cutTrace r₀ cs, LeavesStreet t.before.1 t.command t.after.1 → BettingOver t.before.1) ↔
      ∀ t ∈ cutTrace r₀ cs, t.command.EndsStreet →
        t.before.1.round.isActionClosed = true ∧ t.before.2 = false := by
  have hinv : ∀ t ∈ cutTrace r₀ cs, InHand d.toRoundSetup t.before.1 t.before.2 ∧
      roundMachine.step t.before.1 t.command = .ok t.after.1 := by
    intro t ht
    obtain ⟨hbefore, hok, -⟩ := Machine.trace_invariant_of_forall
      (I := fun p : RoundTables × Bool => InHand d.toRoundSetup p.1 p.2)
      (P := fun t : Transition _ RoundCommand => ¬ t.command.IsCorrection)
      (fun p c p' hcorr hp hok => by
        obtain ⟨r', cut'⟩ := p'
        obtain ⟨hround, rfl⟩ := Machine.instrument_step_eq_ok_iff.mp hok
        exact hp.step hcorr hround)
      (inHand_of_createRound hdeal)
      (fun t ht => hcs t.command (Machine.command_mem_of_mem_trace ht)) t ht
    exact ⟨hbefore, (Machine.instrument_step_eq_ok_iff.mp hok).1⟩
  apply forall₂_congr
  intro t ht
  obtain ⟨hbefore, hok⟩ := hinv t ht
  exact hbefore.bettingOver_iff hok

/-- A folded hand is settled with its betting over. -/
theorem streets_end_over_iff_headsUp :
    ∃ t ∈ cutTrace (headsUp.tables headsUpIds) foldedHand,
      LeavesStreet t.before.1 t.command t.after.1 ∧ BettingOver t.before.1 := by
  have hover := (streets_end_over_iff
    (show createRound headsUp.toRoundSetup headsUpIds = .ok (headsUp.tables headsUpIds) by decide)
    (show ∀ c ∈ foldedHand, ¬ c.IsCorrection by decide)).mpr (by decide)
  obtain ⟨t, ht, hleaves⟩ : ∃ t ∈ cutTrace (headsUp.tables headsUpIds) foldedHand,
      LeavesStreet t.before.1 t.command t.after.1 := by decide
  exact ⟨t, ht, hleaves, hover t ht hleaves⟩

/-- The street may be advanced while the small blind has the turn. -/
theorem open_street_left :
    ¬ ∀ (d : Deal) (ids₀ : Uuids) (r₀ : RoundTables), createRound d.toRoundSetup ids₀ = .ok r₀ →
      ∀ cs : List RoundCommand, (∀ c ∈ cs, ¬ c.IsCorrection) →
      ∀ t ∈ cutTrace r₀ cs, LeavesStreet t.before.1 t.command t.after.1 →
        t.before.1.round.isActionClosed = true := by
  intro h
  have hclosed := h headsUp headsUpIds (headsUp.tables headsUpIds) (by decide)
    [.betting .advanceStreet] (by decide)
  obtain ⟨t, ht, hleaves, hopen⟩ : ∃ t ∈ cutTrace (headsUp.tables headsUpIds)
      [.betting .advanceStreet], LeavesStreet t.before.1 t.command t.after.1 ∧
        t.before.1.round.isActionClosed = false := by
    decide
  exact absurd (hclosed t ht hleaves) (by simp [hopen])

end PokerRoom
