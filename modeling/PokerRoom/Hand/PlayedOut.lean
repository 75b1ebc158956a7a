import PokerRoom.Hand.Settlement
import PokerRoom.Hand.Termination
import PokerRoom.Hand.Turn

/-!
# A hand is played out

`hand_never_sticks_iff` says when somebody always holds the turn, and `accepted_bets_bounded` that
actions are accepted only so often.  Together they bring every hand to its end: as long as it is not
over, an action of the player who has the turn or an advance of a closed street is carried out, and
however the players act, the showdown is reached, or one player is left, after a bounded number of
requests (`hand_played_out_iff`).
-/

namespace PokerRoom

open Foundation

/-! ## Definitions -/

/-- The betting is closed for good: the showdown is reached, or one player is left. -/
def HandOver (r : RoundTables) : Prop :=
  r.round.isActionClosed = true ∧ (r.round.street = .showdown ∨ r.streetEnd.action = .settleHand)

instance : DecidablePred HandOver := fun _ => inferInstanceAs (Decidable (_ ∧ _))

/-- The request is carried out by the rules of the game: it is an action that is applied, or the
advance of a street on which the betting is closed. -/
def CarriedOut (r : RoundTables) (c : BettingCommand) : Prop :=
  (∃ r', bettingMachine.step r c = .ok r') ∧
    match c with
    | .placeBet data _ => data.existing r = none
    | .advanceStreet => r.round.isActionClosed = true

/-- What the requests of a hand have used up, and the streets they have left. -/
def progress (r : RoundTables) : Int := spent r + r.round.street.index

variable {d : Deal} {r r' r₀ : RoundTables} {ids ids₀ : Uuids} {data : PlaceBet} {p : PlayerState}
  {a : BetAction} {v : ValidatedAction}

/-! ## What is accepted is carried out -/

/-- A request whose key is not found can be recorded under it. -/
lemma idempotencyKeys_nodup (hnd : (r.bets.filterMap (·.idempotencyKey)).Nodup)
    (hfresh : data.existing r = none) (hkey : data.idempotencyKey ≠ some "") :
    ((r.bets ++
      [(recordBetAction data.playerId v.action v.amount data.idempotencyKey ids).1]).filterMap
        (·.idempotencyKey)).Nodup := by
  rw [List.filterMap_append]
  unfold PlaceBet.existing at hfresh
  cases hdata : data.idempotencyKey with
  | none => simpa [recordBetAction] using hnd
  | some key =>
    have hne : key ≠ "" := fun h => hkey (hdata.trans (congrArg some h))
    simp only [hdata, if_neg hne, List.find?_eq_none, decide_eq_true_eq] at hfresh
    refine hnd.append (List.nodup_singleton key) fun key' hmem hkey' => ?_
    obtain ⟨b, hb, hbkey⟩ := List.mem_filterMap.mp hmem
    exact hfresh b hb (hbkey.trans (congrArg some (List.mem_singleton.mp hkey')))

/-- An accepted action under unused identifiers keeps the constraints. -/
lemma Accepted.afterBet_constraints (hcons : r.Constraints)
    (hacc : Accepted r.round r.players data.playerId (upper data.action) data.amount p a v)
    (hfresh : data.existing r = none) (hkey : data.idempotencyKey ≠ some "")
    (hbet : ids 0 ∉ r.bets.map (·.betId)) (hentry : ids 1 ∉ r.ledger.map (·.entryId)) :
    (r.afterBet data p v ids).Constraints := by
  have hfound : p ∈ r.players := List.mem_of_find?_eq_some hacc.permitted.found
  have hp := hcons.players p hfound
  have hamount := hacc.outcome.amount_bounds hp.1
  have hversion : 1 ≤ r.round.version + 1 := by
    have hround := hcons.round.2.2.2
    rw [Round.version_eq hround]
    omega
  have hminRaise : r.round.minimumRaiseAmount ≤ minRaiseAfter r.round p v := by
    unfold minRaiseAfter
    split
    · exact le_max_left _ _
    · exact le_rfl
  constructor
  · exact ⟨add_nonneg hcons.round.1 hamount.1, hcons.round.2.1.trans le_highestAfter,
      hcons.round.2.2.1.trans hminRaise, hversion⟩
  · refine forall_updateFirst hcons.players fun q hq hid => ?_
    have hpid : p.playerId = data.playerId := by simpa using List.find?_some hacc.permitted.found
    obtain rfl := eq_of_key_eq hcons.playerIds hq hfound (hid.trans hpid.symm)
    exact ⟨sub_nonneg.mpr hamount.2, add_nonneg hp.2.1 hamount.1, add_nonneg hp.2.2 hamount.1⟩
  · exact nodup_map_updateFirst (fun q : RoundPlayer => q.playerId) (fun _ => rfl) hcons.playerIds
  · exact nodup_map_updateFirst (fun q : RoundPlayer => q.seatNumber) (fun _ => rfl)
      hcons.seatNumbers
  · exact List.forall_mem_append.mpr ⟨hcons.bets, List.forall_mem_singleton.mpr hamount.1⟩
  · rw [RoundTables.afterBet, List.map_append]
    exact hcons.betIds.append (List.nodup_singleton _) (by simpa [recordBetAction] using hbet)
  · exact idempotencyKeys_nodup hcons.idempotencyKeys hfresh hkey
  · exact hcons.payouts
  · rw [RoundTables.afterBet, List.map_append]
    exact hcons.entryIds.append (List.nodup_singleton _) (by simpa [recordBetAction] using hentry)

/-- An accepted action under unused identifiers is applied. -/
lemma Accepted.placeBet_eq_ok (hcons : r.Constraints)
    (hword : BetAction.ofValue? (upper data.action) = some a)
    (hacc : Accepted r.round r.players data.playerId (upper data.action) data.amount p a v)
    (hfresh : data.existing r = none) (hkey : data.idempotencyKey ≠ some "")
    (hexpected : ∀ n ∈ data.expectedVersion, r.round.version = n)
    (hbet : ids 0 ∉ r.bets.map (·.betId)) (hentry : ids 1 ∉ r.ledger.map (·.entryId)) :
    bettingMachine.step r (.placeBet data ids) = .ok (r.afterBet data p v ids) := by
  have hflush := RoundTables.flush_eq_ok_iff.mpr
    ⟨hacc.afterBet_constraints hcons hfresh hkey hbet hentry, rfl⟩
  have hstored : r.round.stateVersion = r.round.version := (Round.version_eq hcons.round.2.2.2).symm
  refine map_eq_ok_iff.mpr
    ⟨((recordBetAction data.playerId v.action v.amount data.idempotencyKey ids).1,
    r.afterBet data p v ids), ?_, rfl⟩
  simp only [placeBet, hword, hfresh, applyAction_eq hcons.playerIds _ hacc hexpected]
  refine bind_eq_ok_iff.mpr ⟨_, rfl,
    bind_eq_ok_iff.mpr ⟨_, if_pos hstored, bind_eq_ok_iff.mpr ⟨_, hflush, rfl⟩⟩⟩

/-- An advance of the street keeps the constraints. -/
lemma streetEnd_write_constraints (hcons : r.Constraints) (hbig : 0 ≤ r.round.bigBlindAmount) :
    (r.streetEnd.write r).Constraints := by
  have hversion : 1 ≤ r.round.version + 1 := by
    have hround := hcons.round.2.2.2
    rw [Round.version_eq hround]
    omega
  have hcollected : ∀ p ∈ r.players.map fun rp : RoundPlayer => { rp
    with committedThisStreet := 0 },
      p.NonNegative := by
    rw [List.forall_mem_map]
    exact fun p hp => ⟨(hcons.players p hp).1, le_rfl, (hcons.players p hp).2.2⟩
  have hids : ((r.players.map fun rp : RoundPlayer => { rp with committedThisStreet := 0 }).map
      (·.playerId)).Nodup := by
    rw [List.map_map]
    exact hcons.playerIds
  have hseats : ((r.players.map fun rp : RoundPlayer => { rp with committedThisStreet := 0 }).map
      (·.seatNumber)).Nodup := by
    rw [List.map_map]
    exact hcons.seatNumbers
  unfold StreetAdvanceResult.write
  cases r.streetEnd.action with
  | settleHand =>
    exact ⟨⟨hcons.round.1, hcons.round.2.1, hcons.round.2.2.1, hversion⟩, hcons.players,
      hcons.playerIds,
      hcons.seatNumbers, hcons.bets, hcons.betIds, hcons.idempotencyKeys, hcons.payouts,
        hcons.entryIds⟩
  | showdown =>
    exact ⟨⟨hcons.round.1, le_rfl, hcons.round.2.2.1, hversion⟩, hcollected, hids,
      hseats, hcons.bets,
      hcons.betIds, hcons.idempotencyKeys, hcons.payouts, hcons.entryIds⟩
  | nextStreet =>
    exact ⟨⟨hcons.round.1, le_rfl, hbig, hversion⟩, hcollected, hids, hseats, hcons.bets,
      hcons.betIds,
      hcons.idempotencyKeys, hcons.payouts, hcons.entryIds⟩

/-! ## Something can be carried out -/

/-- There is an identifier that is in none of two lists. -/
lemma exists_unused_id (l : List String) : ∃ id, id ∉ l := by
  have hinj : Function.Injective fun n => String.ofList (List.replicate n '+') := fun n m heq => by
    have hlength := congrArg (fun s : String => s.toList.length) heq
    simpa using hlength
  obtain ⟨id, -, hid⟩ := (Set.infinite_range_of_injective hinj).exists_notMem_finset l.toFinset
  exact ⟨id, fun hmem => hid (List.mem_toFinset.mpr hmem)⟩

/-- Whoever has the turn can fold. -/
lemma TurnHeld.exists_fold {p : RoundPlayer} (hcons : r.Constraints) (h : TurnHeld r p) :
    ∃ c, CarriedOut r c := by
  obtain ⟨betId, hbet⟩ := exists_unused_id (r.bets.map (·.betId))
  obtain ⟨entryId, hentry⟩ := exists_unused_id (r.ledger.map (·.entryId))
  set data : PlaceBet := { playerId := p.playerId, action := "FOLD", amount := 0 }
  have hupper : upper data.action = "FOLD" := show upper "FOLD" = "FOLD" by decide
  obtain ⟨q, hper, hact⟩ := validateBet_eq_ok_iff.mp (h.fold data.amount)
  obtain ⟨a, hword, hout⟩ := validateAction_eq_ok_iff.mp hact
  have hacc : Accepted r.round r.players data.playerId (upper data.action) data.amount q a
      ⟨.fold, 0⟩ := by
    rw [hupper]
    exact ⟨hper, hword, hout⟩
  have hok : bettingMachine.step r (.placeBet data (named [betId, entryId])) =
      .ok (r.afterBet data q ⟨.fold, 0⟩ (named [betId, entryId])) :=
    hacc.placeBet_eq_ok hcons (hupper ▸ hword) rfl nofun nofun hbet hentry
  exact ⟨_, ⟨_, hok⟩, rfl⟩

/-- As long as a hand is not over and its actor can act, something is carried out. -/
lemma exists_carriedOut (hinv : BettingInvariant d.toRoundSetup r) (hcons : r.Constraints)
    (hactor : ActorCanAct r) (hover : ¬ HandOver r) : ∃ c, CarriedOut r c := by
  cases hclosed : r.round.isActionClosed with
  | false =>
    obtain ⟨p, hturn⟩ := exists_turnHeld hinv.seated.ids_nodup hactor hinv.state.status hclosed
    exact hturn.exists_fold hcons
  | true =>
    have hbig : 0 ≤ r.round.bigBlindAmount := hinv.state.bigBlind ▸ d.bigBlind_nonneg
    have hstreet : r.round.street ≠ .showdown := fun h => hover ⟨hclosed, Or.inl h⟩
    refine ⟨.advanceStreet,
      ⟨_, map_eq_ok_iff.mpr ⟨(r.streetEnd, r.streetEnd.write r), ?_, rfl⟩⟩, hclosed⟩
    exact advanceStreet_eq_ok_iff.mpr
      ⟨rfl, hinv.state.status, hstreet, streetEnd_write_constraints hcons hbig, rfl⟩

/-! ## What is carried out -/

/-- Whatever is carried out before a hand is over uses something up, or leaves a street. -/
lemma CarriedOut.progress_lt (hinv : BettingInvariant d.toRoundSetup r) (hover : ¬ HandOver r)
    {c : BettingCommand} (h : CarriedOut r c) :
    ∃ r', bettingMachine.step r c = .ok r' ∧ progress r + 1 ≤ progress r' := by
  obtain ⟨⟨r', hstep⟩, hrules⟩ := h
  refine ⟨r', hstep, ?_⟩
  cases c with
  | placeBet data ids =>
    rcases placeBet_step_cases hinv.seated.ids_nodup hstep with ⟨hfound, -⟩ | ⟨-, p, a, v, happ⟩
    · exact absurd hrules hfound
    · have hspent := happ.spent_lt hinv (hinv.step hstep)
      have hstreet : r'.round.street = r.round.street := by rw [happ.round_eq]; rfl
      simp only [progress, hstreet]
      omega
  | advanceStreet =>
    obtain ⟨⟨result, r''⟩, hadv, rfl⟩ := map_eq_ok_iff.mp hstep
    have hadv := (advanceStreet_eq_ok_iff.mp hadv).2
    have hspent := hadv.spent_le
    have hindex : r.round.street.index + 1 ≤ r''.round.street.index := by
      rw [hadv.after]
      unfold StreetAdvanceResult.write
      cases haction : r.streetEnd.action with
      | settleHand => exact absurd ⟨hrules, Or.inr haction⟩ hover
      | showdown =>
        have hstreet := hadv.street
        cases hs : r.round.street <;> simp_all [Street.index]
      | nextStreet =>
        obtain ⟨s, hs, hindex⟩ := exists_nextStreet haction
        simp only [hs, Option.getD_some, hindex]
        exact le_rfl
    simp only [progress]
    omega

/-- What a hand can use up is bounded by its chips and its players. -/
lemma BettingInvariant.progress_bounds (hinv : BettingInvariant d.toRoundSetup r) :
    0 ≤ progress r ∧ progress r ≤ d.dealtTotal + d.players.length + 9 := by
  have hspent := hinv.spent_bounds
  have hindex : r.round.street.index ≤ 4 := by cases r.round.street <;> decide
  unfold progress
  omega

/-! ## Every run -/

/-- Where the first player has more chips than he has to post, the actor of every open betting can
act. -/
lemma actorCanAct_run (hdeal : createRound d.toRoundSetup ids₀ = .ok r₀) (hfirst : d.FirstCanAct)
    (cs : List BettingCommand) : ActorCanAct (bettingMachine.run r₀ cs) := by
  have hinv₀ := bettingInvariant_of_createRound hdeal
  obtain ⟨-, -, rfl⟩ := createRound_eq_ok_iff.mp hdeal
  exact (Machine.run_invariant (I := fun r => BettingInvariant d.toRoundSetup r ∧ ActorCanAct r)
    (fun _ _ _ hI hstep => ⟨hI.1.step hstep, hI.2.step hI.1 hstep⟩)
    ⟨hinv₀, (actorCanAct_tables_iff d ids₀).mpr hfirst⟩ cs).2

/-- **A hand is played out.** As long as a dealt hand is not over something can be carried out by
the rules, after every run of the betting, exactly when the player who acts first has more chips
than he has to post.  And however the players act, if only what is requested is carried out by the
rules until the hand is over, it is over after at most as many requests as there are chips and
players and nine more. -/
theorem hand_played_out_iff (hdeal : createRound d.toRoundSetup ids₀ = .ok r₀) :
    ((∀ cs, ¬ HandOver (bettingMachine.run r₀ cs) → ∃ c, CarriedOut (bettingMachine.run r₀ cs) c) ↔
      d.FirstCanAct) ∧
    ∀ f : ℕ → BettingCommand,
      (∀ n, ¬ HandOver (bettingMachine.run r₀ ((List.range n).map f)) →
        CarriedOut (bettingMachine.run r₀ ((List.range n).map f)) (f n)) →
      ∃ n : ℕ, (n : Int) ≤ d.dealtTotal + d.players.length + 9 ∧
        HandOver (bettingMachine.run r₀ ((List.range n).map f)) := by
  have hinv₀ := bettingInvariant_of_createRound hdeal
  have hinv : ∀ cs, BettingInvariant d.toRoundSetup (bettingMachine.run r₀ cs) :=
    bettingInvariant_run hdeal
  refine ⟨⟨fun h => ?_, fun hfirst cs hover => ?_⟩, fun f hf => ?_⟩
  · obtain ⟨-, -, rfl⟩ := createRound_eq_ok_iff.mp hdeal
    obtain ⟨c, ⟨r', hstep⟩, hrules⟩ :=
      h [] fun hover => absurd hover.1 (by simp [RoundSetup.tables])
    rw [← actorCanAct_tables_iff d ids₀]
    intro _
    cases c with
    | placeBet data ids =>
      rcases placeBet_step_cases hinv₀.seated.ids_nodup hstep with ⟨hfound, -⟩ | ⟨-, p, a, v, happ⟩
      · exact absurd hrules hfound
      · exact ⟨p, happ.accepted.mem.1, happ.acting hinv₀, happ.accepted.permitted.canAct⟩
    | advanceStreet => exact absurd hrules (by simp [RoundSetup.tables])
  · exact exists_carriedOut (hinv cs) (potCovered_betting hdeal cs).constraints
      (actorCanAct_run hdeal hfirst cs) hover
  · obtain ⟨n, hn, hover⟩ :=
      Machine.exists_run_goal (M := bettingMachine) (G := HandOver) (m := progress)
      (I := fun r => BettingInvariant d.toRoundSetup r) (fun _ _ _ hI hstep => hI.step hstep)
      (fun r hI => hI.progress_bounds.2) hinv₀ fun n hover =>
        (hf n hover).progress_lt (hinv _) hover
    have hstart := hinv₀.progress_bounds.1
    exact ⟨n, by omega, hover⟩

/-- After the small blind has called heads-up something can be carried out. -/
theorem hand_played_out_iff_headsUp :
    ∃ c, CarriedOut (bettingMachine.run
      (headsUp.tables headsUpIds) [.send "alice" "call" 0 "b1" "e1"]) c :=
  (hand_played_out_iff
    (show createRound headsUp.toRoundSetup headsUpIds =
      .ok (headsUp.tables headsUpIds) by decide)).1.mpr
      ⟨⟨"alice", 1, 100⟩, by decide, by decide, by decide⟩ _ (by decide)

end PokerRoom
