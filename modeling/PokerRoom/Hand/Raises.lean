import PokerRoom.Hand.Termination

/-!
# Raises

The service stores two numbers about the raises of a street, the bet to match and the smallest
raise, and the last aggressor.  A `raiseHistory` is carried along the run and lists the accepted
actions of the current street with the amount by which each raised the bet to match.

`minimum_raise_tracks_largest` says that the smallest raise is the larger of the big blind and the
largest raise of the street.  Whether a raise was a full one is forgotten, so an all-in that raises
by less gives everybody the right to raise again: `not_reopened_iff` says when this does not happen.
-/

namespace PokerRoom

open Foundation

/-! ## The actions of a street -/

/-- An accepted action on a street. -/
structure RaiseRecord where
  /-- The player who acted. -/
  playerId : String
  /-- What the action amounted to. -/
  action : BetAction
  /-- By how much it raised the bet to match. -/
  increase : Int
  /-- The smallest raise when it was made. -/
  minimum : Int
deriving DecidableEq

/-- Record an accepted command: the action of a new bet, and nothing of an answered retry.  A new
street starts without actions. -/
def recordRaises (r : RoundTables) (c : BettingCommand) (r' : RoundTables) (h : List RaiseRecord) :
    List RaiseRecord :=
  match c with
  | .placeBet _ _ =>
    (r'.bets.drop r.bets.length).map (fun b =>
      { playerId := b.playerId
        action := b.action
        increase := r'.round.currentHighestBet - r.round.currentHighestBet
        minimum := r.round.minimumRaiseAmount }) ++ h
  | .advanceStreet => if r'.round.street = r.round.street then h else []

/-- The actions of the current street after a run of the betting, the last one first. -/
def raiseHistory (r₀ : RoundTables) (cs : List BettingCommand) : List RaiseRecord :=
  ((bettingMachine.instrument recordRaises).run (r₀, []) cs).2

/-- The largest raise of a street, and at least the big blind. -/
def largestRaise (bigBlind : Int) (h : List RaiseRecord) : Int :=
  (h.map (·.increase)).foldr max bigBlind

/-- What was done since the last action of the player. -/
def sinceLastAction (playerId : String) (h : List RaiseRecord) : List RaiseRecord :=
  h.takeWhile fun x => x.playerId ≠ playerId

/-- The player has acted on the street, and since then the bet to match was raised by nothing but
all-ins, each by less than the smallest raise, and together by less than it. -/
structure FacesShortAllIns (r : RoundTables) (h : List RaiseRecord) (playerId : String) : Prop where
  /-- The player has acted. -/
  acted : ∃ x ∈ h, x.playerId = playerId
  /-- Every raise since then was a short all-in. -/
  short : ∀ x ∈ sinceLastAction playerId h, 0 < x.increase → x.action = .allIn ∧
    x.increase < x.minimum
  /-- Together the raises are less than the smallest raise. -/
  together : ((sinceLastAction playerId h).map (·.increase)).sum < r.round.minimumRaiseAmount

/-- The engine lets the player raise the bet to match. -/
def MayRaise (r : RoundTables) (p : RoundPlayer) : Prop :=
  ∃ action amount out, applyAction r.round r.players p.playerId action amount none = .ok out ∧
    r.round.currentHighestBet < out.2.1.currentHighestBet

/-- The betting is not reopened to the player: he may fold and he may call, and he may not raise. -/
structure NotReopened (r : RoundTables) (p : RoundPlayer) : Prop where
  /-- He may fold. -/
  fold : ∃ out, applyAction r.round r.players p.playerId "FOLD" 0 none = .ok out
  /-- He may call. -/
  call : ∃ out, applyAction r.round r.players p.playerId "CALL" 0 none = .ok out
  /-- He may not raise. -/
  no_raise : ¬ MayRaise r p

variable {r r' : RoundTables} {d : Deal} {h : List RaiseRecord} {data : PlaceBet} {ids : Uuids}
  {p : PlayerState} {a : BetAction} {v : ValidatedAction}

/-! ## What is recorded -/

/-- An answered retry is not recorded. -/
lemma recordRaises_retry : recordRaises r (.placeBet data ids) r h = h := by
  simp [recordRaises]

/-- An applied bet is recorded with its player and what it amounted to. -/
lemma BetApplied.recordRaises_eq (happ : BetApplied r data ids p a v r') :
    recordRaises r (.placeBet data ids) r' h =
      ⟨p.playerId, v.action, r'.round.currentHighestBet - r.round.currentHighestBet,
        r.round.minimumRaiseAmount⟩ :: h := by
  simp [recordRaises, happ.bets_eq, recordBetAction, happ.accepted.mem.2]

/-- An advance of the street that opens the betting starts a new street. -/
lemma StreetAdvanced.recordRaises_eq_nil (hadv : StreetAdvanced r r')
    (hopen : r'.round.isActionClosed = false) : recordRaises r .advanceStreet r' h = [] := by
  obtain ⟨-, -, ⟨hclosed, -⟩ | hindex⟩ := hadv.street_cases
  · exact absurd (hclosed.symm.trans hopen) (by decide)
  · refine if_neg fun hsame => ?_
    rw [hsame] at hindex
    omega

/-! ## The smallest raise -/

/-- The smallest raise after an action is the larger of what it was and what the action raises
by. -/
lemma minRaiseAfter_eq_max {g : Round} (hmin : 0 ≤ g.minimumRaiseAmount) :
    minRaiseAfter g p v =
      max (highestAfter g p v - g.currentHighestBet) g.minimumRaiseAmount := by
  unfold minRaiseAfter highestAfter
  split <;> omega

/-- The smallest raise after an applied bet. -/
lemma BetApplied.minRaise_eq (happ : BetApplied r data ids p a v r')
    (hmin : 0 ≤ r.round.minimumRaiseAmount) :
    r'.round.minimumRaiseAmount =
      max (r'.round.currentHighestBet - r.round.currentHighestBet) r.round.minimumRaiseAmount := by
  rw [happ.highest_eq, ← minRaiseAfter_eq_max hmin, happ.round_eq]
  rfl

/-- What the history of a street says about the stored round. -/
structure RaiseInvariant (r : RoundTables) (h : List RaiseRecord) : Prop where
  /-- On a street of betting the smallest raise is the largest one made. -/
  minimum : r.round.street ≠ .showdown →
    r.round.minimumRaiseAmount = largestRaise r.round.bigBlindAmount h
  /-- After the first action of a street the player who has the turn owes chips. -/
  owes : h ≠ [] → r.round.isActionClosed = false → ∀ q ∈ r.players,
    r.round.actingPlayerId = some q.playerId → q.Owes r.round.currentHighestBet

/-- An accepted command keeps the relation of the history and the stored round. -/
lemma RaiseInvariant.step (hinv : BettingInvariant d.toRoundSetup r) (hraise : RaiseInvariant r h)
    {c : BettingCommand} (hstep : bettingMachine.step r c = .ok r') :
    RaiseInvariant r' (recordRaises r c r' h) := by
  have hinv' := hinv.step hstep
  rcases betting_step_cases hinv.seated.ids_nodup hstep with
    ⟨rfl, data, ids, rfl⟩ | ⟨data, ids, p, a, v, rfl, happ⟩ | ⟨rfl, hadv⟩
  · rw [recordRaises_retry]
    exact hraise
  · rw [happ.recordRaises_eq]
    constructor
    · intro hstreet
      have hmin := hinv.state.minRaise_ge
      have hbb := d.bigBlind_nonneg
      have hsame : r'.round.street = r.round.street ∧
          r'.round.bigBlindAmount = r.round.bigBlindAmount := by
            rw [happ.round_eq]; exact ⟨rfl, rfl⟩
      rw [happ.minRaise_eq (hbb.trans hmin), hraise.minimum (hsame.1 ▸ hstreet), hsame.2]
      rfl
    · intro _ hopen q hq hacting
      obtain ⟨c, hc, hnext, howes, -⟩ := happ.open_spec hinv'.seated hopen
      rw [eq_of_key_eq hinv'.seated.ids_nodup hq hc (Option.some.inj (hacting.symm.trans hnext))]
      exact howes
  · constructor
    · intro hstreet
      rcases hadv.outcome with _ | _ | ⟨st, p, hp, hcan⟩
      · rw [recordRaises, if_pos rfl]
        exact hraise.minimum hstreet
      · exact absurd rfl hstreet
      · rw [hadv.recordRaises_eq_nil rfl]
        rfl
    · exact fun hne hopen => absurd (hadv.recordRaises_eq_nil hopen) hne

/-- The history of every run and the stored round are related. -/
lemma raiseInvariant_run {ids₀ : Uuids} {r₀ : RoundTables}
    (hdeal : createRound d.toRoundSetup ids₀ = .ok r₀) (cs : List BettingCommand) :
    RaiseInvariant (bettingMachine.run r₀ cs) (raiseHistory r₀ cs) := by
  have hinv₀ := bettingInvariant_of_createRound hdeal
  have hraise₀ : RaiseInvariant r₀ [] := by
    obtain ⟨-, -, rfl⟩ := createRound_eq_ok_iff.mp hdeal
    exact ⟨fun _ => rfl, fun hne => absurd rfl hne⟩
  exact (Machine.instrument_invariant (M := bettingMachine) recordRaises
    (I := fun r h => BettingInvariant d.toRoundSetup r ∧ RaiseInvariant r h)
    (fun _ _ _ _ hI hstep => ⟨hI.1.step hstep, hI.2.step hI.1 hstep⟩) ⟨hinv₀, hraise₀⟩ cs).2

/-- A bet or raise that does not take the whole stack raises the bet to match by at least the
smallest raise. -/
lemma BetApplied.minRaise_le (hinv : BettingInvariant d.toRoundSetup r)
    (happ : BetApplied r data ids p a v r') (hword : a = .bet ∨ a = .raise)
    (hnot : v.action ≠ .allIn) :
    r.round.minimumRaiseAmount ≤ r'.round.currentHighestBet - r.round.currentHighestBet := by
  have hp := happ.accepted.mem.1
  have hle := hinv.state.le_highest p hp
  have hstreet := (hinv.chips.players p hp).street_nonneg
  have hout := happ.accepted.outcome
  rw [happ.highest_eq, highestAfter_eq_max hout hle]
  cases hout with
  | fold | check | call | callAllIn | allIn => simp at hword
  | betAllIn | raiseAllIn => exact absurd rfl hnot
  | bet amount hopen hpos hlt hmin =>
    -- nobody has bet on the street, so the player has not either
    simp only [buildHandContext] at hopen hmin
    simp only
    omega
  | raise amount hbet hpos hadd hlt hmin =>
    simp only [buildHandContext] at hmin
    simp only
    omega

/-- **The minimum raise tracks the largest raise of the street.** In every run of the betting of a
dealt hand, on every street of betting, the smallest raise is the larger of the big blind and the
largest amount by which an accepted action raised the bet to match on the street; and every accepted
bet or raise that does not take the whole stack raised it by at least the smallest raise before. -/
theorem minimum_raise_tracks_largest {ids₀ : Uuids} {r₀ : RoundTables}
    (hdeal : createRound d.toRoundSetup ids₀ = .ok r₀) (cs : List BettingCommand) :
    ((bettingMachine.run r₀ cs).round.street ≠ .showdown →
      (bettingMachine.run r₀ cs).round.minimumRaiseAmount =
        largestRaise (bettingMachine.run r₀ cs).round.bigBlindAmount (raiseHistory r₀ cs)) ∧
    ∀ t ∈ bettingMachine.trace r₀ cs, ∀ data ids, t.command = .placeBet data ids →
      ∀ a, BetAction.ofValue? (upper data.action) = some a → a = .bet ∨ a = .raise →
        ∀ b ∈ t.after.bets.drop t.before.bets.length, b.action ≠ .allIn →
          t.before.round.minimumRaiseAmount ≤
            t.after.round.currentHighestBet - t.before.round.currentHighestBet := by
  refine ⟨(raiseInvariant_run hdeal cs).minimum, fun t ht data ids hc a hword ha b hb hnot => ?_⟩
  obtain ⟨hinv, hstep, -⟩ := Machine.trace_invariant (M := bettingMachine)
    (I := BettingInvariant d.toRoundSetup) (fun _ _ _ hI hstep => hI.step hstep)
    (bettingInvariant_of_createRound hdeal) cs t ht
  rw [hc] at hstep
  rcases placeBet_step_cases hinv.seated.ids_nodup hstep with
    ⟨-, hsame⟩ | ⟨-, p, a', v, happ⟩
  · rw [hsame, List.drop_length] at hb
    exact absurd hb (List.not_mem_nil)
  · obtain rfl := Option.some.inj (hword.symm.trans happ.word)
    rw [happ.bets_eq, List.drop_left, List.mem_singleton] at hb
    exact happ.minRaise_le hinv ha (by rw [hb] at hnot; exact hnot)

/-- After a raise to six chips heads-up the smallest raise is the four chips it raised by. -/
theorem minimum_raise_tracks_largest_headsUp :
    (bettingMachine.run (headsUp.tables headsUpIds)
      [.send "alice" "raise" 6 "b1" "e1"]).round.minimumRaiseAmount =
      largestRaise 2 (raiseHistory (headsUp.tables headsUpIds)
        [.send "alice" "raise" 6 "b1" "e1"]) :=
  (minimum_raise_tracks_largest
    (show createRound headsUp.toRoundSetup headsUpIds = .ok (headsUp.tables headsUpIds) by decide)
    [.send "alice" "raise" 6 "b1" "e1"]).1 (by decide)

/-! ## Short all-ins -/

/-- While somebody has the turn the betting is open. -/
lemma BettingState.open_of_acting {s : RoundSetup} (h : BettingState s r) {playerId : String}
    (hacting : r.round.actingPlayerId = some playerId) : r.round.isActionClosed = false := by
  by_contra hclosed
  rw [Bool.not_eq_false] at hclosed
  exact absurd (hacting.symm.trans (h.turn_of_closed hclosed)) (Option.some_ne_none _)

/-- A player of the round who has the turn and can act passes the gates. -/
lemma BettingInvariant.permitted (hinv : BettingInvariant d.toRoundSetup r) {p : RoundPlayer}
    (hp : p ∈ r.players) (hacting : r.round.actingPlayerId = some p.playerId) (hcan : p.CanAct) :
    Permitted (buildHandContext r.round r.players) p.playerId p :=
  ⟨hinv.state.status, hinv.state.open_of_acting hacting,
    (find?_key_eq_some_iff hinv.seated.ids_nodup).mpr ⟨hp, rfl⟩, hcan, Or.inr hacting⟩

/-- The engine applies what the action rules accept of a player who passes the gates. -/
lemma Permitted.applyAction (hinv : BettingInvariant d.toRoundSetup r) {p : RoundPlayer}
    (hper : Permitted (buildHandContext r.round r.players) p.playerId p) (action : String)
    (amount : Int) (hword : BetAction.ofValue? (upper action) = some a)
    (hout : BetOutcome (buildHandContext r.round r.players) p a amount v) :
    ∃ out, PokerRoom.applyAction r.round r.players p.playerId action amount none = .ok out ∧
      out.2.1.currentHighestBet = highestAfter r.round p v :=
  ⟨_, applyAction_eq hinv.seated.ids_nodup none ⟨hper, hword, hout⟩ (by simp), rfl⟩

/-- A player who has the turn and can act may raise exactly when his stack is more than what he
owes. -/
lemma mayRaise_iff (hinv : BettingInvariant d.toRoundSetup r) {p : RoundPlayer} (hp : p ∈ r.players)
    (hacting : r.round.actingPlayerId = some p.playerId) (hcan : p.CanAct) :
    MayRaise r p ↔ r.round.currentHighestBet < p.committedThisStreet + p.stackRemaining := by
  have hper := hinv.permitted hp hacting hcan
  have hpos := hinv.state.stack_pos hinv.chips hp hcan
  constructor
  · rintro ⟨action, amount, out, hok, hlt⟩
    obtain ⟨-, q, a, v, hacc, rfl⟩ := exists_accepted_of_applyAction hinv.seated.ids_nodup hok
    obtain rfl : p = q := Option.some.inj (hper.found.symm.trans hacc.permitted.found)
    have hbounds := hacc.outcome.amount_bounds hpos.le
    have hmax := highestAfter_eq_max hacc.outcome (hinv.state.le_highest p hp)
    simp only [Round.acted, hmax] at hlt
    omega
  · intro hlt
    obtain ⟨out, hok, hhigh⟩ := hper.applyAction hinv "ALL_IN" 0 (a := .allIn)
      (by decide) (.allIn 0 hpos)
    refine ⟨"ALL_IN", 0, out, hok, ?_⟩
    rw [hhigh, highestAfter, if_pos ⟨rfl, hlt⟩]
    exact hlt

/-- **Who may raise again.** In every run of the betting of a dealt hand, for a player who has the
turn, has acted on the street and since then saw nothing but all-ins that raise by less than the
smallest raise: he may fold and call and may not raise, exactly when his stack is at most what he
owes. -/
theorem not_reopened_iff {ids₀ : Uuids} {r₀ : RoundTables}
    (hdeal : createRound d.toRoundSetup ids₀ = .ok r₀) (cs : List BettingCommand) (p : RoundPlayer)
    (hp : p ∈ (bettingMachine.run r₀ cs).players)
    (hacting : (bettingMachine.run r₀ cs).round.actingPlayerId = some p.playerId)
    (hfaces : FacesShortAllIns (bettingMachine.run r₀ cs) (raiseHistory r₀ cs) p.playerId) :
    NotReopened (bettingMachine.run r₀ cs) p ↔
      p.stackRemaining ≤
        (bettingMachine.run r₀ cs).round.currentHighestBet - p.committedThisStreet := by
  have hinv := bettingInvariant_run hdeal cs
  obtain ⟨x, hx, -⟩ := hfaces.acted
  obtain ⟨hcan, howes⟩ := (raiseInvariant_run hdeal cs).owes (List.ne_nil_of_mem hx)
    (hinv.state.open_of_acting hacting) p hp hacting
  have hper := hinv.permitted hp hacting hcan
  have hmay := mayRaise_iff hinv hp hacting hcan
  constructor
  · intro hnot
    have := mt hmay.mpr hnot.no_raise
    omega
  · intro hle
    refine ⟨?_, ?_, fun hraise => ?_⟩
    · obtain ⟨out, hok, -⟩ := hper.applyAction hinv "FOLD" 0 (a := .fold)
        (by decide) (.fold 0)
      exact ⟨out, hok⟩
    · obtain ⟨out, hok, -⟩ := hper.applyAction hinv "CALL" 0 (a := .call)
        (by decide) (.callAllIn 0 howes hle)
      exact ⟨out, hok⟩
    · have := hmay.mp hraise
      omega

/-- Three players, of whom the blinds have thirteen chips each. -/
def shortBlinds : Deal where
  roundId := "round"
  roundNumber := 1
  dealerSeat := 1
  smallBlindSeat := 2
  bigBlindSeat := 3
  smallBlind := 1
  bigBlind := 2
  ante := 0
  players := [⟨"alice", 1, 100⟩, ⟨"bob", 2, 13⟩, ⟨"carol", 3, 13⟩]
  two_le := by decide
  seats_lt := by decide
  ids_nodup := by decide
  ids_ne := by decide
  stack_pos := by decide
  smallBlind_nonneg := headsUp.smallBlind_nonneg
  bigBlind_nonneg := headsUp.bigBlind_nonneg

/-- A raise to ten chips, a call, and an all-in of thirteen. -/
def shortAllIn : List BettingCommand :=
  [.send "alice" "raise" 10 "b1" "e1", .send "bob" "call" 0 "b2" "e2",
    .send "carol" "all_in" 0 "b3" "e3"]

/-- Once the all-in of three chips more is called, the player who has just these left may only fold
or call. -/
theorem not_reopened_iff_shortBlinds :
    NotReopened
      (bettingMachine.run (shortBlinds.tables headsUpIds)
        (shortAllIn ++ [.send "alice" "call" 0 "b4" "e4"]))
      ⟨"bob", 2, 3, 10, 10, false, false, true⟩ :=
  (not_reopened_iff
    (show createRound shortBlinds.toRoundSetup headsUpIds = .ok (shortBlinds.tables headsUpIds)
      by decide)
    (shortAllIn ++ [.send "alice" "call" 0 "b4" "e4"]) ⟨"bob", 2, 3, 10, 10, false, false, true⟩
    (by decide) (by decide) ⟨by decide, by decide, by decide⟩).mpr (by decide)

/-- The player who raised first may raise again over the all-in of three chips more. -/
theorem short_all_in_reopens :
    ¬ ∀ (d : Deal) (ids₀ : Uuids) (r₀ : RoundTables),
      createRound d.toRoundSetup ids₀ = .ok r₀ → ∀ (cs : List BettingCommand),
      ∀ p ∈ (bettingMachine.run r₀ cs).players,
      (bettingMachine.run r₀ cs).round.actingPlayerId = some p.playerId →
      FacesShortAllIns (bettingMachine.run r₀ cs) (raiseHistory r₀ cs) p.playerId →
      NotReopened (bettingMachine.run r₀ cs) p := by
  intro h
  have hdeal : createRound shortBlinds.toRoundSetup headsUpIds =
      .ok (shortBlinds.tables headsUpIds) := by decide
  have hnot := h shortBlinds headsUpIds _ hdeal shortAllIn
    ⟨"alice", 1, 90, 10, 10, false, false, true⟩ (by decide) (by decide)
    ⟨by decide, by decide, by decide⟩
  exact hnot.no_raise ((mayRaise_iff (bettingInvariant_run hdeal shortAllIn) (by decide) (by decide)
    (by decide)).mpr (by decide))

end PokerRoom
