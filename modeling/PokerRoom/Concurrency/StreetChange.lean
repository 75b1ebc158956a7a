import PokerRoom.Concurrency.Bets
import PokerRoom.Foundation.FirstCommit
import PokerRoom.Hand.BettingState
import PokerRoom.Hand.RoundRun

/-!
# A bet and a change of the street

A bet and an advance of the street run at the same time on one round.  The bet is committed only if
the round still has the version that was read; the advance is not.  `no_bet_lost_iff` says that,
when both commit, they serialise exactly when the advance did not read the round before the bet was
committed and commit after it.
-/

namespace PokerRoom

open Foundation

/-! ## Definitions -/

/-- The two requests. -/
inductive Party
  /-- The bet. -/
  | bet
  /-- The advance of the street. -/
  | street
deriving DecidableEq, Repr

/-- What each of them has to do. -/
def Party.handler (data : PlaceBet) (ids : Uuids) : Party → Handler
  | .bet => data.handler ids
  | .street => advanceStreetHandler

/-- A bet and an advance of the street, before their first steps. -/
abbrev betAndStreet (data : PlaceBet) (ids : Uuids) (r₀ : RoundTables) :
    System Party RoundTables Reply Rejection :=
  System.start (Party.handler data ids) r₀

/-- Nobody has committed more to the street than the bet to match. -/
def WithinHighest (r : RoundTables) : Prop :=
  ∀ p ∈ r.players, p.committedThisStreet ≤ r.round.currentHighestBet

instance : DecidablePred WithinHighest := fun r =>
  inferInstanceAs (Decidable (∀ p ∈ r.players, _))

/-- Neither the bet nor the advance is lost: the round and the players are those of one of the two
serial orders. -/
structure NoBetLost (data : PlaceBet) (ids : Uuids) (r₀ r : RoundTables) : Prop where
  /-- One after the other leaves the same round and players. -/
  serial : ∃ r₁ r₂,
    ((∃ b result, placeBet r₀ data ids = .ok (b, r₁) ∧ advanceStreet r₁ = .ok (result, r₂)) ∨
      ∃ b result, advanceStreet r₀ = .ok (result, r₁) ∧ placeBet r₁ data ids = .ok (b, r₂)) ∧
    r.round = r₂.round ∧ r.players = r₂.players
  /-- Each has raised the version. -/
  version : r.round.stateVersion = r₀.round.stateVersion + 2
  /-- Nobody carries more than the bet to match. -/
  withinHighest : WithinHighest r

/-- The advance of the street has read the round when the bet is committed, and is not committed. -/
def ReadBeforeBet (data : PlaceBet) (ids : Uuids) (r₀ : RoundTables)
    (schedule : List Party) : Prop :=
  ∃ pre post, schedule = pre ++ .bet :: post ∧ .street ∈ pre ∧
    ((betAndStreet data ids r₀).run pre).commits = [] ∧
    ((betAndStreet data ids r₀).run (pre ++ [.bet])).commits = [.bet]

variable {r r' r₀ : RoundTables} {data : PlaceBet} {ids : Uuids} {gameRound : Round} {p : Handler}

/-! ## The bet to match -/

/-- An applied bet leaves everybody within the bet to match. -/
lemma WithinHighest.betApplied (h : WithinHighest r) (hnd : (r.players.map (·.playerId)).Nodup)
    {p : PlayerState} {a : BetAction} {v : ValidatedAction}
    (happ : BetApplied r data ids p a v r') :
    WithinHighest r' := by
  obtain ⟨hp, hid⟩ := happ.accepted.mem
  have hmax := highestAfter_eq_max happ.accepted.outcome (h p hp)
  rw [happ.after]
  intro q hq
  change q.committedThisStreet ≤ highestAfter r.round p v
  rw [hmax]
  rcases (mem_actedPlayers hnd hp hid).mp hq with rfl | ⟨hq, -⟩
  · exact le_max_right _ _
  · exact (h q hq).trans (le_max_left _ _)

/-- An advance of the street leaves everybody within the bet to match. -/
lemma WithinHighest.streetAdvanced (h : WithinHighest r) (hadv : StreetAdvanced r r') :
    WithinHighest r' := by
  cases hadv.outcome with
  | settleHand => exact h
  | showdown | nextStreet => exact List.forall_mem_map.mpr fun _ _ => le_rfl

/-- Being within the bet to match only depends on the commitments to the street. -/
lemma WithinHighest.congr (h : WithinHighest r)
    (hplayers : r'.players.map (·.committedThisStreet) = r.players.map (·.committedThisStreet))
    (hround : r'.round.currentHighestBet = r.round.currentHighestBet) : WithinHighest r' := by
  unfold WithinHighest at h ⊢
  rw [← List.forall_mem_map (P := fun x => x ≤ r.round.currentHighestBet)] at h
  rwa [hround, ← List.forall_mem_map (P := fun x => x ≤ r.round.currentHighestBet), hplayers]

/-- An accepted command on a round leaves everybody within the bet to match. -/
lemma WithinHighest.roundStep (h : WithinHighest r) (hcons : r.Constraints) {c : RoundCommand}
    (hstep : RoundStep r c r') : WithinHighest r' := by
  cases hstep with
  | retried | reopened => exact h
  | bet happ => exact h.betApplied hcons.playerIds happ
  | street hadv => exact h.streetAdvanced hadv
  | settled hc hset =>
    rw [hset.after]
    exact h.congr (map_foldl_award fun _ _ => rfl) rfl
  | @reversed data ids original _ hrev =>
    rw [hrev.after]
    rcases data.write_cases original r ids with ⟨name, -, hpos, hw⟩ | ⟨-, hw⟩
    · rw [hw]
      intro q hq
      have hhigh := hcons.round.2.1
      rcases (mem_updateFirst_iff hcons.playerIds).mp hq with ⟨q', hq', -, rfl⟩ | ⟨hq', -⟩
      · have := h q' hq'
        simp only [PlayerState.uncommit]
        omega
      · exact h q hq'
    · rw [hw]
      exact h
  | adjusted => exact h.congr (map_addStack fun _ _ => rfl) rfl
  | corrected =>
    exact h.congr ((map_addStack fun _ _ => rfl).trans (map_addStack fun _ _ => rfl)) rfl

/-- In every run of commands on a dealt round everybody is within the bet to match. -/
lemma withinHighest_run {d : Deal} {ids₀ : Uuids} {r₀ : RoundTables}
    (hdeal : createRound d.toRoundSetup ids₀ = .ok r₀) (cs : List RoundCommand) :
    (roundMachine.run r₀ cs).Constraints ∧ WithinHighest (roundMachine.run r₀ cs) := by
  have hinv := bettingInvariant_of_createRound hdeal
  have hcons : r₀.Constraints := (createRound_eq_ok_iff.mp hdeal).2.1
  refine (round_run_invariant hdeal (I := fun r => r.Constraints ∧ WithinHighest r) ?_
    ⟨hcons, hinv.state.le_highest⟩ cs).2
  rintro r c r' - ⟨hcons, h⟩ hstep
  exact ⟨hstep.constraints hcons, h.roundStep hcons hstep⟩

/-! ## The advance of the street -/

/-- An advance of the street that commits alone advances it as `advanceStreet` does. -/
lemma advanceStreet_of_commits (hcons : r.Constraints) {reply : Reply}
    (h : advanceStreetHandler.Commits r reply r') :
    ∃ result, advanceStreet r = .ok (result, r') := by
  have hexec := h.exec
  rw [exec_advanceStreetHandler hcons.playerIds] at hexec
  obtain ⟨⟨result, r₁⟩, hadvance, heq⟩ := map_eq_ok_iff.mp hexec
  obtain ⟨-, rfl⟩ := Prod.mk.inj heq
  exact ⟨result, hadvance⟩

/-- An advance of the street guarantees to the bets what they guarantee to one another. -/
lemma StreetAdvanced.betCommitted (hcons : r.Constraints) (h : StreetAdvanced r r') :
    BetCommitted r r' := by
  have hversion := Round.version_eq hcons.round.2.2.2
  cases h.outcome with
  | settleHand | showdown | nextStreet =>
    exact ⟨congrArg (· + 1) hversion, List.prefix_refl _⟩

/-- The advance of the street has read the round. -/
inductive StreetRead (gameRound : Round) (p : Handler) : Prop
  /-- It is to read the players. -/
  | readPlayers (stage : p = readStreetPlayers gameRound)
  /-- It is to evaluate the end of the street. -/
  | evaluate {roundPlayers : List RoundPlayer} (stage : p = evaluateStreet gameRound roundPlayers)
  /-- It is to commit. -/
  | commit {roundPlayers : List RoundPlayer} {result : StreetAdvanceResult}
    (stage : p = .commit (commitStreet gameRound roundPlayers result))
  /-- It is rejected. -/
  | failed {e : Rejection} (stage : p = .failed e)

/-- The first step of an advance of the street reads the round. -/
lemma streetRead_progress_handler : StreetRead r.round (advanceStreetHandler.progress r) := by
  simp only [advanceStreetHandler, Transaction.progress, Transaction.check]
  split
  · exact .readPlayers rfl
  · exact .failed rfl

/-- Once the round was read it stays the one that was read. -/
lemma StreetRead.progress (h : StreetRead gameRound p) : StreetRead gameRound (p.progress r) := by
  cases h with
  | readPlayers stage =>
    rw [stage]
    exact .evaluate rfl
  | evaluate stage =>
    rw [stage]
    exact .commit rfl
  | commit stage =>
    rw [stage]
    simp only [Transaction.progress]
    split
    · exact .commit rfl
    · exact .failed rfl
  | failed stage =>
    rw [stage]
    exact .failed rfl

/-- An advance of the street that commits leaves the version after the one it has read. -/
lemma StreetRead.version_of_commits (h : StreetRead gameRound p) (hone : 1 ≤ gameRound.stateVersion)
    {reply : Reply} (hcommits : p.Commits r reply r') :
    r'.round.stateVersion = gameRound.stateVersion + 1 := by
  induction hcommits with
  | read _ ih | compute _ ih => exact ih (h.progress (r := r))
  | commit hwrite =>
    cases h with
    | readPlayers stage | evaluate stage | failed stage => cases stage
    | @commit roundPlayers result stage =>
      obtain rfl := Transaction.commit.inj stage
      obtain ⟨r₁, hflush, hreply⟩ := bind_eq_ok_iff.mp hwrite
      obtain ⟨-, rfl⟩ := Prod.mk.inj (Except.ok.inj hreply)
      obtain ⟨-, rfl⟩ := RoundTables.flush_eq_ok_iff.mp hflush
      have hnew : ∀ r : RoundTables, r.round = gameRound →
          (result.write r).round.stateVersion = gameRound.stateVersion + 1 := by
        rintro r rfl
        rw [← Round.version_eq hone]
        unfold StreetAdvanceResult.write
        split <;> rfl
      change writeColumn gameRound.stateVersion (result.write _).round.stateVersion _ = _
      rw [hnew _ rfl]
      exact if_neg (by omega)

/-! ## Every schedule -/

variable {schedule pre post : List Party}

/-- While nobody commits, the advance of the street has read the round once it had a turn. -/
lemma streetRead_iterate {n : ℕ} (hn : 0 < n) :
    StreetRead r₀.round ((Transaction.progress r₀)^[n] advanceStreetHandler) := by
  obtain ⟨n, rfl⟩ := Nat.exists_eq_add_of_lt hn
  rw [Nat.zero_add, Function.iterate_succ_apply]
  exact Function.Iterate.rec _ streetRead_progress_handler (fun _ => StreetRead.progress) n

/-- What a bet keeps when it is placed on rows within the bet to match. -/
lemma keeps_of_placeBet (hcons : r.Constraints) (hwithin : WithinHighest r)
    (hfresh : data.existing r = none) {b : Bet} (hplace : placeBet r data ids = .ok (b, r')) :
    r'.Constraints ∧ BetCommitted r r' ∧ WithinHighest r' := by
  obtain ⟨hcons', hcommitted, -⟩ := committed_of_placeBet hcons hfresh hplace
  refine ⟨hcons', hcommitted, ?_⟩
  rcases placeBet_cases hcons.playerIds hplace with ⟨hfound, -⟩ | ⟨p, a, v, happ, -⟩
  · rw [hfresh] at hfound
    cases hfound
  · exact hwithin.betApplied hcons.playerIds happ

/-- What an advance of the street keeps on rows within the bet to match. -/
lemma keeps_of_advanceStreet (hcons : r.Constraints) (hwithin : WithinHighest r)
    {result : StreetAdvanceResult} (hadvance : advanceStreet r = .ok (result, r')) :
    r'.Constraints ∧ BetCommitted r r' ∧ WithinHighest r' := by
  obtain ⟨-, hadv⟩ := advanceStreet_eq_ok_iff.mp hadvance
  exact ⟨hadv.constraints, hadv.betCommitted hcons, hwithin.streetAdvanced hadv⟩

/-- Where one of them has written after the other, neither is lost. -/
lemma NoBetLost.of_serial {r₁ r₂ : RoundTables}
    (hserial : (∃ b result, placeBet r₀ data ids = .ok (b, r₁) ∧
      advanceStreet r₁ = .ok (result, r₂)) ∨
      ∃ b result, advanceStreet r₀ = .ok (result, r₁) ∧ placeBet r₁ data ids = .ok (b, r₂))
    (hcommitted₁ : BetCommitted r₀ r₁) (hcommitted₂ : BetCommitted r₁ r₂)
    (hwithin : WithinHighest r₂) :
    NoBetLost data ids r₀ r₂ where
  serial := ⟨r₁, r₂, hserial, rfl, rfl⟩
  version := by rw [hcommitted₂.1, hcommitted₁.1, add_assoc, one_add_one_eq_two]
  withinHighest := hwithin

/-- Two clients who have committed have committed in one of two orders. -/
lemma commits_order {l : List Party} (hnd : l.Nodup) (hbet : .bet ∈ l) (hstreet : .street ∈ l) :
    l = [.bet, .street] ∨ l = [.street, .bet] := by
  match l with
  | [] => cases hbet
  | [i] => cases i <;> simp at hbet hstreet
  | [i, j] => cases i <;> cases j <;> simp at hnd ⊢
  | i :: j :: k :: rest => cases i <;> cases j <;> cases k <;> simp at hnd

/-- An advance of the street that commits before the bet does is not lost, and neither is the
bet. -/
lemma noBetLost_of_street_first (hcons : r₀.Constraints) (hwithin : WithinHighest r₀)
    (horder : ((betAndStreet data ids r₀).run schedule).commits = [.street, .bet]) :
    NoBetLost data ids r₀ ((betAndStreet data ids r₀).run schedule).store := by
  obtain ⟨pre, post, rfl, hpre, hfirst⟩ := System.exists_first_commit horder
  obtain ⟨r₁, _, _, hstreet, hbet⟩ :=
    System.run_two_commits (fun k => by cases k <;> simp) (by simp) hpre hfirst horder
  obtain ⟨result, hadvance⟩ := advanceStreet_of_commits hcons hstreet
  obtain ⟨hcons₁, hcommitted₁, hwithin₁⟩ := keeps_of_advanceStreet hcons hwithin hadvance
  -- what the bet has read before the advance would not survive the compare-and-swap
  have hstage : BetStage data ids r₀
      ((Transaction.progress r₀)^[pre.count .bet] (data.handler ids)) :=
    (betDiscipline (fun _ : Unit => data) fun _ => ids).iterate_progress (i := ()) hcons .handler _
  obtain ⟨hfresh, b, -, hplace⟩ := (hstage.rely hcommitted₁).placeBet_of_commits hcons₁ hbet
  obtain ⟨-, hcommitted₂, hwithin₂⟩ := keeps_of_placeBet hcons₁ hwithin₁ hfresh hplace
  exact .of_serial (Or.inr ⟨b, result, hadvance, hplace⟩) hcommitted₁ hcommitted₂ hwithin₂

/-- What happens when the bet commits before the advance of the street does: neither is lost exactly
when the advance has not read the round by then. -/
lemma noBetLost_of_bet_first_iff (hcons : r₀.Constraints) (hwithin : WithinHighest r₀)
    (hpre : ((betAndStreet data ids r₀).run pre).commits = [])
    (hfirst : ((betAndStreet data ids r₀).run (pre ++ [.bet])).commits = [.bet])
    (horder : ((betAndStreet data ids r₀).run (pre ++ .bet :: post)).commits = [.bet, .street]) :
    NoBetLost data ids r₀ ((betAndStreet data ids r₀).run (pre ++ .bet :: post)).store ↔
      .street ∉ pre := by
  obtain ⟨r₁, _, _, hbet, hstreet⟩ :=
    System.run_two_commits (fun k => by cases k <;> simp) (by simp) hpre hfirst horder
  obtain ⟨hfresh, b, -, hplace⟩ := BetStage.handler.placeBet_of_commits hcons hbet
  obtain ⟨hcons₁, hcommitted₁, hwithin₁⟩ := keeps_of_placeBet hcons hwithin hfresh hplace
  constructor
  · intro hlost hmem
    have hversion := (streetRead_iterate (List.count_pos_iff.mpr hmem)).version_of_commits
      hcons.round.2.2.2 hstreet
    rw [hlost.version] at hversion
    omega
  · intro hmem
    rw [List.count_eq_zero.mpr hmem] at hstreet
    obtain ⟨result, hadvance⟩ := advanceStreet_of_commits hcons₁ hstreet
    obtain ⟨-, hcommitted₂, hwithin₂⟩ := keeps_of_advanceStreet hcons₁ hwithin₁ hadvance
    exact .of_serial (Or.inl ⟨b, result, hplace, hadvance⟩) hcommitted₁ hcommitted₂ hwithin₂

/-- **When no bet is lost to a change of the street.** Take a dealt round after any run of commands,
and let a bet and an advance of the street interleave on it in any way in which both commit.  They
serialise, the version has grown by two and nobody carries more than the bet to match, exactly when
the advance of the street did not read the round before the bet was committed and commit after
it. -/
theorem no_bet_lost_iff {d : Deal} {ids₀ : Uuids} {rd : RoundTables}
    (hdeal : createRound d.toRoundSetup ids₀ = .ok rd) (cs : List RoundCommand) (data : PlaceBet)
    (ids : Uuids) (schedule : List Party)
    (hbet : .bet ∈ ((betAndStreet data ids (roundMachine.run rd cs)).run schedule).commits)
    (hstreet : .street ∈ ((betAndStreet data ids (roundMachine.run rd cs)).run schedule).commits) :
    NoBetLost data ids (roundMachine.run rd cs)
        ((betAndStreet data ids (roundMachine.run rd cs)).run schedule).store ↔
      ¬ ReadBeforeBet data ids (roundMachine.run rd cs) schedule := by
  obtain ⟨hcons, hwithin⟩ := withinHighest_run hdeal cs
  generalize roundMachine.run rd cs = r₀ at hbet hstreet hcons hwithin ⊢
  have hnd : ((betAndStreet data ids r₀).run schedule).commits.Nodup :=
    (System.commits_nodup _ r₀ schedule).1
  rcases commits_order hnd hbet hstreet with horder | horder
  · constructor
    · rintro hlost ⟨pre, post, rfl, hmem, hpre, hfirst⟩
      exact (noBetLost_of_bet_first_iff hcons hwithin hpre hfirst horder).mp hlost hmem
    · intro hread
      obtain ⟨pre, post, rfl, hpre, hfirst⟩ := System.exists_first_commit horder
      refine (noBetLost_of_bet_first_iff hcons hwithin hpre hfirst horder).mpr fun hmem => ?_
      exact hread ⟨pre, post, rfl, hmem, hpre, hfirst⟩
  · refine iff_of_true (noBetLost_of_street_first hcons hwithin horder) ?_
    rintro ⟨pre, post, rfl, -, -, hfirst⟩
    -- the bet is not the first one who commits
    have hprefix := System.commits_prefix_run ((betAndStreet data ids r₀).run (pre ++ [.bet])) post
    rw [← System.run_split, horder, hfirst] at hprefix
    simp at hprefix

/-- The street is advanced after the small blind has called. -/
theorem no_bet_lost_iff_headsUp :
    NoBetLost { playerId := "alice", action := "call", amount := 0 } (named ["b1", "e1"])
      (headsUp.tables headsUpIds)
      ((betAndStreet { playerId := "alice", action := "call", amount := 0 } (named ["b1", "e1"])
        (headsUp.tables headsUpIds)).run
          [.bet, .bet, .bet, .bet, .street, .street, .street, .street]).store := by
  refine (no_bet_lost_iff
    (show createRound headsUp.toRoundSetup headsUpIds = .ok (headsUp.tables headsUpIds) by decide)
    [] { playerId := "alice", action := "call", amount := 0 } (named ["b1", "e1"])
    [.bet, .bet, .bet, .bet, .street, .street, .street, .street] (by decide) (by decide)).mpr ?_
  rintro ⟨pre, post, hschedule, hmem, -⟩
  -- no step of the bet comes after one of the advance
  have hlater : ([.bet, .bet, .bet, .bet, .street, .street, .street, .street] : List Party).Pairwise
      fun i j => ¬ (i = .street ∧ j = .bet) := by decide
  rw [hschedule] at hlater
  exact (List.pairwise_append.mp hlater).2.2 _ hmem _ List.mem_cons_self ⟨rfl, rfl⟩

/-- The button raises to six while the street is advanced, and has six chips above a bet to match of
zero. -/
theorem raise_lost_to_street_change :
    ¬ ∀ (d : Deal) (ids₀ : Uuids) (rd : RoundTables), createRound d.toRoundSetup ids₀ = .ok rd →
      ∀ (cs : List RoundCommand) (data : PlaceBet) (ids : Uuids) (schedule : List Party),
      .bet ∈ ((betAndStreet data ids (roundMachine.run rd cs)).run schedule).commits →
      .street ∈ ((betAndStreet data ids (roundMachine.run rd cs)).run schedule).commits →
      NoBetLost data ids (roundMachine.run rd cs)
        ((betAndStreet data ids (roundMachine.run rd cs)).run schedule).store := by
  intro h
  have hlost := h threeHanded (named ["sb", "bb"]) (threeHanded.tables (named ["sb", "bb"]))
    (by decide) [] { playerId := "alice", action := "raise", amount := 6 } (named ["b1", "e1"])
    [.street, .street, .bet, .bet, .bet, .bet, .street, .street] (by decide) (by decide)
  exact absurd hlost.withinHighest (by decide)

end PokerRoom
