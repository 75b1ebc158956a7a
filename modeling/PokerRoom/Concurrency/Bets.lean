import PokerRoom.Application.Transactions
import PokerRoom.Hand.BettingRun

/-!
# Concurrent bets

Any number of clients place bets on one round, and their requests interleave in any way.  The round
and the players are read at different moments, so that what a request computes with may never have
been stored at once.  The state version decides: it grows with every commit, so that a round whose
version is still the one that was read was not written since, and neither were the players that were
read after it (`RowsRead`).  Hence a bet that commits was computed from what is stored, and the bets
serialise in the order of their commits (`bets_serialise`).
-/

namespace PokerRoom

open Foundation

variable {r r' : RoundTables} {data : PlaceBet} {ids : Uuids} {gameRound : Round}
  {roundPlayers : List RoundPlayer}

/-! ## What a request has read -/

/-- The round was read at some moment, and whoever commits raises its version. -/
structure RoundRead (r : RoundTables) (gameRound : Round) : Prop where
  /-- Versions are positive. -/
  one_le : 1 ≤ gameRound.stateVersion
  /-- The version only grows. -/
  le : gameRound.stateVersion ≤ r.round.stateVersion
  /-- The version tells whether the round was written since. -/
  eq_of_version_eq : r.round.stateVersion = gameRound.stateVersion → r.round = gameRound

/-- The round was read, and then the players. -/
structure RowsRead (r : RoundTables) (gameRound : Round) (roundPlayers : List RoundPlayer) : Prop
    extends RoundRead r gameRound where
  /-- The version tells whether the players were written since. -/
  players_eq_of_version_eq : r.round.stateVersion = gameRound.stateVersion →
    r.players = roundPlayers

/-- What every bet guarantees to the others: it raises the version by one and keeps the bets. -/
def BetCommitted (r r' : RoundTables) : Prop :=
  r'.round.stateVersion = r.round.stateVersion + 1 ∧ r.bets <+: r'.bets

/-- A round that was read stays read when others commit. -/
lemma RoundRead.rely (h : RoundRead r gameRound) (hc : BetCommitted r r') :
    RoundRead r' gameRound where
  one_le := h.one_le
  le := by
    have := h.le
    have := hc.1
    omega
  eq_of_version_eq heq := by
    have := h.le
    have := hc.1
    omega

/-- Rows that were read stay read when others commit. -/
lemma RowsRead.rely (h : RowsRead r gameRound roundPlayers) (hc : BetCommitted r r') :
    RowsRead r' gameRound roundPlayers where
  toRoundRead := h.toRoundRead.rely hc
  players_eq_of_version_eq heq := by
    have := h.le
    have := hc.1
    omega

/-- The stages of a bet, with what is known of what it has read. -/
inductive BetStage (data : PlaceBet) (ids : Uuids) (r : RoundTables) (p : Handler) : Prop
  /-- It is to look the idempotency key up. -/
  | lookUp {requested : BetAction} (word : BetAction.ofValue? (upper data.action) = some requested)
    (stage : p = data.lookUp ids requested)
  /-- It is to read the round. -/
  | readRound {requested : BetAction}
    (word : BetAction.ofValue? (upper data.action) = some requested)
    (stage : p = data.readRound ids)
  /-- It is to read the players. -/
  | readPlayers {requested : BetAction}
    (word : BetAction.ofValue? (upper data.action) = some requested) {gameRound : Round}
    (read : RoundRead r gameRound) (stage : p = data.readPlayers ids gameRound)
  /-- It is to apply the action. -/
  | act {requested : BetAction} (word : BetAction.ofValue? (upper data.action) = some requested)
    {gameRound : Round} {roundPlayers : List RoundPlayer} (read : RowsRead r gameRound roundPlayers)
    (stage : p = data.act ids gameRound roundPlayers)
  /-- It is to commit. -/
  | commit {requested : BetAction} (word : BetAction.ofValue? (upper data.action) = some requested)
    {gameRound : Round} {roundPlayers : List RoundPlayer} (read : RowsRead r gameRound roundPlayers)
    {out : ApplyActionResult × Round × List RoundPlayer}
    (applied : liftDomain (applyAction gameRound roundPlayers data.playerId (upper data.action)
      data.amount data.expectedVersion) = .ok out)
    (stage : p = .commit (data.commit ids gameRound roundPlayers out))
  /-- It is answered with a recorded bet, the one that its key names if it has a key. -/
  | answered {b : Bet} (mem : b ∈ r.bets)
    (named : truthy data.idempotencyKey ≠ none → data.existing r = some b)
    (stage : p = .answered (.bet b))
  /-- It is rejected. -/
  | failed {e : Rejection} (stage : p = .failed e)

/-- A bet begins at a stage. -/
lemma BetStage.handler : BetStage data ids r (data.handler ids) := by
  unfold PlaceBet.handler
  cases hword : BetAction.ofValue? (upper data.action) with
  | none => exact .failed rfl
  | some requested =>
    cases hkey : truthy data.idempotencyKey with
    | none => exact .readRound hword rfl
    | some key => exact .lookUp hword rfl

/-- A stage stays a stage when others commit. -/
lemma BetStage.rely {p : Handler} (h : BetStage data ids r p) (hc : BetCommitted r r') :
    BetStage data ids r' p := by
  cases h with
  | lookUp word stage => exact .lookUp word stage
  | readRound word stage => exact .readRound word stage
  | readPlayers word read stage => exact .readPlayers word (read.rely hc) stage
  | act word read stage => exact .act word (read.rely hc) stage
  | commit word read applied stage => exact .commit word (read.rely hc) applied stage
  | answered mem named stage =>
    exact .answered (hc.2.subset mem) (fun hkey => existing_of_prefix hc.2 (named hkey) rfl) stage
  | failed stage => exact .failed stage

/-! ## The commit -/

/-- The bet that is found under a key is recorded. -/
lemma mem_of_existing {b : Bet} (hfound : data.existing r = some b) : b ∈ r.bets := by
  unfold PlaceBet.existing at hfound
  split at hfound
  · cases hfound
  · split at hfound
    · cases hfound
    · exact List.mem_of_find?_eq_some hfound

/-- A request whose key no recorded bet has is new. -/
lemma existing_eq_none_of_nodup {b : Bet} (hkey : b.idempotencyKey = data.idempotencyKey)
    (hnd : ((r.bets ++ [b]).filterMap (·.idempotencyKey)).Nodup) : data.existing r = none := by
  unfold PlaceBet.existing
  cases hdata : data.idempotencyKey with
  | none => rfl
  | some key =>
    simp only
    split
    · rfl
    · refine List.find?_eq_none.mpr fun o ho hsame => ?_
      have hkeys : (r.bets ++ [b]).filterMap (·.idempotencyKey) =
          r.bets.filterMap (·.idempotencyKey) ++ [key] := by
        simp [List.filterMap_append, hkey, hdata]
      rw [hkeys] at hnd
      have hmem : key ∈ r.bets.filterMap (·.idempotencyKey) :=
        List.mem_filterMap.mpr ⟨o, ho, of_decide_eq_true hsame⟩
      exact List.disjoint_of_nodup_append hnd hmem List.mem_cons_self

/-- A bet that commits was computed from what is stored, and is placed as `placeBet` does. -/
lemma PlaceBet.commit_eq_ok (hcons : r.Constraints) {requested : BetAction}
    (hword : BetAction.ofValue? (upper data.action) = some requested)
    (hread : RowsRead r gameRound roundPlayers) {out : ApplyActionResult × Round × List RoundPlayer}
    (happly : liftDomain (applyAction gameRound roundPlayers data.playerId (upper data.action)
      data.amount data.expectedVersion) = .ok out)
    {reply : Reply} (hcommit : data.commit ids gameRound roundPlayers out r = .ok (reply, r')) :
    data.existing r = none ∧ ∃ b, reply = .bet b ∧ placeBet r data ids = .ok (b, r') := by
  have hcommit' := hcommit
  unfold PlaceBet.commit at hcommit'
  simp only [bind_eq_ok_iff] at hcommit'
  obtain ⟨written, hcas, r'', hflush, -⟩ := hcommit'
  have hstored : r.round.stateVersion = gameRound.stateVersion := by
    unfold casUpdateRound at hcas
    split at hcas
    · next heq => rw [heq, Round.version_eq hread.one_le]
    · cases hcas
  obtain rfl := hread.eq_of_version_eq hstored
  obtain rfl := hread.players_eq_of_version_eq hstored
  have hfresh : data.existing r = none :=
    existing_eq_none_of_nodup (b := (recordBetAction data.playerId out.1.action out.1.amount
      data.idempotencyKey ids).1) rfl (RoundTables.flush_eq_ok_iff.mp hflush).1.idempotencyKeys
  have hexec : (data.readRound ids).exec r =
      (placeBet r data ids).map fun out => (.bet out.1, out.2) :=
    PlaceBet.exec_readRound hcons.playerIds hword hfresh
  have halone : (data.readRound ids).exec r = data.commit ids r.round r.players out r := by
    simp only [PlaceBet.readRound, PlaceBet.readPlayers, PlaceBet.act, Transaction.exec, happly,
      Transaction.check_ok]
  rw [halone, hcommit] at hexec
  obtain ⟨⟨b, r₁⟩, hplace, heq⟩ := map_eq_ok_iff.mp hexec.symm
  obtain ⟨rfl, rfl⟩ := Prod.mk.inj heq
  exact ⟨hfresh, b, rfl, hplace⟩

/-- At its last stage a bet commits what `placeBet` writes. -/
lemma BetStage.placeBet_eq_ok {write : RoundTables → Except Rejection (Reply × RoundTables)}
    (h : BetStage data ids r (.commit write)) (hcons : r.Constraints) {reply : Reply}
    (hwrite : write r = .ok (reply, r')) :
    data.existing r = none ∧ ∃ b, reply = .bet b ∧ placeBet r data ids = .ok (b, r') := by
  cases h with
  | commit word read applied stage =>
    obtain rfl := Transaction.commit.inj stage
    exact PlaceBet.commit_eq_ok hcons word read applied hwrite
  | lookUp word stage | readRound word stage => cases stage
  | readPlayers word read stage | act word read stage => cases stage
  | answered mem named stage => cases stage
  | failed stage => cases stage

/-- An answered bet is recorded. -/
lemma BetStage.of_answered {reply : Reply} (h : BetStage data ids r (.answered reply)) :
    ∃ b ∈ r.bets, reply = .bet b ∧
      (truthy data.idempotencyKey ≠ none → data.existing r = some b) := by
  cases h with
  | answered mem named stage => exact ⟨_, mem, Transaction.answered.inj stage, named⟩
  | lookUp word stage | readRound word stage => cases stage
  | readPlayers word read stage | act word read stage => cases stage
  | commit word read applied stage => cases stage
  | failed stage => cases stage

/-- What a commit guarantees to the others, and to the client who is answered. -/
lemma committed_of_placeBet (hcons : r.Constraints) (hfresh : data.existing r = none) {b : Bet}
    (hplace : placeBet r data ids = .ok (b, r')) :
    r'.Constraints ∧ BetCommitted r r' ∧ BetStage data ids r' (.answered (.bet b)) := by
  rcases placeBet_cases hcons.playerIds hplace with ⟨hfound, -⟩ | ⟨p, a, v, happ, rfl⟩
  · rw [hfresh] at hfound
    cases hfound
  · refine ⟨happ.constraints, ⟨?_, ?_⟩, .answered ?_ happ.existing rfl⟩
    · rw [happ.stored, happ.after]
      rfl
    · rw [happ.after]
      exact List.prefix_append _ _
    · rw [happ.after]
      exact List.mem_append_right _ List.mem_cons_self

/-! ## Every schedule -/

variable {ι : Type}

/-- Concurrent bets keep the discipline of the state version. -/
lemma betDiscipline (requests : ι → PlaceBet) (ids : ι → Uuids) :
    Discipline RoundTables.Constraints BetCommitted
      fun i => BetStage (requests i) (ids i) where
  read i r next hcons h := by
    cases h with
    | lookUp word stage =>
      obtain rfl := Transaction.read.inj stage
      simp only
      split
      · next existing hfound =>
        split
        · exact .failed rfl
        · exact .answered (mem_of_existing hfound) (fun _ => hfound) rfl
      · exact .readRound word rfl
    | readRound word stage =>
      obtain rfl := Transaction.read.inj stage
      exact .readPlayers word ⟨hcons.round.2.2.2, le_rfl, fun _ => rfl⟩ rfl
    | readPlayers word read stage =>
      obtain rfl := Transaction.read.inj stage
      exact .act word ⟨read, fun _ => rfl⟩ rfl
    | act word read stage => cases stage
    | commit word read applied stage => cases stage
    | answered mem named stage => cases stage
    | failed stage => cases stage
  compute i r next hcons h := by
    cases h with
    | act word read stage =>
      obtain rfl := Transaction.compute.inj stage
      cases happly : liftDomain (applyAction _ _ (requests i).playerId (upper (requests i).action)
        (requests i).amount (requests i).expectedVersion) with
      | error e => exact .failed rfl
      | ok out => exact .commit word read happly rfl
    | lookUp word stage | readRound word stage => cases stage
    | readPlayers word read stage => cases stage
    | commit word read applied stage => cases stage
    | answered mem named stage => cases stage
    | failed stage => cases stage
  commit i r write reply r' hcons h hwrite := by
    obtain ⟨hfresh, b, rfl, hplace⟩ := h.placeBet_eq_ok hcons hwrite
    exact committed_of_placeBet hcons hfresh hplace
  refuse i r write e hcons h hwrite := .failed rfl
  rely i r r' p hcons hc h := h.rely hc

/-- A bet that commits alone from what it has read is placed as `placeBet` does. -/
lemma BetStage.placeBet_of_commits {p : Handler} (h : BetStage data ids r p) (hcons : r.Constraints)
    {reply : Reply} (hcommits : p.Commits r reply r') :
    data.existing r = none ∧ ∃ b, reply = .bet b ∧ placeBet r data ids = .ok (b, r') := by
  obtain ⟨write, hstage, hwrite⟩ :=
    (betDiscipline (fun _ : Unit => data) fun _ => ids).commits (i := ()) hcons h hcommits
  exact hstage.placeBet_eq_ok hcons hwrite

/-- Clients who place bets. -/
abbrev betClients (requests : ι → PlaceBet) (ids : ι → Uuids) (r₀ : RoundTables) :
    System ι RoundTables Reply Rejection :=
  System.start (fun i => (requests i).handler (ids i)) r₀

/-- Unless it commits, a bet is answered only if it has an idempotency key. -/
lemma PlaceBet.answersOnly_handler (data : PlaceBet) (ids : Uuids) :
    (data.handler ids).AnswersOnly fun _ => truthy data.idempotencyKey ≠ none := by
  have hround : ∀ P, (data.readRound ids).AnswersOnly P :=
    fun P r r' => .check fun out => trivial
  unfold PlaceBet.handler
  split
  · trivial
  · split
    · exact hround _
    · next key hkey =>
      intro r
      simp only
      split
      · split
        · trivial
        · exact fun hnone => by simp [hkey] at hnone
      · exact hround _

variable [DecidableEq ι]

/-- **Concurrent bets serialise.** Let any number of clients place bets on one round, and let the
steps of their requests interleave in any way.  A request that does not commit changes nothing, and
when it has ended it was rejected or answered with the bet that was recorded under its idempotency
key before.  The requests that commit leave the rows that they leave when they are placed one after
another in the order of their commits, each is answered with the bet that it recorded, and each
raises the state version by one. -/
theorem bets_serialise {r₀ : RoundTables} (hcons : r₀.Constraints) (requests : ι → PlaceBet)
    (ids : ι → Uuids) (schedule : List ι) :
    let after := (betClients requests ids r₀).run schedule
    after.commits.foldlM (fun r i => (placeBet r (requests i) (ids i)).map (·.2)) r₀ =
        .ok after.store ∧
      after.store.round.stateVersion = r₀.round.stateVersion + after.commits.length ∧
      after.commits.Nodup ∧
      (∀ i ∈ after.commits, ∃ b ∈ after.store.bets, after.pending i = .answered (.bet b)) ∧
      ∀ i ∉ after.commits,
        (∀ taken rest, schedule = taken ++ i :: rest →
          ((betClients requests ids r₀).run (taken ++ [i])).store =
            ((betClients requests ids r₀).run taken).store) ∧
        ((after.pending i).Ended → (∃ e, after.pending i = .failed e) ∨
          ∃ b, (requests i).existing after.store = some b ∧
              after.pending i = .answered (.bet b)) := by
  intro after
  have hdiscipline := betDiscipline requests ids
  have hL : ∀ i, BetStage (requests i) (ids i) r₀ ((requests i).handler (ids i)) :=
    fun i => BetStage.handler
  obtain ⟨-, hstages⟩ := hdiscipline.run (c := betClients requests ids r₀) hcons hL schedule
  obtain ⟨hnd, hanswered⟩ :=
    System.commits_nodup (fun i => (requests i).handler (ids i)) r₀ schedule
  refine ⟨?_, ?_, hnd, fun i hi => ?_, fun i hi => ⟨?_, fun hended => ?_⟩⟩
  · refine hdiscipline.serial ?_ hcons hL schedule
    intro i r write reply r' hcons' hstage hwrite
    obtain ⟨-, b, -, hplace⟩ := hstage.placeBet_eq_ok hcons' hwrite
    exact map_eq_ok_iff.mpr ⟨_, hplace, rfl⟩
  · refine hdiscipline.commits_induction (I := fun done r =>
      r.round.stateVersion = r₀.round.stateVersion + done.length) ?_ hcons hL (by simp) schedule
    intro i done r write reply r' hcons' hstage hwrite hI
    have hversion := (hdiscipline.commit i r write reply r' hcons' hstage hwrite).2.1.1
    rw [hversion, hI, List.length_append, List.length_singleton, Nat.cast_add, Nat.cast_one,
      add_assoc]
  · obtain ⟨reply, hreply⟩ := hanswered i hi
    have hstage := hstages i
    rw [hreply] at hstage
    obtain ⟨b, hb, rfl, -⟩ := hstage.of_answered
    exact ⟨b, hb, hreply⟩
  · rintro taken rest rfl
    exact System.store_eq_of_not_mem hi
  · have hstage := hstages i
    have hanswers := System.answersOnly_of_not_mem
      (fun i => (requests i).answersOnly_handler (ids i)) hi
    cases hpending : after.pending i with
    | failed e => exact Or.inl ⟨e, rfl⟩
    | answered reply =>
      rw [hpending] at hstage hanswers
      obtain ⟨b, -, rfl, hfound⟩ := hstage.of_answered
      exact Or.inr ⟨b, hfound hanswers, rfl⟩
    | read | compute | commit =>
      rw [hpending] at hended
      exact hended.elim

/-- The small blind sends a call and a fold at the same time. -/
def racingBets : Bool → PlaceBet
  | false => { playerId := "alice", action := "call", amount := 0 }
  | true => { playerId := "alice", action := "fold", amount := 0 }

/-- Both have read the round when the fold commits, and the call is refused. -/
theorem bets_serialise_headsUp :
    let after := (betClients racingBets (fun i => named [s!"b{i}", s!"e{i}"])
      (headsUp.tables headsUpIds)).run [false, true, true, true, true, false, false, false]
    after.commits = [true] ∧
      after.store.round.stateVersion = (headsUp.tables headsUpIds).round.stateVersion + 1 := by
  have hserial := bets_serialise (show (headsUp.tables headsUpIds).Constraints by decide)
    racingBets (fun i => named [s!"b{i}", s!"e{i}"])
      [false, true, true, true, true, false, false, false]
  have hcommits : ((betClients racingBets (fun i => named [s!"b{i}", s!"e{i}"])
      (headsUp.tables headsUpIds)).run [false, true, true, true, true, false, false,
        false]).commits =
      [true] := by decide
  refine ⟨hcommits, ?_⟩
  rw [hserial.2.1, hcommits]
  rfl

end PokerRoom
