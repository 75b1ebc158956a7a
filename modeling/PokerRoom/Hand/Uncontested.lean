import PokerRoom.Domain.Engine.PotLevels
import PokerRoom.Hand.BettingState
import PokerRoom.Hand.Settlement

/-!
# The uncontested hand

When everybody but one player has folded, `declare_winner` is meant to hand him the whole pot.  It
submits the pot as the first side pot, and that one ends where the first player has stopped
committing: a blind that was folded makes a side pot of its own.  `declare_winner_works_iff` says
for which hands the shortcut works.
-/

namespace PokerRoom

open Foundation

/-! ## Definitions -/

/-- Everybody but the player has folded. -/
structure Uncontested (r : RoundTables) (w : RoundPlayer) : Prop where
  /-- The player is in the round. -/
  mem : w ∈ r.players
  /-- He has not folded. -/
  stays : w.hasFolded = false
  /-- Everybody else has. -/
  others : ∀ p ∈ r.players, p.hasFolded = false → p = w

/-- The player has committed chips, and nobody has stopped committing below him. -/
def NobodyStoppedBelow (r : RoundTables) (w : RoundPlayer) : Prop :=
  0 < w.committedThisHand ∧
    ∀ p ∈ r.players, 0 < p.committedThisHand → w.committedThisHand ≤ p.committedThisHand

instance (r : RoundTables) (w : RoundPlayer) : Decidable (NobodyStoppedBelow r w) :=
  inferInstanceAs (Decidable (_ ∧ _))

/-- Declaring the player the winner hands him the pot and completes the round, and declaring anybody
else is refused. -/
structure WinnerTakesPot (r : RoundTables) (w : RoundPlayer) (ids : Uuids) : Prop where
  /-- The player is declared the winner. -/
  accepted : ∀ data : DeclareWinner, data.winnerPlayerId = w.playerId →
    ∃ r', declareWinnerOnRound r data ids = .ok r' ∧ r'.round.status = .completed ∧
      r'.players = r.players.map fun p =>
        if p.playerId = w.playerId then
          { p with stackRemaining := p.stackRemaining + r.round.potAmount }
        else p
  /-- Nobody else is. -/
  refused : ∀ data : DeclareWinner, data.winnerPlayerId ≠ w.playerId →
    ∃ e, declareWinnerOnRound r data ids = .error e

variable {d : Deal} {r r' r₀ : RoundTables} {w : RoundPlayer} {data : DeclareWinner}
    {ids ids' : Uuids}

/-! ## Who is live -/

/-- The players who have not folded are live. -/
lemma contribution_live_iff {p : RoundPlayer} (h : p.isActiveInHand = !p.hasFolded) :
    p.contribution.Live ↔ p.hasFolded = false := by
  simp [PlayerContribution.Live, PlayerState.contribution, h]

/-- In an uncontested hand only the last player is live. -/
lemma Uncontested.live_iff (hinv : BettingInvariant d.toRoundSetup r) (h : Uncontested r w)
    {c : PlayerContribution} (hc : c ∈ r.players.map (·.contribution)) :
    c.Live ↔ c = w.contribution := by
  obtain ⟨p, hp, rfl⟩ := List.mem_map.mp hc
  rw [contribution_live_iff (hinv.state.isActive_eq p hp)]
  constructor
  · intro hstays
    rw [h.others p hp hstays]
  · intro heq
    exact (congrArg PlayerContribution.hasFolded heq).trans h.stays

/-- In an uncontested hand the highest live commitment is that of the last player. -/
lemma Uncontested.isGreatest (hinv : BettingInvariant d.toRoundSetup r) (h : Uncontested r w) :
    IsGreatest {c | ∃ p ∈ r.players.map (·.contribution), p.Live ∧ p.committedThisHand = c}
      w.committedThisHand := by
  have hw : w.contribution ∈ r.players.map (·.contribution) := List.mem_map_of_mem h.mem
  refine ⟨⟨_, hw, (h.live_iff hinv hw).mpr rfl, rfl⟩, ?_⟩
  rintro c ⟨p, hp, hlive, rfl⟩
  rw [(h.live_iff hinv hp).mp hlive]
  rfl

/-! ## The side pots of an uncontested hand -/

/-- In an uncontested hand only the last player may win a side pot. -/
lemma Uncontested.eligible (hinv : BettingInvariant d.toRoundSetup r)
    (h : Uncontested r w) {pot : Pot} (hpot : pot ∈ computedPots r.players) {playerId : String}
    (heligible : playerId ∈ pot.eligibleWinnerPlayerIds) : playerId = w.playerId := by
  obtain ⟨c, hc, rfl, hlive⟩ := (calculateSidePots_sound hpot).2 playerId heligible
  rw [(h.live_iff hinv hc).mp hlive]
  rfl

/-- Of several positive amounts none is as large as their sum. -/
lemma length_eq_one_of_sum_le {α : Type} {l : List α} {g : α → Int}
    (hpos : ∀ a ∈ l, 0 < g a) {a : α} (ha : a ∈ l) (hle : (l.map g).sum ≤ g a) : l.length = 1 := by
  obtain ⟨before, after, rfl⟩ := List.append_of_mem ha
  have hsum : ((before ++ after).map g).sum ≤ 0 := by
    simp only [List.map_append, List.map_cons, List.sum_append, List.sum_cons] at hle ⊢
    omega
  cases hrest : before ++ after with
  | nil =>
    obtain ⟨rfl, rfl⟩ := List.append_eq_nil_iff.mp hrest
    rfl
  | cons b rest =>
    have hsub : ∀ c ∈ b :: rest, 0 < g c := fun c hc => by
      rw [← hrest] at hc
      exact hpos c
        (List.mem_append.mpr ((List.mem_append.mp hc).imp_right (List.mem_cons_of_mem _)))
    have hnonneg : 0 ≤ (rest.map g).sum :=
      List.sum_nonneg (List.forall_mem_map.mpr fun c hc => (hsub c (List.mem_cons_of_mem _ hc)).le)
    have hb := hsub b List.mem_cons_self
    rw [hrest, List.map_cons, List.sum_cons] at hsum
    omega

/-- In an uncontested hand the first side pot holds the whole pot and may be won, exactly when
nobody has stopped committing below the last player. -/
lemma Uncontested.whole_pot_iff (hinv : BettingInvariant d.toRoundSetup r) (hcons : r.Constraints)
    (h : Uncontested r w) :
    (∃ pot ∈ computedPots r.players, pot.potIndex = 0 ∧ r.round.potAmount ≤ pot.amount ∧
      w.playerId ∈ pot.eligibleWinnerPlayerIds) ↔ NobodyStoppedBelow r w := by
  have hgreatest := h.isGreatest hinv
  have hsum := hcons.sum_computedPots.trans hinv.chips.pot.symm
  have hw : w.contribution ∈ r.players.map (·.contribution) := List.mem_map_of_mem h.mem
  constructor
  · rintro ⟨pot, hpot, -, hwhole, heligible⟩
    have hpos : 0 < w.committedThisHand := by
      by_contra hnot
      have hdead : ∀ p ∈ r.players.map (·.contribution), p.Live → p.committedThisHand ≤ 0 :=
        fun p hp hlive => (hgreatest.2 ⟨p, hp, hlive, rfl⟩).trans (not_lt.mp hnot)
      rw [calculateSidePots_dead hdead pot hpot] at heligible
      exact List.not_mem_nil heligible
    have hone : (computedPots r.players).length = 1 :=
      length_eq_one_of_sum_le (calculateSidePots_pos _) hpot (hsum.trans_le hwhole)
    have hbelow := (calculateSidePots_length_eq_one_iff hgreatest hpos).mp hone
    exact ⟨hpos, fun p hp => hbelow p.contribution (List.mem_map_of_mem hp)⟩
  · rintro ⟨hpos, hbelow⟩
    have hone : (computedPots r.players).length = 1 :=
      (calculateSidePots_length_eq_one_iff hgreatest hpos).mpr (List.forall_mem_map.mpr hbelow)
    obtain ⟨pot, hpots⟩ := List.length_eq_one_iff.mp hone
    have hpot : pot ∈ computedPots r.players := hpots ▸ List.mem_cons_self
    have hindices := calculateSidePots_indices (r.players.map (·.contribution))
    refine ⟨pot, hpot, ?_, ?_, ?_⟩
    · rw [← computedPots, hpots] at hindices
      exact List.cons_eq_cons.mp hindices |>.1
    · rw [hpots, List.map_singleton, List.sum_singleton] at hsum
      exact hsum.ge
    · exact mem_eligible_of_highest hgreatest hpos hpot hw ((h.live_iff hinv hw).mpr rfl) rfl

/-! ## Declaring the winner -/

/-- A declared winner is settled with the whole pot as the first side pot. -/
lemma declareWinnerOnRound_eq_ok_iff :
    declareWinnerOnRound r data ids = .ok r' ↔
      ∃ h : 1 ≤ r.round.potAmount,
        Settled r { payouts := [data.payout r h], payouts_ne := List.cons_ne_nil _ _ } ids r' := by
  unfold declareWinnerOnRound DeclareWinner.request
  rw [bind_eq_ok_iff]
  by_cases h : 1 ≤ r.round.potAmount
  · simp only [dif_pos h, settleRound_eq_ok_iff]
    constructor
    · rintro ⟨request, hrequest, hset⟩
      obtain rfl := Except.ok.inj hrequest
      exact ⟨h, hset⟩
    · rintro ⟨_, hset⟩
      exact ⟨_, rfl, hset⟩
  · simp [h]

/-- An accepted winner may win the first side pot, and it holds the whole pot. -/
lemma exists_whole_pot (hcov : PotCovered r) (h : declareWinnerOnRound r data ids = .ok r') :
    ∃ pot ∈ computedPots r.players, pot.potIndex = 0 ∧ r.round.potAmount ≤ pot.amount ∧
      data.winnerPlayerId ∈ pot.eligibleWinnerPlayerIds := by
  obtain ⟨hpot, hset⟩ := declareWinnerOnRound_eq_ok_iff.mp h
  obtain ⟨pot, hmem, hindex, hamount, heligible⟩ := hset.exists_pot hcov List.mem_cons_self
  refine ⟨pot, hmem, hindex, ?_, heligible _ List.mem_cons_self⟩
  simpa [PotPayout.winnerTotal, DeclareWinner.payout] using hamount

/-- Where the first side pot holds the whole pot, whoever may win it is accepted as the winner. -/
lemma exists_declared (hstatus : r.round.status = .active) (hcons : r.Constraints)
    (hids : Unused ids r)
    (hpos : 1 ≤ r.round.potAmount) {pot : Pot} (hpot : pot ∈ computedPots r.players)
    (hindex : pot.potIndex = 0) (hwhole : r.round.potAmount ≤ pot.amount)
    (heligible : data.winnerPlayerId ∈ pot.eligibleWinnerPlayerIds) :
    ∃ r', declareWinnerOnRound r data ids = .ok r' ∧ r'.round.status = .completed ∧
      r'.players = r.players.map fun p =>
        if p.playerId = data.winnerPlayerId then
          { p with stackRemaining := p.stackRemaining + r.round.potAmount }
        else p := by
  set request : ResolveHandRequest :=
    { payouts := [data.payout r hpos], payouts_ne := List.cons_ne_nil _ _ }
  have htotal : (data.payout r hpos).winnerTotal = r.round.potAmount := by
    simp [PotPayout.winnerTotal, DeclareWinner.payout]
  have hfind : (computedPots r.players).find?
    (fun p => p.potIndex = (data.payout r hpos).potIndex) =
      some pot := (find?_key_eq_some_iff (calculateSidePots_potIndex _)).mpr ⟨hpot, hindex⟩
  have hset : Settled r request ids (request.write r ids) := by
    refine ⟨hstatus, ?_, List.forall_mem_singleton.mpr htotal, Or.inr (List.forall_mem_singleton.mpr
      ⟨pot, hfind, hindex, htotal.trans_le hwhole, List.forall_mem_singleton.mpr heligible⟩),
      request.write_constraints hcons hids, rfl⟩
    simp [ResolveHandRequest.totalPaid, request, htotal]
  refine ⟨_, declareWinnerOnRound_eq_ok_iff.mpr ⟨hpos, hset⟩, rfl, ?_⟩
  exact updateFirst_eq_map hcons.playerIds

/-- **When the shortcut works.** In every round that the betting of a dealt hand reaches, and in
which everybody but one player has folded, declaring the winner works exactly when that player has
committed chips and nobody has stopped committing below him. -/
theorem declare_winner_works_iff (hdeal : createRound d.toRoundSetup ids = .ok r₀)
    (cs : List BettingCommand) (hw : Uncontested (bettingMachine.run r₀ cs) w)
    (hids : Unused ids' (bettingMachine.run r₀ cs)) :
    WinnerTakesPot (bettingMachine.run r₀ cs) w ids' ↔
      NobodyStoppedBelow (bettingMachine.run r₀ cs) w := by
  have hinv := bettingInvariant_run hdeal cs
  have hcov := potCovered_betting hdeal cs
  set r := bettingMachine.run r₀ cs
  rw [← hw.whole_pot_iff hinv hcov.constraints]
  constructor
  · intro hworks
    obtain ⟨r', hok, -⟩ := hworks.accepted ⟨w.playerId, hinv.seated.playerId_ne hw.mem⟩ rfl
    exact exists_whole_pot hcov hok
  · rintro ⟨pot, hpot, hindex, hwhole, heligible⟩
    have hpots : ∀ pot ∈ computedPots r.players, 0 < pot.amount := calculateSidePots_pos _
    have hpos : 1 ≤ r.round.potAmount := by
      rw [hinv.chips.pot, ← hcov.constraints.sum_computedPots]
      exact (hpots pot hpot).trans_le (List.single_le_sum
        (List.forall_mem_map.mpr fun q hq => (hpots q hq).le) _ (List.mem_map_of_mem hpot))
    constructor
    · intro data hdata
      rw [← hdata] at heligible ⊢
      exact exists_declared hinv.state.status hcov.constraints hids hpos hpot hindex
        hwhole heligible
    · intro data hdata
      cases hok : declareWinnerOnRound r data ids' with
      | error e => exact ⟨e, rfl⟩
      | ok r' =>
        obtain ⟨pot, hpot, -, -, heligible⟩ := exists_whole_pot hcov hok
        exact absurd (hw.eligible hinv hpot heligible) hdata

/-- Identifiers made of as many marks as were drawn before. -/
def marks : Uuids := fun n => String.ofList (List.replicate n '+')

/-- They are unused where every identifier begins with another character. -/
lemma unused_marks (h : ∀ e ∈ r.ledger, e.entryId.toList.head?.any (· ≠ '+')) : Unused marks r := by
  have hlist : ∀ n, (marks n).toList = List.replicate n '+' := fun n => String.toList_ofList
  constructor
  · intro n m heq
    have hlength := congrArg (fun s : String => s.toList.length) heq
    simpa [hlist] using hlength
  · intro n hmem
    obtain ⟨e, he, hid⟩ := List.mem_map.mp hmem
    have hhead := h e he
    rw [hid, hlist] at hhead
    cases n <;> simp [List.replicate_succ] at hhead

/-- The small blind calls, and the big blind folds on the flop. -/
def foldedFlop : List BettingCommand :=
  [.send "alice" "call" 0 "b1" "e1", .send "bob" "check" 0 "b2" "e2", .advanceStreet,
    .send "bob" "fold" 0 "b3" "e3"]

/-- A player with two chips in the pot. -/
def lastPlayer (playerId : String) (seatNumber committedThisStreet : Int) : RoundPlayer :=
  { playerId := playerId
    seatNumber := seatNumber
    stackRemaining := 98
    committedThisStreet := committedThisStreet
    committedThisHand := 2
    hasFolded := false
    isAllIn := false
    isActiveInHand := true }

/-- Where both players have matched the big blind the shortcut works. -/
theorem declare_winner_works_iff_headsUp :
    WinnerTakesPot (bettingMachine.run (headsUp.tables headsUpIds) foldedFlop)
    (lastPlayer "alice" 1 0)
      marks :=
  (declare_winner_works_iff
    (show createRound headsUp.toRoundSetup headsUpIds = .ok (headsUp.tables headsUpIds) by decide)
    foldedFlop ⟨by decide, rfl, by decide⟩ (unused_marks (by decide))).mpr (by decide)

/-- Against a folded small blind the shortcut does not work. -/
theorem folded_blind_blocks_winner :
    ¬ ∀ (d : Deal) (ids ids' : Uuids) (r₀ : RoundTables), createRound d.toRoundSetup ids = .ok r₀ →
      ∀ (cs : List BettingCommand) (w : RoundPlayer), Uncontested (bettingMachine.run r₀ cs) w →
      Unused ids' (bettingMachine.run r₀ cs) →
        WinnerTakesPot (bettingMachine.run r₀ cs) w ids' := by
  intro h
  have hworks := h headsUp headsUpIds marks (headsUp.tables headsUpIds) (by decide)
    [.send "alice" "fold" 0 "b1" "e1"] (lastPlayer "bob" 2 2) ⟨by decide, rfl, by decide⟩
    (unused_marks (by decide))
  obtain ⟨r', hok, -⟩ := hworks.accepted ⟨"bob", by decide⟩ rfl
  have hrefused : (declareWinnerOnRound (bettingMachine.run (headsUp.tables headsUpIds)
      [.send "alice" "fold" 0 "b1" "e1"]) ⟨"bob", by decide⟩ marks).toOption = none := by decide
  rw [hok] at hrefused
  cases hrefused

end PokerRoom
