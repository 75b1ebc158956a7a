import PokerRoom.Hand.Booking
import Mathlib.Algebra.Order.BigOperators.Group.List

/-!
# What a settlement pays

A settlement is checked payout by payout against the side pots computed from the commitments, and as
a whole against the pot.  In every reachable round the pot holds no more than was committed
(`potCovered_run`), so that there always is a side pot to check against.  `pots_cover_iff` says
exactly when no side pot pays more than it holds.
-/

namespace PokerRoom

open Foundation

/-! ## Definitions -/

/-- The pot holds no more than the players have committed. -/
structure PotCovered (r : RoundTables) : Prop where
  /-- The rows satisfy the constraints. -/
  constraints : r.Constraints
  /-- The pot. -/
  pot_le : r.round.potAmount ≤ (r.players.map (·.committedThisHand)).sum

/-- The payouts that name a pot. -/
def ResolveHandRequest.naming (data : ResolveHandRequest) (potIndex : Int) : List PotPayout :=
  data.payouts.filter fun submitted => submitted.potIndex = potIndex

/-- No side pot pays more than it holds, and no player wins more than the pots he is eligible
for. -/
structure PotsCover (r : RoundTables) (data : ResolveHandRequest) : Prop where
  /-- Every named pot is computed, and all payouts that name it fit it together. -/
  pots : ∀ submitted ∈ data.payouts, ∃ pot ∈ computedPots r.players,
    pot.potIndex = submitted.potIndex ∧
      ((data.naming submitted.potIndex).map (·.winnerTotal)).sum ≤ pot.amount
  /-- Every player's awards fit the pots he is eligible for. -/
  players : ∀ playerId, awardedTo playerId data.awards ≤
    (((computedPots r.players).filter fun pot => playerId ∈ pot.eligibleWinnerPlayerIds).map
      (·.amount)).sum

/-- The payouts that name one pot repeatedly ask together for no more than it holds. -/
def ResolveHandRequest.RepeatsFit (data : ResolveHandRequest) (r : RoundTables) : Prop :=
  ∀ pot ∈ computedPots r.players, 2 ≤ (data.naming pot.potIndex).length →
    ((data.naming pot.potIndex).map (·.amount)).sum ≤ pot.amount

instance (data : ResolveHandRequest) (r : RoundTables) : Decidable (data.RepeatsFit r) :=
  inferInstanceAs (Decidable (∀ pot ∈ computedPots r.players, _))

variable {r r' : RoundTables} {d : Deal} {data : ResolveHandRequest} {ids : Uuids}
  {playerId : String}

/-! ## The pot is covered -/

/-- A reversal takes at least as much out of the pot as out of the commitments, unless the pot is
empty then. -/
lemma PotCovered.reversed (hnd : (r.players.map (·.playerId)).Nodup) (h : PotCovered r)
    {data : ReverseActionRequest} {original : HandLedgerEntry}
    (hrev : Reversed r data ids original r') : PotCovered r' := by
  refine ⟨hrev.constraints, ?_⟩
  have hnonneg : ∀ r : RoundTables, r.Constraints →
      0 ≤ (r.players.map (·.committedThisHand)).sum := by
    intro r hr
    apply List.sum_nonneg
    rw [List.forall_mem_map]
    exact fun p hp => (hr.players p hp).2.2
  have hpot := h.pot_le
  have hbefore := hnonneg r h.constraints
  have hafter := hnonneg r' hrev.constraints
  rw [hrev.after] at hafter ⊢
  rcases data.write_cases original r ids with ⟨name, -, hpos, hw⟩ | ⟨-, hw⟩
  · rw [hw] at hafter ⊢
    dsimp only at hafter ⊢
    by_cases hname : ∃ p ∈ r.players, p.playerId = name
    · obtain ⟨p, hp, rfl⟩ := hname
      rw [sum_map_updateFirst (fun q : RoundPlayer => q.committedThisHand) hnd hp rfl] at hafter ⊢
      have hhand := (h.constraints.players p hp).2.2
      simp only [PlayerState.uncommit] at hafter ⊢
      omega
    · push Not at hname
      rw [updateFirst_of_forall_ne hname]
      omega
  · rw [hw]
    exact hpot

/-- An accepted command keeps the pot covered. -/
lemma PotCovered.step (hnd : (r.players.map (·.playerId)).Nodup) (h : PotCovered r)
    {c : RoundCommand} (hstep : RoundStep r c r') : PotCovered r' := by
  have hcons := hstep.constraints h.constraints
  have hpot := h.pot_le
  cases hstep with
  | retried data ids => exact h
  | bet happ =>
    refine ⟨hcons, ?_⟩
    rw [happ.pot_eq, happ.sum_eq hnd (fun q => q.committedThisHand) rfl]
    omega
  | street hadv =>
    refine ⟨hcons, ?_⟩
    cases hadv.outcome with
    | settleHand => exact hpot
    | showdown | nextStreet => simpa [List.map_map, Function.comp_def] using hpot
  | settled hc hset =>
    refine ⟨hcons, ?_⟩
    rw [hset.after]
    exact hpot.trans_eq (congrArg List.sum (map_foldl_award fun _ _ => rfl)).symm
  | reversed hrev => exact h.reversed hnd hrev
  | adjusted =>
    exact ⟨hcons, hpot.trans_eq (congrArg List.sum (map_addStack fun _ _ => rfl)).symm⟩
  | reopened => exact ⟨hcons, hpot⟩
  | corrected =>
    exact ⟨hcons, hpot.trans_eq (congrArg List.sum
      ((map_addStack fun _ _ => rfl).trans (map_addStack fun _ _ => rfl))).symm⟩

/-- A new round covers its pot. -/
lemma potCovered_of_createRound {r₀ : RoundTables}
    (hdeal : createRound d.toRoundSetup ids = .ok r₀) : PotCovered r₀ := by
  obtain ⟨-, hcons, rfl⟩ := createRound_eq_ok_iff.mp hdeal
  exact ⟨hcons, (chipsConserved_tables d ids).pot.le⟩

/-- After every run of commands the pot holds no more than was committed. -/
theorem potCovered_run {r₀ : RoundTables} (hdeal : createRound d.toRoundSetup ids = .ok r₀)
    (cs : List RoundCommand) :
    SeatedAs d.toRoundSetup (roundMachine.run r₀ cs) ∧ PotCovered (roundMachine.run r₀ cs) :=
  round_run_invariant hdeal (fun _ _ _ hseat hI hstep => hI.step hseat.ids_nodup hstep)
    (potCovered_of_createRound hdeal) cs

/-- After every run of the betting the pot holds no more than was committed. -/
lemma potCovered_betting {r₀ : RoundTables} (hdeal : createRound d.toRoundSetup ids = .ok r₀)
    (cs : List BettingCommand) : PotCovered (bettingMachine.run r₀ cs) :=
  roundMachine_run_betting r₀ cs ▸ (potCovered_run hdeal (cs.map .betting)).2

/-! ## Accepted settlements -/

/-- The computed pots hold the commitments. -/
lemma sum_computedPots (players : List RoundPlayer) :
    ((computedPots players).map (·.amount)).sum =
      (players.map fun p => max 0 p.committedThisHand).sum := by
  rw [computedPots, sum_calculateSidePots, List.map_map]
  rfl

/-- The computed pots of a round hold what its players have committed. -/
lemma RoundTables.Constraints.sum_computedPots (h : r.Constraints) :
    ((computedPots r.players).map (·.amount)).sum = (r.players.map (·.committedThisHand)).sum := by
  rw [PokerRoom.sum_computedPots]
  exact congrArg List.sum (List.map_congr_left fun p hp => max_eq_right (h.players p hp).2.2)

/-- The players who are eligible for a computed pot are players of the round. -/
lemma mem_of_eligible {players : List RoundPlayer} {pot : Pot} (hpot : pot ∈ computedPots players)
    (h : playerId ∈ pot.eligibleWinnerPlayerIds) : ∃ p ∈ players, p.playerId = playerId := by
  obtain ⟨c, hc, hid, -⟩ := (calculateSidePots_sound hpot).2 playerId h
  obtain ⟨p, hp, rfl⟩ := List.mem_map.mp hc
  exact ⟨p, hp, hid⟩

/-- A payout that is accepted hands out at least one chip. -/
lemma Settled.one_le_winnerTotal (hset : Settled r data ids r') {submitted : PotPayout}
    (h : submitted ∈ data.payouts) : 1 ≤ submitted.winnerTotal := by
  rw [hset.winners submitted h]
  exact submitted.amount_pos

/-- An accepted settlement pays at least one chip. -/
lemma Settled.one_le_totalPaid (hset : Settled r data ids r') : 1 ≤ data.totalPaid := by
  obtain ⟨submitted, h⟩ := List.exists_mem_of_ne_nil _ data.payouts_ne
  refine (hset.one_le_winnerTotal h).trans (List.single_le_sum ?_ _ (List.mem_map_of_mem h))
  rw [List.forall_mem_map]
  exact fun other hother => zero_le_one.trans (hset.one_le_winnerTotal hother)

/-- Where the pot is covered every accepted payout fits the computed pot it names. -/
lemma Settled.exists_pot (hcov : PotCovered r) (hset : Settled r data ids r')
    {submitted : PotPayout} (h : submitted ∈ data.payouts) :
    ∃ pot ∈ computedPots r.players, submitted.Fits pot := by
  rcases hset.fits with hnil | hfits
  · -- without a computed pot nobody has committed a chip, and the pot is empty
    have hsum := hcov.constraints.sum_computedPots
    have hpaid := hset.one_le_totalPaid.trans (hset.total_le.trans hcov.pot_le)
    rw [hnil] at hsum
    simp only [List.map_nil, List.sum_nil] at hsum
    omega
  · obtain ⟨pot, hfind, hfit⟩ := hfits submitted h
    exact ⟨pot, List.mem_of_find?_eq_some hfind, hfit⟩

/-- Where the pot is covered the chips of an accepted settlement go to players of the round. -/
lemma Settled.winner_mem (hcov : PotCovered r) (hset : Settled r data ids r') {row : RoundPayout}
    (hrow : row ∈ data.awards) : ∃ p ∈ r.players, p.playerId = row.playerId := by
  obtain ⟨submitted, h, hrow⟩ := List.mem_flatMap.mp hrow
  obtain ⟨winner, hwinner, rfl⟩ := List.mem_map.mp hrow
  obtain ⟨pot, hpot, hfit⟩ := hset.exists_pot hcov h
  exact mem_of_eligible hpot (hfit.eligible winner hwinner)

/-- Computed pots with the same index are the same. -/
lemma computedPots_eq {players : List RoundPlayer} {pot pot' : Pot} (h : pot ∈ computedPots players)
    (h' : pot' ∈ computedPots players) (hindex : pot.potIndex = pot'.potIndex) : pot = pot' :=
  eq_of_key_eq (calculateSidePots_potIndex _) h h' hindex

/-- Handing out payouts to players of the round adds what is awarded to their stacks. -/
lemma sum_foldl_award {players : List RoundPlayer} (hnd : (players.map (·.playerId)).Nodup)
    {awards : List RoundPayout}
    (h : ∀ row ∈ awards, ∃ p ∈ players, p.playerId = row.playerId) :
    ((awards.foldl award players).map (·.stackRemaining)).sum =
      (players.map (·.stackRemaining)).sum + (awards.map (·.amount)).sum := by
  induction awards generalizing players with
  | nil => simp
  | cons row awards ih =>
    obtain ⟨⟨p, hp, hid⟩, hrest⟩ := List.forall_mem_cons.mp h
    have hids : (award players row).map (·.playerId) = players.map (·.playerId) :=
      map_updateFirst_of_eq _ fun _ => rfl
    have hone : ((award players row).map (·.stackRemaining)).sum =
        (players.map (·.stackRemaining)).sum + row.amount := by
      rw [award, sum_map_updateFirst _ hnd hp hid]
      dsimp only
      omega
    rw [List.foldl_cons, ih (hids ▸ hnd) fun row' hrow' => ?_, hone, List.map_cons, List.sum_cons]
    · omega
    · obtain ⟨q, hq, hqid⟩ := hrest row' hrow'
      have hmem : q.playerId ∈ (award players row).map (·.playerId) := by
        rw [hids]
        exact List.mem_map_of_mem hq
      obtain ⟨q', hq', hqid'⟩ := List.mem_map.mp hmem
      exact ⟨q', hq', hqid'.trans hqid⟩

/-- The payout rows of a request hand out what the request pays. -/
lemma ResolveHandRequest.sum_awards (data : ResolveHandRequest) :
    (data.awards.map (·.amount)).sum = data.totalPaid := by
  unfold ResolveHandRequest.awards ResolveHandRequest.totalPaid
  induction data.payouts with
  | nil => rfl
  | cons submitted payouts ih =>
    have hone : (submitted.awards.map (·.amount)).sum = submitted.winnerTotal := by
      rw [PotPayout.awards, List.map_map]
      rfl
    rw [List.flatMap_cons, List.map_append, List.sum_append, ih, hone, List.map_cons, List.sum_cons]

/-- **What a settlement pays.** Where the pot is covered an accepted settlement adds exactly what it
pays to the stacks of the round. -/
theorem Settled.sum_stack (hnd : (r.players.map (·.playerId)).Nodup) (hcov : PotCovered r)
    (hset : Settled r data ids r') :
    (r'.players.map (·.stackRemaining)).sum =
      (r.players.map (·.stackRemaining)).sum + data.totalPaid := by
  rw [hset.after, ← data.sum_awards]
  exact sum_foldl_award hnd fun row hrow => hset.winner_mem hcov hrow

/-! ## What the players are awarded -/

/-- A player is awarded what the payouts award him. -/
lemma awardedTo_flatMap (payouts : List PotPayout) :
    awardedTo playerId (payouts.flatMap (·.awards)) =
      (payouts.map fun submitted => awardedTo playerId submitted.awards).sum := by
  induction payouts with
  | nil => rfl
  | cons submitted payouts ih =>
    rw [List.flatMap_cons, awardedTo_append, ih, List.map_cons, List.sum_cons]

/-- A payout awards a player no more than it hands out. -/
lemma PotPayout.awardedTo_le (submitted : PotPayout) :
    awardedTo playerId submitted.awards ≤ submitted.winnerTotal := by
  rw [awardedTo, PotPayout.awards, List.map_map, PotPayout.winnerTotal]
  apply List.sum_le_sum
  intro winner _
  have := winner.amount_pos
  simp only [Function.comp_apply]
  split <;> omega

/-- A payout awards nothing to a player who is none of its winners. -/
lemma PotPayout.awardedTo_eq_zero {submitted : PotPayout}
    (h : ∀ winner ∈ submitted.winners, winner.playerId ≠ playerId) :
    awardedTo playerId submitted.awards = 0 := by
  rw [awardedTo, PotPayout.awards, List.map_map]
  apply List.sum_eq_zero
  rw [List.forall_mem_map]
  exact fun winner hwinner => if_neg (h winner hwinner)

/-! ## When no pot pays more than it holds -/

/-- Where every named pot covers the payouts that name it, every player's awards fit the pots he is
eligible for. -/
lemma Settled.awardedTo_le (hcov : PotCovered r) (hset : Settled r data ids r')
    (hpots : ∀ submitted ∈ data.payouts, ∃ pot ∈ computedPots r.players,
      pot.potIndex = submitted.potIndex ∧
        ((data.naming submitted.potIndex).map (·.winnerTotal)).sum ≤ pot.amount)
    (playerId : String) :
    awardedTo playerId data.awards ≤
      (((computedPots r.players).filter fun pot => playerId ∈ pot.eligibleWinnerPlayerIds).map
        (·.amount)).sum := by
  -- sum over the computed pots, and for each of them over the payouts that name it
  have hfibers := sum_map_eq_sum_fibers (l := data.payouts)
    (fun submitted => awardedTo playerId submitted.awards)
    (calculateSidePots_potIndex (r.players.map (·.contribution)))
    (fun submitted h => by
      obtain ⟨pot, hpot, hfit⟩ := hset.exists_pot hcov h
      exact List.mem_map.mpr ⟨pot, hpot, hfit.potIndex⟩)
  have hzero := sum_map_filter_of_eq_zero (l := computedPots r.players)
    (p := fun pot => decide (playerId ∈ pot.eligibleWinnerPlayerIds))
    (fun pot => if playerId ∈ pot.eligibleWinnerPlayerIds then pot.amount else 0)
    fun pot _ hnot => if_neg (by simpa using hnot)
  have hsame : ((computedPots r.players).filter fun pot =>
      playerId ∈ pot.eligibleWinnerPlayerIds).map (·.amount) =
      ((computedPots r.players).filter fun pot => playerId ∈ pot.eligibleWinnerPlayerIds).map
        fun pot => if playerId ∈ pot.eligibleWinnerPlayerIds then pot.amount else 0 :=
    List.map_congr_left fun pot hpot => by
      rw [if_pos (by simpa using (List.mem_filter.mp hpot).2)]
  rw [ResolveHandRequest.awards, awardedTo_flatMap, hfibers, List.map_map, hsame, hzero]
  apply List.sum_le_sum
  intro pot hpot
  simp only [Function.comp_apply]
  split
  · -- an eligible player is awarded at most what the payouts that name the pot hand out
    by_cases hnil : data.naming pot.potIndex = []
    · rw [ResolveHandRequest.naming] at hnil
      rw [hnil]
      exact (calculateSidePots_sound hpot).1
    · obtain ⟨submitted, h⟩ := List.exists_mem_of_ne_nil _ hnil
      obtain ⟨hsub, hindex⟩ := List.mem_filter.mp h
      rw [decide_eq_true_eq] at hindex
      obtain ⟨pot', hpot', hindex', hle⟩ := hpots submitted hsub
      rw [computedPots_eq hpot hpot' (hindex.symm.trans hindex'.symm)]
      rw [hindex']
      refine le_trans (List.sum_le_sum fun other _ => ?_) hle
      exact other.awardedTo_le
  · next hnot =>
    -- a player who is not eligible wins nothing from them
    refine (List.sum_eq_zero ?_).le
    rw [List.forall_mem_map]
    intro submitted h
    obtain ⟨hsub, hindex⟩ := List.mem_filter.mp h
    rw [decide_eq_true_eq] at hindex
    obtain ⟨pot', hpot', hfit⟩ := hset.exists_pot hcov hsub
    have hsamePot := computedPots_eq hpot' hpot (hfit.potIndex.trans hindex)
    refine PotPayout.awardedTo_eq_zero fun winner hwinner hid => hnot ?_
    rw [← hid, ← hsamePot]
    exact hfit.eligible winner hwinner

/-- The payouts of an accepted settlement that name a pot hand out what they ask for. -/
lemma Settled.sum_naming (hset : Settled r data ids r') (potIndex : Int) :
    ((data.naming potIndex).map (·.winnerTotal)).sum =
      ((data.naming potIndex).map (·.amount)).sum :=
  congrArg List.sum (List.map_congr_left fun submitted h =>
    hset.winners submitted (List.mem_of_mem_filter h))

/-- **When no pot pays more than it holds.** In every reachable round an accepted settlement pays
from each computed pot at most what it holds, and each player at most the pots he is eligible for,
exactly when the payouts that name one pot repeatedly ask together for no more than it holds. -/
theorem pots_cover_iff {r₀ : RoundTables} (hdeal : createRound d.toRoundSetup ids = .ok r₀)
    (cs : List RoundCommand) (data : ResolveHandRequest) (ids' : Uuids) (r' : RoundTables)
    (hset : settleRound (roundMachine.run r₀ cs) data ids' = .ok r') :
    PotsCover (roundMachine.run r₀ cs) data ↔ data.RepeatsFit (roundMachine.run r₀ cs) := by
  have hset := settleRound_eq_ok_iff.mp hset
  obtain ⟨-, hcov⟩ := potCovered_run hdeal cs
  set r := roundMachine.run r₀ cs
  constructor
  · intro hcover pot hpot htwo
    obtain ⟨submitted, h⟩ := List.exists_mem_of_length_pos (lt_of_lt_of_le zero_lt_two htwo)
    obtain ⟨hsub, hindex⟩ := List.mem_filter.mp h
    rw [decide_eq_true_eq] at hindex
    obtain ⟨pot', hpot', hindex', hle⟩ := hcover.pots submitted hsub
    rw [computedPots_eq hpot hpot' (hindex.symm.trans hindex'.symm), hindex', ← hset.sum_naming]
    exact hle
  · intro hrepeats
    have hpots : ∀ submitted ∈ data.payouts, ∃ pot ∈ computedPots r.players,
        pot.potIndex = submitted.potIndex ∧
          ((data.naming submitted.potIndex).map (·.winnerTotal)).sum ≤ pot.amount := by
      intro submitted h
      obtain ⟨pot, hpot, hfit⟩ := hset.exists_pot hcov h
      refine ⟨pot, hpot, hfit.potIndex, ?_⟩
      by_cases htwo : 2 ≤ (data.naming pot.potIndex).length
      · rw [← hfit.potIndex, hset.sum_naming]
        exact hrepeats pot hpot htwo
      · have hmem : submitted ∈ data.naming submitted.potIndex :=
          List.mem_filter.mpr ⟨h, by simp⟩
        rw [hfit.potIndex] at htwo
        match hnaming : data.naming submitted.potIndex, hmem, htwo with
        | [only], hmem, _ =>
          rw [List.mem_singleton.mp hmem] at hfit
          simpa using hfit.amount
        | _ :: _ :: _, _, htwo => simp at htwo
    exact ⟨hpots, hset.awardedTo_le hcov hpots⟩

/-- The settlement of a folded hand pays what the pots hold. -/
theorem pots_cover_iff_headsUp :
    PotsCover (roundMachine.run (headsUp.tables headsUpIds)
      [.betting (.send "alice" "fold" 0 "b1" "e1")]) foldedHandPayout :=
  (pots_cover_iff
    (show createRound headsUp.toRoundSetup headsUpIds = .ok (headsUp.tables headsUpIds) by decide)
    [.betting (.send "alice" "fold" 0 "b1" "e1")] foldedHandPayout (named ["p1", "p2", "done"]) _
    rfl).mpr (by decide)

/-- The main pot of four chips, paid to the big blind. -/
def mainPotPayout : PotPayout := paidToBob 0 "main" 4 (by decide)

/-- A settlement may pay the main pot twice. -/
theorem main_pot_paid_twice :
    ¬ ∀ (d : Deal) (ids : Uuids) (r₀ : RoundTables), createRound d.toRoundSetup ids = .ok r₀ →
      ∀ (cs : List RoundCommand) data ids' r',
        settleRound (roundMachine.run r₀ cs) data ids' = .ok r' →
        PotsCover (roundMachine.run r₀ cs) data := by
  intro h
  have hcover := h headsUp headsUpIds (headsUp.tables headsUpIds) (by decide)
    [.betting (.send "alice" "all_in" 0 "b1" "e1")]
    ⟨[mainPotPayout, mainPotPayout], by decide⟩ (named ["p1", "p2", "done"]) _ rfl
  exact absurd (hcover.players "bob") (by decide)

end PokerRoom
