import PokerRoom.Hand.Uncontested
import Mathlib.Data.Finset.Max

/-!
# Which hands can be settled

What an accepted settlement pays is bounded by the side pots (`pots_cover_iff`).  This is the other
direction: a round can be settled at all, after any run of commands, exactly when it is active, its
pot holds a chip and somebody who is still in the hand has committed one.  Then a settlement that
pays every computed pot in full is there to be asked for, and it is accepted exactly when the pot
holds all that was committed (`hand_settles_iff`).
-/

namespace PokerRoom

open Foundation

/-! ## Definitions -/

/-- Somebody who is still in the hand has committed chips. -/
def SomebodyEligible (r : RoundTables) : Prop :=
  ∃ p ∈ r.players, p.contribution.Live ∧ 0 < p.committedThisHand

instance (p : PlayerContribution) : Decidable p.Live := inferInstanceAs (Decidable (_ ∧ _))

instance : DecidablePred SomebodyEligible :=
  fun r => inferInstanceAs (Decidable (∃ p ∈ r.players, _))

/-- Every computed pot is paid once and in full, to players who may win it. -/
structure PaysInFull (r : RoundTables) (data : ResolveHandRequest) : Prop where
  /-- The pots are named, each once. -/
  pots : (data.payouts.map (·.potIndex)).Perm ((computedPots r.players).map (·.potIndex))
  /-- They are paid in full. -/
  amounts : ∀ submitted ∈ data.payouts, ∀ pot ∈ computedPots r.players,
    pot.potIndex = submitted.potIndex → submitted.amount = pot.amount
  /-- The winners share what is paid. -/
  winners : ∀ submitted ∈ data.payouts, submitted.winnerTotal = submitted.amount
  /-- They may win the pot. -/
  eligible : ∀ submitted ∈ data.payouts, ∀ pot ∈ computedPots r.players,
    pot.potIndex = submitted.potIndex →
      ∀ w ∈ submitted.winners, w.playerId ∈ pot.eligibleWinnerPlayerIds

/-- The settlements that are accepted, and among them those that pay the pots in full. -/
structure SettlesExactly (r : RoundTables) (ids : Uuids) : Prop where
  /-- Some settlement is accepted. -/
  settles : (∃ data r', settleRound r data ids = .ok r') ↔
    r.round.status = .active ∧ 1 ≤ r.round.potAmount ∧ SomebodyEligible r
  /-- The pots can be paid in full. -/
  payable : (∃ data, PaysInFull r data) ↔ SomebodyEligible r
  /-- Whoever asks to pay them so is accepted. -/
  inFull : ∀ data, PaysInFull r data → ((∃ r', settleRound r data ids = .ok r') ↔
    r.round.status = .active ∧ r.round.potAmount = (r.players.map (·.committedThisHand)).sum)

variable {d : Deal} {r r' r₀ : RoundTables} {ids ids' : Uuids}
    {data : ResolveHandRequest} {pot : Pot}

/-! ## Who may win -/

/-- Where nobody still in the hand has committed chips, nobody may win a pot. -/
lemma somebodyEligible_of_mem (hpot : pot ∈ computedPots r.players) {playerId : String}
    (h : playerId ∈ pot.eligibleWinnerPlayerIds) : SomebodyEligible r := by
  by_contra hnobody
  have hdead : ∀ p ∈ r.players.map (·.contribution), p.Live → p.committedThisHand ≤ 0 := by
    intro p hp hlive
    obtain ⟨q, hq, rfl⟩ := List.mem_map.mp hp
    exact not_lt.mp fun hpos => hnobody ⟨q, hq, hlive, hpos⟩
  rw [calculateSidePots_dead hdead pot hpot] at h
  exact List.not_mem_nil h

/-- Whoever has committed most of those who are still in the hand may win every pot. -/
lemma SomebodyEligible.exists_winner (h : SomebodyEligible r) :
    ∃ p ∈ r.players, ∀ pot ∈ computedPots r.players, p.playerId ∈ pot.eligibleWinnerPlayerIds := by
  obtain ⟨p₀, hp₀, hlive₀, hpos₀⟩ := h
  set live := (r.players.filter fun p => p.contribution.Live).toFinset
  have hmem : ∀ p, p ∈ live ↔ p ∈ r.players ∧ p.contribution.Live := by simp [live]
  obtain ⟨p, hp, hmax⟩ :=
    live.exists_max_image (·.committedThisHand) ⟨p₀, (hmem p₀).mpr ⟨hp₀, hlive₀⟩⟩
  obtain ⟨hp, hlive⟩ := (hmem p).mp hp
  have hgreatest : IsGreatest {c | ∃ q ∈ r.players.map (·.contribution), q.Live ∧
    q.committedThisHand = c}
      p.committedThisHand := by
    refine ⟨⟨_, List.mem_map_of_mem hp, hlive, rfl⟩, ?_⟩
    rintro _ ⟨_, hq, hqlive, rfl⟩
    obtain ⟨q, hq', rfl⟩ := List.mem_map.mp hq
    exact hmax q ((hmem q).mpr ⟨hq', hqlive⟩)
  have hpos : 0 < p.committedThisHand := hpos₀.trans_le (hmax p₀ ((hmem p₀).mpr ⟨hp₀, hlive₀⟩))
  exact ⟨p, hp, fun pot hpot => mem_eligible_of_highest hgreatest hpos hpot
    (List.mem_map_of_mem hp) hlive rfl⟩

/-- Where somebody has committed chips there are pots. -/
lemma SomebodyEligible.computedPots_ne (hcons : r.Constraints) (h : SomebodyEligible r) :
    computedPots r.players ≠ [] := by
  obtain ⟨p, hp, -, hpos⟩ := h
  intro hnil
  have hsum := hcons.sum_computedPots
  rw [hnil, List.map_nil, List.sum_nil] at hsum
  have hle : p.committedThisHand ≤ (r.players.map (·.committedThisHand)).sum :=
    List.single_le_sum (List.forall_mem_map.mpr fun q hq => (hcons.players q hq).2.2) _
      (List.mem_map_of_mem hp)
  omega

/-! ## Paying one player -/

/-- Chips of a pot for one player. -/
def Pot.paidTo (pot : Pot) (playerId : String) (amount : Int) (hplayer : playerId ≠ "")
    (hindex : 0 ≤ pot.potIndex) (hamount : 1 ≤ amount) : PotPayout where
  potIndex := pot.potIndex
  potType := if pot.potIndex = 0 then "main" else "side"
  amount := amount
  winners := [⟨playerId, amount, hplayer, hamount⟩]
  potIndex_nonneg := hindex
  amount_pos := hamount
  winners_ne := List.cons_ne_nil _ _

/-- The winner of such a payout gets the chips. -/
lemma Pot.winnerTotal_paidTo (pot : Pot) {playerId : String} {amount : Int}
    (hplayer : playerId ≠ "") (hindex : 0 ≤ pot.potIndex) (hamount : 1 ≤ amount) :
    (pot.paidTo playerId amount hplayer hindex hamount).winnerTotal = amount := by
  simp [PotPayout.winnerTotal, Pot.paidTo]

/-- Computed pots are numbered from zero. -/
lemma potIndex_nonneg_of_mem (hpot : pot ∈ computedPots r.players) : 0 ≤ pot.potIndex := by
  have hmem : pot.potIndex ∈ (computedPots r.players).map (·.potIndex) := List.mem_map_of_mem hpot
  rw [computedPots, calculateSidePots_indices] at hmem
  obtain ⟨i, -, hi⟩ := List.mem_map.mp hmem
  exact hi ▸ Int.natCast_nonneg i

/-- A settlement whose payouts fit pots that can be told by their numbers is accepted where the
round is active and holds what it pays. -/
lemma settleRound_of_fits (hstatus : r.round.status = .active) (hcons : r.Constraints)
    (hids : Unused ids r) (htotal : data.totalPaid ≤ r.round.potAmount)
    (hwinners : ∀ submitted ∈ data.payouts, submitted.winnerTotal = submitted.amount)
    (hfits : ∀ submitted ∈ data.payouts, ∃ pot ∈ computedPots r.players, submitted.Fits pot) :
    settleRound r data ids = .ok (data.write r ids) := by
  refine settleRound_eq_ok_iff.mpr ⟨hstatus, htotal, hwinners, Or.inr fun submitted hsub => ?_,
    data.write_constraints hcons hids, rfl⟩
  obtain ⟨pot, hpot, hfit⟩ := hfits submitted hsub
  exact ⟨pot, (find?_key_eq_some_iff (calculateSidePots_potIndex _)).mpr ⟨hpot,
    hfit.potIndex⟩, hfit⟩

/-- Where somebody still in the hand has committed chips, a chip of the pot can be handed out. -/
lemma exists_settleRound (hne : ∀ p ∈ r.players, p.playerId ≠ "")
    (hstatus : r.round.status = .active)
    (hcons : r.Constraints) (hids : Unused ids r) (hpot : 1 ≤ r.round.potAmount)
    (h : SomebodyEligible r) :
    ∃ data r', settleRound r data ids = .ok r' := by
  obtain ⟨p, hp, hwins⟩ := h.exists_winner
  obtain ⟨pot, hmem⟩ := List.exists_mem_of_ne_nil _ (h.computedPots_ne hcons)
  set chip : PotPayout := pot.paidTo p.playerId 1 (hne p hp) (potIndex_nonneg_of_mem hmem) le_rfl
  have htotal : chip.winnerTotal = 1 := pot.winnerTotal_paidTo _ _ _
  have hpos : 0 < pot.amount := calculateSidePots_pos _ pot hmem
  refine ⟨⟨[chip], List.cons_ne_nil _ _⟩, _, settleRound_of_fits hstatus hcons hids ?_
    (List.forall_mem_singleton.mpr htotal) (List.forall_mem_singleton.mpr ⟨pot, hmem, rfl, ?_, ?_⟩)⟩
  · simpa [ResolveHandRequest.totalPaid, htotal] using hpot
  · rw [htotal]
    exact hpos
  · exact List.forall_mem_singleton.mpr (hwins pot hmem)

/-! ## Paying the pots in full -/

/-- A settlement in full pays what was committed. -/
lemma PaysInFull.totalPaid_eq (hcons : r.Constraints) (h : PaysInFull r data) :
    data.totalPaid = (r.players.map (·.committedThisHand)).sum := by
  set held : Int → Int := fun potIndex =>
    (((computedPots r.players).find? fun pot => pot.potIndex = potIndex).map (·.amount)).getD 0
  have hheld : ∀ pot ∈ computedPots r.players, held pot.potIndex = pot.amount := fun pot hpot => by
    have hfind := (find?_key_eq_some_iff (calculateSidePots_potIndex _)).mpr ⟨hpot, rfl⟩
    simp only [held]
    rw [computedPots, hfind]
    rfl
  have hpaid : ∀ submitted ∈ data.payouts, submitted.winnerTotal = held submitted.potIndex := by
    intro submitted hsub
    obtain ⟨pot, hpot, hindex⟩ := List.mem_map.mp
      (h.pots.mem_iff.mp (List.mem_map_of_mem (f := (·.potIndex)) hsub))
    rw [h.winners submitted hsub, h.amounts submitted hsub pot hpot hindex,
      ← hheld pot hpot, hindex]
  calc data.totalPaid
      = (data.payouts.map fun submitted => held submitted.potIndex).sum :=
        congrArg List.sum (List.map_congr_left hpaid)
    _ = ((data.payouts.map (·.potIndex)).map held).sum := by rw [List.map_map]; rfl
    _ = (((computedPots r.players).map (·.potIndex)).map held).sum := (h.pots.map held).sum_eq
    _ = ((computedPots r.players).map fun pot => held pot.potIndex).sum := by rw [List.map_map]; rfl
    _ = ((computedPots r.players).map (·.amount)).sum :=
      congrArg List.sum (List.map_congr_left hheld)
    _ = (r.players.map (·.committedThisHand)).sum := hcons.sum_computedPots

/-- Every payout of a settlement in full fits its pot. -/
lemma PaysInFull.fits (h : PaysInFull r data) {submitted : PotPayout}
    (hsub : submitted ∈ data.payouts) :
    ∃ pot ∈ computedPots r.players, submitted.Fits pot := by
  obtain ⟨pot, hpot, hindex⟩ := List.mem_map.mp
    (h.pots.mem_iff.mp (List.mem_map_of_mem (f := (·.potIndex)) hsub))
  exact ⟨pot, hpot, hindex,
    ((h.winners submitted hsub).trans (h.amounts submitted hsub pot hpot hindex)).le,
    h.eligible submitted hsub pot hpot hindex⟩

/-- A settlement in full pays somebody who still is in the hand. -/
lemma PaysInFull.somebodyEligible (h : PaysInFull r data) : SomebodyEligible r := by
  obtain ⟨submitted, hsub⟩ := List.exists_mem_of_ne_nil _ data.payouts_ne
  obtain ⟨winner, hwinner⟩ := List.exists_mem_of_ne_nil _ submitted.winners_ne
  obtain ⟨pot, hpot, hfit⟩ := h.fits hsub
  exact somebodyEligible_of_mem hpot (hfit.eligible winner hwinner)

/-- Where somebody still in the hand has committed chips, the pots can be paid in full. -/
lemma SomebodyEligible.exists_paysInFull (hne : ∀ p ∈ r.players, p.playerId ≠ "")
    (hcons : r.Constraints) (h : SomebodyEligible r) : ∃ data, PaysInFull r data := by
  obtain ⟨p, hp, hwins⟩ := h.exists_winner
  have hpos : ∀ pot ∈ computedPots r.players, 0 < pot.amount := calculateSidePots_pos _
  -- all pots go to the one who may win them
  set payouts : List PotPayout := (computedPots r.players).attach.map fun pot =>
    pot.1.paidTo p.playerId pot.1.amount (hne p hp) (potIndex_nonneg_of_mem pot.2)
      (hpos pot.1 pot.2)
  have hpayout : ∀ submitted ∈ payouts, ∃ pot ∈ computedPots r.players, submitted.potIndex =
    pot.potIndex ∧
      submitted.amount = pot.amount ∧ submitted.winnerTotal = pot.amount ∧
      ∀ w ∈ submitted.winners, w.playerId = p.playerId := by
    intro submitted hsub
    obtain ⟨pot, -, rfl⟩ := List.mem_map.mp hsub
    exact ⟨pot.1, pot.2, rfl, rfl, pot.1.winnerTotal_paidTo _ _ _,
      List.forall_mem_singleton.mpr rfl⟩
  have hindices : payouts.map (·.potIndex) = (computedPots r.players).map (·.potIndex) := by
    rw [List.map_map]
    exact List.attach_map_val (f := fun pot : Pot => pot.potIndex)
  refine ⟨⟨payouts, ?_⟩, List.Perm.of_eq hindices, fun submitted hsub pot hpot hindex => ?_,
    fun submitted hsub => ?_, fun submitted hsub pot hpot hindex w hw => ?_⟩
  · rw [← List.length_pos_iff, List.length_map, List.length_attach, List.length_pos_iff]
    exact h.computedPots_ne hcons
  · obtain ⟨pot', hpot', hindex', hamount, -⟩ := hpayout submitted hsub
    rw [hamount, computedPots_eq hpot' hpot (hindex'.symm.trans hindex.symm)]
  · obtain ⟨pot, -, -, hamount, htotal, -⟩ := hpayout submitted hsub
    exact htotal.trans hamount.symm
  · obtain ⟨-, -, -, -, -, hwinner⟩ := hpayout submitted hsub
    exact hwinner w hw ▸ hwins pot hpot

/-- Where the pot is covered, it is settled exactly like that. -/
lemma PotCovered.settlesExactly (hne : ∀ p ∈ r.players, p.playerId ≠ "") (hcov : PotCovered r)
    (hids : Unused ids r) : SettlesExactly r ids := by
  refine ⟨⟨?_, fun ⟨hstatus, hpot, h⟩ =>
    exists_settleRound hne hstatus hcov.constraints hids hpot h⟩,
    ⟨fun ⟨data, h⟩ => h.somebodyEligible, fun h => h.exists_paysInFull hne hcov.constraints⟩,
    fun data h => ⟨?_, fun ⟨hstatus, hpot⟩ => ?_⟩⟩
  · rintro ⟨data, r', hok⟩
    have hset := settleRound_eq_ok_iff.mp hok
    obtain ⟨submitted, hsub⟩ := List.exists_mem_of_ne_nil _ data.payouts_ne
    obtain ⟨winner, hwinner⟩ := List.exists_mem_of_ne_nil _ submitted.winners_ne
    obtain ⟨pot, hpot, hfit⟩ := hset.exists_pot hcov hsub
    exact ⟨hset.status, hset.one_le_totalPaid.trans hset.total_le,
      somebodyEligible_of_mem hpot (hfit.eligible winner hwinner)⟩
  · rintro ⟨r', hok⟩
    have hset := settleRound_eq_ok_iff.mp hok
    exact ⟨hset.status, le_antisymm hcov.pot_le (h.totalPaid_eq hcov.constraints ▸ hset.total_le)⟩
  · exact ⟨_, settleRound_of_fits hstatus hcov.constraints hids
      ((h.totalPaid_eq hcov.constraints).trans hpot.symm).le h.winners fun _ hsub => h.fits hsub⟩

/-! ## Every run -/

/-- **Which hands can be settled.** After every run of commands on a dealt round, corrections
included, some settlement is accepted exactly when the round is active, its pot holds a chip and
somebody still in the hand has committed one.  Where somebody has, and only there, every pot can be
paid in full to players who may win it, and whoever asks for that is accepted exactly when the round
is active and its pot holds all that was committed. -/
theorem hand_settles_iff (hdeal : createRound d.toRoundSetup ids = .ok r₀) (cs : List RoundCommand)
    (hids : Unused ids' (roundMachine.run r₀ cs)) :
    SettlesExactly (roundMachine.run r₀ cs) ids' := by
  obtain ⟨hseat, hcov⟩ := potCovered_run hdeal cs
  exact hcov.settlesExactly (fun p hp => hseat.playerId_ne hp) hids

/-- After the small blind has folded, a settlement in full is accepted. -/
theorem hand_settles_iff_headsUp : ∃ data r',
    PaysInFull (roundMachine.run (headsUp.tables headsUpIds)
      [.betting (.send "alice" "fold" 0 "b1" "e1")]) data ∧
      settleRound (roundMachine.run (headsUp.tables headsUpIds)
        [.betting (.send "alice" "fold" 0 "b1" "e1")]) data marks = .ok r' := by
  have hexactly := hand_settles_iff
    (show createRound headsUp.toRoundSetup headsUpIds = .ok (headsUp.tables headsUpIds) by decide)
    [.betting (.send "alice" "fold" 0 "b1" "e1")] (unused_marks (by decide))
  obtain ⟨data, hdata⟩ := hexactly.payable.mpr (by decide)
  obtain ⟨r', hok⟩ := (hexactly.inFull data hdata).mpr (by decide)
  exact ⟨data, r', hdata, hok⟩

end PokerRoom
