import PokerRoom.Domain.Engine.SidePots
import PokerRoom.Foundation.WaterFilling
import Mathlib.Data.Set.Finite.Lemmas
import Mathlib.Data.Set.Finite.List
import Mathlib.Order.Bounds.Basic
import Mathlib.Algebra.Order.BigOperators.Group.List

/-!
# Who wins which chips

The slices of the pot are the steps between the levels at which players stopped committing.  The
slices a live player may win hold the commitments up to his own, and merging the dead slices moves
chips only into pots of the players who committed most.
-/

namespace PokerRoom

open WaterFilling

/-! ## The slices are the steps between the commitments -/

/-- The slices are cut at the steps between the commitments. -/
lemma rawPots_eq (sortedPlayers rest : List PlayerContribution) (previousLevel : Int) :
    rawPots sortedPlayers previousLevel rest =
      (steps previousLevel (rest.map (·.committedThisHand))).map fun s =>
        slicePot sortedPlayers s.1 s.2 := by
  induction rest generalizing previousLevel with
  | nil => rfl
  | cons player rest ih =>
    rw [rawPots, List.map_cons, steps]
    split
    · exact ih previousLevel
    · rw [List.map_cons, ih]

/-- A slice holds its height for every player who reaches into it. -/
lemma slicePot_amount (players : List PlayerContribution) (s : Int × Int) :
    (slicePot players s.1 s.2).amount =
      sliceAmount (players.map (·.committedThisHand)) s := by
  simp [slicePot, sliceAmount, List.filter_map, Function.comp_def]

/-- A live player may win the slices he reaches into. -/
lemma mem_slicePot_eligible_iff {players : List PlayerContribution} {p : PlayerContribution}
    (hids : (players.map (·.playerId)).Nodup) (hp : p ∈ players) (hlive : p.Live) (lo hi : Int) :
    p.playerId ∈ (slicePot players lo hi).eligible ↔ lo < p.committedThisHand := by
  simp only [slicePot, List.filter_filter, List.mem_map, List.mem_filter]
  constructor
  · rintro ⟨q, ⟨hq, hreach⟩, hid⟩
    obtain rfl : q = p := List.inj_on_of_nodup_map hids hq hp hid
    simp only [Bool.and_eq_true, decide_eq_true_eq] at hreach
    exact hreach.2
  · intro hreach
    exact ⟨p, ⟨hp, by simp [hreach, hlive.1, hlive.2]⟩, rfl⟩

/-- A slice nobody live reaches into has no winner. -/
lemma slicePot_eligible_eq_nil {players : List PlayerContribution} {lo : Int}
    (hlive : ∀ p ∈ players, p.Live → p.committedThisHand ≤ lo) (hi : Int) :
    (slicePot players lo hi).eligible = [] := by
  simp only [slicePot, List.map_eq_nil_iff, List.filter_filter, List.filter_eq_nil_iff]
  intro p hp hreach
  simp only [Bool.and_eq_true, Bool.not_eq_true', decide_eq_true_eq] at hreach
  exact absurd (hlive p hp ⟨hreach.1.1, hreach.1.2⟩) (by omega)

/-- Whoever may win a higher slice may win a lower one. -/
lemma slicePot_eligible_subset (players : List PlayerContribution) {lo lo' : Int} (hi hi' : Int)
    (hlo : lo ≤ lo') : (slicePot players lo' hi').eligible ⊆ (slicePot players lo hi).eligible := by
  simp only [slicePot, List.filter_filter]
  refine List.map_subset _ fun p hp => ?_
  rw [List.mem_filter] at hp ⊢
  simp only [Bool.and_eq_true, decide_eq_true_eq] at hp ⊢
  exact ⟨hp.1, hp.2.1, by omega⟩

/-! ## Merging -/

/-- What a pot pays and to whom. -/
def RawPot.prize (pot : RawPot) : Int × List String := (pot.amount, pot.eligible)

/-- Pots that somebody can win are passed on as they are. -/
lemma carryDeadPots_live_append {live : List RawPot} (hlive : ∀ pot ∈ live, pot.eligible ≠ [])
    (dead : List RawPot) :
    (carryDeadPots (live ++ dead) 0 []).1.map RawPot.prize =
        live.map RawPot.prize ++ (carryDeadPots dead 0 []).1.map RawPot.prize ∧
      (carryDeadPots (live ++ dead) 0 []).2.1 = (carryDeadPots dead 0 []).2.1 := by
  induction live with
  | nil => exact ⟨rfl, rfl⟩
  | cons pot live ih =>
    obtain ⟨hpot, hlive⟩ := List.forall_mem_cons.mp hlive
    obtain ⟨hprizes, hcarry⟩ := ih hlive
    rw [List.cons_append, carryDeadPots]
    dsimp only
    rw [if_pos hpot, List.map_cons, List.map_cons, List.cons_append, hprizes]
    exact ⟨by simp [RawPot.prize], hcarry⟩

/-- Pots nobody can win are carried whole. -/
lemma carryDeadPots_dead {dead : List RawPot} (hdead : ∀ pot ∈ dead, pot.eligible = [])
    (carryAmount : Int) (carryContributors : List String) :
    (carryDeadPots dead carryAmount carryContributors).1 = [] ∧
      (carryDeadPots dead carryAmount carryContributors).2.1 =
        carryAmount + (dead.map (·.amount)).sum := by
  induction dead generalizing carryAmount carryContributors with
  | nil => simp [carryDeadPots]
  | cons pot dead ih =>
    obtain ⟨hpot, hdead⟩ := List.forall_mem_cons.mp hdead
    obtain ⟨hresult, hcarry⟩ := ih hdead (pot.amount + carryAmount)
      (uniqueOrdered (carryContributors ++ pot.contributors))
    rw [carryDeadPots]
    dsimp only
    rw [if_neg (by simp [hpot]), List.map_cons, List.sum_cons]
    exact ⟨hresult, by rw [hcarry]; ring⟩

/-- The dead pots above the last live one are merged into it. -/
lemma mergeDeadPots_prizes (live dead : List RawPot) {last : RawPot}
    (hlive : ∀ pot ∈ live, pot.eligible ≠ []) (hlast : last.eligible ≠ [])
    (hdead : ∀ pot ∈ dead, pot.eligible = []) (hamounts : ∀ pot ∈ dead, 0 ≤ pot.amount) :
    (mergeDeadPots (live ++ last :: dead)).map RawPot.prize =
      live.map RawPot.prize ++ [(last.amount + (dead.map (·.amount)).sum, last.eligible)] := by
  obtain ⟨hnil, hcarry⟩ := carryDeadPots_dead hdead 0 []
  have hlast' : ∀ pot ∈ live ++ [last], pot.eligible ≠ [] := by
    rw [List.forall_mem_append, List.forall_mem_singleton]
    exact ⟨hlive, hlast⟩
  obtain ⟨hprizes, hsum⟩ := carryDeadPots_live_append hlast' dead
  rw [List.append_assoc, List.singleton_append] at hprizes hsum
  rw [hnil, List.map_nil, List.append_nil, List.map_append, List.map_singleton] at hprizes
  rw [hcarry, zero_add] at hsum
  have hnonneg : 0 ≤ (dead.map (·.amount)).sum := by
    refine List.sum_nonneg fun x hx => ?_
    obtain ⟨pot, hpot, rfl⟩ := List.mem_map.mp hx
    exact hamounts pot hpot
  unfold mergeDeadPots
  generalize carryDeadPots (live ++ last :: dead) 0 [] = carried at hprizes hsum
  obtain ⟨result, carryAmount, carryContributors⟩ := carried
  dsimp only at hprizes hsum ⊢
  subst hsum
  split
  · obtain ⟨init, final, rfl, hinit, hfinal⟩ := List.map_eq_append_iff.mp hprizes
    obtain ⟨pot, rfl, hpot⟩ := List.map_eq_singleton_iff.mp hfinal
    rw [List.getLast?_concat, List.dropLast_concat, List.map_append, hinit, List.map_singleton]
    simp only [RawPot.prize, Prod.mk.injEq] at hpot ⊢
    rw [hpot.1, hpot.2]
  · rw [hprizes, show (dead.map (·.amount)).sum = 0 by omega, add_zero]
    rfl

/-- Carrying dead pots into pots with positive amounts gives pots with positive amounts. -/
lemma carryDeadPots_pos {pots : List RawPot} {carryAmount : Int}
    (carryContributors : List String) (hpots : ∀ pot ∈ pots, 0 < pot.amount)
    (hcarry : 0 ≤ carryAmount) :
    ∀ pot ∈ (carryDeadPots pots carryAmount carryContributors).1, 0 < pot.amount := by
  induction pots generalizing carryAmount carryContributors with
  | nil => simp [carryDeadPots]
  | cons pot pots ih =>
    obtain ⟨hpot, hpots⟩ := List.forall_mem_cons.mp hpots
    have hcombined : 0 < pot.amount + carryAmount := by omega
    rw [carryDeadPots]
    dsimp only
    split
    · exact List.forall_mem_cons.mpr ⟨hcombined, ih [] hpots le_rfl⟩
    · exact ih _ hpots hcombined.le

/-- Merging pots with positive amounts gives pots with positive amounts. -/
lemma mergeDeadPots_pos {pots : List RawPot} (hpots : ∀ pot ∈ pots, 0 < pot.amount) :
    ∀ pot ∈ mergeDeadPots pots, 0 < pot.amount := by
  have hresult := carryDeadPots_pos [] hpots le_rfl
  unfold mergeDeadPots
  generalize carryDeadPots pots 0 [] = carried at hresult
  obtain ⟨result, carryAmount, carryContributors⟩ := carried
  dsimp only at hresult ⊢
  split
  · next hpos =>
    cases hlast : result.getLast? with
    | none =>
      rw [List.forall_mem_singleton]
      exact hpos
    | some last =>
      obtain ⟨init, rfl⟩ := List.getLast?_eq_some_iff.mp hlast
      obtain ⟨hinit, hfinal⟩ := List.forall_mem_append.mp hresult
      have hfinal := hfinal last List.mem_cons_self
      rw [List.dropLast_concat, List.forall_mem_append, List.forall_mem_singleton]
      exact ⟨hinit, add_pos hfinal hpos⟩
  · exact hresult

/-! ## The side pots -/

/-- The players in the order in which their commitments are cut. -/
private def byCommitment (players : List PlayerContribution) : List PlayerContribution :=
  players.insertionSort fun p q => p.committedThisHand ≤ q.committedThisHand

private lemma byCommitment_perm (players : List PlayerContribution) :
    (byCommitment players).Perm players :=
  List.perm_insertionSort _ _

private lemma byCommitment_sorted (players : List PlayerContribution) :
    ((byCommitment players).map (·.committedThisHand)).Pairwise (· ≤ ·) :=
  List.pairwise_map.mpr
    (@List.pairwise_insertionSort _ (fun p q : PlayerContribution =>
      p.committedThisHand ≤ q.committedThisHand) _ ⟨fun _ _ => le_total _ _⟩
      ⟨fun _ _ _ => le_trans⟩ players)

/-- What a pot pays and to whom. -/
def Pot.prize (pot : Pot) : Int × List String := (pot.amount, pot.eligibleWinnerPlayerIds)

/-- The side pots pay what the merged slices pay. -/
private lemma calculateSidePots_prizes (players : List PlayerContribution) :
    (calculateSidePots players).map Pot.prize =
      (mergeDeadPots (rawPots (byCommitment players) 0 (byCommitment players))).map
        RawPot.prize := by
  refine List.ext_getElem (by simp [calculateSidePots, byCommitment]) fun i _ _ => ?_
  simp [calculateSidePots, byCommitment, Pot.prize, RawPot.prize]

/-- Every slice holds chips. -/
lemma rawPots_pos (players : List PlayerContribution) (previousLevel : Int) :
    ∀ pot ∈ rawPots players previousLevel players, 0 < pot.amount := by
  intro pot hpot
  rw [rawPots_eq] at hpot
  obtain ⟨s, hs, rfl⟩ := List.mem_map.mp hpot
  obtain ⟨-, hrise, htop⟩ := bounds_of_mem_steps hs
  rw [slicePot_amount]
  exact sliceAmount_pos hrise htop hrise

/-- Every side pot holds chips. -/
lemma calculateSidePots_pos (players : List PlayerContribution) :
    ∀ pot ∈ calculateSidePots players, 0 < pot.amount := by
  intro pot hpot
  have hprize : pot.prize ∈ (calculateSidePots players).map Pot.prize :=
    List.mem_map_of_mem hpot
  rw [calculateSidePots_prizes] at hprize
  obtain ⟨raw, hraw, heq⟩ := List.mem_map.mp hprize
  have hpos := mergeDeadPots_pos (rawPots_pos (byCommitment players) 0) raw hraw
  have hamount : raw.amount = pot.amount := (Prod.ext_iff.mp heq).1
  exact hamount ▸ hpos

/-- Below the highest live commitment every slice has a winner; the slice that ends there takes the
slices above it. -/
private lemma calculateSidePots_split {players : List PlayerContribution} {highest : Int}
    (hhighest : IsGreatest {c | ∃ p ∈ players, p.Live ∧ p.committedThisHand = c} highest)
    (hpos : 0 < highest) :
    ∃ below lo above,
      steps 0 ((byCommitment players).map (·.committedThisHand)) =
          below ++ (lo, highest) :: above ∧
        lo < highest ∧ (∀ s ∈ below, s.1 < highest) ∧
        ∃ amount, (calculateSidePots players).map Pot.prize =
          below.map (fun s => (slicePot (byCommitment players) s.1 s.2).prize) ++
            [(amount, (slicePot (byCommitment players) lo highest).eligible)] := by
  have hsorted := byCommitment_sorted players
  obtain ⟨⟨p, hp, hlive, rfl⟩, hupper⟩ := hhighest
  have hp : p ∈ byCommitment players := (byCommitment_perm players).mem_iff.mpr hp
  obtain ⟨below, lo, above, hsteps, hlo, hbelow, habove⟩ :=
    exists_steps_split hsorted (List.mem_map_of_mem hp) hpos
  have hwinner : ∀ s : Int × Int, s.1 < p.committedThisHand →
      (slicePot (byCommitment players) s.1 s.2).eligible ≠ [] := by
    intro s hs hnil
    have hmem : p.playerId ∈ (slicePot (byCommitment players) s.1 s.2).eligible := by
      simp only [slicePot, List.filter_filter]
      exact List.mem_map_of_mem (List.mem_filter.mpr ⟨hp, by simp [hs, hlive.1, hlive.2]⟩)
    simp [hnil] at hmem
  have hprizes := mergeDeadPots_prizes
    (below.map fun s => slicePot (byCommitment players) s.1 s.2)
    (above.map fun s => slicePot (byCommitment players) s.1 s.2) ?_
    (hwinner (lo, p.committedThisHand) hlo) ?_ ?_
  · have hsplit := calculateSidePots_prizes players
    rw [rawPots_eq, hsteps, List.map_append, List.map_cons, hprizes, List.map_map] at hsplit
    exact ⟨below, lo, above, hsteps, hlo, hbelow, _, hsplit⟩
  · intro pot hpot
    obtain ⟨s, hs, rfl⟩ := List.mem_map.mp hpot
    exact hwinner s (hbelow s hs)
  · intro pot hpot
    obtain ⟨s, hs, rfl⟩ := List.mem_map.mp hpot
    refine slicePot_eligible_eq_nil (fun q hq hqlive => ?_) s.2
    exact (hupper ⟨q, (byCommitment_perm players).mem_iff.mp hq, hqlive, rfl⟩).trans
      (habove s hs)
  · intro pot hpot
    obtain ⟨s, hs, rfl⟩ := List.mem_map.mp hpot
    have hs : s ∈ steps 0 ((byCommitment players).map (·.committedThisHand)) :=
      hsteps ▸ List.mem_append_right _ (List.mem_cons_of_mem _ hs)
    obtain ⟨-, hrise, htop⟩ := bounds_of_mem_steps hs
    rw [slicePot_amount]
    exact (sliceAmount_pos hrise htop hrise).le

section Live

variable {players : List PlayerContribution} {highest : Int}

/-- Every side pot has a winner when some live player has committed chips, and whoever may win a
later one may win the earlier ones. -/
private lemma calculateSidePots_nested
    (hhighest : IsGreatest {c | ∃ p ∈ players, p.Live ∧ p.committedThisHand = c} highest)
    (hpos : 0 < highest) :
    (∀ pot ∈ calculateSidePots players, ∀ p ∈ players, p.Live → p.committedThisHand = highest →
        p.playerId ∈ pot.eligibleWinnerPlayerIds) ∧
      (calculateSidePots players).Pairwise fun pot later =>
        later.eligibleWinnerPlayerIds ⊆ pot.eligibleWinnerPlayerIds := by
  obtain ⟨below, lo, above, hsteps, hlo, hbelow, amount, hprizes⟩ :=
    calculateSidePots_split hhighest hpos
  have heligible : (calculateSidePots players).map (·.eligibleWinnerPlayerIds) =
      (below ++ [(lo, highest)]).map fun s =>
        (slicePot (byCommitment players) s.1 s.2).eligible := by
    have h := congrArg (List.map Prod.snd) hprizes
    simpa [Pot.prize, RawPot.prize, Function.comp_def] using h
  constructor
  · intro pot hpot p hp hlive hc
    have hmem : pot.eligibleWinnerPlayerIds ∈
        (calculateSidePots players).map (·.eligibleWinnerPlayerIds) := List.mem_map_of_mem hpot
    rw [heligible] at hmem
    obtain ⟨s, hs, heq⟩ := List.mem_map.mp hmem
    have hreach : s.1 < p.committedThisHand := by
      rw [hc]
      rcases List.mem_append.mp hs with hs | hs
      · exact hbelow s hs
      · rw [List.mem_singleton.mp hs]
        exact hlo
    rw [← heq]
    simp only [slicePot, List.filter_filter]
    exact List.mem_map_of_mem (List.mem_filter.mpr
      ⟨(byCommitment_perm players).mem_iff.mpr hp, by simp [hreach, hlive.1, hlive.2]⟩)
  · have hordered : (below ++ [(lo, highest)]).Pairwise fun s t => s.1 ≤ t.1 := by
      have hpairwise := pairwise_steps 0 ((byCommitment players).map (·.committedThisHand))
      have hrises : ∀ s ∈ below ++ (lo, highest) :: above, s.1 < s.2 := fun s hs =>
        (bounds_of_mem_steps (hsteps ▸ hs)).2.1
      rw [hsteps, List.append_cons] at hpairwise
      refine (List.pairwise_append.mp hpairwise).1.imp_of_mem fun hs _ hst => ?_
      refine (hrises _ ?_).le.trans hst
      rw [List.append_cons]
      exact List.mem_append_left _ hs
    have hnested : ((calculateSidePots players).map (·.eligibleWinnerPlayerIds)).Pairwise
        fun ids later => later ⊆ ids := by
      rw [heligible, List.pairwise_map]
      exact hordered.imp fun hst => slicePot_eligible_subset _ _ _ hst
    exact List.pairwise_map.mp hnested

/-- The highest live player may win every side pot. -/
lemma mem_eligible_of_highest
    (hhighest : IsGreatest {c | ∃ p ∈ players, p.Live ∧ p.committedThisHand = c} highest)
    (hpos : 0 < highest) {pot : Pot} (hpot : pot ∈ calculateSidePots players)
    {p : PlayerContribution}
    (hp : p ∈ players) (hlive : p.Live) (hc : p.committedThisHand = highest) :
    p.playerId ∈ pot.eligibleWinnerPlayerIds :=
  (calculateSidePots_nested hhighest hpos).1 pot hpot p hp hlive hc

/-- There is one side pot exactly when nobody stopped committing below the highest live player. -/
theorem calculateSidePots_length_eq_one_iff
    (hhighest : IsGreatest {c | ∃ p ∈ players, p.Live ∧ p.committedThisHand = c} highest)
    (hpos : 0 < highest) :
    (calculateSidePots players).length = 1 ↔
      ∀ p ∈ players, 0 < p.committedThisHand → highest ≤ p.committedThisHand := by
  obtain ⟨below, lo, above, hsteps, -, -, amount, hprizes⟩ := calculateSidePots_split hhighest hpos
  have hlength : (calculateSidePots players).length = below.length + 1 := by
    have h := congrArg List.length hprizes
    simpa using h
  rw [hlength, Nat.add_eq_right, List.length_eq_zero_iff,
    steps_below_eq_nil_iff (byCommitment_sorted players) hsteps, List.forall_mem_map]
  exact forall_congr' fun p => imp_congr_left (byCommitment_perm players).mem_iff

/-- Nobody may win a side pot where no live player has committed chips. -/
lemma calculateSidePots_dead (hdead : ∀ p ∈ players, p.Live → p.committedThisHand ≤ 0) :
    ∀ pot ∈ calculateSidePots players, pot.eligibleWinnerPlayerIds = [] := by
  have hslices : ∀ pot ∈ rawPots (byCommitment players) 0 (byCommitment players),
      pot.eligible = [] := by
    intro pot hpot
    rw [rawPots_eq] at hpot
    obtain ⟨s, hs, rfl⟩ := List.mem_map.mp hpot
    refine slicePot_eligible_eq_nil (fun p hp hlive => ?_) s.2
    exact (hdead p ((byCommitment_perm players).mem_iff.mp hp) hlive).trans
      (bounds_of_mem_steps hs).1
  intro pot hpot
  obtain ⟨hnil, -⟩ := carryDeadPots_dead hslices 0 []
  have hprize : pot.prize ∈ (calculateSidePots players).map Pot.prize := List.mem_map_of_mem hpot
  rw [calculateSidePots_prizes, mergeDeadPots] at hprize
  generalize carryDeadPots (rawPots (byCommitment players) 0 (byCommitment players)) 0 [] = carried
    at hnil hprize
  obtain ⟨result, carryAmount, carryContributors⟩ := carried
  dsimp only at hnil hprize
  subst hnil
  split at hprize
  · exact congrArg Prod.snd (List.mem_singleton.mp hprize)
  · cases hprize

/-- A live player who committed less than the highest live player may win what everybody committed
up to his own commitment. -/
private lemma sum_winnable
    (hhighest : IsGreatest {c | ∃ p ∈ players, p.Live ∧ p.committedThisHand = c} highest)
    (hids : (players.map (·.playerId)).Nodup) (hnonneg : ∀ q ∈ players, 0 ≤ q.committedThisHand)
    {p : PlayerContribution} (hp : p ∈ players) (hlive : p.Live) (hpos : 0 < p.committedThisHand)
    (hlt : p.committedThisHand < highest) :
    (((calculateSidePots players).filter fun pot =>
        p.playerId ∈ pot.eligibleWinnerPlayerIds).map (·.amount)).sum =
      (players.map fun q => min q.committedThisHand p.committedThisHand).sum := by
  obtain ⟨below, lo, above, hsteps, -, -, amount, hprizes⟩ :=
    calculateSidePots_split hhighest (hpos.trans hlt)
  set sorted := byCommitment players with hdef
  have hperm : sorted.Perm players := byCommitment_perm players
  have hsorted : (sorted.map (·.committedThisHand)).Pairwise (· ≤ ·) := byCommitment_sorted players
  have hids : (sorted.map (·.playerId)).Nodup := (hperm.map _).nodup_iff.mpr hids
  have hp : p ∈ sorted := hperm.mem_iff.mpr hp
  have hc : p.committedThisHand ∈ sorted.map (·.committedThisHand) := List.mem_map_of_mem hp
  -- no commitment lies inside the slice that ends at the highest live commitment
  have hlast : p.committedThisHand ≤ lo := level_le_of_lt hsorted hsteps hc hpos hlt
  have hfiltered := filter_steps_of_lt hsorted hsteps hc hpos hlt
  calc (((calculateSidePots players).filter fun pot =>
          p.playerId ∈ pot.eligibleWinnerPlayerIds).map (·.amount)).sum
      = ((((calculateSidePots players).map Pot.prize).filter fun prize =>
          p.playerId ∈ prize.2).map (·.1)).sum := by
        rw [List.filter_map, List.map_map]
        rfl
    _ = ((below.filter fun s => s.1 < p.committedThisHand).map
          (sliceAmount (sorted.map (·.committedThisHand)))).sum := by
        rw [hprizes, List.filter_append, List.filter_cons_of_neg, List.filter_nil,
          List.append_nil, List.filter_map, List.map_map]
        · congr 1
          rw [show below.filter ((fun prize => decide (p.playerId ∈ prize.2)) ∘
              fun s => (slicePot sorted s.1 s.2).prize) =
                below.filter fun s => s.1 < p.committedThisHand from
            List.filter_congr fun s _ => decide_eq_decide.mpr
              (mem_slicePot_eligible_iff hids hp hlive s.1 s.2)]
          exact List.map_congr_left fun s _ => slicePot_amount sorted s
        · simpa [mem_slicePot_eligible_iff hids hp hlive] using hlast
    _ = ((sorted.map (·.committedThisHand)).map fun c =>
          max 0 (min c p.committedThisHand - 0)).sum := by
        rw [← hfiltered]
        exact sum_slices_below _ hsorted (fun q hq => .inr hq) (List.mem_cons_of_mem _ hc) hpos.le
    _ = (sorted.map fun q => min q.committedThisHand p.committedThisHand).sum := by
        rw [List.map_map]
        congr 1
        refine List.map_congr_left fun q hq => ?_
        have := hnonneg q (hperm.mem_iff.mp hq)
        simp only [Function.comp_apply]
        omega
    _ = (players.map fun q => min q.committedThisHand p.committedThisHand).sum :=
        (hperm.map _).sum_eq

end Live

/-- The side pots are exact: numbered from `0`, each with chips in it, together all that was
committed.  When some live player has committed chips, each pot has winners, all of them live, and a
later pot has no winner an earlier one lacks; a live player may win what everybody committed up to
his own commitment, and one who committed as much as any live player may win every pot. -/
theorem side_pots_exact {players : List PlayerContribution}
    (hids : (players.map (·.playerId)).Nodup)
    (hnonneg : ∀ q ∈ players, 0 ≤ q.committedThisHand) :
    (calculateSidePots players).map (·.potIndex) =
        (List.range (calculateSidePots players).length).map (fun i : ℕ => (i : Int)) ∧
      (∀ pot ∈ calculateSidePots players, 0 < pot.amount) ∧
      ((calculateSidePots players).map (·.amount)).sum =
        (players.map (·.committedThisHand)).sum ∧
      ((∃ p ∈ players, p.Live ∧ 0 < p.committedThisHand) →
        (∀ pot ∈ calculateSidePots players, pot.eligibleWinnerPlayerIds ≠ [] ∧
          ∀ id ∈ pot.eligibleWinnerPlayerIds, ∃ p ∈ players, p.playerId = id ∧ p.Live) ∧
        ((calculateSidePots players).Pairwise fun pot later =>
          later.eligibleWinnerPlayerIds ⊆ pot.eligibleWinnerPlayerIds) ∧
        ∃ highest, IsGreatest {c | ∃ p ∈ players, p.Live ∧ p.committedThisHand = c} highest ∧
          ∀ p ∈ players, p.Live →
            (0 < p.committedThisHand → p.committedThisHand < highest →
              (((calculateSidePots players).filter fun pot =>
                  p.playerId ∈ pot.eligibleWinnerPlayerIds).map (·.amount)).sum =
                (players.map fun q => min q.committedThisHand p.committedThisHand).sum) ∧
            (p.committedThisHand = highest → ∀ pot ∈ calculateSidePots players,
              p.playerId ∈ pot.eligibleWinnerPlayerIds)) := by
  refine ⟨calculateSidePots_indices players, calculateSidePots_pos players, ?_, ?_⟩
  · rw [sum_calculateSidePots]
    congr 1
    exact List.map_congr_left fun q hq => max_eq_right (hnonneg q hq)
  · rintro ⟨live, hlive, hliveLive, hlivePos⟩
    obtain ⟨top, ⟨htop, htopLive⟩, hmax⟩ :=
      Set.exists_max_image {p | p ∈ players ∧ p.Live} (·.committedThisHand)
        ((List.finite_toSet players).subset fun p hp => hp.1) ⟨live, hlive, hliveLive⟩
    have hgreatest : IsGreatest {c | ∃ p ∈ players, p.Live ∧ p.committedThisHand = c}
        top.committedThisHand := by
      refine ⟨⟨top, htop, htopLive, rfl⟩, ?_⟩
      rintro c ⟨p, hp, hpLive, rfl⟩
      exact hmax p ⟨hp, hpLive⟩
    have hpos : 0 < top.committedThisHand := hlivePos.trans_le (hmax live ⟨hlive, hliveLive⟩)
    obtain ⟨hall, hnested⟩ := calculateSidePots_nested hgreatest hpos
    refine ⟨fun pot hpot => ⟨?_, (calculateSidePots_sound hpot).2⟩, hnested, _, hgreatest,
      fun p hp hpLive => ⟨fun hp0 hlt => sum_winnable hgreatest hids hnonneg hp hpLive hp0 hlt,
        fun hc pot hpot => hall pot hpot p hp hpLive hc⟩⟩
    exact List.ne_nil_of_mem (hall pot hpot top htop htopLive rfl)

/-- Against a folded player who committed most, the shorter of two live players may win three
commitments of his own size. -/
theorem side_pots_exact_short_stack :
    (((calculateSidePots [⟨"folded", 300, true, false⟩, ⟨"short", 100, false, true⟩,
        ⟨"deep", 200, false, true⟩]).filter fun pot =>
          "short" ∈ pot.eligibleWinnerPlayerIds).map (·.amount)).sum = 300 := by
  have hids : ([⟨"folded", 300, true, false⟩, ⟨"short", 100, false, true⟩,
      ⟨"deep", 200, false, true⟩].map PlayerContribution.playerId).Nodup := by decide
  obtain ⟨-, -, -, hexact⟩ := side_pots_exact hids (by decide)
  obtain ⟨-, -, highest, hgreatest, hwinnable⟩ :=
    hexact ⟨⟨"deep", 200, false, true⟩, by decide, ⟨rfl, rfl⟩, by decide⟩
  have hdeep : 200 ≤ highest :=
    hgreatest.2 ⟨⟨"deep", 200, false, true⟩, by decide, ⟨rfl, rfl⟩, rfl⟩
  exact (hwinnable ⟨"short", 100, false, true⟩ (by decide) ⟨rfl, rfl⟩).1 (by decide)
    (show (100 : Int) < highest by omega)

end PokerRoom
