import PokerRoom.Domain.Engine.SidePots
import Mathlib.Data.List.Induction

/-!
# Explaining a settlement

`domain/reporting/settlement_explainer.py`: the side pots of a hand are computed once more, with the
winners submitted for each of them and the reason why a contributor may not win it.

`explainSettlement_pots` says which pots are explained, `contributors_partition` that each
contributor of a pot is either eligible for it or given a reason.
-/

namespace PokerRoom

/-! ## Definitions -/

/-- A winner of a pot. -/
structure WinnerDetail where
  /-- The winner. -/
  playerId : String
  /-- The chips awarded. -/
  amount : Int
deriving DecidableEq, Repr

/-- The winners submitted for a pot. -/
structure SubmittedPot where
  /-- Index of the pot. -/
  potIndex : Int
  /-- The winners. -/
  winners : List WinnerDetail := []
deriving DecidableEq, Repr

/-- What is explained of a pot. -/
structure PotExplanation where
  /-- Index of the pot. -/
  potIndex : Int
  /-- What the pot is called. -/
  potLabel : String
  /-- Chips in the pot. -/
  amount : Int
  /-- Players who contributed to it. -/
  contributorPlayerIds : List String
  /-- Players who may win it. -/
  eligiblePlayerIds : List String
  /-- Why the other contributors may not win it. -/
  ineligibleReasons : List (String × String)
  /-- Its winners. -/
  winners : List WinnerDetail
  /-- Chips awarded. -/
  awardedTotal : Int
  /-- Chips left. -/
  unclaimed : Int
deriving DecidableEq, Repr

/-- The explanation of a settlement. -/
structure SettlementExplanation where
  /-- Chips in the pots. -/
  totalPot : Int := 0
  /-- Chips awarded. -/
  totalAwarded : Int := 0
  /-- Chips left. -/
  totalUnclaimed : Int := 0
  /-- The pots. -/
  pots : List PotExplanation := []
  /-- The explanation in words. -/
  narrative : List String := []
deriving DecidableEq, Repr

/-- What a pot is called. -/
def potLabel (potIndex : Int) : String :=
  if potIndex = 0 then "Main Pot" else "Side Pot " ++ toString potIndex

/-- Why a contributor may not win a pot.  Of several contributions of one player the last counts. -/
def ineligibleReason (contributions : List PlayerContribution) (cid : String) : String :=
  match contributions.reverse.find? fun c => c.playerId = cid with
  | some pc =>
    if pc.hasFolded then "folded"
    else if !pc.reachedShowdown then "did not reach showdown"
    else "ineligible"
  | none => "ineligible"

/-- The winners submitted for a pot.  Of several submissions for one pot the last counts. -/
def potWinners (submittedPayouts : List SubmittedPot) (potIndex : Int) : List WinnerDetail :=
  match submittedPayouts.reverse.find? fun sp => sp.potIndex = potIndex with
  | some sp => sp.winners
  | none => []

/-- Explain a pot. -/
def explainPot (contributions : List PlayerContribution) (submittedPayouts : List SubmittedPot)
    (pot : Pot) : PotExplanation :=
  let ineligible := pot.contributorPlayerIds.filter fun cid => cid ∉ pot.eligibleWinnerPlayerIds
  let winners := potWinners submittedPayouts pot.potIndex
  let awarded := (winners.map (·.amount)).sum
  { potIndex := pot.potIndex
    potLabel := potLabel pot.potIndex
    amount := pot.amount
    contributorPlayerIds := pot.contributorPlayerIds
    eligiblePlayerIds := pot.eligibleWinnerPlayerIds
    ineligibleReasons := (uniqueOrdered ineligible).map fun cid =>
      (cid, ineligibleReason contributions cid)
    winners := winners
    awardedTotal := awarded
    unclaimed := pot.amount - awarded }

/-- The lines about one pot. -/
def potNarrative (potExp : PotExplanation) : List String :=
  [potExp.potLabel ++ ": " ++ toString potExp.amount ++ " chips from " ++
    toString potExp.contributorPlayerIds.length ++ " contributors."] ++
  (if potExp.eligiblePlayerIds ≠ [] then
    ["  Eligible: " ++ String.intercalate ", " potExp.eligiblePlayerIds ++ "."]
  else []) ++
  (potExp.ineligibleReasons.map fun reason => "  " ++ reason.1 ++ " ineligible (" ++
    reason.2 ++ ").") ++
  (if potExp.winners ≠ [] then
    potExp.winners.map fun w => "  -> " ++ w.playerId ++ " wins " ++ toString w.amount ++ " chips."
  else if potExp.eligiblePlayerIds ≠ [] then ["  No winners submitted yet."]
  else ["  No eligible winners - dead pot."]) ++
  (if potExp.unclaimed > 0 ∧ potExp.winners ≠ [] then
    ["  Unclaimed remainder: " ++ toString potExp.unclaimed ++ " chips."]
  else [])

/-- Put an explanation in words. -/
def buildNarrative (explanation : SettlementExplanation) : List String :=
  ["Total pot: " ++ toString explanation.totalPot ++ " chips."] ++
  (if explanation.pots.length = 1 then ["Single pot (no side pots)."]
  else [toString explanation.pots.length ++ " pots (1 main + " ++
    toString ((explanation.pots.length : Int) - 1) ++ " side)."]) ++
  explanation.pots.flatMap potNarrative ++
  (if explanation.totalUnclaimed > 0 ∧ explanation.totalAwarded > 0 then
    ["Total unclaimed: " ++ toString explanation.totalUnclaimed ++ " chips."]
  else [])

/-- Explain the settlement of a hand. -/
def explainSettlement (contributions : List PlayerContribution)
    (submittedPayouts : Option (List SubmittedPot)) : SettlementExplanation :=
  let pots := (calculateSidePots contributions).map
    (explainPot contributions (submittedPayouts.getD []))
  let totalPot := (pots.map (·.amount)).sum
  let totalAwarded := (pots.map (·.awardedTotal)).sum
  let result : SettlementExplanation :=
    { totalPot := totalPot
      totalAwarded := totalAwarded
      totalUnclaimed := totalPot - totalAwarded
      pots := pots }
  { result with narrative := buildNarrative result }

/-! ## Which pots are explained -/

/-- The pot that is explained. -/
def PotExplanation.pot (potExp : PotExplanation) : Pot :=
  { potIndex := potExp.potIndex
    amount := potExp.amount
    contributorPlayerIds := potExp.contributorPlayerIds
    eligibleWinnerPlayerIds := potExp.eligiblePlayerIds }

/-- Each contributor of the pot is either eligible for it or given a reason, and only once. -/
def PotExplanation.Partitions (potExp : PotExplanation) : Prop :=
  potExp.contributorPlayerIds.Nodup ∧
    (potExp.eligiblePlayerIds ++ potExp.ineligibleReasons.map (·.1)).Perm
      potExp.contributorPlayerIds

variable {contributions : List PlayerContribution} {submittedPayouts : Option (List SubmittedPot)}
  {submitted : List SubmittedPot} {items carryContributors : List String} {pots : List RawPot}

/-- The side pots are explained. -/
lemma explainSettlement_pots (contributions : List PlayerContribution)
    (submittedPayouts : Option (List SubmittedPot)) :
    (explainSettlement contributions submittedPayouts).pots.map (·.pot) =
      calculateSidePots contributions := by
  simp only [explainSettlement, List.map_map]
  exact List.map_id _

/-- What is left of the pots is left of the settlement. -/
lemma explainSettlement_totalUnclaimed (contributions : List PlayerContribution)
    (submittedPayouts : Option (List SubmittedPot)) :
    (explainSettlement contributions submittedPayouts).totalUnclaimed =
      ((explainSettlement contributions submittedPayouts).pots.map (·.unclaimed)).sum := by
  simp only [explainSettlement, List.map_map]
  induction calculateSidePots contributions with
  | nil => rfl
  | cons pot pots ih =>
    simp only [List.map_cons, List.sum_cons, Function.comp_apply, explainPot] at ih ⊢
    omega

/-! ## Contributors -/

/-- Removing repetitions keeps the items, each once. -/
lemma uniqueOrdered_spec (items : List String) :
    (uniqueOrdered items).Nodup ∧ ∀ item, item ∈ uniqueOrdered items ↔ item ∈ items := by
  induction items using List.reverseRecOn with
  | nil => simp [uniqueOrdered]
  | append_singleton items last ih =>
    obtain ⟨hnd, hmem⟩ := ih
    have hconcat : uniqueOrdered (items ++ [last]) =
        if last ∈ uniqueOrdered items then uniqueOrdered items
        else uniqueOrdered items ++ [last] := by
      rw [uniqueOrdered, List.foldl_concat]
      rfl
    rw [hconcat]
    split
    · next hin =>
      refine ⟨hnd, fun item => ?_⟩
      rw [hmem, List.mem_append, List.mem_singleton]
      refine ⟨Or.inl, fun h => h.elim id ?_⟩
      rintro rfl
      exact (hmem item).mp hin
    · next hout =>
      refine ⟨?_, fun item => ?_⟩
      · rw [List.nodup_append']
        refine ⟨hnd, List.nodup_singleton _, ?_⟩
        rwa [List.disjoint_singleton]
      · rw [List.mem_append, List.mem_append, hmem]

/-- Those who may win a pot have contributed to it, and nobody is listed twice. -/
structure RawPot.Contributed (pot : RawPot) : Prop where
  /-- No contributor is listed twice. -/
  contributors : pot.contributors.Nodup
  /-- Nobody eligible is listed twice. -/
  nodup : pot.eligible.Nodup
  /-- The eligible ones have contributed. -/
  eligible : pot.eligible ⊆ pot.contributors

/-- A pot with further contributors. -/
lemma RawPot.Contributed.unique {pot : RawPot} (h : pot.Contributed) (amount : Int)
    (hitems : pot.contributors ⊆ items) :
    RawPot.Contributed
      { amount := amount, contributors := uniqueOrdered items, eligible := pot.eligible } := by
  obtain ⟨hnd, hmem⟩ := uniqueOrdered_spec items
  exact ⟨hnd, h.nodup, fun id hid => (hmem id).mpr (hitems (h.eligible hid))⟩

/-- The contributors of a slice. -/
lemma rawPots_contributed {sortedPlayers : List PlayerContribution}
    (hids : (sortedPlayers.map (·.playerId)).Nodup) (previousLevel : Int)
    (rest : List PlayerContribution) :
    ∀ pot ∈ rawPots sortedPlayers previousLevel rest, pot.Contributed := by
  have hslice (lo hi : Int) : (slicePot sortedPlayers lo hi).Contributed :=
    ⟨hids.sublist (List.filter_sublist.map _),
      hids.sublist ((List.filter_sublist.trans List.filter_sublist).map _),
      List.map_subset _ List.filter_sublist.subset⟩
  induction rest generalizing previousLevel with
  | nil => simp [rawPots]
  | cons player rest ih =>
    rw [rawPots]
    split
    · exact ih previousLevel
    · exact List.forall_mem_cons.mpr ⟨hslice _ _, ih _⟩

/-- The contributors of the pots that dead pots are carried into, and of what is left at the end. -/
lemma carryDeadPots_contributed (hpots : ∀ pot ∈ pots, pot.Contributed) (carryAmount : Int)
    (hcarry : carryContributors.Nodup) :
    (∀ pot ∈ (carryDeadPots pots carryAmount carryContributors).1, pot.Contributed) ∧
      (carryDeadPots pots carryAmount carryContributors).2.2.Nodup := by
  induction pots generalizing carryAmount carryContributors with
  | nil => exact ⟨by simp [carryDeadPots], hcarry⟩
  | cons pot pots ih =>
    obtain ⟨hpot, hpots⟩ := List.forall_mem_cons.mp hpots
    rw [carryDeadPots]
    dsimp only
    split
    · obtain ⟨hresult, hlast⟩ := ih hpots 0 List.nodup_nil
      exact ⟨List.forall_mem_cons.mpr ⟨hpot.unique _ (List.subset_append_right _ _),
        hresult⟩, hlast⟩
    · exact ih hpots _ (uniqueOrdered_spec _).1

/-- The contributors of merged pots. -/
lemma mergeDeadPots_contributed (hpots : ∀ pot ∈ pots, pot.Contributed) :
    ∀ pot ∈ mergeDeadPots pots, pot.Contributed := by
  obtain ⟨hresult, hcarry⟩ := carryDeadPots_contributed hpots 0 List.nodup_nil
  unfold mergeDeadPots
  generalize carryDeadPots pots 0 [] = carried at hresult hcarry
  obtain ⟨result, carryAmount, carryContributors⟩ := carried
  dsimp only at hresult hcarry ⊢
  split
  · cases hlast : result.getLast? with
    | none =>
      rw [List.forall_mem_singleton]
      exact ⟨hcarry, List.nodup_nil, List.nil_subset _⟩
    | some last =>
      obtain ⟨init, rfl⟩ := List.getLast?_eq_some_iff.mp hlast
      obtain ⟨hinit, hfinal⟩ := List.forall_mem_append.mp hresult
      rw [List.dropLast_concat, List.forall_mem_append, List.forall_mem_singleton]
      exact ⟨hinit, (hfinal last List.mem_cons_self).unique _ (List.subset_append_left _ _)⟩
  · exact hresult

/-- Those who may win a side pot have contributed to it, and nobody is listed twice. -/
lemma calculateSidePots_contributed (hids : (contributions.map (·.playerId)).Nodup) {pot : Pot}
    (hpot : pot ∈ calculateSidePots contributions) :
    pot.contributorPlayerIds.Nodup ∧ pot.eligibleWinnerPlayerIds.Nodup ∧
      pot.eligibleWinnerPlayerIds ⊆ pot.contributorPlayerIds := by
  obtain ⟨i, hi, rfl⟩ := List.mem_mapIdx.mp hpot
  have hsorted := ((List.perm_insertionSort (fun p q : PlayerContribution =>
    p.committedThisHand ≤ q.committedThisHand) contributions).map (·.playerId)).nodup_iff.mpr hids
  obtain ⟨hcontributors, hnodup, heligible⟩ :=
    mergeDeadPots_contributed (rawPots_contributed hsorted 0 _) _ (List.getElem_mem hi)
  exact ⟨hcontributors, hnodup, heligible⟩

/-- **Who contributed to a pot.** Each contributor of an explained pot is either eligible for it or
given a reason. -/
theorem contributors_partition (hids : (contributions.map (·.playerId)).Nodup)
    {potExp : PotExplanation}
    (hpot : potExp ∈ (explainSettlement contributions submittedPayouts).pots) :
    potExp.Partitions := by
  obtain ⟨pot, hside, rfl⟩ := List.mem_map.mp hpot
  obtain ⟨hcontributors, hnodup, heligible⟩ := calculateSidePots_contributed hids hside
  refine ⟨hcontributors, ?_⟩
  set ineligible := pot.contributorPlayerIds.filter fun cid => cid ∉ pot.eligibleWinnerPlayerIds
  obtain ⟨hunique, hmem⟩ := uniqueOrdered_spec ineligible
  have hkeys :
      (explainPot contributions (submittedPayouts.getD []) pot).ineligibleReasons.map (·.1) =
        uniqueOrdered ineligible := by
    simp only [explainPot, List.map_map, Function.comp_def, List.map_id']
    rfl
  rw [hkeys]
  refine (List.perm_ext_iff_of_nodup ?_ hcontributors).mpr fun cid => ?_
  · refine List.nodup_append'.mpr ⟨hnodup, hunique, fun cid hin hout => ?_⟩
    have := (List.mem_filter.mp ((hmem cid).mp hout)).2
    simp only [decide_eq_true_eq] at this
    exact this hin
  · rw [List.mem_append, hmem, List.mem_filter, decide_eq_true_eq]
    by_cases hin : cid ∈ pot.eligibleWinnerPlayerIds
    · exact iff_of_true (Or.inl hin) (heligible hin)
    · simp only [explainPot]
      rw [or_iff_right hin, and_iff_left hin]

end PokerRoom
