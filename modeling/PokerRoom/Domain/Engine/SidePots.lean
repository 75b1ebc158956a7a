import PokerRoom.Domain.Models
import Mathlib.Data.List.Sort
import Mathlib.Data.List.Dedup
import Mathlib.Algebra.BigOperators.Group.List.Basic
import Mathlib.Tactic.Ring
import Mathlib.Algebra.Order.Ring.Int

/-!
# Side pots

`domain/engine/side_pots.py`: the commitments of a hand are cut into slices at every level at which
some player stopped committing; a slice nobody can win is merged into a neighbouring one.
-/

namespace PokerRoom

/-! ## Definitions -/

/-- What a player contributed to the hand. -/
structure PlayerContribution where
  /-- Identifier of the player. -/
  playerId : String
  /-- Chips committed in the whole hand. -/
  committedThisHand : Int
  /-- The player has folded. -/
  hasFolded : Bool
  /-- The player reached the showdown. -/
  reachedShowdown : Bool
deriving DecidableEq, Repr

/-- A computed pot. -/
structure Pot where
  /-- Index of the pot. -/
  potIndex : Int
  /-- Chips in the pot. -/
  amount : Int
  /-- Players who contributed to it. -/
  contributorPlayerIds : List String
  /-- Players who may win it. -/
  eligibleWinnerPlayerIds : List String
deriving DecidableEq, Repr

/-- A pot before it gets its index. -/
structure RawPot where
  /-- Chips in the pot. -/
  amount : Int
  /-- Players who contributed to it. -/
  contributors : List String
  /-- Players who may win it. -/
  eligible : List String
deriving DecidableEq, Repr

/-- The items without repetitions, each at its first occurrence. -/
def uniqueOrdered (items : List String) : List String :=
  items.foldl (fun out item => if item ∈ out then out else out ++ [item]) []

/-- The slice of the pot between two levels. -/
def slicePot (sortedPlayers : List PlayerContribution) (previousLevel currentLevel : Int) :
    RawPot :=
  let contributors := sortedPlayers.filter fun p => p.committedThisHand > previousLevel
  { amount := (currentLevel - previousLevel) * contributors.length
    contributors := contributors.map (·.playerId)
    eligible := (contributors.filter fun p => !p.hasFolded && p.reachedShowdown).map (·.playerId) }

/-- Cut a slice at the level of each player in turn, unless he adds nothing to the last one. -/
def rawPots (sortedPlayers : List PlayerContribution) :
    Int → List PlayerContribution → List RawPot
  | _, [] => []
  | previousLevel, player :: rest =>
    if player.committedThisHand ≤ previousLevel then rawPots sortedPlayers previousLevel rest
    else
      slicePot sortedPlayers previousLevel player.committedThisHand ::
        rawPots sortedPlayers player.committedThisHand rest

/-- Merge each pot nobody can win into the next one; what is left at the end is carried. -/
def carryDeadPots : List RawPot → Int → List String → List RawPot × Int × List String
  | [], carryAmount, carryContributors => ([], carryAmount, carryContributors)
  | pot :: rest, carryAmount, carryContributors =>
    let combinedAmount := pot.amount + carryAmount
    let combinedContributors := uniqueOrdered (carryContributors ++ pot.contributors)
    if pot.eligible ≠ [] then
      let (result, carry) := carryDeadPots rest 0 []
      ({ amount := combinedAmount
         contributors := combinedContributors
         eligible := pot.eligible } :: result, carry)
    else carryDeadPots rest combinedAmount combinedContributors

/-- Add what was carried to the last pot, or keep it as a pot of its own when there is none. -/
def mergeDeadPots (pots : List RawPot) : List RawPot :=
  let (result, carryAmount, carryContributors) := carryDeadPots pots 0 []
  if carryAmount > 0 then
    match result.getLast? with
    | some last =>
      result.dropLast ++
        [{ amount := last.amount + carryAmount
           contributors := uniqueOrdered (last.contributors ++ carryContributors)
           eligible := last.eligible }]
    | none => [{ amount := carryAmount, contributors := carryContributors, eligible := [] }]
  else result

/-- The side pots of a hand, indexed from `0`. -/
def calculateSidePots (players : List PlayerContribution) : List Pot :=
  let sortedPlayers := players.insertionSort fun p q => p.committedThisHand ≤ q.committedThisHand
  (mergeDeadPots (rawPots sortedPlayers 0 sortedPlayers)).mapIdx fun idx p =>
    { potIndex := idx
      amount := p.amount
      contributorPlayerIds := p.contributors
      eligibleWinnerPlayerIds := p.eligible }

/-! ## What the slices hold -/

/-- The player may win a pot he contributed to. -/
def PlayerContribution.Live (p : PlayerContribution) : Prop :=
  p.hasFolded = false ∧ p.reachedShowdown = true

/-- A pot that holds no negative amount and can only be won by live players. -/
structure RawPot.Sound (players : List PlayerContribution) (pot : RawPot) : Prop where
  /-- The amount is not negative. -/
  amount_nonneg : 0 ≤ pot.amount
  /-- Whoever may win it is a live player. -/
  eligible : ∀ id ∈ pot.eligible, ∃ p ∈ players, p.playerId = id ∧ p.Live

/-- Raising the level takes the same amount from every player above it. -/
lemma sum_above_level {l : List PlayerContribution} {previousLevel currentLevel : Int}
    (hlevel : previousLevel ≤ currentLevel) (hl : ∀ p ∈ l, currentLevel ≤ p.committedThisHand) :
    (l.map fun p => max 0 (p.committedThisHand - previousLevel)).sum =
      (l.map fun p => max 0 (p.committedThisHand - currentLevel)).sum +
        (currentLevel - previousLevel) * l.length := by
  have hmap : l.map (fun p => max 0 (p.committedThisHand - previousLevel)) =
      l.map fun p => max 0 (p.committedThisHand - currentLevel) +
        (currentLevel - previousLevel) :=
    List.map_congr_left fun p hp => by have := hl p hp; omega
  rw [hmap, List.sum_map_add, List.map_const', List.sum_replicate, nsmul_eq_mul, mul_comm]

/-- The slices above a level hold what the players have committed above it.  The players before the
remaining ones reach no further than the level. -/
lemma sum_rawPots (done rest : List PlayerContribution) (previousLevel : Int)
    (hsorted : (done ++ rest).Pairwise fun p q => p.committedThisHand ≤ q.committedThisHand)
    (hdone : ∀ p ∈ done, p.committedThisHand ≤ previousLevel) :
    ((rawPots (done ++ rest) previousLevel rest).map (·.amount)).sum =
      (rest.map fun p => max 0 (p.committedThisHand - previousLevel)).sum := by
  induction rest generalizing done previousLevel with
  | nil => rfl
  | cons player rest ih =>
    have hrest : ∀ p ∈ rest, player.committedThisHand ≤ p.committedThisHand :=
      (List.pairwise_cons.mp (List.pairwise_append.mp hsorted).2.1).1
    have hsplit : done ++ player :: rest = (done ++ [player]) ++ rest := by simp
    rw [rawPots, List.map_cons, List.sum_cons]
    split
    · next hle =>
      rw [hsplit, ih _ _ (hsplit ▸ hsorted) fun p hp => ?_]
      · omega
      · rcases List.mem_append.mp hp with hp | hp
        · exact hdone p hp
        · rw [List.mem_singleton.mp hp]; exact hle
    · next hgt =>
      have hcontributors : (done ++ player :: rest).filter
          (fun p => p.committedThisHand > previousLevel) = player :: rest := by
        rw [List.filter_append, List.filter_eq_nil_iff.mpr fun p hp => by
          simpa using hdone p hp, List.nil_append, List.filter_eq_self]
        intro p hp
        rw [decide_eq_true_eq]
        rcases List.mem_cons.mp hp with rfl | hp
        · omega
        · have := hrest p hp
          omega
      have hlevel : previousLevel ≤ player.committedThisHand := by omega
      rw [List.map_cons, List.sum_cons]
      rw [hsplit, ih _ _ (hsplit ▸ hsorted) fun p hp => ?_, ← hsplit]
      · simp only [slicePot, hcontributors, List.length_cons, sum_above_level hlevel hrest]
        rw [max_eq_right (by omega)]
        push_cast
        ring
      · rcases List.mem_append.mp hp with hp | hp
        · exact (hdone p hp).trans hlevel
        · rw [List.mem_singleton.mp hp]

/-- Every slice is sound. -/
lemma rawPots_sound (sortedPlayers rest : List PlayerContribution) (previousLevel : Int) :
    ∀ pot ∈ rawPots sortedPlayers previousLevel rest, pot.Sound sortedPlayers := by
  induction rest generalizing previousLevel with
  | nil => simp [rawPots]
  | cons player rest ih =>
    rw [rawPots]
    split
    · exact ih previousLevel
    · next hgt =>
      refine List.forall_mem_cons.mpr ⟨⟨?_, fun id hid => ?_⟩, ih _⟩
      · exact mul_nonneg (by omega) (Int.natCast_nonneg _)
      · obtain ⟨p, hp, rfl⟩ := List.mem_map.mp hid
        obtain ⟨hp, hlive⟩ := List.mem_filter.mp hp
        rw [Bool.and_eq_true, Bool.not_eq_true'] at hlive
        exact ⟨p, List.mem_of_mem_filter hp, rfl, hlive⟩

/-! ## Merging dead pots -/

/-- Carrying dead pots forward keeps the pots sound and loses no chip. -/
lemma carryDeadPots_spec {players : List PlayerContribution} (pots : List RawPot)
    (carryAmount : Int) (carryContributors : List String) (hcarry : 0 ≤ carryAmount)
    (hpots : ∀ pot ∈ pots, pot.Sound players) :
    (∀ pot ∈ (carryDeadPots pots carryAmount carryContributors).1, pot.Sound players) ∧
      0 ≤ (carryDeadPots pots carryAmount carryContributors).2.1 ∧
      ((carryDeadPots pots carryAmount carryContributors).1.map (·.amount)).sum +
          (carryDeadPots pots carryAmount carryContributors).2.1 =
        (pots.map (·.amount)).sum + carryAmount := by
  induction pots generalizing carryAmount carryContributors with
  | nil => exact ⟨by simp [carryDeadPots], hcarry, rfl⟩
  | cons pot rest ih =>
    obtain ⟨hpot, hrest⟩ := List.forall_mem_cons.mp hpots
    have hcombined : 0 ≤ pot.amount + carryAmount := add_nonneg hpot.amount_nonneg hcarry
    rw [carryDeadPots, List.map_cons, List.sum_cons]
    dsimp only
    split
    · obtain ⟨hsound, hnonneg, hsum⟩ := ih 0 [] le_rfl hrest
      refine ⟨List.forall_mem_cons.mpr ⟨⟨hcombined, hpot.eligible⟩, hsound⟩, hnonneg, ?_⟩
      rw [List.map_cons, List.sum_cons]
      dsimp only
      omega
    · obtain ⟨hsound, hnonneg, hsum⟩ := ih _ _ hcombined hrest
      exact ⟨hsound, hnonneg, by rw [hsum]; omega⟩

/-- Merging dead pots keeps the pots sound and loses no chip. -/
lemma mergeDeadPots_spec {players : List PlayerContribution} {pots : List RawPot}
    (hpots : ∀ pot ∈ pots, pot.Sound players) :
    (∀ pot ∈ mergeDeadPots pots, pot.Sound players) ∧
      ((mergeDeadPots pots).map (·.amount)).sum = (pots.map (·.amount)).sum := by
  obtain ⟨hsound, hnonneg, hsum⟩ := carryDeadPots_spec pots 0 [] le_rfl hpots
  unfold mergeDeadPots
  generalize carryDeadPots pots 0 [] = carried at hsound hnonneg hsum
  obtain ⟨result, carryAmount, carryContributors⟩ := carried
  dsimp only at hsound hnonneg hsum ⊢
  split
  · next hpos =>
    cases hlast : result.getLast? with
    | none =>
      rw [List.getLast?_eq_none_iff.mp hlast] at hsum
      refine ⟨?_, by simpa using hsum⟩
      rw [List.forall_mem_singleton]
      exact ⟨hnonneg, by simp⟩
    | some last =>
      obtain ⟨init, rfl⟩ := List.getLast?_eq_some_iff.mp hlast
      obtain ⟨hinit, hlastSound⟩ := List.forall_mem_append.mp hsound
      have hlastSound := hlastSound last List.mem_cons_self
      rw [List.dropLast_concat]
      constructor
      · rw [List.forall_mem_append, List.forall_mem_singleton]
        exact ⟨hinit, add_nonneg hlastSound.amount_nonneg hnonneg, hlastSound.eligible⟩
      · simp only [List.map_append, List.map_cons, List.map_nil, List.sum_append, List.sum_cons,
          List.sum_nil] at hsum ⊢
        omega
  · next hzero => exact ⟨hsound, by omega⟩

/-! ## The side pots -/

/-- The side pots are numbered from `0`. -/
lemma calculateSidePots_indices (players : List PlayerContribution) :
    (calculateSidePots players).map (·.potIndex) =
      (List.range (calculateSidePots players).length).map fun i : ℕ => (i : Int) := by
  refine List.ext_getElem (by simp) fun i _ _ => ?_
  simp [calculateSidePots]

/-- No two side pots have one index. -/
lemma calculateSidePots_potIndex (players : List PlayerContribution) :
    ((calculateSidePots players).map (·.potIndex)).Nodup := by
  rw [calculateSidePots_indices]
  exact List.nodup_range.map fun i j h => Int.ofNat_inj.mp h

/-- No side pot holds a negative amount, and only live players may win one. -/
lemma calculateSidePots_sound {players : List PlayerContribution} {pot : Pot}
    (hpot : pot ∈ calculateSidePots players) :
    0 ≤ pot.amount ∧
      ∀ id ∈ pot.eligibleWinnerPlayerIds, ∃ p ∈ players, p.playerId = id ∧ p.Live := by
  obtain ⟨i, hi, rfl⟩ := List.mem_mapIdx.mp hpot
  have hsound := (mergeDeadPots_spec (rawPots_sound _ _ _)).1 _ (List.getElem_mem hi)
  refine ⟨hsound.amount_nonneg, fun id hid => ?_⟩
  obtain ⟨p, hp, hlive⟩ := hsound.eligible id hid
  exact ⟨p, (List.perm_insertionSort _ _).mem_iff.mp hp, hlive⟩

/-- The side pots hold what was committed. -/
theorem sum_calculateSidePots (players : List PlayerContribution) :
    ((calculateSidePots players).map (·.amount)).sum =
      (players.map fun p => max 0 p.committedThisHand).sum := by
  set sorted := players.insertionSort fun p q => p.committedThisHand ≤ q.committedThisHand
    with hsorted
  have hpairwise : sorted.Pairwise fun p q => p.committedThisHand ≤ q.committedThisHand :=
    @List.pairwise_insertionSort _ (fun p q : PlayerContribution =>
      p.committedThisHand ≤ q.committedThisHand) _ ⟨fun _ _ => le_total _ _⟩
      ⟨fun _ _ _ => le_trans⟩ players
  have hamounts : (calculateSidePots players).map (·.amount) =
      (mergeDeadPots (rawPots sorted 0 sorted)).map (·.amount) := by
    refine List.ext_getElem (by simp [calculateSidePots, hsorted]) fun i _ _ => ?_
    simp [calculateSidePots, hsorted]
  have hraw := sum_rawPots [] sorted 0 hpairwise (by simp)
  rw [hamounts, (mergeDeadPots_spec (rawPots_sound _ _ _)).2]
  rw [List.nil_append] at hraw
  simp only [hraw, sub_zero]
  exact ((List.perm_insertionSort _ _).map _).sum_eq

end PokerRoom
