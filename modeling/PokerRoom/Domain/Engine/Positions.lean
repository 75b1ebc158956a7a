import PokerRoom.Foundation.Clockwise
import Mathlib.Data.List.Basic
import Mathlib.Data.List.Nodup
import Mathlib.Data.Nat.ModEq

/-!
# Positions at the table

`domain/engine/positions.py`: the seats of the button and of the blinds, as the first dealer is
chosen and as the button moves on.  Heads-up the button posts the small blind.

The button goes back to the first seat of the list when its player has left, wherever he sat;
`rotatePositions_clockwise_iff` says when that is the next seat clockwise.
-/

namespace PokerRoom

open Foundation

/-- The seats of the button and of the blinds. -/
structure Positions where
  /-- Seat of the button. -/
  dealerSeat : Int
  /-- Seat that posts the small blind. -/
  smallBlindSeat : Int
  /-- Seat that posts the big blind. -/
  bigBlindSeat : Int
deriving DecidableEq, Repr

/-- The positions around the button at an index of the list of seats; there are none at an empty
table. -/
def positionsAt (activeSeats : List Int) (dealerIdx : ℕ) : Option Positions :=
  let seat (steps : ℕ) : Option Int := activeSeats[(dealerIdx + steps) % activeSeats.length]?
  let (sbSteps, bbSteps) := if activeSeats.length = 2 then (0, 1) else (1, 2)
  match activeSeats[dealerIdx]?, seat sbSteps, seat bbSteps with
  | some dealer, some smallBlind, some bigBlind => some ⟨dealer, smallBlind, bigBlind⟩
  | _, _, _ => none

/-- The positions of the first hand: the button is on the starting seat if somebody sits there, and
otherwise on the first seat. -/
def assignPositions (activeSeats : List Int) (startingDealer : Int) : Option Positions :=
  positionsAt activeSeats
    (if startingDealer ∈ activeSeats then activeSeats.idxOf startingDealer else 0)

/-- The positions of the next hand: the button moves to the seat after the current one in the list,
or to the first seat when nobody sits on the current one. -/
def rotatePositions (activeSeats : List Int) (currentDealer : Int) : Option Positions :=
  positionsAt activeSeats
    (if currentDealer ∈ activeSeats then
      (activeSeats.idxOf currentDealer + 1) % activeSeats.length
    else 0)

/-- At a table with players there always are positions. -/
lemma positionsAt_isSome {activeSeats : List Int} {dealerIdx : ℕ}
    (h : dealerIdx < activeSeats.length) : (positionsAt activeSeats dealerIdx).isSome := by
  have hseat : ∀ steps, (dealerIdx + steps) % activeSeats.length < activeSeats.length :=
    fun steps => Nat.mod_lt _ (Nat.zero_lt_of_lt h)
  have hsome : ∀ steps, ∃ seat,
      activeSeats[(dealerIdx + steps) % activeSeats.length]? = some seat :=
    fun steps => ⟨_, List.getElem?_eq_getElem (hseat steps)⟩
  unfold positionsAt
  split_ifs
  · obtain ⟨sb, hsb⟩ := hsome 0
    obtain ⟨bb, hbb⟩ := hsome 1
    simp only [hsb, hbb, List.getElem?_eq_getElem h, Option.isSome_some]
  · obtain ⟨sb, hsb⟩ := hsome 1
    obtain ⟨bb, hbb⟩ := hsome 2
    simp only [hsb, hbb, List.getElem?_eq_getElem h, Option.isSome_some]

/-- The button can always be placed and moved at a table with players. -/
theorem positions_isSome {activeSeats : List Int} (h : activeSeats ≠ []) (dealer : Int) :
    (assignPositions activeSeats dealer).isSome ∧ (rotatePositions activeSeats dealer).isSome := by
  have hlen : 0 < activeSeats.length := List.length_pos_iff.mpr h
  constructor
  · apply positionsAt_isSome
    split
    · next hmem => exact List.idxOf_lt_length_of_mem hmem
    · exact hlen
  · apply positionsAt_isSome
    split
    · exact Nat.mod_lt _ hlen
    · exact hlen

/-- The positions at a table of at least two players: the button and the blinds are on seats of the
table, the blinds on different ones, and the button posts the small blind exactly heads-up. -/
structure Positions.Among (positions : Positions) (activeSeats : List Int) : Prop where
  /-- There are two players. -/
  two_le : 2 ≤ activeSeats.length
  /-- The button. -/
  dealer : positions.dealerSeat ∈ activeSeats
  /-- The small blind. -/
  smallBlind : positions.smallBlindSeat ∈ activeSeats
  /-- The big blind. -/
  bigBlind : positions.bigBlindSeat ∈ activeSeats
  /-- The blinds are posted by two players. -/
  blinds_ne : positions.smallBlindSeat ≠ positions.bigBlindSeat
  /-- The button posts the small blind heads-up. -/
  headsUp : positions.dealerSeat = positions.smallBlindSeat ↔ activeSeats.length = 2

/-- Whether positions are taken up does not depend on the order of the seats. -/
lemma Positions.Among.of_perm {positions : Positions} {seats seats' : List Int}
    (h : positions.Among seats) (hperm : seats.Perm seats') : positions.Among seats' :=
  ⟨hperm.length_eq ▸ h.two_le, hperm.mem_iff.mp h.dealer, hperm.mem_iff.mp h.smallBlind,
    hperm.mem_iff.mp h.bigBlind, h.blinds_ne, hperm.length_eq ▸ h.headsUp⟩

/-- Going less than once around the table one comes to a seat at most once. -/
lemma seat_eq_iff {activeSeats : List Int} (hnd : activeSeats.Nodup) {dealerIdx i j : ℕ} {x y : Int}
    (hi : i < activeSeats.length) (hj : j < activeSeats.length)
    (hx : activeSeats[(dealerIdx + i) % activeSeats.length]? = some x)
    (hy : activeSeats[(dealerIdx + j) % activeSeats.length]? = some y) : x = y ↔ i = j := by
  constructor
  · rintro rfl
    have hlt : (dealerIdx + i) % activeSeats.length < activeSeats.length :=
      Nat.mod_lt _ (Nat.zero_lt_of_lt hi)
    have hidx : dealerIdx + i ≡ dealerIdx + j [MOD activeSeats.length] :=
      (List.getElem?_inj hlt hnd).mp (hx.trans hy.symm)
    exact (Nat.ModEq.add_left_cancel' dealerIdx hidx).eq_of_lt_of_lt hi hj
  · rintro rfl
    exact Option.some.inj (hx.symm.trans hy)

/-- The positions around a button at a table of at least two players. -/
lemma positionsAt_among {activeSeats : List Int} (hnd : activeSeats.Nodup)
    (htwo : 2 ≤ activeSeats.length) {dealerIdx : ℕ} {positions : Positions}
    (h : positionsAt activeSeats dealerIdx = some positions) : positions.Among activeSeats := by
  unfold positionsAt at h
  dsimp only at h
  split at h
  · next dealer smallBlind bigBlind hdealer hsmall hbig =>
    obtain rfl := Option.some.inj h
    have hidx : dealerIdx < activeSeats.length := (List.getElem?_eq_some_iff.mp hdealer).1
    have hbutton : activeSeats[(dealerIdx + 0) % activeSeats.length]? = some dealer := by
      rw [add_zero, Nat.mod_eq_of_lt hidx, hdealer]
    have hsplit : smallBlind ≠ bigBlind ∧ (dealer = smallBlind ↔ activeSeats.length = 2) := by
      by_cases hn : activeSeats.length = 2
      · rw [if_pos hn] at hsmall hbig
        have hblinds := seat_eq_iff hnd (by omega) (by omega) hsmall hbig
        have hheads := seat_eq_iff hnd (by omega) (by omega) hbutton hsmall
        exact ⟨fun heq => absurd (hblinds.mp heq) (by decide), iff_of_true (hheads.mpr rfl) hn⟩
      · rw [if_neg hn] at hsmall hbig
        have hblinds := seat_eq_iff hnd (by omega) (by omega) hsmall hbig
        have hheads := seat_eq_iff hnd (by omega) (by omega) hbutton hsmall
        exact ⟨fun heq => absurd (hblinds.mp heq) (by decide),
          iff_of_false (fun heq => absurd (hheads.mp heq) (by decide)) hn⟩
    exact ⟨htwo, List.mem_of_getElem? hdealer, List.mem_of_getElem? hsmall,
      List.mem_of_getElem? hbig, hsplit.1, hsplit.2⟩
  · cases h

/-! ## Going clockwise -/

/-- The positions have moved on clockwise from a seat: the button is on the next seat of the table,
the small blind on the one after it and the big blind on the one after that; heads-up the button
posts the small blind. -/
structure Positions.Clockwise (positions : Positions) (activeSeats : List Int)
    (cur : Int) : Prop where
  /-- The button. -/
  dealer : IsNext activeSeats cur positions.dealerSeat
  /-- The small blind. -/
  smallBlind : if activeSeats.length = 2 then positions.smallBlindSeat = positions.dealerSeat
    else IsNext activeSeats positions.dealerSeat positions.smallBlindSeat
  /-- The big blind. -/
  bigBlind : IsNext activeSeats positions.smallBlindSeat positions.bigBlindSeat

instance (positions : Positions) (activeSeats : List Int) (cur : Int) :
    Decidable (positions.Clockwise activeSeats cur) :=
  decidable_of_iff (_ ∧ _ ∧ _) ⟨fun ⟨hd, hs, hb⟩ => ⟨hd, hs, hb⟩, fun ⟨hd, hs, hb⟩ => ⟨hd, hs, hb⟩⟩

variable {activeSeats : List Int} {dealerIdx : ℕ} {positions : Positions}

/-- The button of the positions at an index. -/
lemma positionsAt_dealer (h : positionsAt activeSeats dealerIdx = some positions) :
    activeSeats[dealerIdx]? = some positions.dealerSeat := by
  unfold positionsAt at h
  dsimp only at h
  split at h
  · next dealer smallBlind bigBlind hdealer hsmall hbig =>
    obtain rfl := Option.some.inj h
    exact hdealer
  · cases h

/-- The first button is on the starting seat when somebody sits there. -/
lemma assignPositions_dealer {startingDealer : Int} (hdealer : startingDealer ∈ activeSeats)
    (h : assignPositions activeSeats startingDealer = some positions) :
    positions.dealerSeat = startingDealer := by
  unfold assignPositions at h
  rw [if_pos hdealer] at h
  have hseat := positionsAt_dealer h
  have hidx : activeSeats.idxOf startingDealer < activeSeats.length :=
    List.idxOf_lt_length_of_mem hdealer
  rw [List.getElem?_eq_getElem hidx, List.getElem_idxOf hidx] at hseat
  exact (Option.some.inj hseat).symm

/-- In an ascending list the seat one step further is the next one. -/
lemma isNext_seat (hasc : activeSeats.Pairwise (· < ·)) {i : ℕ} {x y : Int}
    (hx : activeSeats[i % activeSeats.length]? = some x)
    (hy : activeSeats[(i + 1) % activeSeats.length]? = some y) : IsNext activeSeats x y := by
  obtain ⟨hi, rfl⟩ := List.getElem?_eq_some_iff.mp hx
  obtain ⟨hj, rfl⟩ := List.getElem?_eq_some_iff.mp hy
  have hnext := isNext_getElem hasc hi
  simpa only [List.get_eq_getElem, Nat.mod_add_mod] using hnext

/-- The blinds follow the button clockwise. -/
lemma positionsAt_blinds (hasc : activeSeats.Pairwise (· < ·))
    (h : positionsAt activeSeats dealerIdx = some positions) :
    (if activeSeats.length = 2 then positions.smallBlindSeat = positions.dealerSeat
      else IsNext activeSeats positions.dealerSeat positions.smallBlindSeat) ∧
    IsNext activeSeats positions.smallBlindSeat positions.bigBlindSeat := by
  have hdealer := positionsAt_dealer h
  have hlt := (List.getElem?_eq_some_iff.mp hdealer).1
  have hbutton : activeSeats[(dealerIdx + 0) % activeSeats.length]? =
      some positions.dealerSeat := by
    rw [add_zero, Nat.mod_eq_of_lt hlt, hdealer]
  unfold positionsAt at h
  dsimp only at h
  split at h
  · next dealer smallBlind bigBlind _ hsmall hbig =>
    obtain rfl := Option.some.inj h
    by_cases hn : activeSeats.length = 2
    · rw [if_pos hn] at hsmall hbig ⊢
      exact ⟨Option.some.inj (hsmall.symm.trans hbutton), isNext_seat hasc hsmall hbig⟩
    · rw [if_neg hn] at hsmall hbig ⊢
      exact ⟨isNext_seat hasc hbutton hsmall, isNext_seat hasc hsmall hbig⟩
  · cases h

/-- **The button moves clockwise, exactly when.** At a table of at least two players, listed by
seat, the positions move on clockwise from the current dealer seat exactly when somebody sits on it,
or everybody sits above it, or everybody below it. -/
theorem rotatePositions_clockwise_iff (activeSeats : List Int) (hasc : activeSeats.Pairwise (· < ·))
    (htwo : 2 ≤ activeSeats.length) (cur : Int) :
    (∃ positions ∈ rotatePositions activeSeats cur, positions.Clockwise activeSeats cur) ↔
      cur ∈ activeSeats ∨ (∀ seat ∈ activeSeats, cur < seat) ∨
        ∀ seat ∈ activeSeats, seat < cur := by
  have hlen : 0 < activeSeats.length := by omega
  obtain ⟨positions, hrotate⟩ := Option.isSome_iff_exists.mp
    (positions_isSome (List.ne_nil_of_length_pos hlen) cur).2
  have hclockwise : (∃ positions ∈ rotatePositions activeSeats cur,
      positions.Clockwise activeSeats cur) ↔ IsNext activeSeats cur positions.dealerSeat := by
    rw [hrotate]
    constructor
    · rintro ⟨_, hmem, hmoved⟩
      obtain rfl := Option.some.inj hmem
      exact hmoved.dealer
    · intro hnext
      obtain ⟨hsmall, hbig⟩ := positionsAt_blinds hasc hrotate
      exact ⟨positions, rfl, hnext, hsmall, hbig⟩
  rw [hclockwise]
  have hdealer := positionsAt_dealer hrotate
  by_cases hcur : cur ∈ activeSeats
  · rw [if_pos hcur] at hdealer
    have hidx := List.idxOf_lt_length_of_mem hcur
    have hseat : activeSeats[activeSeats.idxOf cur % activeSeats.length]? = some cur := by
      rw [Nat.mod_eq_of_lt hidx, List.getElem?_eq_getElem hidx, List.getElem_idxOf]
    exact iff_of_true (isNext_seat hasc hseat hdealer) (Or.inl hcur)
  · rw [if_neg hcur] at hdealer
    obtain ⟨_, hfirst⟩ := List.getElem?_eq_some_iff.mp hdealer
    rw [← hfirst, isNext_head_iff hasc hlen hcur]
    exact (or_iff_right hcur).symm

/-- When the player on the third of four seats has the button it moves to the fourth. -/
theorem rotatePositions_clockwise_iff_four :
    ∃ positions ∈ rotatePositions [1, 3, 5, 7] 5, positions.Clockwise [1, 3, 5, 7] 5 :=
  (rotatePositions_clockwise_iff [1, 3, 5, 7] (by decide) (by decide) 5).mpr
    (by decide)

/-- When the player on the middle one of three seats has left, the button goes back to the first. -/
theorem rotatePositions_back :
    ¬ ∀ activeSeats : List Int, activeSeats.Pairwise (· < ·) → 2 ≤ activeSeats.length →
      ∀ cur, ∃ positions ∈ rotatePositions activeSeats cur,
        positions.Clockwise activeSeats cur := by
  intro h
  obtain ⟨positions, hmem, hmoved⟩ := h [1, 5] (by decide) (by decide) 3
  obtain rfl : (⟨1, 1, 5⟩ : Positions) = positions := Option.some.inj hmem
  exact absurd hmoved.dealer (by decide)

/-! ## Several moves -/

/-- The positions after the button has moved on the given number of times. -/
def rotations (activeSeats : List Int) (positions : Positions) : ℕ → Option Positions
  | 0 => some positions
  | k + 1 => (rotations activeSeats positions k).bind fun moved =>
    rotatePositions activeSeats moved.dealerSeat

/-- From the positions at an index the button moves to the index after it. -/
lemma rotatePositions_positionsAt (hnd : activeSeats.Nodup)
    (h : positionsAt activeSeats dealerIdx = some positions) :
    rotatePositions activeSeats positions.dealerSeat =
      positionsAt activeSeats ((dealerIdx + 1) % activeSeats.length) := by
  obtain ⟨hidx, hdealer⟩ := List.getElem?_eq_some_iff.mp (positionsAt_dealer h)
  rw [← hdealer, rotatePositions, if_pos (List.getElem_mem hidx), hnd.idxOf_getElem]

/-- Different indices have different positions. -/
lemma positionsAt_inj (hnd : activeSeats.Nodup) {i j : ℕ} (hi : i < activeSeats.length) :
    positionsAt activeSeats i = positionsAt activeSeats j ↔ i = j := by
  refine ⟨fun h => ?_, fun h => by rw [h]⟩
  obtain ⟨positions, hpositions⟩ := Option.isSome_iff_exists.mp (positionsAt_isSome hi)
  have hdealer := positionsAt_dealer hpositions
  have hdealer' := positionsAt_dealer (h ▸ hpositions)
  exact (List.getElem?_inj hi hnd).mp (hdealer.trans hdealer'.symm)

/-- Where the button is after several moves: every move after the first one takes it one step
round. -/
lemma rotations_succ (hnd : activeSeats.Nodup) {start : ℕ} (hstart : start < activeSeats.length)
    (h : rotatePositions activeSeats positions.dealerSeat = positionsAt activeSeats start) (k : ℕ) :
    rotations activeSeats positions (k + 1) =
      positionsAt activeSeats ((start + k) % activeSeats.length) := by
  have hlen : 0 < activeSeats.length := Nat.zero_lt_of_lt hstart
  induction k with
  | zero => rw [add_zero, Nat.mod_eq_of_lt hstart, ← h]; rfl
  | succ k ih =>
    obtain ⟨moved, hmoved⟩ := Option.isSome_iff_exists.mp
      (positionsAt_isSome (Nat.mod_lt (start + k) hlen))
    rw [rotations, ih, hmoved, Option.bind_some, rotatePositions_positionsAt hnd hmoved,
      Nat.mod_add_mod, add_assoc]

/-- The positions are not what they were after the button has moved on. -/
lemma rotatePositions_ne (hnd : activeSeats.Nodup) (htwo : 2 ≤ activeSeats.length) :
    rotatePositions activeSeats positions.dealerSeat ≠ some positions := by
  intro h
  have hdealer := positionsAt_dealer h
  split at hdealer
  · next hmem =>
    have hidx := List.idxOf_lt_length_of_mem hmem
    have hcur : activeSeats[(activeSeats.idxOf positions.dealerSeat + 0) % activeSeats.length]? =
        some positions.dealerSeat := by
      rw [add_zero, Nat.mod_eq_of_lt hidx, List.getElem?_eq_getElem hidx, List.getElem_idxOf]
    exact absurd ((seat_eq_iff hnd (by omega) (by omega) hcur hdealer).mp rfl) (by decide)
  · next hmem => exact hmem (List.mem_of_getElem? hdealer)

/-- Moving on several times comes to the same as moving on once exactly when the further moves are
whole rounds of the table. -/
lemma rotations_eq_one_iff (positions : Positions) (hnd : activeSeats.Nodup)
    (htwo : 2 ≤ activeSeats.length) {k : ℕ} :
    rotations activeSeats positions k = rotatePositions activeSeats positions.dealerSeat ↔
      k ≡ 1 [MOD activeSeats.length] := by
  have hlen : 0 < activeSeats.length := by omega
  cases k with
  | zero =>
    refine iff_of_false (fun h => rotatePositions_ne hnd htwo h.symm) fun h => ?_
    rw [Nat.ModEq, Nat.zero_mod, Nat.mod_eq_of_lt htwo] at h
    exact absurd h (by decide)
  | succ k =>
    obtain ⟨start, hstart, hrotate⟩ : ∃ start < activeSeats.length,
        rotatePositions activeSeats positions.dealerSeat = positionsAt activeSeats start := by
      refine ⟨_, ?_, rfl⟩
      split
      · exact Nat.mod_lt _ hlen
      · exact hlen
    rw [rotations_succ hnd hstart hrotate, hrotate, positionsAt_inj hnd (Nat.mod_lt _ hlen)]
    constructor
    · intro h
      have hmod : start + k ≡ start + 0 [MOD activeSeats.length] := by
        rw [Nat.ModEq, h, add_zero, Nat.mod_eq_of_lt hstart]
      simpa using (Nat.ModEq.add_left_cancel' start hmod).add_right 1
    · intro h
      have hzero : k ≡ 0 [MOD activeSeats.length] := Nat.ModEq.add_right_cancel' 1 h
      have hmod : start + k ≡ start + 0 [MOD activeSeats.length] := hzero.add_left start
      rwa [Nat.ModEq, add_zero, Nat.mod_eq_of_lt hstart] at hmod

end PokerRoom
