import PokerRoom.Application.BetQueries
import PokerRoom.Hand.BettingState
import Mathlib.Algebra.Order.BigOperators.Group.List

/-!
# The pot query

The pot query adds up the recorded bets.  Bets are recorded by `place_bet` only: the blinds and
antes are in the pot and in the commitments of the players from the start, and in the ledger, but no
bet records them.  `pot_query_exact_iff` says that the query shows the pot exactly where nobody has
to post anything.
-/

namespace PokerRoom

open Foundation

/-! ## Definitions -/

/-- The pot query shows the pot, and what it shows of the players is what they have committed. -/
structure PotQueryExact (r : RoundTables) : Prop where
  /-- The pot. -/
  pot : (getPot r).totalPot = r.round.potAmount
  /-- The players. -/
  players : ∀ row ∈ getPlayerSummaries r, ∀ p ∈ r.players, p.playerId = row.playerId →
    row.totalBet = p.committedThisHand

/-- The blind that is due on a seat. -/
def RoundSetup.blindDue (s : RoundSetup) (seat : Int) : Int :=
  if seat = s.smallBlindSeat then s.smallBlind
  else if seat = s.bigBlindSeat then s.bigBlind
  else 0

/-- Nobody has to post anything: there is no ante, and no blind is due of a player. -/
def RoundSetup.NoForcedBets (s : RoundSetup) : Prop :=
  s.ante ≤ 0 ∧ ∀ p ∈ s.players, s.blindDue p.seatNumber = 0

instance (s : RoundSetup) : Decidable s.NoForcedBets := inferInstanceAs (Decidable (_ ∧ _))

/-- What a player has posted. -/
def RoundSetup.posted (s : RoundSetup) (playerId : String) : Int :=
  ((s.players.find? fun p => p.playerId = playerId).map fun p =>
    (s.postedRow p).committedThisHand).getD 0

/-- The bets and what was posted make up the pot and the commitments. -/
structure BetsRecorded (s : RoundSetup) (r : RoundTables) : Prop where
  /-- The pot. -/
  pot : getPotTotal r + s.posting.potTotal = r.round.potAmount
  /-- The commitments. -/
  players : ∀ p ∈ r.players, betTotal r.bets p.playerId + s.posted p.playerId = p.committedThisHand

variable {d : Deal} {r r' : RoundTables} {ids : Uuids}

/-! ## What is posted -/

/-- A player posts nothing exactly when there is no ante and no blind is due of him. -/
lemma postPlayer_eq_zero_iff {sbSeat bbSeat sb bb ante : Int} {p : SeatPlayer} (hsb : 0 ≤ sb)
    (hbb : 0 ≤ bb) (hstack : 0 < p.stack) :
    (postPlayer sbSeat bbSeat sb bb ante p).committedThisHand = 0 ↔
      ante ≤ 0 ∧ (if p.seatNumber = sbSeat then sb else if p.seatNumber = bbSeat then bb else 0) =
        0 := by
  simp only [postPlayer, antePosted, blindPosted]
  split_ifs <;> omega

/-- The pot of a new round is what its players have posted. -/
lemma potTotal_eq (s : RoundSetup) :
    s.posting.potTotal = (s.players.map fun p => (s.postedRow p).committedThisHand).sum := by
  simp only [RoundSetup.posting, postBlindsAndAntes, List.map_map]
  rfl

/-- Nothing is posted exactly when nobody has to post anything. -/
lemma Deal.potTotal_eq_zero_iff (d : Deal) : d.posting.potTotal = 0 ↔ d.NoForcedBets := by
  have hzero : ∀ p ∈ d.players, (d.postedRow p).committedThisHand = 0 ↔
      d.ante ≤ 0 ∧ d.blindDue p.seatNumber = 0 := fun p hp =>
    postPlayer_eq_zero_iff d.smallBlind_nonneg d.bigBlind_nonneg (d.stack_pos p hp)
  have hnonneg : ∀ p ∈ d.players, 0 ≤ (d.postedRow p).committedThisHand := fun p hp => by
    have hspec := d.postPlayer_spec hp
    exact hspec.committed_nonneg.trans_eq hspec.hand_eq_street.symm
  rw [potTotal_eq]
  constructor
  · intro hsum
    have hall : ∀ p ∈ d.players, (d.postedRow p).committedThisHand = 0 := by
      intro p hp
      have hle := List.single_le_sum (List.forall_mem_map.mpr hnonneg) _
        (List.mem_map_of_mem (f := fun p => (d.postedRow p).committedThisHand) hp)
      exact le_antisymm (hle.trans_eq hsum) (hnonneg p hp)
    obtain ⟨p, hp⟩ := List.exists_mem_of_length_pos (show 0 < d.players.length by
      have := d.two_le; omega)
    exact ⟨((hzero p hp).mp (hall p hp)).1, fun q hq => ((hzero q hq).mp (hall q hq)).2⟩
  · rintro ⟨hante, hdue⟩
    exact List.sum_eq_zero (List.forall_mem_map.mpr fun p hp => (hzero p hp).mpr ⟨hante, hdue p hp⟩)

/-- A player who is dealt in has posted what his row says. -/
lemma posted_of_mem {p : SeatPlayer} (hp : p ∈ d.players) :
    d.posted p.playerId = (d.postedRow p).committedThisHand := by
  have hfind : d.players.find? (fun q => q.playerId = p.playerId) = some p :=
    (find?_key_eq_some_iff d.ids_nodup).mpr ⟨hp, rfl⟩
  simp [RoundSetup.posted, hfind]

/-- Where nobody has to post anything nobody has posted anything. -/
lemma Deal.posted_eq_zero (h : d.NoForcedBets) {p : SeatPlayer} (hp : p ∈ d.players) :
    d.posted p.playerId = 0 := by
  rw [posted_of_mem hp]
  exact (postPlayer_eq_zero_iff d.smallBlind_nonneg d.bigBlind_nonneg (d.stack_pos p hp)).mpr
    ⟨h.1, h.2 p hp⟩

/-! ## Every run -/

/-- In a new round there is no bet. -/
lemma betsRecorded_tables (d : Deal) (ids : Uuids) :
    BetsRecorded d.toRoundSetup (d.tables ids) := by
  refine ⟨zero_add _, ?_⟩
  rw [tables_players, List.forall_mem_map]
  intro p hp
  exact (zero_add _).trans (posted_of_mem hp)

/-- An applied bet is recorded with the chips it moves. -/
lemma BetApplied.bets_total {data : PlaceBet} {p : PlayerState} {a : BetAction}
    {v : ValidatedAction} (happ : BetApplied r data ids p a v r') :
    getPotTotal r' = getPotTotal r + v.amount ∧
      ∀ playerId, betTotal r'.bets playerId =
        betTotal r.bets playerId + if data.playerId = playerId then v.amount else 0 := by
  constructor
  · simp [getPotTotal, happ.bets_eq, recordBetAction]
  · intro playerId
    rw [happ.bets_eq, betTotal_concat]
    rfl

/-- An applied bet keeps the bets and what was posted in line with the pot and the commitments. -/
lemma BetsRecorded.betApplied (hnd : (r.players.map (·.playerId)).Nodup)
    (h : BetsRecorded d.toRoundSetup r) {data : PlaceBet} {p : PlayerState} {a : BetAction}
    {v : ValidatedAction} (happ : BetApplied r data ids p a v r') :
    BetsRecorded d.toRoundSetup r' := by
  obtain ⟨hp, hid⟩ := happ.accepted.mem
  obtain ⟨htotal, htotals⟩ := happ.bets_total
  constructor
  · have hpot := h.pot
    rw [happ.pot_eq, htotal]
    omega
  · intro q hq
    have hplayers : r'.players = actedPlayers data.playerId v r.players := by rw [happ.after]; rfl
    rw [hplayers, mem_actedPlayers hnd hp hid] at hq
    rw [htotals]
    rcases hq with rfl | ⟨hq, hne⟩
    · have hold := h.players p hp
      rw [if_pos (show data.playerId = (p.act v).playerId from hid.symm)]
      simp only [PlayerState.act]
      omega
    · rw [if_neg (Ne.symm hne), add_zero]
      exact h.players q hq

/-- An advance of the street records no bet and moves no chips. -/
lemma BetsRecorded.streetOutcome (h : BetsRecorded d.toRoundSetup r) (hout : StreetOutcome r r') :
    BetsRecorded d.toRoundSetup r' := by
  rcases hout with _ | _ | ⟨st, p, hp, hcan⟩
  · exact ⟨h.pot, h.players⟩
  · exact ⟨h.pot, List.forall_mem_map.mpr h.players⟩
  · exact ⟨h.pot, List.forall_mem_map.mpr h.players⟩

/-- After every run of the betting the bets and what was posted make up the pot and the
commitments. -/
theorem betsRecorded_run {ids₀ : Uuids} {r₀ : RoundTables}
    (hdeal : createRound d.toRoundSetup ids₀ = .ok r₀) (cs : List BettingCommand) :
    BetsRecorded d.toRoundSetup (bettingMachine.run r₀ cs) :=
  betting_run_invariant hdeal (fun hseat h happ => h.betApplied hseat.ids_nodup happ)
    (fun _ h hout => h.streetOutcome hout) (betsRecorded_tables d ids₀) cs

/-- **When the pot query shows the pot.** After every run of the betting of a dealt hand, the total
of the pot query is the pot and the totals of its summaries are the commitments of the players,
exactly when nobody has to post a blind or an ante. -/
theorem pot_query_exact_iff {ids₀ : Uuids} {r₀ : RoundTables}
    (hdeal : createRound d.toRoundSetup ids₀ = .ok r₀) (cs : List BettingCommand) :
    PotQueryExact (bettingMachine.run r₀ cs) ↔ d.NoForcedBets := by
  have hseat := (chipsConserved_run hdeal cs).1
  obtain ⟨hpot, hplayers⟩ := betsRecorded_run hdeal cs
  constructor
  · intro hexact
    have htotal : getPotTotal (bettingMachine.run r₀ cs) = _ := hexact.pot
    exact d.potTotal_eq_zero_iff.mp (by omega)
  · intro hnone
    have hzero := d.potTotal_eq_zero_iff.mpr hnone
    refine ⟨show getPotTotal (bettingMachine.run r₀ cs) = _ by omega, fun row hrow p hp hid => ?_⟩
    obtain ⟨q, hq, hqid⟩ : ∃ q ∈ d.players, q.playerId = p.playerId := by
      have hmem := List.mem_map_of_mem (f := fun q : RoundPlayer => q.playerId) hp
      rw [hseat.playerIds, List.mem_map] at hmem
      exact hmem
    have hposted := d.posted_eq_zero hnone hq
    have hcommitted := hplayers p hp
    rw [hqid] at hposted
    rw [totalBet_of_mem hrow, ← hid]
    exact (by omega : betTotal (bettingMachine.run r₀ cs).bets p.playerId = p.committedThisHand)

/-- The heads-up hand without blinds. -/
def freeHand : Deal :=
  { headsUp with
    smallBlind := 0
    bigBlind := 0
    smallBlind_nonneg := by decide
    bigBlind_nonneg := by decide }

/-- Without blinds the query shows the pot after a bet of ten chips. -/
theorem pot_query_exact_iff_freeHand :
    PotQueryExact (bettingMachine.run (freeHand.tables headsUpIds)
      [.send "alice" "bet" 10 "b1" "e1"]) :=
  (pot_query_exact_iff
    (show createRound freeHand.toRoundSetup headsUpIds = .ok (freeHand.tables headsUpIds) by decide)
    [.send "alice" "bet" 10 "b1" "e1"]).mpr (by decide)

/-- After the blinds are posted the query shows an empty pot. -/
theorem pot_query_misses_blinds :
    ¬ ∀ (d : Deal) (ids₀ : Uuids) (r₀ : RoundTables),
      createRound d.toRoundSetup ids₀ = .ok r₀ → ∀ cs : List BettingCommand,
      PotQueryExact (bettingMachine.run r₀ cs) := by
  intro h
  have hexact := h headsUp headsUpIds (headsUp.tables headsUpIds) (by decide) []
  exact absurd hexact.pot (by decide)

end PokerRoom
