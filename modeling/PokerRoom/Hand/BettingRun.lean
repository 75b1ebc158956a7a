import PokerRoom.Application.RoundCommands
import PokerRoom.Foundation.Machine

/-!
# The betting of a hand

`place_bet` and `advance_street` as a machine on the rows of one round.  `betting_step_cases` lists
what an accepted command does; every argument about the betting is a case analysis on it.  The
seating of a round, its players and their seats, is fixed when the round is created
(`SeatedAs`).
-/

namespace PokerRoom

open Foundation

/-! ## The machine -/

/-- The commands of the betting. -/
inductive BettingCommand
  /-- Place a bet, with the identifiers drawn for it. -/
  | placeBet (data : PlaceBet) (ids : Uuids)
  /-- Advance the street. -/
  | advanceStreet

/-- The betting of one round. -/
def bettingMachine : Machine RoundTables BettingCommand Rejection where
  step r
    | .placeBet data ids => (placeBet r data ids).map (·.2)
    | .advanceStreet => (advanceStreet r).map (·.2)

/-- A retry that finds its recorded bet changes nothing; every other accepted bet is applied. -/
lemma placeBet_step_cases {r r' : RoundTables} {data : PlaceBet} {ids : Uuids}
    (hnd : (r.players.map (·.playerId)).Nodup)
    (hstep : bettingMachine.step r (.placeBet data ids) = .ok r') :
    (data.existing r ≠ none ∧ r' = r) ∨
      (data.existing r = none ∧ ∃ p a v, BetApplied r data ids p a v r') := by
  obtain ⟨⟨b, r''⟩, hplace, rfl⟩ := map_eq_ok_iff.mp hstep
  rcases placeBet_cases hnd hplace with ⟨hfound, rfl⟩ | ⟨p, a, v, happ, -⟩
  · exact Or.inl ⟨by simp [hfound], rfl⟩
  · exact Or.inr ⟨happ.fresh, p, a, v, happ⟩

/-- The bet recorded under a key stays the one that is found. -/
lemma existing_of_prefix {r r' : RoundTables} {data data' : PlaceBet} {b : Bet}
    (hbets : r.bets <+: r'.bets) (hfound : data.existing r = some b)
    (hkey : data'.idempotencyKey = data.idempotencyKey) : data'.existing r' = some b := by
  obtain ⟨later, hlater⟩ := hbets
  unfold PlaceBet.existing at hfound ⊢
  rw [hkey]
  split at hfound
  · cases hfound
  · next key =>
    split at hfound
    · cases hfound
    · next hne =>
      simp only [if_neg hne, ← hlater, List.find?_append, hfound, Option.some_or]

/-- An applied bet is found under its key. -/
lemma BetApplied.existing {r r' : RoundTables} {data : PlaceBet} {ids : Uuids} {p : PlayerState}
    {a : BetAction} {v : ValidatedAction} (happ : BetApplied r data ids p a v r')
    (hkey : truthy data.idempotencyKey ≠ none) :
    data.existing r' =
      some (recordBetAction data.playerId v.action v.amount data.idempotencyKey ids).1 := by
  have hfresh := happ.fresh
  rw [happ.after]
  unfold PlaceBet.existing at hfresh ⊢
  cases hdata : data.idempotencyKey with
  | none => exact absurd (congrArg truthy hdata) hkey
  | some key =>
    have hne : key ≠ "" := by
      rintro rfl
      exact hkey (congrArg truthy hdata)
    simp only [hdata, if_neg hne] at hfresh ⊢
    simp [RoundTables.afterBet, List.find?_append, hfresh, recordBetAction, hdata]

/-- An applied bet is recorded last, with its effective action and the chips it moves. -/
lemma BetApplied.bets_eq {r r' : RoundTables} {data : PlaceBet} {ids : Uuids} {p : PlayerState}
    {a : BetAction} {v : ValidatedAction} (happ : BetApplied r data ids p a v r') :
    r'.bets = r.bets ++
      [(recordBetAction data.playerId v.action v.amount data.idempotencyKey ids).1] := by
  rw [happ.after]
  rfl

/-- What an accepted command of the betting does: an answered retry changes nothing, and otherwise a
bet was applied or the street was advanced. -/
theorem betting_step_cases {r r' : RoundTables} {c : BettingCommand}
    (hnd : (r.players.map (·.playerId)).Nodup) (h : bettingMachine.step r c = .ok r') :
    (r' = r ∧ ∃ data ids, c = .placeBet data ids) ∨
    (∃ data ids p a v, c = .placeBet data ids ∧ BetApplied r data ids p a v r') ∨
    (c = .advanceStreet ∧ StreetAdvanced r r') := by
  cases c with
  | placeBet data ids =>
    rcases placeBet_step_cases hnd h with ⟨-, rfl⟩ | ⟨-, p, a, v, happ⟩
    · exact Or.inl ⟨rfl, data, ids, rfl⟩
    · exact Or.inr (Or.inl ⟨data, ids, p, a, v, rfl, happ⟩)
  | advanceStreet =>
    obtain ⟨⟨res, r''⟩, hadv, rfl⟩ := map_eq_ok_iff.mp h
    exact Or.inr (Or.inr ⟨rfl, (advanceStreet_eq_ok_iff.mp hadv).2⟩)

/-! ## What an accepted advance of the street leads to -/

/-- The three outcomes of an accepted advance of the street. -/
inductive StreetOutcome (r : RoundTables) : RoundTables → Prop
  /-- Only one player is left: the betting is closed. -/
  | settleHand :
    StreetOutcome r
      { r with
        round := { r.round with
          isActionClosed := true
          actingPlayerId := none
          stateVersion := r.round.version + 1 } }
  /-- No more betting is possible: the commitments are collected for the showdown. -/
  | showdown :
    StreetOutcome r
      { r with
        round := { r.round with
          street := .showdown
          isActionClosed := true
          actingPlayerId := none
          currentHighestBet := 0
          stateVersion := r.round.version + 1 }
        players := r.players.map fun rp => { rp with committedThisStreet := 0 } }
  /-- The commitments are collected and a player who can act opens the next street. -/
  | nextStreet (st : Street) (p : RoundPlayer) (hp : p ∈ r.players) (hcan : p.CanAct) :
    StreetOutcome r
      { r with
        round := { r.round with
          street := st
          currentHighestBet := 0
          minimumRaiseAmount := r.round.bigBlindAmount
          actingPlayerId := some p.playerId
          isActionClosed := false
          lastAggressorSeat := none
          stateVersion := r.round.version + 1 }
        players := r.players.map fun rp => { rp with committedThisStreet := 0 } }

/-- The street progression picks a player who can act to open a street. -/
lemma exists_opener {r : RoundTables} (hstreet : r.streetEnd.action = .nextStreet) :
    ∃ p ∈ r.players, p.CanAct ∧ r.streetEnd.actingPlayerId = some p.playerId := by
  unfold RoundTables.streetEnd evaluateStreetEnd at hstreet ⊢
  simp only at hstreet ⊢
  split at hstreet
  · cases hstreet
  next htwo =>
  rw [if_neg htwo]
  split at hstreet
  · cases hstreet
  next hriver =>
  rw [if_neg hriver]
  split at hstreet
  · cases hstreet
  next hcan =>
  rw [if_neg hcan]
  obtain ⟨s, hs, hfirst⟩ := exists_findFirstToAct
    (List.ne_nil_of_length_pos (lt_trans Nat.zero_lt_one (not_le.mp hcan))) r.round.dealerSeat
  rw [List.mem_filter, List.mem_filter, List.mem_map] at hs
  obtain ⟨⟨⟨p, hp, rfl⟩, hin⟩, hall⟩ := hs
  refine ⟨p, hp, ?_, hfirst⟩
  simp only [PlayerState.playerSeat, Bool.and_eq_true, Bool.not_eq_true'] at hin hall
  exact ⟨hin.2, hin.1, hall⟩

/-- An accepted advance of the street has one of the three outcomes. -/
theorem StreetAdvanced.outcome {r r' : RoundTables} (h : StreetAdvanced r r') :
    StreetOutcome r r' := by
  rw [h.after]
  unfold StreetAdvanceResult.write
  cases haction : r.streetEnd.action with
  | settleHand => exact StreetOutcome.settleHand
  | showdown => exact StreetOutcome.showdown
  | nextStreet =>
    obtain ⟨p, hp, hcan, hacting⟩ := exists_opener haction
    simp only [hacting]
    exact StreetOutcome.nextStreet _ p hp hcan

/-! ## The seating -/

/-- The players of a round and their seats are those it was created with. -/
structure SeatedAs (s : RoundSetup) (r : RoundTables) : Prop where
  /-- The players. -/
  playerIds : r.players.map (·.playerId) = s.players.map (·.playerId)
  /-- Their seats. -/
  seatNumbers : r.players.map (·.seatNumber) = s.players.map (·.seatNumber)

variable {r r' : RoundTables} {d : Deal}

/-- The players of a dealt round are distinct. -/
lemma SeatedAs.ids_nodup (h : SeatedAs d.toRoundSetup r) : (r.players.map (·.playerId)).Nodup := by
  rw [h.playerIds]
  exact d.ids_nodup

/-- The seats of a dealt round ascend. -/
lemma SeatedAs.seats_lt (h : SeatedAs d.toRoundSetup r) :
    r.players.Pairwise fun p q => p.seatNumber < q.seatNumber := by
  have hd := List.pairwise_map.mpr d.seats_lt
  rw [← h.seatNumbers] at hd
  exact List.pairwise_map.mp hd

/-- The seats of a dealt round are distinct. -/
lemma SeatedAs.seats_nodup (h : SeatedAs d.toRoundSetup r) :
    (r.players.map (·.seatNumber)).Nodup :=
  (List.pairwise_map.mpr h.seats_lt).imp ne_of_lt

/-- A dealt round has at least two players. -/
lemma SeatedAs.two_le (h : SeatedAs d.toRoundSetup r) : 2 ≤ r.players.length := by
  have hlen := congrArg List.length h.playerIds
  rw [List.length_map, List.length_map] at hlen
  rw [hlen]
  exact d.two_le

/-- Rewriting one player keeps the seating when it keeps his identifier and seat. -/
lemma SeatedAs.updateFirst {s : RoundSetup} (h : SeatedAs s r) {id : String}
    {f : RoundPlayer → RoundPlayer} (hid : ∀ p, (f p).playerId = p.playerId)
    (hseat : ∀ p, (f p).seatNumber = p.seatNumber)
    (hr' : r'.players = Foundation.updateFirst (·.playerId) id f r.players) : SeatedAs s r' :=
  ⟨by rw [hr', map_updateFirst_of_eq _ hid, h.playerIds],
    by rw [hr', map_updateFirst_of_eq _ hseat, h.seatNumbers]⟩

/-- Collecting the commitments of a street keeps the seating. -/
lemma SeatedAs.collect {s : RoundSetup} (h : SeatedAs s r)
    (hr' : r'.players = r.players.map fun rp => { rp with committedThisStreet := 0 }) :
    SeatedAs s r' := by
  constructor
  · rw [hr', List.map_map, ← h.playerIds]; rfl
  · rw [hr', List.map_map, ← h.seatNumbers]; rfl

/-- An applied bet keeps the seating. -/
lemma SeatedAs.betApplied {s : RoundSetup} (h : SeatedAs s r) {data : PlaceBet} {ids : Uuids}
    {p : PlayerState} {a : BetAction} {v : ValidatedAction}
    (happ : BetApplied r data ids p a v r') : SeatedAs s r' :=
  h.updateFirst (f := PlayerState.act v) (fun _ => rfl) (fun _ => rfl) (by rw [happ.after]; rfl)

/-- An advance of the street keeps the seating. -/
lemma SeatedAs.streetOutcome {s : RoundSetup} (h : SeatedAs s r) (hout : StreetOutcome r r') :
    SeatedAs s r' := by
  cases hout with
  | settleHand => exact ⟨h.playerIds, h.seatNumbers⟩
  | showdown => exact h.collect rfl
  | nextStreet st p hp hcan => exact h.collect rfl

/-- A new round seats the players it is created with. -/
lemma seatedAs_tables (s : RoundSetup) (ids : Uuids) : SeatedAs s (s.tables ids) := by
  constructor
  · simp only [RoundSetup.tables, RoundSetup.posting, postBlindsAndAntes, List.map_map]
    rfl
  · simp only [RoundSetup.tables, RoundSetup.posting, postBlindsAndAntes, List.map_map]
    rfl

/-- A created round has the rows of a new round, and they satisfy the constraints. -/
lemma createRound_eq_ok_iff {s : RoundSetup} {ids : Uuids} :
    createRound s ids = .ok r ↔
      s.firstToActSeat ≠ none ∧ r.Constraints ∧ r = s.tables ids := by
  unfold createRound
  cases s.firstToActSeat with
  | none => simp
  | some n =>
    rw [RoundTables.flush_eq_ok_iff]
    simp only [ne_eq, reduceCtorEq, not_false_eq_true, true_and]
    exact ⟨fun ⟨hc, h⟩ => ⟨h ▸ hc, h⟩, fun ⟨hc, h⟩ => ⟨h ▸ hc, h⟩⟩

/-- The invariant rule for the betting of a dealt hand: what a new round has, and what an applied
bet and an advance of the street keep, holds after every run. -/
theorem betting_run_invariant {d : Deal} {ids₀ : Uuids} {r₀ : RoundTables}
    (hdeal : createRound d.toRoundSetup ids₀ = .ok r₀) {I : RoundTables → Prop}
    (hbet : ∀ {r r' data ids p a v}, SeatedAs d.toRoundSetup r → I r →
      BetApplied r data ids p a v r' →
      I r')
    (hstreet : ∀ {r r'}, SeatedAs d.toRoundSetup r → I r → StreetOutcome r r' → I r')
    (h0 : I (d.tables ids₀)) (cs : List BettingCommand) : I (bettingMachine.run r₀ cs) := by
  obtain ⟨-, -, rfl⟩ := createRound_eq_ok_iff.mp hdeal
  refine (Machine.run_invariant (I := fun r => SeatedAs d.toRoundSetup r ∧ I r) ?_
    ⟨seatedAs_tables _ ids₀, h0⟩ cs).2
  rintro r c r' ⟨hseat, hI⟩ hstep
  rcases betting_step_cases hseat.ids_nodup hstep with
    ⟨rfl, -⟩ | ⟨data, ids, p, a, v, -, happ⟩ | ⟨-, hadv⟩
  · exact ⟨hseat, hI⟩
  · exact ⟨hseat.betApplied happ, hbet hseat hI happ⟩
  · exact ⟨hseat.streetOutcome hadv.outcome, hstreet hseat hI hadv.outcome⟩

/-! ## Hands of two and three players -/

/-- The identifiers with the given names, in order. -/
def named (names : List String) : Uuids := fun n => names.getD n ""

/-- Two players with a hundred chips each, and blinds of one and two chips. -/
def headsUp : Deal where
  roundId := "round"
  roundNumber := 1
  dealerSeat := 1
  smallBlindSeat := 1
  bigBlindSeat := 2
  smallBlind := 1
  bigBlind := 2
  ante := 0
  players := [⟨"alice", 1, 100⟩, ⟨"bob", 2, 100⟩]
  two_le := by decide
  seats_lt := by decide
  ids_nodup := by decide
  ids_ne := by decide
  stack_pos := by decide
  smallBlind_nonneg := by decide
  bigBlind_nonneg := by decide

/-- The small blind of this hand has an identifier. -/
lemma alice_ne : "alice" ≠ "" := by decide

/-- The big blind of this hand has an identifier. -/
lemma bob_ne : "bob" ≠ "" := by decide

/-- The identifiers of the blinds of a heads-up hand. -/
def headsUpIds : Uuids := named ["sb", "bb"]

/-- Three players with a hundred chips each, and blinds of one and two chips. -/
def threeHanded : Deal where
  roundId := "round"
  roundNumber := 1
  dealerSeat := 1
  smallBlindSeat := 2
  bigBlindSeat := 3
  smallBlind := 1
  bigBlind := 2
  ante := 0
  players := [⟨"alice", 1, 100⟩, ⟨"bob", 2, 100⟩, ⟨"carol", 3, 100⟩]
  two_le := by decide
  seats_lt := by decide
  ids_nodup := by decide
  ids_ne := by decide
  stack_pos := by decide
  smallBlind_nonneg := by decide
  bigBlind_nonneg := by decide

/-- A player who sends a word and an amount, under the given identifiers of bet and entry. -/
def BettingCommand.send (playerId action : String) (amount : Int) (betId entryId : String) :
    BettingCommand :=
  .placeBet { playerId := playerId, action := action, amount := amount } (named [betId, entryId])

end PokerRoom
