import PokerRoom.Hand.BettingRun

/-!
# Chips in a hand

During the betting chips only move from the stack of a player to his commitments and with them to
the pot.  `ChipsConserved` is the invariant and `chipsConserved_run` says that it holds after every
run of the betting.
-/

namespace PokerRoom

open Foundation

/-! ## The invariant -/

/-- The stack a player is dealt. -/
def RoundSetup.dealt (s : RoundSetup) (playerId : String) : Int :=
  ((s.players.find? fun p => p.playerId = playerId).map (·.stack)).getD 0

/-- The chips in the stacks of a round. -/
def stackTotal (r : RoundTables) : Int := (r.players.map (·.stackRemaining)).sum

/-- The chips that were dealt. -/
def RoundSetup.dealtTotal (s : RoundSetup) : Int := (s.players.map (·.stack)).sum

/-- The chips of a player who was dealt the given stack are accounted for. -/
structure PlayerState.Accounted (dealt : Int) (p : PlayerState) : Prop where
  /-- What is not in the stack is committed. -/
  stack_add_hand : p.stackRemaining + p.committedThisHand = dealt
  /-- The stack is not negative. -/
  stack_nonneg : 0 ≤ p.stackRemaining
  /-- The commitment to the street is not negative. -/
  street_nonneg : 0 ≤ p.committedThisStreet
  /-- It is part of the commitment to the hand. -/
  street_le_hand : p.committedThisStreet ≤ p.committedThisHand

/-- All chips dealt are in the stacks or committed, and the pot holds what is committed. -/
structure ChipsConserved (s : RoundSetup) (r : RoundTables) : Prop where
  /-- The chips of every player are accounted for. -/
  players : ∀ p ∈ r.players, p.Accounted (s.dealt p.playerId)
  /-- The pot is the sum of the commitments to the hand. -/
  pot : r.round.potAmount = (r.players.map (·.committedThisHand)).sum

/-! ## One command -/

/-- An accepted action keeps the chips of its player accounted for. -/
lemma PlayerState.Accounted.act {dealt : Int} {p : PlayerState} (h : p.Accounted dealt)
    {ctx : HandContext} {a : BetAction} {amount : Int} {v : ValidatedAction}
    (hout : BetOutcome ctx p a amount v) : (p.act v).Accounted dealt := by
  obtain ⟨hnonneg, hle⟩ := hout.amount_bounds h.stack_nonneg
  have hadd := h.stack_add_hand
  have hstreet := h.street_nonneg
  have hhand := h.street_le_hand
  constructor
  · simp only [PlayerState.act]; omega
  · simp only [PlayerState.act]; omega
  · simp only [PlayerState.act]; omega
  · simp only [PlayerState.act]; omega

/-- Collecting the commitments of a street keeps the chips of a player accounted for. -/
lemma PlayerState.Accounted.collect {dealt : Int} {p : PlayerState} (h : p.Accounted dealt) :
    PlayerState.Accounted dealt { p with committedThisStreet := 0 } :=
  ⟨h.stack_add_hand, h.stack_nonneg, le_rfl, h.street_nonneg.trans h.street_le_hand⟩

variable {s : RoundSetup} {r r' : RoundTables}

/-- The player an accepted action is about is one of the round. -/
lemma Accepted.mem {g : Round} {ps : List RoundPlayer} {playerId action : String} {amount : Int}
    {p : PlayerState} {a : BetAction} {v : ValidatedAction}
    (h : Accepted g ps playerId action amount p a v) : p ∈ ps ∧ p.playerId = playerId :=
  mem_of_find?_key h.permitted.found

/-- A measure of the players that an action moves by `x` adds up to `x` more after an applied
bet. -/
lemma BetApplied.sum_eq (hnd : (r.players.map (·.playerId)).Nodup) {data : PlaceBet} {ids : Uuids}
    {p : PlayerState} {a : BetAction} {v : ValidatedAction} (happ : BetApplied r data ids p a v r')
    (m : RoundPlayer → Int) {x : Int} (hm : m (p.act v) = m p + x) :
    (r'.players.map m).sum = (r.players.map m).sum + x := by
  obtain ⟨hp, hid⟩ := happ.accepted.mem
  have hsum := sum_map_updateFirst (f := PlayerState.act v) m hnd hp hid
  rw [happ.after]
  refine hsum.trans ?_
  rw [hm]
  omega

/-- The pot after an applied bet. -/
lemma BetApplied.pot_eq {data : PlaceBet} {ids : Uuids} {p : PlayerState} {a : BetAction}
    {v : ValidatedAction} (happ : BetApplied r data ids p a v r') :
    r'.round.potAmount = r.round.potAmount + v.amount := by
  rw [happ.after]; rfl

/-- An applied bet keeps the chips accounted for. -/
lemma ChipsConserved.betApplied (h : ChipsConserved s r)
    (hnd : (r.players.map (·.playerId)).Nodup) {data : PlaceBet} {ids : Uuids} {p : PlayerState}
    {a : BetAction} {v : ValidatedAction} (happ : BetApplied r data ids p a v r') :
    ChipsConserved s r' := by
  obtain ⟨hp, hid⟩ := happ.accepted.mem
  constructor
  · rw [happ.after]
    apply forall_updateFirst h.players
    intro q hq hk
    obtain rfl := eq_of_key_eq hnd hq hp (hk.trans hid.symm)
    exact (h.players q hq).act happ.accepted.outcome
  · rw [happ.pot_eq, h.pot, happ.sum_eq hnd (fun q => q.committedThisHand) rfl]

/-- Collecting the commitments of a street keeps the chips accounted for. -/
lemma ChipsConserved.collect (h : ChipsConserved s r)
    (hplayers : r'.players = r.players.map fun rp => { rp with committedThisStreet := 0 })
    (hpot : r'.round.potAmount = r.round.potAmount) : ChipsConserved s r' := by
  constructor
  · rw [hplayers, List.forall_mem_map]
    exact fun p hp => (h.players p hp).collect
  · rw [hpot, h.pot, hplayers, List.map_map]
    rfl

/-- An advance of the street keeps the chips accounted for. -/
lemma ChipsConserved.streetOutcome (h : ChipsConserved s r) (hout : StreetOutcome r r') :
    ChipsConserved s r' := by
  cases hout with
  | settleHand => exact ⟨h.players, h.pot⟩
  | showdown => exact h.collect rfl rfl
  | nextStreet st p hp hcan => exact h.collect rfl rfl

/-! ## Every run -/

/-- The dealt stack of a player who is dealt in. -/
lemma dealt_of_mem {d : Deal} {p : SeatPlayer} (hp : p ∈ d.players) :
    d.dealt p.playerId = p.stack := by
  have hfind : d.players.find? (fun q => q.playerId = p.playerId) = some p :=
    (find?_key_eq_some_iff d.ids_nodup).mpr ⟨hp, rfl⟩
  simp [RoundSetup.dealt, hfind]

/-- What a player posts leaves his row as follows. -/
def RoundSetup.postedRow (s : RoundSetup) (p : SeatPlayer) : RoundPlayer :=
  (postPlayer s.smallBlindSeat s.bigBlindSeat s.smallBlind s.bigBlind s.ante p).toRoundPlayer

/-- The players of a new round are those dealt in, after posting. -/
lemma tables_players (s : RoundSetup) (ids : Uuids) :
    (s.tables ids).players = s.players.map s.postedRow := by
  simp only [RoundSetup.tables, RoundSetup.posting, postBlindsAndAntes, List.map_map]
  rfl

/-- The specification of the posting of a dealt player. -/
lemma Deal.postPlayer_spec (d : Deal) {p : SeatPlayer} (hp : p ∈ d.players) :
    PostPlayerSpec p (postPlayer d.smallBlindSeat d.bigBlindSeat d.smallBlind
      d.bigBlind d.ante p) :=
  PokerRoom.postPlayer_spec d.smallBlind_nonneg d.bigBlind_nonneg (d.stack_pos p hp)

/-- In a new round all chips are accounted for. -/
lemma chipsConserved_tables (d : Deal) (ids : Uuids) :
    ChipsConserved d.toRoundSetup (d.tables ids) := by
  constructor
  · rw [tables_players, List.forall_mem_map]
    intro p hp
    have hspec := d.postPlayer_spec hp
    have hdealt : d.dealt (d.postedRow p).playerId = p.stack := dealt_of_mem hp
    rw [hdealt]
    exact ⟨hspec.conserved, hspec.stack_nonneg, hspec.committed_nonneg, hspec.hand_eq_street.ge⟩
  · rw [tables_players, List.map_map]
    simp only [RoundSetup.tables, RoundSetup.posting, postBlindsAndAntes, List.map_map]
    rfl

/-- An accepted command of the betting keeps the seating and the chips accounted for. -/
lemma chipsConserved_step {d : Deal} (hseat : SeatedAs d.toRoundSetup r)
    (h : ChipsConserved d.toRoundSetup r) {c : BettingCommand}
    (hstep : bettingMachine.step r c = .ok r') :
    SeatedAs d.toRoundSetup r' ∧ ChipsConserved d.toRoundSetup r' := by
  rcases betting_step_cases hseat.ids_nodup hstep with
    ⟨rfl, -⟩ | ⟨data, ids, p, a, v, -, happ⟩ | ⟨-, hadv⟩
  · exact ⟨hseat, h⟩
  · exact ⟨hseat.betApplied happ, h.betApplied hseat.ids_nodup happ⟩
  · exact ⟨hseat.streetOutcome hadv.outcome, h.streetOutcome hadv.outcome⟩

/-- After every run of the betting the players of the round are those dealt in and all chips are
accounted for. -/
theorem chipsConserved_run {d : Deal} {ids : Uuids} {r₀ : RoundTables}
    (hdeal : createRound d.toRoundSetup ids = .ok r₀) (cs : List BettingCommand) :
    SeatedAs d.toRoundSetup (bettingMachine.run r₀ cs) ∧
      ChipsConserved d.toRoundSetup (bettingMachine.run r₀ cs) := by
  obtain ⟨-, -, rfl⟩ := createRound_eq_ok_iff.mp hdeal
  refine Machine.run_invariant
    (I := fun r => SeatedAs d.toRoundSetup r ∧ ChipsConserved d.toRoundSetup r)
    (fun r c r' hI hstep => chipsConserved_step hI.1 hI.2 hstep)
    ⟨seatedAs_tables _ ids, chipsConserved_tables d ids⟩ cs

/-- The players of a round were dealt the dealt chips. -/
lemma SeatedAs.sum_dealt {d : Deal} (h : SeatedAs d.toRoundSetup r) :
    (r.players.map fun p => d.dealt p.playerId).sum = d.dealtTotal := by
  have hmap : (r.players.map fun p => d.dealt p.playerId) =
      (r.players.map (·.playerId)).map d.dealt := by
    rw [List.map_map]
    rfl
  rw [hmap, h.playerIds, List.map_map]
  exact congrArg List.sum (List.map_congr_left fun p hp => dealt_of_mem hp)

/-- Where the chips of a round are conserved its stacks and its pot hold what was dealt. -/
lemma ChipsConserved.stackTotal_add_pot {d : Deal} (hseat : SeatedAs d.toRoundSetup r)
    (h : ChipsConserved d.toRoundSetup r) : stackTotal r + r.round.potAmount = d.dealtTotal := by
  rw [h.pot, stackTotal, ← List.sum_map_add, ← hseat.sum_dealt]
  exact congrArg List.sum (List.map_congr_left fun p hp => (h.players p hp).stack_add_hand)

/-- **In-hand chip conservation.**  After every run of the betting of a dealt hand, every player's
stack and commitment to the hand add up to what he was dealt, his stack is not negative, his
commitment to the street lies between `0` and his commitment to the hand, and the pot is the sum of
the commitments of all players dealt in. -/
theorem in_hand_chip_conservation {d : Deal} {ids : Uuids} {r₀ : RoundTables}
    (hdeal : createRound d.toRoundSetup ids = .ok r₀) (cs : List BettingCommand) :
    (bettingMachine.run r₀ cs).players.map (·.playerId) = d.players.map (·.playerId) ∧
    (∀ p ∈ (bettingMachine.run r₀ cs).players,
      p.stackRemaining + p.committedThisHand = d.dealt p.playerId ∧
      0 ≤ p.stackRemaining ∧ 0 ≤ p.committedThisStreet ∧
      p.committedThisStreet ≤ p.committedThisHand) ∧
    (bettingMachine.run r₀ cs).round.potAmount =
      ((bettingMachine.run r₀ cs).players.map (·.committedThisHand)).sum := by
  obtain ⟨hseat, hchips⟩ := chipsConserved_run hdeal cs
  refine ⟨hseat.playerIds, fun p hp => ?_, hchips.pot⟩
  obtain ⟨hadd, hstack, hstreet, hhand⟩ := hchips.players p hp
  exact ⟨hadd, hstack, hstreet, hhand⟩

/-- A player who bets after a limped street keeps his hundred chips. -/
theorem in_hand_chip_conservation_headsUp :
    ∃ p ∈ (bettingMachine.run (headsUp.tables headsUpIds)
        [.send "alice" "call" 0 "b1" "e1", .advanceStreet, .send "bob" "bet" 10 "b2" "e2"]).players,
      p.playerId = "bob" ∧ p.stackRemaining + p.committedThisHand = headsUp.dealt p.playerId := by
  obtain ⟨p, hp, hid⟩ : ∃ p ∈ (bettingMachine.run (headsUp.tables headsUpIds)
      [.send "alice" "call" 0 "b1" "e1", .advanceStreet, .send "bob" "bet" 10 "b2" "e2"]).players,
      p.playerId = "bob" := by decide
  exact ⟨p, hp, hid, ((in_hand_chip_conservation
    (show createRound headsUp.toRoundSetup headsUpIds = .ok (headsUp.tables headsUpIds) by decide)
    _).2.1 p hp).1⟩

end PokerRoom
