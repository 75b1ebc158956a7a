import PokerRoom.Application.CorrectionCommands
import PokerRoom.Hand.BettingRun

/-!
# The whole life of a round

The betting, the settlement and the corrections as a machine on the rows of one round.
`round_step_cases` lists what an accepted command does.
-/

namespace PokerRoom

open Foundation

/-! ## The machine -/

/-- The commands on a round, with the identifiers drawn for them. -/
inductive RoundCommand
  /-- A command of the betting. -/
  | betting (c : BettingCommand)
  /-- Resolve the hand. -/
  | resolveHand (data : ResolveHandRequest) (ids : Uuids)
  /-- Declare the winner of the hand. -/
  | declareWinner (data : DeclareWinner) (ids : Uuids)
  /-- Reverse a recorded action. -/
  | reverseAction (data : ReverseActionRequest) (ids : Uuids)
  /-- Adjust a stack. -/
  | adjustStack (data : AdjustStackRequest) (ids : Uuids)
  /-- Reopen a completed hand. -/
  | reopenHand (data : ReopenHandRequest) (ids : Uuids)
  /-- Correct a payout. -/
  | correctPayout (data : CorrectPayoutRequest) (ids : Uuids)

/-- The commands on one round. -/
def roundMachine : Machine RoundTables RoundCommand Rejection where
  step r
    | .betting c => bettingMachine.step r c
    | .resolveHand data ids => settleRound r data ids
    | .declareWinner data ids => declareWinnerOnRound r data ids
    | .reverseAction data ids => (reverseAction r data ids).map (·.2)
    | .adjustStack data ids => adjustStack r data ids
    | .reopenHand data ids => reopenHand r data ids
    | .correctPayout data ids => correctPayout r data ids

/-- The command corrects a round. -/
def RoundCommand.IsCorrection : RoundCommand → Prop
  | .reverseAction _ _ | .adjustStack _ _ | .reopenHand _ _ | .correctPayout _ _ => True
  | _ => False

instance : DecidablePred RoundCommand.IsCorrection
  | .reverseAction _ _ | .adjustStack _ _ | .reopenHand _ _ | .correctPayout _ _ =>
    .isTrue trivial
  | .betting _ | .resolveHand _ _ | .declareWinner _ _ => .isFalse id

/-- The settlement a command asks for in a state, if it asks for one. -/
def RoundCommand.settlement? (c : RoundCommand) (r : RoundTables) :
    Option (ResolveHandRequest × Uuids) :=
  match c with
  | .resolveHand data ids => some (data, ids)
  | .declareWinner data ids => (data.request r).toOption.map (·, ids)
  | _ => none

/-- What an accepted command does. -/
inductive RoundStep (r : RoundTables) : RoundCommand → RoundTables → Prop
  /-- An answered retry changes nothing. -/
  | retried (data : PlaceBet) (ids : Uuids) : RoundStep r (.betting (.placeBet data ids)) r
  /-- A bet is applied. -/
  | bet {data : PlaceBet} {ids : Uuids} {p : PlayerState} {a : BetAction} {v : ValidatedAction}
    {r' : RoundTables} (happ : BetApplied r data ids p a v r') :
    RoundStep r (.betting (.placeBet data ids)) r'
  /-- The street is advanced. -/
  | street {r' : RoundTables} (hadv : StreetAdvanced r r') :
    RoundStep r (.betting .advanceStreet) r'
  /-- The round is settled. -/
  | settled {c : RoundCommand} {data : ResolveHandRequest} {ids : Uuids} {r' : RoundTables}
    (hc : c.settlement? r = some (data, ids)) (hset : Settled r data ids r') : RoundStep r c r'
  /-- An action is reversed. -/
  | reversed {data : ReverseActionRequest} {ids : Uuids} {original : HandLedgerEntry}
    {r' : RoundTables} (hrev : Reversed r data ids original r') :
    RoundStep r (.reverseAction data ids) r'
  /-- A stack is adjusted. -/
  | adjusted {data : AdjustStackRequest} {ids : Uuids} (hcons : (data.write r ids).Constraints) :
    RoundStep r (.adjustStack data ids) (data.write r ids)
  /-- The hand is reopened. -/
  | reopened {data : ReopenHandRequest} {ids : Uuids} (hstatus : r.round.status = .completed)
    (hcons : (data.write r ids).Constraints) : RoundStep r (.reopenHand data ids) (data.write r ids)
  /-- A payout is corrected. -/
  | corrected {data : CorrectPayoutRequest} {ids : Uuids}
    (hcons : (data.write r ids).Constraints) :
    RoundStep r (.correctPayout data ids) (data.write r ids)

/-- An accepted command does one of these. -/
theorem round_step_cases {r r' : RoundTables} {c : RoundCommand}
    (hnd : (r.players.map (·.playerId)).Nodup) (h : roundMachine.step r c = .ok r') :
    RoundStep r c r' := by
  cases c with
  | betting c =>
    rcases betting_step_cases hnd h with
      ⟨rfl, data, ids, rfl⟩ | ⟨data, ids, p, a, v, rfl, happ⟩ | ⟨rfl, hadv⟩
    · exact .retried data ids
    · exact .bet happ
    · exact .street hadv
  | resolveHand data ids => exact .settled rfl (settleRound_eq_ok_iff.mp h)
  | declareWinner data ids =>
    obtain ⟨request, hrequest, hset⟩ := bind_eq_ok_iff.mp h
    refine .settled ?_ (settleRound_eq_ok_iff.mp hset)
    simp [RoundCommand.settlement?, hrequest, Except.toOption]
  | reverseAction data ids =>
    obtain ⟨⟨entry, r''⟩, hrev, rfl⟩ := map_eq_ok_iff.mp h
    obtain ⟨original, hreversed, -⟩ := reverseAction_eq_ok_iff.mp hrev
    exact .reversed hreversed
  | adjustStack data ids =>
    obtain ⟨hcons, rfl⟩ := RoundTables.flush_eq_ok_iff.mp h
    exact .adjusted hcons
  | reopenHand data ids =>
    obtain ⟨hstatus, hcons, rfl⟩ := reopenHand_eq_ok_iff.mp h
    exact .reopened hstatus hcons
  | correctPayout data ids =>
    obtain ⟨hcons, rfl⟩ := RoundTables.flush_eq_ok_iff.mp h
    exact .corrected hcons

variable {s : RoundSetup} {r r' : RoundTables}

/-- An accepted command leaves rows that satisfy the constraints. -/
lemma RoundStep.constraints {c : RoundCommand} (hstep : RoundStep r c r') (h : r.Constraints) :
    r'.Constraints := by
  cases hstep with
  | retried => exact h
  | bet happ => exact happ.constraints
  | street hadv => exact hadv.constraints
  | settled hc hset => exact hset.constraints
  | reversed hrev => exact hrev.constraints
  | adjusted hcons | reopened hstatus hcons | corrected hcons => exact hcons

/-- A reversal changes no field of the round but the pot, and none of the recorded bets. -/
lemma Reversed.round_eq {data : ReverseActionRequest} {ids : Uuids} {original : HandLedgerEntry}
    (hrev : Reversed r data ids original r') :
    (∃ pot, r'.round = { r.round with potAmount := pot }) ∧ r'.bets = r.bets := by
  rw [hrev.after]
  rcases data.write_cases original r ids with ⟨name, -, -, hw⟩ | ⟨-, hw⟩
  · rw [hw]
    exact ⟨⟨_, rfl⟩, rfl⟩
  · rw [hw]
    exact ⟨⟨_, rfl⟩, rfl⟩

/-- A settlement completes its round under the same identifier. -/
lemma Settled.round_eq {data : ResolveHandRequest} {ids : Uuids} (hset : Settled r data ids r') :
    r'.round.roundId = r.round.roundId ∧ r'.round.status = .completed := by
  rw [hset.after]
  exact ⟨rfl, rfl⟩

/-- An accepted command keeps the identifier of the round. -/
lemma RoundStep.roundId_eq {c : RoundCommand} (hstep : RoundStep r c r') :
    r'.round.roundId = r.round.roundId := by
  cases hstep with
  | retried | adjusted | reopened | corrected => rfl
  | bet happ => rw [happ.after]; rfl
  | street hadv => cases hadv.outcome with
    | settleHand | showdown | nextStreet => rfl
  | settled hc hset => exact hset.round_eq.1
  | reversed hrev =>
    obtain ⟨pot, h⟩ := hrev.round_eq.1
    rw [h]

/-- An accepted command keeps the recorded bets. -/
lemma RoundStep.bets_prefix {c : RoundCommand} (hstep : RoundStep r c r') : r.bets <+: r'.bets := by
  cases hstep with
  | retried | adjusted | reopened | corrected => exact List.prefix_refl _
  | bet happ => rw [happ.after]; exact List.prefix_append _ _
  | street hadv => cases hadv.outcome with
    | settleHand | showdown | nextStreet => exact List.prefix_refl _
  | settled hc hset => rw [hset.after]; exact List.prefix_refl _
  | reversed hrev => rw [hrev.round_eq.2]

/-- The status of a round after an accepted command: a settlement completes it, only reopening makes
it active again. -/
lemma RoundStep.status_cases {c : RoundCommand} (hstep : RoundStep r c r') :
    (∃ data ids, c = .reopenHand data ids ∧ r.round.status = .completed ∧
      r'.round.status = .active) ∨
      (∀ data ids, c ≠ .reopenHand data ids) ∧
        (r'.round.status = .completed ∨ r'.round.status = r.round.status) := by
  cases hstep with
  | retried | adjusted | corrected => exact Or.inr ⟨by simp, Or.inr rfl⟩
  | bet happ => exact Or.inr ⟨by simp, Or.inr (by rw [happ.after]; rfl)⟩
  | street hadv =>
    refine Or.inr ⟨by simp, Or.inr ?_⟩
    cases hadv.outcome with
    | settleHand | showdown | nextStreet => rfl
  | settled hc hset =>
    refine Or.inr ⟨fun data ids h => ?_, Or.inl hset.round_eq.2⟩
    rw [h] at hc
    cases hc
  | reversed hrev =>
    obtain ⟨pot, h⟩ := hrev.round_eq.1
    exact Or.inr ⟨by simp, Or.inr (by rw [h])⟩
  | reopened hstatus hcons => exact Or.inl ⟨_, _, rfl, hstatus, rfl⟩

/-- The kinds of the entries a command appends to the ledger. -/
def RoundCommand.entryTypes : RoundCommand → List LedgerEntryType
  | .betting (.placeBet _ _) => [.betPlaced]
  | .betting .advanceStreet => []
  | .resolveHand _ _ | .declareWinner _ _ => [.payoutAwarded, .roundCompleted]
  | .reverseAction _ _ => [.actionReversed]
  | .adjustStack _ _ => [.stackAdjusted]
  | .reopenHand _ _ => [.handReopened]
  | .correctPayout _ _ => [.payoutCorrected]

/-- An accepted command appends entries of its kinds to the ledger. -/
lemma RoundStep.appended {c : RoundCommand} (hstep : RoundStep r c r') :
    ∃ es, r'.ledger = r.ledger ++ es ∧ ∀ e ∈ es, e.entryType ∈ c.entryTypes := by
  cases hstep with
  | retried data ids => exact ⟨[], by simp, by simp⟩
  | bet happ =>
    rw [happ.after]
    exact ⟨_, rfl, by simp [recordBetAction, RoundCommand.entryTypes]⟩
  | street hadv =>
    refine ⟨[], ?_, by simp⟩
    cases hadv.outcome with
    | settleHand | showdown | nextStreet => simp
  | settled hc hset =>
    have hkinds : c.entryTypes = [.payoutAwarded, .roundCompleted] := by
      cases c with
      | resolveHand | declareWinner => rfl
      | betting | reverseAction | adjustStack | reopenHand | correctPayout => cases hc
    rw [hset.after, hkinds]
    refine ⟨_, List.append_assoc _ _ _, ?_⟩
    rw [List.forall_mem_append, List.forall_mem_singleton]
    constructor
    · intro e he
      obtain ⟨i, hi, rfl⟩ := List.mem_mapIdx.mp he
      exact List.mem_cons_self
    · exact List.mem_cons_of_mem _ List.mem_cons_self
  | reversed hrev => exact ⟨_, hrev.ledger_eq, by simp [reversalEntry, RoundCommand.entryTypes]⟩
  | adjusted | reopened | corrected => exact ⟨_, rfl, by simp [RoundCommand.entryTypes]⟩

/-- The ledger of a round is never rewritten. -/
lemma ledger_prefix_run (h : r.Constraints) (cs : List RoundCommand) :
    r.ledger <+: (roundMachine.run r cs).ledger := by
  refine (Machine.run_invariant (I := fun r' : RoundTables => r'.Constraints ∧
    r.ledger <+: r'.ledger)
    ?_ ⟨h, List.prefix_refl _⟩ cs).2
  rintro r' c r'' ⟨hcons, hle⟩ hok
  have hstep := round_step_cases hcons.playerIds hok
  obtain ⟨es, hledger, -⟩ := hstep.appended
  exact ⟨hstep.constraints hcons, hle.trans (hledger ▸ List.prefix_append _ _)⟩

/-- The betting of a round is part of its commands. -/
lemma roundMachine_run_betting (r : RoundTables) (cs : List BettingCommand) :
    roundMachine.run r (cs.map .betting) = bettingMachine.run r cs := by
  have hstep : ∀ r c, roundMachine.step r (.betting c) = bettingMachine.step r c := fun _ _ => rfl
  exact Machine.run_map hstep r cs

/-- A command that neither settles nor corrects a round is one of its betting. -/
lemma exists_betting {c : RoundCommand} (hcorr : ¬ c.IsCorrection) (hc : c.settlement? r = none)
    (hstep : roundMachine.step r c = .ok r') :
    ∃ c', c = .betting c' ∧ bettingMachine.step r c' = .ok r' := by
  cases c with
  | betting c => exact ⟨c, rfl, hstep⟩
  | resolveHand data ids => cases hc
  | declareWinner data ids =>
    obtain ⟨request, hrequest, -⟩ := bind_eq_ok_iff.mp hstep
    simp [RoundCommand.settlement?, hrequest, Except.toOption] at hc
  | reverseAction | adjustStack | reopenHand | correctPayout => exact absurd trivial hcorr

/-- The rows satisfy the constraints after every run. -/
lemma constraints_run (h : r.Constraints) (cs : List RoundCommand) :
    (roundMachine.run r cs).Constraints :=
  Machine.run_invariant (fun _ _ _ h hok => (round_step_cases h.playerIds hok).constraints h) h cs

/-! ## The seating -/

/-- The seating only depends on the players and their seats. -/
lemma SeatedAs.congr (h : SeatedAs s r)
    (hids : r'.players.map (·.playerId) = r.players.map (·.playerId))
    (hseats : r'.players.map (·.seatNumber) = r.players.map (·.seatNumber)) : SeatedAs s r' :=
  ⟨hids.trans h.playerIds, hseats.trans h.seatNumbers⟩

/-- Adding chips to a stack keeps whatever of a player does not depend on his stack. -/
lemma map_addStack {β : Type} {playerId : String} {amount : Int} {players : List RoundPlayer}
    {f : RoundPlayer → β} (hf : ∀ (rp : RoundPlayer) x, f { rp with stackRemaining := x } = f rp) :
    (addStack playerId amount players).map f = players.map f :=
  map_updateFirst_of_eq _ fun rp => hf rp _

/-- A reversal keeps the players and their seats. -/
lemma ReverseActionRequest.map_players_write {β : Type} (data : ReverseActionRequest)
    (original : HandLedgerEntry) (ids : Uuids) {f : RoundPlayer → β}
    (hf : ∀ x (rp : RoundPlayer), f (rp.uncommit x) = f rp) :
    (data.write original r ids).players.map f = r.players.map f := by
  rcases data.write_cases original r ids with ⟨name, -, -, hw⟩ | ⟨-, hw⟩
  · rw [hw]
    exact map_updateFirst_of_eq _ fun rp => hf _ rp
  · rw [hw]

/-- An accepted command keeps the seating. -/
lemma SeatedAs.roundStep (h : SeatedAs s r) {c : RoundCommand} (hstep : RoundStep r c r') :
    SeatedAs s r' := by
  cases hstep with
  | retried data ids => exact h
  | bet happ => exact h.betApplied happ
  | street hadv => exact h.streetOutcome hadv.outcome
  | settled hc hset =>
    rw [hset.after]
    exact h.congr (map_foldl_award fun _ _ => rfl) (map_foldl_award fun _ _ => rfl)
  | reversed hrev =>
    rw [hrev.after]
    exact h.congr (ReverseActionRequest.map_players_write _ _ _ fun _ _ => rfl)
      (ReverseActionRequest.map_players_write _ _ _ fun _ _ => rfl)
  | adjusted hcons => exact h.congr (map_addStack fun _ _ => rfl) (map_addStack fun _ _ => rfl)
  | reopened hstatus hcons => exact ⟨h.playerIds, h.seatNumbers⟩
  | corrected hcons =>
    exact h.congr ((map_addStack fun _ _ => rfl).trans (map_addStack fun _ _ => rfl))
      ((map_addStack fun _ _ => rfl).trans (map_addStack fun _ _ => rfl))

/-- The players of a dealt round have identifiers. -/
lemma SeatedAs.playerId_ne {d : Deal} (h : SeatedAs d.toRoundSetup r) {p : RoundPlayer}
    (hp : p ∈ r.players) : p.playerId ≠ "" := by
  have hmem : p.playerId ∈ d.players.map (·.playerId) := by
    rw [← h.playerIds]
    exact List.mem_map_of_mem hp
  obtain ⟨q, hq, hid⟩ := List.mem_map.mp hmem
  rw [← hid]
  exact d.ids_ne q hq

/-- The invariant rule for runs of commands on a dealt round: what every accepted command keeps,
given the seating, holds after every run. -/
theorem round_run_invariant {d : Deal} {ids : Uuids} {r₀ : RoundTables}
    (hdeal : createRound d.toRoundSetup ids = .ok r₀) {I : RoundTables → Prop}
    (hstep : ∀ r c r', SeatedAs d.toRoundSetup r → I r → RoundStep r c r' → I r') (h₀ : I r₀)
    (cs : List RoundCommand) :
    SeatedAs d.toRoundSetup (roundMachine.run r₀ cs) ∧ I (roundMachine.run r₀ cs) := by
  obtain ⟨-, -, rfl⟩ := createRound_eq_ok_iff.mp hdeal
  refine Machine.run_invariant (I := fun r => SeatedAs d.toRoundSetup r ∧ I r) ?_
    ⟨seatedAs_tables _ ids, h₀⟩ cs
  rintro r c r' ⟨hseat, hI⟩ hok
  have hround := round_step_cases hseat.ids_nodup hok
  exact ⟨hseat.roundStep hround, hstep r c r' hseat hI hround⟩

/-! ## A folded hand -/

/-- The payout of a pot to the big blind. -/
def paidToBob (potIndex : ℕ) (potType : String) (amount : Int) (h : 1 ≤ amount) : PotPayout where
  potIndex := potIndex
  potType := potType
  amount := amount
  winners := [⟨"bob", amount, bob_ne, h⟩]
  potIndex_nonneg := Int.natCast_nonneg potIndex
  amount_pos := h
  winners_ne := List.cons_ne_nil _ _

/-- The settlement of a heads-up hand in which the small blind folds before the flop. -/
def foldedHandPayout : ResolveHandRequest where
  payouts := [paidToBob 0 "main" 2 (by decide), paidToBob 1 "side" 1 (by decide)]
  payouts_ne := by decide

/-- A heads-up hand that is folded and settled. -/
def foldedHand : List RoundCommand :=
  [.betting (.send "alice" "fold" 0 "b1" "e1"),
    .resolveHand foldedHandPayout (named ["p1", "p2", "done"])]

end PokerRoom
