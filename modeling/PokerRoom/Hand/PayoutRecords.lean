import PokerRoom.Hand.LedgerAccount

/-!
# Payouts recorded twice

A settlement records its payouts in rows of their own and in the ledger.  `correct_payout` only
writes to the ledger.  `payouts_recorded_iff` says that the two records agree exactly when the
corrections of payouts take as much from every player as they give to him.
-/

namespace PokerRoom

open Foundation

/-! ## Definitions -/

/-- The payout rows of every player add up to the chips he has won by the ledger. -/
def PayoutsRecorded (r : RoundTables) : Prop :=
  ∀ p ∈ r.players, awardedTo p.playerId r.payouts = (getHandState r).totalWon p.playerId

instance : DecidablePred PayoutsRecorded := fun r =>
  inferInstanceAs (Decidable (∀ p ∈ r.players, _ = _))

/-- What a correction of a payout gives to a player, less what it takes from him. -/
def RoundCommand.correctedFor (playerId : String) : RoundCommand → Int
  | .correctPayout data _ =>
    (if data.newPlayerId = playerId then data.newAmount else 0) -
      if data.oldPlayerId = playerId then data.oldAmount else 0
  | _ => 0

/-- The chips a player has won by the ledger, less those of his payout rows. -/
def unrecorded (playerId : String) (r : RoundTables) : Int :=
  (getHandState r).totalWon playerId - awardedTo playerId r.payouts

variable {r r' r₀ : RoundTables} {d : Deal} {ids : Uuids} {c : RoundCommand} {playerId : String}

/-! ## One command -/

/-- Entries that record no payout and correct none win nothing. -/
lemma booked_won_eq_zero {es : List HandLedgerEntry}
    (h : ∀ e ∈ es, e.entryType ≠ .payoutAwarded ∧ e.entryType ≠ .payoutCorrected) :
    booked (·.wonWeight playerId) es = 0 := by
  refine List.sum_eq_zero (List.forall_mem_map.mpr fun e he => ?_)
  obtain ⟨hawarded, hcorrected⟩ := h e he
  unfold LedgerRow.wonWeight
  cases hk : e.entryType <;> simp_all

/-- A command that writes neither payout rows nor entries about payouts keeps the difference of the
two records. -/
lemma unrecorded_of_appended {es : List HandLedgerEntry} (hledger : r'.ledger = r.ledger ++ es)
    (hpayouts : r'.payouts = r.payouts)
    (h : ∀ e ∈ es, e.entryType ≠ .payoutAwarded ∧ e.entryType ≠ .payoutCorrected) :
    unrecorded playerId r' = unrecorded playerId r := by
  unfold unrecorded
  rw [getHandState_totalWon, getHandState_totalWon, hledger, booked_append, booked_won_eq_zero h,
    add_zero, hpayouts]

/-- A settlement writes the same payouts to both records. -/
lemma Settled.unrecorded_eq (hne : playerId ≠ "") {data : ResolveHandRequest}
    (hset : Settled r data ids r') : unrecorded playerId r' = unrecorded playerId r := by
  have hledger : r'.ledger = r.ledger ++ data.entries r ids := by
    rw [hset.after]
    exact List.append_assoc _ _ _
  have hpayouts : r'.payouts = r.payouts ++ data.awards := by
    rw [hset.after]
    rfl
  have hwon : PokerRoom.booked (·.wonWeight playerId) (data.entries r ids) =
      awardedTo playerId data.awards := by
    refine data.booked_entries r ids (fun id row => ?_) ?_
    · simp [RoundPayout.entry, LedgerRow.wonWeight, weightFor_some hne]
    · simp [roundCompletedEntry, LedgerRow.wonWeight]
  unfold unrecorded
  rw [getHandState_totalWon, getHandState_totalWon, hledger, booked_append, hwon, hpayouts,
    awardedTo_append]
  omega

/-- A correction of a payout only writes to the ledger. -/
lemma CorrectPayoutRequest.unrecorded_eq (hne : playerId ≠ "") (data : CorrectPayoutRequest) :
    unrecorded playerId (data.write r ids) =
      unrecorded playerId r + (RoundCommand.correctPayout data ids).correctedFor playerId := by
  unfold unrecorded
  rw [getHandState_totalWon, getHandState_totalWon]
  simp only [CorrectPayoutRequest.write, booked_append, booked_singleton, LedgerRow.wonWeight,
    Option.getD_some, weightFor_some hne, RoundCommand.correctedFor]
  split_ifs <;> omega

/-- A command that neither settles the round nor corrects a payout writes no payout rows. -/
lemma RoundStep.payouts_eq (hstep : RoundStep r c r') (hc : c.settlement? r = none) :
    r'.payouts = r.payouts := by
  cases hstep with
  | retried | adjusted | reopened | corrected => rfl
  | bet happ => rw [happ.after]; rfl
  | street hadv => cases hadv.outcome with
    | settleHand | showdown | nextStreet => rfl
  | settled hsettles => rw [hsettles] at hc; cases hc
  | @reversed data ids original r' hrev =>
    rw [hrev.after]
    rcases data.write_cases original r ids with ⟨name, -, -, hw⟩ | ⟨-, hw⟩ <;> rw [hw]

/-- What an accepted command adds to the difference of the two records. -/
lemma RoundStep.unrecorded_eq (hne : playerId ≠ "") (hstep : RoundStep r c r') :
    unrecorded playerId r' = unrecorded playerId r + c.correctedFor playerId := by
  obtain ⟨es, hledger, hkinds⟩ := hstep.appended
  have hother : c.settlement? r = none →
      (∀ t ∈ c.entryTypes, t ≠ .payoutAwarded ∧ t ≠ .payoutCorrected) →
      unrecorded playerId r' = unrecorded playerId r := fun hc h =>
    unrecorded_of_appended hledger (hstep.payouts_eq hc) fun e he => h _ (hkinds e he)
  cases hstep with
  | retried | bet | street | reversed | adjusted | reopened =>
    exact (hother rfl (by simp [RoundCommand.entryTypes])).trans (add_zero _).symm
  | @settled c data ids r' hc hset =>
    have hzero : c.correctedFor playerId = 0 := by
      cases c with
      | resolveHand | declareWinner => rfl
      | betting | reverseAction | adjustStack | reopenHand | correctPayout => cases hc
    rw [hzero, add_zero, hset.unrecorded_eq hne]
  | corrected hcons => exact CorrectPayoutRequest.unrecorded_eq hne _

/-! ## Every run -/

/-- After every run the two records of a player differ by the corrections of his payouts. -/
lemma unrecorded_run (hdeal : createRound d.toRoundSetup ids = .ok r₀) (hne : playerId ≠ "")
    (cs : List RoundCommand) :
    unrecorded playerId (roundMachine.run r₀ cs) =
      ((roundMachine.trace r₀ cs).map fun t => t.command.correctedFor playerId).sum := by
  obtain ⟨-, hcons, rfl⟩ := createRound_eq_ok_iff.mp hdeal
  have hnew : unrecorded playerId (d.tables ids) = 0 := by
    rw [unrecorded, getHandState_totalWon, booked_won_eq_zero fun e he => ?_]
    · rfl
    · rcases entryType_of_mem_tables he with h | h <;> simp [h]
  rw [Machine.run_measure (I := RoundTables.Constraints) (m := unrecorded playerId)
    (w := fun t => t.command.correctedFor playerId) ?_ hcons cs, hnew, zero_add]
  intro r c r' hcons hok
  have hstep := round_step_cases hcons.playerIds hok
  exact ⟨hstep.constraints hcons, hstep.unrecorded_eq hne⟩

/-- **When the two records of the payouts agree.** After every run of commands on a dealt round the
payout rows of every player add up to the chips he has won by the ledger, exactly when the
corrections of payouts that were carried out have taken as many chips from each player as they have
given to him. -/
theorem payouts_recorded_iff (hdeal : createRound d.toRoundSetup ids = .ok r₀)
    (cs : List RoundCommand) :
    PayoutsRecorded (roundMachine.run r₀ cs) ↔
      ∀ p ∈ d.players,
        ((roundMachine.trace r₀ cs).map fun t => t.command.correctedFor p.playerId).sum = 0 := by
  obtain ⟨hseat, -⟩ := round_run_invariant hdeal (I := fun _ => True) (fun _ _ _ _ _ _ => trivial)
    trivial cs
  have hrecorded : PayoutsRecorded (roundMachine.run r₀ cs) ↔
      ∀ id ∈ (roundMachine.run r₀ cs).players.map (·.playerId),
        unrecorded id (roundMachine.run r₀ cs) = 0 := by
    rw [List.forall_mem_map]
    exact forall₂_congr fun p _ => eq_comm.trans sub_eq_zero.symm
  rw [hrecorded, hseat.playerIds, List.forall_mem_map]
  exact forall₂_congr fun p hp => by rw [unrecorded_run hdeal (d.ids_ne p hp) cs]

/-- A correction that takes three chips from one player and gives them to another. -/
def moveThree (oldPlayerId newPlayerId entryId : String) (hold : oldPlayerId ≠ "" := by decide)
    (hnew : newPlayerId ≠ "" := by decide) : RoundCommand :=
  .correctPayout
    { oldPlayerId := oldPlayerId
      oldAmount := 3
      newPlayerId := newPlayerId
      newAmount := 3
      oldPlayerId_ne := hold
      newPlayerId_ne := hnew
      oldAmount_nonneg := by decide
      newAmount_nonneg := by decide } (named [entryId])

/-- A correction that is taken back leaves the records of a heads-up hand in agreement. -/
theorem payouts_recorded_iff_headsUp :
    PayoutsRecorded (roundMachine.run (headsUp.tables headsUpIds)
      (foldedHand ++ [moveThree "bob" "alice" "c1", moveThree "alice" "bob" "c2"])) :=
  (payouts_recorded_iff
    (show createRound headsUp.toRoundSetup headsUpIds = .ok (headsUp.tables headsUpIds) by decide)
    _).mpr (by decide)

/-- A corrected payout stays in the payout rows as it was. -/
theorem corrected_payout_unrecorded :
    ¬ ∀ (d : Deal) (ids : Uuids) (r₀ : RoundTables), createRound d.toRoundSetup ids = .ok r₀ →
      ∀ cs : List RoundCommand, PayoutsRecorded (roundMachine.run r₀ cs) := by
  intro h
  have hrecorded := h headsUp headsUpIds (headsUp.tables headsUpIds) (by decide)
    (foldedHand ++ [moveThree "bob" "alice" "c1"])
  exact absurd hrecorded (by decide)

end PokerRoom
