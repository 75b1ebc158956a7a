import PokerRoom.Hand.Booking

/-!
# The ledger and the stored rows

The replay of the ledger and the stored rows of a round are two accounts of the same chips.  The
stacks agree after every run of commands (`ledger_accounts_for_stacks`).  The pot and the
commitments agree until a reversal takes more from them than they hold (`replay_agrees_iff`).
-/

namespace PokerRoom

open Foundation

/-! ## Definitions -/

/-- Every stack is what its player was dealt and what the ledger has booked on it since. -/
def StacksAccounted (s : RoundSetup) (r : RoundTables) : Prop :=
  ∀ p ∈ r.players,
    p.stackRemaining = s.dealt p.playerId + booked (·.stackWeight p.playerId) r.ledger

/-- The rebuilt hand has the pot of the round and the commitments of its players. -/
def ReplayAgrees (r : RoundTables) : Prop :=
  (getHandState r).potTotal = r.round.potAmount ∧
    ∀ p ∈ r.players, (getHandState r).totalCommitted p.playerId = p.committedThisHand

instance : DecidablePred ReplayAgrees := fun _ => inferInstanceAs (Decidable (_ ∧ _))

/-- The reversal a command asks for, if it asks for one. -/
def RoundCommand.reversal? : RoundCommand → Option ReverseActionRequest
  | .reverseAction data _ => some data
  | _ => none

/-- The entry a request reverses moved no chips, or it names a player and takes no more than the pot
holds and than he has committed. -/
def ReverseActionRequest.Covered (data : ReverseActionRequest) (r : RoundTables) : Prop :=
  ∀ original ∈ r.ledger.find? fun e => e.entryId = data.originalEntryId,
    original.amount.getD 0 = 0 ∨
      ∃ name ∈ truthy original.playerId, original.amount.getD 0 ≤ r.round.potAmount ∧
        ∀ p ∈ r.players, p.playerId = name → original.amount.getD 0 ≤ p.committedThisHand

instance (data : ReverseActionRequest) (r : RoundTables) : Decidable (data.Covered r) :=
  inferInstanceAs (Decidable (∀ original ∈ r.ledger.find? _, _))

variable {s : RoundSetup} {r r' : RoundTables} {d : Deal} {w : LedgerRow → Int}
  {es : List HandLedgerEntry} {ids : Uuids}

/-! ## A new round -/

/-- The entries of a new round add up to what they weigh for the posted players. -/
lemma booked_tables (s : RoundSetup) (ids : Uuids) {g : PostedPlayer → Int}
    (hw : ∀ id pp, w (s.postingEntry id pp).toLedgerRow = g pp)
    (hzero : ∀ pp ∈ s.posting.players, ¬ 0 < pp.committedThisHand → g pp = 0) :
    booked w (s.tables ids).ledger = (s.posting.players.map g).sum := by
  have hmap := map_mapIdx_of_eq (v := fun e : HandLedgerEntry => w e.toLedgerRow)
    (f := fun i pp => s.postingEntry (ids i) pp) fun i pp => hw (ids i) pp
  rw [booked, RoundSetup.tables, hmap]
  exact sum_map_filter_of_eq_zero g fun pp hpp hno => hzero pp hpp (by simpa using hno)

/-- What the entry of a posted player weighs. -/
lemma RoundSetup.postingEntry_weights (s : RoundSetup) (id : String) (pp : PostedPlayer) :
    (s.postingEntry id pp).potWeight = pp.committedThisHand ∧
    ∀ playerId, playerId ≠ "" →
      (s.postingEntry id pp).committedWeight playerId =
        (if pp.playerId = playerId then pp.committedThisHand else 0) ∧
      (s.postingEntry id pp).stackWeight playerId =
        if pp.playerId = playerId then -pp.committedThisHand else 0 := by
  have hpot : (s.postingEntry id pp).potWeight = pp.committedThisHand := by
    unfold RoundSetup.postingEntry LedgerRow.potWeight
    split_ifs <;> rfl
  have hcommitted : ∀ playerId, playerId ≠ "" → (s.postingEntry id pp).committedWeight playerId =
      if pp.playerId = playerId then pp.committedThisHand else 0 := by
    intro playerId hne
    rw [LedgerRow.committedWeight, hpot]
    exact weightFor_some hne _
  refine ⟨hpot, fun playerId hne => ⟨hcommitted playerId hne, ?_⟩⟩
  have hrest : (s.postingEntry id pp).adjustmentWeight playerId = 0 ∧
      (s.postingEntry id pp).wonWeight playerId = 0 := by
    unfold RoundSetup.postingEntry LedgerRow.adjustmentWeight LedgerRow.wonWeight
    split_ifs <;> exact ⟨rfl, rfl⟩
  rw [LedgerRow.stackWeight, hcommitted playerId hne, hrest.1, hrest.2]
  split <;> omega

/-- No posted commitment is negative. -/
lemma Deal.posted_nonneg (d : Deal) {pp : PostedPlayer} (hpp : pp ∈ d.posting.players) :
    0 ≤ pp.committedThisHand := by
  obtain ⟨p, hp, rfl⟩ := List.mem_map.mp hpp
  have hspec := d.postPlayer_spec hp
  rw [hspec.hand_eq_street]
  exact hspec.committed_nonneg

/-- The posted players are distinct. -/
lemma Deal.posted_nodup (d : Deal) : (d.posting.players.map (·.playerId)).Nodup := by
  have hids : d.posting.players.map (·.playerId) = d.players.map (·.playerId) := by
    simp only [RoundSetup.posting, postBlindsAndAntes, List.map_map]
    rfl
  rw [hids]
  exact d.ids_nodup

/-- In a new round a player's entries add up to what he has posted. -/
lemma Deal.booked_posted (d : Deal) (ids : Uuids) {pp : PostedPlayer}
    (hpp : pp ∈ d.posting.players) (hne : pp.playerId ≠ "") :
    booked (·.committedWeight pp.playerId) (d.tables ids).ledger = pp.committedThisHand ∧
      booked (·.stackWeight pp.playerId) (d.tables ids).ledger = -pp.committedThisHand := by
  have hzero : ∀ q ∈ d.posting.players, ¬ 0 < q.committedThisHand → q.committedThisHand = 0 :=
    fun q hq hno => le_antisymm (not_lt.mp hno) (d.posted_nonneg hq)
  constructor
  · rw [booked_tables _ _ (fun id q => ((d.postingEntry_weights id q).2 _ hne).1) fun q hq hno => by
      simp [hzero q hq hno]]
    exact sum_map_ite_key (·.committedThisHand) d.posted_nodup hpp
  · rw [booked_tables _ _ (fun id q => ((d.postingEntry_weights id q).2 _ hne).2) fun q hq hno => by
      simp [hzero q hq hno]]
    exact sum_map_ite_key (fun q => -q.committedThisHand) d.posted_nodup hpp

/-- In a new round no recorded amount is negative. -/
lemma amountsNonneg_tables (d : Deal) (ids : Uuids) : AmountsNonneg (d.tables ids) := by
  intro e he _
  obtain ⟨id, pp, hpp, -, rfl⟩ := exists_posting he
  simpa using d.posted_nonneg hpp

/-- In a new round the ledger accounts for the stacks. -/
lemma stacksAccounted_tables (d : Deal) (ids : Uuids) :
    StacksAccounted d.toRoundSetup (d.tables ids) := by
  intro rp hrp
  have hchips := (chipsConserved_tables d ids).players rp hrp
  have hne := (seatedAs_tables d.toRoundSetup ids).playerId_ne hrp
  obtain ⟨pp, hpp, rfl⟩ := List.mem_map.mp hrp
  have hadd := hchips.stack_add_hand
  have hbook := (d.booked_posted ids hpp hne).2
  simp only [PostedPlayer.toRoundPlayer] at hadd hbook ⊢
  omega

/-- In a new round the replay agrees. -/
lemma replayAgrees_tables (d : Deal) (ids : Uuids) : ReplayAgrees (d.tables ids) := by
  constructor
  · rw [getHandState_potTotal, booked_tables _ _ (fun id q => (d.postingEntry_weights id q).1)
      fun q hq hno => le_antisymm (not_lt.mp hno) (d.posted_nonneg hq)]
    simp only [RoundSetup.tables, RoundSetup.posting, postBlindsAndAntes, List.map_map]
    rfl
  · intro rp hrp
    have hne := (seatedAs_tables d.toRoundSetup ids).playerId_ne hrp
    rw [getHandState_totalCommitted]
    obtain ⟨pp, hpp, rfl⟩ := List.mem_map.mp hrp
    exact (d.booked_posted ids hpp hne).1

/-! ## The stacks -/

/-- Booked entries keep the stacks accounted for. -/
lemma StacksAccounted.of_booked (h : StacksAccounted s r) (hb : Booked r r' es) :
    StacksAccounted s r' := by
  intro p hp
  have hmoved := hb.stack.eq_add
    (W := fun id => s.dealt id + booked (·.stackWeight id) r.ledger) h p hp
  rw [hb.ledger, booked_append, ← add_assoc]
  exact hmoved

/-- After every run of commands the ledger accounts for the stacks, and no recorded amount is
negative. -/
lemma stacksAccounted_run {r₀ : RoundTables} (hdeal : createRound d.toRoundSetup ids = .ok r₀)
    (cs : List RoundCommand) :
    StacksAccounted d.toRoundSetup (roundMachine.run r₀ cs) ∧
      AmountsNonneg (roundMachine.run r₀ cs) := by
  refine (round_run_invariant hdeal
    (I := fun r => StacksAccounted d.toRoundSetup r ∧ AmountsNonneg r) ?_ ?_ cs).2
  · rintro r c r' hseat ⟨hstacks, hamounts⟩ hstep
    obtain ⟨es, hb, -⟩ := hstep.booked hseat hamounts
    exact ⟨hstacks.of_booked hb, hamounts.of_booked hb⟩
  · obtain ⟨-, -, rfl⟩ := createRound_eq_ok_iff.mp hdeal
    exact ⟨stacksAccounted_tables d ids, amountsNonneg_tables d ids⟩

/-- **The ledger accounts for every stack.** After every run of commands on a dealt round, the stack
of every player is what he was dealt, plus the adjustments of his stack, minus the chips he has
committed, plus the chips he has won, as rebuilt from the ledger. -/
theorem ledger_accounts_for_stacks {r₀ : RoundTables}
    (hdeal : createRound d.toRoundSetup ids = .ok r₀) (cs : List RoundCommand) :
    ∀ p ∈ (roundMachine.run r₀ cs).players,
      p.stackRemaining = d.dealt p.playerId +
        (getHandState (roundMachine.run r₀ cs)).stackAdjustment p.playerId -
        (getHandState (roundMachine.run r₀ cs)).totalCommitted p.playerId +
        (getHandState (roundMachine.run r₀ cs)).totalWon p.playerId := by
  intro p hp
  have hstack := (stacksAccounted_run hdeal cs).1 p hp
  rw [← getHandState_stack] at hstack
  omega

/-- A heads-up hand that is settled, reopened and corrected by an adjustment. -/
def adjustedHand : List RoundCommand :=
  foldedHand ++ [.reopenHand {} (named ["again"]),
    .adjustStack ⟨"bob", -7, bob_ne, none, none⟩ (named ["fine"])]

/-- The stack of the winner of a hand that was settled, reopened and adjusted is accounted for. -/
theorem ledger_accounts_for_stacks_headsUp :
    ∃ p ∈ (roundMachine.run (headsUp.tables headsUpIds) adjustedHand).players,
      p.playerId = "bob" ∧ p.stackRemaining = headsUp.dealt p.playerId +
        (getHandState (roundMachine.run (headsUp.tables headsUpIds) adjustedHand)).stackAdjustment
          p.playerId -
        (getHandState (roundMachine.run (headsUp.tables headsUpIds) adjustedHand)).totalCommitted
          p.playerId +
        (getHandState (roundMachine.run (headsUp.tables headsUpIds) adjustedHand)).totalWon
          p.playerId := by
  obtain ⟨p, hp, hid⟩ : ∃ p ∈ (roundMachine.run (headsUp.tables headsUpIds) adjustedHand).players,
    p.playerId = "bob" := by decide
  exact ⟨p, hp, hid, ledger_accounts_for_stacks
    (show createRound headsUp.toRoundSetup headsUpIds = .ok (headsUp.tables headsUpIds) by decide)
    _ p hp⟩

/-! ## The pot and the commitments -/

/-- Booked entries that are projected keep the replay agreeing. -/
lemma ReplayAgrees.of_projected (h : ReplayAgrees r) (hb : Booked r r' es)
    (hp : Projected r r' es) : ReplayAgrees r' := by
  obtain ⟨hpot, hcommitted⟩ := h
  simp only [getHandState_potTotal, getHandState_totalCommitted] at hpot hcommitted
  constructor
  · rw [getHandState_potTotal, hb.ledger, booked_append, hp.pot, hpot]
  · intro p hp'
    have hmoved := hp.commitments.eq_add (W := fun id => booked (·.committedWeight id) r.ledger)
      (fun q hq => (hcommitted q hq).symm) p hp'
    rw [getHandState_totalCommitted, hb.ledger, booked_append]
    exact hmoved.symm

/-- A reversal keeps the replay agreeing exactly when the pot and its player cover it. -/
lemma Reversed.replayAgrees_iff (hseat : SeatedAs d.toRoundSetup r) (hamounts : AmountsNonneg r)
    (h : ReplayAgrees r) {data : ReverseActionRequest} {original : HandLedgerEntry}
    (hrev : Reversed r data ids original r') : ReplayAgrees r' ↔ data.Covered r := by
  have hnonneg := hrev.amount_nonneg hamounts
  have hcovered : data.Covered r ↔ original.amount.getD 0 = 0 ∨
      ∃ name ∈ truthy original.playerId, original.amount.getD 0 ≤ r.round.potAmount ∧
        ∀ p ∈ r.players, p.playerId = name → original.amount.getD 0 ≤ p.committedThisHand := by
    unfold ReverseActionRequest.Covered
    rw [hrev.found]
    simp
  obtain ⟨hpot, hcommitted⟩ := h
  simp only [getHandState_potTotal, getHandState_totalCommitted] at hpot hcommitted
  have hweights := reversalEntry_weights original data ids
  have hledger := hrev.ledger_eq
  have hpotTotal : (getHandState r').potTotal = r.round.potAmount - original.amount.getD 0 := by
    rw [getHandState_potTotal, hledger, booked_append, booked_singleton, hpot, (hweights "").1]
    rfl
  have htotal : ∀ p ∈ r.players, (getHandState r').totalCommitted p.playerId =
      p.committedThisHand + weightFor p.playerId original.playerId (-original.amount.getD 0) := by
    intro p hp
    rw [getHandState_totalCommitted, hledger, booked_append, booked_singleton, hcommitted p hp,
      (hweights p.playerId).2.1]
  rw [hcovered, ReplayAgrees, hpotTotal]
  rw [hrev.after] at htotal ⊢
  rcases data.write_cases original r ids with ⟨name, hname, hpos, hw⟩ | ⟨hnothing, hw⟩
  · rw [hw] at htotal ⊢
    have hmem := fun q => mem_updateFirst_iff (k := name) (b := q)
      (f := PlayerState.uncommit (original.amount.getD 0)) hseat.ids_nodup
    have hweight : ∀ p ∈ r.players, weightFor p.playerId original.playerId
        (-original.amount.getD 0) = if name = p.playerId then -original.amount.getD 0 else 0 := by
      intro p _
      simp [weightFor, hname]
    constructor
    · rintro ⟨hpot', hhands⟩
      refine Or.inr ⟨name, hname, by dsimp only at hpot'; omega, fun p hp hid => ?_⟩
      have hhand := hhands _ ((hmem _).mpr (Or.inl ⟨p, hp, hid, rfl⟩))
      have hid' : (p.uncommit (original.amount.getD 0)).playerId = p.playerId := rfl
      rw [hid', htotal p hp, hweight p hp, if_pos hid.symm] at hhand
      simp only [PlayerState.uncommit] at hhand
      omega
    · rintro (hzero | ⟨name', hname', hle, hcover⟩)
      · omega
      obtain rfl := Option.some.inj (hname.symm.trans hname')
      refine ⟨by dsimp only; omega, fun q hq => ?_⟩
      rcases (hmem q).mp hq with ⟨p, hp, hid, rfl⟩ | ⟨hp, hid⟩
      · have hid' : (p.uncommit (original.amount.getD 0)).playerId = p.playerId := rfl
        have hle' := hcover p hp hid
        rw [hid', htotal p hp, hweight p hp, if_pos hid.symm]
        simp only [PlayerState.uncommit]
        omega
      · rw [htotal q hp, hweight q hp, if_neg (Ne.symm hid), add_zero]
  · rw [hw] at htotal ⊢
    constructor
    · rintro ⟨hpot', -⟩
      left
      dsimp only at hpot'
      omega
    · intro hcover
      have hzero : original.amount.getD 0 = 0 := by
        rcases hcover with hzero | ⟨name, hname, -⟩
        · exact hzero
        · rcases hnothing with hnone | hle
          · rw [hnone] at hname
            cases hname
          · exact le_antisymm hle hnonneg
      refine ⟨by dsimp only; omega, fun p hp => ?_⟩
      rw [htotal p hp, hzero, neg_zero, weightFor_zero, add_zero]

/-- **The replay follows the pot and the commitments, exactly when.**  In every run of commands on a
dealt round the hand rebuilt from the ledger has the pot of the round and the commitments of its
players after every request, exactly when every accepted reversal is covered: the entry it reverses
moved no chips, or it names a player and takes no more than the pot holds and than he has
committed. -/
theorem replay_agrees_iff {r₀ : RoundTables} (hdeal : createRound d.toRoundSetup ids = .ok r₀)
    (cs : List RoundCommand) :
    (∀ k, ReplayAgrees (roundMachine.run r₀ (cs.take k))) ↔
      ∀ t ∈ roundMachine.trace r₀ cs, ∀ data ∈ t.command.reversal?, data.Covered t.before := by
  obtain ⟨-, -, rfl⟩ := createRound_eq_ok_iff.mp hdeal
  refine Machine.forall_run_take_iff
    (J := fun r => SeatedAs d.toRoundSetup r ∧ AmountsNonneg r)
    (P := fun t => ∀ data ∈ t.command.reversal?, data.Covered t.before) ?_ ?_
    ⟨seatedAs_tables _ ids, amountsNonneg_tables d ids⟩ (replayAgrees_tables d ids) cs
  · rintro r c r' ⟨hseat, hamounts⟩ hok
    have hstep := round_step_cases hseat.ids_nodup hok
    obtain ⟨es, hb, -⟩ := hstep.booked hseat hamounts
    exact ⟨hseat.roundStep hstep, hamounts.of_booked hb⟩
  · rintro r c r' ⟨hseat, hamounts⟩ hagrees hok
    have hstep := round_step_cases hseat.ids_nodup hok
    cases hc : c.reversal? with
    | none =>
      obtain ⟨es, hb, hp⟩ := hstep.booked hseat hamounts
      have hno : ∀ data ids, c ≠ .reverseAction data ids := by
        rintro data ids rfl
        cases hc
      simp [hagrees.of_projected hb (hp hno)]
    | some data =>
      cases hstep with
      | reversed hrev =>
        obtain rfl := Option.some.inj hc
        simp [hrev.replayAgrees_iff hseat hamounts hagrees]
      | settled hs hset =>
        cases c <;> simp [RoundCommand.reversal?, RoundCommand.settlement?] at hc hs
      | retried | bet | street | adjusted | reopened | corrected => cases hc

/-- A raise heads-up and its reversal keep the replay agreeing. -/
theorem replay_agrees_iff_headsUp :
    ReplayAgrees (roundMachine.run (headsUp.tables headsUpIds)
      [.betting (.send "alice" "raise" 6 "b1" "e1"),
        .reverseAction { originalEntryId := "e1" } (named ["back"])]) :=
  (replay_agrees_iff
    (show createRound headsUp.toRoundSetup headsUpIds = .ok (headsUp.tables headsUpIds) by decide)
    [.betting (.send "alice" "raise" 6 "b1" "e1"),
      .reverseAction { originalEntryId := "e1" } (named ["back"])]).mpr (by decide) 2

/-- Reversing the completion of a settled round takes the pot out of the replay only. -/
theorem reversed_completion_disagrees :
    ¬ ∀ (d : Deal) (ids : Uuids) (r₀ : RoundTables), createRound d.toRoundSetup ids = .ok r₀ →
      ∀ (cs : List RoundCommand), ReplayAgrees (roundMachine.run r₀ cs) := by
  intro h
  have hagrees := h headsUp headsUpIds (headsUp.tables headsUpIds) (by decide)
    (foldedHand ++ [.reverseAction { originalEntryId := "done" } (named ["back"])])
  exact absurd hagrees (by decide)

end PokerRoom
