import PokerRoom.Hand.LedgerAccount

/-!
# The chips a reversal moves

`reverse_action` gives the amount of the reversed entry to the player it names, whatever the entry
records.  `reversal_undoes_iff` says that this undoes the entry exactly when it records no payout:
chips that were awarded are awarded again.
-/

namespace PokerRoom

open Foundation

/-! ## Definitions -/

/-- Unless it is a correction, an entry that names a player records chips he has committed or chips
he was awarded. -/
def LedgerRow.MovesChips (e : LedgerRow) : Prop :=
  e.entryType.isCorrection = false → e.playerId ≠ none →
    (e.entryType = .blindPosted ∨ e.entryType = .antePosted ∨ e.entryType = .betPlaced) ∨
      e.entryType = .payoutAwarded ∧ 1 ≤ e.amount.getD 0

/-- Every entry of the ledger says whose chips it moved. -/
def RecordsMovements (r : RoundTables) : Prop := ∀ e ∈ r.ledger, e.toLedgerRow.MovesChips

variable {r r' : RoundTables} {d : Deal} {ids : Uuids} {data : ReverseActionRequest}
  {original : HandLedgerEntry} {p p' : RoundPlayer}

/-! ## What the entries record -/

/-- Entries that move chips keep the ledger recording movements. -/
lemma RecordsMovements.append (h : RecordsMovements r) {es : List HandLedgerEntry}
    (hledger : r'.ledger = r.ledger ++ es) (hes : ∀ e ∈ es, e.toLedgerRow.MovesChips) :
    RecordsMovements r' := by
  intro e he
  rw [hledger] at he
  rcases List.mem_append.mp he with he | he
  · exact h e he
  · exact hes e he

/-- A correction is no movement of the hand. -/
lemma movesChips_of_isCorrection {e : LedgerRow} (h : e.entryType.isCorrection = true) :
    e.MovesChips := by
  intro hcorr
  rw [h] at hcorr
  cases hcorr

/-- The entries of a settlement are awards and the completion of the round. -/
lemma ResolveHandRequest.entries_movesChips (data : ResolveHandRequest) (r : RoundTables)
    (ids : Uuids) : ∀ e ∈ data.entries r ids, e.toLedgerRow.MovesChips := by
  intro e he _ hnamed
  rcases List.mem_append.mp he with he | he
  · obtain ⟨i, hi, rfl⟩ := List.mem_mapIdx.mp he
    exact Or.inr ⟨rfl, data.awards_pos _ (List.getElem_mem hi)⟩
  · rw [List.mem_singleton.mp he] at hnamed
    exact absurd rfl hnamed

/-- Every accepted command records what it moves. -/
lemma RecordsMovements.step (h : RecordsMovements r) {c : RoundCommand} (hstep : RoundStep r c r') :
    RecordsMovements r' := by
  cases hstep with
  | retried => exact h
  | bet happ =>
    refine h.append (by rw [happ.after]; rfl) ?_
    rw [List.forall_mem_singleton]
    exact fun _ _ => Or.inl (Or.inr (Or.inr rfl))
  | street hadv =>
    have hnone : ∀ e ∈ ([] : List HandLedgerEntry), e.toLedgerRow.MovesChips := by simp
    refine h.append ?_ hnone
    cases hadv.outcome with
    | settleHand | showdown | nextStreet => simp
  | @settled _ data ids _ hc hset =>
    refine h.append ?_ (data.entries_movesChips r ids)
    rw [hset.after]
    simp [ResolveHandRequest.write, ResolveHandRequest.entries]
  | reversed hrev =>
    refine h.append hrev.ledger_eq ?_
    rw [List.forall_mem_singleton]
    exact movesChips_of_isCorrection rfl
  | adjusted | reopened | corrected =>
    refine h.append rfl ?_
    rw [List.forall_mem_singleton]
    exact movesChips_of_isCorrection rfl

/-- The ledger of a new round records what was posted. -/
lemma recordsMovements_tables (d : Deal) (ids : Uuids) : RecordsMovements (d.tables ids) := by
  intro e he _ _
  rcases entryType_of_mem_tables he with h | h
  · exact Or.inl (Or.inl h)
  · exact Or.inl (Or.inr (Or.inl h))

/-- After every run of commands the ledger records movements. -/
lemma recordsMovements_run {r₀ : RoundTables} (hdeal : createRound d.toRoundSetup ids = .ok r₀)
    (cs : List RoundCommand) : RecordsMovements (roundMachine.run r₀ cs) := by
  refine (round_run_invariant hdeal (fun r c r' _ h hstep => h.step hstep) ?_ cs).2
  obtain ⟨-, -, rfl⟩ := createRound_eq_ok_iff.mp hdeal
  exact recordsMovements_tables d ids

/-! ## One reversal -/

/-- A reversal adds the amount of the reversed entry to the stack of the player it names. -/
lemma Reversed.stackRemaining_eq (hseat : SeatedAs d.toRoundSetup r) (hamounts : AmountsNonneg r)
    (hrev : Reversed r data ids original r') (hp : p ∈ r.players)
    (hname : original.playerId = some p.playerId) (hp' : p' ∈ r'.players)
    (hid : p'.playerId = p.playerId) :
    p'.stackRemaining = p.stackRemaining + original.amount.getD 0 := by
  obtain ⟨q, hq, hqid, hstack⟩ :=
    (hrev.booked hseat (hrev.amount_nonneg hamounts)).stack p' hp'
  obtain rfl : q = p := eq_of_key_eq hseat.ids_nodup hq hp (hqid.trans hid)
  dsimp only at hstack
  rw [hstack, booked_singleton, (reversalEntry_weights original data ids _).2.2, hname,
    weightFor_some (hseat.playerId_ne hq), if_pos rfl, neg_neg]

/-- What the entry of a commitment has moved. -/
lemma stackWeight_of_commitment {e : LedgerRow} {playerId : String} (hne : playerId ≠ "")
    (hname : e.playerId = some playerId)
    (h : e.entryType = .blindPosted ∨ e.entryType = .antePosted ∨ e.entryType = .betPlaced) :
    e.stackWeight playerId = -e.amount.getD 0 := by
  rcases h with h | h | h <;>
    simp [LedgerRow.stackWeight, LedgerRow.adjustmentWeight, LedgerRow.committedWeight,
      LedgerRow.potWeight, LedgerRow.wonWeight, h, hname, weightFor_some hne]

/-- What the entry of a payout has moved. -/
lemma stackWeight_of_payout {e : LedgerRow} {playerId : String} (hne : playerId ≠ "")
    (hname : e.playerId = some playerId) (h : e.entryType = .payoutAwarded) :
    e.stackWeight playerId = e.amount.getD 0 := by
  simp [LedgerRow.stackWeight, LedgerRow.adjustmentWeight, LedgerRow.committedWeight,
    LedgerRow.potWeight, LedgerRow.wonWeight, h, hname, weightFor_some hne]

/-- Every command of a run on a dealt round is booked. -/
lemma booked_of_mem_trace {r₀ : RoundTables} (hdeal : createRound d.toRoundSetup ids = .ok r₀)
    (cs : List RoundCommand) :
    ∀ t ∈ roundMachine.trace r₀ cs, ∃ es, Booked t.before t.after es := by
  obtain ⟨-, -, rfl⟩ := createRound_eq_ok_iff.mp hdeal
  have htrace := Machine.trace_invariant (M := roundMachine)
    (I := fun r => SeatedAs d.toRoundSetup r ∧ AmountsNonneg r) ?_
    ⟨seatedAs_tables _ ids, amountsNonneg_tables d ids⟩ cs
  · intro t ht
    obtain ⟨⟨hseat, hamounts⟩, hok, -⟩ := htrace t ht
    obtain ⟨es, hb, -⟩ := (round_step_cases hseat.ids_nodup hok).booked hseat hamounts
    exact ⟨es, hb⟩
  · rintro r c r' ⟨hseat, hamounts⟩ hok
    have hstep := round_step_cases hseat.ids_nodup hok
    obtain ⟨es, hb, -⟩ := hstep.booked hseat hamounts
    exact ⟨hseat.roundStep hstep, hamounts.of_booked hb⟩

/-- **A reversal undoes the movement it names, exactly when it is no payout.**  In every run of
commands on a dealt round the stacks start from what was dealt and move by what the recorded entries
weigh.  An accepted reversal moves the stack of the player its entry names by the opposite of that
weight exactly when the entry does not record a payout. -/
theorem reversal_undoes_iff {r₀ : RoundTables} (hdeal : createRound d.toRoundSetup ids = .ok r₀)
    (cs : List RoundCommand) :
    StacksAccounted d.toRoundSetup r₀ ∧
      (∀ t ∈ roundMachine.trace r₀ cs, ∃ es, Booked t.before t.after es) ∧
      ∀ data ids' entry r', reverseAction (roundMachine.run r₀ cs) data ids' = .ok (entry, r') →
        ∀ original, (roundMachine.run r₀ cs).ledger.find?
            (fun e => e.entryId = data.originalEntryId) = some original →
        ∀ p ∈ (roundMachine.run r₀ cs).players, original.playerId = some p.playerId →
        ∀ p' ∈ r'.players, p'.playerId = p.playerId →
          (p'.stackRemaining - p.stackRemaining = -original.stackWeight p.playerId ↔
            original.entryType ≠ .payoutAwarded) := by
  refine ⟨(stacksAccounted_run hdeal []).1, booked_of_mem_trace hdeal cs, ?_⟩
  intro data ids' entry r' hok original hfound p hp hname p' hp' hid
  have hamounts := (stacksAccounted_run hdeal cs).2
  have hseat := (round_run_invariant hdeal (I := fun _ => True)
    (fun _ _ _ _ _ _ => trivial) trivial cs).1
  obtain ⟨original, hrev, -⟩ := reverseAction_eq_ok_iff.mp hok
  obtain rfl := Option.some.inj (hrev.found.symm.trans hfound)
  have hne := hseat.playerId_ne hp
  rw [hrev.stackRemaining_eq hseat hamounts hp hname hp' hid]
  rcases recordsMovements_run hdeal cs original hrev.mem hrev.not_correction (by simp [hname])
    with hkind | ⟨hkind, hamount⟩
  · rw [stackWeight_of_commitment hne hname hkind]
    refine iff_of_true (by omega) ?_
    rcases hkind with hk | hk | hk <;> simp [hk]
  · rw [stackWeight_of_payout hne hname hkind]
    refine iff_of_false (fun h => ?_) (not_not.mpr hkind)
    omega

/-- Reversing a call gives its chip back. -/
theorem reversal_undoes_call :
    ∃ entry r', reverseAction (roundMachine.run (headsUp.tables headsUpIds)
        [.betting (.send "alice" "call" 0 "b1" "e1")]) { originalEntryId := "e1" }
        (named ["back"]) = .ok (entry, r') ∧
      ∀ p' ∈ r'.players, p'.playerId = "alice" → p'.stackRemaining = 99 := by
  obtain ⟨p, hp, hid, hstack⟩ : ∃ p ∈ (roundMachine.run (headsUp.tables headsUpIds)
      [.betting (.send "alice" "call" 0 "b1" "e1")]).players,
    p.playerId = "alice" ∧ p.stackRemaining = 98 := by decide
  obtain ⟨original, hfound, hname, hweight, hkind⟩ :
      ∃ original ∈ (roundMachine.run (headsUp.tables headsUpIds)
        [.betting (.send "alice" "call" 0 "b1" "e1")]).ledger.find? fun e => e.entryId = "e1",
      original.playerId = some "alice" ∧ original.stackWeight "alice" = -1 ∧
        original.entryType ≠ .payoutAwarded := by decide
  refine ⟨_, _, rfl, fun p' hp' hid' => ?_⟩
  have hback := ((reversal_undoes_iff
    (show createRound headsUp.toRoundSetup headsUpIds = .ok (headsUp.tables headsUpIds) by decide)
    [.betting (.send "alice" "call" 0 "b1" "e1")]).2.2 { originalEntryId := "e1" }
    (named ["back"]) _ _ rfl original hfound p hp (hid ▸ hname) p' hp' (hid'.trans hid.symm)).mpr
    hkind
  rw [hid, hstack, hweight] at hback
  exact eq_add_of_sub_eq hback

/-- Reversing a payout awards its chips once more. -/
theorem reversed_payout_awarded_again :
    ¬ ∀ (d : Deal) (ids : Uuids) (r₀ : RoundTables), createRound d.toRoundSetup ids = .ok r₀ →
      ∀ (cs : List RoundCommand) data ids' entry r',
        reverseAction (roundMachine.run r₀ cs) data ids' = .ok (entry, r') →
        ∀ original, (roundMachine.run r₀ cs).ledger.find?
            (fun e => e.entryId = data.originalEntryId) = some original →
        ∀ p ∈ (roundMachine.run r₀ cs).players, original.playerId = some p.playerId →
        ∀ p' ∈ r'.players, p'.playerId = p.playerId →
          p'.stackRemaining - p.stackRemaining = -original.stackWeight p.playerId := by
  intro h
  have hall := h headsUp headsUpIds (headsUp.tables headsUpIds) (by decide) foldedHand
    { originalEntryId := "p1" } (named ["back"]) _ _ rfl _ rfl
  exact absurd hall (by decide)

end PokerRoom
