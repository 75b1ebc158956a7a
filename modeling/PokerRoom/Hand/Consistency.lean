import PokerRoom.Application.GameQueries
import PokerRoom.Hand.Resettlement

/-!
# The consistency check

`check_consistency` compares the pot and the commitments of a round with the hand rebuilt from its
ledger, for all players of the round, while the ledger only names those who have posted, acted or
won.  `consistency_check_iff` says that a hand without corrections passes the check exactly when
every player is one of these.
-/

namespace PokerRoom

open Foundation

/-! ## Definitions -/

/-- The player has put chips into the pot, or a bet or a payout of his is recorded. -/
def TookPart (r : RoundTables) (p : RoundPlayer) : Prop :=
  0 < p.committedThisHand ∨ (∃ b ∈ r.bets, b.playerId = p.playerId) ∨
    ∃ row ∈ r.payouts, row.playerId = p.playerId

instance (r : RoundTables) : DecidablePred (TookPart r) := fun _ =>
  inferInstanceAs (Decidable (_ ∨ _ ∨ _))

/-- The players named by the entries of a kind, in the order of the ledger. -/
def namedBy (t : LedgerEntryType) (ledger : List HandLedgerEntry) : List (Option String) :=
  (ledger.filter fun e => e.entryType = t).map (·.playerId)

/-- The ledger of a hand without corrections records its bets and payouts one by one, and no empty
posting. -/
structure RowsRecorded (r : RoundTables) : Prop where
  /-- Nothing is corrected. -/
  not_correction : ∀ e ∈ r.ledger, e.entryType.isCorrection = false
  /-- The bets. -/
  bets : namedBy .betPlaced r.ledger = r.bets.map fun b => some b.playerId
  /-- The payouts. -/
  payouts : namedBy .payoutAwarded r.ledger = r.payouts.map fun row => some row.playerId
  /-- The blinds and antes. -/
  postings : ∀ e ∈ r.ledger, e.entryType = .blindPosted ∨ e.entryType = .antePosted →
    0 < e.amount.getD 0

variable {r r' : RoundTables} {d : Deal} {ids : Uuids} {p : RoundPlayer}

/-! ## What the ledger records -/

/-- Entries are named in the order in which they are written. -/
lemma namedBy_append (t : LedgerEntryType) (ledger es : List HandLedgerEntry) :
    namedBy t (ledger ++ es) = namedBy t ledger ++ namedBy t es := by
  simp [namedBy]

/-- Entries of other kinds are not among those of a kind. -/
lemma namedBy_eq_nil {t : LedgerEntryType} {es : List HandLedgerEntry}
    (h : ∀ e ∈ es, e.entryType ≠ t) : namedBy t es = [] := by
  rw [namedBy, List.filter_eq_nil_iff.mpr (by simpa using h), List.map_nil]

/-- An entry of a kind names one of the players of that kind. -/
lemma mem_namedBy {t : LedgerEntryType} {ledger : List HandLedgerEntry} {name : Option String} :
    name ∈ namedBy t ledger ↔ ∃ e ∈ ledger, e.entryType = t ∧ e.playerId = name := by
  simp [namedBy, and_assoc]

/-- A new round records its postings. -/
lemma rowsRecorded_tables (d : Deal) (ids : Uuids) : RowsRecorded (d.tables ids) := by
  refine ⟨fun e he => ?_, ?_, ?_, fun e he _ => ?_⟩
  · rcases entryType_of_mem_tables he with h | h <;> rw [h] <;> rfl
  · exact namedBy_eq_nil fun e he heq => by
      rcases entryType_of_mem_tables he with h | h <;> simp [h] at heq
  · exact namedBy_eq_nil fun e he heq => by
      rcases entryType_of_mem_tables he with h | h <;> simp [h] at heq
  · obtain ⟨id, pp, -, hpos, rfl⟩ := exists_posting he
    simpa using hpos

/-- Rows written together with their entries keep being recorded. -/
lemma RowsRecorded.append (h : RowsRecorded r) {es : List HandLedgerEntry} {bs : List Bet}
    {rows : List RoundPayout} (hledger : r'.ledger = r.ledger ++ es)
    (hbets : r'.bets = r.bets ++ bs) (hpayouts : r'.payouts = r.payouts ++ rows)
    (hkinds : ∀ e ∈ es, e.entryType = .betPlaced ∨ e.entryType = .payoutAwarded ∨
      e.entryType = .roundCompleted)
    (hnewBets : namedBy .betPlaced es = bs.map fun b => some b.playerId)
    (hnewPayouts : namedBy .payoutAwarded es = rows.map fun row => some row.playerId) :
    RowsRecorded r' := by
  refine ⟨?_, ?_, ?_, ?_⟩
  · rw [hledger, List.forall_mem_append]
    refine ⟨h.not_correction, fun e he => ?_⟩
    rcases hkinds e he with hk | hk | hk <;> rw [hk] <;> rfl
  · rw [hledger, namedBy_append, h.bets, hnewBets, hbets, List.map_append]
  · rw [hledger, namedBy_append, h.payouts, hnewPayouts, hpayouts, List.map_append]
  · rw [hledger, List.forall_mem_append]
    refine ⟨h.postings, fun e he hposted => ?_⟩
    rcases hkinds e he with hk | hk | hk <;> simp [hk] at hposted

/-- The payout entries of a settlement name the winners of its payout rows. -/
lemma namedBy_entries (data : ResolveHandRequest) (r : RoundTables) (ids : Uuids) :
    namedBy .payoutAwarded (data.entries r ids) = data.awards.map fun row => some row.playerId := by
  have hall : ∀ e ∈ data.awards.mapIdx fun i row => row.entry (ids i),
      e.entryType = .payoutAwarded := by
    intro e he
    obtain ⟨i, hi, rfl⟩ := List.mem_mapIdx.mp he
    rfl
  have hlast : namedBy .payoutAwarded
      [roundCompletedEntry r.round.potAmount (ids data.awards.length)] = [] :=
    namedBy_eq_nil (by simp [roundCompletedEntry])
  rw [ResolveHandRequest.entries, namedBy_append, hlast, List.append_nil, namedBy,
    List.filter_eq_self.mpr (by simpa using hall)]
  exact map_mapIdx_of_eq (v := fun e : HandLedgerEntry => e.playerId)
    (f := fun i (row : RoundPayout) => row.entry (ids i)) (fun _ _ => rfl) _

/-- An accepted command that corrects nothing keeps the rows recorded. -/
lemma RowsRecorded.step (h : RowsRecorded r) {c : RoundCommand} (hcorr : ¬ c.IsCorrection)
    (hstep : RoundStep r c r') : RowsRecorded r' := by
  cases hstep with
  | retried => exact h
  | bet happ =>
    rw [happ.after]
    refine h.append rfl rfl (List.append_nil _).symm ?_ ?_ ?_
    · simp [recordBetAction]
    · simp [namedBy, recordBetAction]
    · simp [namedBy, recordBetAction]
  | street hadv =>
    cases hadv.outcome with
    | settleHand | showdown | nextStreet => exact ⟨h.not_correction, h.bets, h.payouts, h.postings⟩
  | @settled c data ids r' hc hset =>
    have hkinds : ∀ e ∈ data.entries r ids, e.entryType = .payoutAwarded ∨
        e.entryType = .roundCompleted := by
      intro e he
      rcases List.mem_append.mp he with he | he
      · obtain ⟨i, hi, rfl⟩ := List.mem_mapIdx.mp he
        exact Or.inl rfl
      · rw [List.mem_singleton.mp he]
        exact Or.inr rfl
    rw [hset.after]
    refine h.append (List.append_assoc _ _ _) (List.append_nil _).symm rfl
      (fun e he => Or.inr (hkinds e he)) ?_ (namedBy_entries data r ids)
    exact namedBy_eq_nil fun e he heq => by rcases hkinds e he with hk | hk <;> simp [hk] at heq
  | reversed | adjusted | reopened | corrected => exact absurd trivial hcorr

/-! ## Who is listed -/

/-- An entry that corrects nothing lists the player it names when it is a posting, a bet or a
payout. -/
lemma lists_iff_of_not_correction {e : HandLedgerEntry} (hcorr : e.entryType.isCorrection = false)
    {playerId : String} :
    e.Lists playerId ↔ truthy e.playerId = some playerId ∧
      ((e.entryType = .blindPosted ∨ e.entryType = .antePosted) ∨ e.entryType = .betPlaced ∨
        e.entryType = .payoutAwarded) := by
  unfold LedgerRow.Lists
  cases hk : e.entryType with
  | blindPosted | antePosted | betPlaced | payoutAwarded => simp
  | roundCompleted | handReopened | streetDealt | unknown => simp
  | actionReversed | stackAdjusted | payoutCorrected =>
    simp [hk, LedgerEntryType.isCorrection] at hcorr

/-- Some entry of a player weighs something where he has committed chips. -/
lemma exists_entry_of_committed (hagrees : ReplayAgrees r) (hp : p ∈ r.players)
    (hpos : 0 < p.committedThisHand) :
    ∃ e ∈ r.ledger, e.committedWeight p.playerId ≠ 0 := by
  have hsum := hagrees.2 p hp
  rw [getHandState_totalCommitted, booked] at hsum
  by_contra hno
  push Not at hno
  rw [List.sum_eq_zero (List.forall_mem_map.mpr hno)] at hsum
  omega

/-- A player of a hand without corrections has committed at least the amount of his postings. -/
lemma RowsRecorded.committed_pos (h : RowsRecorded r) (hamounts : AmountsNonneg r)
    (hagrees : ReplayAgrees r) (hp : p ∈ r.players) {e : HandLedgerEntry} (he : e ∈ r.ledger)
    (hposted : e.entryType = .blindPosted ∨ e.entryType = .antePosted)
    (hname : truthy e.playerId = some p.playerId) : 0 < p.committedThisHand := by
  have hpot : ∀ e ∈ r.ledger, 0 ≤ e.potWeight := by
    intro e he
    have hcorr := h.not_correction e he
    have hamount := hamounts e he hcorr
    unfold LedgerRow.potWeight
    split
    · exact hamount
    · exact hamount
    · exact hamount
    · next hrev => simp [hrev, LedgerEntryType.isCorrection] at hcorr
    · exact le_rfl
  have hweight : ∀ e ∈ r.ledger, 0 ≤ e.committedWeight p.playerId := by
    intro e he
    unfold LedgerRow.committedWeight weightFor
    split
    · exact hpot e he
    · exact le_rfl
  have hone : 0 < e.committedWeight p.playerId := by
    rw [LedgerRow.committedWeight, weightFor, if_pos hname, LedgerRow.potWeight]
    rcases hposted with hk | hk <;> rw [hk] <;> exact h.postings e he (by simp [hk])
  have hsum := List.single_le_sum (l := r.ledger.map fun e => e.committedWeight p.playerId)
    (by simpa using hweight) _ (List.mem_map_of_mem he)
  rw [← hagrees.2 p hp, getHandState_totalCommitted]
  exact hone.trans_le hsum

/-- Whoever is listed by a hand without corrections took part in it. -/
lemma RowsRecorded.tookPart_of_lists (h : RowsRecorded r) (hamounts : AmountsNonneg r)
    (hagrees : ReplayAgrees r) (hp : p ∈ r.players) {e : HandLedgerEntry} (he : e ∈ r.ledger)
    (hlists : e.Lists p.playerId) : TookPart r p := by
  have hmem : ∀ t, e.entryType = t → e.playerId ∈ namedBy t r.ledger :=
    fun t ht => mem_namedBy.mpr ⟨e, he, ht, rfl⟩
  have hsome : ∀ name, truthy (some name) = some p.playerId → name = p.playerId :=
    fun name hname => Option.some.inj (Option.filter_eq_some_iff.mp hname).1
  obtain ⟨hname, hposted | hk | hk⟩ :=
    (lists_iff_of_not_correction (h.not_correction e he)).mp hlists
  · exact Or.inl (h.committed_pos hamounts hagrees hp he hposted hname)
  · have hbet := hmem _ hk
    rw [h.bets] at hbet
    obtain ⟨b, hb, hid⟩ := List.mem_map.mp hbet
    rw [← hid] at hname
    exact Or.inr (Or.inl ⟨b, hb, hsome _ hname⟩)
  · have hrow := hmem _ hk
    rw [h.payouts] at hrow
    obtain ⟨row, hrow, hid⟩ := List.mem_map.mp hrow
    rw [← hid] at hname
    exact Or.inr (Or.inr ⟨row, hrow, hsome _ hname⟩)

/-- An entry of a bet or a payout lists the player it names. -/
lemma exists_lists_of_named (hne : p.playerId ≠ "") {t : LedgerEntryType}
    (ht : t = .betPlaced ∨ t = .payoutAwarded) (hmem : some p.playerId ∈ namedBy t r.ledger) :
    ∃ e ∈ r.ledger, e.Lists p.playerId := by
  obtain ⟨e, he, hk, hname⟩ := mem_namedBy.mp hmem
  refine ⟨e, he, ?_⟩
  unfold LedgerRow.Lists
  rw [hk, hname, truthy_some hne]
  rcases ht with rfl | rfl <;> rfl

/-- Whoever took part in a hand without corrections is listed by it. -/
lemma RowsRecorded.lists_of_tookPart (h : RowsRecorded r) (hne : p.playerId ≠ "")
    (hagrees : ReplayAgrees r) (hp : p ∈ r.players) (htook : TookPart r p) :
    ∃ e ∈ r.ledger, e.Lists p.playerId := by
  rcases htook with hpos | ⟨b, hb, hid⟩ | ⟨row, hrow, hid⟩
  · obtain ⟨e, he, hweight⟩ := exists_entry_of_committed hagrees hp hpos
    have hcorr := h.not_correction e he
    refine ⟨e, he, (lists_iff_of_not_correction hcorr).mpr ?_⟩
    unfold LedgerRow.committedWeight weightFor at hweight
    split at hweight
    · next hname =>
      refine ⟨hname, ?_⟩
      unfold LedgerRow.potWeight at hweight
      cases hk : e.entryType with
      | blindPosted | antePosted | betPlaced | payoutAwarded => simp
      | roundCompleted | handReopened | streetDealt | stackAdjusted | payoutCorrected | unknown =>
        simp [hk] at hweight
      | actionReversed => simp [hk, LedgerEntryType.isCorrection] at hcorr
    · exact absurd rfl hweight
  · refine exists_lists_of_named hne (Or.inl rfl) ?_
    rw [h.bets, ← hid]
    exact List.mem_map_of_mem hb
  · refine exists_lists_of_named hne (Or.inr rfl) ?_
    rw [h.payouts, ← hid]
    exact List.mem_map_of_mem hrow

/-- A player listed by a hand without corrections is one of its players. -/
lemma RowsRecorded.mem_of_lists (h : RowsRecorded r) (hnamed : EntriesNamed r) {playerId : String}
    {e : HandLedgerEntry} (he : e ∈ r.ledger) (hlists : e.Lists playerId) :
    playerId ∈ r.players.map (·.playerId) := by
  have hcorr := h.not_correction e he
  obtain ⟨hname, -⟩ := (lists_iff_of_not_correction hcorr).mp hlists
  rcases hnamed e he hcorr with ⟨-, hnone⟩ | ⟨p, hp, hid⟩
  · rw [hnone] at hname
    cases hname
  · exact List.mem_map.mpr ⟨p, hp, Option.some.inj (hid.symm.trans hname)⟩

/-! ## Every run -/

/-- In a run without corrections the rows are recorded and the replay agrees. -/
lemma rowsRecorded_run {r₀ : RoundTables} (hdeal : createRound d.toRoundSetup ids = .ok r₀)
    {cs : List RoundCommand} (hcs : ∀ c ∈ cs, ¬ c.IsCorrection) :
    RowsRecorded (roundMachine.run r₀ cs) ∧ ReplayAgrees (roundMachine.run r₀ cs) := by
  obtain ⟨-, -, rfl⟩ := createRound_eq_ok_iff.mp hdeal
  refine (Machine.run_invariant_of_forall (M := roundMachine)
    (I := fun r => (SeatedAs d.toRoundSetup r ∧ AmountsNonneg r) ∧ RowsRecorded r ∧ ReplayAgrees r)
    ?_ ⟨⟨seatedAs_tables _ ids, amountsNonneg_tables d ids⟩, rowsRecorded_tables d ids,
      replayAgrees_tables d ids⟩ hcs).2
  rintro r c r' hcorr ⟨⟨hseat, hamounts⟩, hrows, hagrees⟩ hok
  have hstep := round_step_cases hseat.ids_nodup hok
  obtain ⟨es, hb, hp⟩ := hstep.booked hseat hamounts
  have hno : ∀ data ids, c ≠ .reverseAction data ids := by
    rintro data ids rfl
    exact hcorr trivial
  exact ⟨⟨hseat.roundStep hstep, hamounts.of_booked hb⟩, hrows.step hcorr hstep,
    hagrees.of_projected hb (hp hno)⟩

/-- **When the consistency check passes.** After every run of commands without corrections on a
dealt round the check reports nothing exactly when every player of the round has put chips into the
pot, or a bet or a payout of his is recorded. -/
theorem consistency_check_iff {r₀ : RoundTables} (hdeal : createRound d.toRoundSetup ids = .ok r₀)
    {cs : List RoundCommand} (hcs : ∀ c ∈ cs, ¬ c.IsCorrection) :
    ((checkConsistency (roundMachine.run r₀ cs)).isConsistent = true ∧
        (checkConsistency (roundMachine.run r₀ cs)).discrepancies = []) ↔
      ∀ p ∈ (roundMachine.run r₀ cs).players, TookPart (roundMachine.run r₀ cs) p := by
  obtain ⟨hrows, hagrees⟩ := rowsRecorded_run hdeal hcs
  obtain ⟨hseat, hbal⟩ := balanced_run hdeal cs
  set r := roundMachine.run r₀ cs
  have hconsistent : ((checkConsistency r).isConsistent = true ∧
      (checkConsistency r).discrepancies = []) ↔ (checkConsistency r).discrepancies = [] := by
    simp [checkConsistency]
  have hentries : ∀ id, (∃ e ∈ r.ledger.map (·.toLedgerRow), e.Lists id) ↔
      ∃ e ∈ r.ledger, e.Lists id := fun id => by simp
  rw [hconsistent]
  unfold checkConsistency
  dsimp only
  rw [verifyConsistency_eq_nil_iff]
  simp only [hentries, List.forall_mem_map, List.map_map]
  constructor
  · rintro ⟨-, hlive, -⟩ p hp
    obtain ⟨⟨e, he, hlists⟩, -⟩ := hlive p hp
    exact hrows.tookPart_of_lists hbal.amounts hagrees hp he hlists
  · intro htook
    refine ⟨hagrees.1, fun p hp => ⟨?_, hagrees.2 p hp⟩, fun playerId ⟨e, he, hlists⟩ => ?_⟩
    · exact hrows.lists_of_tookPart (hseat.playerId_ne hp) hagrees hp (htook p hp)
    · exact hrows.mem_of_lists hbal.named he hlists

/-- A folded hand that is settled passes the check. -/
theorem consistency_check_iff_headsUp :
    (checkConsistency (roundMachine.run (headsUp.tables headsUpIds) foldedHand)).isConsistent =
      true ∧
      (checkConsistency (roundMachine.run (headsUp.tables headsUpIds) foldedHand)).discrepancies =
        [] :=
  (consistency_check_iff
    (show createRound headsUp.toRoundSetup headsUpIds = .ok (headsUp.tables headsUpIds) by decide)
    (by decide)).mpr (by decide)

/-- A new hand of three players fails the check: the button has posted nothing. -/
theorem new_hand_reported :
    ¬ ∀ (d : Deal) (ids : Uuids) (r₀ : RoundTables), createRound d.toRoundSetup ids = .ok r₀ →
      ∀ cs : List RoundCommand, (∀ c ∈ cs, ¬ c.IsCorrection) →
        (checkConsistency (roundMachine.run r₀ cs)).isConsistent = true ∧
          (checkConsistency (roundMachine.run r₀ cs)).discrepancies = [] := by
  intro h
  have hpassed := h threeHanded (named ["sb", "bb"]) (threeHanded.tables (named ["sb", "bb"]))
    (by decide) [] (by simp)
  exact absurd hpassed.1 (by decide)

end PokerRoom
