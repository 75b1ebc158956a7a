import PokerRoom.Hand.Chips
import PokerRoom.Hand.RoundRun

/-!
# What is booked

Every command that moves chips of a round appends entries to its ledger.  The stacks always move by
what these entries weigh (`Booked`); the pot and the commitments do so as well (`Projected`), except
under a reversal, which does not let them fall below zero.  `RoundStep.booked` says so of every
accepted command.
-/

namespace PokerRoom

open Foundation

/-! ## Definitions -/

/-- What an entry adds to the stack of a player. -/
def LedgerRow.stackWeight (playerId : String) (e : LedgerRow) : Int :=
  e.adjustmentWeight playerId - e.committedWeight playerId + e.wonWeight playerId

/-- What entries add up to. -/
def booked (w : LedgerRow → Int) (es : List HandLedgerEntry) : Int :=
  (es.map fun e => w e.toLedgerRow).sum

/-- The stacks move by what the entries appended to the ledger weigh, and no recorded amount is
negative, corrections aside. -/
structure Booked (r r' : RoundTables) (es : List HandLedgerEntry) : Prop where
  /-- The entries are appended. -/
  ledger : r'.ledger = r.ledger ++ es
  /-- Their amounts are not negative. -/
  amounts : ∀ e ∈ es, e.entryType.isCorrection = false → 0 ≤ e.amount.getD 0
  /-- The stacks move by their weights. -/
  stack : Moved (·.playerId) (·.stackRemaining) (fun id => booked (·.stackWeight id) es)
    r.players r'.players

/-- The pot and the commitments to the hand move by what the entries weigh. -/
structure Projected (r r' : RoundTables) (es : List HandLedgerEntry) : Prop where
  /-- The pot. -/
  pot : r'.round.potAmount = r.round.potAmount + booked (·.potWeight) es
  /-- The commitments. -/
  commitments : Moved (·.playerId) (·.committedThisHand)
    (fun id => booked (·.committedWeight id) es) r.players r'.players

/-- The chips payout rows award to a player. -/
def awardedTo (playerId : String) (awards : List RoundPayout) : Int :=
  (awards.map fun row => if row.playerId = playerId then row.amount else 0).sum

/-! ## Weights -/

/-- No two identifiers agree, and none of them is in the ledger. -/
structure Unused (ids : Uuids) (r : RoundTables) : Prop where
  /-- No two identifiers agree. -/
  injective : Function.Injective ids
  /-- None is in the ledger. -/
  not_mem : ∀ n, ids n ∉ r.ledger.map (·.entryId)

variable {s : RoundSetup} {r r' : RoundTables} {d : Deal} {playerId name : String}
  {w : LedgerRow → Int} {es es' : List HandLedgerEntry} {ids : Uuids}

/-- No entries add up to nothing. -/
@[simp] lemma booked_nil : booked w [] = 0 := rfl

/-- A single entry adds up to its weight. -/
@[simp] lemma booked_singleton (e : HandLedgerEntry) : booked w [e] = w e.toLedgerRow := by
  simp [booked]

/-- Entries written after each other add up. -/
@[simp] lemma booked_append : booked w (es ++ es') = booked w es + booked w es' := by
  simp [booked]

/-- An amount booked on a name counts for the player of that name. -/
lemma weightFor_some (hne : playerId ≠ "") (x : Int) :
    weightFor playerId (some name) x = if name = playerId then x else 0 := by
  unfold weightFor
  by_cases hname : name = ""
  · subst hname
    simp [truthy, Option.filter, Ne.symm hne]
  · simp [truthy_some hname]

/-- The rebuilt stack movement of a player is the sum of the stack weights of the entries. -/
lemma getHandState_stack (r : RoundTables) (playerId : String) :
    (getHandState r).stackAdjustment playerId - (getHandState r).totalCommitted playerId +
      (getHandState r).totalWon playerId = booked (·.stackWeight playerId) r.ledger := by
  unfold getHandState booked LedgerRow.stackWeight
  rw [rebuildHandState_stackAdjustment, rebuildHandState_totalCommitted, rebuildHandState_totalWon,
    List.map_map, List.map_map, List.map_map]
  induction r.ledger with
  | nil => rfl
  | cons e es ih =>
    simp only [List.map_cons, List.sum_cons, Function.comp_apply] at ih ⊢
    omega

/-- The rebuilt pot is the sum of the pot weights of the entries. -/
lemma getHandState_potTotal (r : RoundTables) :
    (getHandState r).potTotal = booked (·.potWeight) r.ledger := by
  rw [getHandState, rebuildHandState_potTotal, List.map_map]
  rfl

/-- The rebuilt commitment of a player is the sum of the committed weights of the entries. -/
lemma getHandState_totalCommitted (r : RoundTables) (playerId : String) :
    (getHandState r).totalCommitted playerId = booked (·.committedWeight playerId) r.ledger := by
  rw [getHandState, rebuildHandState_totalCommitted, List.map_map]
  rfl

/-- The rebuilt winnings of a player are the sum of the won weights of the entries. -/
lemma getHandState_totalWon (r : RoundTables) (playerId : String) :
    (getHandState r).totalWon playerId = booked (·.wonWeight playerId) r.ledger := by
  rw [getHandState, rebuildHandState_totalWon, List.map_map]
  rfl

/-- Updating the row of one player moves a measure by what is booked on his name. -/
lemma SeatedAs.moved (hseat : SeatedAs d.toRoundSetup r) {m : RoundPlayer → Int}
    {f : RoundPlayer → RoundPlayer} (x : Int) {w : String → Int}
    (hid : ∀ p, (f p).playerId = p.playerId) (hm : ∀ p, m (f p) = m p + x)
    (hw : ∀ id, id ≠ "" → w id = if name = id then x else 0) :
    Moved (·.playerId) m w r.players
      (Foundation.updateFirst (·.playerId) name f r.players) := by
  refine moved_updateFirst hseat.ids_nodup hid (fun p hp hk => ?_) fun p hp hk => ?_
  · rw [hm, hw name (hk ▸ hseat.playerId_ne hp), if_pos rfl]
  · rw [hw p.playerId (hseat.playerId_ne hp), if_neg (Ne.symm hk)]

/-! ## The betting -/

/-- An applied bet is booked. -/
lemma BetApplied.booked (hseat : SeatedAs d.toRoundSetup r) {data : PlaceBet} {p : PlayerState}
    {a : BetAction} {v : ValidatedAction} (happ : BetApplied r data ids p a v r') :
    ∃ es, Booked r r' es ∧ Projected r r' es := by
  have hbet : 0 ≤ v.amount := by
    refine happ.constraints.bets
      (recordBetAction data.playerId v.action v.amount data.idempotencyKey ids).1 ?_
    rw [happ.after]
    exact List.mem_append_right _ List.mem_cons_self
  set entry := (recordBetAction data.playerId v.action v.amount data.idempotencyKey ids).2
    with hentry
  have hstack : ∀ id, id ≠ "" →
      PokerRoom.booked (·.stackWeight id) [entry] =
          if data.playerId = id then -v.amount else 0 := by
    intro id hne
    simp only [hentry, recordBetAction, booked_singleton, LedgerRow.stackWeight,
      LedgerRow.adjustmentWeight, LedgerRow.committedWeight, LedgerRow.potWeight,
      LedgerRow.wonWeight, weightFor_some hne, Option.getD_some]
    split <;> omega
  have hcommitted : ∀ id, id ≠ "" →
      PokerRoom.booked (·.committedWeight id) [entry] =
        if data.playerId = id then v.amount else 0 := by
    intro id hne
    simp only [hentry, recordBetAction, booked_singleton, LedgerRow.committedWeight,
      LedgerRow.potWeight, weightFor_some hne, Option.getD_some]
  refine ⟨[entry], ?_, ?_⟩
  · rw [happ.after]
    refine ⟨rfl, ?_, hseat.moved (-v.amount) (fun _ => rfl) (fun _ => ?_) hstack⟩
    · simpa [hentry, recordBetAction] using fun _ => hbet
    · exact sub_eq_add_neg _ _
  · rw [happ.after]
    refine ⟨?_, hseat.moved v.amount (fun _ => rfl) (fun _ => rfl) hcommitted⟩
    simp [RoundTables.afterBet, Round.acted, hentry, recordBetAction, LedgerRow.potWeight]

/-- An advance of the street books nothing. -/
lemma StreetOutcome.booked (hout : StreetOutcome r r') :
    ∃ es, Booked r r' es ∧ Projected r r' es := by
  refine ⟨[], ?_⟩
  cases hout with
  | settleHand =>
    exact ⟨⟨by simp, by simp, moved_refl fun _ _ => rfl⟩, by simp, moved_refl fun _ _ => rfl⟩
  | showdown =>
    exact ⟨⟨by simp, by simp, moved_map (fun _ _ => rfl) fun _ _ => by simp⟩, by simp,
      moved_map (fun _ _ => rfl) fun _ _ => by simp⟩
  | nextStreet st p hp hcan =>
    exact ⟨⟨by simp, by simp, moved_map (fun _ _ => rfl) fun _ _ => by simp⟩, by simp,
      moved_map (fun _ _ => rfl) fun _ _ => by simp⟩

/-! ## The settlement -/

/-- No chips are awarded by no payout rows. -/
@[simp] lemma awardedTo_nil : awardedTo playerId [] = 0 := rfl

/-- A payout row adds its chips to what its winner is awarded. -/
lemma awardedTo_cons (row : RoundPayout) (awards : List RoundPayout) :
    awardedTo playerId (row :: awards) =
      (if row.playerId = playerId then row.amount else 0) + awardedTo playerId awards := by
  simp [awardedTo]

/-- The chips awarded by payout rows written after each other add up. -/
lemma awardedTo_append (awards awards' : List RoundPayout) :
    awardedTo playerId (awards ++ awards') = awardedTo playerId awards +
      awardedTo playerId awards' := by
  simp [awardedTo]

/-- Handing out payouts moves every stack by the chips awarded to its player. -/
lemma moved_foldl_award {players : List RoundPlayer} (hnd : (players.map (·.playerId)).Nodup)
    (awards : List RoundPayout) :
    Moved (·.playerId) (·.stackRemaining) (fun id => awardedTo id awards) players
      (awards.foldl award players) := by
  induction awards generalizing players with
  | nil => exact moved_refl fun _ _ => rfl
  | cons row awards ih =>
    have hids : (award players row).map (·.playerId) = players.map (·.playerId) :=
      map_updateFirst_of_eq _ fun _ => rfl
    have hone : Moved (·.playerId) (·.stackRemaining)
        (fun id => if row.playerId = id then row.amount else 0) players (award players row) :=
      moved_updateFirst hnd (fun _ => rfl) (fun p _ _ => by simp)
        fun p _ hk => if_neg (Ne.symm hk)
    rw [List.foldl_cons]
    refine (hone.trans (ih (hids ▸ hnd))).congr fun p _ => ?_
    rw [awardedTo_cons]

/-- The entries a settlement appends. -/
def ResolveHandRequest.entries (data : ResolveHandRequest) (r : RoundTables) (ids : Uuids) :
    List HandLedgerEntry :=
  (data.awards.mapIdx fun i row => row.entry (ids i)) ++
    [roundCompletedEntry r.round.potAmount (ids data.awards.length)]

/-- The entries of a settlement add up to the weights of its payout rows. -/
lemma ResolveHandRequest.booked_entries (data : ResolveHandRequest) (r : RoundTables) (ids : Uuids)
    {g : RoundPayout → Int} (hrow : ∀ id row, w (RoundPayout.entry row id).toLedgerRow = g row)
    (hcompleted : w (roundCompletedEntry r.round.potAmount (ids data.awards.length)).toLedgerRow =
      0) :
    booked w (data.entries r ids) = (data.awards.map g).sum := by
  rw [ResolveHandRequest.entries, booked_append, booked_singleton, hcompleted, add_zero, booked,
    map_mapIdx_of_eq (v := fun e : HandLedgerEntry => w e.toLedgerRow) fun i row =>
      hrow (ids i) row]

/-- Every payout row awards at least one chip. -/
lemma ResolveHandRequest.awards_pos (data : ResolveHandRequest) :
    ∀ row ∈ data.awards, 1 ≤ row.amount := by
  intro row hrow
  obtain ⟨pot, -, hrow⟩ := List.mem_flatMap.mp hrow
  obtain ⟨winner, -, rfl⟩ := List.mem_map.mp hrow
  exact winner.amount_pos

/-- Entries with unused identifiers are distinct from those of the ledger. -/
lemma Unused.append {ids : Uuids} (h : Unused ids r) (hnd : (r.ledger.map (·.entryId)).Nodup)
    {es : List HandLedgerEntry} {n : ℕ} (hes : es.map (·.entryId) = (List.range n).map ids) :
    ((r.ledger ++ es).map (·.entryId)).Nodup := by
  rw [List.map_append, hes]
  refine hnd.append ((List.nodup_map_iff h.injective).mpr List.nodup_range) ?_
  rintro id hid hids
  obtain ⟨m, -, rfl⟩ := List.mem_map.mp hids
  exact h.not_mem m hid

/-- The identifiers of the entries of a settlement. -/
lemma ResolveHandRequest.entryIds (data : ResolveHandRequest) (r : RoundTables) (ids : Uuids) :
    (data.entries r ids).map (·.entryId) = (List.range (data.awards.length + 1)).map ids := by
  rw [ResolveHandRequest.entries, List.map_append, List.range_succ, List.map_append]
  refine congrArg₂ _ ?_ rfl
  refine List.ext_getElem (by simp) fun n h h' => ?_
  simp [RoundPayout.entry]

/-- Payouts leave nobody in the red. -/
lemma foldl_award_nonNegative {awards : List RoundPayout} (hawards : ∀ row ∈ awards, 1 ≤ row.amount)
    {players : List RoundPlayer} (hplayers : ∀ p ∈ players, p.NonNegative) :
    ∀ p ∈ awards.foldl award players, p.NonNegative := by
  induction awards generalizing players with
  | nil => exact hplayers
  | cons row awards ih =>
    rw [List.forall_mem_cons] at hawards
    refine ih hawards.2 (forall_updateFirst hplayers fun p hp _ => ?_)
    have hold := hplayers p hp
    exact ⟨add_nonneg hold.1 (le_trans zero_le_one hawards.1), hold.2⟩

/-- A settlement writes no negative payout. -/
lemma ResolveHandRequest.payouts_nonneg (data : ResolveHandRequest)
    (h : ∀ p ∈ r.payouts, 0 ≤ p.amount) :
    ∀ p ∈ r.payouts ++ data.awards, 0 ≤ p.amount :=
  List.forall_mem_append.mpr ⟨h, fun p hp => zero_le_one.trans (data.awards_pos p hp)⟩

/-- A settlement with unused identifiers keeps those of the ledger distinct. -/
lemma ResolveHandRequest.entryIds_nodup (data : ResolveHandRequest) {ids : Uuids}
    (hids : Unused ids r) (hnd : (r.ledger.map (·.entryId)).Nodup) :
    ((data.write r ids).ledger.map (·.entryId)).Nodup := by
  rw [ResolveHandRequest.write, List.append_assoc]
  exact hids.append hnd (data.entryIds r ids)

/-- A settlement with unused identifiers keeps the constraints. -/
lemma ResolveHandRequest.write_constraints (data : ResolveHandRequest) (hcons : r.Constraints)
    {ids : Uuids} (hids : Unused ids r) : (data.write r ids).Constraints := by
  have hversion : 1 ≤ r.round.version + 1 := by
    have hround := hcons.round.2.2.2
    rw [Round.version_eq hround]
    omega
  constructor
  · exact ⟨hcons.round.1, hcons.round.2.1, hcons.round.2.2.1, hversion⟩
  · exact foldl_award_nonNegative data.awards_pos hcons.players
  · exact (congrArg List.Nodup (map_foldl_award fun _ _ => rfl)).mpr hcons.playerIds
  · exact (congrArg List.Nodup (map_foldl_award fun _ _ => rfl)).mpr hcons.seatNumbers
  · exact hcons.bets
  · exact hcons.betIds
  · exact hcons.idempotencyKeys
  · exact data.payouts_nonneg hcons.payouts
  · exact data.entryIds_nodup hids hcons.entryIds

/-- A settlement is booked. -/
lemma Settled.booked (hseat : SeatedAs d.toRoundSetup r) {data : ResolveHandRequest}
    (hset : Settled r data ids r') : ∃ es, Booked r r' es ∧ Projected r r' es := by
  have hpot : 0 ≤ r.round.potAmount := by
    have h := hset.constraints.round.1
    rw [hset.after] at h
    exact h
  have hstack : ∀ id, id ≠ "" →
      PokerRoom.booked (·.stackWeight id) (data.entries r ids) = awardedTo id data.awards := by
    intro id hne
    refine data.booked_entries r ids (fun i row => ?_) ?_
    · simp [RoundPayout.entry, LedgerRow.stackWeight, LedgerRow.adjustmentWeight,
        LedgerRow.committedWeight, LedgerRow.potWeight, LedgerRow.wonWeight, weightFor_some hne]
    · simp [roundCompletedEntry, LedgerRow.stackWeight, LedgerRow.adjustmentWeight,
        LedgerRow.committedWeight, LedgerRow.potWeight, LedgerRow.wonWeight]
  have hzero : ∀ id, PokerRoom.booked (·.committedWeight id) (data.entries r ids) = 0 := by
    intro id
    rw [data.booked_entries r ids (g := fun _ => 0)]
    · simp
    · simp [RoundPayout.entry, LedgerRow.committedWeight, LedgerRow.potWeight]
    · simp [roundCompletedEntry, LedgerRow.committedWeight, LedgerRow.potWeight]
  have hpotWeight : PokerRoom.booked (·.potWeight) (data.entries r ids) = 0 := by
    rw [data.booked_entries r ids (g := fun _ => 0)]
    · simp
    · simp [RoundPayout.entry, LedgerRow.potWeight]
    · simp [roundCompletedEntry, LedgerRow.potWeight]
  refine ⟨data.entries r ids, ?_, ?_⟩
  · rw [hset.after]
    refine ⟨by simp [ResolveHandRequest.write, ResolveHandRequest.entries], ?_, ?_⟩
    · intro e he _
      rcases List.mem_append.mp he with he | he
      · obtain ⟨i, hi, rfl⟩ := List.mem_mapIdx.mp he
        exact le_trans zero_le_one (data.awards_pos _ (List.getElem_mem hi))
      · rw [List.mem_singleton.mp he]
        exact hpot
    · refine (moved_foldl_award hseat.ids_nodup data.awards).congr fun p hp => ?_
      exact (hstack _ (hseat.playerId_ne hp)).symm
  · rw [hset.after]
    refine ⟨by rw [hpotWeight, add_zero]; rfl, ?_⟩
    exact moved_of_map_eq (map_foldl_award fun _ _ => rfl) fun p _ => hzero p.playerId

/-! ## The corrections -/

/-- What a reversal books. -/
lemma reversalEntry_weights (original : HandLedgerEntry) (data : ReverseActionRequest) (ids : Uuids)
    (playerId : String) :
    (reversalEntry original data ids).potWeight = -original.amount.getD 0 ∧
      (reversalEntry original data ids).committedWeight playerId =
        weightFor playerId original.playerId (-original.amount.getD 0) ∧
      (reversalEntry original data ids).stackWeight playerId =
        -weightFor playerId original.playerId (-original.amount.getD 0) := by
  simp [reversalEntry, LedgerRow.stackWeight, LedgerRow.adjustmentWeight,
    LedgerRow.committedWeight, LedgerRow.potWeight, LedgerRow.wonWeight]

/-- A reversal of an entry that is not negative is booked in the stacks. -/
lemma Reversed.booked (hseat : SeatedAs d.toRoundSetup r) {data : ReverseActionRequest}
    {original : HandLedgerEntry} (hrev : Reversed r data ids original r')
    (hamount : 0 ≤ original.amount.getD 0) :
    Booked r r' [reversalEntry original data ids] := by
  have hstack := fun id => (reversalEntry_weights original data ids id).2.2
  rw [hrev.after]
  rcases data.write_cases original r ids with ⟨name, hname, -, hw⟩ | ⟨hnothing, hw⟩
  · rw [hw]
    refine ⟨rfl, by simp [reversalEntry, LedgerEntryType.isCorrection], ?_⟩
    refine hseat.moved (original.amount.getD 0) (fun _ => rfl) (fun _ => rfl) fun id _ => ?_
    simp only [booked_singleton, hstack, weightFor, hname, Option.some.injEq]
    split <;> omega
  · rw [hw]
    refine ⟨rfl, by simp [reversalEntry, LedgerEntryType.isCorrection], moved_refl fun p _ => ?_⟩
    rw [booked_singleton, hstack]
    rcases hnothing with hnone | hle
    · simp [weightFor, hnone]
    · rw [le_antisymm hle hamount]
      simp

/-- Adding chips to the stack of one player moves it by these chips. -/
lemma SeatedAs.moved_addStack (hseat : SeatedAs d.toRoundSetup r) (name : String) (x : Int) :
    Moved (·.playerId) (·.stackRemaining) (fun id => if name = id then x else 0) r.players
      (addStack name x r.players) :=
  hseat.moved x (fun _ => rfl) (fun _ => rfl) fun _ _ => rfl

/-- An adjustment of a stack is booked. -/
lemma AdjustStackRequest.booked (hseat : SeatedAs d.toRoundSetup r) (data : AdjustStackRequest) :
    ∃ es, Booked r (data.write r ids) es ∧ Projected r (data.write r ids) es := by
  refine ⟨_, ⟨rfl, by simp [LedgerEntryType.isCorrection], ?_⟩,
    ⟨by simp [AdjustStackRequest.write, LedgerRow.potWeight], ?_⟩⟩
  · refine (hseat.moved_addStack data.playerId data.amount).congr fun p hp => ?_
    simp [LedgerRow.stackWeight, LedgerRow.adjustmentWeight, LedgerRow.committedWeight,
      LedgerRow.potWeight, LedgerRow.wonWeight, weightFor_some (hseat.playerId_ne hp)]
  · refine moved_of_map_eq (map_addStack fun _ _ => rfl) fun p _ => ?_
    simp [LedgerRow.committedWeight, LedgerRow.potWeight]

/-- Reopening a hand is booked. -/
lemma ReopenHandRequest.booked (data : ReopenHandRequest) :
    ∃ es, Booked r (data.write r ids) es ∧ Projected r (data.write r ids) es := by
  refine ⟨_, ⟨rfl, by simp [LedgerEntryType.isCorrection], moved_refl fun p _ => ?_⟩,
    ⟨by simp [ReopenHandRequest.write, LedgerRow.potWeight], moved_refl fun p _ => ?_⟩⟩
  · simp [LedgerRow.stackWeight, LedgerRow.adjustmentWeight, LedgerRow.committedWeight,
      LedgerRow.potWeight, LedgerRow.wonWeight]
  · simp [LedgerRow.committedWeight, LedgerRow.potWeight]

/-- A correction of a payout is booked. -/
lemma CorrectPayoutRequest.booked (hseat : SeatedAs d.toRoundSetup r)
    (data : CorrectPayoutRequest) :
    ∃ es, Booked r (data.write r ids) es ∧ Projected r (data.write r ids) es := by
  have hseat' : SeatedAs d.toRoundSetup
      { r with players := addStack data.oldPlayerId (-data.oldAmount) r.players } :=
    hseat.congr (map_addStack fun _ _ => rfl) (map_addStack fun _ _ => rfl)
  refine ⟨_, ⟨rfl, by simp [LedgerEntryType.isCorrection], ?_⟩,
    ⟨by simp [CorrectPayoutRequest.write, LedgerRow.potWeight], ?_⟩⟩
  · have htaken := hseat.moved_addStack data.oldPlayerId (-data.oldAmount)
    have hgiven := hseat'.moved_addStack data.newPlayerId data.newAmount
    refine (htaken.trans hgiven).congr fun p hp => ?_
    simp [LedgerRow.stackWeight, LedgerRow.adjustmentWeight, LedgerRow.committedWeight,
      LedgerRow.potWeight, LedgerRow.wonWeight, weightFor_some (hseat.playerId_ne hp)]
  · refine moved_of_map_eq ((map_addStack fun _ _ => rfl).trans (map_addStack fun _ _ => rfl))
      fun p _ => ?_
    simp [LedgerRow.committedWeight, LedgerRow.potWeight]

/-! ## Every command -/

/-- No recorded amount is negative, corrections aside. -/
def AmountsNonneg (r : RoundTables) : Prop :=
  ∀ e ∈ r.ledger, e.entryType.isCorrection = false → 0 ≤ e.amount.getD 0

/-- Booked entries keep the recorded amounts from being negative. -/
lemma AmountsNonneg.of_booked (h : AmountsNonneg r) (hb : Booked r r' es) : AmountsNonneg r' := by
  intro e he
  rw [hb.ledger] at he
  rcases List.mem_append.mp he with he | he
  · exact h e he
  · exact hb.amounts e he

/-- The reversed entry is one of the ledger. -/
lemma Reversed.mem {data : ReverseActionRequest} {original : HandLedgerEntry}
    (hrev : Reversed r data ids original r') : original ∈ r.ledger :=
  List.mem_of_find?_eq_some hrev.found

/-- The amount of a reversed entry is not negative. -/
lemma Reversed.amount_nonneg (h : AmountsNonneg r) {data : ReverseActionRequest}
    {original : HandLedgerEntry} (hrev : Reversed r data ids original r') :
    0 ≤ original.amount.getD 0 :=
  h original hrev.mem hrev.not_correction

/-- Every accepted command is booked, and the pot and the commitments follow unless it is a
reversal. -/
theorem RoundStep.booked (hseat : SeatedAs d.toRoundSetup r) (h : AmountsNonneg r)
    {c : RoundCommand} (hstep : RoundStep r c r') :
    ∃ es, Booked r r' es ∧ ((∀ data ids, c ≠ .reverseAction data ids) → Projected r r' es) := by
  have weaken : (∃ es, Booked r r' es ∧ Projected r r' es) →
      ∃ es, Booked r r' es ∧ ((∀ data ids, c ≠ .reverseAction data ids) → Projected r r' es) :=
    fun ⟨es, hb, hp⟩ => ⟨es, hb, fun _ => hp⟩
  cases hstep with
  | retried data ids =>
    exact ⟨[], ⟨by simp, by simp, moved_refl fun _ _ => rfl⟩, fun _ => ⟨by simp,
      moved_refl fun _ _ => rfl⟩⟩
  | bet happ => exact weaken (happ.booked hseat)
  | street hadv => exact weaken hadv.outcome.booked
  | settled hc hset => exact weaken (hset.booked hseat)
  | reversed hrev =>
    exact ⟨_, hrev.booked hseat (hrev.amount_nonneg h), fun hno => absurd rfl (hno _ _)⟩
  | adjusted hcons => exact weaken (AdjustStackRequest.booked hseat _)
  | reopened hstatus hcons => exact weaken (ReopenHandRequest.booked _)
  | corrected hcons => exact weaken (CorrectPayoutRequest.booked hseat _)

end PokerRoom
