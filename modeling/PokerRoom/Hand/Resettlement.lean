import PokerRoom.Hand.LedgerAccount
import PokerRoom.Hand.Settlement

/-!
# Settling a round again

Reopening a hand makes the round active again and leaves the chips of its settlement with the
winners, so that the next settlement pays the pot a second time.  Until a round is settled the
stacks and the pot together hold the dealt chips and what the corrections have added, because a
reversal only takes out of the pot what an action has put into it (`OpenLedger`); from then on they
hold more (`Balanced`).  `resettling_conserves_iff` says that a settlement of the whole pot
conserves the chips exactly when it is the first.
-/

namespace PokerRoom

open Foundation

/-! ## Definitions -/

/-- Chips for a player of a round; another player has no stack they could be added to. -/
def RoundTables.credited (r : RoundTables) (playerId : String) (amount : Int) : Int :=
  if ∃ p ∈ r.players, p.playerId = playerId then amount else 0

/-- What the corrections of a round have added to its stacks. -/
structure CorrectionTotals where
  /-- By adjustments of stacks. -/
  adjusted : Int := 0
  /-- By corrections of payouts. -/
  corrected : Int := 0

/-- Add up what an accepted command adds to the stacks as a correction. -/
def addCorrection (r : RoundTables) (c : RoundCommand) (_ : RoundTables) (h : CorrectionTotals) :
    CorrectionTotals :=
  match c with
  | .adjustStack data _ => { h with adjusted := h.adjusted + r.credited data.playerId data.amount }
  | .correctPayout data _ =>
    { h with corrected := h.corrected + r.credited data.oldPlayerId (-data.oldAmount) +
        r.credited data.newPlayerId data.newAmount }
  | _ => h

/-- What the corrections of a run have added to the stacks of the round. -/
def correctionTotals (r₀ : RoundTables) (cs : List RoundCommand) : CorrectionTotals :=
  ((roundMachine.instrument addCorrection).run (r₀, {}) cs).2

/-- No settlement of the round is recorded. -/
def Unsettled (r : RoundTables) : Prop := ∀ e ∈ r.ledger, e.entryType ≠ .roundCompleted

instance : DecidablePred Unsettled := fun r =>
  inferInstanceAs (Decidable (∀ e ∈ r.ledger, e.entryType ≠ .roundCompleted))

/-- The chips an entry has put into the pot and no reversal has taken out. -/
def outstanding (reversed : List (Option String)) (e : HandLedgerEntry) : Int :=
  if e.entryType.isCorrection = true ∨ reversed.contains (some e.entryId) = true then 0
  else e.amount.getD 0

/-- The pot of a round holds what is outstanding. -/
structure OpenLedger (r : RoundTables) : Prop where
  /-- Only entries of the ledger are reversed. -/
  reversed : ∀ id ∈ reversedIds r.ledger, ∃ e ∈ r.ledger, some e.entryId = id
  /-- The pot. -/
  pot : r.round.potAmount = (r.ledger.map (outstanding (reversedIds r.ledger))).sum

/-- An entry names one of the players, or it completes a round and names nobody. -/
def HandLedgerEntry.NamedAmong (players : List RoundPlayer) (e : HandLedgerEntry) : Prop :=
  (e.entryType = .roundCompleted ∧ truthy e.playerId = none) ∨
    ∃ p ∈ players, truthy e.playerId = some p.playerId

/-- Every recorded entry names a player of the round or completes it, corrections aside. -/
def EntriesNamed (r : RoundTables) : Prop :=
  ∀ e ∈ r.ledger, e.entryType.isCorrection = false → e.NamedAmong r.players

/-- Until a round is settled its stacks and its pot hold the given chips, and they hold more from
then on. -/
structure Balanced (total : Int) (r : RoundTables) : Prop where
  /-- The pot is covered by the commitments. -/
  covered : PotCovered r
  /-- No recorded amount is negative. -/
  amounts : AmountsNonneg r
  /-- The recorded entries name players of the round. -/
  named : EntriesNamed r
  /-- Before the first settlement nothing is lost and nothing is gained. -/
  unsettled : Unsettled r → OpenLedger r ∧ stackTotal r + r.round.potAmount = total
  /-- From the first settlement on there are more chips. -/
  settled : ¬ Unsettled r → total < stackTotal r + r.round.potAmount

variable {r r' : RoundTables} {d : Deal} {ids : Uuids} {es : List HandLedgerEntry}
  {e : HandLedgerEntry} {total : Int}

/-! ## Appended entries -/

/-- Appended entries keep a round unsettled unless one of them completes it. -/
lemma unsettled_append_iff (hledger : r'.ledger = r.ledger ++ es) :
    Unsettled r' ↔ Unsettled r ∧ ∀ e ∈ es, e.entryType ≠ .roundCompleted := by
  rw [Unsettled, hledger, List.forall_mem_append]
  rfl

/-- An appended entry that completes nothing keeps a round settled or unsettled. -/
lemma unsettled_concat_iff (hledger : r'.ledger = r.ledger ++ [e])
    (he : e.entryType ≠ .roundCompleted) : Unsettled r' ↔ Unsettled r := by
  rw [unsettled_append_iff hledger, List.forall_mem_singleton]
  exact and_iff_left he

/-- The recorded entries keep naming players while the players stay. -/
lemma EntriesNamed.append (h : EntriesNamed r) (hledger : r'.ledger = r.ledger ++ es)
    (hids : r'.players.map (·.playerId) = r.players.map (·.playerId))
    (hes : ∀ e ∈ es, e.entryType.isCorrection = false → e.NamedAmong r.players) :
    EntriesNamed r' := by
  have hmem : ∀ e : HandLedgerEntry, e.NamedAmong r.players → e.NamedAmong r'.players := by
    rintro e (hcompleted | ⟨p, hp, hname⟩)
    · exact Or.inl hcompleted
    · have hp' : p.playerId ∈ r'.players.map (·.playerId) := by
        rw [hids]
        exact List.mem_map_of_mem hp
      obtain ⟨q, hq, hid⟩ := List.mem_map.mp hp'
      exact Or.inr ⟨q, hq, hname.trans (congrArg some hid.symm)⟩
  intro e he hcorr
  rw [hledger] at he
  rcases List.mem_append.mp he with he | he
  · exact hmem e (h e he hcorr)
  · exact hmem e (hes e he hcorr)

/-- An appended entry that reverses nothing is outstanding with its amount, a correction with
nothing. -/
lemma OpenLedger.concat (h : OpenLedger r) (hcons : r'.Constraints)
    (hledger : r'.ledger = r.ledger ++ [e]) (he : e.entryType ≠ .actionReversed)
    (hpot : r'.round.potAmount = r.round.potAmount +
      if e.entryType.isCorrection = true then 0 else e.amount.getD 0) : OpenLedger r' := by
  have hids := hcons.entryIds
  rw [hledger, List.map_append, List.nodup_append] at hids
  have hfresh : some e.entryId ∉ reversedIds r.ledger := by
    intro hmem
    obtain ⟨e', he', hid⟩ := h.reversed _ hmem
    exact hids.2.2 _ (List.mem_map_of_mem he') _ (by simp) (Option.some.inj hid)
  have hreversed := reversedIds_concat_of_ne r.ledger he
  constructor
  · intro id hid
    rw [hledger, hreversed] at hid
    obtain ⟨e', he', hid⟩ := h.reversed id hid
    exact ⟨e', by rw [hledger]; exact List.mem_append_left _ he', hid⟩
  · rw [hpot, hledger, hreversed, List.map_append, List.sum_append, ← h.pot]
    simp [outstanding, hfresh]

/-! ## Reversals before the settlement -/

/-- What is outstanding is not negative. -/
lemma AmountsNonneg.outstanding_nonneg (h : AmountsNonneg r) (he : e ∈ r.ledger)
    (reversed : List (Option String)) : 0 ≤ outstanding reversed e := by
  unfold outstanding
  split
  · exact le_rfl
  · next hno =>
    push Not at hno
    exact h e he (by simpa using hno.1)

/-- An entry that can be reversed is outstanding with its amount. -/
lemma Reversed.outstanding_eq {data : ReverseActionRequest} {original : HandLedgerEntry}
    (hrev : Reversed r data ids original r') :
    outstanding (reversedIds r.ledger) original = original.amount.getD 0 := by
  have hid : original.entryId = data.originalEntryId := (mem_of_find?_key hrev.found).2
  have hnot := hrev.not_reversed
  rw [← hid] at hnot
  simp [outstanding, hrev.not_correction, hnot]

/-- Before the settlement the pot covers every reversal. -/
lemma Reversed.amount_le_pot {data : ReverseActionRequest} {original : HandLedgerEntry}
    (hrev : Reversed r data ids original r') (hamounts : AmountsNonneg r) (hopen : OpenLedger r) :
    original.amount.getD 0 ≤ r.round.potAmount := by
  rw [hopen.pot, ← hrev.outstanding_eq]
  refine List.single_le_sum ?_ _ (List.mem_map_of_mem hrev.mem)
  rw [List.forall_mem_map]
  exact fun e he => hamounts.outstanding_nonneg he _

/-- A reversal takes exactly the reversed entry out of what is outstanding. -/
lemma Reversed.sum_outstanding {data : ReverseActionRequest} {original : HandLedgerEntry}
    (hids : (r.ledger.map (·.entryId)).Nodup) (hrev : Reversed r data ids original r')
    (hledger : r'.ledger = r.ledger ++ [reversalEntry original data ids]) :
    (r'.ledger.map (outstanding (reversedIds r'.ledger))).sum =
      (r.ledger.map (outstanding (reversedIds r.ledger))).sum - original.amount.getD 0 := by
  have hid : data.originalEntryId = original.entryId := (mem_of_find?_key hrev.found).2.symm
  have hreversed : reversedIds r'.ledger = reversedIds r.ledger ++ [some original.entryId] := by
    rw [hledger, reversedIds_append, ← hid]
    rfl
  -- entry by entry, the reversed one falls out and the others stay
  have hsplit : ∀ e ∈ r.ledger, outstanding (reversedIds r.ledger) e =
      outstanding (reversedIds r'.ledger) e +
        if e.entryId = original.entryId then original.amount.getD 0 else 0 := by
    intro e he
    by_cases hsame : e.entryId = original.entryId
    · obtain rfl := eq_of_key_eq hids he hrev.mem hsame
      rw [hrev.outstanding_eq, if_pos rfl, outstanding, hreversed]
      simp
    · have hkept : (reversedIds r'.ledger).contains (some e.entryId) =
          (reversedIds r.ledger).contains (some e.entryId) := by
        rw [hreversed]
        simp [hsame]
      rw [if_neg hsame, add_zero, outstanding, outstanding, hkept]
  have hone : (r.ledger.map fun e =>
      if e.entryId = original.entryId then original.amount.getD 0 else 0).sum =
        original.amount.getD 0 :=
    sum_map_ite_key (fun _ => original.amount.getD 0) hids hrev.mem
  have hlast : outstanding (reversedIds r'.ledger) (reversalEntry original data ids) = 0 := by
    simp [outstanding, reversalEntry, LedgerEntryType.isCorrection]
  rw [List.map_congr_left hsplit, List.sum_map_add, hone, add_sub_cancel_right]
  conv_lhs => rw [hledger, List.map_append, List.sum_append, ← hledger]
  simp [hlast]

/-- A reversal keeps the ledger of an unsettled round open and moves chips from its pot to its
stacks. -/
lemma Balanced.reversed_unsettled {data : ReverseActionRequest} {original : HandLedgerEntry}
    (h : Balanced total r) (hset : Unsettled r) (hrev : Reversed r data ids original r') :
    OpenLedger r' ∧ stackTotal r' + r'.round.potAmount = total := by
  obtain ⟨hopen, hsum⟩ := h.unsettled hset
  have hle := hrev.amount_le_pot h.amounts hopen
  have hnonneg := hrev.amount_nonneg h.amounts
  have hfound := mem_of_find?_key hrev.found
  have hpotNonneg := h.covered.constraints.round.1
  obtain ⟨p, hp, hname⟩ :=
    (h.named original hrev.mem hrev.not_correction).resolve_left fun hcompleted =>
      hset original hrev.mem hcompleted.1
  have hledger := hrev.ledger_eq
  have hmoved : r'.round.potAmount = r.round.potAmount - original.amount.getD 0 ∧
      stackTotal r' = stackTotal r + original.amount.getD 0 := by
    rw [hrev.after]
    rcases data.write_cases original r ids with ⟨name, hname', hpos, hw⟩ | ⟨hnothing, hw⟩
    · obtain rfl := Option.some.inj (hname'.symm.trans hname)
      have hstack := sum_map_updateFirst (f := PlayerState.uncommit (original.amount.getD 0))
        (fun q : RoundPlayer => q.stackRemaining) h.covered.constraints.playerIds hp rfl
      rw [hw]
      refine ⟨by dsimp only; omega, ?_⟩
      rw [stackTotal, hstack, stackTotal, PlayerState.uncommit]
      dsimp only
      omega
    · have hzero : original.amount.getD 0 = 0 := by
        rcases hnothing with hnone | hle'
        · rw [hname] at hnone
          cases hnone
        · exact le_antisymm hle' hnonneg
      rw [hw, hzero, sub_zero, add_zero]
      exact ⟨rfl, rfl⟩
  obtain ⟨hpot, hstack⟩ := hmoved
  refine ⟨⟨?_, ?_⟩, by omega⟩
  · intro id hid
    rw [hledger, reversedIds_append] at hid
    rcases List.mem_append.mp hid with hid | hid
    · obtain ⟨e, he, hid⟩ := hopen.reversed id hid
      exact ⟨e, by rw [hledger]; exact List.mem_append_left _ he, hid⟩
    · refine ⟨original, by rw [hledger]; exact List.mem_append_left _ hrev.mem, ?_⟩
      rw [hfound.2]
      simpa [reversedIds, reversalEntry, eq_comm] using hid
  · rw [hrev.sum_outstanding h.covered.constraints.entryIds hledger, ← hopen.pot, hpot]

/-- A reversal takes no chips out of a round: what its pot loses a stack gains. -/
lemma Balanced.le_reversed {data : ReverseActionRequest} {original : HandLedgerEntry}
    (h : Balanced total r) (hrev : Reversed r data ids original r') :
    stackTotal r + r.round.potAmount ≤ stackTotal r' + r'.round.potAmount := by
  have hpotNonneg := h.covered.constraints.round.1
  rw [hrev.after]
  rcases data.write_cases original r ids with ⟨name, hname, hpos, hw⟩ | ⟨-, hw⟩
  · rcases h.named original hrev.mem hrev.not_correction with ⟨-, hnone⟩ | ⟨p, hp, hname'⟩
    · rw [hname] at hnone
      cases hnone
    · obtain rfl := Option.some.inj (hname.symm.trans hname')
      have hstack := sum_map_updateFirst (f := PlayerState.uncommit (original.amount.getD 0))
        (fun q : RoundPlayer => q.stackRemaining) h.covered.constraints.playerIds hp rfl
      rw [hw, stackTotal, stackTotal, hstack, PlayerState.uncommit]
      dsimp only
      omega
  · rw [hw]
    exact le_rfl

/-! ## One command -/

/-- What keeps a round settled or unsettled keeps it balanced, if it adds the given chips before the
first settlement and no fewer from then on. -/
lemma Balanced.of_step (h : Balanced total r) {x : Int} (hcov : PotCovered r')
    (hamounts : AmountsNonneg r') (hnamed : EntriesNamed r') (hset : Unsettled r' ↔ Unsettled r)
    (hopen : Unsettled r → OpenLedger r → OpenLedger r' ∧
      stackTotal r' + r'.round.potAmount = stackTotal r + r.round.potAmount + x)
    (hle : stackTotal r + r.round.potAmount + x ≤ stackTotal r' + r'.round.potAmount) :
    Balanced (total + x) r' := by
  refine ⟨hcov, hamounts, hnamed, fun hset' => ?_, fun hset' => ?_⟩
  · obtain ⟨hledger, hsum⟩ := h.unsettled (hset.mp hset')
    obtain ⟨hledger', hsum'⟩ := hopen (hset.mp hset') hledger
    exact ⟨hledger', by omega⟩
  · have hlt := h.settled fun hset'' => hset' (hset.mpr hset'')
    omega

/-- An applied bet keeps a round balanced. -/
lemma Balanced.betApplied (hseat : SeatedAs d.toRoundSetup r) (h : Balanced total r)
    {data : PlaceBet} {p : PlayerState} {a : BetAction} {v : ValidatedAction}
    (happ : BetApplied r data ids p a v r') (hcov : PotCovered r') (hamounts : AmountsNonneg r') :
    Balanced (total + 0) r' := by
  obtain ⟨hp, hid⟩ := happ.accepted.mem
  have hledger : r'.ledger = r.ledger ++
      [(recordBetAction data.playerId v.action v.amount data.idempotencyKey ids).2] := by
    rw [happ.after]
    rfl
  have hstack : stackTotal r' = stackTotal r + -v.amount :=
    happ.sum_eq hseat.ids_nodup (fun q => q.stackRemaining) (sub_eq_add_neg _ _)
  have hpot := happ.pot_eq
  have hids : r'.players.map (·.playerId) = r.players.map (·.playerId) :=
    (hseat.betApplied happ).playerIds.trans hseat.playerIds.symm
  have hnamed : EntriesNamed r' := by
    refine h.named.append hledger hids ?_
    rw [List.forall_mem_singleton]
    refine fun _ => Or.inr ⟨p, hp, ?_⟩
    rw [hid]
    exact truthy_some (hid ▸ hseat.playerId_ne hp)
  refine h.of_step hcov hamounts hnamed (unsettled_concat_iff hledger ?_)
    (fun _ hopen => ⟨hopen.concat hcov.constraints hledger ?_ ?_, ?_⟩) ?_
  · exact LedgerEntryType.noConfusion
  · exact LedgerEntryType.noConfusion
  · rw [hpot]
    rfl
  · omega
  · omega

/-- A command that moves no chips and records nothing keeps a round balanced. -/
lemma Balanced.streetOutcome (h : Balanced total r) (hout : StreetOutcome r r')
    (hcov : PotCovered r') (hamounts : AmountsNonneg r') : Balanced (total + 0) r' := by
  have hsame : r'.ledger = r.ledger ∧ r'.round.potAmount = r.round.potAmount ∧
      stackTotal r' = stackTotal r ∧
      r'.players.map (·.playerId) = r.players.map (·.playerId) := by
    cases hout with
    | settleHand => exact ⟨rfl, rfl, rfl, rfl⟩
    | showdown | nextStreet =>
      exact ⟨rfl, rfl, by simp [stackTotal, Function.comp_def], by simp [Function.comp_def]⟩
  obtain ⟨hledger, hpot, hstack, hids⟩ := hsame
  have hnone : r'.ledger = r.ledger ++ [] := by simpa using hledger
  have hnamed : EntriesNamed r' := h.named.append hnone hids (by simp)
  refine h.of_step hcov hamounts hnamed ?_ (fun _ hopen => ⟨⟨?_, ?_⟩, by omega⟩) (by omega)
  · rw [Unsettled, hledger]
    rfl
  · rw [hledger]
    exact hopen.reversed
  · rw [hledger, hpot]
    exact hopen.pot

/-- A settlement brings more chips into a round. -/
lemma Balanced.settle (hseat : SeatedAs d.toRoundSetup r) (h : Balanced total r)
    {data : ResolveHandRequest} (hset : Settled r data ids r') (hcov : PotCovered r')
    (hamounts : AmountsNonneg r') : Balanced (total + 0) r' := by
  have hledger : r'.ledger = r.ledger ++ data.entries r ids := by
    rw [hset.after]
    simp [ResolveHandRequest.write, ResolveHandRequest.entries]
  have hids : r'.players.map (·.playerId) = r.players.map (·.playerId) := by
    rw [hset.after]
    exact map_foldl_award fun _ _ => rfl
  have hpot : r'.round.potAmount = r.round.potAmount := by
    rw [hset.after]
    rfl
  have hstack : stackTotal r' = stackTotal r + data.totalPaid :=
    hset.sum_stack hseat.ids_nodup h.covered
  have hpaid := hset.one_le_totalPaid
  have hsettled : ¬ Unsettled r' := by
    rw [unsettled_append_iff hledger]
    rintro ⟨-, hno⟩
    exact hno (roundCompletedEntry _ _) (List.mem_append_right _ List.mem_cons_self) rfl
  refine ⟨hcov, hamounts, h.named.append hledger hids ?_, fun hno => absurd hno hsettled,
    fun _ => ?_⟩
  · intro e he _
    rcases List.mem_append.mp he with he | he
    · obtain ⟨i, hi, rfl⟩ := List.mem_mapIdx.mp he
      obtain ⟨p, hp, hid⟩ := hset.winner_mem h.covered (List.getElem_mem hi)
      refine Or.inr ⟨p, hp, ?_⟩
      rw [hid]
      exact truthy_some (hid ▸ hseat.playerId_ne hp)
    · rw [List.mem_singleton.mp he]
      exact Or.inl ⟨rfl, rfl⟩
  · by_cases hfirst : Unsettled r
    · have hsum := (h.unsettled hfirst).2
      omega
    · have hlt := h.settled hfirst
      omega

/-- A reversal keeps a round balanced. -/
lemma Balanced.reversed (h : Balanced total r) {data : ReverseActionRequest}
    {original : HandLedgerEntry} (hrev : Reversed r data ids original r') (hcov : PotCovered r')
    (hamounts : AmountsNonneg r') : Balanced (total + 0) r' := by
  have hledger := hrev.ledger_eq
  have hids : r'.players.map (·.playerId) = r.players.map (·.playerId) := by
    rw [hrev.after]
    exact data.map_players_write original ids fun _ _ => rfl
  have hnamed : EntriesNamed r' := by
    refine h.named.append hledger hids ?_
    rw [List.forall_mem_singleton]
    exact fun hcorr => Bool.noConfusion hcorr
  refine h.of_step hcov hamounts hnamed (unsettled_concat_iff hledger LedgerEntryType.noConfusion)
    (fun hset _ => ?_) ?_
  · obtain ⟨hopen, hsum⟩ := h.reversed_unsettled hset hrev
    have hbefore := (h.unsettled hset).2
    exact ⟨hopen, by omega⟩
  · have hle := h.le_reversed hrev
    omega

/-- A correction that adds chips to the stacks keeps a round balanced with these chips. -/
lemma Balanced.correction (h : Balanced total r) {x : Int} (hcov : PotCovered r')
    (hamounts : AmountsNonneg r') (hledger : r'.ledger = r.ledger ++ [e])
    (hcorr : e.entryType.isCorrection = true) (he : e.entryType ≠ .actionReversed)
    (hids : r'.players.map (·.playerId) = r.players.map (·.playerId))
    (hpot : r'.round.potAmount = r.round.potAmount) (hstack : stackTotal r' = stackTotal r + x) :
    Balanced (total + x) r' := by
  have hnamed : EntriesNamed r' := by
    refine h.named.append hledger hids ?_
    rw [List.forall_mem_singleton, hcorr]
    exact fun hno => Bool.noConfusion hno
  have hne : e.entryType ≠ .roundCompleted := fun hcompleted => by
    rw [hcompleted] at hcorr
    cases hcorr
  refine h.of_step hcov hamounts hnamed (unsettled_concat_iff hledger hne)
    (fun _ hopen => ⟨hopen.concat hcov.constraints hledger he ?_, ?_⟩) ?_
  · rw [hpot, if_pos hcorr, add_zero]
  · omega
  · omega

/-- Adding chips to the stack of a player adds them to the round he plays in. -/
lemma sum_addStack {players : List RoundPlayer} (hnd : (players.map (·.playerId)).Nodup)
    (playerId : String) (amount : Int) :
    ((addStack playerId amount players).map (·.stackRemaining)).sum =
      (players.map (·.stackRemaining)).sum +
        if ∃ p ∈ players, p.playerId = playerId then amount else 0 := by
  by_cases hex : ∃ p ∈ players, p.playerId = playerId
  · obtain ⟨p, hp, hid⟩ := hex
    rw [if_pos ⟨p, hp, hid⟩, addStack, sum_map_updateFirst _ hnd hp hid]
    dsimp only
    omega
  · push Not at hex
    have hno : ¬ ∃ p ∈ players, p.playerId = playerId := by
      push Not
      exact hex
    rw [if_neg hno, addStack, updateFirst_of_forall_ne hex, add_zero]

/-- The chips a round is dealt and its corrections have added. -/
def RoundSetup.supplied (s : RoundSetup) (h : CorrectionTotals) : Int :=
  s.dealtTotal + h.adjusted + h.corrected

/-- An accepted command keeps a round balanced with the chips its corrections have added. -/
lemma Balanced.step (hseat : SeatedAs d.toRoundSetup r) {h : CorrectionTotals}
    (hbal : Balanced (d.supplied h) r) {c : RoundCommand} (hstep : RoundStep r c r') :
    Balanced (d.supplied (addCorrection r c r' h)) r' := by
  have hcov := hbal.covered.step hseat.ids_nodup hstep
  obtain ⟨es, hb, -⟩ := hstep.booked hseat hbal.amounts
  have hamounts := hbal.amounts.of_booked hb
  have hnd := hseat.ids_nodup
  cases hstep with
  | retried data ids => exact hbal
  | bet happ => exact add_zero (d.supplied h) ▸ hbal.betApplied hseat happ hcov hamounts
  | street hadv => exact add_zero (d.supplied h) ▸ hbal.streetOutcome hadv.outcome hcov hamounts
  | settled hc hset =>
    have hsame : addCorrection r c r' h = h := by
      cases c with
      | betting | resolveHand | declareWinner | reverseAction | reopenHand => rfl
      | adjustStack | correctPayout => cases hc
    rw [hsame]
    exact add_zero (d.supplied h) ▸ hbal.settle hseat hset hcov hamounts
  | reversed hrev => exact add_zero (d.supplied h) ▸ hbal.reversed hrev hcov hamounts
  | @adjusted data ids hcons =>
    have hadded : d.supplied (addCorrection r (.adjustStack data ids) (data.write r ids) h) =
        d.supplied h + r.credited data.playerId data.amount := by
      simp only [RoundSetup.supplied, addCorrection]
      omega
    rw [hadded]
    exact hbal.correction hcov hamounts rfl rfl LedgerEntryType.noConfusion
      (map_addStack fun _ _ => rfl) rfl (sum_addStack hnd data.playerId data.amount)
  | reopened hstatus hcons =>
    exact add_zero (d.supplied h) ▸ hbal.correction hcov hamounts rfl rfl
      LedgerEntryType.noConfusion rfl rfl (add_zero _).symm
  | @corrected data ids hcons =>
    have hadded : d.supplied (addCorrection r (.correctPayout data ids) (data.write r ids) h) =
        d.supplied h + (r.credited data.oldPlayerId (-data.oldAmount) +
          r.credited data.newPlayerId data.newAmount) := by
      simp only [RoundSetup.supplied, addCorrection]
      omega
    have hids : (addStack data.oldPlayerId (-data.oldAmount) r.players).map (·.playerId) =
        r.players.map (·.playerId) := map_addStack fun _ _ => rfl
    have hmem : (∃ p ∈ addStack data.oldPlayerId (-data.oldAmount) r.players,
        p.playerId = data.newPlayerId) ↔ ∃ p ∈ r.players, p.playerId = data.newPlayerId := by
      rw [← List.mem_map, hids, List.mem_map]
    rw [hadded]
    refine hbal.correction hcov hamounts rfl rfl LedgerEntryType.noConfusion
      ((map_addStack fun _ _ => rfl).trans hids) rfl ?_
    refine (sum_addStack (hids ▸ hnd) data.newPlayerId data.newAmount).trans ?_
    rw [sum_addStack hnd data.oldPlayerId (-data.oldAmount), add_assoc]
    simp only [hmem]
    rfl

/-! ## Every run -/

/-- A new round is balanced. -/
lemma balanced_of_createRound {r₀ : RoundTables} (hdeal : createRound d.toRoundSetup ids = .ok r₀) :
    Balanced (d.supplied {}) r₀ := by
  have hcov := potCovered_of_createRound hdeal
  obtain ⟨-, -, rfl⟩ := createRound_eq_ok_iff.mp hdeal
  have hseat := seatedAs_tables d.toRoundSetup ids
  have hunsettled : Unsettled (d.tables ids) := by
    intro e he hcompleted
    rcases entryType_of_mem_tables he with h | h <;> rw [h] at hcompleted <;> cases hcompleted
  have hreversed : reversedIds (d.tables ids).ledger = [] := by
    rw [reversedIds, List.map_eq_nil_iff, List.filter_eq_nil_iff]
    intro e he
    rcases entryType_of_mem_tables he with h | h <;> simp [h]
  have hpot : (d.tables ids).round.potAmount =
      ((d.tables ids).ledger.map (outstanding [])).sum := by
    rw [← (replayAgrees_tables d ids).1, getHandState_potTotal, booked]
    refine congrArg List.sum (List.map_congr_left fun e he => ?_)
    rcases entryType_of_mem_tables he with h | h <;>
      simp [outstanding, LedgerRow.potWeight, LedgerEntryType.isCorrection, h]
  have hnamed : EntriesNamed (d.tables ids) := by
    intro e he _
    obtain ⟨id, pp, hpp, -, rfl⟩ := exists_posting he
    have hmem : pp.toRoundPlayer ∈ (d.tables ids).players := List.mem_map_of_mem hpp
    refine Or.inr ⟨_, hmem, ?_⟩
    rw [(postingEntry_named _ id pp).1]
    exact truthy_some (hseat.playerId_ne hmem)
  refine ⟨hcov, amountsNonneg_tables d ids, hnamed, fun _ => ⟨⟨?_, ?_⟩, ?_⟩,
    fun hno => absurd hunsettled hno⟩
  · simp [hreversed]
  · rw [hreversed]
    exact hpot
  · rw [(chipsConserved_tables d ids).stackTotal_add_pot hseat]
    simp [RoundSetup.supplied]

/-- After every run of commands the round is balanced. -/
theorem balanced_run {r₀ : RoundTables} (hdeal : createRound d.toRoundSetup ids = .ok r₀)
    (cs : List RoundCommand) :
    SeatedAs d.toRoundSetup (roundMachine.run r₀ cs) ∧
      Balanced (d.supplied (correctionTotals r₀ cs)) (roundMachine.run r₀ cs) := by
  refine Machine.instrument_invariant addCorrection
    (I := fun r h => SeatedAs d.toRoundSetup r ∧ Balanced (d.supplied h) r) ?_ ⟨?_, ?_⟩ cs
  · rintro r h c r' ⟨hseat, hbal⟩ hok
    have hstep := round_step_cases hseat.ids_nodup hok
    exact ⟨hseat.roundStep hstep, hbal.step hseat hstep⟩
  · obtain ⟨-, -, rfl⟩ := createRound_eq_ok_iff.mp hdeal
    exact seatedAs_tables _ ids
  · exact balanced_of_createRound hdeal

/-- **When settling conserves the chips.** Take any run of commands on a dealt round and a
settlement of the whole pot that is accepted after it.  The stacks then hold the dealt chips, the
adjustments and what the payout corrections have added, exactly when the round had not been settled
before: settling a reopened hand pays the pot a second time. -/
theorem resettling_conserves_iff {r₀ r' : RoundTables}
    (hdeal : createRound d.toRoundSetup ids = .ok r₀) (cs : List RoundCommand)
    {c : RoundCommand} (hok : roundMachine.step (roundMachine.run r₀ cs) c = .ok r')
    {data : ResolveHandRequest} {ids' : Uuids}
    (hc : c.settlement? (roundMachine.run r₀ cs) = some (data, ids'))
    (hexact : data.totalPaid = (roundMachine.run r₀ cs).round.potAmount) :
    stackTotal r' = d.dealtTotal + (correctionTotals r₀ cs).adjusted +
        (correctionTotals r₀ cs).corrected ↔
      Unsettled (roundMachine.run r₀ cs) := by
  obtain ⟨hseat, hbal⟩ := balanced_run hdeal cs
  have hset : Settled (roundMachine.run r₀ cs) data ids' r' := by
    have hstep := round_step_cases hseat.ids_nodup hok
    cases hstep with
    | settled hc' hset =>
      obtain ⟨rfl, rfl⟩ := Prod.mk.inj (Option.some.inj (hc.symm.trans hc'))
      exact hset
    | retried | bet | street | reversed | adjusted | reopened | corrected => cases hc
  have hstack : stackTotal r' = stackTotal (roundMachine.run r₀ cs) + data.totalPaid :=
    hset.sum_stack hseat.ids_nodup hbal.covered
  have hsupplied : d.dealtTotal + (correctionTotals r₀ cs).adjusted +
      (correctionTotals r₀ cs).corrected = d.supplied (correctionTotals r₀ cs) := rfl
  rw [hstack, hexact, hsupplied]
  constructor
  · intro hsum
    by_contra hsettled
    have hlt := hbal.settled hsettled
    omega
  · exact fun hfirst => (hbal.unsettled hfirst).2

/-- A hand that is adjusted before its only settlement holds what was dealt and the adjustment. -/
theorem resettling_conserves_iff_headsUp :
    ∃ r' ∈ (roundMachine.step (roundMachine.run (headsUp.tables headsUpIds)
        [.betting (.send "alice" "fold" 0 "b1" "e1"),
          .adjustStack ⟨"bob", 5, by decide, none, none⟩ (named ["more"])])
        (.resolveHand foldedHandPayout (named ["p1", "p2", "done"]))).toOption,
      stackTotal r' = headsUp.dealtTotal + 5 + 0 := by
  obtain ⟨r', hr', hok⟩ : ∃ r' ∈ (roundMachine.step (roundMachine.run (headsUp.tables headsUpIds)
      [.betting (.send "alice" "fold" 0 "b1" "e1"),
        .adjustStack ⟨"bob", 5, by decide, none, none⟩ (named ["more"])])
      (.resolveHand foldedHandPayout (named ["p1", "p2", "done"]))).toOption,
      roundMachine.step (roundMachine.run (headsUp.tables headsUpIds)
        [.betting (.send "alice" "fold" 0 "b1" "e1"),
          .adjustStack ⟨"bob", 5, by decide, none, none⟩ (named ["more"])])
        (.resolveHand foldedHandPayout (named ["p1", "p2", "done"])) = .ok r' := by decide
  exact ⟨r', hr', (resettling_conserves_iff
    (show createRound headsUp.toRoundSetup headsUpIds = .ok (headsUp.tables headsUpIds) by decide)
    [.betting (.send "alice" "fold" 0 "b1" "e1"),
      .adjustStack ⟨"bob", 5, by decide, none, none⟩ (named ["more"])]
    hok (show RoundCommand.settlement? _ _ =
      some (foldedHandPayout, named ["p1", "p2", "done"]) from rfl) (by decide)).mpr (by decide)⟩

/-- A folded hand that is settled, reopened and settled again pays its pot twice, although every
settlement pays exactly the pot. -/
theorem reopened_hand_paid_twice :
    ¬ ∀ (d : Deal) (ids : Uuids) (r₀ : RoundTables), createRound d.toRoundSetup ids = .ok r₀ →
      ∀ (cs : List RoundCommand) (data : ResolveHandRequest) (ids' : Uuids) (r' : RoundTables),
        (∀ t ∈ roundMachine.trace r₀ (cs ++ [.resolveHand data ids']),
          ∀ settlement ∈ t.command.settlement? t.before,
            settlement.1.totalPaid = t.before.round.potAmount) →
        (correctionTotals r₀ cs).corrected = 0 →
        roundMachine.step (roundMachine.run r₀ cs) (.resolveHand data ids') = .ok r' →
        stackTotal r' = d.dealtTotal + (correctionTotals r₀ cs).adjusted := by
  intro h
  have htotal := h headsUp headsUpIds (headsUp.tables headsUpIds) (by decide)
    (foldedHand ++ [.reopenHand {} (named ["again"])]) foldedHandPayout
    (named ["p3", "p4", "redone"]) _ (by decide) (by decide) rfl
  exact absurd htotal (by decide)

end PokerRoom
