import PokerRoom.Hand.BettingState
import PokerRoom.Hand.LedgerAccount
import Mathlib.Algebra.Order.BigOperators.Group.List

/-!
# Reversing an action while a hand is played

A reversal gives chips back to a player and takes them out of his commitments and the pot, but it
leaves the fields alone that say where the betting stands: the bet to match, the all-in flags and
whether the betting is closed.  `reversal_playable_iff` says exactly when they still mean what they
say.
-/

namespace PokerRoom

open Foundation

/-! ## Definitions -/

/-- The rows of a round in which the betting can go on. -/
structure Playable (r : RoundTables) : Prop where
  /-- Nobody has committed more to the street than the bet to match. -/
  le_highest : ∀ p ∈ r.players, p.committedThisStreet ≤ r.round.currentHighestBet
  /-- Somebody has committed that much. -/
  exists_highest : ∃ p ∈ r.players, p.committedThisStreet = r.round.currentHighestBet
  /-- All-in means an empty stack. -/
  isAllIn_iff : ∀ p ∈ r.players, p.isAllIn = true ↔ p.stackRemaining = 0
  /-- The commitment to the street is part of the commitment to the hand. -/
  commitments : ∀ p ∈ r.players,
    0 ≤ p.committedThisStreet ∧ p.committedThisStreet ≤ p.committedThisHand
  /-- The pot is the sum of the commitments to the hand. -/
  pot : r.round.potAmount = (r.players.map (·.committedThisHand)).sum
  /-- Once the betting is closed nobody who can act owes chips. -/
  settled : r.round.isActionClosed = true → ∀ p ∈ r.players, ¬ p.Owes r.round.currentHighestBet

/-- Giving the player chips back leaves the bet to match and the flags as they are: he is not
all-in, and the chips are none of this street, or somebody else has matched the bet and the player
could not answer it any more once the betting is closed. -/
def GivesBack (r : RoundTables) (p : RoundPlayer) : Prop :=
  p.isAllIn = false ∧
    (p.committedThisStreet = 0 ∨
      (∃ q ∈ r.players, q ≠ p ∧ q.committedThisStreet = r.round.currentHighestBet) ∧
        (r.round.isActionClosed = true → ¬ p.CanAct))

instance (r : RoundTables) (p : RoundPlayer) : Decidable (GivesBack r p) :=
  inferInstanceAs (Decidable (_ ∧ _))

/-- The request leaves a playable hand: nobody owes chips in closed betting, and the entry it
reverses moved no chips, or they can be given back. -/
def ReverseActionRequest.LeavesPlayable (data : ReverseActionRequest) (r : RoundTables) : Prop :=
  (r.round.isActionClosed = true → ∀ p ∈ r.players, ¬ p.Owes r.round.currentHighestBet) ∧
    ∀ original ∈ r.ledger.find? fun e => e.entryId = data.originalEntryId,
      original.amount.getD 0 = 0 ∨
        ∃ p ∈ r.players, original.playerId = some p.playerId ∧ GivesBack r p

instance (data : ReverseActionRequest) (r : RoundTables) : Decidable (data.LeavesPlayable r) :=
  inferInstanceAs (Decidable (_ ∧ ∀ original ∈ r.ledger.find? _, _))

/-- The entry records chips a dealt player has committed. -/
structure LedgerRow.Commits (s : RoundSetup) (e : LedgerRow) : Prop where
  /-- It is a blind, an ante or a bet. -/
  kind : e.entryType = .blindPosted ∨ e.entryType = .antePosted ∨ e.entryType = .betPlaced
  /-- It names a player who was dealt in. -/
  named : ∃ p ∈ s.players, e.playerId = some p.playerId

/-- The ledger of a hand that is played records the commitments of its players. -/
structure CommitmentLedger (s : RoundSetup) (r : RoundTables) : Prop where
  /-- Every entry records a commitment. -/
  commits : ∀ e ∈ r.ledger, e.toLedgerRow.Commits s
  /-- No amount is negative. -/
  amounts : AmountsNonneg r
  /-- The entries of a player add up to what he has committed. -/
  agrees : ReplayAgrees r

variable {s : RoundSetup} {r r' : RoundTables} {d : Deal} {ids : Uuids} {p : RoundPlayer}
  {data : ReverseActionRequest} {original : HandLedgerEntry}

/-! ## The ledger of a hand that is played -/

/-- What an entry that records a commitment weighs. -/
lemma LedgerRow.Commits.committedWeight_eq {e : LedgerRow} (h : e.Commits s) (playerId : String) :
    e.committedWeight playerId = weightFor playerId e.playerId (e.amount.getD 0) := by
  unfold LedgerRow.committedWeight LedgerRow.potWeight
  rcases h.kind with hk | hk | hk <;> rw [hk]

/-- An entry that records a commitment is no correction. -/
lemma LedgerRow.Commits.not_correction {e : LedgerRow} (h : e.Commits s) :
    e.entryType.isCorrection = false := by
  rcases h.kind with hk | hk | hk <;> rw [hk] <;> rfl

/-- The ledger of a new round records commitments. -/
lemma commitmentLedger_tables (d : Deal) (ids : Uuids) :
    CommitmentLedger d.toRoundSetup (d.tables ids) := by
  refine ⟨fun e he => ?_, amountsNonneg_tables d ids, replayAgrees_tables d ids⟩
  obtain ⟨id, pp, hpp, -, rfl⟩ := exists_posting he
  obtain ⟨p, hp, rfl⟩ := List.mem_map.mp hpp
  refine ⟨?_, p, hp, ?_⟩
  · rcases entryType_of_mem_tables he with h | h <;> simp [h]
  · exact (postingEntry_named d.toRoundSetup id _).1.symm

/-- An accepted command of the betting records commitments. -/
lemma CommitmentLedger.step (hseat : SeatedAs d.toRoundSetup r)
    (h : CommitmentLedger d.toRoundSetup r) {c : BettingCommand}
    (hstep : bettingMachine.step r c = .ok r') : CommitmentLedger d.toRoundSetup r' := by
  obtain ⟨es, hb, hp⟩ := (round_step_cases (c := .betting c) hseat.ids_nodup hstep).booked hseat
    h.amounts
  refine ⟨?_, h.amounts.of_booked hb, h.agrees.of_projected hb (hp fun _ _ => by simp)⟩
  rcases betting_step_cases hseat.ids_nodup hstep with
    ⟨rfl, -⟩ | ⟨data, ids, p, a, v, -, happ⟩ | ⟨-, hadv⟩
  · exact h.commits
  · rw [happ.after]
    intro e he
    rcases List.mem_append.mp he with he | he
    · exact h.commits e he
    · rw [List.mem_singleton.mp he]
      obtain ⟨hp, hid⟩ := happ.accepted.mem
      have hmem : p.playerId ∈ d.players.map (·.playerId) := by
        rw [← hseat.playerIds]
        exact List.mem_map_of_mem hp
      obtain ⟨q, hq, hqid⟩ := List.mem_map.mp hmem
      exact ⟨Or.inr (Or.inr rfl), q, hq, by rw [hqid, hid]; rfl⟩
  · cases hadv.outcome with
    | settleHand | showdown | nextStreet => exact h.commits

/-- After every run of the betting the ledger records the commitments. -/
lemma commitmentLedger_run {r₀ : RoundTables} (hdeal : createRound d.toRoundSetup ids = .ok r₀)
    (cs : List BettingCommand) : CommitmentLedger d.toRoundSetup (bettingMachine.run r₀ cs) := by
  obtain ⟨-, -, rfl⟩ := createRound_eq_ok_iff.mp hdeal
  exact (Machine.run_invariant
    (I := fun r => BettingInvariant d.toRoundSetup r ∧ CommitmentLedger d.toRoundSetup r)
    (fun _ _ _ hI hstep => ⟨hI.1.step hstep, hI.2.step hI.1.seated hstep⟩)
    ⟨bettingInvariant_of_createRound hdeal, commitmentLedger_tables d ids⟩ cs).2

/-- No entry of a player records more than he has committed to the hand. -/
lemma CommitmentLedger.amount_le (hseat : SeatedAs d.toRoundSetup r)
    (h : CommitmentLedger d.toRoundSetup r) {e : HandLedgerEntry} (he : e ∈ r.ledger)
    (hp : p ∈ r.players) (hname : e.playerId = some p.playerId) :
    e.amount.getD 0 ≤ p.committedThisHand := by
  have hweight : ∀ e ∈ r.ledger, 0 ≤ e.committedWeight p.playerId := by
    intro e he
    rw [(h.commits e he).committedWeight_eq, weightFor]
    split
    · exact h.amounts e he (h.commits e he).not_correction
    · exact le_rfl
  have hone : e.committedWeight p.playerId = e.amount.getD 0 := by
    rw [(h.commits e he).committedWeight_eq, hname, weightFor_some (hseat.playerId_ne hp),
      if_pos rfl]
  have hsum := List.single_le_sum (l := r.ledger.map fun e => e.committedWeight p.playerId)
    (by simpa using hweight) _ (List.mem_map_of_mem he)
  rw [hone] at hsum
  rw [← h.agrees.2 p hp, getHandState_totalCommitted]
  exact hsum

/-- The player an entry names is one of the round. -/
lemma CommitmentLedger.exists_player (hseat : SeatedAs d.toRoundSetup r)
    (h : CommitmentLedger d.toRoundSetup r) {e : HandLedgerEntry} (he : e ∈ r.ledger) :
    ∃ p ∈ r.players, e.playerId = some p.playerId := by
  obtain ⟨q, hq, hname⟩ := (h.commits e he).named
  have hmem : q.playerId ∈ r.players.map (·.playerId) := by
    rw [hseat.playerIds]
    exact List.mem_map_of_mem hq
  obtain ⟨p, hp, hid⟩ := List.mem_map.mp hmem
  exact ⟨p, hp, by rw [hid, hname]⟩

/-! ## One reversal -/

/-- In a hand that is played the betting can go on unless somebody owes chips in closed betting. -/
lemma BettingInvariant.playable_iff (h : BettingInvariant d.toRoundSetup r) :
    Playable r ↔
      (r.round.isActionClosed = true → ∀ p ∈ r.players, ¬ p.Owes r.round.currentHighestBet) :=
  ⟨fun hplay => hplay.settled, fun hsettled =>
    ⟨h.state.le_highest, h.state.exists_highest, h.state.isAllIn_iff,
      fun p hp => ⟨(h.chips.players p hp).street_nonneg, (h.chips.players p hp).street_le_hand⟩,
      h.chips.pot, hsettled⟩⟩

/-- Nobody has committed more to the hand than the pot holds. -/
lemma BettingInvariant.hand_le_pot (h : BettingInvariant d.toRoundSetup r) (hp : p ∈ r.players) :
    p.committedThisHand ≤ r.round.potAmount := by
  rw [h.chips.pot]
  refine List.single_le_sum ?_ _ (List.mem_map_of_mem hp)
  rw [List.forall_mem_map]
  intro q hq
  have hq := h.chips.players q hq
  exact hq.street_nonneg.trans hq.street_le_hand

/-- The rows after `x` chips are given back to the player `p`. -/
def RoundTables.givenBack (r : RoundTables) (p : RoundPlayer) (x : Int)
    (ledger : List HandLedgerEntry) : RoundTables :=
  { r with
    round := { r.round with potAmount := max 0 (r.round.potAmount - x) }
    players := updateFirst (·.playerId) p.playerId (PlayerState.uncommit x) r.players
    ledger := ledger }

/-- The players after chips are given back. -/
lemma mem_givenBack (hinv : BettingInvariant d.toRoundSetup r) (hp : p ∈ r.players) {x : Int}
    {ledger : List HandLedgerEntry} {q : RoundPlayer} :
    q ∈ (r.givenBack p x ledger).players ↔ q = p.uncommit x ∨ (q ∈ r.players ∧ q ≠ p) := by
  have hnd := hinv.seated.ids_nodup
  simp only [RoundTables.givenBack, mem_updateFirst_iff hnd]
  refine or_congr ⟨?_, fun hq => ⟨p, hp, rfl, hq⟩⟩ (and_congr_right fun hq => ?_)
  · rintro ⟨p', hp', hid, rfl⟩
    rw [eq_of_key_eq hnd hp' hp hid]
  · exact ⟨fun hne heq => hne (heq ▸ rfl), fun hne hid => hne (eq_of_key_eq hnd hq hp hid)⟩

/-- Giving chips back takes them out of the sum of the commitments. -/
lemma sum_givenBack (hinv : BettingInvariant d.toRoundSetup r) (hp : p ∈ r.players) {x : Int}
    (hx : x ≤ p.committedThisHand) {ledger : List HandLedgerEntry} :
    ((r.givenBack p x ledger).players.map (·.committedThisHand)).sum =
      (r.players.map (·.committedThisHand)).sum - x := by
  have hsum := sum_map_updateFirst (f := PlayerState.uncommit x)
    (fun q : RoundPlayer => q.committedThisHand) hinv.seated.ids_nodup hp rfl
  simp only [RoundTables.givenBack]
  rw [hsum]
  simp only [PlayerState.uncommit]
  omega

/-- A playable hand to which chips were given back had nobody owing chips in closed betting, and
they could be given back. -/
lemma Playable.of_givenBack (hinv : BettingInvariant d.toRoundSetup r)
    (hp : p ∈ r.players) {x : Int}
    (hpos : 0 < x) {ledger : List HandLedgerEntry} (hplay : Playable (r.givenBack p x ledger)) :
    (r.round.isActionClosed = true → ∀ q ∈ r.players, ¬ q.Owes r.round.currentHighestBet) ∧
      GivesBack r p := by
  have hmem : p.uncommit x ∈ (r.givenBack p x ledger).players :=
    (mem_givenBack hinv hp).mpr (Or.inl rfl)
  have hothers : ∀ q ∈ r.players, q ≠ p → q ∈ (r.givenBack p x ledger).players := fun q hq hne =>
    (mem_givenBack hinv hp).mpr (Or.inr ⟨hq, hne⟩)
  have hchips := hinv.chips.players p hp
  have hstreet := hchips.street_nonneg
  have hle := hinv.state.le_highest p hp
  have hcanAct : (p.uncommit x).CanAct ↔ p.CanAct := Iff.rfl
  refine ⟨fun hclosed q hq howes => ?_, ?_, ?_⟩
  · by_cases hqp : q = p
    · subst hqp
      refine hplay.settled hclosed _ hmem ⟨howes.1, lt_of_le_of_lt ?_ howes.2⟩
      simp only [PlayerState.uncommit]
      omega
    · exact hplay.settled hclosed q (hothers q hq hqp) howes
  · rw [← Bool.not_eq_true]
    intro hallIn
    have hempty := (hplay.isAllIn_iff _ hmem).mp hallIn
    have hstack := hchips.stack_nonneg
    simp only [PlayerState.uncommit] at hempty
    omega
  · by_cases hzero : p.committedThisStreet = 0
    · exact Or.inl hzero
    refine Or.inr ⟨?_, fun hclosed hcan => ?_⟩
    · obtain ⟨q, hq, hqh⟩ := hplay.exists_highest
      rcases (mem_givenBack hinv hp).mp hq with rfl | ⟨hq, hne⟩
      · simp only [PlayerState.uncommit, RoundTables.givenBack] at hqh
        omega
      · exact ⟨q, hq, hne, hqh⟩
    · refine hplay.settled hclosed _ hmem ⟨hcanAct.mpr hcan, ?_⟩
      simp only [PlayerState.uncommit, RoundTables.givenBack]
      omega

/-- Giving chips back leaves a playable hand where they can be given back and nobody owes chips in
closed betting. -/
lemma GivesBack.playable (hinv : BettingInvariant d.toRoundSetup r) (hp : p ∈ r.players) {x : Int}
    (hpos : 0 < x) (hx : x ≤ p.committedThisHand) (ledger : List HandLedgerEntry)
    (hsettled : r.round.isActionClosed = true →
      ∀ q ∈ r.players, ¬ q.Owes r.round.currentHighestBet)
    (hgives : GivesBack r p) : Playable (r.givenBack p x ledger) := by
  obtain ⟨hnot, hback⟩ := hgives
  have hmem : p.uncommit x ∈ (r.givenBack p x ledger).players :=
    (mem_givenBack hinv hp).mpr (Or.inl rfl)
  have hothers : ∀ q ∈ r.players, q ≠ p → q ∈ (r.givenBack p x ledger).players := fun q hq hne =>
    (mem_givenBack hinv hp).mpr (Or.inr ⟨hq, hne⟩)
  have hchips := hinv.chips.players p hp
  have hstreet := hchips.street_nonneg
  have hle := hinv.state.le_highest p hp
  have hcanAct : (p.uncommit x).CanAct ↔ p.CanAct := Iff.rfl
  constructor
  · intro q hq
    rcases (mem_givenBack hinv hp).mp hq with rfl | ⟨hq, -⟩
    · simp only [PlayerState.uncommit, RoundTables.givenBack]
      omega
    · exact hinv.state.le_highest q hq
  · rcases hback with hzero | ⟨⟨q, hq, hne, hqh⟩, -⟩
    · obtain ⟨q, hq, hqh⟩ := hinv.state.exists_highest
      by_cases hqp : q = p
      · subst hqp
        refine ⟨_, hmem, ?_⟩
        simp only [PlayerState.uncommit, RoundTables.givenBack]
        omega
      · exact ⟨q, hothers q hq hqp, hqh⟩
    · exact ⟨q, hothers q hq hne, hqh⟩
  · intro q hq
    rcases (mem_givenBack hinv hp).mp hq with rfl | ⟨hq, -⟩
    · have hstack := hchips.stack_nonneg
      simp only [PlayerState.uncommit, hnot, Bool.false_eq_true, false_iff]
      omega
    · exact hinv.state.isAllIn_iff q hq
  · intro q hq
    rcases (mem_givenBack hinv hp).mp hq with rfl | ⟨hq, -⟩
    · have hhand := hchips.street_le_hand
      simp only [PlayerState.uncommit]
      omega
    · have hq := hinv.chips.players q hq
      exact ⟨hq.street_nonneg, hq.street_le_hand⟩
  · have hpot := hinv.hand_le_pot hp
    rw [sum_givenBack hinv hp hx, ← hinv.chips.pot]
    simp only [RoundTables.givenBack]
    omega
  · intro hclosed q hq
    rcases (mem_givenBack hinv hp).mp hq with rfl | ⟨hq, -⟩
    · rintro ⟨hcan, hless⟩
      rcases hback with hzero | ⟨-, hno⟩
      · refine hsettled hclosed p hp ⟨hcanAct.mp hcan, ?_⟩
        simp only [PlayerState.uncommit, RoundTables.givenBack] at hless
        omega
      · exact hno hclosed (hcanAct.mp hcan)
    · exact hsettled hclosed q hq

/-- **When giving chips back leaves a playable hand.** -/
theorem playable_givenBack_iff (hinv : BettingInvariant d.toRoundSetup r) (hp : p ∈ r.players)
    {x : Int} (hpos : 0 < x) (hx : x ≤ p.committedThisHand) (ledger : List HandLedgerEntry) :
    Playable (r.givenBack p x ledger) ↔
      (r.round.isActionClosed = true → ∀ q ∈ r.players, ¬ q.Owes r.round.currentHighestBet) ∧
        GivesBack r p :=
  ⟨fun hplay => hplay.of_givenBack hinv hp hpos, fun ⟨hsettled, hgives⟩ =>
    hgives.playable hinv hp hpos hx ledger hsettled⟩

/-- **When a reversal leaves a playable hand.** In every state the betting of a dealt hand reaches,
an accepted reversal leaves rows in which the betting can go on, exactly when nobody owes chips in
closed betting, and the reversed entry moved no chips or its player can be given them back: he is
not all-in, and they are none of this street, or somebody else has matched the bet and he could not
answer it any more once the betting is closed. -/
theorem reversal_playable_iff {r₀ : RoundTables} (hdeal : createRound d.toRoundSetup ids = .ok r₀)
    (cs : List BettingCommand) (data : ReverseActionRequest) (ids' : Uuids)
    (entry : HandLedgerEntry) (r' : RoundTables)
    (hrev : reverseAction (bettingMachine.run r₀ cs) data ids' = .ok (entry, r')) :
    Playable r' ↔ data.LeavesPlayable (bettingMachine.run r₀ cs) := by
  obtain ⟨original, hrev, -⟩ := reverseAction_eq_ok_iff.mp hrev
  have hinv := bettingInvariant_run hdeal cs
  have hledger := commitmentLedger_run hdeal cs
  set r := bettingMachine.run r₀ cs
  have hnonneg := hrev.amount_nonneg hledger.amounts
  obtain ⟨p, hp, hname⟩ := hledger.exists_player hinv.seated hrev.mem
  have htruthy : truthy original.playerId = some p.playerId := by
    rw [hname]
    exact truthy_some (hinv.seated.playerId_ne hp)
  have hplayer : (∃ q ∈ r.players, original.playerId = some q.playerId ∧ GivesBack r q) ↔
      GivesBack r p := by
    constructor
    · rintro ⟨q, hq, hqname, hback⟩
      rwa [eq_of_key_eq hinv.seated.ids_nodup hp hq (Option.some.inj (hname.symm.trans hqname))]
    · exact fun hback => ⟨p, hp, hname, hback⟩
  have hleaves : data.LeavesPlayable r ↔
      (r.round.isActionClosed = true → ∀ q ∈ r.players, ¬ q.Owes r.round.currentHighestBet) ∧
        (original.amount.getD 0 = 0 ∨ GivesBack r p) := by
    unfold ReverseActionRequest.LeavesPlayable
    rw [hrev.found]
    simp [hplayer]
  rw [hleaves, hrev.after]
  rcases data.write_cases original r ids' with ⟨name, hname', hpos, hw⟩ | ⟨hnothing, hw⟩
  · obtain rfl := Option.some.inj (htruthy.symm.trans hname')
    have hgiven := playable_givenBack_iff hinv hp hpos
      (hledger.amount_le hinv.seated hrev.mem hp hname)
      (r.ledger ++ [reversalEntry original data ids'])
    rw [hw]
    refine hgiven.trans (and_congr_right fun _ => ?_)
    exact ⟨Or.inr, fun h => h.resolve_left hpos.ne'⟩
  · have hzero : original.amount.getD 0 = 0 := by
      rcases hnothing with hnone | hle
      · rw [htruthy] at hnone
        cases hnone
      · exact le_antisymm hle hnonneg
    have hsame : Playable { r with ledger := r.ledger ++ [reversalEntry original data ids'] } ↔
        Playable r :=
      ⟨fun h => ⟨h.1, h.2, h.3, h.4, h.5, h.6⟩, fun h => ⟨h.1, h.2, h.3, h.4, h.5, h.6⟩⟩
    rw [hw, hsame, hinv.playable_iff]
    simp [hzero]

/-- Reversing a call of an earlier street leaves a playable hand. -/
theorem reversal_playable_iff_headsUp :
    ∃ entry r', reverseAction (bettingMachine.run (headsUp.tables headsUpIds)
        [.send "alice" "call" 0 "b1" "e1", .advanceStreet]) { originalEntryId := "e1" }
        (named ["back"]) = .ok (entry, r') ∧ Playable r' := by
  refine ⟨_, _, rfl, (reversal_playable_iff
    (show createRound headsUp.toRoundSetup headsUpIds = .ok (headsUp.tables headsUpIds) by decide)
    [.send "alice" "call" 0 "b1" "e1", .advanceStreet] { originalEntryId := "e1" }
    (named ["back"]) _ _ rfl).mpr (by decide)⟩

/-- Reversing the big blind leaves a bet to match that nobody has committed. -/
theorem reversed_big_blind_unplayable :
    ¬ ∀ (d : Deal) (ids : Uuids) (r₀ : RoundTables), createRound d.toRoundSetup ids = .ok r₀ →
      ∀ (cs : List BettingCommand) data ids' entry r',
        reverseAction (bettingMachine.run r₀ cs) data ids' = .ok (entry, r') → Playable r' := by
  intro h
  have hplay := h headsUp headsUpIds (headsUp.tables headsUpIds) (by decide) []
    { originalEntryId := "bb" } (named ["back"]) _ _ rfl
  exact absurd hplay.exists_highest (by decide)

end PokerRoom
