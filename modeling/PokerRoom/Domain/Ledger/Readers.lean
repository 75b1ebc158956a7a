import PokerRoom.Domain.Ledger.HandHistory
import PokerRoom.Domain.Ledger.HandReplay
import Mathlib.Data.List.Chain

/-!
# The readers of a ledger

A ledger is read three times: `rebuild_hand_state` keeps the last state, `replay_hand` all states on
the way, and `build_hand_timeline` files the actions by street with a running total of its own.
`readers_agree` says that the three agree on every ledger.  The replay and the timeline are related
entry by entry (`Lockstep`).
-/

namespace PokerRoom

open Foundation

/-! ## Definitions -/

instance : DecidablePred LedgerRow.IsAction := fun e =>
  inferInstanceAs (Decidable (e.entryType = .blindPosted ∨ _))

/-- The step replays a blind, an ante or a bet. -/
def HandStep.IsAction (s : HandStep) : Prop :=
  s.entryType = .blindPosted ∨ s.entryType = .antePosted ∨ s.entryType = .betPlaced

instance : DecidablePred HandStep.IsAction := fun s =>
  inferInstanceAs (Decidable (s.entryType = .blindPosted ∨ _))

/-- A step as a timeline files it: with the pot of the replayed state as running total. -/
def HandStep.action (s : HandStep) : ActionEntry :=
  { entryId := s.entryId
    playerId := s.playerId
    actionType := s.entryType
    amount := s.amount.getD 0
    potRunningTotal := s.stateAfter.potTotal }

/-- The replay, the rebuilt hand and the timeline of a ledger agree. -/
structure ReadersAgree (entries : List LedgerRow) (timeline : HandTimeline) : Prop where
  /-- Every entry has a step, and its state is the one rebuilt from the entries up to it. -/
  steps : (replayHand entries).steps.map (·.stateAfter) =
    (List.range entries.length).map fun k => rebuildHandState (entries.take (k + 1))
  /-- The replay ends in the rebuilt state. -/
  final : (replayHand entries).finalState = rebuildHandState entries
  /-- The filed actions are the replayed ones, with the pots of their steps. -/
  actions : timeline.streets.flatMap (·.actions) =
    ((replayHand entries).steps.filter (·.IsAction)).map (·.action)
  /-- Each street ends with the pot the next one begins with. -/
  streets : timeline.streets.IsChain fun s s' => s.potAtEnd = s'.potAtStart
  /-- The last street ends with the rebuilt pot. -/
  last : ∃ s ∈ timeline.streets.getLast?, s.potAtEnd = (rebuildHandState entries).potTotal
  /-- The hand is completed or not. -/
  isCompleted : timeline.isCompleted = (rebuildHandState entries).isCompleted
  /-- The hand was reopened or not. -/
  isReopened : timeline.isReopened = (rebuildHandState entries).isReopened

variable {entries : List LedgerRow} {e : LedgerRow} {t : OpenTimeline} {state : HandState}
  {steps : List HandStep}

/-! ## The replay -/

/-- Replaying a further entry. -/
lemma foldl_replayEntry_concat :
    (entries ++ [e]).foldl replayEntry ({}, []) =
      replayEntry (entries.foldl replayEntry ({}, [])) e := List.foldl_concat ..

/-- The state of a replay is the rebuilt one. -/
lemma foldl_replayEntry_fst (entries : List LedgerRow) :
    (entries.foldl replayEntry ({}, [])).1 = rebuildHandState entries := by
  induction entries using List.reverseRecOn with
  | nil => rfl
  | append_singleton entries e ih =>
    rw [foldl_replayEntry_concat, rebuildHandState, List.foldl_concat]
    exact congrArg (applyEntry · e) ih

/-- The states of the steps are those rebuilt from the entries up to them. -/
lemma foldl_replayEntry_states (entries : List LedgerRow) :
    (entries.foldl replayEntry ({}, [])).2.map (·.stateAfter) =
      (List.range entries.length).map fun k => rebuildHandState (entries.take (k + 1)) := by
  induction entries using List.reverseRecOn with
  | nil => rfl
  | append_singleton entries e ih =>
    have hfst := foldl_replayEntry_fst (entries ++ [e])
    rw [foldl_replayEntry_concat] at hfst ⊢
    have hlast : (entries ++ [e]).take (entries.length + 1) = entries ++ [e] :=
      List.take_of_length_le (by simp)
    have hearlier : (List.range entries.length).map
      (fun k => rebuildHandState (entries.take (k + 1))) =
        (List.range entries.length).map fun k =>
          rebuildHandState ((entries ++ [e]).take (k + 1)) := by
      refine List.map_congr_left fun k hk => ?_
      rw [List.take_append_of_le_length (List.mem_range.mp hk)]
    rw [List.length_append, List.length_singleton, List.range_succ, List.map_append,
      List.map_singleton,
      hlast, ← hearlier, ← ih, ← hfst]
    simp [replayEntry, LedgerRow.step]

/-! ## One entry -/

/-- Whether the hand is completed after an entry. -/
def LedgerRow.completedAfter (e : LedgerRow) (before : Bool) : Bool :=
  match e.entryType with
  | .roundCompleted => true
  | .handReopened => false
  | _ => before

/-- Whether the hand was reopened after an entry. -/
def LedgerRow.reopenedAfter (e : LedgerRow) (before : Bool) : Bool :=
  match e.entryType with
  | .handReopened => true
  | _ => before

/-- Updating a player leaves the flags alone. -/
@[simp] lemma updatePlayer_flags (named : Option String) (f : PlayerSnapshot → PlayerSnapshot) :
    (state.updatePlayer named f).isCompleted = state.isCompleted ∧
      (state.updatePlayer named f).isReopened = state.isReopened := by
  unfold HandState.updatePlayer
  split <;> exact ⟨rfl, rfl⟩

/-- Recording a reversed entry leaves the flags alone. -/
@[simp] lemma recordReversal_flags (orig : Option String) :
    (state.recordReversal orig).isCompleted = state.isCompleted ∧
      (state.recordReversal orig).isReopened = state.isReopened := by
  unfold HandState.recordReversal
  split <;> exact ⟨rfl, rfl⟩

/-- The flags of a rebuilt hand after an entry. -/
lemma applyEntry_flags (state : HandState) (e : LedgerRow) :
    (applyEntry state e).isCompleted = e.completedAfter state.isCompleted ∧
      (applyEntry state e).isReopened = e.reopenedAfter state.isReopened := by
  unfold applyEntry applyKind LedgerRow.completedAfter LedgerRow.reopenedAfter
  cases e.entryType <;> simp

/-- Filing an entry adds its weight to the pot and sets the flags. -/
lemma file_pot_flags (t : OpenTimeline) (e : LedgerRow) :
    (t.file e).pot = t.pot + e.potWeight ∧
      (t.file e).timeline.isCompleted = e.completedAfter t.timeline.isCompleted ∧
      (t.file e).timeline.isReopened = e.reopenedAfter t.timeline.isReopened := by
  unfold OpenTimeline.file LedgerRow.potWeight LedgerRow.completedAfter LedgerRow.reopenedAfter
  cases e.entryType with
  | payoutAwarded => cases truthy e.playerId <;> simp
  | actionReversed => simp [sub_eq_add_neg]
  | streetDealt | blindPosted | antePosted | betPlaced | roundCompleted | stackAdjusted
    | handReopened
    | payoutCorrected | unknown => simp

/-- The actions an entry is filed as, with the pot of a state. -/
def LedgerRow.actions (e : LedgerRow) (stateAfter : HandState) : List ActionEntry :=
  if e.IsAction then [(e.step 0 stateAfter).action] else []

/-- What filing an entry does to the streets: a marker begins one, and any other entry leaves the
streets before the open one and the start of the open one alone and appends at most its own
action. -/
lemma file_streets_cases (t : OpenTimeline) (e : LedgerRow) (stateAfter : HandState)
    (hpot : (t.file e).pot = stateAfter.potTotal) :
    (e.actions stateAfter = [] ∧ (t.file e).streets = t.streets ++
      [{ street := e.newStreetName, potAtStart := t.pot, potAtEnd := t.pot }]) ∨
    ∃ s, (t.file e).streets = t.timeline.streets ++ [s] ∧
      s.potAtStart = t.currentStreet.potAtStart ∧
      s.actions = t.currentStreet.actions ++ e.actions stateAfter := by
  have hstep (hk : e.entryType ≠ .blindPosted ∧ e.entryType ≠ .antePosted ∧
    e.entryType ≠ .betPlaced) :
      e.actions stateAfter = [] := by
    simp [LedgerRow.actions, LedgerRow.IsAction, hk]
  have haction (hk : e.entryType = .blindPosted ∨ e.entryType = .antePosted ∨
    e.entryType = .betPlaced) :
      e.actions stateAfter =
        [{ entryId := e.entryId
           playerId := e.playerId
           actionType := e.entryType
           amount := e.amount.getD 0
           potRunningTotal := (t.file e).pot }] := by
    rw [hpot]
    simp [LedgerRow.actions, LedgerRow.IsAction, LedgerRow.step, HandStep.action, hk]
  unfold OpenTimeline.file at haction ⊢
  cases hk : e.entryType with
  | streetDealt => exact Or.inl ⟨hstep (by simp [hk]), rfl⟩
  | blindPosted | antePosted | betPlaced =>
    rw [haction (by simp [hk]), hk]
    exact Or.inr ⟨_, rfl, rfl, rfl⟩
  | payoutAwarded =>
    rw [hstep (by simp [hk])]
    cases truthy e.playerId <;> exact Or.inr ⟨_, rfl, rfl, by simp⟩
  | roundCompleted | actionReversed | stackAdjusted | handReopened | payoutCorrected | unknown =>
    rw [hstep (by simp [hk])]
    exact Or.inr ⟨_, rfl, rfl, by simp⟩

/-- The last street ends with the pot. -/
lemma streets_getLast? (t : OpenTimeline) :
    t.streets.getLast? = some { t.currentStreet with potAtEnd := t.pot } := List.getLast?_concat

/-! ## In lockstep -/

/-- A timeline being built and a replay have read the same entries. -/
structure Lockstep (t : OpenTimeline) (replay : HandState × List HandStep) : Prop where
  /-- The pots agree. -/
  pot : t.pot = replay.1.potTotal
  /-- The hand is completed or not. -/
  isCompleted : t.timeline.isCompleted = replay.1.isCompleted
  /-- The hand was reopened or not. -/
  isReopened : t.timeline.isReopened = replay.1.isReopened
  /-- The filed actions are the replayed ones. -/
  actions : t.streets.flatMap (·.actions) = (replay.2.filter (·.IsAction)).map (·.action)
  /-- Each street ends with the pot the next one begins with. -/
  streets : t.streets.IsChain fun s s' => s.potAtEnd = s'.potAtStart

variable {replay : HandState × List HandStep}

/-- The replayed actions after an entry. -/
lemma replayEntry_actions (replay : HandState × List HandStep) (e : LedgerRow) :
    ((replayEntry replay e).2.filter (·.IsAction)).map (·.action) =
      (replay.2.filter (·.IsAction)).map (·.action) ++ e.actions (applyEntry replay.1 e) := by
  rw [replayEntry, List.filter_append, List.map_append]
  have hone (stepNumber : ℕ) (stateAfter : HandState) :
      (e.step stepNumber stateAfter).IsAction ↔ e.IsAction := Iff.rfl
  congr 1
  rw [LedgerRow.actions, List.filter_singleton]
  simp only [hone]
  by_cases haction : e.IsAction
  · simp [haction, HandStep.action, LedgerRow.step]
  · simp [haction]

/-- An entry keeps the two in lockstep. -/
lemma Lockstep.file (h : Lockstep t replay) (e : LedgerRow) :
    Lockstep (t.file e) (replayEntry replay e) := by
  obtain ⟨hpot, hcompleted, hreopened⟩ := file_pot_flags t e
  obtain ⟨hcompleted', hreopened'⟩ := applyEntry_flags replay.1 e
  have hpots : (t.file e).pot = (applyEntry replay.1 e).potTotal := by
    rw [hpot, h.pot, applyEntry_potTotal]
  rw [h.isCompleted, ← hcompleted'] at hcompleted
  rw [h.isReopened, ← hreopened'] at hreopened
  have hactions := h.actions
  have hchain := h.streets
  obtain ⟨hnone, hstreets⟩ | ⟨s, hstreets, hstart, hs⟩ := file_streets_cases t e _ hpots
  · refine ⟨hpots, hcompleted, hreopened, ?_, ?_⟩
    · rw [replayEntry_actions, hnone, hstreets, List.flatMap_append, hactions]
      rfl
    · rw [hstreets]
      apply hchain.append (List.isChain_singleton _)
      intro x hx y hy
      rw [streets_getLast?] at hx
      obtain rfl := Option.some.inj hx
      obtain rfl := Option.some.inj hy
      rfl
  · -- the open street is replaced by one that begins with the same pot
    refine ⟨hpots, hcompleted, hreopened, ?_, ?_⟩
    · rw [OpenTimeline.streets, List.flatMap_append] at hactions
      rw [replayEntry_actions, hstreets, List.flatMap_append, ← hactions, List.append_assoc]
      simp [hs]
    · rw [hstreets]
      rw [OpenTimeline.streets, List.isChain_append] at hchain
      apply hchain.1.append (List.isChain_singleton _)
      intro x hx y hy
      obtain rfl := Option.some.inj hy
      rw [hchain.2.2 x hx _ rfl, hstart]

/-- Entries keep the two in lockstep. -/
lemma Lockstep.foldl (h : Lockstep t replay) (entries : List LedgerRow) :
    Lockstep (entries.foldl OpenTimeline.file t) (entries.foldl replayEntry replay) := by
  induction entries generalizing t replay with
  | nil => exact h
  | cons e es ih => exact ih (h.file e)

/-- Nothing is read. -/
lemma lockstep_init (timeline : HandTimeline) (hstreets : timeline.streets = [])
    (hcompleted : timeline.isCompleted = false) (hreopened : timeline.isReopened = false) :
    Lockstep { timeline := timeline } ({}, []) := by
  refine ⟨rfl, hcompleted, hreopened, ?_, ?_⟩ <;> rw [OpenTimeline.streets, hstreets]
  · rfl
  · exact List.isChain_singleton _

/-- **Three readers of a ledger.** On every ledger the replay goes through the rebuilt states, and
the timeline files the replayed actions with their pots, street after street. -/
theorem readers_agree (roundId : String) (entries : List LedgerRow) :
    ReadersAgree entries (buildHandTimeline roundId entries) := by
  have hlock : Lockstep _ _ := (lockstep_init { roundId := roundId, totalEntries := entries.length }
    rfl rfl rfl).foldl entries
  have hrebuilt := foldl_replayEntry_fst entries
  refine ⟨foldl_replayEntry_states entries, ?_, hlock.actions, hlock.streets,
    ⟨_, streets_getLast? _, ?_⟩, ?_, ?_⟩
  · cases entries with
    | nil => rfl
    | cons e es => exact hrebuilt
  · rw [← hrebuilt]
    exact hlock.pot
  · rw [← hrebuilt]
    exact hlock.isCompleted
  · rw [← hrebuilt]
    exact hlock.isReopened

end PokerRoom
