import PokerRoom.Domain.Ledger.HandLedger

/-!
# Replaying a hand and checking it against its ledger

`domain/ledger/hand_replay.py`: `replay_hand` rebuilds a hand from its ledger step by step, and
`verify_consistency` compares the rebuilt hand with the live pot and commitments, figure by figure
and player by player.

`verifyConsistency_eq_nil_iff` says when nothing is reported, `rebuildHandState_lists_iff` which
players the rebuilt hand lists.
-/

namespace PokerRoom

open Foundation

/-! ## Definitions -/

/-- A step of a replay. -/
structure HandStep where
  /-- Number of the step, counted from one. -/
  stepNumber : ℕ
  /-- The ledger entry. -/
  entryId : String
  /-- Its kind. -/
  entryType : LedgerEntryType
  /-- The player it is about, if any. -/
  playerId : Option String
  /-- The chips it is about, if any. -/
  amount : Option Int
  /-- The state after it. -/
  stateAfter : HandState
deriving DecidableEq, Repr

/-- A replay of a hand. -/
structure ReplayResult where
  /-- The steps. -/
  steps : List HandStep := []
  /-- The state after the last one. -/
  finalState : HandState := {}
  /-- Number of entries. -/
  entryCount : ℕ := 0
  /-- The replay is consistent; nothing ever denies it. -/
  isConsistent : Bool := true
deriving DecidableEq, Repr

/-- The step of an entry that leads to a state. -/
def LedgerRow.step (e : LedgerRow) (stepNumber : ℕ) (stateAfter : HandState) : HandStep :=
  { stepNumber := stepNumber
    entryId := e.entryId
    entryType := e.entryType
    playerId := e.playerId
    amount := e.amount
    stateAfter := stateAfter }

/-- Apply an entry to the state and append its step. -/
def replayEntry (replay : HandState × List HandStep) (e : LedgerRow) : HandState × List HandStep :=
  let state := applyEntry replay.1 e
  (state, replay.2 ++ [e.step (replay.2.length + 1) state])

/-- Replay a hand from its ledger. -/
def replayHand (entries : List LedgerRow) : ReplayResult :=
  let replay := entries.foldl replayEntry ({}, [])
  { steps := replay.2
    finalState := if entries ≠ [] then replay.1 else {}
    entryCount := entries.length }

/-- What is reported of a live player. -/
def livePlayerDiscrepancies (replayed : HandState) (playerId : String) (committed : Int) :
    List String :=
  match replayed.players.find? fun ps => ps.playerId = playerId with
  | none => ["Player " ++ playerId ++ " exists in live state but not in replay"]
  | some snap =>
    if snap.totalCommitted ≠ committed then
      ["Player " ++ playerId ++ " committed mismatch: replayed=" ++ toString snap.totalCommitted ++
        ", live=" ++ toString committed]
    else []

/-- Compare the live pot and the commitments of the live players with the hand rebuilt from its
ledger. -/
def verifyConsistency (entries : List LedgerRow) (livePotTotal : Int)
    (livePlayerCommitted : List (String × Int)) : List String :=
  let replayed := rebuildHandState entries
  (if replayed.potTotal ≠ livePotTotal then
    ["Pot mismatch: replayed=" ++ toString replayed.potTotal ++ ", live=" ++ toString livePotTotal]
  else []) ++
  (livePlayerCommitted.flatMap fun live => livePlayerDiscrepancies replayed live.1 live.2) ++
  (replayed.players.filter fun ps => ps.playerId ∉ livePlayerCommitted.map (·.1)).map fun ps =>
    "Player " ++ ps.playerId ++ " exists in replay but not in live state"

/-- The rebuilt hand lists a player. -/
def HandState.Lists (state : HandState) (playerId : String) : Prop :=
  (state.players.find? fun ps => ps.playerId = playerId).isSome

/-- The entry makes the rebuilt hand list a player. -/
def LedgerRow.Lists (playerId : String) (e : LedgerRow) : Prop :=
  match e.entryType with
  | .blindPosted | .antePosted | .betPlaced | .payoutAwarded | .actionReversed | .stackAdjusted =>
    truthy e.playerId = some playerId
  | .payoutCorrected =>
    truthy (e.detail.getD {}).oldPlayerId = some playerId ∨ truthy e.playerId = some playerId
  | .roundCompleted | .handReopened | .streetDealt | .unknown _ _ => False

variable {state : HandState} {playerId : String} {named : Option String}
  {f : PlayerSnapshot → PlayerSnapshot} {entries : List LedgerRow} {livePotTotal : Int}
  {livePlayerCommitted : List (String × Int)}

/-! ## The players of a rebuilt hand -/

/-- Who is listed only depends on the players. -/
lemma lists_congr {s t : HandState} (h : s.players = t.players) :
    s.Lists playerId ↔ t.Lists playerId := by
  unfold HandState.Lists
  rw [h]

/-- Updating a player lists him. -/
lemma updatePlayer_lists_iff (hid : ∀ ps, (f ps).playerId = ps.playerId) :
    (state.updatePlayer named f).Lists playerId ↔
      state.Lists playerId ∨ truthy named = some playerId := by
  unfold HandState.updatePlayer HandState.Lists
  cases hn : truthy named with
  | none => simp
  | some id =>
    have hkey : ({ playerId := id } : PlayerSnapshot).playerId = id := rfl
    rw [find?_upsert hid hkey]
    by_cases h : playerId = id
    · simp [h]
    · simp [h, Ne.symm h]

/-- The players listed by a state whose players are those of an updated one. -/
lemma lists_of_updatePlayer {s s' : HandState}
    (hplayers : s'.players = (s.updatePlayer named f).players) (hs : s.players = state.players)
    (hid : ∀ ps, (f ps).playerId = ps.playerId) :
    s'.Lists playerId ↔ state.Lists playerId ∨ truthy named = some playerId := by
  rw [lists_congr hplayers, updatePlayer_lists_iff hid, lists_congr hs]

/-- The players listed by a state whose players are those of a state updated twice. -/
lemma lists_of_updatePlayer_twice {s s' : HandState} {named' : Option String}
    {f' : PlayerSnapshot → PlayerSnapshot}
    (hplayers : s'.players = ((s.updatePlayer named f).updatePlayer named' f').players)
    (hs : s.players = state.players) (hid : ∀ ps, (f ps).playerId = ps.playerId)
    (hid' : ∀ ps, (f' ps).playerId = ps.playerId) :
    s'.Lists playerId ↔
      state.Lists playerId ∨ truthy named = some playerId ∨ truthy named' = some playerId := by
  rw [lists_congr hplayers, updatePlayer_lists_iff hid', updatePlayer_lists_iff hid, lists_congr hs,
    or_assoc]

/-- An entry lists the players it names. -/
lemma applyEntry_lists_iff (state : HandState) (e : LedgerRow) :
    (applyEntry state e).Lists playerId ↔ state.Lists playerId ∨ e.Lists playerId := by
  unfold LedgerRow.Lists applyEntry applyKind
  cases e.entryType with
  | blindPosted | antePosted | betPlaced | payoutAwarded | stackAdjusted =>
    dsimp only
    exact lists_of_updatePlayer rfl rfl fun _ => rfl
  | actionReversed =>
    dsimp only
    exact lists_of_updatePlayer rfl (recordReversal_players _) fun _ => rfl
  | payoutCorrected =>
    dsimp only
    exact lists_of_updatePlayer_twice rfl rfl (fun _ => rfl) fun _ => rfl
  | roundCompleted | handReopened | streetDealt | unknown => exact (or_iff_left not_false).symm

/-- The rebuilt hand lists exactly the players its entries name. -/
theorem rebuildHandState_lists_iff :
    (rebuildHandState entries).Lists playerId ↔ ∃ e ∈ entries, e.Lists playerId := by
  have hnone : ¬ ({} : HandState).Lists playerId := by simp [HandState.Lists]
  have hfold := foldl_exists_iff (P := fun s : HandState => s.Lists playerId) applyEntry_lists_iff
    {} entries
  exact hfold.trans (or_iff_right hnone)

/-! ## The check -/

/-- Nothing is reported of a live player who is listed with his commitment. -/
lemma livePlayerDiscrepancies_eq_nil_iff {committed : Int} :
    livePlayerDiscrepancies state playerId committed = [] ↔
      state.Lists playerId ∧ state.totalCommitted playerId = committed := by
  unfold livePlayerDiscrepancies HandState.Lists HandState.totalCommitted HandState.figure
  cases state.players.find? fun ps => ps.playerId = playerId with
  | none => simp
  | some snap => simp

/-- A hand lists the players of its figures. -/
lemma lists_iff_exists : state.Lists playerId ↔ ∃ ps ∈ state.players, ps.playerId = playerId := by
  simp [HandState.Lists, List.find?_isSome]

/-- Nothing is reported exactly when the pots agree and the listed players are the live ones, with
their commitments. -/
theorem verifyConsistency_eq_nil_iff :
    verifyConsistency entries livePotTotal livePlayerCommitted = [] ↔
      (rebuildHandState entries).potTotal = livePotTotal ∧
      (∀ live ∈ livePlayerCommitted, (∃ e ∈ entries, e.Lists live.1) ∧
        (rebuildHandState entries).totalCommitted live.1 = live.2) ∧
      ∀ playerId, (∃ e ∈ entries, e.Lists playerId) → playerId ∈ livePlayerCommitted.map (·.1) := by
  simp only [verifyConsistency, List.append_eq_nil_iff, ite_eq_right_iff, List.flatMap_eq_nil_iff,
    List.map_eq_nil_iff, List.filter_eq_nil_iff, livePlayerDiscrepancies_eq_nil_iff,
    ← rebuildHandState_lists_iff, and_assoc]
  refine and_congr ?_ (and_congr Iff.rfl ?_)
  · simp
  · simp only [lists_iff_exists, decide_eq_true_eq, not_not]
    exact ⟨fun h _ ⟨ps, hps, hid⟩ => hid ▸ h ps hps, fun h ps hps => h _ ⟨ps, hps, rfl⟩⟩

end PokerRoom
