import PokerRoom.Domain.Models
import PokerRoom.Foundation.KeyedTable
import PokerRoom.Foundation.Replay
import Mathlib.Algebra.Group.Int.Defs

/-!
# Replaying the hand ledger

`domain/ledger/hand_ledger.py`: the state of a hand is rebuilt by applying the ledger entries in
order.

Every figure of the rebuilt state is additive in the entries.  The weights of an entry are
`potWeight`, `committedWeight`, `wonWeight` and `adjustmentWeight`, and the figures of a rebuilt
state are their sums (`rebuildHandState_potTotal` and its companions).
-/

namespace PokerRoom

open Foundation

/-! ## Definitions -/

/-- The figures of one player in a rebuilt hand. -/
structure PlayerSnapshot where
  /-- The player. -/
  playerId : String
  /-- Sum of the adjustments of his stack. -/
  stackAdjustment : Int := 0
  /-- Chips committed, less those given back. -/
  totalCommitted : Int := 0
  /-- Chips won. -/
  totalWon : Int := 0
  /-- His last action was reversed. -/
  isActionReversed : Bool := false
deriving DecidableEq, Repr

/-- A correction of a payout. -/
structure PayoutCorrection where
  /-- The ledger entry. -/
  entryId : String
  /-- The player chips are taken from. -/
  oldPlayerId : Option String
  /-- The chips taken. -/
  oldAmount : Int
  /-- The player chips are given to. -/
  newPlayerId : Option String
  /-- The chips given. -/
  newAmount : Int
deriving DecidableEq, Repr

/-- The state of a hand rebuilt from its ledger.  The players are in the order in which the ledger
names them first. -/
structure HandState where
  /-- Figures of the players. -/
  players : List PlayerSnapshot := []
  /-- Chips in the pot. -/
  potTotal : Int := 0
  /-- The hand is completed. -/
  isCompleted : Bool := false
  /-- The hand was reopened. -/
  isReopened : Bool := false
  /-- The reversed entries. -/
  reversedEntryIds : List String := []
  /-- The corrections of payouts. -/
  payoutCorrections : List PayoutCorrection := []
  /-- Number of entries applied. -/
  entryCount : ℕ := 0
deriving DecidableEq, Repr

/-- Rewrite the figures of a player, if one is named; a new player starts from zero. -/
def HandState.updatePlayer (state : HandState) (playerId : Option String)
    (f : PlayerSnapshot → PlayerSnapshot) : HandState :=
  match truthy playerId with
  | some id => { state with players := upsert (·.playerId) id { playerId := id } f state.players }
  | none => state

/-- Record a reversed entry, if one is named. -/
def HandState.recordReversal (state : HandState) (originalEntryId : Option String) : HandState :=
  match truthy originalEntryId with
  | some id => { state with reversedEntryIds := state.reversedEntryIds.insert id }
  | none => state

/-- Apply the entry, its count aside. -/
def applyKind (state : HandState) (e : LedgerRow) : HandState :=
  let amt := e.amount.getD 0
  match e.entryType with
  | .blindPosted | .antePosted | .betPlaced =>
    let state := state.updatePlayer e.playerId fun ps =>
      { ps with totalCommitted := ps.totalCommitted + amt, isActionReversed := false }
    { state with potTotal := state.potTotal + amt }
  | .payoutAwarded =>
    state.updatePlayer e.playerId fun ps => { ps with totalWon := ps.totalWon + amt }
  | .roundCompleted => { state with isCompleted := true }
  | .actionReversed =>
    let state := (state.recordReversal e.originalEntryId).updatePlayer e.playerId fun ps =>
      { ps with totalCommitted := ps.totalCommitted - amt, isActionReversed := true }
    { state with potTotal := state.potTotal - amt }
  | .stackAdjusted =>
    state.updatePlayer e.playerId fun ps => { ps with stackAdjustment := ps.stackAdjustment + amt }
  | .handReopened => { state with isCompleted := false, isReopened := true }
  | .payoutCorrected =>
    let detail := e.detail.getD {}
    let oldAmount := detail.oldAmount.getD 0
    let state := state.updatePlayer detail.oldPlayerId fun ps =>
      { ps with totalWon := ps.totalWon - oldAmount }
    let state := state.updatePlayer e.playerId fun ps => { ps with totalWon := ps.totalWon + amt }
    { state with
      payoutCorrections := state.payoutCorrections ++
        [{ entryId := e.entryId
           oldPlayerId := detail.oldPlayerId
           oldAmount := oldAmount
           newPlayerId := e.playerId
           newAmount := amt }] }
  | .streetDealt | .unknown _ _ => state

/-- Apply one ledger entry. -/
def applyEntry (state : HandState) (e : LedgerRow) : HandState :=
  applyKind { state with entryCount := state.entryCount + 1 } e

/-- Rebuild the state of a hand from its ledger. -/
def rebuildHandState (entries : List LedgerRow) : HandState := entries.foldl applyEntry {}

/-- A figure of a player in a rebuilt hand, `0` when the ledger does not name him. -/
def HandState.figure (state : HandState) (f : PlayerSnapshot → Int) (playerId : String) : Int :=
  ((state.players.find? fun ps => ps.playerId = playerId).map f).getD 0

/-- Chips committed by a player. -/
def HandState.totalCommitted (state : HandState) : String → Int := state.figure (·.totalCommitted)

/-- Chips won by a player. -/
def HandState.totalWon (state : HandState) : String → Int := state.figure (·.totalWon)

/-- Adjustments of the stack of a player. -/
def HandState.stackAdjustment (state : HandState) : String → Int :=
  state.figure (·.stackAdjustment)

/-! ## The weights of an entry -/

/-- What an entry adds to the pot. -/
def LedgerRow.potWeight (e : LedgerRow) : Int :=
  match e.entryType with
  | .blindPosted | .antePosted | .betPlaced => e.amount.getD 0
  | .actionReversed => -e.amount.getD 0
  | _ => 0

/-- The amount, where the identifier names the player. -/
def weightFor (playerId : String) (named : Option String) (amount : Int) : Int :=
  if truthy named = some playerId then amount else 0

/-- What an entry adds to the chips a player has committed. -/
def LedgerRow.committedWeight (playerId : String) (e : LedgerRow) : Int :=
  weightFor playerId e.playerId e.potWeight

/-- What an entry adds to the chips a player has won. -/
def LedgerRow.wonWeight (playerId : String) (e : LedgerRow) : Int :=
  match e.entryType with
  | .payoutAwarded => weightFor playerId e.playerId (e.amount.getD 0)
  | .payoutCorrected =>
    weightFor playerId (e.detail.getD {}).oldPlayerId (-((e.detail.getD {}).oldAmount.getD 0)) +
      weightFor playerId e.playerId (e.amount.getD 0)
  | _ => 0

/-- What an entry adds to the adjustments of a player's stack. -/
def LedgerRow.adjustmentWeight (playerId : String) (e : LedgerRow) : Int :=
  match e.entryType with
  | .stackAdjusted => weightFor playerId e.playerId (e.amount.getD 0)
  | _ => 0

variable {state : HandState} {playerId : String} {named : Option String}
  {f : PlayerSnapshot → PlayerSnapshot}

/-- Updating a player leaves the pot alone. -/
@[simp] lemma updatePlayer_potTotal : (state.updatePlayer named f).potTotal = state.potTotal := by
  unfold HandState.updatePlayer
  split <;> rfl

/-- Updating a player adds to his figure what the rewriting adds to it, and nothing to the figures
of others. -/
lemma figure_updatePlayer {g : PlayerSnapshot → Int} {x : Int}
    (hid : ∀ ps, (f ps).playerId = ps.playerId) (hg : ∀ ps, g (f ps) = g ps + x)
    (hzero : ∀ id, g { playerId := id } = 0) :
    (state.updatePlayer named f).figure g playerId =
      state.figure g playerId + weightFor playerId named x := by
  unfold HandState.updatePlayer HandState.figure weightFor
  cases hn : truthy named with
  | none => simp
  | some id =>
    simp only [Option.some.injEq]
    have hkey : (({ playerId := id } : PlayerSnapshot)).playerId = id := rfl
    rw [find?_upsert hid hkey]
    by_cases h : playerId = id
    · subst h
      rw [if_pos rfl, if_pos rfl]
      cases state.players.find? fun ps => ps.playerId = playerId with
      | none => simp [hg, hzero]
      | some ps => simp [hg]
    · rw [if_neg h, if_neg (Ne.symm h), add_zero]

/-- Figures only depend on the players. -/
lemma figure_congr {s t : HandState} (h : s.players = t.players) (g : PlayerSnapshot → Int) :
    s.figure g playerId = t.figure g playerId := by
  unfold HandState.figure
  rw [h]

/-- The figures of a state whose players are those of an updated one. -/
lemma figure_of_updatePlayer {s s' : HandState} {g : PlayerSnapshot → Int} (x : Int)
    (hplayers : s'.players = (s.updatePlayer named f).players) (hs : s.players = state.players)
    (hid : ∀ ps, (f ps).playerId = ps.playerId) (hg : ∀ ps, g (f ps) = g ps + x)
    (hzero : ∀ id, g { playerId := id } = 0) :
    s'.figure g playerId = state.figure g playerId + weightFor playerId named x := by
  rw [figure_congr hplayers, figure_updatePlayer hid hg hzero, figure_congr hs]

/-- A figure that an update does not touch stays what it is. -/
lemma figure_of_updatePlayer_of_eq {s s' : HandState} {g : PlayerSnapshot → Int}
    (hplayers : s'.players = (s.updatePlayer named f).players) (hs : s.players = state.players)
    (hid : ∀ ps, (f ps).playerId = ps.playerId) (hg : ∀ ps, g (f ps) = g ps)
    (hzero : ∀ id, g { playerId := id } = 0) :
    s'.figure g playerId = state.figure g playerId := by
  rw [figure_of_updatePlayer 0 hplayers hs hid (fun ps => by rw [hg, add_zero]) hzero]
  simp [weightFor]

/-- The figures of a state whose players are those of a state updated twice. -/
lemma figure_of_updatePlayer_twice {s s' : HandState} {g : PlayerSnapshot → Int}
    {named₁ named₂ : Option String} {f₁ f₂ : PlayerSnapshot → PlayerSnapshot} (x₁ x₂ : Int)
    (hplayers : s'.players = ((s.updatePlayer named₁ f₁).updatePlayer named₂ f₂).players)
    (hs : s.players = state.players) (hid₁ : ∀ ps, (f₁ ps).playerId = ps.playerId)
    (hid₂ : ∀ ps, (f₂ ps).playerId = ps.playerId) (hg₁ : ∀ ps, g (f₁ ps) = g ps + x₁)
    (hg₂ : ∀ ps, g (f₂ ps) = g ps + x₂) (hzero : ∀ id, g { playerId := id } = 0) :
    s'.figure g playerId =
      state.figure g playerId + (weightFor playerId named₁ x₁ + weightFor playerId named₂ x₂) := by
  rw [figure_congr hplayers, figure_updatePlayer hid₂ hg₂ hzero, figure_updatePlayer hid₁ hg₁ hzero,
    figure_congr hs, add_assoc]

/-- A figure that neither of two updates touches stays what it is. -/
lemma figure_of_updatePlayer_twice_of_eq {s s' : HandState} {g : PlayerSnapshot → Int}
    {named₁ named₂ : Option String} {f₁ f₂ : PlayerSnapshot → PlayerSnapshot}
    (hplayers : s'.players = ((s.updatePlayer named₁ f₁).updatePlayer named₂ f₂).players)
    (hs : s.players = state.players) (hid₁ : ∀ ps, (f₁ ps).playerId = ps.playerId)
    (hid₂ : ∀ ps, (f₂ ps).playerId = ps.playerId) (hg₁ : ∀ ps, g (f₁ ps) = g ps)
    (hg₂ : ∀ ps, g (f₂ ps) = g ps) (hzero : ∀ id, g { playerId := id } = 0) :
    s'.figure g playerId = state.figure g playerId := by
  rw [figure_of_updatePlayer_twice 0 0 hplayers hs hid₁ hid₂ (fun ps => by rw [hg₁, add_zero])
    (fun ps => by rw [hg₂, add_zero]) hzero]
  simp [weightFor]

/-- Adding nothing weighs nothing. -/
@[simp] lemma weightFor_zero : weightFor playerId named 0 = 0 := by simp [weightFor]

/-- Recording a reversed entry leaves the players alone. -/
lemma recordReversal_players (orig : Option String) :
    (state.recordReversal orig).players = state.players := by
  unfold HandState.recordReversal
  split <;> rfl

/-- Recording a reversed entry leaves the pot alone. -/
@[simp] lemma recordReversal_potTotal (orig : Option String) :
    (state.recordReversal orig).potTotal = state.potTotal := by
  unfold HandState.recordReversal
  split <;> rfl

/-! ## One entry -/

/-- An entry adds its weight to the pot. -/
lemma applyEntry_potTotal (state : HandState) (e : LedgerRow) :
    (applyEntry state e).potTotal = state.potTotal + e.potWeight := by
  unfold applyEntry applyKind LedgerRow.potWeight
  cases e.entryType <;> simp [sub_eq_add_neg]

/-- An entry adds its weight to the chips a player has committed. -/
lemma applyEntry_totalCommitted (playerId : String) (state : HandState) (e : LedgerRow) :
    (applyEntry state e).totalCommitted playerId =
      state.totalCommitted playerId + e.committedWeight playerId := by
  unfold HandState.totalCommitted LedgerRow.committedWeight LedgerRow.potWeight applyEntry applyKind
  cases e.entryType with
  | blindPosted | antePosted | betPlaced =>
    dsimp only
    exact figure_of_updatePlayer _ rfl rfl (fun _ => rfl) (fun _ => rfl) (fun _ => rfl)
  | actionReversed =>
    dsimp only
    exact figure_of_updatePlayer _ rfl (recordReversal_players _) (fun _ => rfl) (fun _ => rfl)
      (fun _ => rfl)
  | payoutAwarded | stackAdjusted =>
    dsimp only
    rw [weightFor_zero, add_zero]
    exact figure_of_updatePlayer_of_eq rfl rfl (fun _ => rfl) (fun _ => rfl) (fun _ => rfl)
  | payoutCorrected =>
    dsimp only
    rw [weightFor_zero, add_zero]
    exact figure_of_updatePlayer_twice_of_eq rfl rfl (fun _ => rfl) (fun _ => rfl) (fun _ => rfl)
      (fun _ => rfl) (fun _ => rfl)
  | roundCompleted | handReopened | streetDealt | unknown =>
    rw [weightFor_zero, add_zero]
    rfl

/-- An entry adds its weight to the chips a player has won. -/
lemma applyEntry_totalWon (playerId : String) (state : HandState) (e : LedgerRow) :
    (applyEntry state e).totalWon playerId = state.totalWon playerId + e.wonWeight playerId := by
  unfold HandState.totalWon LedgerRow.wonWeight applyEntry applyKind
  cases e.entryType with
  | payoutAwarded =>
    dsimp only
    exact figure_of_updatePlayer _ rfl rfl (fun _ => rfl) (fun _ => rfl) (fun _ => rfl)
  | payoutCorrected =>
    dsimp only
    exact figure_of_updatePlayer_twice _ _ rfl rfl (fun _ => rfl) (fun _ => rfl)
      (fun _ => sub_eq_add_neg _ _) (fun _ => rfl) fun _ => rfl
  | blindPosted | antePosted | betPlaced | stackAdjusted =>
    dsimp only
    rw [add_zero]
    exact figure_of_updatePlayer_of_eq rfl rfl (fun _ => rfl) (fun _ => rfl) (fun _ => rfl)
  | actionReversed =>
    dsimp only
    rw [add_zero]
    exact figure_of_updatePlayer_of_eq rfl (recordReversal_players _) (fun _ => rfl) (fun _ => rfl)
      (fun _ => rfl)
  | roundCompleted | handReopened | streetDealt | unknown =>
    rw [add_zero]
    rfl

/-- An entry adds its weight to the adjustments of a player's stack. -/
lemma applyEntry_stackAdjustment (playerId : String) (state : HandState) (e : LedgerRow) :
    (applyEntry state e).stackAdjustment playerId =
      state.stackAdjustment playerId + e.adjustmentWeight playerId := by
  unfold HandState.stackAdjustment LedgerRow.adjustmentWeight applyEntry applyKind
  cases e.entryType with
  | stackAdjusted =>
    dsimp only
    exact figure_of_updatePlayer _ rfl rfl (fun _ => rfl) (fun _ => rfl) (fun _ => rfl)
  | payoutCorrected =>
    dsimp only
    rw [add_zero]
    exact figure_of_updatePlayer_twice_of_eq rfl rfl (fun _ => rfl) (fun _ => rfl) (fun _ => rfl)
      (fun _ => rfl) (fun _ => rfl)
  | blindPosted | antePosted | betPlaced | payoutAwarded =>
    dsimp only
    rw [add_zero]
    exact figure_of_updatePlayer_of_eq rfl rfl (fun _ => rfl) (fun _ => rfl) (fun _ => rfl)
  | actionReversed =>
    dsimp only
    rw [add_zero]
    exact figure_of_updatePlayer_of_eq rfl (recordReversal_players _) (fun _ => rfl) (fun _ => rfl)
      (fun _ => rfl)
  | roundCompleted | handReopened | streetDealt | unknown =>
    rw [add_zero]
    rfl

/-! ## The whole ledger -/

/-- The rebuilt pot is the sum of the weights of the entries. -/
theorem rebuildHandState_potTotal (entries : List LedgerRow) :
    (rebuildHandState entries).potTotal = (entries.map (·.potWeight)).sum := by
  have h := foldl_measure (fun s : HandState => s.potTotal) _ applyEntry_potTotal {} entries
  rwa [zero_add] at h

/-- The rebuilt commitment of a player is the sum of the weights of the entries. -/
theorem rebuildHandState_totalCommitted (entries : List LedgerRow) (playerId : String) :
    (rebuildHandState entries).totalCommitted playerId =
      (entries.map (·.committedWeight playerId)).sum := by
  have h := foldl_measure (fun s : HandState => s.totalCommitted playerId) _
    (applyEntry_totalCommitted playerId) {} entries
  rwa [show ({} : HandState).totalCommitted playerId = 0 from rfl, zero_add] at h

/-- The rebuilt winnings of a player are the sum of the weights of the entries. -/
theorem rebuildHandState_totalWon (entries : List LedgerRow) (playerId : String) :
    (rebuildHandState entries).totalWon playerId = (entries.map (·.wonWeight playerId)).sum := by
  have h := foldl_measure (fun s : HandState => s.totalWon playerId) _
    (applyEntry_totalWon playerId) {}
    entries
  rwa [show ({} : HandState).totalWon playerId = 0 from rfl, zero_add] at h

/-- The rebuilt adjustments of a player are the sum of the weights of the entries. -/
theorem rebuildHandState_stackAdjustment (entries : List LedgerRow) (playerId : String) :
    (rebuildHandState entries).stackAdjustment playerId =
      (entries.map (·.adjustmentWeight playerId)).sum := by
  have h := foldl_measure (fun s : HandState => s.stackAdjustment playerId) _
    (applyEntry_stackAdjustment playerId) {} entries
  rwa [show ({} : HandState).stackAdjustment playerId = 0 from rfl, zero_add] at h

end PokerRoom
