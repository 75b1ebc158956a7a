import PokerRoom.Application.RoundCommands
import PokerRoom.Domain.Ledger.HandLedger

/-!
# Corrections

`application/commands/correction_command_service.py`: a dealer reverses a recorded action, adjusts a
stack, reopens a completed hand or corrects a payout.  Every correction appends a ledger entry and
edits the stored rows beside it; none of them changes the version of the round.
-/

namespace PokerRoom

open Foundation

/-! ## Requests -/

/-- A request to reverse a recorded action. -/
structure ReverseActionRequest where
  /-- The entry to reverse. -/
  originalEntryId : String
  /-- The dealer who asks for it. -/
  dealerId : Option String := none
  /-- The stated reason. -/
  reason : Option String := none
deriving DecidableEq, Repr

/-- A request to adjust a stack. -/
@[ext]
structure AdjustStackRequest where
  /-- The player. -/
  playerId : String
  /-- Chips to add, negative to take. -/
  amount : Int
  /-- The identifier is not empty. -/
  playerId_ne : playerId ≠ ""
  /-- The dealer who asks for it. -/
  dealerId : Option String := none
  /-- The stated reason. -/
  reason : Option String := none
deriving Repr

instance : DecidableEq AdjustStackRequest :=
  fun _ _ => decidable_of_iff _ AdjustStackRequest.ext_iff.symm

/-- A request to reopen a completed hand. -/
structure ReopenHandRequest where
  /-- The dealer who asks for it. -/
  dealerId : Option String := none
  /-- The stated reason. -/
  reason : Option String := none
deriving DecidableEq, Repr

/-- A request to correct a payout. -/
@[ext]
structure CorrectPayoutRequest where
  /-- The player chips are taken from. -/
  oldPlayerId : String
  /-- The chips taken. -/
  oldAmount : Int
  /-- The player chips are given to. -/
  newPlayerId : String
  /-- The chips given. -/
  newAmount : Int
  /-- The first identifier is not empty. -/
  oldPlayerId_ne : oldPlayerId ≠ ""
  /-- The second identifier is not empty. -/
  newPlayerId_ne : newPlayerId ≠ ""
  /-- The chips taken are not negative. -/
  oldAmount_nonneg : 0 ≤ oldAmount
  /-- The chips given are not negative. -/
  newAmount_nonneg : 0 ≤ newAmount
  /-- The dealer who asks for it. -/
  dealerId : Option String := none
  /-- The stated reason. -/
  reason : Option String := none
deriving Repr

instance : DecidableEq CorrectPayoutRequest :=
  fun _ _ => decidable_of_iff _ CorrectPayoutRequest.ext_iff.symm

/-! ## Definitions -/

/-- The state of the hand rebuilt from the ledger of a round. -/
def getHandState (r : RoundTables) : HandState := rebuildHandState (r.ledger.map (·.toLedgerRow))

/-- The detail that states a reason. -/
def reasonDetail (reason : Option String) : Option LedgerDetail :=
  (truthy reason).map fun text => { reason := some text }

/-- The identifiers of the entries a ledger has reversed. -/
def reversedIds (ledger : List HandLedgerEntry) : List (Option String) :=
  (ledger.filter fun e => e.entryType = .actionReversed).map (·.originalEntryId)

/-- Add chips to the stack of a player. -/
def addStack (playerId : String) (amount : Int) (players : List RoundPlayer) : List RoundPlayer :=
  updateFirst (·.playerId) playerId
    (fun rp => { rp with stackRemaining := rp.stackRemaining + amount }) players

/-- Give committed chips back to a player; his commitments do not go below zero. -/
def PlayerState.uncommit (amount : Int) (rp : RoundPlayer) : RoundPlayer :=
  { rp with
    stackRemaining := rp.stackRemaining + amount
    committedThisStreet := max 0 (rp.committedThisStreet - amount)
    committedThisHand := max 0 (rp.committedThisHand - amount) }

/-- The entry a reversal appends. -/
def reversalEntry (original : HandLedgerEntry) (data : ReverseActionRequest) (ids : Uuids) :
    HandLedgerEntry :=
  { entryId := ids 0
    entryType := .actionReversed
    playerId := original.playerId
    amount := original.amount
    detail := reasonDetail data.reason
    originalEntryId := some data.originalEntryId
    dealerId := data.dealerId }

/-- The rows after the reversal of an entry. -/
def ReverseActionRequest.write (data : ReverseActionRequest) (original : HandLedgerEntry)
    (r : RoundTables) (ids : Uuids) : RoundTables :=
  let reversedAmount := original.amount.getD 0
  let ledger := r.ledger ++ [reversalEntry original data ids]
  match truthy original.playerId with
  | some playerId =>
    if reversedAmount > 0 then
      { r with
        round := { r.round with potAmount := max 0 (r.round.potAmount - reversedAmount) }
        players :=
          updateFirst (·.playerId) playerId (PlayerState.uncommit reversedAmount) r.players
        ledger := ledger }
    else { r with ledger := ledger }
  | none => { r with ledger := ledger }

/-- The check that the entry was not reversed before. -/
def ReverseActionRequest.checkNotReversed (data : ReverseActionRequest)
    (ledger : List HandLedgerEntry) : Except Rejection Unit :=
  require (some data.originalEntryId ∉ reversedIds ledger)
    (.domain ⟨.entryAlreadyReversed, ErrorMessage.entryAlreadyReversed.value⟩)

/-- Reverse a recorded action.  An entry of another round is not found, as a missing one. -/
def reverseAction (r : RoundTables) (data : ReverseActionRequest) (ids : Uuids) :
    Except Rejection (HandLedgerEntry × RoundTables) :=
  match r.ledger.find? fun e => e.entryId = data.originalEntryId with
  | none => .error (.domain ⟨.ledgerEntryNotFound, ErrorMessage.ledgerEntryNotFound.value⟩)
  | some original => do
    require (original.entryType.isCorrection = false)
      (.domain ⟨.cannotReverseCorrection, ErrorMessage.cannotReverseCorrection.value⟩)
    data.checkNotReversed r.ledger
    let r' ← (data.write original r ids).flush
    return (reversalEntry original data ids, r')

/-- The rows after an adjustment of a stack. -/
def AdjustStackRequest.write (data : AdjustStackRequest) (r : RoundTables) (ids : Uuids) :
    RoundTables :=
  { r with
    players := addStack data.playerId data.amount r.players
    ledger := r.ledger ++
      [{ entryId := ids 0
         entryType := .stackAdjusted
         playerId := some data.playerId
         amount := some data.amount
         detail := reasonDetail data.reason
         originalEntryId := none
         dealerId := data.dealerId }] }

/-- Adjust a stack. -/
def adjustStack (r : RoundTables) (data : AdjustStackRequest) (ids : Uuids) :
    Except Rejection RoundTables :=
  (data.write r ids).flush

/-- The rows after reopening a hand. -/
def ReopenHandRequest.write (data : ReopenHandRequest) (r : RoundTables) (ids : Uuids) :
    RoundTables :=
  { r with
    round := { r.round with status := .active, isActionClosed := false }
    ledger := r.ledger ++
      [{ entryId := ids 0
         entryType := .handReopened
         playerId := none
         amount := none
         detail := reasonDetail data.reason
         originalEntryId := none
         dealerId := data.dealerId }] }

/-- Reopen a completed hand. -/
def reopenHand (r : RoundTables) (data : ReopenHandRequest) (ids : Uuids) :
    Except Rejection RoundTables := do
  require (r.round.status = .completed)
    (.domain ⟨.roundNotCompleted, ErrorMessage.roundNotCompleted.value⟩)
  (data.write r ids).flush

/-- The rows after the correction of a payout. -/
def CorrectPayoutRequest.write (data : CorrectPayoutRequest) (r : RoundTables) (ids : Uuids) :
    RoundTables :=
  { r with
    players := addStack data.newPlayerId data.newAmount
      (addStack data.oldPlayerId (-data.oldAmount) r.players)
    ledger := r.ledger ++
      [{ entryId := ids 0
         entryType := .payoutCorrected
         playerId := some data.newPlayerId
         amount := some data.newAmount
         detail := some
          { oldPlayerId := some data.oldPlayerId
            oldAmount := some data.oldAmount
            reason := data.reason }
         originalEntryId := none
         dealerId := data.dealerId }] }

/-- Correct a payout. -/
def correctPayout (r : RoundTables) (data : CorrectPayoutRequest) (ids : Uuids) :
    Except Rejection RoundTables :=
  (data.write r ids).flush

/-! ## Specification -/

/-- What a reversal writes: where the reversed entry moved chips of a player, he gets them back from
the pot. -/
lemma ReverseActionRequest.write_cases (data : ReverseActionRequest) (original : HandLedgerEntry)
    (r : RoundTables) (ids : Uuids) :
    (∃ name, truthy original.playerId = some name ∧ 0 < original.amount.getD 0 ∧
      data.write original r ids =
        { r with
          round := { r.round with potAmount := max 0 (r.round.potAmount - original.amount.getD 0) }
          players := updateFirst (·.playerId) name
            (PlayerState.uncommit (original.amount.getD 0)) r.players
          ledger := r.ledger ++ [reversalEntry original data ids] }) ∨
    ((truthy original.playerId = none ∨ original.amount.getD 0 ≤ 0) ∧
      data.write original r ids =
        { r with ledger := r.ledger ++ [reversalEntry original data ids] }) := by
  unfold ReverseActionRequest.write
  cases hname : truthy original.playerId with
  | none => exact Or.inr ⟨Or.inl rfl, rfl⟩
  | some name =>
    dsimp only
    split
    · next hpos => exact Or.inl ⟨name, rfl, hpos, rfl⟩
    · next hpos => exact Or.inr ⟨Or.inr (not_lt.mp hpos), rfl⟩

/-- A reversal appends its entry to the ledger. -/
lemma ReverseActionRequest.ledger_write (data : ReverseActionRequest) (original : HandLedgerEntry)
    (r : RoundTables) (ids : Uuids) :
    (data.write original r ids).ledger = r.ledger ++ [reversalEntry original data ids] := by
  rcases data.write_cases original r ids with ⟨name, -, -, hw⟩ | ⟨-, hw⟩
  · rw [hw]
  · rw [hw]

/-- Reversals recorded after each other are all recorded. -/
lemma reversedIds_append (ledger es : List HandLedgerEntry) :
    reversedIds (ledger ++ es) = reversedIds ledger ++ reversedIds es := by
  simp [reversedIds]

/-- Entries of other kinds reverse nothing. -/
lemma reversedIds_eq_nil {es : List HandLedgerEntry}
    (hes : ∀ e ∈ es, e.entryType ≠ .actionReversed) :
    reversedIds es = [] := by
  rw [reversedIds, List.filter_eq_nil_iff.mpr (by simpa using hes), List.map_nil]

/-- An entry of another kind reverses nothing. -/
lemma reversedIds_concat_of_ne (ledger : List HandLedgerEntry) {e : HandLedgerEntry}
    (he : e.entryType ≠ .actionReversed) : reversedIds (ledger ++ [e]) = reversedIds ledger := by
  have hnone : reversedIds [e] = [] := reversedIds_eq_nil (by simpa using he)
  rw [reversedIds_append, hnone, List.append_nil]

/-- The check passes the entries no reversal names. -/
@[simp]
lemma ReverseActionRequest.checkNotReversed_eq_ok_iff {data : ReverseActionRequest}
    {ledger : List HandLedgerEntry} {u : Unit} :
    data.checkNotReversed ledger = .ok u ↔ some data.originalEntryId ∉ reversedIds ledger :=
  require_eq_ok_iff

/-- What an accepted reversal has passed, and what it does. -/
structure Reversed (r : RoundTables) (data : ReverseActionRequest) (ids : Uuids)
    (original : HandLedgerEntry) (r' : RoundTables) : Prop where
  /-- The entry is found. -/
  found : r.ledger.find? (fun e => e.entryId = data.originalEntryId) = some original
  /-- It is no correction. -/
  not_correction : original.entryType.isCorrection = false
  /-- It was not reversed before. -/
  not_reversed : some data.originalEntryId ∉ reversedIds r.ledger
  /-- The constraints hold afterwards. -/
  constraints : r'.Constraints
  /-- The rows afterwards. -/
  after : r' = data.write original r ids

/-- The ledger gains the entry of a reversal. -/
lemma Reversed.ledger_eq {r r' : RoundTables} {data : ReverseActionRequest} {ids : Uuids}
    {original : HandLedgerEntry} (hrev : Reversed r data ids original r') :
    r'.ledger = r.ledger ++ [reversalEntry original data ids] := by
  rw [hrev.after, data.ledger_write]

/-- The specification of a reversal. -/
theorem reverseAction_eq_ok_iff {r r' : RoundTables} {data : ReverseActionRequest} {ids : Uuids}
    {entry : HandLedgerEntry} :
    reverseAction r data ids = .ok (entry, r') ↔
      ∃ original, Reversed r data ids original r' ∧ entry = reversalEntry original data ids := by
  unfold reverseAction
  cases hfind : r.ledger.find? fun e => e.entryId = data.originalEntryId with
  | none =>
    simp only [reduceCtorEq, false_iff, not_exists, not_and]
    rintro original ⟨hfound, -⟩
    rw [hfound] at hfind
    cases hfind
  | some original =>
    simp only [bind_eq_ok_iff, require_eq_ok_iff, data.checkNotReversed_eq_ok_iff,
      RoundTables.flush_eq_ok_iff]
    constructor
    · rintro ⟨-, hcorr, -, hnew, r'', ⟨hcons, rfl⟩, hret⟩
      obtain ⟨rfl, rfl⟩ := Prod.mk.inj (Except.ok.inj hret)
      exact ⟨original, ⟨hfind, hcorr, hnew, hcons, rfl⟩, rfl⟩
    · rintro ⟨original', ⟨hfound, hcorr, hnew, hcons, rfl⟩, rfl⟩
      obtain rfl := Option.some.inj (hfind.symm.trans hfound)
      exact ⟨(), hcorr, (), hnew, _, ⟨hcons, rfl⟩, rfl⟩

/-- The specification of reopening a hand. -/
theorem reopenHand_eq_ok_iff {r r' : RoundTables} {data : ReopenHandRequest} {ids : Uuids} :
    reopenHand r data ids = .ok r' ↔
      r.round.status = .completed ∧ r'.Constraints ∧ r' = data.write r ids := by
  unfold reopenHand
  simp only [bind_eq_ok_iff, require_eq_ok_iff, RoundTables.flush_eq_ok_iff]
  constructor
  · rintro ⟨-, hstatus, hcons, rfl⟩
    exact ⟨hstatus, hcons, rfl⟩
  · rintro ⟨hstatus, hcons, rfl⟩
    exact ⟨(), hstatus, hcons, rfl⟩

end PokerRoom
