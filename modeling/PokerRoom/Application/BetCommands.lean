import PokerRoom.Domain.Engine.ActionPipeline
import PokerRoom.Foundation.Checks

/-!
# Placing a bet

`application/commands/bet_command_service.py`: a request is answered from the recorded bets when its
idempotency key was used before; otherwise the action is applied, the round is updated if its
version is still the one that was read, and the bet is recorded together with a ledger entry.

`placeBet_cases` lists what an accepted request can do.
-/

namespace PokerRoom

open Foundation

/-! ## Definitions -/

/-- A request to place a bet on a round. -/
structure PlaceBet where
  /-- The player who acts. -/
  playerId : String
  /-- The word of the action. -/
  action : String
  /-- The requested amount. -/
  amount : Int
  /-- Client key that makes retries idempotent. -/
  idempotencyKey : Option String := none
  /-- The version the client has seen. -/
  expectedVersion : Option Int := none
deriving DecidableEq, Repr

/-- Report a failure of the engine as a rejection of the request. -/
def liftDomain {α : Type} (x : Except DomainError α) : Except Rejection α :=
  x.mapError .domain

/-- The bet recorded under the idempotency key of a request; an empty key is no key. -/
def PlaceBet.existing (data : PlaceBet) (r : RoundTables) : Option Bet :=
  match data.idempotencyKey with
  | none => none
  | some key =>
    if key = "" then none else r.bets.find? fun b => b.idempotencyKey = some key

/-- Update the round unless its stored version changed since it was read. -/
def casUpdateRound (stored gameRound : Round) (expectedVersion : Int) : Except Rejection Round :=
  if stored.stateVersion = expectedVersion then .ok gameRound
  else .error (.domain ⟨.staleStateError, "Concurrent update on round " ++ gameRound.roundId ++
    ": expected state_version=" ++ toString expectedVersion⟩)

/-- The bet and the ledger entry recorded for an applied action. -/
def recordBetAction (playerId : String) (action : BetAction) (amount : Int)
    (idempotencyKey : Option String) (ids : Uuids) : Bet × HandLedgerEntry :=
  let betId := ids 0
  ({ betId := betId
     playerId := playerId
     action := action
     amount := amount
     idempotencyKey := idempotencyKey },
   { entryId := ids 1
     entryType := .betPlaced
     playerId := some playerId
     amount := some amount
     detail := some { action := some action, betId := some betId }
     originalEntryId := none
     dealerId := none })

/-- Place a bet: the recorded bet and the rows afterwards. -/
def placeBet (r : RoundTables) (data : PlaceBet) (ids : Uuids) :
    Except Rejection (Bet × RoundTables) :=
  match BetAction.ofValue? (upper data.action) with
  | none => .error (.domain
      ⟨.illegalAction, ErrorMessage.invalidAction.value ++ ": " ++ data.action⟩)
  | some requested =>
    match data.existing r with
    | some existing =>
      if existing.playerId ≠ data.playerId ∨ existing.action ≠ requested ∨
          existing.amount ≠ data.amount then
        .error (.domain ⟨.idempotencyConflict, "Idempotency key '" ++
          data.idempotencyKey.getD "" ++ "' already used in round " ++ r.round.roundId ++
          " with a different payload"⟩)
      else .ok (existing, r)
    | none => do
      let (result, gameRound, roundPlayers) ← liftDomain (applyAction r.round r.players
        data.playerId (upper data.action) data.amount data.expectedVersion)
      let gameRound ← casUpdateRound r.round gameRound r.round.version
      let (bet, entry) := recordBetAction data.playerId result.action result.amount
        data.idempotencyKey ids
      let r' ← RoundTables.flush
        { r with
          round := gameRound
          players := roundPlayers
          bets := r.bets ++ [bet]
          ledger := r.ledger ++ [entry] }
      return (bet, r')

/-! ## Specification -/

/-- The six words are their own upper case. -/
lemma upper_value (a : BetAction) : upper a.value = a.value := by
  cases a <;> decide

/-- A string names an action exactly when it is the action's word. -/
lemma ofValue?_eq_some_iff {s : String} {a : BetAction} :
    BetAction.ofValue? s = some a ↔ s = a.value := by
  constructor
  · intro h
    have := List.find?_some h
    simpa [eq_comm] using this
  · rintro rfl
    cases a <;> decide

/-- Folding the case of a legal word a second time changes nothing. -/
lemma ofValue?_upper_upper {s : String} {a : BetAction}
    (h : BetAction.ofValue? (upper s) = some a) :
    BetAction.ofValue? (upper (upper s)) = some a := by
  rw [ofValue?_eq_some_iff] at h ⊢
  rw [h, upper_value]

/-- A lifted computation succeeds exactly when the engine does. -/
lemma liftDomain_eq_ok_iff {α : Type} {x : Except DomainError α} {a : α} :
    liftDomain x = .ok a ↔ x = .ok a := by
  cases x <;> simp [liftDomain, Except.mapError]

/-- The rows after an applied action of the player `p`. -/
def RoundTables.afterBet (r : RoundTables) (data : PlaceBet) (p : PlayerState) (v : ValidatedAction)
    (ids : Uuids) : RoundTables :=
  { r with
    round := r.round.acted p v (actedPlayers data.playerId v r.players)
    players := actedPlayers data.playerId v r.players
    bets := r.bets ++ [(recordBetAction data.playerId v.action v.amount data.idempotencyKey ids).1]
    ledger :=
      r.ledger ++ [(recordBetAction data.playerId v.action v.amount data.idempotencyKey ids).2] }

/-- A request that was applied: nothing is recorded under its key, the versions agree, the action is
accepted and the rows it leaves satisfy the constraints. -/
structure BetApplied (r : RoundTables) (data : PlaceBet) (ids : Uuids) (p : PlayerState)
    (a : BetAction) (v : ValidatedAction) (r' : RoundTables) : Prop where
  /-- The idempotency key is new. -/
  fresh : data.existing r = none
  /-- The client has seen the current version. -/
  expected : ∀ n ∈ data.expectedVersion, r.round.version = n
  /-- The stored version is the one that was read. -/
  stored : r.round.stateVersion = r.round.version
  /-- The word of the request names the action. -/
  word : BetAction.ofValue? (upper data.action) = some a
  /-- The engine accepts it. -/
  accepted : Accepted r.round r.players data.playerId (upper data.action) data.amount p a v
  /-- The constraints hold afterwards. -/
  constraints : r'.Constraints
  /-- The rows afterwards. -/
  after : r' = r.afterBet data p v ids

/-- What an accepted request does: it finds its recorded bet and changes nothing, or it is applied
and answered with the bet it records. -/
theorem placeBet_cases {r : RoundTables} (hnd : (r.players.map (·.playerId)).Nodup)
    {data : PlaceBet} {ids : Uuids} {b : Bet} {r' : RoundTables}
    (h : placeBet r data ids = .ok (b, r')) :
    (data.existing r = some b ∧ r' = r) ∨
      ∃ p a v, BetApplied r data ids p a v r' ∧
        b = (recordBetAction data.playerId v.action v.amount data.idempotencyKey ids).1 := by
  unfold placeBet at h
  cases hword : BetAction.ofValue? (upper data.action) with
  | none => rw [hword] at h; simp at h
  | some requested =>
    rw [hword] at h
    cases hex : data.existing r with
    | some existing =>
      simp only [hex] at h
      split at h
      · simp at h
      · simp only [Except.ok.injEq, Prod.mk.injEq] at h
        exact Or.inl ⟨by rw [h.1], h.2.symm⟩
    | none =>
      right
      simp only [hex, bind_eq_ok_iff, liftDomain_eq_ok_iff] at h
      obtain ⟨out, happ, g, hcas, r'', hflush, hret⟩ := h
      obtain ⟨hev, p, a, v, hacc, rfl⟩ := exists_accepted_of_applyAction hnd happ
      unfold casUpdateRound at hcas
      split at hcas
      · next hstored =>
        obtain rfl := Except.ok.inj hcas
        obtain ⟨hcons, rfl⟩ := RoundTables.flush_eq_ok_iff.mp hflush
        obtain ⟨rfl, rfl⟩ := Prod.mk.inj (Except.ok.inj hret)
        have hsame : requested = a :=
          Option.some.inj ((ofValue?_upper_upper hword).symm.trans hacc.word)
        exact ⟨p, a, v, ⟨hex, hev, hstored, hsame ▸ hword, hacc, hcons, rfl⟩, rfl⟩
      · cases hcas

end PokerRoom
