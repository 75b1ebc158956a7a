import PokerRoom.Foundation.KeyedTable
import PokerRoom.Foundation.Checks
import PokerRoom.Foundation.Machine
import PokerRoom.Foundation.Clockwise
import PokerRoom.Domain.RoomConfig

/-!
# The outbox

`shared/core/outbox`: the commands of a service add rows to the outbox in their transactions, and
workers publish them.  A worker claims a batch of pending rows in an open transaction, whose locks
hide these rows from the other workers, publishes them one after the other, marks each one as sent
or counts a failure, and commits; the transaction may be rolled back at any point, also after
messages were published.

The state lists what was published.  A rollback between publishing a message and marking its row
leaves what a rollback after the mark leaves, so the two are one step here; a statement that fails
aborts its transaction and is such a rollback.
-/

namespace PokerRoom

open Foundation

/-! ## Rows -/

/-- Status of a row of the outbox. -/
inductive OutboxStatus
  | pending | sent | failed
deriving DecidableEq, Repr

/-- A row of the outbox. -/
structure OutboxEvent where
  /-- Number of the row. -/
  id : Int
  /-- Identifier of the event. -/
  eventId : String
  /-- Type of the event. -/
  eventType : String
  /-- The routing key. -/
  routingKey : String
  /-- The payload. -/
  payload : String
  /-- Status of the row. -/
  status : OutboxStatus
  /-- Publishes that have failed. -/
  attempts : ℕ
  /-- Text of the last error. -/
  lastError : Option String
  /-- When the message was published. -/
  publishedAt : Option Int
deriving DecidableEq, Repr

/-- What is handed to the publisher for a row. -/
structure OutboxMessage where
  /-- The routing key. -/
  routingKey : String
  /-- The payload. -/
  payload : String
  /-- Identifier of the message. -/
  messageId : String
deriving DecidableEq, Repr

/-- The message of a row. -/
def OutboxEvent.message (ev : OutboxEvent) : OutboxMessage :=
  { routingKey := ev.routingKey, payload := ev.payload, messageId := ev.eventId }

/-- An event to be published. -/
structure DomainEvent where
  /-- Identifier of the event. -/
  eventId : String
  /-- Type of the event. -/
  eventType : String
  /-- The whole event as it is stored. -/
  payload : String
deriving DecidableEq, Repr

/-- The row of an event, under the number that the database assigns. -/
def addOutboxEvent (event : DomainEvent) (id : Int) : OutboxEvent :=
  { id := id
    eventId := event.eventId
    eventType := event.eventType
    routingKey := event.eventType
    payload := event.payload
    status := .pending
    attempts := 0
    lastError := none
    publishedAt := none }

/-- What a worker writes to a row it has published. -/
inductive Mark
  /-- The message is sent. -/
  | sent (publishedAt : Int)
  /-- The publish has failed, as the given attempt. -/
  | failure (attempts : ℕ) (err : String)
deriving DecidableEq, Repr

/-- Mark a row as sent. -/
def markSent (publishedAt : Int) (ev : OutboxEvent) : OutboxEvent :=
  { ev with status := .sent, publishedAt := some publishedAt, lastError := none }

/-- Count a failed attempt; the last one fails the row. -/
def markFailure (maxAttempts attempts : ℕ) (err : String) (ev : OutboxEvent) : OutboxEvent :=
  { ev with
    status := if maxAttempts ≤ attempts then .failed else .pending
    attempts := attempts
    lastError := some (String.ofList (err.toList.take 500)) }

/-- Write a mark. -/
def Mark.write (maxAttempts : ℕ) : Mark → OutboxEvent → OutboxEvent
  | .sent publishedAt => markSent publishedAt
  | .failure attempts err => markFailure maxAttempts attempts err

/-- The mark after the publish of a row. -/
def OutboxEvent.mark (ev : OutboxEvent) (now : Int) : Except String Unit → Mark
  | .ok () => .sent now
  | .error err => .failure (ev.attempts + 1) err

/-! ## The system -/

/-- The open transaction of a worker. -/
structure Batch where
  /-- The worker. -/
  worker : ℕ
  /-- The marks written so far, with the numbers of their rows. -/
  written : List (Int × Mark)
  /-- The claimed rows that are still to be published. -/
  rest : List OutboxEvent
deriving DecidableEq, Repr

/-- The rows that are locked by an open transaction. -/
def Batch.locked (b : Batch) : List Int := b.written.map (·.1) ++ b.rest.map (·.id)

/-- A publish of the message of a row. -/
structure Publication where
  /-- Number of the row. -/
  rowId : Int
  /-- The message. -/
  message : OutboxMessage
  /-- The broker has accepted it. -/
  accepted : Bool
deriving DecidableEq, Repr

/-- The committed rows, the open transactions of the workers, and what was published. -/
structure OutboxSystem where
  /-- The committed rows. -/
  rows : List OutboxEvent
  /-- The open transactions. -/
  batches : List Batch
  /-- What was published. -/
  published : List Publication
deriving DecidableEq, Repr

/-- Nothing is stored, claimed or published yet. -/
def OutboxSystem.empty : OutboxSystem := ⟨[], [], []⟩

/-- The rows that are locked. -/
def OutboxSystem.locked (s : OutboxSystem) : List Int := s.batches.flatMap (·.locked)

/-- Claim pending rows that are not locked. -/
def OutboxSystem.claimBatch (s : OutboxSystem) (batchSize : ℕ) : List OutboxEvent :=
  (bySeat (·.id) (s.rows.filter fun ev => ev.status = .pending ∧ ev.id ∉ s.locked)).take batchSize

/-- What services and workers do. -/
inductive OutboxCommand
  /-- A service commits an event. -/
  | addEvent (event : DomainEvent) (id : Int)
  /-- A worker claims a batch. -/
  | claim (worker batchSize : ℕ)
  /-- A worker publishes the next row of its batch and marks it, at a time. -/
  | publish (worker : ℕ) (outcome : Except String Unit) (now : Int)
  /-- A worker commits its batch. -/
  | commit (worker : ℕ)
  /-- The batch of a worker is rolled back. -/
  | rollback (worker : ℕ)

/-- Why a step is not taken: a unique number or identifier is taken, or the worker is not there
yet. -/
inductive OutboxRejection
  | integrityError | notThere
deriving DecidableEq, Repr

/-- The batch of a worker. -/
def OutboxSystem.batchOf (s : OutboxSystem) (worker : ℕ) : Option Batch :=
  s.batches.find? fun b => b.worker = worker

/-- The open transactions without that of a worker. -/
def OutboxSystem.closed (s : OutboxSystem) (worker : ℕ) : List Batch :=
  s.batches.filter fun b => b.worker ≠ worker

/-- The rows after the marks of a batch are committed. -/
def Batch.commitTo (maxAttempts : ℕ) (b : Batch) (rows : List OutboxEvent) : List OutboxEvent :=
  b.written.foldl (fun rows p => updateFirst (·.id) p.1 (p.2.write maxAttempts) rows) rows

/-- Services and any number of workers on one outbox. -/
def outboxMachine (maxAttempts : ℕ) : Machine OutboxSystem OutboxCommand OutboxRejection where
  step s
    | .addEvent event id => do
      require ((∀ ev ∈ s.rows, ev.id ≠ id) ∧ ∀ ev ∈ s.rows, ev.eventId ≠ event.eventId)
        .integrityError
      return { s with rows := s.rows ++ [addOutboxEvent event id] }
    | .claim worker batchSize => do
      require (∀ b ∈ s.batches, b.worker ≠ worker) .notThere
      return { s with batches := s.batches ++ [⟨worker, [], s.claimBatch batchSize⟩] }
    | .publish worker outcome now => do
      let b ← found .notThere (s.batchOf worker)
      match b.rest with
      | [] => .error .notThere
      | ev :: rest =>
        return { s with
          batches := updateFirst (·.worker) worker
            (fun b =>
              { b with written := b.written ++ [(ev.id, ev.mark now outcome)], rest := rest })
            s.batches
          published := s.published ++ [⟨ev.id, ev.message, outcome.isOk⟩] }
    | .commit worker => do
      let b ← found .notThere (s.batchOf worker)
      require (b.rest = []) .notThere
      return { s with rows := b.commitTo maxAttempts s.rows, batches := s.closed worker }
    | .rollback worker => do
      let _ ← found .notThere (s.batchOf worker)
      return { s with batches := s.closed worker }

end PokerRoom
