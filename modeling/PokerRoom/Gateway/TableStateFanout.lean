import PokerRoom.Foundation.KeyedTable
import PokerRoom.Foundation.Checks
import PokerRoom.Foundation.Machine

/-!
# The fan-out of table states

`app/infrastructure/table_state_fanout.py`, `table_state_ws.py` and `app/routes/round_routes.py` of
the gateway: websockets subscribe to a round, and a broadcast fetches the table state of the round
from the game service and sends it to the subscribers one after the other.  Broadcasts are started
by events, and by the handler of every connection when it is accepted and from time to time after
that.

Any number of broadcasts run at a time.  A broadcast stops between the request to the game service,
the choice of its targets, and for every target the lookup of its lock and the send under the lock.
No other send to a websocket comes in between a send under its lock, so this one is a single step.
-/

namespace PokerRoom

open Foundation

/-! ## Payloads -/

/-- A table state, as the game service answers with it. -/
structure TableState where
  /-- Version of the round. -/
  stateVersion : Int
  /-- The other fields. -/
  rest : String
deriving DecidableEq, Repr

/-- What is sent to a websocket. -/
inductive Payload
  /-- The game service has refused the request. -/
  | error (roundId : String) (trigger : Option String) (statusCode : ℕ) (detail : String)
  /-- A table state. -/
  | tableState (roundId : String) (trigger : Option String) (data : TableState)
deriving DecidableEq, Repr

/-- The version that a message of type `table_state` carries. -/
def Payload.version : Payload → Option Int
  | .error _ _ _ _ => none
  | .tableState _ _ data => some data.stateVersion

/-- The data of an event. -/
structure EventData where
  /-- The round of the event. -/
  roundId : Option String
deriving DecidableEq, Repr

/-- An event that the gateway consumes. -/
structure ConsumedEvent where
  /-- Type of the event. -/
  eventType : Option String
  /-- The data, if it is an object. -/
  data : Option EventData
deriving DecidableEq, Repr

/-- The round of an event. -/
def extractRoundId (event : ConsumedEvent) : Option String :=
  (event.data.bind (·.roundId)).filter (· ≠ "")

/-! ## Broadcasts -/

/-- How far a broadcast is. -/
inductive BroadcastStage
  /-- The request to the game service is not answered yet. -/
  | requested
  /-- The answer is there. -/
  | fetched (payload : Payload)
  /-- The payload is to be sent to these websockets. -/
  | sending (payload : Payload) (targets : List ℕ)
  /-- The lock of the next one is looked up. -/
  | located (payload : Payload) (websocket : ℕ) (targets : List ℕ)
deriving DecidableEq, Repr

/-- A broadcast. -/
structure Broadcast where
  /-- Number of the broadcast. -/
  id : ℕ
  /-- The round. -/
  roundId : String
  /-- What has triggered it. -/
  trigger : Option String
  /-- The websocket whose handler waits for it. -/
  owner : Option ℕ
  /-- How far it is. -/
  stage : BroadcastStage
deriving DecidableEq, Repr

/-- The handler of a connection. -/
structure ConnectionHandler where
  /-- The websocket. -/
  websocket : ℕ
  /-- Its round. -/
  roundId : String
  /-- The first broadcast was started. -/
  greeted : Bool
deriving DecidableEq, Repr

/-- What triggers the next broadcast of a handler. -/
def ConnectionHandler.trigger (h : ConnectionHandler) : String :=
  if h.greeted then "websocket.reconcile" else "websocket.connected"

/-! ## The system -/

/-- The table states of the game service, and the gateway with what its websockets have received. -/
structure GatewaySystem where
  /-- The current table states. -/
  tables : String → TableState
  /-- The websockets that were accepted so far, with their rounds. -/
  accepted : List (ℕ × String)
  /-- The handlers of the connections. -/
  handlers : List ConnectionHandler
  /-- The subscribers of the rounds. -/
  connections : List (String × ℕ)
  /-- The broadcasts that run. -/
  broadcasts : List Broadcast
  /-- The numbers of all broadcasts so far. -/
  started : List ℕ
  /-- What the websockets have received. -/
  received : List (ℕ × Payload)

/-- Nobody is connected. -/
def GatewaySystem.initial (tables : String → TableState) : GatewaySystem :=
  ⟨tables, [], [], [], [], [], []⟩

/-- The subscribers of a round. -/
def GatewaySystem.subscribers (s : GatewaySystem) (roundId : String) : List ℕ :=
  (s.connections.filter fun c => c.1 = roundId).map (·.2)

/-- Drop a subscriber. -/
def GatewaySystem.disconnect (s : GatewaySystem) (roundId : String) (websocket : ℕ) :
    GatewaySystem :=
  { s with connections := s.connections.filter (· ≠ (roundId, websocket)) }

/-- The broadcast of a number. -/
def GatewaySystem.broadcastOf (s : GatewaySystem) (id : ℕ) : Option Broadcast :=
  s.broadcasts.find? fun b => b.id = id

/-- A broadcast goes on. -/
def GatewaySystem.proceed (s : GatewaySystem) (id : ℕ) (stage : BroadcastStage) : GatewaySystem :=
  { s with broadcasts := updateFirst (·.id) id (fun b => { b with stage := stage }) s.broadcasts }

/-- A broadcast starts. -/
def GatewaySystem.start (s : GatewaySystem) (id : ℕ) (roundId : String) (trigger : Option String)
    (owner : Option ℕ) : GatewaySystem :=
  { s with
    broadcasts := s.broadcasts ++ [⟨id, roundId, trigger, owner, .requested⟩]
    started := s.started ++ [id] }

/-- The handler of a connection ends, with the broadcast that it waits for. -/
def GatewaySystem.endHandler (s : GatewaySystem) (websocket : ℕ) : GatewaySystem :=
  { s with
    handlers := s.handlers.filter fun h => h.websocket ≠ websocket
    connections := s.connections.filter fun c => c.2 ≠ websocket
    broadcasts := s.broadcasts.filter fun b => b.owner ≠ some websocket }

/-- What the broadcast sends, by the answer to its request: the current table state, or a
refusal. -/
def Broadcast.payload (b : Broadcast) (tables : String → TableState) : Option (ℕ × String) → Payload
  | none => .tableState b.roundId b.trigger (tables b.roundId)
  | some (statusCode, detail) => .error b.roundId b.trigger statusCode detail

/-- What the game service and the tasks of the gateway do. -/
inductive GatewayCommand
  /-- The game service writes the table state of a round. -/
  | write (roundId : String) (table : TableState)
  /-- A websocket is accepted and subscribed. -/
  | connect (websocket : ℕ) (roundId : String)
  /-- The handler of a connection ends. -/
  | disconnect (websocket : ℕ)
  /-- The handler of a connection starts a broadcast. -/
  | reconcile (id websocket : ℕ)
  /-- An event is handled. -/
  | handleEvent (id : ℕ) (event : ConsumedEvent)
  /-- The game service answers the request of a broadcast, or refuses it with a status and a
  text. -/
  | fetch (id : ℕ) (refused : Option (ℕ × String))
  /-- A broadcast lists its targets. -/
  | listTargets (id : ℕ)
  /-- A broadcast looks up the lock of its next target. -/
  | locate (id : ℕ)
  /-- A broadcast sends to its target, or fails to. -/
  | send (id : ℕ) (delivered : Bool)
  /-- A broadcast has sent to all its targets. -/
  | finish (id : ℕ)
  /-- A broadcast raises. -/
  | raise (id : ℕ)

/-- A step is not taken: what it is about is not there, or there already. -/
inductive GatewayRejection
  | notThere
deriving DecidableEq, Repr

/-- The gateway and the game service, whose versions never decrease. -/
def gatewayMachine : Machine GatewaySystem GatewayCommand GatewayRejection where
  step s
    | .write roundId table => do
      require ((s.tables roundId).stateVersion ≤ table.stateVersion) .notThere
      return { s with tables := Function.update s.tables roundId table }
    | .connect websocket roundId => do
      require (∀ p ∈ s.accepted, p.1 ≠ websocket) .notThere
      return { s with
        accepted := s.accepted ++ [(websocket, roundId)]
        handlers := s.handlers ++ [⟨websocket, roundId, false⟩]
        connections := s.connections ++ [(roundId, websocket)] }
    | .disconnect websocket => return s.endHandler websocket
    | .reconcile id websocket => do
      let h ← found .notThere (s.handlers.find? fun h => h.websocket = websocket)
      require (id ∉ s.started ∧ ∀ b ∈ s.broadcasts, b.owner ≠ some websocket) .notThere
      return { s.start id h.roundId (some h.trigger) (some websocket) with
        handlers := updateFirst (·.websocket) websocket
          (fun h => { h with greeted := true }) s.handlers }
    | .handleEvent id event => do
      let roundId ← found .notThere (extractRoundId event)
      require (id ∉ s.started ∧ s.subscribers roundId ≠ []) .notThere
      return s.start id roundId event.eventType none
    | .fetch id refused => do
      let b ← found .notThere (s.broadcastOf id)
      require (b.stage = .requested ∧ ∀ r ∈ refused, 400 ≤ r.1) .notThere
      return s.proceed id (.fetched (b.payload s.tables refused))
    | .listTargets id => do
      let b ← found .notThere (s.broadcastOf id)
      match b.stage with
      | .fetched payload => return s.proceed id (.sending payload (s.subscribers b.roundId))
      | _ => .error .notThere
    | .locate id => do
      let b ← found .notThere (s.broadcastOf id)
      match b.stage with
      | .sending payload (websocket :: targets) =>
        if (b.roundId, websocket) ∈ s.connections then
          return s.proceed id (.located payload websocket targets)
        else return s.proceed id (.sending payload targets)
      | _ => .error .notThere
    | .send id delivered => do
      let b ← found .notThere (s.broadcastOf id)
      match b.stage with
      | .located payload websocket targets =>
        if delivered then
          return { s.proceed id (.sending payload targets) with
            received := s.received ++ [(websocket, payload)] }
        else return (s.proceed id (.sending payload targets)).disconnect b.roundId websocket
      | _ => .error .notThere
    | .finish id => do
      let b ← found .notThere (s.broadcastOf id)
      match b.stage with
      | .sending _ [] => return { s with broadcasts := s.broadcasts.filter fun b => b.id ≠ id }
      | _ => .error .notThere
    | .raise id => do
      let b ← found .notThere (s.broadcastOf id)
      match b.owner with
      | some websocket => return s.endHandler websocket
      | none => return { s with broadcasts := s.broadcasts.filter fun b => b.id ≠ id }

/-- The versions of the table states that a websocket has received, in order. -/
def GatewaySystem.versionsOf (s : GatewaySystem) (websocket : ℕ) : List Int :=
  s.received.filterMap fun p => if p.1 = websocket then p.2.version else none

end PokerRoom
