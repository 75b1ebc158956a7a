import PokerRoom.Foundation.KeyedTable
import PokerRoom.Foundation.Checks
import PokerRoom.Foundation.Machine

/-!
# The consumer

`shared/core/messaging/consumer.py`: a consumer declares a main queue, a retry queue whose messages
expire back to the main queue, and a dead-letter queue for rejected messages.  Every message that is
delivered from the main queue is handled by a call of the handler; when the call raises, a copy with
a higher retry count is published to the retry queue and the delivery is acknowledged, until the
retries are used up and the delivery is rejected.

The broker is a table of copies of messages, each one in a queue or with a handler.  Any copy in the
main queue may be delivered next and any number of them may be handled at a time; the handler is
known by whether its calls succeed.  The client library is not part of the repository.  A retry is
published through `message.channel.default_exchange`, and whether this call returns or raises is an
argument of the step: when it raises, the exception leaves `_on_message` and the delivery is neither
acknowledged nor rejected.
-/

namespace PokerRoom

open Foundation

/-! ## Messages -/

/-- Headers of a message. -/
structure MessageHeaders where
  /-- The header `x-retry-count`. -/
  xRetryCount : Option ℕ
  /-- The other headers; the broker writes there when it dead-letters a message. -/
  others : List (String × String)
deriving DecidableEq, Repr

/-- A message. -/
structure Message where
  /-- The body. -/
  body : String
  /-- The headers. -/
  headers : MessageHeaders
  /-- The content type. -/
  contentType : Option String
deriving DecidableEq, Repr

/-- How often the message was retried. -/
def Message.retryCount (message : Message) : ℕ := message.headers.xRetryCount.getD 0

/-- The copy of a message that is published to the retry queue. -/
def retryMsg (message : Message) : Message where
  body := message.body
  headers := { message.headers with xRetryCount := some (message.retryCount + 1) }
  contentType :=
    match message.contentType with
    | none | some "" => some "application/json"
    | some contentType => some contentType

/-! ## Queues -/

/-- How a queue is declared. -/
structure QueueDeclaration where
  /-- Name of the queue. -/
  name : String
  /-- After how many milliseconds its messages expire. -/
  messageTtl : Option ℕ
  /-- Where the default exchange routes what expires or is rejected. -/
  deadLetterRoutingKey : Option String
deriving DecidableEq, Repr

/-- The queues of the broker, and the routing keys that exchanges route to them. -/
structure Broker where
  /-- The queues. -/
  queues : List QueueDeclaration
  /-- Exchange, routing key and queue of every binding. -/
  bindings : List (String × String × String)
deriving DecidableEq, Repr

/-- The arguments of a consumer. -/
structure ConsumerConfig where
  /-- The exchange. -/
  exchangeName : String
  /-- The main queue. -/
  queueName : String
  /-- The retry queue. -/
  retryQueue : String
  /-- The dead-letter queue. -/
  dlqQueue : String
  /-- The routing keys that are consumed. -/
  routingKeys : List String
  /-- Delay of a retry in milliseconds. -/
  retryDelayMs : ℕ
  /-- How often a message is retried. -/
  maxRetries : ℕ
deriving DecidableEq, Repr

/-- Why the broker refuses a declaration: the queue exists and was declared in another way. -/
inductive TopologyError
  | preconditionFailed
deriving DecidableEq, Repr

/-- Declare a queue. -/
def declareQueue (queue : QueueDeclaration) (broker : Broker) : Except TopologyError Broker :=
  match broker.queues.find? fun q => q.name = queue.name with
  | none => .ok { broker with queues := broker.queues ++ [queue] }
  | some declared => if declared = queue then .ok broker else .error .preconditionFailed

/-- Declare the queues of a consumer, and bind the main queue to its routing keys. -/
def setupConsumerTopology (cfg : ConsumerConfig) (broker : Broker) :
    Except TopologyError Broker := do
  let broker ← declareQueue ⟨cfg.queueName, none, some cfg.dlqQueue⟩ broker
  let broker ← declareQueue ⟨cfg.retryQueue, some cfg.retryDelayMs, some cfg.queueName⟩ broker
  let broker ← declareQueue ⟨cfg.dlqQueue, none, none⟩ broker
  return { broker with
    bindings := broker.bindings ++ cfg.routingKeys.map fun rk =>
      (cfg.exchangeName, rk, cfg.queueName) }

/-! ## Copies -/

/-- How far the handling of a delivery is. -/
inductive Stage
  /-- The handler is called. -/
  | running
  /-- The call has succeeded. -/
  | succeeded
  /-- The call has raised. -/
  | raised
  /-- The call has raised, and a copy was published to the retry queue. -/
  | retryPublished
  /-- The call has raised, and the publication of its copy too. -/
  | publishRaised
deriving DecidableEq, Repr

/-- Where a copy of a message is. -/
inductive Place
  /-- It is in a queue. -/
  | queued (queue : String)
  /-- It is delivered and not yet acknowledged or rejected. -/
  | handled (stage : Stage)
  /-- It was acknowledged after its handler has succeeded. -/
  | acknowledged
  /-- It was acknowledged after its retry was published. -/
  | replaced
  /-- The broker could not route it. -/
  | dropped
deriving DecidableEq, Repr

/-- A copy of a message. -/
structure Copy where
  /-- Number of the copy. -/
  number : ℕ
  /-- Number of the copy that was routed to the main queue at first. -/
  origin : ℕ
  /-- What the copy carries. -/
  message : Message
  /-- Where it is. -/
  place : Place
deriving DecidableEq, Repr

/-- A queue takes what the default exchange routes to its name. -/
def Broker.defaultExchange (broker : Broker) (routingKey : String) : Place :=
  if ∃ q ∈ broker.queues, q.name = routingKey then .queued routingKey else .dropped

/-- Where a message goes that expires in a queue or is rejected from it. -/
def Broker.deadLetter (broker : Broker) (queue : String) : Place :=
  match (broker.queues.find? fun q => q.name = queue).bind (·.deadLetterRoutingKey) with
  | none => .dropped
  | some routingKey => broker.defaultExchange routingKey

/-- Messages expire in a queue. -/
def Broker.expires (broker : Broker) (queue : String) : Prop :=
  ((broker.queues.find? fun q => q.name = queue).bind (·.messageTtl)).isSome

instance (broker : Broker) (queue : String) : Decidable (broker.expires queue) :=
  inferInstanceAs (Decidable ((Option.bind _ _).isSome = true))

/-- Move a copy. -/
def Copy.moved (place : Place) (c : Copy) : Copy := { c with place := place }

/-- Dead-letter a copy from a queue. -/
def Copy.deadLettered (broker : Broker) (queue : String)
    (others : List (String × String)) (c : Copy) :
    Copy :=
  { c with
    message := { c.message with headers := { c.message.headers with others := others } }
    place := broker.deadLetter queue }

/-! ## The system -/

/-- What the handling of a delivery asks the broker for. -/
inductive Response
  | ack | reject | publishRetry (message : Message)
deriving DecidableEq, Repr

/-- The next request of the handling of a delivery, if there is one: the handler has returned, and
no publication has raised. -/
def onMessage (maxRetries : ℕ) (message : Message) : Stage → Option Response
  | .running | .publishRaised => none
  | .succeeded => some .ack
  | .raised =>
    if maxRetries ≤ message.retryCount then some .reject else some
      (.publishRetry (retryMsg message))
  | .retryPublished => some .ack

/-- Where an acknowledged delivery ends. -/
def Stage.acked : Stage → Place
  | .succeeded => .acknowledged
  | _ => .replaced

/-- All copies of the messages, the messages as they were routed to the main queue, and the calls of
the handler with the numbers of their messages and whether they succeeded. -/
structure ConsumerSystem where
  /-- The copies. -/
  copies : List Copy
  /-- The messages. -/
  routed : List (ℕ × Message)
  /-- The calls. -/
  calls : List (ℕ × Bool)
deriving DecidableEq, Repr

/-- No message was routed yet. -/
def ConsumerSystem.empty : ConsumerSystem := ⟨[], [], []⟩

/-- The copy of a number. -/
def ConsumerSystem.copyOf (s : ConsumerSystem) (number : ℕ) : Option Copy :=
  s.copies.find? fun c => c.number = number

/-- Rewrite the copy of a number. -/
def ConsumerSystem.update (s : ConsumerSystem) (number : ℕ) (f : Copy → Copy) : ConsumerSystem :=
  { s with copies := updateFirst (·.number) number f s.copies }

/-- What the broker and the handlers do. -/
inductive ConsumerCommand
  /-- A message is routed to the main queue. -/
  | route (number : ℕ) (message : Message)
  /-- A message in the main queue is delivered. -/
  | deliver (number : ℕ)
  /-- The call of a handler returns or raises. -/
  | handlerReturns (number : ℕ) (succeeds : Bool)
  /-- The handling of a delivery makes its next request; a retry gets a fresh number, unless its
  publication raises, and a rejected message the other headers that the broker writes. -/
  | respond (number fresh : ℕ) (others : List (String × String)) (published : Bool)
  /-- A message expires in its queue, and the broker writes its other headers. -/
  | expire (number : ℕ) (others : List (String × String))

/-- Why a step is not taken: the number is taken, or the copy is not there. -/
inductive ConsumerRejection
  | numberTaken | notThere
deriving DecidableEq, Repr

/-- A consumer with its broker. -/
def consumerMachine (cfg : ConsumerConfig) (broker : Broker) :
    Machine ConsumerSystem ConsumerCommand ConsumerRejection where
  step s
    | .route number message => do
      require (∀ c ∈ s.copies, c.number ≠ number) .numberTaken
      return { s with
        copies := s.copies ++ [⟨number, number, message, .queued cfg.queueName⟩]
        routed := s.routed ++ [(number, message)] }
    | .deliver number => do
      let c ← found .notThere (s.copyOf number)
      require (c.place = .queued cfg.queueName) .notThere
      return s.update number (·.moved (.handled .running))
    | .handlerReturns number succeeds => do
      let c ← found .notThere (s.copyOf number)
      require (c.place = .handled .running) .notThere
      return { s.update number (·.moved (.handled (if succeeds then .succeeded else .raised))) with
        calls := s.calls ++ [(c.origin, succeeds)] }
    | .respond number fresh others published => do
      let c ← found .notThere (s.copyOf number)
      match c.place with
      | .handled stage =>
        match onMessage cfg.maxRetries c.message stage with
        | none => .error .notThere
        | some .ack => return s.update number (·.moved stage.acked)
        | some .reject => return s.update number (·.deadLettered broker cfg.queueName others)
        | some (.publishRetry message) =>
          if published then do
            require (∀ c ∈ s.copies, c.number ≠ fresh) .numberTaken
            return { s with
              copies := updateFirst (·.number) number
                (·.moved (.handled .retryPublished)) s.copies ++
                [⟨fresh, c.origin, message, broker.defaultExchange cfg.retryQueue⟩] }
          else return s.update number (·.moved (.handled .publishRaised))
      | _ => .error .notThere
    | .expire number others => do
      let c ← found .notThere (s.copyOf number)
      match c.place with
      | .queued queue => do
        require (broker.expires queue) .notThere
        return s.update number (·.deadLettered broker queue others)
      | _ => .error .notThere

end PokerRoom
