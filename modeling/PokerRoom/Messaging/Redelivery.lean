import Mathlib.Data.List.GetD
import PokerRoom.Messaging.Consumer

/-!
# Messages are retried and never dropped

In a run of a consumer and its broker every message has one copy that counts, wherever it is, and
its body stays the same; a message ends acknowledged after the first call of the handler that
succeeds, or in the dead-letter queue after one more failure than there are retries.  This holds of
a message as long as the client library publishes its retries, and of no other one
(`messages_retried_iff`): a delivery whose retry is not published stays with the consumer, neither
acknowledged nor rejected (`MessageStuck`).

The invariant is `Tracked`, which follows the one live copy of a message; every step leaves the copy
alone or lowers its `rank` (`ConsumerStep.tracked`), which is also why a message that is served
ends.  A live copy is stuck exactly when a publication for its message has raised before
(`messageStuck_iff`).
-/

namespace PokerRoom

open Foundation

/-! ## Definitions -/

/-- The places where a copy of a message counts: the queues, handlers that have not published a
retry and are not over, and those of acknowledged messages. -/
def Place.Counts (cfg : ConsumerConfig) : Place → Prop
  | .queued queue => queue = cfg.queueName ∨ queue = cfg.retryQueue ∨ queue = cfg.dlqQueue
  | .handled stage => stage ≠ .retryPublished ∧ stage ≠ .publishRaised
  | .acknowledged => True
  | .replaced | .dropped => False

instance (cfg : ConsumerConfig) : DecidablePred (Place.Counts cfg) := fun place =>
  match place with
  | .queued _ | .handled _ | .acknowledged | .replaced | .dropped => by
    unfold Place.Counts
    infer_instance

/-- The copies of a message that count. -/
def Copy.CountsFor (cfg : ConsumerConfig) (m : ℕ) (c : Copy) : Prop :=
  c.origin = m ∧ c.place.Counts cfg

instance (cfg : ConsumerConfig) (m : ℕ) : DecidablePred (Copy.CountsFor cfg m) := fun c =>
  inferInstanceAs (Decidable (c.origin = m ∧ c.place.Counts cfg))

/-- The copies of a message whose retry is not published yet. -/
def Copy.Live (m : ℕ) (c : Copy) : Prop :=
  c.origin = m ∧ c.place ≠ .handled .retryPublished ∧ c.place ≠ .replaced

/-- The places where a message ends. -/
def Place.Final (cfg : ConsumerConfig) (place : Place) : Prop :=
  place = .acknowledged ∨ place = .queued cfg.dlqQueue

/-- Whether the calls of the handler for a message succeeded, in order. -/
def ConsumerSystem.callsOf (s : ConsumerSystem) (m : ℕ) : List Bool :=
  (s.calls.filter fun call => call.1 = m).map (·.2)

/-- A message has ended. -/
def MessageEnded (cfg : ConsumerConfig) (s : ConsumerSystem) (m : ℕ) : Prop :=
  ∃ c ∈ s.copies, c.origin = m ∧ c.place.Final cfg

/-- A message is accounted for. -/
structure MessageAccounted (cfg : ConsumerConfig) (s : ConsumerSystem) (m : ℕ) (message : Message) :
    Prop where
  /-- One copy counts. -/
  one : (s.copies.countP fun c => c.CountsFor cfg m) = 1
  /-- No copy is dropped. -/
  notDropped : ∀ c ∈ s.copies, c.origin = m → c.place ≠ .dropped
  /-- The body stays the same. -/
  body : ∀ c ∈ s.copies, c.origin = m → c.message.body = message.body
  /-- It is acknowledged after the first call that succeeds. -/
  acknowledged : ∀ c ∈ s.copies, c.origin = m → c.place = .acknowledged →
    ∃ k ≤ cfg.maxRetries, s.callsOf m = List.replicate k false ++ [true]
  /-- It is dead-lettered after the last retry has failed. -/
  deadLettered : ∀ c ∈ s.copies, c.origin = m → c.place = .queued cfg.dlqQueue →
    s.callsOf m = List.replicate (cfg.maxRetries + 1) false
  /-- The handler is called once and for every retry at most. -/
  calls_le : (s.callsOf m).length ≤ cfg.maxRetries + 1

/-- The state after the first requests of an infinite sequence. -/
def consumerState (cfg : ConsumerConfig) (broker : Broker) (f : ℕ → ConsumerCommand) (n : ℕ) :
    ConsumerSystem :=
  (consumerMachine cfg broker).run .empty ((List.range n).map f)

/-- Every copy that counts is moved on sometime, unless its message has ended there. -/
def Served (cfg : ConsumerConfig) (broker : Broker) (f : ℕ → ConsumerCommand) : Prop :=
  ∀ n, ∀ c ∈ (consumerState cfg broker f n).copies, c.place.Counts cfg → ¬ c.place.Final cfg →
    ∃ n', n ≤ n' ∧ c ∉ (consumerState cfg broker f n').copies

/-- A message is retried a bounded number of times and never dropped. -/
structure MessageRetried (cfg : ConsumerConfig) (broker : Broker) (f : ℕ → ConsumerCommand)
    (p : ℕ × Message) : Prop where
  /-- It is accounted for at every moment. -/
  accounted : ∀ n, p ∈ (consumerState cfg broker f n).routed →
    MessageAccounted cfg (consumerState cfg broker f n) p.1 p.2
  /-- Once it has ended it is not handled again. -/
  final : ∀ n n', n ≤ n' → p ∈ (consumerState cfg broker f n).routed →
    MessageEnded cfg (consumerState cfg broker f n) p.1 →
      MessageEnded cfg (consumerState cfg broker f n') p.1 ∧
        (consumerState cfg broker f n').callsOf p.1 = (consumerState cfg broker f n).callsOf p.1
  /-- It can end from every moment on. -/
  canEnd : ∀ n, p ∈ (consumerState cfg broker f n).routed →
    ∃ cs, MessageEnded cfg ((consumerMachine cfg broker).run (consumerState cfg broker f n) cs) p.1
  /-- It ends if all copies are moved on. -/
  ends : Served cfg broker f → ∃ n, MessageEnded cfg (consumerState cfg broker f n) p.1

/-- The client library raises where a retry of a message is to be published. -/
def RetryRaises (cfg : ConsumerConfig) (m : ℕ) (s : ConsumerSystem)
    (cmd : ConsumerCommand) : Prop :=
  ∃ c ∈ s.copies, c.origin = m ∧ c.place = .handled .raised ∧
    c.message.retryCount < cfg.maxRetries ∧
    ∃ fresh others, cmd = .respond c.number fresh others false

/-- A delivery of a message is neither acknowledged nor rejected, and its handling is over. -/
def MessageStuck (s : ConsumerSystem) (m : ℕ) : Prop :=
  ∃ c ∈ s.copies, c.origin = m ∧ c.place = .handled .publishRaised

/-- The queues route messages as the consumer needs it. -/
structure Topology (cfg : ConsumerConfig) (broker : Broker) : Prop where
  /-- The queues are different. -/
  main_ne_retry : cfg.queueName ≠ cfg.retryQueue
  /-- The queues are different. -/
  main_ne_dlq : cfg.queueName ≠ cfg.dlqQueue
  /-- The queues are different. -/
  retry_ne_dlq : cfg.retryQueue ≠ cfg.dlqQueue
  /-- Retries are routed to the retry queue. -/
  retried : broker.defaultExchange cfg.retryQueue = .queued cfg.retryQueue
  /-- They expire back to the main queue. -/
  expired : broker.deadLetter cfg.retryQueue = .queued cfg.queueName
  /-- Rejected messages are dead-lettered. -/
  rejected : broker.deadLetter cfg.queueName = .queued cfg.dlqQueue
  /-- Retries expire. -/
  retry_expires : broker.expires cfg.retryQueue
  /-- Messages to be delivered do not. -/
  main_expires : ¬ broker.expires cfg.queueName
  /-- Dead letters do not. -/
  dlq_expires : ¬ broker.expires cfg.dlqQueue

/-- The calls for a message whose copy was retried `k` times, by the place of the copy. -/
inductive Tried (cfg : ConsumerConfig) : Place → ℕ → List Bool → Prop
  | waiting {k} (h : k ≤ cfg.maxRetries) : Tried cfg (.queued cfg.queueName) k (.replicate k false)
  | retrying {k} (h : k ≤ cfg.maxRetries) : Tried cfg (.queued cfg.retryQueue) k
    (.replicate k false)
  | running {k} (h : k ≤ cfg.maxRetries) : Tried cfg (.handled .running) k (.replicate k false)
  | succeeded {k} (h : k ≤ cfg.maxRetries) :
    Tried cfg (.handled .succeeded) k (.replicate k false ++ [true])
  | raised {k} (h : k ≤ cfg.maxRetries) : Tried cfg (.handled .raised) k (.replicate (k + 1) false)
  | acknowledged {k} (h : k ≤ cfg.maxRetries) : Tried cfg .acknowledged k
    (.replicate k false ++ [true])
  | deadLettered : Tried cfg (.queued cfg.dlqQueue) cfg.maxRetries
    (.replicate (cfg.maxRetries + 1) false)
  | stuck {k} (h : k ≤ cfg.maxRetries) :
    Tried cfg (.handled .publishRaised) k (.replicate (k + 1) false)

/-- The moves that are left for a live copy. -/
def Copy.rank (cfg : ConsumerConfig) (c : Copy) : ℕ :=
  match c.place with
  | .queued queue =>
    if queue = cfg.retryQueue then 4 * (cfg.maxRetries - c.message.retryCount) + 4
    else if queue = cfg.queueName then 4 * (cfg.maxRetries - c.message.retryCount) + 3
    else 0
  | .handled .running => 4 * (cfg.maxRetries - c.message.retryCount) + 2
  | .handled .publishRaised => 0
  | .handled _ => 4 * (cfg.maxRetries - c.message.retryCount) + 1
  | _ => 0

/-- The copy of a message that is live. -/
structure Tracked (cfg : ConsumerConfig) (s : ConsumerSystem) (m : ℕ) (body : String) (a : Copy) :
    Prop where
  /-- It is the only one. -/
  only : Only (Copy.Live m) a s.copies
  /-- The calls go with its place. -/
  tried : Tried cfg a.place a.message.retryCount (s.callsOf m)
  /-- All copies have the body of the message. -/
  body : ∀ c ∈ s.copies, c.origin = m → c.message.body = body

/-- What holds of a consumer in all runs. -/
structure ConsumerSound (cfg : ConsumerConfig) (s : ConsumerSystem) : Prop where
  /-- Copies have numbers of their own. -/
  numbers : (s.copies.map (·.number)).Nodup
  /-- The number of a message is taken. -/
  origins : ∀ c ∈ s.copies, ∃ c' ∈ s.copies, c'.number = c.origin
  /-- Calls are for messages. -/
  calls : ∀ call ∈ s.calls, ∃ c ∈ s.copies, c.number = call.1
  /-- The copies of messages are tracked. -/
  routed : ∀ p ∈ s.routed, (∃ c ∈ s.copies, c.number = p.1) ∧
    (p.2.retryCount = 0 → ∃ a, Tracked cfg s p.1 p.2.body a)

variable {cfg : ConsumerConfig} {declared broker : Broker} {s s' : ConsumerSystem}
    {cmd : ConsumerCommand}
  {c a : Copy} {f : Copy → Copy} {m : ℕ} {body : String} {calls : List Bool}

/-! ## The topology -/

/-- A queue that was declared is there, and the others are still there. -/
lemma declareQueue_eq_ok {queue : QueueDeclaration} {broker' : Broker}
    (h : declareQueue queue broker = .ok broker') :
    (broker'.queues.find? fun q => q.name = queue.name) = some queue ∧
      ∀ name q, (broker.queues.find? fun q => q.name = name) = some q →
        (broker'.queues.find? fun q => q.name = name) = some q := by
  unfold declareQueue at h
  split at h
  · next hnone =>
    cases h
    refine ⟨by simp [List.find?_append, hnone], fun name q hq => ?_⟩
    simp [List.find?_append, hq]
  · next q hq =>
    split at h
    · next hsame =>
      cases h
      exact ⟨hsame ▸ hq, fun _ _ hq => hq⟩
    · cases h

/-- A consumer that has set up its queues has the topology it needs. -/
theorem topology_of_setup (h : setupConsumerTopology cfg declared = .ok broker) :
    Topology cfg broker := by
  obtain ⟨b₁, h₁, h⟩ := bind_eq_ok_iff.mp h
  obtain ⟨b₂, h₂, h⟩ := bind_eq_ok_iff.mp h
  obtain ⟨b₃, h₃, h⟩ := bind_eq_ok_iff.mp h
  cases h
  obtain ⟨hmain, -⟩ := declareQueue_eq_ok h₁
  obtain ⟨hretry, hkeep₂⟩ := declareQueue_eq_ok h₂
  obtain ⟨hdlq, hkeep₃⟩ := declareQueue_eq_ok h₃
  have hmain' := hkeep₃ _ _ (hkeep₂ _ _ hmain)
  have hretry' := hkeep₃ _ _ hretry
  -- two declarations of one name are the same
  have hne : ∀ {q q' : QueueDeclaration}, (b₃.queues.find? fun d => d.name = q.name) = some q →
      (b₃.queues.find? fun d => d.name = q'.name) = some q' → q ≠ q' → q.name ≠ q'.name := by
    intro q q' hq hq' hqq hname
    rw [hname, hq'] at hq
    exact hqq (Option.some.inj hq).symm
  have hthere : ∀ {name : String} {q : QueueDeclaration},
      (b₃.queues.find? fun d => d.name = name) = some q → ∃ q ∈ b₃.queues, q.name = name :=
    fun hq => ⟨_, mem_of_find?_key hq⟩
  constructor
  · exact hne hmain' hretry' (by simp)
  · exact hne hmain' hdlq (by simp)
  · exact hne hretry' hdlq (by simp)
  · simp only [Broker.defaultExchange, if_pos (hthere hretry')]
  · simp only [Broker.deadLetter, hretry', Option.bind_some, Broker.defaultExchange,
      if_pos (hthere hmain')]
  · simp only [Broker.deadLetter, hmain', Option.bind_some, Broker.defaultExchange,
      if_pos (hthere hdlq)]
  · simp [Broker.expires, hretry']
  · simp [Broker.expires, hmain']
  · simp [Broker.expires, hdlq]

/-! ## Steps -/

/-- A copy moves from its place to another one, after some calls of the handler. -/
inductive Move (cfg : ConsumerConfig) (broker : Broker) (cmd : ConsumerCommand) (c : Copy) :
    (Copy → Copy) → List Bool → Prop
  | deliver (h : c.place = .queued cfg.queueName) :
    Move cfg broker cmd c (·.moved (.handled .running)) []
  | returned (succeeds : Bool) (h : c.place = .handled .running) :
    Move cfg broker cmd c (·.moved (.handled (if succeeds then .succeeded else .raised))) [succeeds]
  | ack (h : c.place = .handled .succeeded) : Move cfg broker cmd c (·.moved .acknowledged) []
  | replaced (h : c.place = .handled .retryPublished) : Move cfg broker cmd c (·.moved .replaced) []
  | reject (others) (h : c.place = .handled .raised)
    (hmax : cfg.maxRetries ≤ c.message.retryCount) :
    Move cfg broker cmd c (·.deadLettered broker cfg.queueName others) []
  | raises (fresh others) (h : c.place = .handled .raised)
    (hlt : c.message.retryCount < cfg.maxRetries)
    (hcmd : cmd = .respond c.number fresh others false) :
    Move cfg broker cmd c (·.moved (.handled .publishRaised)) []
  | expire (queue others) (h : c.place = .queued queue) (hexpires : broker.expires queue) :
    Move cfg broker cmd c (·.deadLettered broker queue others) []

/-- The accepted steps. -/
inductive ConsumerStep (cfg : ConsumerConfig) (broker : Broker) (cmd : ConsumerCommand)
    (s : ConsumerSystem) : ConsumerSystem → Prop
  /-- A new message. -/
  | route {number message} (h : ∀ c ∈ s.copies, c.number ≠ number) :
    ConsumerStep cfg broker cmd s { s with
      copies := s.copies ++ [⟨number, number, message, .queued cfg.queueName⟩]
      routed := s.routed ++ [(number, message)] }
  /-- A copy moves. -/
  | move {c f calls calls'} (hc : c ∈ s.copies) (h : Move cfg broker cmd c f calls)
    (hcalls : calls' = s.calls ++ calls.map fun succeeds => (c.origin, succeeds)) :
    ConsumerStep cfg broker cmd s { s.update c.number f with calls := calls' }
  /-- A retry is published for a copy. -/
  | retry {c fresh} (hc : c ∈ s.copies) (hplace : c.place = .handled .raised)
    (hlt : c.message.retryCount < cfg.maxRetries) (hfresh : ∀ c ∈ s.copies, c.number ≠ fresh) :
    ConsumerStep cfg broker cmd s { s with
      copies := updateFirst (·.number) c.number (·.moved (.handled .retryPublished)) s.copies ++
        [⟨fresh, c.origin, retryMsg c.message, broker.defaultExchange cfg.retryQueue⟩] }

/-- A request of a handling that is answered is a step. -/
lemma consumerStep_of_respond {number fresh : ℕ} {others : List (String × String)}
    {published : Bool}
    (h : (consumerMachine cfg broker).step s (.respond number fresh others published) = .ok s') :
    ConsumerStep cfg broker (.respond number fresh others published) s s' := by
  obtain ⟨c, hc, h⟩ := bind_eq_ok_iff.mp h
  obtain ⟨hmem, rfl⟩ := mem_of_find?_key (found_eq_ok_iff.mp hc)
  cases hplace : c.place with
  | handled stage =>
    simp only [hplace] at h
    cases stage with
    | running => cases h
    | succeeded =>
      cases h
      exact .move hmem (.ack hplace) (by simp)
    | raised =>
      by_cases hmax : cfg.maxRetries ≤ c.message.retryCount
      · simp only [onMessage, if_pos hmax] at h
        cases h
        exact .move hmem (.reject others hplace hmax) (by simp)
      · simp only [onMessage, if_neg hmax] at h
        cases published with
        | true =>
          obtain ⟨⟨⟩, hfresh, h⟩ := bind_eq_ok_iff.mp h
          cases h
          exact .retry hmem hplace (not_le.mp hmax) (require_eq_ok_iff.mp hfresh)
        | false =>
          cases h
          exact .move hmem (.raises fresh others hplace (not_le.mp hmax) rfl) (by simp)
    | retryPublished =>
      cases h
      exact .move hmem (.replaced hplace) (by simp)
    | publishRaised => cases h
  | _ => simp [hplace] at h

/-- An accepted step is one of these. -/
lemma consumerStep_of_ok (h : (consumerMachine cfg broker).step s cmd = .ok s') :
    ConsumerStep cfg broker cmd s s' := by
  cases cmd with
  | route number message =>
    obtain ⟨⟨⟩, hnew, h⟩ := bind_eq_ok_iff.mp h
    cases h
    exact .route (require_eq_ok_iff.mp hnew)
  | deliver number =>
    obtain ⟨c, hc, h⟩ := bind_eq_ok_iff.mp h
    obtain ⟨⟨⟩, hplace, h⟩ := bind_eq_ok_iff.mp h
    obtain ⟨hmem, rfl⟩ := mem_of_find?_key (found_eq_ok_iff.mp hc)
    cases h
    exact .move hmem (.deliver (require_eq_ok_iff.mp hplace)) (by simp)
  | handlerReturns number succeeds =>
    obtain ⟨c, hc, h⟩ := bind_eq_ok_iff.mp h
    obtain ⟨⟨⟩, hplace, h⟩ := bind_eq_ok_iff.mp h
    obtain ⟨hmem, rfl⟩ := mem_of_find?_key (found_eq_ok_iff.mp hc)
    cases h
    exact .move hmem (.returned succeeds (require_eq_ok_iff.mp hplace)) rfl
  | respond number fresh others published => exact consumerStep_of_respond h
  | expire number others =>
    obtain ⟨c, hc, h⟩ := bind_eq_ok_iff.mp h
    obtain ⟨hmem, rfl⟩ := mem_of_find?_key (found_eq_ok_iff.mp hc)
    cases hplace : c.place with
    | queued queue =>
      simp only [hplace] at h
      obtain ⟨⟨⟩, hexpires, h⟩ := bind_eq_ok_iff.mp h
      cases h
      exact .move hmem (.expire queue others hplace (require_eq_ok_iff.mp hexpires))
        (by simp)
    | _ => simp [hplace] at h

/-- A move keeps what a copy is a copy of. -/
lemma Move.keeps (h : Move cfg broker cmd c f calls) (b : Copy) : (f b).number = b.number ∧
    (f b).origin = b.origin ∧ (f b).message.body = b.message.body ∧
      (f b).message.retryCount = b.message.retryCount := by
  induction h <;> exact ⟨rfl, rfl, rfl, rfl⟩

/-! ## One move -/

/-- A place that is tried counts, unless it is that of a stuck delivery. -/
lemma Tried.counts {place : Place} {k : ℕ} (h : Tried cfg place k calls)
    (hne : place ≠ .handled .publishRaised) : place.Counts cfg := by
  induction h with
  | stuck => exact absurd rfl hne
  | _ => simp [Place.Counts]

/-- A place that is tried is that of a live copy. -/
lemma Tried.live {place : Place} {k : ℕ} (h : Tried cfg place k calls) :
    place ≠ .handled .retryPublished ∧ place ≠ .replaced := by
  induction h <;> simp

/-- The retries are bounded. -/
lemma Tried.length_le {place : Place} {k : ℕ} (h : Tried cfg place k calls) :
    calls.length ≤ cfg.maxRetries + 1 := by
  induction h <;> simp only [List.length_append, List.length_replicate,
    List.length_singleton] <;> omega

/-- No move is left for a copy exactly when its message has ended or is stuck. -/
lemma Tried.rank_eq_zero_iff (htop : Topology cfg broker)
    (h : Tried cfg c.place c.message.retryCount calls) :
    c.rank cfg = 0 ↔ c.place.Final cfg ∨ c.place = .handled .publishRaised := by
  have hmr := htop.main_ne_retry
  have hmd := htop.main_ne_dlq
  have hrd := htop.retry_ne_dlq
  generalize hplace : c.place = place at h
  generalize c.message.retryCount = k at h
  induction h <;> simp [Copy.rank, Place.Final, hplace, hmr, hmd, hrd, hmd.symm, hrd.symm]

/-- The calls for a message in a queue. -/
lemma Tried.of_queued {queue : String} {k : ℕ} (h : Tried cfg (.queued queue) k calls) :
    (queue = cfg.queueName ∨ queue = cfg.retryQueue) ∧ k ≤ cfg.maxRetries ∧
      calls = .replicate k false ∨
      queue = cfg.dlqQueue ∧ calls = .replicate (cfg.maxRetries + 1) false := by
  generalize hplace : Place.queued queue = place at h
  induction h with
  | waiting hk => exact Or.inl ⟨Or.inl (Place.queued.inj hplace), hk, rfl⟩
  | retrying hk => exact Or.inl ⟨Or.inr (Place.queued.inj hplace), hk, rfl⟩
  | deadLettered => exact Or.inr ⟨Place.queued.inj hplace, rfl⟩
  | _ => cases hplace

/-- The calls for a message in the main queue. -/
lemma Tried.of_main (htop : Topology cfg broker) {k : ℕ}
    (h : Tried cfg (.queued cfg.queueName) k calls) :
    k ≤ cfg.maxRetries ∧ calls = .replicate k false := by
  rcases h.of_queued with ⟨-, h⟩ | ⟨hdlq, -⟩
  · exact h
  · exact absurd hdlq htop.main_ne_dlq

/-- The only messages that expire are in the retry queue. -/
lemma Tried.of_expires (htop : Topology cfg broker) {queue : String} {k : ℕ}
    (h : Tried cfg (.queued queue) k calls) (hexpires : broker.expires queue) :
    queue = cfg.retryQueue ∧ k ≤ cfg.maxRetries ∧ calls = .replicate k false := by
  rcases h.of_queued with ⟨rfl | rfl, hcalls⟩ | ⟨rfl, -⟩
  · exact absurd hexpires htop.main_expires
  · exact ⟨rfl, hcalls⟩
  · exact absurd hexpires htop.dlq_expires

/-- The calls for a message whose handler has raised. -/
lemma Tried.of_raised {k : ℕ} (h : Tried cfg (.handled .raised) k calls) :
    k ≤ cfg.maxRetries ∧ calls = .replicate (k + 1) false := by
  cases h with
  | raised hk => exact ⟨hk, rfl⟩

/-- A move of a live copy goes with its calls. -/
lemma Move.tried (htop : Topology cfg broker) (h : Move cfg broker cmd c f calls)
    (hne : c.place ≠ .handled .retryPublished) {before : List Bool}
    (htried : Tried cfg c.place c.message.retryCount before) :
    Tried cfg (f c).place (f c).message.retryCount (before ++ calls) := by
  rw [(h.keeps c).2.2.2]
  generalize hcount : c.message.retryCount = k at htried
  induction h with
  | deliver h =>
    obtain ⟨hk, rfl⟩ := Tried.of_main htop (h ▸ htried)
    rw [List.append_nil]
    exact .running hk
  | returned succeeds h =>
    rw [h] at htried
    cases htried with
    | running hk =>
      induction succeeds with
      | false =>
        rw [← List.replicate_succ']
        exact .raised hk
      | true => exact .succeeded hk
  | ack h =>
    rw [h] at htried
    cases htried with
    | succeeded hk =>
      rw [List.append_nil]
      exact .acknowledged hk
  | replaced h => exact absurd h hne
  | reject others h hmax =>
    obtain ⟨hk, rfl⟩ := Tried.of_raised (h ▸ htried)
    obtain rfl : k = cfg.maxRetries := le_antisymm hk (hcount ▸ hmax)
    rw [List.append_nil]
    show Tried cfg (broker.deadLetter cfg.queueName) _ _
    rw [htop.rejected]
    exact .deadLettered
  | raises fresh others h hlt hcmd =>
    obtain ⟨hk, rfl⟩ := Tried.of_raised (h ▸ htried)
    rw [List.append_nil]
    exact .stuck hk
  | expire queue others h hexpires =>
    obtain ⟨rfl, hk, rfl⟩ := Tried.of_expires htop (h ▸ htried) hexpires
    rw [List.append_nil]
    show Tried cfg (broker.deadLetter cfg.retryQueue) k _
    rw [htop.expired]
    exact .waiting hk

/-- A move of a live copy leaves fewer moves for it. -/
lemma Move.rank_lt (htop : Topology cfg broker) (h : Move cfg broker cmd c f calls)
    (hne : c.place ≠ .handled .retryPublished) {before : List Bool}
    (htried : Tried cfg c.place c.message.retryCount before) : (f c).rank cfg < c.rank cfg := by
  have hmr := htop.main_ne_retry
  induction h with
  | deliver h => simp [Copy.rank, Copy.moved, h, hmr]
  | returned succeeds h => induction succeeds <;> simp [Copy.rank, Copy.moved, h]
  | ack h => simp [Copy.rank, Copy.moved, h]
  | replaced h => exact absurd h hne
  | reject others h hmax =>
    simp [Copy.rank, Copy.deadLettered, htop.rejected, h, htop.retry_ne_dlq.symm,
      htop.main_ne_dlq.symm]
  | raises fresh others h hlt hcmd => simp [Copy.rank, Copy.moved, h]
  | expire queue others h hexpires =>
    obtain ⟨rfl, -⟩ := Tried.of_expires htop (h ▸ htried) hexpires
    simp [Copy.rank, Copy.deadLettered, htop.expired, h, hmr, Message.retryCount]

/-- A copy that is not a live one of a message does not become one by a move, and the handler is not
called for the message. -/
lemma Move.of_not_live (h : Move cfg broker cmd c f calls) (hne : ¬ c.Live m) : ¬ (f c).Live m ∧
    ((calls.map fun succeeds => (c.origin, succeeds)).filter fun call => call.1 = m).map
      (·.2) = [] := by
  by_cases horigin : c.origin = m
  · have hspent : c.place = .handled .retryPublished ∨ c.place = .replaced := by
      by_contra hplace
      exact hne ⟨horigin, not_or.mp hplace⟩
    induction h with
    | replaced h => exact ⟨fun hlive => hlive.2.2 rfl, rfl⟩
    | deliver h | returned _ h | ack h | reject _ h | raises _ _ h | expire _ _ h =>
      simp [h] at hspent
  · constructor
    · exact fun hlive => horigin ((h.keeps c).2.1 ▸ hlive.1)
    · rw [List.filter_eq_nil_iff.mpr, List.map_nil]
      intro call hcall
      obtain ⟨succeeds, -, rfl⟩ := List.mem_map.mp hcall
      simpa using horigin

/-! ## One step -/

/-- The calls for a message after others. -/
lemma callsOf_append {others : List (ℕ × Bool)} (h : s'.calls = s.calls ++ others) :
    s'.callsOf m = s.callsOf m ++ (others.filter fun call => call.1 = m).map (·.2) := by
  simp [ConsumerSystem.callsOf, h]

/-- The calls for the message of a copy after calls for the copy. -/
lemma callsOf_append_of_origin {calls : List Bool}
    (h : s'.calls = s.calls ++ calls.map fun succeeds => (c.origin, succeeds))
    (horigin : c.origin = m) : s'.callsOf m = s.callsOf m ++ calls := by
  rw [callsOf_append h, List.filter_eq_self.mpr, List.map_map]
  · exact congrArg _ (List.map_id calls)
  · intro call hcall
    obtain ⟨succeeds, -, rfl⟩ := List.mem_map.mp hcall
    simpa using horigin

/-- There is a number that no copy has. -/
lemma exists_new_number (s : ConsumerSystem) : ∃ fresh, ∀ c ∈ s.copies, c.number ≠ fresh := by
  obtain ⟨fresh, hfresh⟩ := Infinite.exists_notMem_finset (s.copies.map (·.number)).toFinset
  refine ⟨fresh, fun c hc hk => hfresh ?_⟩
  exact List.mem_toFinset.mpr (List.mem_map.mpr ⟨c, hc, hk⟩)

/-- A live copy stays or has fewer moves left. -/
def Advanced (cfg : ConsumerConfig) (s s' : ConsumerSystem) (m : ℕ) (a a' : Copy) : Prop :=
  (a' = a ∧ s'.callsOf m = s.callsOf m) ∨ a'.rank cfg < a.rank cfg

/-- A place that counts is that of a live copy. -/
lemma Place.Counts.live {place : Place} (h : place.Counts cfg) :
    place ≠ .handled .retryPublished ∧ place ≠ .replaced := by
  constructor
  · rintro rfl
    exact h.1 rfl
  · rintro rfl
    exact h

/-- A move that changes no live copy of a message leaves the message tracked. -/
lemma Tracked.move_of_not_live (h : Tracked cfg s m body a)
    (hnumbers : (s.copies.map (·.number)).Nodup)
    (hc : c ∈ s.copies) (hf : ∀ b, (f b).origin = b.origin ∧ (f b).message.body = b.message.body)
    (hne : ¬ c.Live m) (hfc : ¬ (f c).Live m)
    (hcopies : s'.copies = updateFirst (·.number) c.number f s.copies)
    (hcalls : s'.callsOf m = s.callsOf m) : Tracked cfg s' m body a := by
  have hac : a.number ≠ c.number := by
    intro hk
    rw [eq_of_key_eq hnumbers h.only.mem hc hk] at h
    exact hne h.only.holds
  constructor
  · rw [hcopies]
    refine h.only.updateFirst_of_ne hnumbers hac fun b hb hk => ?_
    rwa [eq_of_key_eq hnumbers hb hc hk]
  · rw [hcalls]
    exact h.tried
  · rw [hcopies]
    refine forall_updateFirst h.body fun b hb hk horigin => ?_
    rw [(hf b).2]
    exact h.body b hb ((hf b).1 ▸ horigin)

/-- Copies of other messages leave a message tracked. -/
lemma Tracked.append (h : Tracked cfg s m body a) {new : Copy} (hnew : new.origin ≠ m)
    (hcopies : s'.copies = s.copies ++ [new]) (hcalls : s'.callsOf m = s.callsOf m) :
    Tracked cfg s' m body a := by
  constructor
  · rw [hcopies]
    refine h.only.append fun b hb hlive => hnew ?_
    rw [← List.mem_singleton.mp hb]
    exact hlive.1
  · rw [hcalls]
    exact h.tried
  · intro c hc horigin
    rw [hcopies] at hc
    rcases List.mem_append.mp hc with hc | hc
    · exact h.body c hc horigin
    · obtain rfl := List.mem_singleton.mp hc
      exact absurd horigin hnew

/-- The live copy of a message moves. -/
lemma Tracked.move (htop : Topology cfg broker) (h : Tracked cfg s m body a)
    (hnumbers : (s.copies.map (·.number)).Nodup) (hmove : Move cfg broker cmd a f calls)
    (hcopies : s'.copies = updateFirst (·.number) a.number f s.copies)
    (hcalls : s'.callsOf m = s.callsOf m ++ calls) :
    Tracked cfg s' m body (f a) ∧ (f a).rank cfg < a.rank cfg := by
  have hne : a.place ≠ .handled .retryPublished := h.only.holds.2.1
  have htried := hmove.tried htop hne h.tried
  refine ⟨⟨?_, hcalls ▸ htried, ?_⟩, hmove.rank_lt htop hne h.tried⟩
  · rw [hcopies]
    exact h.only.updateFirst_self hnumbers
      ⟨(hmove.keeps a).2.1.trans h.only.holds.1, htried.live⟩
  · rw [hcopies]
    refine forall_updateFirst h.body fun b hb hk horigin => ?_
    rw [(hmove.keeps b).2.2.1]
    exact h.body b hb ((hmove.keeps b).2.1 ▸ horigin)

/-- The retry of a message is published, and is its live copy from now on. -/
lemma Tracked.retry (htop : Topology cfg broker) (h : Tracked cfg s m body a)
    (hnumbers : (s.copies.map (·.number)).Nodup) (hplace : a.place = .handled .raised)
    (hlt : a.message.retryCount < cfg.maxRetries) (fresh : ℕ) :
    ∃ a', Tracked cfg { s with
      copies := updateFirst (·.number) a.number (·.moved (.handled .retryPublished)) s.copies ++
        [⟨fresh, a.origin, retryMsg a.message, broker.defaultExchange cfg.retryQueue⟩] } m body a' ∧
      a'.rank cfg < a.rank cfg := by
  obtain ⟨-, hreplicate⟩ := Tried.of_raised (hplace ▸ h.tried)
  have hcount : (retryMsg a.message).retryCount = a.message.retryCount + 1 := rfl
  rw [htop.retried]
  refine ⟨_, ⟨only_concat (h.only.forall_not_updateFirst hnumbers ?_)
    ⟨h.only.holds.1, ?_, ?_⟩, ?_, ?_⟩, ?_⟩
  · exact fun hlive => hlive.2.1 rfl
  · simp
  · simp
  · show Tried cfg (.queued cfg.retryQueue) _ (s.callsOf m)
    rw [hreplicate, hcount]
    exact .retrying hlt
  · intro c hc horigin
    rcases List.mem_append.mp hc with hc | hc
    · rcases mem_of_mem_updateFirst hc with hc | ⟨b, hb, -, rfl⟩
      · exact h.body c hc horigin
      · exact h.body b hb horigin
    · obtain rfl := List.mem_singleton.mp hc
      exact h.body a h.only.mem h.only.holds.1
  · simp only [Copy.rank, hplace, if_true, hcount]
    omega

/-- A step of the consumer leaves the live copy of a message alone, or leaves fewer moves for it. -/
theorem ConsumerStep.tracked (htop : Topology cfg broker) (hstep : ConsumerStep cfg broker cmd s s')
    (hnumbers : (s.copies.map (·.number)).Nodup) (hm : ∃ c ∈ s.copies, c.number = m)
    (h : Tracked cfg s m body a) : ∃ a', Tracked cfg s' m body a' ∧ Advanced cfg s s' m a a' := by
  induction hstep with
  | @route number message hnew =>
    obtain ⟨c, hc, rfl⟩ := hm
    exact ⟨a, h.append (Ne.symm (hnew c hc)) rfl rfl, Or.inl ⟨rfl, rfl⟩⟩
  | @move c f calls calls' hc hmove hcalls =>
    by_cases hlive : c.Live m
    · -- it is the live copy that moves
      obtain rfl := h.only.unique c hc hlive
      have hcallsOf : ({ s.update c.number f with calls := calls' } : ConsumerSystem).callsOf m =
          s.callsOf m ++ calls :=
        callsOf_append_of_origin hcalls hlive.1
      obtain ⟨htracked, hlt⟩ := h.move htop hnumbers hmove rfl hcallsOf
      exact ⟨f c, htracked, Or.inr hlt⟩
    · obtain ⟨hfc, hnone⟩ := hmove.of_not_live hlive
      have hcallsOf : ({ s.update c.number f with calls := calls' } : ConsumerSystem).callsOf m =
          s.callsOf m := by
        rw [callsOf_append hcalls, hnone, List.append_nil]
      exact ⟨a, h.move_of_not_live hnumbers hc
        (fun b => ⟨(hmove.keeps b).2.1, (hmove.keeps b).2.2.1⟩)
        hlive hfc rfl hcallsOf, Or.inl ⟨rfl, hcallsOf⟩⟩
  | @retry c fresh hc hplace hlt hfresh =>
    by_cases horigin : c.origin = m
    · obtain rfl := h.only.unique c hc ⟨horigin, by simp [hplace], by simp [hplace]⟩
      obtain ⟨a', htracked, hlt'⟩ := h.retry htop hnumbers hplace hlt fresh
      exact ⟨a', htracked, Or.inr hlt'⟩
    · have hmoved : Tracked cfg (s.update c.number (·.moved (.handled .retryPublished))) m body a :=
        h.move_of_not_live (f := (·.moved (.handled .retryPublished))) hnumbers hc
          (fun b => ⟨rfl, rfl⟩)
          (fun hlive => horigin hlive.1) (fun hlive => horigin hlive.1) rfl rfl
      have hretry : (⟨fresh, c.origin, retryMsg c.message, broker.defaultExchange cfg.retryQueue⟩ :
        Copy).origin ≠ m := horigin
      exact ⟨a, hmoved.append hretry rfl rfl, Or.inl ⟨rfl, rfl⟩⟩

/-! ## The invariant -/

/-- A number that is taken stays taken. -/
lemma ConsumerStep.number_taken (hstep : ConsumerStep cfg broker cmd s s') {number : ℕ}
    (h : ∃ c ∈ s.copies, c.number = number) : ∃ c ∈ s'.copies, c.number = number := by
  have hkeep : ∀ {k : ℕ} {f : Copy → Copy}, (∀ b, (f b).number = b.number) →
      ∃ c ∈ updateFirst (·.number) k f s.copies, c.number = number := by
    intro k f hf
    have hmem : number ∈ (updateFirst (·.number) k f s.copies).map (·.number) := by
      rw [map_updateFirst_of_eq _ hf]
      simpa using h
    simpa using hmem
  induction hstep with
  | route hnew =>
    obtain ⟨c, hc, hk⟩ := h
    exact ⟨c, List.mem_append_left _ hc, hk⟩
  | move hc hmove hcalls => exact hkeep fun b => (hmove.keeps b).1
  | retry hc hplace hlt hfresh =>
    obtain ⟨c, hc, hk⟩ := hkeep (f := (·.moved (.handled .retryPublished))) fun b => rfl
    exact ⟨c, List.mem_append_left _ hc, hk⟩

/-- A message that is routed is tracked from the start. -/
lemma tracked_route (h : ConsumerSound cfg s) {number : ℕ} {message : Message}
    (hnew : ∀ c ∈ s.copies, c.number ≠ number) (hcount : message.retryCount = 0) :
    Tracked cfg { s with
      copies := s.copies ++ [⟨number, number, message, .queued cfg.queueName⟩]
      routed := s.routed ++ [(number, message)] } number message.body
      ⟨number, number, message, .queued cfg.queueName⟩ := by
  have horigin : ∀ c ∈ s.copies, c.origin ≠ number := by
    intro c hc hk
    obtain ⟨c', hc', hk'⟩ := h.origins c hc
    exact hnew c' hc' (hk'.trans hk)
  have hcalls : s.callsOf number = [] := by
    refine List.map_eq_nil_iff.mpr (List.filter_eq_nil_iff.mpr fun call hcall hk => ?_)
    obtain ⟨c, hc, hk'⟩ := h.calls call hcall
    exact hnew c hc (hk'.trans (by simpa using hk))
  constructor
  · exact only_concat (fun c hc hlive => horigin c hc hlive.1) ⟨rfl, by simp, by simp⟩
  · show Tried cfg (.queued cfg.queueName) message.retryCount (s.callsOf number)
    rw [hcalls, hcount]
    exact .waiting (Nat.zero_le _)
  · intro c hc hk
    rcases List.mem_append.mp hc with hc | hc
    · exact absurd hk (horigin c hc)
    · rw [List.mem_singleton.mp hc]

/-- Every step keeps the invariant. -/
theorem consumerSound_step (htop : Topology cfg broker) (h : ConsumerSound cfg s)
    (hok : (consumerMachine cfg broker).step s cmd = .ok s') : ConsumerSound cfg s' := by
  have hstep := consumerStep_of_ok hok
  have hrouted : ∀ p ∈ s.routed, (∃ c ∈ s'.copies, c.number = p.1) ∧
      (p.2.retryCount = 0 → ∃ a, Tracked cfg s' p.1 p.2.body a) := by
    intro p hp
    obtain ⟨hnumber, htracked⟩ := h.routed p hp
    refine ⟨hstep.number_taken hnumber, fun hcount => ?_⟩
    obtain ⟨a, ha⟩ := htracked hcount
    obtain ⟨a', ha', -⟩ := hstep.tracked htop h.numbers hnumber ha
    exact ⟨a', ha'⟩
  have hcalls : ∀ call ∈ s.calls, ∃ c ∈ s'.copies, c.number = call.1 :=
    fun call hcall => hstep.number_taken (h.calls call hcall)
  have horigins : ∀ c ∈ s.copies, ∃ c' ∈ s'.copies, c'.number = c.origin :=
    fun c hc => hstep.number_taken (h.origins c hc)
  induction hstep with
  | @route number message hnew =>
    refine ⟨nodup_map_concat_iff.mpr ⟨h.numbers, hnew⟩, ?_, hcalls, ?_⟩
    · intro c hc
      rcases List.mem_append.mp hc with hmem | hmem
      · exact horigins c hmem
      · refine ⟨c, hc, ?_⟩
        rw [List.mem_singleton.mp hmem]
    · intro p hp
      rcases List.mem_append.mp hp with hp | hp
      · exact hrouted p hp
      · obtain rfl := List.mem_singleton.mp hp
        exact ⟨⟨_, List.mem_append_right _ (List.mem_singleton.mpr rfl), rfl⟩,
          fun hcount => ⟨_, tracked_route h hnew hcount⟩⟩
  | @move c f calls calls' hc hmove hcalls' =>
    refine ⟨nodup_map_updateFirst _ (fun b => (hmove.keeps b).1) h.numbers, ?_, ?_, hrouted⟩
    · refine forall_updateFirst horigins fun b hb _ => ?_
      rw [(hmove.keeps b).2.1]
      exact horigins b hb
    · subst hcalls'
      intro call hcall
      rcases List.mem_append.mp hcall with hcall | hcall
      · exact hcalls call hcall
      · obtain ⟨succeeds, -, rfl⟩ := List.mem_map.mp hcall
        exact horigins c hc
  | @retry c fresh hc hplace hlt hfresh =>
    refine ⟨nodup_map_concat_iff.mpr ⟨nodup_map_updateFirst _ (fun b => rfl) h.numbers,
      ?_⟩, ?_, hcalls,
      hrouted⟩
    · exact forall_updateFirst hfresh fun b hb _ => hfresh b hb
    · intro c' hc'
      rcases List.mem_append.mp hc' with hc' | hc'
      · rcases mem_of_mem_updateFirst hc' with hc' | ⟨b, hb, -, rfl⟩
        · exact horigins c' hc'
        · exact horigins b hb
      · obtain rfl := List.mem_singleton.mp hc'
        exact horigins c hc

/-- It holds when no message was routed. -/
lemma consumerSound_empty : ConsumerSound cfg .empty := by
  constructor <;> simp [ConsumerSystem.empty]

/-- It holds in every state of a run. -/
theorem consumerSound_run (htop : Topology cfg broker) (h : ConsumerSound cfg s)
    (cs : List ConsumerCommand) : ConsumerSound cfg ((consumerMachine cfg broker).run s cs) :=
  Machine.run_invariant (fun _ _ _ h hok => consumerSound_step htop h hok) h cs

/-- A number that is taken stays taken in a run. -/
lemma number_taken_run {number : ℕ} (h : ∃ c ∈ s.copies, c.number = number)
    (cs : List ConsumerCommand) :
    ∃ c ∈ ((consumerMachine cfg broker).run s cs).copies, c.number = number :=
  Machine.run_invariant (I := fun t : ConsumerSystem => ∃ c ∈ t.copies, c.number = number)
    (fun _ _ _ h hok => (consumerStep_of_ok hok).number_taken h) h cs

/-- The live copy of a message after a run is the one before it, or fewer moves are left. -/
lemma tracked_run (htop : Topology cfg broker) (h : ConsumerSound cfg s)
    (hm : ∃ c ∈ s.copies, c.number = m) (ha : Tracked cfg s m body a) (cs : List ConsumerCommand) :
    ∃ a', Tracked cfg ((consumerMachine cfg broker).run s cs) m body a' ∧
      Advanced cfg s ((consumerMachine cfg broker).run s cs) m a a' := by
  have hrun := Machine.run_invariant (M := consumerMachine cfg broker)
    (I := fun t => ConsumerSound cfg t ∧ (∃ c ∈ t.copies, c.number = m) ∧
      ∃ a', Tracked cfg t m body a' ∧ Advanced cfg s t m a a') ?_
    ⟨h, hm, a, ha, Or.inl ⟨rfl, rfl⟩⟩ cs
  · exact hrun.2.2
  · rintro t cmd t' ⟨ht, hmt, a₁, ha₁, hadv₁⟩ hok
    have hstep := consumerStep_of_ok hok
    obtain ⟨a₂, ha₂, hadv₂⟩ := hstep.tracked htop ht.numbers hmt ha₁
    refine ⟨consumerSound_step htop ht hok, hstep.number_taken hmt, a₂, ha₂, ?_⟩
    rcases hadv₁ with ⟨rfl, hcalls₁⟩ | hlt₁
    · rcases hadv₂ with ⟨rfl, hcalls₂⟩ | hlt₂
      · exact Or.inl ⟨rfl, hcalls₂.trans hcalls₁⟩
      · exact Or.inr hlt₂
    · rcases hadv₂ with ⟨rfl, -⟩ | hlt₂
      · exact Or.inr hlt₁
      · exact Or.inr (hlt₂.trans hlt₁)

/-! ## Messages end -/

/-- A message whose live copy is at an end has ended. -/
lemma Tracked.ended (h : Tracked cfg s m body a) (hfinal : a.place.Final cfg) :
    MessageEnded cfg s m :=
  ⟨a, h.only.mem, h.only.holds.1, hfinal⟩

/-- The live copy of a message that has ended is at an end. -/
lemma Tracked.final_of_ended (h : Tracked cfg s m body a) (hended : MessageEnded cfg s m) :
    a.place.Final cfg := by
  obtain ⟨c, hc, horigin, hfinal⟩ := hended
  have hlive : c.Live m := by
    rcases hfinal with hplace | hplace <;> exact ⟨horigin, by simp [hplace], by simp [hplace]⟩
  rwa [← h.only.unique c hc hlive]

/-- A message is stuck exactly when its live copy is. -/
lemma Tracked.messageStuck_iff (h : Tracked cfg s m body a) :
    MessageStuck s m ↔ a.place = .handled .publishRaised := by
  constructor
  · rintro ⟨c, hc, horigin, hplace⟩
    have hlive : c.Live m := ⟨horigin, by simp [hplace], by simp [hplace]⟩
    rwa [← h.only.unique c hc hlive]
  · exact fun hplace => ⟨a, h.only.mem, h.only.holds.1, hplace⟩

/-- While a message has not ended and is not stuck, a step can be taken for it that does not
raise. -/
lemma Tracked.exists_step (htop : Topology cfg broker) (h : Tracked cfg s m body a)
    (hnumbers : (s.copies.map (·.number)).Nodup) (hfinal : ¬ a.place.Final cfg)
    (hstuck : a.place ≠ .handled .publishRaised) :
    ∃ cmd s', (consumerMachine cfg broker).step s cmd = .ok s' ∧ ¬ RetryRaises cfg m s cmd ∧
      ∃ a', Tracked cfg s' m body a' ∧ a'.rank cfg < a.rank cfg := by
  have hfind : s.copyOf a.number = some a := (find?_key_eq_some_iff hnumbers).mpr ⟨h.only.mem, rfl⟩
  have hfound : found ConsumerRejection.notThere (s.copyOf a.number) = .ok a :=
    found_eq_ok_iff.mpr hfind
  have hmove : ∀ (cmd : ConsumerCommand) {f : Copy → Copy}, Move cfg broker cmd a f [] →
      ∃ a', Tracked cfg (s.update a.number f) m body a' ∧ a'.rank cfg < a.rank cfg :=
    fun _ _ hmove => ⟨_, h.move htop hnumbers hmove rfl (List.append_nil _).symm⟩
  have htried := h.tried
  generalize hplace : a.place = place at htried
  generalize a.message.retryCount = k at htried
  generalize s.callsOf m = called at htried
  induction htried with
  | waiting =>
    refine ⟨.deliver a.number, _, bind_eq_ok_iff.mpr ⟨a, hfound, bind_eq_ok_iff.mpr
      ⟨(), require_of hplace, rfl⟩⟩, by simp [RetryRaises], ?_⟩
    exact hmove (.deliver a.number) (.deliver hplace)
  | retrying =>
    refine ⟨.expire a.number [], _, bind_eq_ok_iff.mpr ⟨a, hfound, ?_⟩, by simp [RetryRaises],
      hmove (.expire a.number []) (.expire _ [] hplace htop.retry_expires)⟩
    simp only [hplace]
    exact bind_eq_ok_iff.mpr ⟨(), require_of htop.retry_expires, rfl⟩
  | running =>
    have hreturned : Move cfg broker (.handlerReturns a.number true) a _ _ := .returned true hplace
    refine ⟨.handlerReturns a.number true, _, bind_eq_ok_iff.mpr ⟨a, hfound, bind_eq_ok_iff.mpr
      ⟨(), require_of hplace, rfl⟩⟩, by simp [RetryRaises], _,
      h.move htop hnumbers hreturned rfl ?_⟩
    exact callsOf_append_of_origin rfl h.only.holds.1
  | succeeded =>
    refine ⟨.respond a.number 0 [] true, _, bind_eq_ok_iff.mpr ⟨a, hfound, ?_⟩,
      by simp [RetryRaises], hmove (.respond a.number 0 [] true) (.ack hplace)⟩
    simp only [hplace]
    rfl
  | raised =>
    by_cases hmax : cfg.maxRetries ≤ a.message.retryCount
    · refine ⟨.respond a.number 0 [] true, _, bind_eq_ok_iff.mpr ⟨a, hfound, ?_⟩,
        by simp [RetryRaises], hmove (.respond a.number 0 [] true) (.reject [] hplace hmax)⟩
      simp only [hplace, onMessage, if_pos hmax]
      rfl
    · obtain ⟨fresh, hnew⟩ := exists_new_number s
      refine ⟨.respond a.number fresh [] true, _, bind_eq_ok_iff.mpr ⟨a, hfound, ?_⟩,
        by simp [RetryRaises], h.retry htop hnumbers hplace (not_le.mp hmax) fresh⟩
      simp only [hplace, onMessage, if_neg hmax]
      exact bind_eq_ok_iff.mpr ⟨(), require_of hnew, rfl⟩
  | acknowledged => exact absurd (Or.inl hplace) hfinal
  | deadLettered => exact absurd (Or.inr hplace) hfinal
  | stuck => exact absurd hplace hstuck

/-! ## Publications that raise -/

/-- A copy does not get to a handler when it is dead-lettered. -/
lemma deadLetter_ne_handled (broker : Broker) (queue : String) (stage : Stage) :
    broker.deadLetter queue ≠ .handled stage := by
  unfold Broker.deadLetter Broker.defaultExchange
  split
  · simp
  · split <;> simp

/-- A stuck delivery is not moved. -/
lemma Move.place_ne (h : Move cfg broker cmd c f calls) : c.place ≠ .handled .publishRaised := by
  cases h with
  | deliver h | returned _ h | ack h | replaced h | reject _ h | raises _ _ h | expire _ _ h =>
    simp [h]

/-- A copy gets stuck where a publication raises. -/
lemma Move.retryRaises (h : Move cfg broker cmd c f calls) (hc : c ∈ s.copies)
    (hstuck : (f c).place = .handled .publishRaised) : RetryRaises cfg c.origin s cmd := by
  cases h with
  | raises fresh others hplace hlt hcmd => exact ⟨c, hc, rfl, hplace, hlt, fresh, others, hcmd⟩
  | reject others hplace hmax => exact absurd hstuck (deadLetter_ne_handled broker _ _)
  | expire queue others hplace hexpires => exact absurd hstuck (deadLetter_ne_handled broker _ _)
  | returned succeeds hplace => cases succeeds <;> simp [Copy.moved] at hstuck
  | _ => simp [Copy.moved] at hstuck

/-- A message that is stuck stays so. -/
lemma ConsumerStep.messageStuck (hstep : ConsumerStep cfg broker cmd s s')
    (hnumbers : (s.copies.map (·.number)).Nodup) (h : MessageStuck s m) : MessageStuck s' m := by
  obtain ⟨c, hc, horigin, hplace⟩ := h
  suffices hmem : c ∈ s'.copies from ⟨c, hmem, horigin, hplace⟩
  have hstays : ∀ {c' : Copy} {f : Copy → Copy}, c' ∈ s.copies →
      c'.place ≠ .handled .publishRaised → c ∈ updateFirst (·.number) c'.number f s.copies := by
    intro c' f hc' hne
    refine mem_updateFirst_of_ne hc fun hk => hne ?_
    rwa [← eq_of_key_eq hnumbers hc hc' hk]
  induction hstep with
  | route hnew => exact List.mem_append_left _ hc
  | move hc' hmove hcalls => exact hstays hc' hmove.place_ne
  | retry hc' hraised hlt hfresh => exact List.mem_append_left _ (hstays hc' (by simp [hraised]))

/-- A message gets stuck only where a publication for it raises. -/
lemma ConsumerStep.stuck_or_raises (htop : Topology cfg broker)
    (hstep : ConsumerStep cfg broker cmd s s')
    (hnumbers : (s.copies.map (·.number)).Nodup) (h : MessageStuck s' m) :
    MessageStuck s m ∨ RetryRaises cfg m s cmd := by
  obtain ⟨b, hb, horigin, hplace⟩ := h
  induction hstep with
  | route hnew =>
    rcases List.mem_append.mp hb with hb | hb
    · exact Or.inl ⟨b, hb, horigin, hplace⟩
    · rw [List.mem_singleton.mp hb] at hplace
      simp at hplace
  | @move c f calls calls' hc hmove hcalls =>
    rcases mem_of_mem_updateFirst hb with hb | ⟨c', hc', hk, rfl⟩
    · exact Or.inl ⟨b, hb, horigin, hplace⟩
    · obtain rfl := eq_of_key_eq hnumbers hc' hc hk
      rw [← horigin, (hmove.keeps c').2.1]
      exact Or.inr (hmove.retryRaises hc hplace)
  | retry hc hraised hlt hfresh =>
    rcases List.mem_append.mp hb with hb | hb
    · rcases mem_of_mem_updateFirst hb with hb | ⟨c', hc', hk, rfl⟩
      · exact Or.inl ⟨b, hb, horigin, hplace⟩
      · simp [Copy.moved] at hplace
    · rw [List.mem_singleton.mp hb, htop.retried] at hplace
      simp at hplace

/-- Where a publication raises, the step is over and its delivery is stuck. -/
lemma RetryRaises.exists_step (h : RetryRaises cfg m s cmd) (broker : Broker)
    (hnumbers : (s.copies.map (·.number)).Nodup) :
    ∃ s', (consumerMachine cfg broker).step s cmd = .ok s' ∧ MessageStuck s' m := by
  obtain ⟨c, hc, horigin, hplace, hlt, fresh, others, rfl⟩ := h
  have hfind : s.copyOf c.number = some c := (find?_key_eq_some_iff hnumbers).mpr ⟨hc, rfl⟩
  refine ⟨s.update c.number (·.moved (.handled .publishRaised)),
    bind_eq_ok_iff.mpr ⟨c, found_eq_ok_iff.mpr hfind, ?_⟩, _,
    (mem_updateFirst_iff hnumbers).mpr (Or.inl ⟨c, hc, rfl, rfl⟩), horigin, rfl⟩
  simp only [hplace, onMessage, if_neg (not_le.mpr hlt)]
  rfl

/-- A message is stuck after a request exactly when it was before, or the request raises for it. -/
lemma messageStuck_exec_iff (htop : Topology cfg broker) (h : ConsumerSound cfg s) :
    MessageStuck ((consumerMachine cfg broker).exec s cmd) m ↔
      MessageStuck s m ∨ RetryRaises cfg m s cmd := by
  cases hok : (consumerMachine cfg broker).step s cmd with
  | ok s' =>
    rw [Machine.exec_of_ok hok]
    have hstep := consumerStep_of_ok hok
    constructor
    · exact hstep.stuck_or_raises htop h.numbers
    · rintro (hstuck | hraises)
      · exact hstep.messageStuck h.numbers hstuck
      · obtain ⟨t, ht, hstuck⟩ := hraises.exists_step broker h.numbers
        rw [hok] at ht
        rwa [Except.ok.inj ht]
  | error e =>
    rw [Machine.exec_of_error hok]
    refine ⟨Or.inl, fun hor => hor.resolve_right fun hraises => ?_⟩
    obtain ⟨t, ht, -⟩ := hraises.exists_step broker h.numbers
    rw [hok] at ht
    cases ht

/-- The next state of a sequence of requests. -/
lemma consumerState_succ (f : ℕ → ConsumerCommand) (n : ℕ) : consumerState cfg broker f (n + 1) =
    (consumerMachine cfg broker).exec (consumerState cfg broker f n) (f n) := by
  unfold consumerState
  rw [List.range_succ, List.map_append, Machine.run_append]
  rfl

/-- The invariant holds in every state of a sequence. -/
lemma consumerSound_state (htop : Topology cfg broker) (f : ℕ → ConsumerCommand) (n : ℕ) :
    ConsumerSound cfg (consumerState cfg broker f n) :=
  consumerSound_run htop consumerSound_empty _

/-- A message is stuck exactly when a publication for it has raised. -/
lemma messageStuck_iff (htop : Topology cfg broker) (f : ℕ → ConsumerCommand) (n : ℕ) :
    MessageStuck (consumerState cfg broker f n) m ↔
      ∃ k < n, RetryRaises cfg m (consumerState cfg broker f k) (f k) := by
  induction n with
  | zero => simp [consumerState, MessageStuck, ConsumerSystem.empty]
  | succ n ih =>
    rw [consumerState_succ, messageStuck_exec_iff htop (consumerSound_state htop f n), ih,
      Nat.exists_lt_succ_right]

/-! ## Runs to the end -/

/-- A message that is not stuck can end. -/
lemma exists_ended (htop : Topology cfg broker) (h : ConsumerSound cfg s)
    (hm : ∃ c ∈ s.copies, c.number = m) (ha : Tracked cfg s m body a)
    (hstuck : ¬ MessageStuck s m) :
    ∃ cs, MessageEnded cfg ((consumerMachine cfg broker).run s cs) m := by
  induction hr : a.rank cfg using Nat.strong_induction_on generalizing s a with
  | _ r ih =>
    by_cases hfinal : a.place.Final cfg
    · exact ⟨[], ha.ended hfinal⟩
    · obtain ⟨cmd, s', hok, hraises, a', ha', hlt⟩ :=
        ha.exists_step htop h.numbers hfinal fun hplace => hstuck (ha.messageStuck_iff.mpr hplace)
      have hstep := consumerStep_of_ok hok
      have hstuck' : ¬ MessageStuck s' m := fun hs =>
        (hstep.stuck_or_raises htop h.numbers hs).elim hstuck hraises
      obtain ⟨cs, hcs⟩ :=
        ih _ (hr ▸ hlt) (consumerSound_step htop h hok) (hstep.number_taken hm) ha'
        hstuck' rfl
      refine ⟨cmd :: cs, ?_⟩
      rwa [Machine.run_cons, Machine.exec_of_ok hok]

/-- Later states of a sequence of requests are reached from earlier ones. -/
lemma consumerState_add (f : ℕ → ConsumerCommand) (n k : ℕ) : consumerState cfg broker f (n + k) =
    (consumerMachine cfg broker).run (consumerState cfg broker f n)
      ((List.range k).map fun i => f (n + i)) := by
  unfold consumerState
  rw [← Machine.run_append, List.range_add, List.map_append, List.map_map]
  rfl

/-- Later states of a sequence of requests are reached from earlier ones. -/
lemma exists_run_of_le (cfg : ConsumerConfig) (broker : Broker) (f : ℕ → ConsumerCommand) {n n' : ℕ}
    (hle : n ≤ n') :
    ∃ cs, consumerState cfg broker f n' =
      (consumerMachine cfg broker).run (consumerState cfg broker f n) cs := by
  obtain ⟨k, rfl⟩ := Nat.exists_eq_add_of_le hle
  exact ⟨_, consumerState_add f n k⟩

/-- A message that never gets stuck ends when all copies are moved on. -/
lemma ended_of_served (htop : Topology cfg broker) {f : ℕ → ConsumerCommand}
    (hserved : Served cfg broker f)
    (hstuck : ∀ n, ¬ MessageStuck (consumerState cfg broker f n) m) (n : ℕ)
    (hm : ∃ c ∈ (consumerState cfg broker f n).copies, c.number = m)
    (ha : Tracked cfg (consumerState cfg broker f n) m body a) :
    ∃ n', MessageEnded cfg (consumerState cfg broker f n') m := by
  induction hr : a.rank cfg using Nat.strong_induction_on generalizing n a with
  | _ r ih =>
    by_cases hfinal : a.place.Final cfg
    · exact ⟨n, ha.ended hfinal⟩
    · have hplace : a.place ≠ .handled .publishRaised := fun hplace =>
        hstuck n (ha.messageStuck_iff.mpr hplace)
      obtain ⟨n', hle, hgone⟩ := hserved n a ha.only.mem (ha.tried.counts hplace) hfinal
      obtain ⟨cs, hcs⟩ := exists_run_of_le cfg broker f hle
      obtain ⟨a', ha', hadv⟩ := tracked_run htop (consumerSound_state htop f n) hm ha cs
      rw [← hcs] at ha' hadv
      rcases hadv with ⟨rfl, -⟩ | hlt
      · exact absurd ha'.only.mem hgone
      · exact ih _ (hr ▸ hlt) n' (hcs ▸ number_taken_run hm cs) ha' rfl

/-! ## All runs -/

/-- A message that is tracked and not stuck is accounted for. -/
lemma Tracked.accounted (htop : Topology cfg broker) (h : Tracked cfg s m body a)
    (hnumbers : (s.copies.map (·.number)).Nodup) (hstuck : ¬ MessageStuck s m) {message : Message}
    (hbody : message.body = body) : MessageAccounted cfg s m message := by
  have hplace : ∀ c ∈ s.copies, c.Live m →
      Tried cfg c.place c.message.retryCount (s.callsOf m) := by
    intro c hc hlive
    rw [h.only.unique c hc hlive]
    exact h.tried
  have hne : a.place ≠ .handled .publishRaised :=
    fun hplace => hstuck (h.messageStuck_iff.mpr hplace)
  have honly : Only (Copy.CountsFor cfg m) a s.copies :=
    ⟨h.only.mem, ⟨h.only.holds.1, h.tried.counts hne⟩,
      fun b hb hcounts => h.only.unique b hb ⟨hcounts.1, hcounts.2.live⟩⟩
  constructor
  · exact honly.countP_eq_one hnumbers
  · intro c hc horigin hdropped
    have htried := hplace c hc ⟨horigin, by simp [hdropped], by simp [hdropped]⟩
    rw [hdropped] at htried
    cases htried
  · exact fun c hc horigin => (h.body c hc horigin).trans hbody.symm
  · intro c hc horigin hacknowledged
    have htried := hplace c hc ⟨horigin, by simp [hacknowledged], by simp [hacknowledged]⟩
    rw [hacknowledged] at htried
    generalize s.callsOf m = calls at htried
    cases htried with
    | acknowledged hk => exact ⟨_, hk, rfl⟩
  · intro c hc horigin hdlq
    have htried := hplace c hc ⟨horigin, by simp [hdlq], by simp [hdlq]⟩
    rw [hdlq] at htried
    rcases htried.of_queued with ⟨hmain | hretry, -⟩ | ⟨-, hcalls⟩
    · exact absurd hmain.symm htop.main_ne_dlq
    · exact absurd hretry.symm htop.retry_ne_dlq
    · exact hcalls
  · exact h.tried.length_le

/-- No copy of a message that is stuck counts. -/
lemma Tracked.not_accounted (h : Tracked cfg s m body a) (hstuck : MessageStuck s m)
    {message : Message} :
    ¬ MessageAccounted cfg s m message := by
  intro haccounted
  have hplace := h.messageStuck_iff.mp hstuck
  have hpos : 0 < s.copies.countP fun c => c.CountsFor cfg m := haccounted.one ▸ Nat.one_pos
  obtain ⟨c, hc, hcounts⟩ := List.countP_pos_iff.mp hpos
  obtain ⟨horigin, hcounts⟩ := of_decide_eq_true hcounts
  rw [h.only.unique c hc ⟨horigin, hcounts.live⟩, hplace] at hcounts
  exact hcounts.2 rfl

/-- A message that has ended is left alone. -/
lemma Tracked.ended_run (htop : Topology cfg broker) (h : ConsumerSound cfg s)
    (hm : ∃ c ∈ s.copies, c.number = m) (ha : Tracked cfg s m body a)
    (hended : MessageEnded cfg s m)
    (cs : List ConsumerCommand) : MessageEnded cfg ((consumerMachine cfg broker).run s cs) m ∧
      ((consumerMachine cfg broker).run s cs).callsOf m = s.callsOf m := by
  obtain ⟨a', ha', hadv⟩ := tracked_run htop h hm ha cs
  have hfinal := ha.final_of_ended hended
  rcases hadv with ⟨rfl, hcalls⟩ | hlt
  · exact ⟨ha'.ended hfinal, hcalls⟩
  · -- no move is left
    rw [(ha.tried.rank_eq_zero_iff htop).mpr (Or.inl hfinal)] at hlt
    exact absurd hlt (Nat.not_lt_zero _)

/-- A message that was routed stays so. -/
lemma routed_run {p : ℕ × Message} (hp : p ∈ s.routed) (cs : List ConsumerCommand) :
    p ∈ ((consumerMachine cfg broker).run s cs).routed := by
  refine Machine.run_invariant (I := fun t : ConsumerSystem => p ∈ t.routed)
    (fun t cmd t' ht hok => ?_)
    hp cs
  induction consumerStep_of_ok hok with
  | route hnew => exact List.mem_append_left _ ht
  | move hc hmove hcalls => exact ht
  | retry hc hplace hlt hfresh => exact ht

/-- For a consumer that has set up its queues, a message is retried a bounded number of times and
never dropped exactly when no publication of a retry of it raises. -/
theorem messages_retried_iff (hsetup : setupConsumerTopology cfg declared = .ok broker)
    (f : ℕ → ConsumerCommand) {p : ℕ × Message}
    (hrouted : ∃ n, p ∈ (consumerState cfg broker f n).routed)
    (hcount : p.2.retryCount = 0) : MessageRetried cfg broker f p ↔
      ∀ n, ¬ RetryRaises cfg p.1 (consumerState cfg broker f n) (f n) := by
  have htop := topology_of_setup hsetup
  have hsound := consumerSound_state htop f
  obtain ⟨n₀, hn₀⟩ := hrouted
  constructor
  · intro hretried n hraises
    -- once it has raised the message is stuck, also where it is known to be routed
    obtain ⟨cs, hcs⟩ := exists_run_of_le cfg broker f (le_max_left n₀ (n + 1))
    have hp : p ∈ (consumerState cfg broker f (max n₀ (n + 1))).routed := hcs ▸ routed_run hn₀ cs
    have hstuck : MessageStuck (consumerState cfg broker f (max n₀ (n + 1))) p.1 :=
      (messageStuck_iff htop f _).mpr ⟨n, lt_max_of_lt_right (Nat.lt_succ_self n), hraises⟩
    obtain ⟨a, ha⟩ := ((hsound _).routed p hp).2 hcount
    exact ha.not_accounted hstuck (hretried.accounted _ hp)
  · intro hraises
    have hstuck : ∀ n, ¬ MessageStuck (consumerState cfg broker f n) p.1 := by
      intro n hstuck
      obtain ⟨k, -, hk⟩ := (messageStuck_iff htop f n).mp hstuck
      exact hraises k hk
    constructor
    · intro n hp
      obtain ⟨a, ha⟩ := ((hsound n).routed p hp).2 hcount
      exact ha.accounted htop (hsound n).numbers (hstuck n) rfl
    · intro n n' hle hp hended
      obtain ⟨hnumber, htracked⟩ := (hsound n).routed p hp
      obtain ⟨a, ha⟩ := htracked hcount
      obtain ⟨cs, hcs⟩ := exists_run_of_le cfg broker f hle
      exact hcs ▸ ha.ended_run htop (hsound n) hnumber hended cs
    · intro n hp
      obtain ⟨hnumber, htracked⟩ := (hsound n).routed p hp
      obtain ⟨a, ha⟩ := htracked hcount
      exact exists_ended htop (hsound n) hnumber ha (hstuck n)
    · intro hserved
      obtain ⟨hnumber, htracked⟩ := (hsound n₀).routed p hn₀
      obtain ⟨a, ha⟩ := htracked hcount
      exact ended_of_served htop hserved hstuck n₀ hnumber ha

/-- The consumer of the gateway. -/
def gatewayConsumer : ConsumerConfig :=
  { exchangeName := "domain_events"
    queueName := "gateway.table_state.events"
    retryQueue := "gateway.table_state.events.retry"
    dlqQueue := "gateway.table_state.events.dlq"
    routingKeys :=
      ["bet.placed", "game.round_started", "game.round_completed", "game.street_advanced",
      "game.correction_applied"]
    retryDelayMs := 5000
    maxRetries := 3 }

/-- The broker of the gateway. -/
def gatewayBroker : Broker :=
  { queues := [⟨"gateway.table_state.events", none, some "gateway.table_state.events.dlq"⟩,
      ⟨"gateway.table_state.events.retry", some 5000, some "gateway.table_state.events"⟩,
      ⟨"gateway.table_state.events.dlq", none, none⟩]
    bindings := gatewayConsumer.routingKeys.map fun rk =>
      ("domain_events", rk, "gateway.table_state.events") }

/-- A message of the gateway. -/
def handMessage : Message := ⟨"hand", ⟨none, []⟩, none⟩

/-- Its handler raises, and then the retry is published or not. -/
def handlerFails (published : Bool) : List ConsumerCommand :=
  [.route 0 handMessage, .deliver 0, .handlerReturns 0 false, .respond 0 1 [] published]

/-- The second call of its handler succeeds; afterwards nothing is accepted. -/
def handledAgain (n : ℕ) : ConsumerCommand :=
  (handlerFails true ++ [ConsumerCommand.respond 0 2 [] true, .expire 1 [], .deliver 1,
    .handlerReturns 1 true, .respond 1 2 [] true]).getD n (.deliver 0)

/-- The messages of the gateway. -/
theorem messages_retried_iff_gateway :
    setupConsumerTopology gatewayConsumer ⟨[], []⟩ = .ok gatewayBroker ∧
    MessageRetried gatewayConsumer gatewayBroker handledAgain (0, handMessage) := by
  have hpublished : ∀ cmd ∈ List.map handledAgain (List.range 9), ∀ number fresh others,
      cmd ≠ .respond number fresh others false := by
    simp [handledAgain, handlerFails, List.range_succ]
  refine ⟨rfl, (messages_retried_iff
    (show setupConsumerTopology gatewayConsumer ⟨[], []⟩ = .ok gatewayBroker from rfl) handledAgain
    ⟨1, by decide⟩ rfl).mpr ?_⟩
  rintro n ⟨c, -, -, -, -, fresh, others, hcmd⟩
  by_cases hn : n < 9
  · exact hpublished _ (List.mem_map_of_mem (List.mem_range.mpr hn)) _ _ _ hcmd
  · rw [handledAgain, List.getD_eq_default _ _ (not_lt.mp hn)] at hcmd
    cases hcmd

/-- A message whose retry is not published is lost. -/
theorem retry_not_published :
    ¬ ∀ (cfg : ConsumerConfig) (declared broker : Broker),
      setupConsumerTopology cfg declared = .ok broker →
      ∀ (f : ℕ → ConsumerCommand) (p : ℕ × Message),
        (∃ n, p ∈ (consumerState cfg broker f n).routed) →
        p.2.retryCount = 0 → MessageRetried cfg broker f p := by
  intro h
  have hretried := h gatewayConsumer ⟨[], []⟩ gatewayBroker rfl
    (fun n => (handlerFails false).getD n (.deliver 0)) (0, handMessage) ⟨1, by decide⟩ rfl
  exact absurd (hretried.accounted 4 (by decide)).one (by decide)

/-- With one retry, a message whose handler fails twice ends in the dead-letter queue. -/
example : (((consumerMachine { gatewayConsumer with maxRetries := 1 } gatewayBroker).run .empty
    (handlerFails true ++ [.respond 0 2 [] true, .expire 1 [], .deliver 1, .handlerReturns 1 false,
      .respond 1 2 [] true])).copies.map (·.place)) =
        [.replaced, .queued "gateway.table_state.events.dlq"] := by
  decide

end PokerRoom
