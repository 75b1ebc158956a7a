import PokerRoom.Gateway.Delivery
import PokerRoom.Gateway.Notices
import PokerRoom.Messaging.OutboxRun

/-!
# From the tables to the subscribers

The whole way of a change: a command of the game service commits its rows together with its events
in the outbox, workers publish the events, the consumer of the gateway calls the event handler for
every message that its queue is bound to, again when a call has raised, and a broadcast that the
call starts fetches the table state and sends it to the subscribers.  Meanwhile websockets come and
go, and sends fail.

Any of these steps may be taken at any time.  Still, when nothing is left to be done about a round,
every subscriber of the round has received its table state as it is stored
(`subscribers_up_to_date`).
-/

namespace PokerRoom

open Foundation

/-! ## Definitions -/

/-- The texts between the services. -/
structure WireFormat where
  /-- An event as a row of the outbox stores it. -/
  dumpEvent : GameEvent → String
  /-- The event that the consumer reads in a message. -/
  loadEvent : String → ConsumedEvent
  /-- A table state as the game service answers with it. -/
  dumpTableState : TableStateResponse → String
  /-- The consumer reads what was stored. -/
  load_dump : ∀ e, loadEvent (dumpEvent e) = e.consumed

/-- The game service with its outbox, and the gateway. -/
structure LiveTables where
  /-- The tables of a game. -/
  game : GameTables
  /-- The outbox. -/
  outbox : OutboxSystem
  /-- The gateway. -/
  gateway : GatewaySystem
  /-- The calls of the event handler that have not raised, with the publications that they are
  for. -/
  calls : List (ℕ × ℕ)

/-- A step of the game service, of a worker, of the consumer or of the gateway. -/
inductive LiveCommand
  /-- A command on the game; its events get these identifiers and row numbers. -/
  | game (c : GameCommand) (drawn : ℕ → String × Int)
  /-- A worker goes on, or another command writes an event. -/
  | outbox (c : OutboxCommand)
  /-- The consumer calls the event handler, under a number, for the message of a publication. -/
  | handleEvent (call publication : ℕ)
  /-- A websocket or a broadcast goes on. -/
  | gateway (c : GatewayCommand)

/-- Why a step is not taken. -/
inductive LiveRejection
  | game (e : Rejection)
  | outbox (e : OutboxRejection)
  | gateway (e : GatewayRejection)

/-- An event as it is handed to the outbox. -/
def GameEvent.domainEvent (e : GameEvent) (fmt : WireFormat) (eventId : String) : DomainEvent where
  eventId := eventId
  eventType := e.eventType.value
  payload := fmt.dumpEvent e

/-- The events of a command with their row numbers. -/
def outboxRows (fmt : WireFormat) (events : List GameEvent) (drawn : ℕ → String × Int) :
    List (DomainEvent × Int) :=
  events.zipIdx.map fun p => (p.1.domainEvent fmt (drawn p.2).1, (drawn p.2).2)

/-- Write events into the outbox. -/
def addOutboxEvents (maxAttempts : ℕ) (s : OutboxSystem) (rows : List (DomainEvent × Int)) :
    Except OutboxRejection OutboxSystem :=
  rows.foldlM (fun s row => (outboxMachine maxAttempts).step s (.addEvent row.1 row.2)) s

/-- What the game service answers the requests of the gateway with. -/
def GameTables.tableStates (g : GameTables) (fmt : WireFormat) (roundId : String) : TableState :=
  match g.tableStateOf roundId with
  | some t => ⟨t.stateVersion, fmt.dumpTableState t⟩
  | none => ⟨0, ""⟩

/-- Nobody is connected to a game, and none of its events is written. -/
def LiveTables.initial (fmt : WireFormat) (g : GameTables) : LiveTables :=
  ⟨g, .empty, .initial (g.tableStates fmt), []⟩

/-- A call of the event handler is left alone unless it raises. -/
def GatewayCommand.keeps (c : GatewayCommand) (call : ℕ) : Bool :=
  match c with
  | .raise id => call ≠ id
  | _ => true

/-- What the gateway may do of itself.  Only a request for a round that is stored is answered. -/
def LiveTables.permits (s : LiveTables) : GatewayCommand → Bool
  | .write _ _ | .handleEvent _ _ => false
  | .fetch id none => s.gateway.broadcasts.all fun b =>
    b.id ≠ id || (s.game.tableStateOf b.roundId).isSome
  | _ => true

/-- The game service, the workers of its outbox, the consumer and the gateway.  A call that raises
is taken back: its message is delivered again. -/
def liveMachine (fmt : WireFormat) (maxAttempts : ℕ) :
    Machine LiveTables LiveCommand LiveRejection where
  step s
    | .game c drawn => do
      let game ← (gameMachine.step s.game c).mapError .game
      let outbox ← (addOutboxEvents maxAttempts s.outbox
        (outboxRows fmt (c.events s.game game) drawn)).mapError .outbox
      return { s with
        game := game
        outbox := outbox
        gateway := { s.gateway with tables := game.tableStates fmt } }
    | .outbox c => do
      let outbox ← ((outboxMachine maxAttempts).step s.outbox c).mapError .outbox
      return { s with outbox := outbox }
    | .handleEvent call publication => do
      let p ← found (.gateway .notThere) s.outbox.published[publication]?
      require (p.accepted ∧ p.message.routingKey ∈ tableStateEventRoutingKeys) (.gateway .notThere)
      let event := fmt.loadEvent p.message.payload
      let called := { s with calls := s.calls ++ [(call, publication)] }
      match extractRoundId event with
      | none => return called
      | some roundId =>
        if s.gateway.subscribers roundId = [] then return called
        else do
          let gateway ← (gatewayMachine.step s.gateway (.handleEvent call event)).mapError .gateway
          return { called with gateway := gateway }
    | .gateway c => do
      require (s.permits c) (.gateway .notThere)
      let gateway ← (gatewayMachine.step s.gateway c).mapError .gateway
      return { s with gateway := gateway, calls := s.calls.filter fun p => c.keeps p.1 }

/-- The message of an event that the gateway is bound to and that names the round. -/
def OutboxMessage.Notices (m : OutboxMessage) (fmt : WireFormat) (roundId : String) : Prop :=
  m.routingKey ∈ tableStateEventRoutingKeys ∧
    extractRoundId (fmt.loadEvent m.payload) = some roundId

instance (m : OutboxMessage) (fmt : WireFormat) (roundId : String) :
    Decidable (m.Notices fmt roundId) :=
  inferInstanceAs (Decidable (_ ∧ _))

/-- The messages of the outbox with their row numbers, in the order in which they were written. -/
def OutboxSystem.written (s : OutboxSystem) : List (Int × OutboxMessage) :=
  s.rows.map fun ev => (ev.id, ev.message)

/-- The last message that was written about a round. -/
def OutboxSystem.lastNotice (s : OutboxSystem) (fmt : WireFormat) (roundId : String) :
    Option (Int × OutboxMessage) :=
  (s.written.filter fun m => m.2.Notices fmt roundId).getLast?

/-- Nothing is left to be done about a round: its events are sent, the event handler was called for
them and has not raised, no broadcast of it runs, and every websocket has got its first
broadcast. -/
structure AtRest (fmt : WireFormat) (roundId : String) (s : LiveTables) : Prop where
  /-- The events about the round are sent. -/
  sent : ∀ ev ∈ s.outbox.rows, ev.message.Notices fmt roundId → ev.status = .sent
  /-- The messages that the broker has accepted were handled. -/
  handled : ∀ p ∈ s.outbox.published.zipIdx, p.1.accepted → p.1.message.Notices fmt roundId →
    ∃ call ∈ s.calls, call.2 = p.2
  /-- The broadcasts have ended. -/
  ended : ∀ b ∈ s.gateway.broadcasts, b.roundId ≠ roundId
  /-- The connections were greeted. -/
  greeted : ∀ h ∈ s.gateway.handlers, h.roundId = roundId → h.greeted

/-- The broadcast whose request is refused. -/
def LiveCommand.refused : LiveCommand → Option ℕ
  | .gateway (.fetch id (some _)) => some id
  | _ => none

/-- The game service does not refuse a request for a round that it stores. -/
def Answered (t : Transition LiveTables LiveCommand) : Prop :=
  ∀ id ∈ t.command.refused, ∀ b ∈ t.before.gateway.broadcasts, b.id = id →
    (t.before.game.tableStateOf b.roundId).isNone

instance : DecidablePred Answered := fun t =>
  inferInstanceAs
    (Decidable (∀ id ∈ t.command.refused, ∀ b ∈ t.before.gateway.broadcasts, b.id = id →
    (t.before.game.tableStateOf b.roundId).isNone))

/-- A broadcast of the round is still to fetch its table state, or serves the websocket with the one
that is stored. -/
def Broadcast.Awaits (b : Broadcast) (roundId : String) (websocket : ℕ)
    (s : GatewaySystem) : Prop :=
  b.roundId = roundId ∧ (b.stage = .requested ∨
    ∃ trigger, b.Serves roundId websocket (.tableState roundId trigger (s.tables roundId)) s)

/-- A subscriber has received the table state that is stored, or is to get it from his first
broadcast or from the one of a call. -/
inductive Informed (s : GatewaySystem) (roundId : String) (websocket call : ℕ) : Prop
  /-- It was received. -/
  | received {trigger : Option String}
    (h : (websocket, Payload.tableState roundId trigger (s.tables roundId)) ∈ s.received)
  /-- The first broadcast is still to start. -/
  | greeting {h : ConnectionHandler} (hmem : h ∈ s.handlers) (hwebsocket : h.websocket = websocket)
    (hgreeted : h.greeted = false)
  /-- A broadcast is under way. -/
  | awaiting {b : Broadcast} (hb : b ∈ s.broadcasts) (hawaits : b.Awaits roundId websocket s)
    (hby : b.owner = some websocket ∨ b.owner = none ∧ b.id = call)

/-- What holds of the gateway in all runs. -/
structure GatewaySound (s : GatewaySystem) : Prop where
  /-- It was led to by some transitions. -/
  recorded : ∃ trace, Recorded s trace
  /-- A handler is that of a websocket that was accepted for its round. -/
  handlers : ∀ h ∈ s.handlers, (h.websocket, h.roundId) ∈ s.accepted

/-- Every call for the last message about a round has informed the subscribers, or does so. -/
def Heeded (fmt : WireFormat) (s : LiveTables) : Prop :=
  ∀ roundId m, s.outbox.lastNotice fmt roundId = some m → s.game.tableStateOf roundId ≠ none →
    ∀ call ∈ s.calls, ∀ p, s.outbox.published[call.2]? = some p → p.rowId = m.1 →
      ∀ websocket, (roundId, websocket) ∈ s.gateway.connections →
        Informed s.gateway roundId websocket call.1

/-- What holds of the services in all runs. -/
structure LiveSound (fmt : WireFormat) (maxAttempts : ℕ) (s : LiveTables) : Prop where
  /-- The rows of the game satisfy their constraints. -/
  stored : Stored s.game
  /-- The outbox agrees with what was published. -/
  outbox : OutboxSound maxAttempts s.outbox
  /-- The game service answers with what it stores. -/
  tables : s.gateway.tables = s.game.tableStates fmt
  /-- The gateway is sound. -/
  gateway : GatewaySound s.gateway
  /-- Calls are for publications. -/
  calls : ∀ call ∈ s.calls, call.2 < s.outbox.published.length
  /-- There is a message about every stored round. -/
  noticed : ∀ roundId ≠ "", s.game.tableStateOf roundId ≠ none →
    s.outbox.lastNotice fmt roundId ≠ none
  /-- It is heeded. -/
  heeded : Heeded fmt s

variable {fmt : WireFormat} {maxAttempts : ℕ} {s s' : LiveTables} {o o' : OutboxSystem}
    {roundId : String}
  {websocket call : ℕ} {new : List (Int × OutboxMessage)}

/-! ## The outbox -/

/-- A row keeps its message when a mark is written. -/
lemma Mark.view_write (m : Mark) (ev : OutboxEvent) :
    ((m.write maxAttempts ev).id, (m.write maxAttempts ev).message) = (ev.id, ev.message) :=
  Prod.ext m.write_id m.write_message

/-- The marks of a batch change no message. -/
lemma Batch.written_commitTo (b : Batch) (rows : List OutboxEvent) :
    (b.commitTo maxAttempts rows).map (fun ev => (ev.id, ev.message)) =
      rows.map fun ev => (ev.id, ev.message) := by
  unfold Batch.commitTo
  induction b.written generalizing rows with
  | nil => rfl
  | cons p written ih =>
    rw [List.foldl_cons, ih]
    exact map_updateFirst_of_eq _ (p.2.view_write)

/-- What a step of the outbox writes was not published before. -/
lemma exists_written_of_outbox (h : OutboxSound maxAttempts o) {c : OutboxCommand}
    (hok : (outboxMachine maxAttempts).step o c = .ok o') :
    ∃ new, o'.written = o.written ++ new ∧ o.published <+: o'.published ∧
      ∀ m ∈ new, ∀ p ∈ o'.published, p.rowId ≠ m.1 := by
  have hstep := outboxStep_of_ok hok
  have hprefix := hstep.published_prefix
  cases hstep with
  | @addEvent event id hnew =>
    refine ⟨[(id, (addOutboxEvent event id).message)], ?_, hprefix, fun m hm p hp => ?_⟩
    · rw [OutboxSystem.written, List.map_append]
      rfl
    · obtain rfl := List.mem_singleton.mp hm
      obtain ⟨ev, hev, hid, -⟩ := h.published p hp
      exact hid ▸ hnew ev hev
  | @commit worker b hb =>
    exact ⟨[], (b.written_commitTo o.rows).trans (List.append_nil _).symm, hprefix, by simp⟩
  | claim | publish | rollback => exact ⟨[], (List.append_nil _).symm, hprefix, by simp⟩

/-- What a command writes into the outbox. -/
lemma addOutboxEvents_spec (hmax : 1 ≤ maxAttempts) {rows : List (DomainEvent × Int)}
    (h : OutboxSound maxAttempts o) (hok : addOutboxEvents maxAttempts o rows = .ok o') :
    OutboxSound maxAttempts o' ∧ o'.published = o.published ∧
      o'.written = o.written ++
        rows.map (fun row => (row.2, (addOutboxEvent row.1 row.2).message)) ∧
      ∀ row ∈ rows, ∀ ev ∈ o.rows, ev.id ≠ row.2 := by
  induction rows generalizing o with
  | nil =>
    cases hok
    exact ⟨h, rfl, (List.append_nil _).symm, by simp⟩
  | cons row rows ih =>
    rw [addOutboxEvents, List.foldlM_cons] at hok
    obtain ⟨o₁, hadd, hrest⟩ := bind_eq_ok_iff.mp hok
    obtain ⟨hsound, hpublished, hwritten, hfresh⟩ := ih (outboxSound_step hmax h hadd) hrest
    cases outboxStep_of_ok hadd with
    | addEvent hnew =>
      refine ⟨hsound, hpublished, ?_, List.forall_mem_cons.mpr ⟨hnew, fun row' hrow' ev hev => ?_⟩⟩
      · rw [hwritten, OutboxSystem.written, List.map_append, List.append_assoc]
        rfl
      · exact hfresh row' hrow' ev (List.mem_append_left _ hev)

/-- The last message about a round is a new one, if there is one, and the old one otherwise. -/
lemma lastNotice_append (hw : o'.written = o.written ++ new) (fmt : WireFormat) (roundId : String) :
    (∃ m ∈ new, m.2.Notices fmt roundId ∧ o'.lastNotice fmt roundId = some m) ∨
      (∀ m ∈ new, ¬ m.2.Notices fmt roundId) ∧
        o'.lastNotice fmt roundId = o.lastNotice fmt roundId := by
  rw [OutboxSystem.lastNotice, OutboxSystem.lastNotice, hw, List.filter_append,
    List.getLast?_append]
  cases hlast : (new.filter fun m => m.2.Notices fmt roundId).getLast? with
  | none =>
    refine Or.inr ⟨fun m hm hnotices => ?_, rfl⟩
    have hnil := List.getLast?_eq_none_iff.mp hlast
    exact absurd (List.mem_filter.mpr ⟨hm, decide_eq_true hnotices⟩) (hnil ▸ List.not_mem_nil)
  | some m =>
    obtain ⟨hm, hnotices⟩ := List.mem_filter.mp (List.mem_of_getLast? hlast)
    exact Or.inl ⟨m, hm, of_decide_eq_true hnotices, rfl⟩

/-- The last message about a round is one, and it is written. -/
lemma mem_of_lastNotice {m : Int × OutboxMessage} (h : o.lastNotice fmt roundId = some m) :
    m ∈ o.written ∧ m.2.Notices fmt roundId := by
  obtain ⟨hm, hnotices⟩ := List.mem_filter.mp (List.mem_of_getLast? h)
  exact ⟨hm, of_decide_eq_true hnotices⟩

/-- Calls stay heeded when the outbox goes on: a new message was not published, and the subscribers
of the other rounds stay informed. -/
lemma Heeded.of_written (h : Heeded fmt s)
    (hcalls : ∀ call ∈ s.calls, call.2 < s.outbox.published.length)
    (hwritten : s'.outbox.written = s.outbox.written ++ new)
    (hpublished : s.outbox.published <+: s'.outbox.published)
    (hfresh : ∀ m ∈ new, ∀ p ∈ s'.outbox.published, p.rowId ≠ m.1) (hcallsEq : s'.calls = s.calls)
    (hconnections : s'.gateway.connections = s.gateway.connections)
    (hround : ∀ roundId, s.outbox.lastNotice fmt roundId ≠ none →
      (∀ m ∈ new, ¬ m.2.Notices fmt roundId) →
      s'.game.tableStateOf roundId = s.game.tableStateOf roundId ∧ ∀ websocket call,
        Informed s.gateway roundId websocket call → Informed s'.gateway roundId websocket call) :
    Heeded fmt s' := by
  intro roundId m hm hstored call hcall p hp hrow websocket hconnected
  rcases lastNotice_append hwritten fmt roundId with ⟨m', hm', -, hlast⟩ | ⟨hnone, hlast⟩
  · obtain rfl := Option.some.inj (hlast.symm.trans hm)
    exact absurd hrow (hfresh m' hm' p (List.mem_of_getElem? hp))
  · rw [hlast] at hm
    rw [hcallsEq] at hcall
    rw [hconnections] at hconnected
    have hold : s.outbox.published[call.2]? = some p := by
      rw [List.getElem?_eq_getElem (hcalls call hcall), ← hp,
        List.getElem?_eq_getElem ((hcalls call hcall).trans_le hpublished.length_le),
        hpublished.getElem (hcalls call hcall)]
    obtain ⟨hsame, hinformed⟩ := hround roundId (by simp [hm]) hnone
    exact hinformed websocket call.1
      (h roundId m hm (hsame ▸ hstored) call hcall p hold hrow websocket hconnected)

/-! ## The gateway -/

section gateway

variable {t t' : GatewaySystem} {c : GatewayCommand}

/-- A broadcast that is under way stays so when only websockets receive more. -/
lemma Broadcast.Awaits.mono {b : Broadcast} (h : b.Awaits roundId websocket t)
    (hreceived : t.received ⊆ t'.received) (htables : t'.tables roundId = t.tables roundId) :
    b.Awaits roundId websocket t' :=
  ⟨h.1, h.2.imp_right fun ⟨trigger, hserves⟩ => ⟨trigger, htables ▸ hserves.mono hreceived⟩⟩

/-- The subscribers of a round stay informed when the table states of other rounds change. -/
lemma Informed.of_tables {tables : String → TableState} (h : Informed t roundId websocket call)
    (htables : tables roundId = t.tables roundId) :
    Informed { t with tables := tables } roundId websocket call := by
  cases h with
  | @received trigger h =>
    rw [← htables] at h
    exact .received h
  | greeting hmem hwebsocket hgreeted => exact .greeting hmem hwebsocket hgreeted
  | awaiting hb hawaits hby => exact .awaiting hb (hawaits.mono (List.Subset.refl _) htables) hby

/-- A websocket has one round. -/
lemma GatewaySound.roundId_eq (h : GatewaySound t) {roundId' : String}
    (hround : (websocket, roundId) ∈ t.accepted) (hround' : (websocket, roundId') ∈ t.accepted) :
    roundId' = roundId := by
  obtain ⟨trace, hrecorded⟩ := h.recorded
  exact congrArg Prod.snd (eq_of_key_eq hrecorded.accepted hround' hround rfl)

/-- The gateway stays sound. -/
lemma GatewaySound.step (h : GatewaySound t) (hok : gatewayMachine.step t c = .ok t') :
    GatewaySound t' := by
  obtain ⟨trace, hrecorded⟩ := h.recorded
  have haccepted : t.accepted ⊆ t'.accepted := by
    cases gatewayStep_of_ok hok with
    | quiet _ _ _ haccepted => exact haccepted.subset
    | start _ _ _ _ _ haccepted => exact haccepted ▸ List.Subset.refl _
    | proceed _ _ _ _ haccepted => exact haccepted ▸ List.Subset.refl _
  refine ⟨⟨_, recorded_step hrecorded hok⟩, fun hd hmem => ?_⟩
  cases deliveryStep_of_ok hrecorded.ids hok with
  | quiet _ _ _ _ hnew =>
    exact (hnew hd hmem).elim (fun hmem => haccepted (h.handlers hd hmem)) id
  | start _ _ _ _ hhandlers =>
    rcases hhandlers with hsame | ⟨h₀, -, -, -, hgreeted⟩
    · exact haccepted (h.handlers hd (hsame ▸ hmem))
    · rw [hgreeted] at hmem
      rcases mem_of_mem_updateFirst hmem with hold | ⟨h₁, hold, -, rfl⟩
      · exact haccepted (h.handlers hd hold)
      · exact haccepted (h.handlers h₁ hold)
  | proceed _ _ _ hhandlers => exact haccepted (h.handlers hd (hhandlers ▸ hmem))

/-- A subscriber who waits for his first broadcast stays informed. -/
lemma GatewaySound.informed_of_greeting (hs : GatewaySound t) {h : ConnectionHandler}
    (hmem : h ∈ t.handlers) (hwebsocket : h.websocket = websocket) (hgreeted : h.greeted = false)
    (hok : gatewayMachine.step t c = .ok t') (hbefore : (roundId, websocket) ∈ t.connections)
    (hconnected : (roundId, websocket) ∈ t'.connections) : Informed t' roundId websocket call := by
  obtain ⟨trace, hrecorded⟩ := hs.recorded
  cases deliveryStep_of_ok hrecorded.ids hok with
  | quiet _ _ _ hhandlers =>
    rcases hhandlers h hmem with hmem | hgone
    · exact .greeting hmem hwebsocket hgreeted
    · exact absurd (hwebsocket ▸ hconnected) (hgone roundId)
  | @start b _ hstage hbroadcasts _ hhandlers =>
    rcases hhandlers with hsame | ⟨h₀, hmem₀, howner, hround, hupdate⟩
    · exact .greeting (hsame ▸ hmem) hwebsocket hgreeted
    · by_cases hkey : h.websocket = h₀.websocket
      · -- its first broadcast is the one that starts
        have hround₀ : h₀.roundId = roundId := hs.roundId_eq (hrecorded.connections _ hbefore)
          (hwebsocket ▸ hkey ▸ hs.handlers h₀ hmem₀)
        exact .awaiting (hbroadcasts ▸ List.mem_append_right _ List.mem_cons_self)
          ⟨hround.trans hround₀, Or.inl hstage⟩
            (Or.inl (howner.trans (congrArg some (hkey ▸ hwebsocket))))
      · exact .greeting (hupdate ▸ mem_updateFirst_of_ne hmem hkey) hwebsocket hgreeted
  | proceed _ _ _ hhandlers => exact .greeting (hhandlers ▸ hmem) hwebsocket hgreeted

/-- A subscriber who waits for a broadcast stays informed, unless it raises or its request is
refused. -/
lemma GatewaySound.informed_of_awaiting (hs : GatewaySound t) {b : Broadcast}
    (hb : b ∈ t.broadcasts) (hawaits : b.Awaits roundId websocket t)
    (hby : b.owner = some websocket ∨ b.owner = none ∧ b.id = call)
    (hok : gatewayMachine.step t c = .ok t') (htables : t'.tables = t.tables)
    (hraise : c ≠ .raise call) (hanswered : ∀ refused, c ≠ .fetch b.id (some refused))
    (hconnected : (roundId, websocket) ∈ t'.connections) : Informed t' roundId websocket call := by
  obtain ⟨trace, hrecorded⟩ := hs.recorded
  have hreceived : t.received ⊆ t'.received := received_subset hok
  have hkept : b.Awaits roundId websocket t' := hawaits.mono hreceived (congrFun htables roundId)
  cases deliveryStep_of_ok hrecorded.ids hok with
  | quiet _ _ hended =>
    rcases hended b hb with hmem | ⟨payload, hstage⟩ | ⟨w, howner, hgone⟩ | ⟨howner, hc⟩
    · exact .awaiting hmem hkept hby
    · -- it has sent to all its targets
      rcases hkept.2 with h | ⟨trigger, -, h | ⟨-, htarget | h⟩⟩
      · cases hstage.symm.trans h
      · cases hstage.symm.trans h
      · rw [hstage] at htarget
        cases htarget
      · exact .received h
    · rcases hby with hby | ⟨hby, -⟩
      · cases howner.symm.trans hby
        exact absurd hconnected (hgone roundId)
      · cases howner.symm.trans hby
    · rcases hby with hby | ⟨-, rfl⟩
      · cases howner.symm.trans hby
      · exact absurd hc hraise
  | start _ _ hbroadcasts =>
    exact .awaiting (hbroadcasts ▸ List.mem_append_left _ hb) hkept hby
  | @proceed b₀ stage hb₀ hbroadcasts _ _ _ _ hfetched hserves =>
    by_cases hid : b.id = b₀.id
    · obtain rfl := eq_of_key_eq hrecorded.ids hb hb₀ hid
      refine .awaiting (b := { b with stage := stage })
        (hbroadcasts ▸ (mem_updateFirst_iff hrecorded.ids).mpr (Or.inl ⟨b, hb, rfl, rfl⟩))
        ⟨hawaits.1, Or.inr ?_⟩ hby
      obtain ⟨rfl, hstage | ⟨trigger, h⟩⟩ := hawaits
      · -- its request is answered with what is stored
        obtain ⟨refused, hc, rfl⟩ := hfetched hstage
        cases refused with
        | none => exact ⟨b.trigger, rfl, Or.inl (by rw [htables]; rfl)⟩
        | some refused => exact absurd hc (hanswered refused)
      · exact ⟨trigger, htables ▸ hserves websocket _ hconnected h⟩
    · exact .awaiting (hbroadcasts ▸ mem_updateFirst_of_ne hb hid) hkept hby

/-- A subscriber stays informed. -/
lemma GatewaySound.informed_step (hs : GatewaySound t) (h : Informed t roundId websocket call)
    (hok : gatewayMachine.step t c = .ok t') (htables : t'.tables = t.tables)
    (hraise : c ≠ .raise call) (hanswered : ∀ b ∈ t.broadcasts, b.roundId = roundId →
      ∀ refused, c ≠ .fetch b.id (some refused))
    (hbefore : (roundId, websocket) ∈ t.connections)
    (hconnected : (roundId, websocket) ∈ t'.connections) :
    Informed t' roundId websocket call := by
  cases h with
  | received h => exact .received (htables ▸ received_subset hok h)
  | greeting hmem hwebsocket hgreeted =>
    exact hs.informed_of_greeting hmem hwebsocket hgreeted hok hbefore hconnected
  | @awaiting b hb hawaits hby =>
    exact hs.informed_of_awaiting hb hawaits hby hok htables hraise
      (hanswered b hb hawaits.1) hconnected

/-- A websocket that was not subscribed before is still to be greeted. -/
lemma GatewaySound.informed_of_new (hs : GatewaySound t) (hok : gatewayMachine.step t c = .ok t')
    (hbefore : (roundId, websocket) ∉ t.connections)
    (hconnected : (roundId, websocket) ∈ t'.connections) :
    Informed t' roundId websocket call := by
  obtain ⟨trace, hrecorded⟩ := hs.recorded
  cases deliveryStep_of_ok hrecorded.ids hok with
  | quiet _ _ _ _ _ hconnections =>
    obtain ⟨-, hmem⟩ := (hconnections roundId websocket hconnected).resolve_left hbefore
    exact .greeting hmem rfl rfl
  | start _ _ _ _ _ hconnections => exact absurd (hconnections ▸ hconnected) hbefore
  | proceed _ _ _ _ hconnections => exact absurd (hconnections hconnected) hbefore

/-- The gateway leaves the tables alone. -/
lemma GatewaySound.tables_eq (hs : GatewaySound t) (hok : gatewayMachine.step t c = .ok t')
    (hwrite : ∀ roundId table, c ≠ .write roundId table) : t'.tables = t.tables := by
  obtain ⟨trace, hrecorded⟩ := hs.recorded
  cases deliveryStep_of_ok hrecorded.ids hok with
  | quiet _ _ _ _ _ _ htables => exact htables hwrite
  | start _ _ _ _ _ _ htables => exact htables
  | proceed _ _ _ _ _ htables => exact htables

/-- The gateway does not look at how the tables change. -/
lemma GatewaySound.of_tables (hs : GatewaySound t) (tables : String → TableState) :
    GatewaySound { t with tables := tables } := by
  obtain ⟨trace, h⟩ := hs.recorded
  exact ⟨⟨trace, h.ids, h.started, h.accepted, h.connections, h.targets, h.past,
    h.requested, h.carried,
    h.sent⟩, hs.handlers⟩

end gateway

/-! ## Steps -/

/-- A notice names its round. -/
lemma OutboxMessage.Notices.ne_empty {m : OutboxMessage} (h : m.Notices fmt roundId) :
    roundId ≠ "" := by
  obtain ⟨-, hround⟩ := h
  obtain ⟨-, hne⟩ := Option.filter_eq_some_iff.mp hround
  exact of_decide_eq_true hne

/-- An event that names a round is written as a notice of it. -/
lemma exists_notice_of_event (fmt : WireFormat) {events : List GameEvent} {e : GameEvent}
    (he : e ∈ events)
    (hround : e.roundId = some roundId) (hne : roundId ≠ "") (drawn : ℕ → String × Int) :
    ∃ m ∈ (outboxRows fmt events drawn).map fun row => (row.2,
      (addOutboxEvent row.1 row.2).message),
      m.2.Notices fmt roundId := by
  obtain ⟨k, hk⟩ := List.mem_iff_getElem?.mp he
  have hmem : (e, k) ∈ events.zipIdx := List.mem_zipIdx_iff_getElem?.mpr hk
  refine ⟨_, List.mem_map_of_mem (List.mem_map_of_mem hmem),
    mem_routingKeys_iff.mpr (hround ▸ nofun), ?_⟩
  have hload : fmt.loadEvent (fmt.dumpEvent e) = e.consumed := fmt.load_dump e
  simp only [addOutboxEvent, OutboxEvent.message, GameEvent.domainEvent, hload]
  simp [extractRoundId, GameEvent.consumed, hround, hne]

/-- A command on the game keeps the services sound. -/
lemma LiveSound.game_step (hmax : 1 ≤ maxAttempts) (h : LiveSound fmt maxAttempts s)
    {c : GameCommand} {drawn : ℕ → String × Int}
    (hok : (liveMachine fmt maxAttempts).step s (.game c drawn) = .ok s') :
    LiveSound fmt maxAttempts s' := by
  simp only [liveMachine, bind_eq_ok_iff, mapError_eq_ok_iff] at hok
  obtain ⟨g, hgame, o, hadd, hdone⟩ := hok
  cases hdone
  obtain ⟨houtbox, hpublished, hwritten, hfresh⟩ := addOutboxEvents_spec hmax h.outbox hadd
  -- without a new message about a round, its table state is what it was
  have hsame : ∀ roundId ≠ "", (∀ m ∈ (outboxRows fmt (c.events s.game g) drawn).map fun row =>
      (row.2, (addOutboxEvent row.1 row.2).message), ¬ m.2.Notices fmt roundId) →
      g.tableStateOf roundId = s.game.tableStateOf roundId := by
    intro roundId hne hnone
    by_contra hchanged
    obtain ⟨e, he, hround⟩ := exists_event_of_tableState_ne h.stored hgame hchanged
    obtain ⟨m, hm, hnotices⟩ := exists_notice_of_event fmt he hround hne drawn
    exact hnone m hm hnotices
  refine ⟨h.stored.of_ok hgame, houtbox, rfl, h.gateway.of_tables _, fun call hcall => ?_,
    fun roundId hne hstored => ?_, ?_⟩
  · rw [hpublished]
    exact h.calls call hcall
  · rcases lastNotice_append hwritten fmt roundId with ⟨m, -, -, hlast⟩ | ⟨hnone, hlast⟩
    · simp [hlast]
    · rw [hlast]
      exact h.noticed roundId hne (hsame roundId hne hnone ▸ hstored)
  · refine h.heeded.of_written h.calls hwritten (hpublished ▸ List.prefix_refl _)
      (fun m hm p hp => ?_) rfl rfl
      fun roundId hlast hnone => ?_
    · obtain ⟨row, hrow, rfl⟩ := List.mem_map.mp hm
      obtain ⟨ev, hev, hid, -⟩ := h.outbox.published p (hpublished ▸ hp)
      exact hid ▸ hfresh row hrow ev hev
    · obtain ⟨m, hm⟩ := Option.ne_none_iff_exists'.mp hlast
      have hround := hsame roundId (mem_of_lastNotice hm).2.ne_empty hnone
      refine ⟨hround, fun websocket call hinformed => hinformed.of_tables ?_⟩
      rw [h.tables, GameTables.tableStates, GameTables.tableStates, hround]

/-- A step of the outbox keeps the services sound. -/
lemma LiveSound.outbox_step (hmax : 1 ≤ maxAttempts) (h : LiveSound fmt maxAttempts s)
    {c : OutboxCommand} (hok : (liveMachine fmt maxAttempts).step s (.outbox c) = .ok s') :
    LiveSound fmt maxAttempts s' := by
  simp only [liveMachine, bind_eq_ok_iff, mapError_eq_ok_iff] at hok
  obtain ⟨o, hstep, hdone⟩ := hok
  cases hdone
  obtain ⟨new, hwritten, hpublished, hfresh⟩ := exists_written_of_outbox h.outbox hstep
  refine ⟨h.stored, outboxSound_step hmax h.outbox hstep, h.tables, h.gateway,
    fun call hcall => (h.calls call hcall).trans_le hpublished.length_le,
      fun roundId hne hstored => ?_,
    h.heeded.of_written h.calls hwritten hpublished hfresh rfl rfl fun _ _ _ =>
      ⟨rfl, fun _ _ => id⟩⟩
  rcases lastNotice_append hwritten fmt roundId with ⟨m, -, -, hlast⟩ | ⟨-, hlast⟩
  · simp [hlast]
  · exact hlast ▸ h.noticed roundId hne hstored

/-- The message of a row was published as it is written. -/
lemma OutboxSound.message_eq (h : OutboxSound maxAttempts o) {m : Int × OutboxMessage}
    (hm : m ∈ o.written)
    {p : Publication} (hp : p ∈ o.published) (hrow : p.rowId = m.1) : p.message = m.2 := by
  obtain ⟨ev, hev, rfl⟩ := List.mem_map.mp hm
  obtain ⟨ev', hev', hid, hmessage⟩ := h.published p hp
  obtain rfl := eq_of_key_eq h.ids hev' hev (hid.trans hrow)
  exact hmessage.symm

/-- A call of the event handler keeps the services sound. -/
lemma LiveSound.handleEvent_step (h : LiveSound fmt maxAttempts s) {publication : ℕ}
    (hok : (liveMachine fmt maxAttempts).step s (.handleEvent call publication) = .ok s') :
    LiveSound fmt maxAttempts s' := by
  simp only [liveMachine, bind_eq_ok_iff, found_eq_ok_iff, require_eq_ok_iff] at hok
  obtain ⟨p, hp, ⟨⟩, -, hok⟩ := hok
  obtain ⟨hlt, -⟩ := List.getElem?_eq_some_iff.mp hp
  -- the round of a message whose row is the last notice is found in the message
  have hfound : ∀ {roundId m}, s.outbox.lastNotice fmt roundId = some m → p.rowId = m.1 →
      extractRoundId (fmt.loadEvent p.message.payload) = some roundId := fun hm hrow => by
    obtain ⟨hwritten, -, hround⟩ := mem_of_lastNotice hm
    rw [h.outbox.message_eq hwritten (List.mem_of_getElem? hp) hrow]
    exact hround
  have hcalls : ∀ c ∈ s.calls ++ [(call, publication)], c.2 < s.outbox.published.length := by
    intro c hc
    rcases List.mem_append.mp hc with hc | hc
    · exact h.calls c hc
    · obtain rfl := List.mem_singleton.mp hc
      exact hlt
  -- it is enough that the earlier calls stay heeded and this one is
  have hsound : ∀ gateway, GatewaySound gateway → gateway.tables = s.gateway.tables →
      gateway.connections = s.gateway.connections →
      (∀ roundId websocket call, (roundId, websocket) ∈ gateway.connections →
        Informed s.gateway roundId websocket call → Informed gateway roundId websocket call) →
      (∀ roundId, extractRoundId (fmt.loadEvent p.message.payload) = some roundId → ∀ websocket,
        (roundId, websocket) ∈ gateway.connections → Informed gateway roundId websocket call) →
      LiveSound fmt maxAttempts
        { s with calls := s.calls ++ [(call, publication)], gateway := gateway } := by
    intro gateway hgateway htables hconnections hkept hnew
    refine ⟨h.stored, h.outbox, htables.trans h.tables, hgateway, hcalls, h.noticed, ?_⟩
    intro roundId m hm hstored c hc p' hp' hrow websocket hconnected
    rcases List.mem_append.mp hc with hc | hc
    · exact hkept _ _ _ hconnected
        (h.heeded roundId m hm hstored c hc p' hp' hrow websocket (hconnections ▸ hconnected))
    · obtain rfl := List.mem_singleton.mp hc
      obtain rfl := Option.some.inj (hp.symm.trans hp')
      exact hnew roundId (hfound hm hrow) websocket hconnected
  split at hok
  · next hnone =>
    cases hok
    exact hsound _ h.gateway rfl rfl (fun _ _ _ _ => id) fun roundId hround => by
      cases hnone.symm.trans hround
  · next roundId hround =>
    split at hok
    · next hempty =>
      cases hok
      refine hsound _ h.gateway rfl rfl (fun _ _ _ _ => id)
        fun roundId' hround' websocket hconnected => ?_
      obtain rfl := Option.some.inj (hround.symm.trans hround')
      have hmem := mem_subscribers_iff.mpr hconnected
      rw [hempty] at hmem
      cases hmem
    · simp only [bind_eq_ok_iff, mapError_eq_ok_iff] at hok
      obtain ⟨gateway, hstep, hdone⟩ := hok
      cases hdone
      have hgateway := h.gateway.step hstep
      have hstarted : gateway = s.gateway.start call roundId
          (fmt.loadEvent p.message.payload).eventType none := by
        simp only [gatewayMachine, bind_eq_ok_iff, found_eq_ok_iff, hround] at hstep
        obtain ⟨roundId', hfind, ⟨⟩, -, hdone⟩ := hstep
        obtain rfl := Option.some.inj hfind
        exact (Except.ok.inj hdone).symm
      have htables : gateway.tables = s.gateway.tables := hstarted ▸ rfl
      have hconnections : gateway.connections = s.gateway.connections := hstarted ▸ rfl
      refine hsound _ hgateway htables hconnections
        (fun roundId' websocket call' hconnected hinformed => ?_)
        fun roundId' hround' websocket _ => ?_
      · exact h.gateway.informed_step hinformed hstep htables
          (by simp) (by simp) (hconnections ▸ hconnected)
          hconnected
      · obtain rfl := Option.some.inj (hround.symm.trans hround')
        rw [hstarted]
        exact .awaiting (List.mem_append_right _ List.mem_cons_self) ⟨rfl, Or.inl rfl⟩
          (Or.inr ⟨rfl, rfl⟩)

/-- A step of the gateway keeps the services sound, when the game service answers. -/
lemma LiveSound.gateway_step (h : LiveSound fmt maxAttempts s) {c : GatewayCommand}
    (hanswered : Answered ⟨s, .gateway c, s'⟩)
    (hok : (liveMachine fmt maxAttempts).step s (.gateway c) = .ok s') :
    LiveSound fmt maxAttempts s' := by
  simp only [liveMachine, bind_eq_ok_iff, mapError_eq_ok_iff, require_eq_ok_iff] at hok
  obtain ⟨⟨⟩, hpermits, gateway, hstep, hdone⟩ := hok
  cases hdone
  have htables : gateway.tables = s.gateway.tables :=
    h.gateway.tables_eq hstep fun roundId table hc => by
      rw [hc] at hpermits
      cases hpermits
  refine ⟨h.stored, h.outbox, htables.trans h.tables, h.gateway.step hstep,
    fun p hp => h.calls p (List.mem_of_mem_filter hp), h.noticed, ?_⟩
  intro roundId m hm hstored p hp pub hpub hrow websocket hconnected
  obtain ⟨hp, hkeeps⟩ := List.mem_filter.mp hp
  by_cases hbefore : (roundId, websocket) ∈ s.gateway.connections
  · refine h.gateway.informed_step
      (h.heeded roundId m hm hstored p hp pub hpub hrow websocket hbefore) hstep
      htables (fun hraise => ?_) (fun b hb hround refused hc => ?_) hbefore hconnected
    · rw [hraise] at hkeeps
      exact of_decide_eq_true hkeeps rfl
    · have hnone := hanswered b.id (by rw [hc]; rfl) b hb rfl
      exact hstored (hround ▸ Option.isNone_iff_eq_none.mp hnone)
  · exact h.gateway.informed_of_new hstep hbefore hconnected

/-- Every step keeps the services sound, when the game service answers. -/
lemma LiveSound.step (hmax : 1 ≤ maxAttempts) {c : LiveCommand} (hanswered : Answered ⟨s, c, s'⟩)
    (h : LiveSound fmt maxAttempts s) (hok : (liveMachine fmt maxAttempts).step s c = .ok s') :
    LiveSound fmt maxAttempts s' := by
  cases c with
  | game => exact h.game_step hmax hok
  | outbox => exact h.outbox_step hmax hok
  | handleEvent => exact h.handleEvent_step hok
  | gateway => exact h.gateway_step hanswered hok

/-! ## Every run -/

/-- The services are sound when a game was started. -/
lemma liveSound_initial {existing : Option Game} {roomConfig : RoomConfig}
    {activated : Except Rejection Unit} {gameId : String} {now : Int} {g : GameTables}
    (hstart : startGame existing roomConfig activated gameId now = .ok g) :
    LiveSound fmt maxAttempts (.initial fmt g) := by
  obtain ⟨hstored, hrounds⟩ := stored_of_startGame hstart
  refine ⟨hstored, outboxSound_empty, rfl, ⟨⟨_, recorded_run (g.tableStates fmt) []⟩, nofun⟩, nofun,
    fun roundId _ hround => ?_, nofun⟩
  simp [LiveTables.initial, GameTables.tableStateOf, hrounds] at hround

/-- **Subscribers are brought up to date.** Take any run of a game, the workers of its outbox, the
consumer and the gateway, in which the game service refuses no request for a round that it stores,
and a moment at which nothing is left to be done about a round.  Every websocket that is subscribed
to the round then has received the table state with which the game service answers now. -/
theorem subscribers_up_to_date (fmt : WireFormat) (hmax : 1 ≤ maxAttempts) {existing : Option Game}
    {roomConfig : RoomConfig} {activated : Except Rejection Unit} {gameId : String} {now : Int}
    {g : GameTables} (hstart : startGame existing roomConfig activated gameId now = .ok g)
    {cs : List LiveCommand}
    (hanswered : ∀ t ∈ (liveMachine fmt maxAttempts).trace (.initial fmt g) cs, Answered t)
    (hid : roundId ≠ "")
    (hstored :
      (((liveMachine fmt maxAttempts).run (.initial fmt g) cs).game.tableStateOf roundId).isSome)
    (hrest : AtRest fmt roundId ((liveMachine fmt maxAttempts).run (.initial fmt g) cs))
    (hsubscribed : websocket ∈
      ((liveMachine fmt maxAttempts).run (.initial fmt g) cs).gateway.subscribers roundId) :
    ∃ trigger, (websocket, Payload.tableState roundId trigger
        (((liveMachine fmt maxAttempts).run (.initial fmt g) cs).game.tableStates fmt roundId)) ∈
      ((liveMachine fmt maxAttempts).run (.initial fmt g) cs).gateway.received := by
  have h : LiveSound fmt maxAttempts ((liveMachine fmt maxAttempts).run (.initial fmt g) cs) :=
    Machine.run_invariant_of_trace (fun _ _ _ hanswered h hok => h.step hmax hanswered hok)
      (liveSound_initial hstart) hanswered
  set s := (liveMachine fmt maxAttempts).run (.initial fmt g) cs
  have hconnected := mem_subscribers_iff.mp hsubscribed
  -- the last message about the round is sent, accepted and handled
  have hstored : s.game.tableStateOf roundId ≠ none := Option.isSome_iff_ne_none.mp hstored
  obtain ⟨m, hm⟩ := Option.ne_none_iff_exists'.mp (h.noticed roundId hid hstored)
  obtain ⟨hwritten, hnotices⟩ := mem_of_lastNotice hm
  obtain ⟨ev, hev, rfl⟩ := List.mem_map.mp hwritten
  obtain ⟨p, hp, haccepted⟩ := List.countP_pos_iff.mp
    ((h.outbox.rows ev hev).sent (hrest.sent ev hev hnotices)).2
  obtain ⟨hrow, haccepted⟩ : p.rowId = ev.id ∧ p.accepted := by simpa using haccepted
  have hmessage := h.outbox.message_eq hwritten hp hrow
  obtain ⟨k, hk⟩ := List.mem_iff_getElem?.mp hp
  obtain ⟨call, hcall, rfl⟩ := hrest.handled (p, k) (List.mem_zipIdx_iff_getElem?.mpr hk) haccepted
    (hmessage ▸ hnotices)
  -- nothing is under way any more
  cases h.heeded roundId _ hm hstored call hcall p hk hrow websocket hconnected with
  | @received trigger hreceived => exact ⟨trigger, h.tables ▸ hreceived⟩
  | @greeting hd hmem hwebsocket hgreeted =>
    obtain ⟨trace, hrecorded⟩ := h.gateway.recorded
    have hround : hd.roundId = roundId := h.gateway.roundId_eq (hrecorded.connections _ hconnected)
      (hwebsocket ▸ h.gateway.handlers hd hmem)
    exact absurd (hrest.greeted hd hmem hround) (by simp [hgreeted])
  | awaiting hb hawaits => exact absurd hawaits.1 (hrest.ended _ hb)

/-! ## A fold that overtakes a broadcast -/

/-- The type of an event, and the round behind a bar if the event names one. -/
def plainEvent (e : GameEvent) : String :=
  e.eventType.value ++ match e.roundId with
    | none => ""
    | some roundId => "|" ++ roundId

/-- The event that a plain text stands for. -/
def loadPlainEvent (s : String) : ConsumedEvent where
  eventType := some (String.ofList (s.toList.takeWhile (· ≠ '|')))
  data := some ⟨match s.toList.dropWhile (· ≠ '|') with
    | [] => none
    | _ :: roundId => some (String.ofList roundId)⟩

/-- A plain text stands for the event that it was made from. -/
lemma loadPlainEvent_plainEvent (e : GameEvent) : loadPlainEvent (plainEvent e) = e.consumed := by
  have hword : ∀ c ∈ e.eventType.value.toList, decide (c ≠ '|') = true := by
    rw [← List.all_eq_true]
    cases e.eventType <;> decide
  rw [loadPlainEvent, plainEvent, GameEvent.consumed]
  cases e.roundId with
  | none =>
    rw [String.toList_append, List.takeWhile_append_of_pos hword,
      List.dropWhile_append_of_pos hword]
    simp
  | some roundId =>
    rw [String.toList_append, List.takeWhile_append_of_pos hword,
      List.dropWhile_append_of_pos hword,
      String.toList_append]
    simp

/-- Plain texts, with the chips in the pot for a table state. -/
def plainFormat : WireFormat where
  dumpEvent := plainEvent
  loadEvent := loadPlainEvent
  dumpTableState := fun t => String.ofList (List.replicate t.potAmount.toNat '*')
  load_dump := loadPlainEvent_plainEvent

/-- A websocket waits for a hand.  The small blind folds while the broadcast of the first event is
under way. -/
def foldNoticed : List LiveCommand :=
  [.gateway (.connect 0 "round"), .gateway (.reconcile 1 0),
    .gateway (.fetch 1 (some (404, "Round not found"))),
    .gateway (.listTargets 1), .gateway (.locate 1), .gateway (.send 1 true), .gateway (.finish 1),
    .game (.startRound controllerStart "round" headsUpIds) fun _ => ("first", 1),
    .outbox (.claim 0 50), .outbox (.publish 0 (.ok ()) 5), .outbox (.commit 0), .handleEvent 2 0,
    .gateway (.fetch 2 none),
    .game (.round "round" (.betting (.send "alice" "fold" 0 "b1" "e1")) fun _ => 0)
      fun _ => ("second", 2),
    .gateway (.listTargets 2), .gateway (.locate 2), .gateway (.send 2 true), .gateway (.finish 2),
    .outbox (.claim 0 50), .outbox (.publish 0 (.ok ()) 6), .outbox (.commit 0), .handleEvent 3 1,
    .gateway (.fetch 3 none), .gateway (.listTargets 3), .gateway (.locate 3),
      .gateway (.send 3 true),
    .gateway (.finish 3)]

/-- The websocket has received the table as it is after the fold. -/
theorem subscribers_up_to_date_fold : ∃ trigger, (0, Payload.tableState "round" trigger
    (((liveMachine plainFormat 20).run
      (.initial plainFormat headsUpGame) foldNoticed).game.tableStates plainFormat "round")) ∈
    ((liveMachine plainFormat 20).run
      (.initial plainFormat headsUpGame) foldNoticed).gateway.received :=
  subscribers_up_to_date plainFormat (show 1 ≤ 20 by decide)
    (show startGame none headsUpRoom.toRoomConfig (.ok ()) "game" 0 = .ok headsUpGame by decide)
    (show ∀ t ∈ (liveMachine plainFormat 20).trace (.initial plainFormat headsUpGame) foldNoticed,
      Answered t by decide +kernel)
    (show "round" ≠ "" by decide) (by decide +kernel)
    ⟨by decide +kernel, by decide +kernel, by decide +kernel, by decide +kernel⟩ (by decide +kernel)

example : ((liveMachine plainFormat 20).run
    (.initial plainFormat headsUpGame) foldNoticed).game.tableStates plainFormat "round" =
      ⟨2, "***"⟩ := by decide +kernel

end PokerRoom
