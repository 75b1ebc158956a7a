import PokerRoom.Gateway.SnapshotOrder

/-!
# Table states reach their subscribers

Broadcasts overlap, sends fail, websockets come and go and broadcasts may raise or be cancelled.
Still, a broadcast that has fetched a table state and has run to its end has sent it to every
websocket that stayed subscribed (`no_missed_update`): the targets are listed after the table state
was fetched, a target is only left out when it is no longer subscribed, and a websocket whose send
fails is dropped for good.
-/

namespace PokerRoom

open Foundation

variable {s s' : GatewaySystem} {c : GatewayCommand} {b : Broadcast} {stage : BroadcastStage}
  {t u w : GatewayTransition} {id websocket : ℕ} {roundId : String} {payload : Payload}
  {trace : List GatewayTransition}

/-! ## Definitions -/

/-- A websocket was accepted at some time. -/
def GatewaySystem.HasAccepted (s : GatewaySystem) (websocket : ℕ) : Prop :=
  websocket ∈ s.accepted.map (·.1)

/-- A broadcast of the round either has fetched the payload and is to list its targets, or it is
still to send the payload to the websocket, or it has sent it. -/
def Broadcast.Serves (b : Broadcast) (roundId : String) (websocket : ℕ) (payload : Payload)
    (s : GatewaySystem) : Prop :=
  b.roundId = roundId ∧ (b.stage = .fetched payload ∨
    b.stage.payload = some payload ∧
      (websocket ∈ b.stage.targets ∨ (websocket, payload) ∈ s.received))

/-- The broadcast of a number serves a websocket as long as this is subscribed to the round. -/
structure Serving (id : ℕ) (roundId : String) (websocket : ℕ) (payload : Payload)
    (s : GatewaySystem) :
    Prop where
  /-- The broadcast was started. -/
  started : id ∈ s.started
  /-- The websocket was accepted. -/
  accepted : s.HasAccepted websocket
  /-- The broadcast serves it, if it still runs. -/
  serves : (roundId, websocket) ∈ s.connections → ∀ b ∈ s.broadcasts, b.id = id →
    b.Serves roundId websocket payload s

/-- What a step means for a broadcast that does not run any more: it has sent to all its targets, or
the handler that waits for it is gone, or it has raised. -/
def Broadcast.Ended (b : Broadcast) (c : GatewayCommand) (s' : GatewaySystem) : Prop :=
  (∃ payload, b.stage = .sending payload []) ∨
    (∃ websocket, b.owner = some websocket ∧ ∀ roundId, (roundId, websocket) ∉ s'.connections) ∨
    b.owner = none ∧ c = .raise b.id

/-- The accepted steps, by what they mean for the websockets that are served. -/
inductive DeliveryStep (s : GatewaySystem) (c : GatewayCommand) (s' : GatewaySystem) : Prop
  /-- Broadcasts and handlers may end; only a websocket that has just been accepted is
  subscribed. -/
  | quiet (hbroadcasts : s'.broadcasts ⊆ s.broadcasts) (hstarted : s'.started = s.started)
    (hended : ∀ b ∈ s.broadcasts, b ∈ s'.broadcasts ∨ b.Ended c s')
    (hhandlers : ∀ h ∈ s.handlers, h ∈ s'.handlers ∨
      ∀ roundId, (roundId, h.websocket) ∉ s'.connections)
    (hnew : ∀ h ∈ s'.handlers, h ∈ s.handlers ∨ (h.websocket, h.roundId) ∈ s'.accepted)
    (hconnections : ∀ roundId websocket, (roundId, websocket) ∈ s'.connections →
      (roundId, websocket) ∈ s.connections ∨
        ¬ s.HasAccepted websocket ∧ ⟨websocket, roundId, false⟩ ∈ s'.handlers)
    (htables : (∀ roundId table, c ≠ .write roundId table) → s'.tables = s.tables)
  /-- A broadcast starts, maybe for the handler of a connection. -/
  | start {b : Broadcast} (hid : b.id ∉ s.started) (hstage : b.stage = .requested)
    (hbroadcasts : s'.broadcasts = s.broadcasts ++ [b])
      (hstarted : s'.started = s.started ++ [b.id])
    (hhandlers : s'.handlers = s.handlers ∨ ∃ h ∈ s.handlers, b.owner = some h.websocket ∧
      b.roundId = h.roundId ∧ s'.handlers =
        updateFirst (·.websocket) h.websocket (fun h => { h with greeted := true }) s.handlers)
    (hconnections : s'.connections = s.connections) (htables : s'.tables = s.tables)
  /-- A broadcast goes on, and goes on serving who stays subscribed. -/
  | proceed {b : Broadcast} {stage : BroadcastStage} (hb : b ∈ s.broadcasts)
    (hbroadcasts : s'.broadcasts =
      updateFirst (·.id) b.id (fun b => { b with stage := stage }) s.broadcasts)
    (hstarted : s'.started = s.started) (hhandlers : s'.handlers = s.handlers)
    (hconnections : s'.connections ⊆ s.connections) (htables : s'.tables = s.tables)
    (hfetched : b.stage = .requested →
      ∃ refused, c = .fetch b.id refused ∧ stage = .fetched (b.payload s.tables refused))
    (hserves : ∀ websocket payload, (b.roundId, websocket) ∈ s'.connections →
      b.Serves b.roundId websocket payload s →
      Broadcast.Serves { b with stage := stage } b.roundId websocket payload s')

/-! ## Steps -/

/-- A websocket that was accepted stays so. -/
lemma GatewaySystem.HasAccepted.step (h : s.HasAccepted websocket)
    (hok : gatewayMachine.step s c = .ok s') :
    s'.HasAccepted websocket := by
  have hle : s.accepted <+: s'.accepted := by
    cases gatewayStep_of_ok hok with
    | quiet _ _ _ haccepted => exact haccepted
    | start _ _ _ _ _ haccepted => exact haccepted ▸ List.prefix_refl _
    | proceed _ _ _ _ haccepted => exact haccepted ▸ List.prefix_refl _
  exact (hle.map _).subset h

/-- Who is served by a broadcast that has listed its targets is one of them, or has received the
payload. -/
lemma Broadcast.Serves.of_targets {payload' : Payload} (h : b.Serves roundId websocket payload' s)
    (hstage : b.stage.payload = some payload) (hlisted : ∀ p, b.stage ≠ .fetched p) :
    payload' = payload ∧ (websocket ∈ b.stage.targets ∨ (websocket, payload') ∈ s.received) := by
  rcases h.2 with hfetched | ⟨hpayload, hor⟩
  · exact absurd hfetched (hlisted _)
  · exact ⟨Option.some.inj (hpayload.symm.trans hstage), hor⟩

/-- The end of a handler ends the broadcast that it waits for. -/
lemma deliveryStep_endHandler (websocket : ℕ) : DeliveryStep s c (s.endHandler websocket) := by
  have hgone : ∀ roundId, (roundId, websocket) ∉ (s.endHandler websocket).connections :=
    fun roundId hmem =>
    of_decide_eq_true (List.mem_filter.mp hmem).2 rfl
  refine .quiet (List.filter_subset_self _) rfl (fun b hb => ?_) (fun h hh => ?_)
    (fun _ hh => Or.inl (List.mem_of_mem_filter hh))
      (fun _ _ hmem => Or.inl (List.mem_of_mem_filter hmem))
    fun _ => rfl
  · by_cases howner : b.owner = some websocket
    · exact Or.inr (Or.inr (Or.inl ⟨websocket, howner, hgone⟩))
    · exact Or.inl (List.mem_filter.mpr ⟨hb, decide_eq_true howner⟩)
  · by_cases hwebsocket : h.websocket = websocket
    · exact Or.inr (hwebsocket ▸ hgone)
    · exact Or.inl (List.mem_filter.mpr ⟨hh, decide_eq_true hwebsocket⟩)

/-- The end of a broadcast. -/
lemma deliveryStep_filter (hids : (s.broadcasts.map (·.id)).Nodup) (hb : b ∈ s.broadcasts)
    (hended : b.Ended c s) :
    DeliveryStep s c { s with broadcasts := s.broadcasts.filter fun b' => b'.id ≠ b.id } := by
  refine .quiet (List.filter_subset_self _) rfl (fun b' hb' => ?_) (fun _ => Or.inl)
    (fun _ => Or.inl) (fun _ _ => Or.inl) fun _ => rfl
  by_cases hid : b'.id = b.id
  · obtain rfl := eq_of_key_eq hids hb' hb hid
    exact Or.inr hended
  · exact Or.inl (List.mem_filter.mpr ⟨hb', decide_eq_true hid⟩)

/-- A broadcast that lists its targets serves every subscriber. -/
lemma deliveryStep_listTargets (hb : b ∈ s.broadcasts) (hstage : b.stage = .fetched payload) :
    DeliveryStep s c (s.proceed b.id (.sending payload (s.subscribers b.roundId))) := by
  refine .proceed hb rfl rfl rfl (List.Subset.refl _) rfl (fun h => by cases hstage.symm.trans h)
    fun websocket payload' hconnected ⟨_, hserves⟩ => ?_
  have hsame : payload = payload' := by
    rw [hstage] at hserves
    rcases hserves with h | ⟨h, -⟩ <;> cases h <;> rfl
  exact ⟨rfl, Or.inr ⟨congrArg some hsame, Or.inl (mem_subscribers_iff.mpr hconnected)⟩⟩

/-- A broadcast only leaves a target out that is not subscribed any more. -/
lemma deliveryStep_locate {target : ℕ} {targets : List ℕ} (hb : b ∈ s.broadcasts)
    (hstage : b.stage = .sending payload (target :: targets)) :
    DeliveryStep s c (if (b.roundId, target) ∈ s.connections then
        s.proceed b.id (.located payload target targets)
      else s.proceed b.id (.sending payload targets)) := by
  have hpayload : b.stage.payload = some payload := by rw [hstage]; rfl
  have hlisted : ∀ p, b.stage ≠ .fetched p := by simp [hstage]
  have htargets : b.stage.targets = target :: targets := by rw [hstage]; rfl
  split
  · refine .proceed hb rfl rfl rfl (List.Subset.refl _) rfl (fun h => by cases hstage.symm.trans h)
      fun websocket payload' _ h => ?_
    obtain ⟨rfl, hor⟩ := h.of_targets hpayload hlisted
    rw [htargets] at hor
    exact ⟨rfl, Or.inr ⟨rfl, hor⟩⟩
  · next hgone =>
    refine .proceed hb rfl rfl rfl (List.Subset.refl _) rfl (fun h => by cases hstage.symm.trans h)
      fun websocket payload' hconnected h => ?_
    obtain ⟨rfl, hor⟩ := h.of_targets hpayload hlisted
    refine ⟨rfl, Or.inr ⟨rfl, hor.imp_left fun hmem => ?_⟩⟩
    rcases List.mem_cons.mp (htargets ▸ hmem) with rfl | hmem
    · exact absurd hconnected hgone
    · exact hmem

/-- A broadcast sends to its target, or drops it. -/
lemma deliveryStep_send {target : ℕ} {targets : List ℕ} (delivered : Bool) (hb : b ∈ s.broadcasts)
    (hstage : b.stage = .located payload target targets) :
    DeliveryStep s c (if delivered then
        { s.proceed b.id (.sending payload targets) with received := s.received ++
          [(target, payload)] }
      else (s.proceed b.id (.sending payload targets)).disconnect b.roundId target) := by
  have hpayload : b.stage.payload = some payload := by rw [hstage]; rfl
  have hlisted : ∀ p, b.stage ≠ .fetched p := by simp [hstage]
  have htargets : b.stage.targets = target :: targets := by rw [hstage]; rfl
  split
  · refine .proceed hb rfl rfl rfl (List.Subset.refl _) rfl (fun h => by cases hstage.symm.trans h)
      fun websocket payload' _ h => ?_
    obtain ⟨rfl, hor⟩ := h.of_targets hpayload hlisted
    refine ⟨rfl, Or.inr ⟨rfl, ?_⟩⟩
    rcases hor with hmem | hreceived
    · rcases List.mem_cons.mp (htargets ▸ hmem) with rfl | hmem
      · exact Or.inr (List.mem_append_right _ List.mem_cons_self)
      · exact Or.inl hmem
    · exact Or.inr (List.mem_append_left _ hreceived)
  · refine .proceed hb rfl rfl rfl (List.filter_subset_self _) rfl
      (fun h => by cases hstage.symm.trans h)
      fun websocket payload' hconnected h => ?_
    obtain ⟨rfl, hor⟩ := h.of_targets hpayload hlisted
    refine ⟨rfl, Or.inr ⟨rfl, hor.imp_left fun hmem => ?_⟩⟩
    rcases List.mem_cons.mp (htargets ▸ hmem) with rfl | hmem
    · simp [GatewaySystem.disconnect] at hconnected
    · exact hmem

/-- An accepted step is one of these. -/
lemma deliveryStep_of_ok (hids : (s.broadcasts.map (·.id)).Nodup)
    (hok : gatewayMachine.step s c = .ok s') : DeliveryStep s c s' := by
  cases c with
  | write roundId table =>
    obtain ⟨⟨⟩, -, hok⟩ := bind_eq_ok_iff.mp hok
    cases hok
    exact .quiet (List.Subset.refl _) rfl (fun _ => Or.inl) (fun _ => Or.inl) (fun _ => Or.inl)
      (fun _ _ => Or.inl) fun hc => absurd rfl (hc roundId table)
  | connect websocket roundId =>
    obtain ⟨⟨⟩, hnew, hok⟩ := bind_eq_ok_iff.mp hok
    cases hok
    refine .quiet (List.Subset.refl _) rfl (fun _ => Or.inl)
      (fun h hh => Or.inl (List.mem_append_left _ hh)) (fun h hh => ?_)
        (fun roundId' websocket' hmem => ?_)
      fun _ => rfl
    · rcases List.mem_append.mp hh with hold | hlast
      · exact Or.inl hold
      · obtain rfl := List.mem_singleton.mp hlast
        exact Or.inr (List.mem_append_right _ List.mem_cons_self)
    rcases List.mem_append.mp hmem with hold | hlast
    · exact Or.inl hold
    · cases List.mem_singleton.mp hlast
      refine Or.inr ⟨fun haccepted => ?_, List.mem_append_right _ List.mem_cons_self⟩
      obtain ⟨p, hp, hwebsocket⟩ := List.mem_map.mp haccepted
      exact require_eq_ok_iff.mp hnew p hp hwebsocket
  | disconnect websocket =>
    cases hok
    exact deliveryStep_endHandler websocket
  | reconcile id websocket =>
    obtain ⟨handler, hfind, hok⟩ := bind_eq_ok_iff.mp hok
    obtain ⟨⟨⟩, hnew, hok⟩ := bind_eq_ok_iff.mp hok
    cases hok
    obtain ⟨hmem, rfl⟩ := mem_of_find?_key (found_eq_ok_iff.mp hfind)
    exact .start (require_eq_ok_iff.mp hnew).1 rfl rfl rfl
      (Or.inr ⟨handler, hmem, rfl, rfl, rfl⟩) rfl rfl
  | handleEvent id event =>
    obtain ⟨roundId, -, hok⟩ := bind_eq_ok_iff.mp hok
    obtain ⟨⟨⟩, hnew, hok⟩ := bind_eq_ok_iff.mp hok
    cases hok
    exact .start (require_eq_ok_iff.mp hnew).1 rfl rfl rfl (Or.inl rfl) rfl rfl
  | fetch id refused =>
    obtain ⟨b, hb, hok⟩ := bind_eq_ok_iff.mp hok
    obtain ⟨⟨⟩, hstage, hok⟩ := bind_eq_ok_iff.mp hok
    obtain ⟨hmem, rfl⟩ := mem_of_find?_key (found_eq_ok_iff.mp hb)
    cases hok
    refine .proceed hmem rfl rfl rfl (List.Subset.refl _) rfl (fun _ => ⟨refused, rfl, rfl⟩)
      fun websocket payload _ hserves => ?_
    -- it has had no payload to serve anybody with
    rw [Broadcast.Serves, (require_eq_ok_iff.mp hstage).1] at hserves
    rcases hserves.2 with h | ⟨h, -⟩ <;> cases h
  | listTargets id =>
    obtain ⟨b, hb, hok⟩ := bind_eq_ok_iff.mp hok
    obtain ⟨hmem, rfl⟩ := mem_of_find?_key (found_eq_ok_iff.mp hb)
    split at hok
    · next payload hstage =>
      cases hok
      exact deliveryStep_listTargets hmem hstage
    · cases hok
  | locate id =>
    obtain ⟨b, hb, hok⟩ := bind_eq_ok_iff.mp hok
    obtain ⟨hmem, rfl⟩ := mem_of_find?_key (found_eq_ok_iff.mp hb)
    split at hok
    · next payload websocket targets hstage =>
      have hstep := deliveryStep_locate (c := .locate b.id) hmem hstage
      split at hok
      · next htrue =>
        cases hok
        rwa [if_pos htrue] at hstep
      · next hfalse =>
        cases hok
        rwa [if_neg hfalse] at hstep
    · cases hok
  | send id delivered =>
    obtain ⟨b, hb, hok⟩ := bind_eq_ok_iff.mp hok
    obtain ⟨hmem, rfl⟩ := mem_of_find?_key (found_eq_ok_iff.mp hb)
    split at hok
    · next payload websocket targets hstage =>
      have hstep := deliveryStep_send (c := .send b.id delivered) delivered hmem hstage
      split at hok
      · next htrue =>
        cases hok
        rwa [if_pos htrue] at hstep
      · next hfalse =>
        cases hok
        rwa [if_neg hfalse] at hstep
    · cases hok
  | finish id =>
    obtain ⟨b, hb, hok⟩ := bind_eq_ok_iff.mp hok
    obtain ⟨hmem, rfl⟩ := mem_of_find?_key (found_eq_ok_iff.mp hb)
    split at hok
    · next payload hstage =>
      cases hok
      exact deliveryStep_filter hids hmem (Or.inl ⟨payload, hstage⟩)
    · cases hok
  | raise id =>
    obtain ⟨b, hb, hok⟩ := bind_eq_ok_iff.mp hok
    obtain ⟨hmem, rfl⟩ := mem_of_find?_key (found_eq_ok_iff.mp hb)
    split at hok
    · next websocket _ =>
      cases hok
      exact deliveryStep_endHandler websocket
    · next howner =>
      cases hok
      exact deliveryStep_filter hids hmem (Or.inr (Or.inr ⟨howner, rfl⟩))

/-- A websocket that was accepted before is not subscribed again. -/
lemma connected_of_step (hids : (s.broadcasts.map (·.id)).Nodup)
    (hok : gatewayMachine.step s c = .ok s')
    (h : s.HasAccepted websocket) (hconnected : (roundId, websocket) ∈ s'.connections) :
    (roundId, websocket) ∈ s.connections := by
  cases deliveryStep_of_ok hids hok with
  | quiet _ _ _ _ _ hconnections =>
    exact (hconnections roundId websocket hconnected).resolve_right fun hnew => hnew.1 h
  | start _ _ _ _ _ hconnections => exact hconnections ▸ hconnected
  | proceed _ _ _ _ hconnections => exact hconnections hconnected

/-- What was received stays so. -/
lemma received_subset (hok : gatewayMachine.step s c = .ok s') : s.received ⊆ s'.received := by
  rw [received_step hok]
  exact List.subset_append_left _ _

/-- Who is served by a broadcast stays served when only websockets receive more. -/
lemma Broadcast.Serves.mono (h : b.Serves roundId websocket payload s)
    (hle : s.received ⊆ s'.received) :
    b.Serves roundId websocket payload s' :=
  ⟨h.1, h.2.imp_right fun hb => ⟨hb.1, hb.2.imp_right fun hmem => hle hmem⟩⟩

/-- A broadcast goes on serving a websocket. -/
lemma Serving.step (h : Serving id roundId websocket payload s)
    (hids : (s.broadcasts.map (·.id)).Nodup)
    (hok : gatewayMachine.step s c = .ok s') : Serving id roundId websocket payload s' := by
  have hconnected : (roundId, websocket) ∈ s'.connections → (roundId, websocket) ∈ s.connections :=
    connected_of_step hids hok h.accepted
  have hkept : ∀ b : Broadcast, b.Serves roundId websocket payload s →
      b.Serves roundId websocket payload s' := fun b hb => hb.mono (received_subset hok)
  refine ⟨?_, h.accepted.step hok, fun hmem b' hb' hid => ?_⟩
  · cases deliveryStep_of_ok hids hok with
    | quiet _ hstarted => exact hstarted ▸ h.started
    | start _ _ _ hstarted => exact hstarted ▸ List.mem_append_left _ h.started
    | proceed _ _ hstarted => exact hstarted ▸ h.started
  · have hserves := h.serves (hconnected hmem)
    cases deliveryStep_of_ok hids hok with
    | quiet hbroadcasts => exact hkept b' (hserves b' (hbroadcasts hb') hid)
    | @start b hnew _ hbroadcasts =>
      rw [hbroadcasts] at hb'
      rcases List.mem_append.mp hb' with hb' | hb'
      · exact hkept b' (hserves b' hb' hid)
      · -- a new broadcast has another number
        obtain rfl := List.mem_singleton.mp hb'
        exact absurd (hid ▸ h.started) hnew
    | @proceed b stage hb hbroadcasts _ _ _ _ _ hstage =>
      rw [hbroadcasts] at hb'
      rcases (mem_updateFirst_iff hids).mp hb' with ⟨b₀, hb₀, hkey, rfl⟩ | ⟨hb', -⟩
      · obtain rfl := eq_of_key_eq hids hb₀ hb hkey
        have hbefore := hserves b₀ hb₀ hid
        obtain rfl := hbefore.1
        exact hstage websocket payload hmem hbefore
      · exact hkept b' (hserves b' hb' hid)

/-! ## Every run -/

/-- A broadcast that has fetched a table state serves every websocket that is subscribed by then. -/
lemma serving_of_fetches (hs : Recorded t.before trace) (hfetch : Fetches t id roundId)
    (hsubscribed : (roundId, websocket) ∈ t.before.connections)
    (hok : gatewayMachine.step t.before t.command = .ok t.after) :
    ∃ trigger, Serving id roundId websocket (.tableState roundId trigger (t.before.tables roundId))
      t.after := by
  obtain ⟨hcommand, b, hb, rfl, rfl⟩ := hfetch
  rw [hcommand] at hok
  obtain ⟨b', hb', hok⟩ := bind_eq_ok_iff.mp hok
  obtain ⟨⟨⟩, hstage, hok⟩ := bind_eq_ok_iff.mp hok
  obtain ⟨hmem, hid⟩ := mem_of_find?_key (found_eq_ok_iff.mp hb')
  obtain rfl := eq_of_key_eq hs.ids hmem hb hid
  have hafter := (Except.ok.inj hok).symm
  refine ⟨b'.trigger, ?_, ?_, fun _ b'' hb'' hid'' => ?_⟩
  · rw [hafter]
    exact hs.started b' hb
  · rw [hafter]
    exact List.mem_map.mpr ⟨_, hs.connections _ hsubscribed, rfl⟩
  · rw [hafter] at hb''
    rcases (mem_updateFirst_iff hs.ids).mp hb'' with ⟨b₀, hb₀, hkey, rfl⟩ | ⟨_, hne⟩
    · obtain rfl := eq_of_key_eq hs.ids hb₀ hb hkey
      exact ⟨rfl, Or.inl rfl⟩
    · exact absurd hid'' hne

/-- A broadcast that has run to its end has sent its payload to a websocket that it has served and
that is still subscribed. -/
lemma Serving.received_of_finish (h : Serving id roundId websocket payload s)
    (hids : (s.broadcasts.map (·.id)).Nodup) (hok : gatewayMachine.step s (.finish id) = .ok s')
    (hconnected : (roundId, websocket) ∈ s'.connections) :
    (websocket, payload) ∈ s'.received := by
  have hbefore := connected_of_step hids hok h.accepted hconnected
  refine received_subset hok ?_
  obtain ⟨b, hb, hok⟩ := bind_eq_ok_iff.mp hok
  obtain ⟨hmem, hid⟩ := mem_of_find?_key (found_eq_ok_iff.mp hb)
  obtain ⟨-, hserves⟩ := h.serves hbefore b hmem hid
  split at hok
  · next p hstage =>
    rw [hstage] at hserves
    rcases hserves with hfetched | ⟨-, htarget | hreceived⟩
    · cases hfetched
    · cases htarget
    · exact hreceived
  · cases hok

/-- **No update is missed.** Take any run of the gateway, with any number of overlapping broadcasts,
failing sends and leaving websockets, and in it a moment after which a broadcast fetches the table
state of a round and later runs to its end.  Every websocket that is subscribed to the round at this
moment, and still is when the broadcast ends, has by then received a table state of the round that
is at least as new as the one that was stored at this moment. -/
theorem no_missed_update (tables : String → TableState) (cs : List GatewayCommand) (id : ℕ)
    (hsub : List.Sublist [w, t, u] (gatewayMachine.trace (.initial tables) cs))
    (hfetch : Fetches t id roundId) (hfinish : u.command = .finish id)
    (hbefore : websocket ∈ w.after.subscribers roundId)
    (hafter : websocket ∈ u.after.subscribers roundId) :
    ∃ trigger data, (websocket, Payload.tableState roundId trigger data) ∈ u.after.received ∧
      (w.after.tables roundId).stateVersion ≤ data.stateVersion := by
  have hwt : List.Sublist [w, t] (gatewayMachine.trace (.initial tables) cs) :=
    (List.Sublist.cons_cons w (List.Sublist.cons_cons t (List.nil_sublist [u]))).trans hsub
  have htu : List.Sublist [t, u] (gatewayMachine.trace (.initial tables) cs) :=
    (List.sublist_cons_self w _).trans hsub
  have hrecord : ∀ s c s', (∃ trace, Recorded s trace) → gatewayMachine.step s c = .ok s' →
      ∃ trace, Recorded s' trace := fun s c s' ⟨trace, h⟩ hok => ⟨_, recorded_step h hok⟩
  have hinitial : ∃ trace, Recorded (.initial tables) trace := ⟨_, recorded_run tables []⟩
  have hany : cs.Pairwise fun _ _ => True := List.pairwise_iff_forall_sublist.mpr fun _ => trivial
  -- the websocket is subscribed when the table state is fetched, since it would not have come back
  obtain ⟨⟨trace, htrace⟩, haccepted, hok⟩ := Machine.later_of_sublist_trace
    (P := fun s => s.HasAccepted websocket) hrecord hinitial hany hwt
    (fun hw hok => by
      obtain ⟨trace, htrace⟩ := hrecord _ _ _ hw hok
      exact List.mem_map.mpr ⟨_, htrace.connections _ (mem_subscribers_iff.mp hbefore), rfl⟩)
    (fun s c s' _ _ h hok => h.step hok)
  have hsubscribed : (roundId, websocket) ∈ t.before.connections := by
    by_contra hgone
    obtain ⟨⟨_, hs⟩, ⟨hlater, hstill⟩, hlast⟩ := Machine.later_of_sublist_trace
      (P := fun s => s.HasAccepted websocket ∧ (roundId, websocket) ∉ s.connections) hrecord
        hinitial hany htu
      (fun _ hok => ⟨haccepted.step hok, fun h =>
        hgone (connected_of_step htrace.ids hok haccepted h)⟩)
      (fun s c s' _ hs h hok =>
        ⟨h.1.step hok, fun hmem => h.2 (connected_of_step hs.choose_spec.ids hok h.1 hmem)⟩)
    exact hstill (connected_of_step hs.ids hlast hlater (mem_subscribers_iff.mp hafter))
  obtain ⟨trigger, hserving⟩ := serving_of_fetches htrace hfetch hsubscribed hok
  obtain ⟨⟨_, hs⟩, hserves, hlast⟩ := Machine.later_of_sublist_trace
    (P := Serving id roundId websocket (.tableState roundId trigger (t.before.tables roundId)))
    hrecord hinitial hany htu (fun _ _ => hserving)
    (fun s c s' _ hs h hok => h.step hs.choose_spec.ids hok)
  rw [hfinish] at hlast
  exact ⟨trigger, _, hserves.received_of_finish hs.ids hlast (mem_subscribers_iff.mp hafter),
    Machine.measure_le_of_sublist_trace (fun _ _ _ hok => stateVersion_step roundId hok) hwt⟩

/-- A bet is placed while a broadcast is under way, and the event of the bet starts another one. -/
def noticedBet : List GatewayCommand :=
  [.connect 0 "round", .handleEvent 1 ⟨some "game.round_started", some ⟨some "round"⟩⟩,
    .fetch 1 none,
    .write "round" ⟨2, ""⟩, .handleEvent 2 ⟨some "bet.placed", some ⟨some "round"⟩⟩, .listTargets 1,
    .fetch 2 none, .listTargets 2, .locate 2, .send 2 true, .finish 2]

/-- The websocket has received version 2 when the second broadcast ends. -/
theorem no_missed_update_bet : ∃ trigger data,
    (0, Payload.tableState "round" trigger data) ∈
      (gatewayMachine.run (.initial fun _ => ⟨1, ""⟩) noticedBet).received ∧
        2 ≤ data.stateVersion :=
  no_missed_update (fun _ => ⟨1, ""⟩) noticedBet 2
    (w := (gatewayMachine.trace (.initial fun _ => ⟨1, ""⟩) noticedBet).get ⟨3, by decide⟩)
    (t := (gatewayMachine.trace (.initial fun _ => ⟨1, ""⟩) noticedBet).get ⟨6, by decide⟩)
    (u := (gatewayMachine.trace (.initial fun _ => ⟨1, ""⟩) noticedBet).get ⟨10, by decide⟩)
    (.cons _ (.cons _
      (.cons _ (.cons_cons _ (.cons _ (.cons _ (.cons_cons _ (.cons _ (.cons _ (.cons _
      (.cons_cons _ .slnil)))))))))))
    ⟨rfl, _, List.mem_cons_of_mem _ List.mem_cons_self, rfl, rfl⟩ rfl (by decide) (by decide)

end PokerRoom
