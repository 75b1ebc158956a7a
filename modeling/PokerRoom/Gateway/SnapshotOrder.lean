import PokerRoom.Gateway.TableStateFanout

/-!
# When table states go back in time

The versions of the table states that a websocket receives never decrease exactly when no broadcast
is overtaken: when of two broadcasts that have fetched the table state of a round, with a change of
its version in between, the one that has fetched it later never sends to a websocket first
(`snapshots_in_order_iff`).  The gateway does nothing against that (`snapshot_overtaken`).

What a broadcast sends is what it has fetched (`Carries`), which is read off from the transitions of
a run.
-/

namespace PokerRoom

open Foundation

/-! ## Definitions -/

/-- A transition of the gateway. -/
abbrev GatewayTransition := Transition GatewaySystem GatewayCommand

/-- A broadcast fetches the table state of a round. -/
def Fetches (t : GatewayTransition) (id : ℕ) (roundId : String) : Prop :=
  t.command = .fetch id none ∧ ∃ b ∈ t.before.broadcasts, b.id = id ∧ b.roundId = roundId

/-- A broadcast sends a payload to a websocket. -/
def Sends (t : GatewayTransition) (id websocket : ℕ) (payload : Payload) : Prop :=
  t.command = .send id true ∧ ∃ b ∈ t.before.broadcasts, b.id = id ∧
    ∃ targets, b.stage = .located payload websocket targets

/-- The version of a round goes up. -/
def RaisesVersion (t : GatewayTransition) (roundId : String) : Prop :=
  (t.before.tables roundId).stateVersion < (t.after.tables roundId).stateVersion

/-- A broadcast is overtaken: it has fetched the table state of a round before the version went up,
another one has fetched it after that, and this one sends to a websocket first. -/
def SnapshotOvertaken (trace : List GatewayTransition) : Prop :=
  ∃ roundId id id' websocket,
    (∃ t u t', List.Sublist [t, u, t'] trace ∧ Fetches t id roundId ∧ RaisesVersion u roundId ∧
      Fetches t' id' roundId) ∧
    ∃ v' v, List.Sublist [v', v] trace ∧ (∃ payload, Sends v' id' websocket payload) ∧
      ∃ payload, Sends v id websocket payload

/-- The broadcast that a command fetches or sends for. -/
def GatewayCommand.about : GatewayCommand → Option ℕ
  | .fetch id _ => some id
  | .send id _ => some id
  | _ => none

/-- What a broadcast is to send. -/
def BroadcastStage.payload : BroadcastStage → Option Payload
  | .requested => none
  | .fetched payload | .sending payload _ | .located payload _ _ => some payload

/-- The websockets that a broadcast is still to send to. -/
def BroadcastStage.targets : BroadcastStage → List ℕ
  | .requested | .fetched _ => []
  | .sending _ targets => targets
  | .located _ websocket targets => websocket :: targets

/-- What a transition sends. -/
def sent (t : GatewayTransition) : Option (ℕ × Payload) :=
  match t.command with
  | .send id true => (t.before.broadcastOf id).bind fun b =>
    match b.stage with
    | .located payload websocket _ => some (websocket, payload)
    | _ => none
  | _ => none

/-- The payload of a broadcast is what it has fetched. -/
structure Carries (trace : List GatewayTransition) (id : ℕ) (roundId : String) (payload : Payload) :
    Prop where
  /-- A table state that the broadcast has fetched is its payload. -/
  of_fetches : ∀ t ∈ trace, ∀ r, Fetches t id r →
    r = roundId ∧ payload.version = some (t.before.tables roundId).stateVersion
  /-- A payload with a version was fetched. -/
  exists_fetches : ∀ version, payload.version = some version →
    ∃ t ∈ trace, Fetches t id roundId ∧ (t.before.tables roundId).stateVersion = version

/-- What holds of the gateway and of the transitions that have led to it. -/
structure Recorded (s : GatewaySystem) (trace : List GatewayTransition) : Prop where
  /-- Broadcasts have numbers of their own. -/
  ids : (s.broadcasts.map (·.id)).Nodup
  /-- They are started. -/
  started : ∀ b ∈ s.broadcasts, b.id ∈ s.started
  /-- A websocket has one round. -/
  accepted : (s.accepted.map (·.1)).Nodup
  /-- Subscribers are websockets of the round. -/
  connections : ∀ c ∈ s.connections, (c.2, c.1) ∈ s.accepted
  /-- So are the targets of a broadcast. -/
  targets : ∀ b ∈ s.broadcasts, ∀ websocket ∈ b.stage.targets, (websocket, b.roundId) ∈ s.accepted
  /-- Only broadcasts that were started fetch and send. -/
  past : ∀ t ∈ trace, ∀ id ∈ t.command.about, id ∈ s.started
  /-- One that waits for its answer has not. -/
  requested : ∀ b ∈ s.broadcasts, b.stage = .requested → ∀ t ∈ trace, t.command.about ≠ some b.id
  /-- One with an answer carries what it has fetched. -/
  carried : ∀ b ∈ s.broadcasts, ∀ payload ∈ b.stage.payload, Carries trace b.id b.roundId payload
  /-- What was sent was fetched, for a round of the websocket. -/
  sent : ∀ t ∈ trace, ∀ id websocket payload, Sends t id websocket payload →
    ∃ roundId, (websocket, roundId) ∈ s.accepted ∧ Carries trace id roundId payload

variable {s s' : GatewaySystem} {c : GatewayCommand} {b : Broadcast} {stage : BroadcastStage}
  {trace : List GatewayTransition} {t : GatewayTransition} {id websocket : ℕ} {roundId : String}
  {payload : Payload}

/-! ## Steps -/

/-- What a step does with a broadcast. -/
inductive StageStep (s : GatewaySystem) (b : Broadcast) : GatewayCommand → BroadcastStage → Prop
  /-- Its request is answered. -/
  | fetch {refused : Option (ℕ × String)} (h : b.stage = .requested) :
    StageStep s b (.fetch b.id refused) (.fetched (b.payload s.tables refused))
  /-- It goes on with its payload. -/
  | carry {c : GatewayCommand} {stage : BroadcastStage} {payload : Payload} (hc : c.about = none)
    (h : b.stage.payload = some payload) (h' : stage.payload = some payload)
    (htargets : ∀ websocket ∈ stage.targets,
      websocket ∈ b.stage.targets ∨ (b.roundId, websocket) ∈ s.connections) : StageStep s b c stage
  /-- It sends to a target. -/
  | send {delivered : Bool} {payload : Payload} {websocket : ℕ} {targets : List ℕ}
    (h : b.stage = .located payload websocket targets) :
    StageStep s b (.send b.id delivered) (.sending payload targets)

/-- The accepted steps, by what they do with the broadcasts. -/
inductive GatewayStep (s : GatewaySystem) (c : GatewayCommand) (s' : GatewaySystem) : Prop
  /-- Broadcasts may end. -/
  | quiet (hc : c.about = none) (hbroadcasts : s'.broadcasts.Sublist s.broadcasts)
    (hstarted : s'.started = s.started) (haccepted : s.accepted <+: s'.accepted)
    (hnodup : (s.accepted.map (·.1)).Nodup → (s'.accepted.map (·.1)).Nodup)
    (hconnections : ∀ c ∈ s'.connections, c ∈ s.connections ∨ (c.2, c.1) ∈ s'.accepted)
    (hreceived : s'.received = s.received)
    (htables : ∀ roundId, (s.tables roundId).stateVersion ≤ (s'.tables roundId).stateVersion)
  /-- A broadcast starts. -/
  | start {b : Broadcast} (hc : c.about = none) (hstage : b.stage = .requested)
    (hid : b.id ∉ s.started) (hbroadcasts : s'.broadcasts = s.broadcasts ++ [b])
      (hstarted : s'.started = s.started ++ [b.id])
    (haccepted : s'.accepted = s.accepted) (hconnections : s'.connections = s.connections)
    (hreceived : s'.received = s.received) (htables : s'.tables = s.tables)
  /-- A broadcast goes on. -/
  | proceed {b : Broadcast} {stage : BroadcastStage} (hb : b ∈ s.broadcasts)
    (hstage : StageStep s b c stage) (hbroadcasts : s'.broadcasts =
      updateFirst (·.id) b.id (fun b => { b with stage := stage }) s.broadcasts)
    (hstarted : s'.started = s.started) (haccepted : s'.accepted = s.accepted)
    (hconnections : ∀ c ∈ s'.connections, c ∈ s.connections)
    (hreceived : s'.received = s.received ++ (sent ⟨s, c, s'⟩).toList)
      (htables : s'.tables = s.tables)

/-- A subscriber of a round is connected for it. -/
lemma mem_subscribers_iff : websocket ∈ s.subscribers roundId ↔
    (roundId, websocket) ∈ s.connections := by
  simp [GatewaySystem.subscribers]

/-- An end of a handler is a quiet step. -/
lemma gatewayStep_endHandler (hc : c.about = none) (websocket : ℕ) :
    GatewayStep s c (s.endHandler websocket) :=
  .quiet hc List.filter_sublist rfl (List.prefix_refl _) id
    (fun _ hmem => Or.inl (List.mem_of_mem_filter hmem)) rfl fun _ => le_rfl

/-- An end of a broadcast is a quiet step. -/
lemma gatewayStep_filter (hc : c.about = none) (id : ℕ) :
    GatewayStep s c { s with broadcasts := s.broadcasts.filter fun b => b.id ≠ id } :=
  .quiet hc List.filter_sublist rfl (List.prefix_refl _) (fun hnodup => hnodup)
    (fun _ hmem => Or.inl hmem) rfl fun _ => le_rfl

/-- A broadcast that goes on with its payload, without sending it. -/
lemma gatewayStep_carry (hc : c.about = none) (hb : b ∈ s.broadcasts)
    (h : b.stage.payload = some payload)
    (h' : stage.payload = some payload) (htargets : ∀ websocket ∈ stage.targets,
      websocket ∈ b.stage.targets ∨ (b.roundId, websocket) ∈ s.connections) :
    GatewayStep s c (s.proceed b.id stage) := by
  refine .proceed hb (.carry hc h h' htargets) rfl rfl rfl (fun _ hmem => hmem) ?_ rfl
  cases c with
  | fetch | send => cases hc
  | _ => simp [sent, GatewaySystem.proceed]

/-- An accepted step is one of these. -/
lemma gatewayStep_of_ok (h : gatewayMachine.step s c = .ok s') : GatewayStep s c s' := by
  cases c with
  | write roundId table =>
    obtain ⟨⟨⟩, hle, h⟩ := bind_eq_ok_iff.mp h
    cases h
    refine .quiet rfl (List.Sublist.refl _) rfl (List.prefix_refl _) id
      (fun _ hmem => Or.inl hmem) rfl
      fun r => ?_
    by_cases hr : r = roundId
    · subst hr
      simpa using require_eq_ok_iff.mp hle
    · simp [hr]
  | connect websocket roundId =>
    obtain ⟨⟨⟩, hnew, h⟩ := bind_eq_ok_iff.mp h
    cases h
    refine .quiet rfl (List.Sublist.refl _) rfl (List.prefix_append _ _)
      (fun hnodup => nodup_map_concat_iff.mpr ⟨hnodup, require_eq_ok_iff.mp hnew⟩)
        (fun c hmem => ?_) rfl
      fun _ => le_rfl
    rcases List.mem_append.mp hmem with hmem | hmem
    · exact Or.inl hmem
    · obtain rfl := List.mem_singleton.mp hmem
      exact Or.inr (List.mem_append_right _ (List.mem_singleton.mpr rfl))
  | disconnect websocket =>
    cases h
    exact gatewayStep_endHandler rfl websocket
  | reconcile id websocket =>
    obtain ⟨handler, -, h⟩ := bind_eq_ok_iff.mp h
    obtain ⟨⟨⟩, hnew, h⟩ := bind_eq_ok_iff.mp h
    cases h
    exact .start rfl rfl (require_eq_ok_iff.mp hnew).1 rfl rfl rfl rfl rfl rfl
  | handleEvent id event =>
    obtain ⟨roundId, -, h⟩ := bind_eq_ok_iff.mp h
    obtain ⟨⟨⟩, hnew, h⟩ := bind_eq_ok_iff.mp h
    cases h
    exact .start rfl rfl (require_eq_ok_iff.mp hnew).1 rfl rfl rfl rfl rfl rfl
  | fetch id refused =>
    obtain ⟨b, hb, h⟩ := bind_eq_ok_iff.mp h
    obtain ⟨⟨⟩, hstage, h⟩ := bind_eq_ok_iff.mp h
    obtain ⟨hmem, rfl⟩ := mem_of_find?_key (found_eq_ok_iff.mp hb)
    cases h
    refine .proceed hmem (.fetch (require_eq_ok_iff.mp hstage).1) rfl rfl rfl
      (fun _ hmem => hmem) ?_ rfl
    simp [sent, GatewaySystem.proceed]
  | listTargets id =>
    obtain ⟨b, hb, h⟩ := bind_eq_ok_iff.mp h
    obtain ⟨hmem, rfl⟩ := mem_of_find?_key (found_eq_ok_iff.mp hb)
    split at h
    · next payload hstage =>
      cases h
      exact gatewayStep_carry rfl hmem (congrArg BroadcastStage.payload hstage) rfl
        fun websocket hw => Or.inr (mem_subscribers_iff.mp hw)
    · cases h
  | locate id =>
    obtain ⟨b, hb, h⟩ := bind_eq_ok_iff.mp h
    obtain ⟨hmem, rfl⟩ := mem_of_find?_key (found_eq_ok_iff.mp hb)
    split at h
    · next payload websocket targets hstage =>
      have htargets : b.stage.targets = websocket :: targets := by rw [hstage]; rfl
      split at h
      · cases h
        exact gatewayStep_carry rfl hmem (congrArg BroadcastStage.payload hstage) rfl
          fun w hw => Or.inl (htargets ▸ hw)
      · cases h
        exact gatewayStep_carry rfl hmem (congrArg BroadcastStage.payload hstage) rfl
          fun w hw => Or.inl (htargets ▸ List.mem_cons_of_mem _ hw)
    · cases h
  | send id delivered =>
    obtain ⟨b, hfind, h⟩ := bind_eq_ok_iff.mp h
    have hb := found_eq_ok_iff.mp hfind
    obtain ⟨hmem, rfl⟩ := mem_of_find?_key hb
    split at h
    · next payload websocket targets hstage =>
      induction delivered with
      | true =>
        cases h
        refine .proceed hmem (.send hstage) rfl rfl rfl (fun _ hmem => hmem) ?_ rfl
        simp [sent, hb, hstage]
      | false =>
        cases h
        refine .proceed hmem (.send hstage) rfl rfl rfl
          (fun _ hmem => List.mem_of_mem_filter hmem) ?_ rfl
        simp [sent, GatewaySystem.disconnect, GatewaySystem.proceed]
    · cases h
  | finish id =>
    obtain ⟨b, hb, h⟩ := bind_eq_ok_iff.mp h
    split at h
    · cases h
      exact gatewayStep_filter rfl id
    · cases h
  | raise id =>
    obtain ⟨b, hb, h⟩ := bind_eq_ok_iff.mp h
    split at h
    · next websocket _ =>
      cases h
      exact gatewayStep_endHandler rfl websocket
    · cases h
      exact gatewayStep_filter rfl id

/-! ## What a broadcast carries -/

/-- A fetch is about its broadcast. -/
lemma Fetches.about (h : Fetches t id roundId) : t.command.about = some id := by
  rw [h.1]
  rfl

/-- A send is about its broadcast. -/
lemma Sends.about (h : Sends t id websocket payload) : t.command.about = some id := by
  rw [h.1]
  rfl

/-- A broadcast carries what it has fetched, whatever else happens. -/
lemma Carries.concat (h : Carries trace id roundId payload) (hnew : ∀ r, ¬ Fetches t id r) :
    Carries (trace ++ [t]) id roundId payload := by
  constructor
  · intro t' ht' r hfetches
    rcases List.mem_append.mp ht' with ht' | ht'
    · exact h.of_fetches t' ht' r hfetches
    · rw [List.mem_singleton.mp ht'] at hfetches
      exact absurd hfetches (hnew r)
  · intro version hversion
    obtain ⟨t', ht', hfetches⟩ := h.exists_fetches version hversion
    exact ⟨t', List.mem_append_left _ ht', hfetches⟩

/-- A broadcast that is answered carries the answer. -/
lemma Recorded.carries_fetch (h : Recorded s trace) (hb : b ∈ s.broadcasts)
    (hstage : b.stage = .requested) (refused : Option (ℕ × String)) :
    Carries (trace ++ [⟨s, .fetch b.id refused, s'⟩]) b.id b.roundId
      (b.payload s.tables refused) := by
  constructor
  · intro t ht r hfetches
    rcases List.mem_append.mp ht with ht | ht
    · exact absurd hfetches.about (h.requested b hb hstage t ht)
    · obtain rfl := List.mem_singleton.mp ht
      obtain ⟨hcommand, b', hb', hid, rfl⟩ := hfetches
      obtain rfl := eq_of_key_eq h.ids hb' hb hid
      cases hcommand
      exact ⟨rfl, rfl⟩
  · intro version hversion
    match refused with
    | none =>
      exact ⟨_, List.mem_append_right _ (List.mem_singleton.mpr rfl), ⟨rfl, b, hb, rfl, rfl⟩,
        Option.some.inj hversion⟩
    | some (statusCode, detail) => cases hversion

/-- A transition about none is no fetch. -/
lemma not_fetches_of_about (hc : t.command.about = none) (id : ℕ) (roundId : String) :
    ¬ Fetches t id roundId := by
  intro hfetches
  cases hc.symm.trans hfetches.about

/-- What was sent before was fetched, also after another step. -/
lemma Recorded.sent_concat (h : Recorded s trace) (haccepted : s.accepted <+: s'.accepted)
    (hnew : ∀ id roundId, Fetches t id roundId → ∀ t' ∈ trace, t'.command.about ≠ some id)
    (hsends : ∀ id websocket payload, Sends t id websocket payload → ∃ roundId,
      (websocket, roundId) ∈ s'.accepted ∧ Carries (trace ++ [t]) id roundId payload) :
    ∀ t' ∈ trace ++ [t], ∀ id websocket payload, Sends t' id websocket payload →
      ∃ roundId, (websocket, roundId) ∈ s'.accepted ∧
        Carries (trace ++ [t]) id roundId payload := by
  intro t' ht' id websocket payload hsend
  rcases List.mem_append.mp ht' with ht' | ht'
  · obtain ⟨roundId, hround, hcarries⟩ := h.sent t' ht' id websocket payload hsend
    exact ⟨roundId, haccepted.subset hround,
      hcarries.concat fun r hfetches => hnew id r hfetches t' ht' hsend.about⟩
  · obtain rfl := List.mem_singleton.mp ht'
    exact hsends id websocket payload hsend

/-! ## The record -/

/-- A step that is not about a broadcast keeps the record of the others. -/
lemma Recorded.quiet (h : Recorded s trace) (hc : t.command.about = none)
    (hbroadcasts : s'.broadcasts.Sublist s.broadcasts) (hstarted : s'.started = s.started)
    (haccepted : s.accepted <+: s'.accepted)
    (hnodup : (s.accepted.map (·.1)).Nodup → (s'.accepted.map (·.1)).Nodup)
    (hconnections : ∀ c ∈ s'.connections, c ∈ s.connections ∨ (c.2, c.1) ∈ s'.accepted) :
    Recorded s' (trace ++ [t]) where
  ids := h.ids.sublist (hbroadcasts.map _)
  started b hb := hstarted ▸ h.started b (hbroadcasts.subset hb)
  accepted := hnodup h.accepted
  connections c hc := (hconnections c hc).elim (fun hc => haccepted.subset (h.connections c hc)) id
  targets b hb websocket hw := haccepted.subset (h.targets b (hbroadcasts.subset hb) websocket hw)
  past t' ht' id hid := by
    rcases List.mem_append.mp ht' with ht' | ht'
    · exact hstarted ▸ h.past t' ht' id hid
    · rw [List.mem_singleton.mp ht', hc] at hid
      cases hid
  requested b hb hstage t' ht' := by
    rcases List.mem_append.mp ht' with ht' | ht'
    · exact h.requested b (hbroadcasts.subset hb) hstage t' ht'
    · rw [List.mem_singleton.mp ht', hc]
      simp
  carried b hb payload hp :=
    (h.carried b (hbroadcasts.subset hb) payload hp).concat (not_fetches_of_about hc b.id)
  sent := h.sent_concat haccepted (fun id r hfetches =>
    absurd hfetches (not_fetches_of_about hc id r))
    fun id websocket payload hsends => by cases hc.symm.trans hsends.about

/-- A step that starts a broadcast keeps the record. -/
lemma Recorded.start (h : Recorded s trace) (hc : t.command.about = none)
    (hstage : b.stage = .requested)
    (hid : b.id ∉ s.started) (hbroadcasts : s'.broadcasts = s.broadcasts ++ [b])
    (hstarted : s'.started = s.started ++ [b.id]) (haccepted : s'.accepted = s.accepted)
    (hconnections : s'.connections = s.connections) : Recorded s' (trace ++ [t]) := by
  -- the new broadcast comes on top of a record that the step has kept
  have hquiet : Recorded { s' with broadcasts := s.broadcasts, started := s.started }
      (trace ++ [t]) :=
    h.quiet hc (List.Sublist.refl _) rfl (haccepted ▸ List.prefix_refl _)
      (fun hnodup => haccepted ▸ hnodup)
      fun c hc => Or.inl (hconnections ▸ hc)
  have hcases : ∀ {P : Broadcast → Prop}, (∀ b' ∈ s.broadcasts, P b') → P b →
      ∀ b' ∈ s'.broadcasts, P b' := by
    intro P hold hnew b' hb'
    rw [hbroadcasts] at hb'
    rcases List.mem_append.mp hb' with hb' | hb'
    · exact hold b' hb'
    · exact List.mem_singleton.mp hb' ▸ hnew
  refine ⟨?_, ?_, hquiet.accepted, hquiet.connections, ?_, ?_, ?_, ?_, hquiet.sent⟩
  · rw [hbroadcasts]
    exact nodup_map_concat_iff.mpr ⟨h.ids, fun b' hb' hk => hid (hk ▸ h.started b' hb')⟩
  · rw [hstarted]
    exact hcases (fun b' hb' => List.mem_append_left _ (h.started b' hb'))
      (List.mem_append_right _ (List.mem_singleton.mpr rfl))
  · exact hcases hquiet.targets (by simp [hstage, BroadcastStage.targets])
  · intro t' ht' id hid'
    rw [hstarted]
    exact List.mem_append_left _ (hquiet.past t' ht' id hid')
  · refine hcases hquiet.requested fun _ t' ht' habout => hid (hquiet.past t' ht' b.id habout)
  · exact hcases hquiet.carried (by simp [hstage, BroadcastStage.payload])

/-- A step of a broadcast is about it, or about none. -/
lemma StageStep.about (h : StageStep s b c stage) : ∀ id ∈ c.about, id = b.id := by
  intro id hid
  induction h with
  | fetch => exact (Option.some.inj hid).symm
  | carry hc => cases hc.symm.trans hid
  | send => exact (Option.some.inj hid).symm

/-- A broadcast that goes on has a payload. -/
lemma StageStep.ne_requested (h : StageStep s b c stage) : stage ≠ .requested := by
  induction h with
  | fetch => simp
  | carry _ _ h' =>
    rintro rfl
    cases h'
  | send => simp

/-- The payload of a broadcast that goes on is what it has fetched. -/
lemma StageStep.carries (h : StageStep s b c stage) (hs : Recorded s trace)
    (hb : b ∈ s.broadcasts) :
    ∀ payload ∈ stage.payload, Carries (trace ++ [⟨s, c, s'⟩]) b.id b.roundId payload := by
  intro payload hp
  induction h with
  | @fetch refused hrequested =>
    obtain rfl := Option.some.inj hp
    exact hs.carries_fetch hb hrequested refused
  | carry hc hpayload h' =>
    cases h'.symm.trans hp
    exact (hs.carried b hb payload hpayload).concat (not_fetches_of_about hc b.id)
  | send hlocated =>
    obtain rfl := Option.some.inj hp
    refine (hs.carried b hb _ (congrArg BroadcastStage.payload hlocated)).concat
      fun r hfetches => ?_
    cases hfetches.1

/-- The targets of a broadcast that goes on are websockets of its round. -/
lemma StageStep.targets (h : StageStep s b c stage) (hs : Recorded s trace)
    (hb : b ∈ s.broadcasts) :
    ∀ websocket ∈ stage.targets, (websocket, b.roundId) ∈ s.accepted := by
  intro websocket hw
  induction h with
  | fetch => cases hw
  | carry _ _ _ htargets =>
    rcases htargets websocket hw with hw | hconnected
    · exact hs.targets b hb websocket hw
    · exact hs.connections _ hconnected
  | send hlocated =>
    refine hs.targets b hb websocket ?_
    rw [hlocated]
    exact List.mem_cons_of_mem _ hw

/-- A broadcast that fetches has not fetched or sent before. -/
lemma StageStep.not_about_of_fetches (h : StageStep s b c stage) (hs : Recorded s trace)
    (hb : b ∈ s.broadcasts) (hfetches : Fetches ⟨s, c, s'⟩ id roundId) :
    ∀ t ∈ trace, t.command.about ≠ some id := by
  obtain rfl := h.about id hfetches.about
  induction h with
  | fetch hrequested => exact hs.requested b hb hrequested
  | carry hc => cases hc.symm.trans hfetches.about
  | send => cases hfetches.1

/-- What a broadcast sends is what it has fetched. -/
lemma StageStep.carries_of_sends (h : StageStep s b c stage) (hs : Recorded s trace)
    (hb : b ∈ s.broadcasts) (hsends : Sends ⟨s, c, s'⟩ id websocket payload) :
    (websocket, b.roundId) ∈ s.accepted ∧ Carries (trace ++ [⟨s, c, s'⟩]) id b.roundId payload := by
  obtain rfl := h.about id hsends.about
  obtain ⟨hcommand, b', hb', hid, targets, hlocated⟩ := hsends
  obtain rfl := eq_of_key_eq hs.ids hb' hb hid
  have hpayload : b'.stage.payload = some payload := by rw [hlocated]; rfl
  constructor
  · refine hs.targets b' hb websocket ?_
    rw [hlocated]
    exact List.mem_cons_self
  · refine (hs.carried b' hb payload hpayload).concat fun r hfetches => ?_
    cases hcommand.symm.trans hfetches.1

/-- A step that takes a broadcast on keeps the record. -/
lemma Recorded.proceed (h : Recorded s trace) (hb : b ∈ s.broadcasts)
    (hstage : StageStep s b c stage) (hbroadcasts : s'.broadcasts =
      updateFirst (·.id) b.id (fun b => { b with stage := stage }) s.broadcasts)
    (hstarted : s'.started = s.started) (haccepted : s'.accepted = s.accepted)
    (hconnections : ∀ c ∈ s'.connections, c ∈ s.connections) :
    Recorded s' (trace ++ [⟨s, c, s'⟩]) := by
  have hcases : ∀ {P : Broadcast → Prop}, (∀ b' ∈ s.broadcasts, b'.id ≠ b.id → P b') →
      P { b with stage := stage } → ∀ b' ∈ s'.broadcasts, P b' := by
    intro P hold hnew b' hb'
    rw [hbroadcasts] at hb'
    rcases (mem_updateFirst_iff h.ids).mp hb' with ⟨b₀, hb₀, hid, rfl⟩ | ⟨hb', hne⟩
    · exact eq_of_key_eq h.ids hb₀ hb hid ▸ hnew
    · exact hold b' hb' hne
  constructor
  · rw [hbroadcasts]
    exact nodup_map_updateFirst _ (fun _ => rfl) h.ids
  · rw [hstarted]
    exact hcases (fun b' hb' _ => h.started b' hb') (h.started b hb)
  · exact haccepted ▸ h.accepted
  · exact fun c hc => haccepted ▸ h.connections c (hconnections c hc)
  · rw [haccepted]
    exact hcases (fun b' hb' _ => h.targets b' hb') (hstage.targets h hb)
  · intro t ht id hid
    rw [hstarted]
    rcases List.mem_append.mp ht with ht | ht
    · exact h.past t ht id hid
    · rw [List.mem_singleton.mp ht] at hid
      exact hstage.about id hid ▸ h.started b hb
  · refine hcases (fun b' hb' hne hrequested t ht habout => ?_)
      fun hrequested => absurd hrequested hstage.ne_requested
    rcases List.mem_append.mp ht with ht | ht
    · exact h.requested b' hb' hrequested t ht habout
    · rw [List.mem_singleton.mp ht] at habout
      exact hne (hstage.about b'.id habout)
  · exact hcases (fun b' hb' hne payload hp => (h.carried b' hb' payload hp).concat
      fun r hfetches => hne (hstage.about b'.id hfetches.about)) (hstage.carries h hb)
  · refine h.sent_concat (haccepted ▸ List.prefix_refl _)
      (fun id r hfetches => hstage.not_about_of_fetches h hb hfetches)
        fun id websocket payload hsends => ?_
    exact ⟨b.roundId, haccepted ▸ hstage.carries_of_sends h hb hsends⟩

/-- Every step keeps the record. -/
theorem recorded_step (h : Recorded s trace) (hok : gatewayMachine.step s c = .ok s') :
    Recorded s' (trace ++ [⟨s, c, s'⟩]) := by
  induction gatewayStep_of_ok hok with
  | quiet hc hbroadcasts hstarted haccepted hnodup hconnections =>
    exact h.quiet hc hbroadcasts hstarted haccepted hnodup hconnections
  | start hc hstage hid hbroadcasts hstarted haccepted hconnections =>
    exact h.start hc hstage hid hbroadcasts hstarted haccepted hconnections
  | proceed hb hstage hbroadcasts hstarted haccepted hconnections =>
    exact h.proceed hb hstage hbroadcasts hstarted haccepted hconnections

/-- The record holds after every run. -/
theorem recorded_run (tables : String → TableState) (cs : List GatewayCommand) :
    Recorded (gatewayMachine.run (.initial tables) cs)
    (gatewayMachine.trace (.initial tables) cs) := by
  have hinitial : Recorded (.initial tables) [] := by
    constructor <;> simp [GatewaySystem.initial]
  have hrun := Machine.run_trace_invariant (fun _ _ _ _ h hok => recorded_step h hok) hinitial cs
  rwa [List.nil_append] at hrun

/-! ## What websockets receive -/

/-- What a step about none sends. -/
lemma sent_eq_none (hc : t.command.about = none) : sent t = none := by
  cases hcommand : t.command with
  | fetch | send => rw [hcommand] at hc; cases hc
  | _ => simp [sent, hcommand]

/-- A step delivers what it sends. -/
lemma received_step (hok : gatewayMachine.step s c = .ok s') :
    s'.received = s.received ++ (sent ⟨s, c, s'⟩).toList := by
  induction gatewayStep_of_ok hok with
  | quiet hc _ _ _ _ _ hreceived =>
    rw [sent_eq_none hc, Option.toList_none, List.append_nil, hreceived]
  | start hc _ _ _ _ _ _ hreceived =>
    rw [sent_eq_none hc, Option.toList_none, List.append_nil, hreceived]
  | proceed _ _ _ _ _ _ hreceived => exact hreceived

/-- The version of a round never goes down. -/
lemma stateVersion_step (roundId : String) (hok : gatewayMachine.step s c = .ok s') :
    (s.tables roundId).stateVersion ≤ (s'.tables roundId).stateVersion := by
  induction gatewayStep_of_ok hok with
  | quiet _ _ _ _ _ _ _ htables => exact htables roundId
  | start _ _ _ _ _ _ _ _ htables => rw [htables]
  | proceed _ _ _ _ _ _ _ htables => rw [htables]

/-- A fetch leaves the table states as they are. -/
lemma Fetches.tables_eq (h : Fetches t id roundId)
    (hok : gatewayMachine.step t.before t.command = .ok t.after) :
    t.after.tables = t.before.tables := by
  induction gatewayStep_of_ok hok with
  | quiet hc => exact absurd h (not_fetches_of_about hc id roundId)
  | start hc => exact absurd h (not_fetches_of_about hc id roundId)
  | proceed _ _ _ _ _ _ _ htables => exact htables

/-- What a websocket has received after a run. -/
lemma received_run (tables : String → TableState) (cs : List GatewayCommand) :
    (gatewayMachine.run (.initial tables) cs).received =
      (gatewayMachine.trace (.initial tables) cs).filterMap sent := by
  have hinitial : (GatewaySystem.initial tables).received =
      ([] : List GatewayTransition).filterMap sent := rfl
  have hrun := Machine.run_trace_invariant (M := gatewayMachine)
    (I := fun s ts => s.received = ts.filterMap sent) (fun s ts c s' h hok => ?_) hinitial cs
  · rwa [List.nil_append] at hrun
  · rw [received_step hok, h, List.filterMap_append]
    rfl

/-- A payload is sent exactly by a broadcast that has located the websocket. -/
lemma sent_eq_some_iff (hids : (t.before.broadcasts.map (·.id)).Nodup) :
    sent t = some (websocket, payload) ↔ ∃ id, Sends t id websocket payload := by
  constructor
  · intro h
    unfold sent at h
    split at h
    · next id hcommand =>
      obtain ⟨b, hb, h⟩ := Option.bind_eq_some_iff.mp h
      obtain ⟨hmem, hid⟩ := mem_of_find?_key hb
      split at h
      · next targets hstage =>
        cases h
        exact ⟨id, hcommand, b, hmem, hid, targets, hstage⟩
      · cases h
    · cases h
  · rintro ⟨id, hcommand, b, hb, hid, targets, hstage⟩
    have hfind : t.before.broadcastOf id = some b := (find?_key_eq_some_iff hids).mpr ⟨hb, hid⟩
    simp [sent, hcommand, hfind, hstage]

/-! ## The order of the snapshots -/

/-- The version that a transition of a run delivers to a websocket. -/
lemma bind_sent_eq_some_iff {tables : String → TableState} {cs : List GatewayCommand}
    (ht : t ∈ gatewayMachine.trace (.initial tables) cs) {version : Int} :
    ((sent t).bind fun p => if p.1 = websocket then p.2.version else none) = some version ↔
      ∃ payload, (∃ id, Sends t id websocket payload) ∧ payload.version = some version := by
  obtain ⟨pre, _, -, hbefore, -⟩ := Machine.exists_of_mem_trace ht
  have hids : (t.before.broadcasts.map (·.id)).Nodup := hbefore ▸ (recorded_run tables pre).ids
  rw [Option.bind_eq_some_iff]
  constructor
  · rintro ⟨⟨w, payload⟩, hsent, hversion⟩
    obtain ⟨rfl, hpayload⟩ := Option.ite_none_right_eq_some.mp hversion
    exact ⟨payload, (sent_eq_some_iff hids).mp hsent, hpayload⟩
  · rintro ⟨payload, hsends, hversion⟩
    exact ⟨(websocket, payload), (sent_eq_some_iff hids).mpr hsends, by rwa [if_pos rfl]⟩

/-- What a websocket receives is in order exactly when that is so for every two sends to it. -/
lemma pairwise_versionsOf_iff (tables : String → TableState) (cs : List GatewayCommand)
    (websocket : ℕ) :
    ((gatewayMachine.run (.initial tables) cs).versionsOf websocket).Pairwise (· ≤ ·) ↔
      ∀ t t', List.Sublist [t, t'] (gatewayMachine.trace (.initial tables) cs) →
        ∀ payload payload' version version', (∃ id, Sends t id websocket payload) →
          (∃ id, Sends t' id websocket payload') → payload.version = some version →
            payload'.version = some version' → version ≤ version' := by
  unfold GatewaySystem.versionsOf
  rw [received_run, List.filterMap_filterMap, List.pairwise_filterMap,
    List.pairwise_iff_forall_sublist]
  constructor
  · intro h t t' hsub payload payload' version version' hsends hsends' hversion hversion'
    exact h hsub version
      ((bind_sent_eq_some_iff (hsub.subset (by simp))).mpr ⟨payload, hsends, hversion⟩)
      version' ((bind_sent_eq_some_iff (hsub.subset (by simp))).mpr ⟨payload', hsends', hversion'⟩)
  · intro h t t' hsub version hsent version' hsent'
    obtain ⟨payload, hsends, hversion⟩ := (bind_sent_eq_some_iff (hsub.subset (by simp))).mp hsent
    obtain ⟨payload', hsends', hversion'⟩ :=
      (bind_sent_eq_some_iff (hsub.subset (by simp))).mp hsent'
    exact h t t' hsub payload payload' version version' hsends hsends' hversion hversion'

/-- The versions that a websocket receives never decrease exactly when no broadcast is overtaken. -/
theorem snapshots_in_order_iff (tables : String → TableState) (cs : List GatewayCommand) :
    (∀ websocket,
      ((gatewayMachine.run (.initial tables) cs).versionsOf websocket).Pairwise (· ≤ ·)) ↔
      ¬ SnapshotOvertaken (gatewayMachine.trace (.initial tables) cs) := by
  have hrecord := recorded_run tables cs
  set trace := gatewayMachine.trace (.initial tables) cs with htrace
  have hmono : ∀ roundId s c s', gatewayMachine.step s c = .ok s' →
      (s.tables roundId).stateVersion ≤ (s'.tables roundId).stateVersion :=
    fun roundId _ _ _ hok => stateVersion_step roundId hok
  have hstep : ∀ t ∈ trace, gatewayMachine.step t.before t.command = .ok t.after := by
    intro t ht
    obtain ⟨_, _, -, -, hok⟩ := Machine.exists_of_mem_trace ht
    exact hok
  simp only [pairwise_versionsOf_iff]
  constructor
  · rintro hsorted ⟨roundId, id, id', websocket, ⟨t, u, t', hsub, hfetch, hraise, hfetch'⟩,
      v', v, hsub', ⟨payload', hsend'⟩, payload, hsend⟩
    obtain ⟨r, -, hcarries⟩ := hrecord.sent v (hsub'.subset (by simp)) id websocket payload hsend
    obtain ⟨r', -, hcarries'⟩ :=
      hrecord.sent v' (hsub'.subset (by simp)) id' websocket payload' hsend'
    obtain ⟨rfl, hversion⟩ := hcarries.of_fetches t (hsub.subset (by simp)) roundId hfetch
    obtain ⟨rfl, hversion'⟩ := hcarries'.of_fetches t' (hsub.subset (by simp)) roundId hfetch'
    have hle := hsorted websocket v' v hsub' payload' payload _ _ ⟨id', hsend'⟩
      ⟨id, hsend⟩ hversion'
      hversion
    -- but the version has gone up between the two fetches
    have h₁ := hmono roundId _ _ _ (hstep t (hsub.subset (by simp)))
    have h₂ := Machine.measure_le_of_sublist_trace (hmono roundId)
      ((List.Sublist.cons_cons t (List.Sublist.cons_cons u (List.nil_sublist [t']))).trans hsub)
    have h₃ := Machine.measure_le_of_sublist_trace (hmono roundId)
      ((List.sublist_cons_self t _).trans hsub)
    have hlt : (u.before.tables roundId).stateVersion <
      (u.after.tables roundId).stateVersion := hraise
    omega
  · intro hnone websocket v' v hsub payload' payload version' version ⟨id', hsend'⟩ ⟨id, hsend⟩
      hversion' hversion
    by_contra hlt
    obtain ⟨r, hround, hcarries⟩ :=
      hrecord.sent v (hsub.subset (by simp)) id websocket payload hsend
    obtain ⟨r', hround', hcarries'⟩ :=
      hrecord.sent v' (hsub.subset (by simp)) id' websocket payload' hsend'
    have hsame : (websocket, r) = (websocket, r') :=
      eq_of_key_eq hrecord.accepted hround hround' rfl
    cases hsame
    obtain ⟨t, ht, hfetch, rfl⟩ := hcarries.exists_fetches version hversion
    obtain ⟨t', ht', hfetch', rfl⟩ := hcarries'.exists_fetches version' hversion'
    have hne : t ≠ t' := fun h => hlt (h ▸ le_rfl)
    rcases Machine.sublist_trace_or ht ht' hne with hsub' | hsub'
    · have hafter : (t.after.tables r).stateVersion < (t'.before.tables r).stateVersion := by
        rw [hfetch.tables_eq (hstep t ht)]
        exact not_le.mp hlt
      obtain ⟨u, hu, hraise⟩ :=
        Machine.exists_raise_between (g := fun s => (s.tables r).stateVersion)
        hsub' hafter
      exact hnone ⟨r, id, id', websocket, ⟨t, u, t', hu, hfetch, hraise, hfetch'⟩,
        v', v, hsub, ⟨payload', hsend'⟩, payload, hsend⟩
    · have hle := Machine.measure_le_of_sublist_trace (hmono r) hsub'
      have hafter := hmono r _ _ _ (hstep t' ht')
      exact hlt (hafter.trans hle)

/-- Two events of a round are handled at the same time.  The first one fetches version 1, the second
one version 2 after a bet, and the second one sends first. -/
def overtakenSchedule : List GatewayCommand :=
  [.connect 0 "round", .handleEvent 1 ⟨some "bet.placed", some ⟨some "round"⟩⟩, .fetch 1 none,
    .write "round" ⟨2, ""⟩, .handleEvent 2 ⟨some "bet.placed", some ⟨some "round"⟩⟩, .fetch 2 none,
    .listTargets 2, .locate 2, .send 2 true, .listTargets 1, .locate 1, .send 1 true]

/-- The websocket receives version 2 and then version 1. -/
theorem snapshot_overtaken :
    (gatewayMachine.run (.initial fun _ => ⟨1, ""⟩) overtakenSchedule).versionsOf 0 = [2, 1] ∧
    ¬ ∀ (tables : String → TableState) (cs : List GatewayCommand) (websocket : ℕ),
      ((gatewayMachine.run (.initial tables) cs).versionsOf websocket).Pairwise (· ≤ ·) := by
  have hrun :
      (gatewayMachine.run (.initial fun _ => ⟨1, ""⟩) overtakenSchedule).versionsOf 0 = [2, 1] := by
    decide
  refine ⟨hrun, fun h => ?_⟩
  have hsorted := h (fun _ => ⟨1, ""⟩) overtakenSchedule 0
  rw [hrun] at hsorted
  simp at hsorted

end PokerRoom
