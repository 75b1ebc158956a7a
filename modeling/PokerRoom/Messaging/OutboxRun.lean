import PokerRoom.Messaging.Outbox

/-!
# Nothing in the outbox is lost or forged

Over all runs of services and workers on one outbox, rollbacks included: a row is sent only if its
message was accepted, it is failed only after the last attempt, and then no worker touches it again
(`outbox_reliable`).  The invariant is `OutboxSound`.  Its core is that the locks of the open
transactions are disjoint: what a transaction has written or will write is a pending row that nobody
else holds.
-/

namespace PokerRoom

open Foundation

/-! ## Definitions -/

/-- How often the broker has accepted the message of a row. -/
def OutboxSystem.acceptances (s : OutboxSystem) (id : Int) : ℕ :=
  s.published.countP fun p => p.rowId = id ∧ p.accepted

/-- How many publishes of a row have failed. -/
def OutboxSystem.failures (s : OutboxSystem) (id : Int) : ℕ :=
  s.published.countP fun p => p.rowId = id ∧ ¬ p.accepted

/-- The publishes of a row. -/
def OutboxSystem.publicationsOf (s : OutboxSystem) (id : Int) : List Publication :=
  s.published.filter fun p => p.rowId = id

/-- The status and the attempts of a row agree with what was published. -/
structure RowSound (maxAttempts : ℕ) (s : OutboxSystem) (ev : OutboxEvent) : Prop where
  /-- Every attempt is a publish that failed. -/
  attempts_le : ev.attempts ≤ s.failures ev.id
  /-- A pending row has attempts left. -/
  pending : ev.status = .pending → ev.attempts < maxAttempts
  /-- A sent row was accepted, before its attempts ran out. -/
  sent : ev.status = .sent → ev.attempts < maxAttempts ∧ 0 < s.acceptances ev.id
  /-- A failed row has no attempts left. -/
  failed : ev.status = .failed → ev.attempts = maxAttempts

/-- A mark agrees with what was published. -/
def MarkSound (s : OutboxSystem) (ev : OutboxEvent) : Mark → Prop
  | .sent _ => 0 < s.acceptances ev.id
  | .failure attempts _ => attempts = ev.attempts + 1 ∧ attempts ≤ s.failures ev.id

/-- An open transaction holds pending rows, and what it has written agrees with what was
published. -/
structure BatchSound (s : OutboxSystem) (b : Batch) : Prop where
  /-- The rows to come are pending. -/
  rest : ∀ ev ∈ b.rest, ev ∈ s.rows ∧ ev.status = .pending
  /-- The rows written are pending outside of the transaction. -/
  written : ∀ p ∈ b.written, ∃ ev ∈ s.rows, ev.id = p.1 ∧ ev.status = .pending ∧ MarkSound s ev p.2

/-- What holds of the outbox in all runs. -/
structure OutboxSound (maxAttempts : ℕ) (s : OutboxSystem) : Prop where
  /-- Rows have numbers of their own. -/
  ids : (s.rows.map (·.id)).Nodup
  /-- A worker has one open transaction. -/
  workers : (s.batches.map (·.worker)).Nodup
  /-- A row is locked once. -/
  locks : s.locked.Nodup
  /-- Rows agree with what was published. -/
  rows : ∀ ev ∈ s.rows, RowSound maxAttempts s ev
  /-- So do open transactions. -/
  batches : ∀ b ∈ s.batches, BatchSound s b
  /-- Only messages of committed rows are published. -/
  published : ∀ p ∈ s.published, ∃ ev ∈ s.rows, ev.id = p.rowId ∧ ev.message = p.message

/-- The rows of the outbox are neither lost nor forged. -/
structure OutboxReliable (maxAttempts : ℕ) (cs : List OutboxCommand) (s : OutboxSystem) : Prop where
  /-- The message of a sent row was accepted. -/
  sent : ∀ ev ∈ s.rows, ev.status = .sent →
    ∃ p ∈ s.published, p.rowId = ev.id ∧ p.message = ev.message ∧ p.accepted
  /-- The publishes of a failed row have failed as often as allowed. -/
  failed : ∀ ev ∈ s.rows, ev.status = .failed → maxAttempts ≤ s.failures ev.id
  /-- The attempts are bounded. -/
  attempts_le : ∀ ev ∈ s.rows, ev.attempts ≤ maxAttempts
  /-- Rows are kept with their messages, whatever comes next. -/
  kept : ∀ ev ∈ s.rows, ∀ cs', ∃ ev' ∈ ((outboxMachine maxAttempts).run s cs').rows,
    ev'.id = ev.id ∧ ev'.message = ev.message
  /-- Sent and failed rows are not claimed, published or written again. -/
  settled : ∀ ev ∈ s.rows, ev.status ≠ .pending → ∀ cs',
    ev ∈ ((outboxMachine maxAttempts).run s cs').rows ∧
      ev.id ∉ ((outboxMachine maxAttempts).run s cs').locked ∧
      ((outboxMachine maxAttempts).run s cs').publicationsOf ev.id = s.publicationsOf ev.id
  /-- Only messages of rows are published. -/
  notForged : ∀ p ∈ s.published, ∃ ev ∈ s.rows, ev.id = p.rowId ∧ ev.message = p.message
  /-- Without rollbacks a message is accepted at most once. -/
  acceptedOnce : (∀ c ∈ cs, ∀ worker, c ≠ .rollback worker) →
    ∀ ev ∈ s.rows, s.acceptances ev.id ≤ 1

/-- A message that was accepted is that of a sent row, or of one that an open transaction marks
so. -/
def AcceptedOnce (s : OutboxSystem) : Prop :=
  ∀ id, s.acceptances id ≤ 1 ∧ (0 < s.acceptances id →
    (∃ ev ∈ s.rows, ev.id = id ∧ ev.status = .sent) ∨
      ∃ b ∈ s.batches, ∃ publishedAt, (id, .sent publishedAt) ∈ b.written)

variable {maxAttempts : ℕ} {s s' : OutboxSystem} {c : OutboxCommand} {ev : OutboxEvent} {b : Batch}

/-! ## Steps -/

/-- The accepted steps. -/
inductive OutboxStep (maxAttempts : ℕ) (s : OutboxSystem) : OutboxCommand → OutboxSystem → Prop
  /-- A new row. -/
  | addEvent {event id} (h : ∀ ev ∈ s.rows, ev.id ≠ id) :
    OutboxStep maxAttempts s (.addEvent event id)
      { s with rows := s.rows ++ [addOutboxEvent event id] }
  /-- A new transaction. -/
  | claim {worker batchSize} (h : ∀ b ∈ s.batches, b.worker ≠ worker) :
    OutboxStep maxAttempts s (.claim worker batchSize)
      { s with batches := s.batches ++ [⟨worker, [], s.claimBatch batchSize⟩] }
  /-- The first of the rows to come is published and marked. -/
  | publish {worker outcome now b ev rest} (hb : s.batchOf worker = some b)
    (hrest : b.rest = ev :: rest) :
    OutboxStep maxAttempts s (.publish worker outcome now)
      { s with
        batches := updateFirst (·.worker) worker
          (fun b => { b with written := b.written ++ [(ev.id, ev.mark now outcome)], rest := rest })
          s.batches
        published := s.published ++ [⟨ev.id, ev.message, outcome.isOk⟩] }
  /-- The marks are stored. -/
  | commit {worker b} (hb : s.batchOf worker = some b) :
    OutboxStep maxAttempts s (.commit worker)
      { s with rows := b.commitTo maxAttempts s.rows, batches := s.closed worker }
  /-- The marks are dropped. -/
  | rollback {worker} : OutboxStep maxAttempts s (.rollback worker)
    { s with batches := s.closed worker }

/-- An accepted step is one of these. -/
lemma outboxStep_of_ok (h : (outboxMachine maxAttempts).step s c = .ok s') :
    OutboxStep maxAttempts s c s' := by
  cases c with
  | addEvent event id =>
    obtain ⟨⟨⟩, hnew, hs⟩ := bind_eq_ok_iff.mp h
    cases hs
    exact .addEvent (require_eq_ok_iff.mp hnew).1
  | claim worker batchSize =>
    obtain ⟨⟨⟩, hnew, hs⟩ := bind_eq_ok_iff.mp h
    cases hs
    exact .claim (require_eq_ok_iff.mp hnew)
  | publish worker outcome now =>
    obtain ⟨b, hb, hs⟩ := bind_eq_ok_iff.mp h
    cases hrest : b.rest with
    | nil => simp [hrest] at hs
    | cons ev rest =>
      rw [hrest] at hs
      cases hs
      exact .publish (found_eq_ok_iff.mp hb) hrest
  | commit worker =>
    obtain ⟨b, hb, hs⟩ := bind_eq_ok_iff.mp h
    obtain ⟨⟨⟩, hrest, hs⟩ := bind_eq_ok_iff.mp hs
    cases hs
    exact .commit (found_eq_ok_iff.mp hb)
  | rollback worker =>
    obtain ⟨b, hb, hs⟩ := bind_eq_ok_iff.mp h
    cases hs
    exact .rollback

/-! ## Rows and marks -/

/-- A mark keeps the number of its row. -/
@[simp] lemma Mark.write_id (m : Mark) : (m.write maxAttempts ev).id = ev.id := by
  cases m <;> rfl

/-- A mark keeps the message of its row. -/
@[simp] lemma Mark.write_message (m : Mark) : (m.write maxAttempts ev).message = ev.message := by
  cases m <;> rfl

/-- A batch is found under its worker. -/
lemma mem_of_batchOf {worker : ℕ} (hb : s.batchOf worker = some b) :
    b ∈ s.batches ∧ b.worker = worker :=
  mem_of_find?_key hb

/-- The transactions that stay open when one is closed. -/
lemma mem_closed_iff {worker : ℕ} : b ∈ s.closed worker ↔ b ∈ s.batches ∧ b.worker ≠ worker := by
  simp [OutboxSystem.closed, List.mem_filter]

/-- The numbers of the rows written and to come are locked. -/
lemma Batch.mem_locked_iff {id : Int} :
    id ∈ b.locked ↔ (∃ p ∈ b.written, p.1 = id) ∨ ∃ ev ∈ b.rest, ev.id = id := by
  simp [Batch.locked, List.mem_map]

/-- A claimed row is pending, and nobody has locked it. -/
lemma mem_claimBatch {batchSize : ℕ} (h : ev ∈ s.claimBatch batchSize) :
    ev ∈ s.rows ∧ ev.status = .pending ∧ ev.id ∉ s.locked := by
  have hmem := mem_bySeat.mp (List.mem_of_mem_take h)
  simpa using List.mem_filter.mp hmem

/-- The row of a number that is committed is untouched by the marks of other rows, and marked by its
own. -/
lemma mem_commitTo (hids : (s.rows.map (·.id)).Nodup) (hwritten : (b.written.map (·.1)).Nodup) :
    ev ∈ b.commitTo maxAttempts s.rows ↔
      (ev ∈ s.rows ∧ ∀ p ∈ b.written, p.1 ≠ ev.id) ∨
        ∃ ev₀ ∈ s.rows, ∃ m, (ev₀.id, m) ∈ b.written ∧ ev = m.write maxAttempts ev₀ := by
  have hmap : b.commitTo maxAttempts s.rows = s.rows.map fun ev₀ =>
      ((b.written.find? fun p => p.1 = ev₀.id).map fun p => p.2.write maxAttempts ev₀).getD ev₀ :=
    foldl_updateFirst_eq_map (fun p ev₀ => p.2.write_id) hids hwritten
  rw [hmap, List.mem_map]
  constructor
  · rintro ⟨ev₀, hev₀, rfl⟩
    cases hfind : b.written.find? fun p => p.1 = ev₀.id with
    | none => exact Or.inl ⟨hev₀, find?_key_eq_none_iff.mp hfind⟩
    | some p =>
      obtain ⟨hp, hid⟩ := mem_of_find?_key hfind
      exact Or.inr ⟨ev₀, hev₀, p.2, hid ▸ hp, rfl⟩
  · rintro (⟨hev, hnone⟩ | ⟨ev₀, hev₀, m, hm, rfl⟩)
    · refine ⟨ev, hev, ?_⟩
      rw [find?_key_eq_none_iff.mpr hnone]
      rfl
    · refine ⟨ev₀, hev₀, ?_⟩
      rw [(find?_key_eq_some_iff hwritten).mpr ⟨hm, rfl⟩]
      rfl

/-- Marks keep the numbers of the rows. -/
lemma Batch.map_id_commitTo (rows : List OutboxEvent) :
    (b.commitTo maxAttempts rows).map (·.id) = rows.map (·.id) := by
  unfold Batch.commitTo
  induction b.written generalizing rows with
  | nil => rfl
  | cons p written ih =>
    rw [List.foldl_cons, ih]
    exact map_updateFirst_of_eq _ fun ev => p.2.write_id

/-! ## What was published -/

/-- Publishes are only added. -/
lemma OutboxStep.published_prefix (h : OutboxStep maxAttempts s c s') :
    s.published <+: s'.published := by
  induction h with
  | publish => exact List.prefix_append _ _
  | _ => exact List.prefix_refl _

/-- Acceptances are only added. -/
lemma acceptances_le (h : s.published <+: s'.published) (id : Int) :
    s.acceptances id ≤ s'.acceptances id :=
  h.sublist.countP_le

/-- Failures are only added. -/
lemma failures_le (h : s.published <+: s'.published) (id : Int) : s.failures id ≤ s'.failures id :=
  h.sublist.countP_le

/-- A row that agrees with what was published agrees with it later. -/
lemma RowSound.mono (h : RowSound maxAttempts s ev) (hpub : s.published <+: s'.published) :
    RowSound maxAttempts s' ev where
  attempts_le := h.attempts_le.trans (failures_le hpub ev.id)
  pending := h.pending
  sent hs := ⟨(h.sent hs).1, (h.sent hs).2.trans_le (acceptances_le hpub ev.id)⟩
  failed := h.failed

/-- A mark that agrees with what was published agrees with it later. -/
lemma MarkSound.mono {m : Mark} (h : MarkSound s ev m) (hpub : s.published <+: s'.published) :
    MarkSound s' ev m := by
  induction m with
  | sent publishedAt => exact h.trans_le (acceptances_le hpub ev.id)
  | failure attempts err => exact ⟨h.1, h.2.trans (failures_le hpub ev.id)⟩

/-- A transaction that is sound stays so while the rows it has locked stay as they are. -/
lemma BatchSound.mono (h : BatchSound s b) (hpub : s.published <+: s'.published)
    (hrows : ∀ ev ∈ s.rows, ev.id ∈ b.locked → ev ∈ s'.rows) : BatchSound s' b := by
  constructor
  · intro ev hev
    obtain ⟨hmem, hpending⟩ := h.rest ev hev
    exact ⟨hrows ev hmem (Batch.mem_locked_iff.mpr (Or.inr ⟨ev, hev, rfl⟩)), hpending⟩
  · intro p hp
    obtain ⟨ev, hev, hid, hpending, hmark⟩ := h.written p hp
    have hlocked : ev.id ∈ b.locked := Batch.mem_locked_iff.mpr (Or.inl ⟨p, hp, hid.symm⟩)
    exact ⟨ev, hrows ev hev hlocked, hid, hpending, hmark.mono hpub⟩

/-- A sound row stays sound when a sound mark is stored. -/
lemma RowSound.write (h : RowSound maxAttempts s ev) (hpending : ev.status = .pending) {m : Mark}
    (hm : MarkSound s ev m) : RowSound maxAttempts s (m.write maxAttempts ev) := by
  have hlt : ev.attempts < maxAttempts := h.pending hpending
  induction m with
  | sent publishedAt =>
    constructor
    · exact h.attempts_le
    · intro hs
      simp [Mark.write, markSent] at hs
    · exact fun _ => ⟨hlt, hm⟩
    · intro hs
      simp [Mark.write, markSent] at hs
  | failure attempts err =>
    obtain ⟨rfl, hle⟩ := hm
    -- the attempt is the last one or not
    constructor
    · exact hle
    · intro hs
      simpa [Mark.write, markFailure] using hs
    · intro hs
      by_cases hge : maxAttempts ≤ ev.attempts + 1 <;> simp [Mark.write, markFailure, hge] at hs
    · intro hs
      have hge : maxAttempts ≤ ev.attempts + 1 := by
        simpa [Mark.write, markFailure] using hs
      exact le_antisymm hlt hge

/-- The mark after a publish agrees with it. -/
lemma markSound_mark {outcome : Except String Unit} {now : Int} (h : RowSound maxAttempts s ev)
    (hpub : s'.published = s.published ++ [⟨ev.id, ev.message, outcome.isOk⟩]) :
    MarkSound s' ev (ev.mark now outcome) := by
  match outcome with
  | .ok () => simp [OutboxEvent.mark, MarkSound, OutboxSystem.acceptances, hpub, Except.isOk,
    Except.toBool]
  | .error err =>
    have hle := h.attempts_le
    simp only [OutboxSystem.failures] at hle
    simpa [OutboxEvent.mark, MarkSound, OutboxSystem.failures, hpub, Except.isOk,
      Except.toBool] using hle

/-! ## Locks -/

/-- What a transaction locks is locked. -/
lemma mem_locked {id : Int} (hb : b ∈ s.batches) (hid : id ∈ b.locked) : id ∈ s.locked :=
  List.mem_flatMap.mpr ⟨b, hb, hid⟩

/-- A transaction locks a row once. -/
lemma OutboxSound.nodup_locked (h : OutboxSound maxAttempts s) (hb : b ∈ s.batches) :
    b.locked.Nodup :=
  (List.nodup_flatMap.mp h.locks).1 b hb

/-- Two transactions that lock the same row are the same. -/
lemma OutboxSound.eq_of_mem_locked (h : OutboxSound maxAttempts s) {b' : Batch} (hb : b ∈ s.batches)
    (hb' : b' ∈ s.batches) {id : Int} (hid : id ∈ b.locked) (hid' : id ∈ b'.locked) : b = b' := by
  by_contra hne
  have hdisjoint := (List.nodup_flatMap.mp h.locks).2
  have : Std.Symm (Function.onFun List.Disjoint Batch.locked) := ⟨fun _ _ hd => hd.symm⟩
  exact hdisjoint.forall hb hb' hne hid hid'

/-- What is written and what is still to come are different rows. -/
lemma OutboxSound.ne_of_written (h : OutboxSound maxAttempts s) {b' : Batch} (hb : b ∈ s.batches)
    (hb' : b' ∈ s.batches) {p : Int × Mark} (hp : p ∈ b'.written) (hev : ev ∈ b.rest) :
    p.1 ≠ ev.id := by
  intro hid
  have hlocked : ev.id ∈ b.locked := Batch.mem_locked_iff.mpr (Or.inr ⟨ev, hev, rfl⟩)
  obtain rfl := h.eq_of_mem_locked hb hb' hlocked (Batch.mem_locked_iff.mpr (Or.inl ⟨p, hp, hid⟩))
  have hnodup := (List.nodup_append.mp (h.nodup_locked hb)).2.2
  exact hnodup p.1 (List.mem_map_of_mem hp) ev.id (List.mem_map_of_mem hev) hid

/-- The rows written by a transaction are distinct. -/
lemma OutboxSound.nodup_written (h : OutboxSound maxAttempts s) (hb : b ∈ s.batches) :
    (b.written.map (·.1)).Nodup :=
  (List.nodup_append.mp (h.nodup_locked hb)).1

/-- A locked row is pending. -/
lemma OutboxSound.pending_of_locked (h : OutboxSound maxAttempts s) (hev : ev ∈ s.rows)
    (hlocked : ev.id ∈ s.locked) : ev.status = .pending := by
  obtain ⟨b, hb, hid⟩ := List.mem_flatMap.mp hlocked
  rcases Batch.mem_locked_iff.mp hid with ⟨p, hp, hk⟩ | ⟨ev', hev', hk⟩
  · obtain ⟨ev', hmem, hid', hpending, -⟩ := (h.batches b hb).written p hp
    rwa [eq_of_key_eq h.ids hev hmem (hk.symm.trans hid'.symm)]
  · obtain ⟨hmem, hpending⟩ := (h.batches b hb).rest ev' hev'
    rwa [eq_of_key_eq h.ids hev hmem hk.symm]

/-- Closing a transaction drops its locks. -/
lemma nodup_locked_closed (h : OutboxSound maxAttempts s) (worker : ℕ) :
    ((s.closed worker).flatMap (·.locked)).Nodup :=
  h.locks.sublist (List.filter_sublist.flatMap _)

/-- Publishing a row leaves the locks as they are. -/
lemma locked_publish (h : OutboxSound maxAttempts s) {worker : ℕ}
    {rest : List OutboxEvent} {m : Mark}
    (hb : s.batchOf worker = some b) (hrest : b.rest = ev :: rest) :
    (updateFirst (·.worker) worker
      (fun b => { b with written := b.written ++ [(ev.id, m)], rest := rest }) s.batches).flatMap
        (·.locked) = s.locked := by
  obtain ⟨hmem, hworker⟩ := mem_of_batchOf hb
  rw [updateFirst_eq_map h.workers, List.flatMap_map]
  apply List.flatMap_congr
  intro a ha
  by_cases hk : a.worker = worker
  · obtain rfl := eq_of_key_eq h.workers ha hmem (hk.trans hworker.symm)
    simp [hk, Batch.locked, hrest]
  · rw [if_neg hk]

/-- A claimed batch locks rows that were not locked, each one once. -/
lemma nodup_locked_claim (h : OutboxSound maxAttempts s) (worker batchSize : ℕ) :
    ((s.batches ++ [(⟨worker, [], s.claimBatch batchSize⟩ : Batch)]).flatMap
      Batch.locked).Nodup := by
  have hclaim : ((s.claimBatch batchSize).map (·.id)).Nodup := by
    have hfilter := h.ids.sublist (List.Sublist.map OutboxEvent.id
      (List.filter_sublist (p := fun ev => ev.status = .pending ∧ ev.id ∉ s.locked)))
    exact ((bySeat_perm.map _).nodup_iff.mpr hfilter).sublist ((List.take_sublist _ _).map _)
  rw [List.flatMap_append, List.flatMap_singleton]
  refine List.nodup_append.mpr ⟨h.locks, by simpa [Batch.locked] using hclaim, ?_⟩
  rintro id hid id' hid' rfl
  obtain ⟨ev, hev, rfl⟩ : ∃ ev ∈ s.claimBatch batchSize, ev.id = id := by
    simpa [Batch.locked] using hid'
  exact (mem_claimBatch hev).2.2 hid

/-! ## The invariant -/

/-- A row keeps its number and its message, and once it is sent or failed it is not written
again. -/
lemma OutboxStep.kept (hstep : OutboxStep maxAttempts s c s') (h : OutboxSound maxAttempts s)
    (hev : ev ∈ s.rows) :
    ∃ ev' ∈ s'.rows, ev'.id = ev.id ∧ ev'.message = ev.message ∧
      (ev.status ≠ .pending → ev' = ev) := by
  induction hstep with
  | addEvent => exact ⟨ev, List.mem_append_left _ hev, rfl, rfl, fun _ => rfl⟩
  | @commit worker b hb =>
    have hmem : b ∈ s.batches := (mem_of_batchOf hb).1
    have hcommit : ∀ {ev' : OutboxEvent}, ev' ∈ b.commitTo maxAttempts s.rows ↔ _ :=
      mem_commitTo h.ids (h.nodup_written hmem)
    by_cases hwritten : ∃ p ∈ b.written, p.1 = ev.id
    · obtain ⟨⟨id, m⟩, hp, rfl⟩ := hwritten
      refine ⟨_, hcommit.mpr (Or.inr ⟨ev, hev, m, hp, rfl⟩), m.write_id, m.write_message,
        fun hne => ?_⟩
      have hlocked : ev.id ∈ b.locked := Batch.mem_locked_iff.mpr (Or.inl ⟨_, hp, rfl⟩)
      exact absurd (h.pending_of_locked hev (mem_locked hmem hlocked)) hne
    · push Not at hwritten
      exact ⟨ev, hcommit.mpr (Or.inl ⟨hev, hwritten⟩), rfl, rfl, fun _ => rfl⟩
  | _ => exact ⟨ev, hev, rfl, rfl, fun _ => rfl⟩

/-- A message that is published is that of a row. -/
lemma OutboxStep.published_row (hstep : OutboxStep maxAttempts s c s')
    (h : OutboxSound maxAttempts s) :
    ∀ p ∈ s'.published, ∃ ev ∈ s'.rows, ev.id = p.rowId ∧ ev.message = p.message := by
  have hold : ∀ p ∈ s.published, ∃ ev ∈ s'.rows, ev.id = p.rowId ∧ ev.message = p.message := by
    intro p hp
    obtain ⟨ev, hev, hid, hmessage⟩ := h.published p hp
    obtain ⟨ev', hev', hid', hmessage', -⟩ := hstep.kept h hev
    exact ⟨ev', hev', hid'.trans hid, hmessage'.trans hmessage⟩
  induction hstep with
  | @publish worker outcome now b ev rest hb hrest =>
    intro p hp
    rcases List.mem_append.mp hp with hp | hp
    · exact hold p hp
    · obtain rfl := List.mem_singleton.mp hp
      have hev := (h.batches b (mem_of_batchOf hb).1).rest ev (hrest ▸ List.mem_cons_self)
      exact ⟨ev, hev.1, rfl, rfl⟩
  | _ => exact hold

/-- A new row agrees with what was published. -/
lemma rowSound_addOutboxEvent (hmax : 1 ≤ maxAttempts) (event : DomainEvent) (id : Int) :
    RowSound maxAttempts s (addOutboxEvent event id) := by
  constructor
  · exact Nat.zero_le _
  · exact fun _ => hmax
  · intro hs
    simp [addOutboxEvent] at hs
  · intro hs
    simp [addOutboxEvent] at hs

/-- The transaction after a publish. -/
lemma batchSound_publish {outcome : Except String Unit} {now : Int} {rest : List OutboxEvent}
    (h : OutboxSound maxAttempts s) (hb : b ∈ s.batches) (hrest : b.rest = ev :: rest)
    (hrows : s'.rows = s.rows)
    (hpub : s'.published = s.published ++ [⟨ev.id, ev.message, outcome.isOk⟩]) :
    BatchSound s'
      { b with written := b.written ++ [(ev.id, ev.mark now outcome)], rest := rest } := by
  have hprefix : s.published <+: s'.published := hpub ▸ List.prefix_append _ _
  have hsound : BatchSound s' b := (h.batches b hb).mono hprefix fun ev hev _ => hrows ▸ hev
  obtain ⟨hev, hpending⟩ := (h.batches b hb).rest ev (hrest ▸ List.mem_cons_self)
  constructor
  · intro ev' hev'
    exact hsound.rest ev' (hrest ▸ List.mem_cons_of_mem ev hev')
  · intro p hp
    rcases List.mem_append.mp hp with hp | hp
    · exact hsound.written p hp
    · obtain rfl := List.mem_singleton.mp hp
      exact ⟨ev, hrows ▸ hev, rfl, hpending, markSound_mark (h.rows ev hev) hpub⟩

/-- The rows after a commit agree with what was published. -/
lemma rowSound_commitTo (h : OutboxSound maxAttempts s) (hb : b ∈ s.batches)
    (hev : ev ∈ b.commitTo maxAttempts s.rows) : RowSound maxAttempts s ev := by
  rcases (mem_commitTo h.ids (h.nodup_written hb)).mp hev with ⟨hev, -⟩ | ⟨ev₀, hev₀, m, hm, rfl⟩
  · exact h.rows ev hev
  · obtain ⟨ev₁, hev₁, hid, hpending, hmark⟩ := (h.batches b hb).written _ hm
    obtain rfl := eq_of_key_eq h.ids hev₁ hev₀ hid
    exact (h.rows ev₁ hev₁).write hpending hmark

/-- Every step keeps the invariant. -/
theorem outboxSound_step (hmax : 1 ≤ maxAttempts) (h : OutboxSound maxAttempts s)
    (hok : (outboxMachine maxAttempts).step s c = .ok s') : OutboxSound maxAttempts s' := by
  have hstep := outboxStep_of_ok hok
  have hpublished := hstep.published_row h
  have hprefix := hstep.published_prefix
  induction hstep with
  | @addEvent event id hnew =>
    refine ⟨nodup_map_concat_iff.mpr ⟨h.ids, hnew⟩, h.workers, h.locks, ?_, ?_, hpublished⟩
    · intro ev hev
      rcases List.mem_append.mp hev with hev | hev
      · exact (h.rows ev hev).mono hprefix
      · obtain rfl := List.mem_singleton.mp hev
        exact rowSound_addOutboxEvent hmax event id
    · exact fun b hb => (h.batches b hb).mono hprefix fun ev hev _ => List.mem_append_left _ hev
  | @claim worker batchSize hnew =>
    refine ⟨h.ids, nodup_map_concat_iff.mpr ⟨h.workers, hnew⟩,
      nodup_locked_claim h worker batchSize,
      fun ev hev => (h.rows ev hev).mono hprefix, ?_, hpublished⟩
    intro b hb
    rcases List.mem_append.mp hb with hb | hb
    · exact (h.batches b hb).mono hprefix fun ev hev _ => hev
    · obtain rfl := List.mem_singleton.mp hb
      constructor
      · intro ev hev
        exact ⟨(mem_claimBatch hev).1, (mem_claimBatch hev).2.1⟩
      · intro p hp
        cases hp
  | @publish worker outcome now b ev rest hb hrest =>
    obtain ⟨hmem, hworker⟩ := mem_of_batchOf hb
    refine ⟨h.ids, nodup_map_updateFirst _ (fun _ => rfl) h.workers, ?_,
      fun ev hev => (h.rows ev hev).mono hprefix, ?_, hpublished⟩
    · unfold OutboxSystem.locked
      rw [locked_publish h hb hrest]
      exact h.locks
    · intro b₁ hb₁
      rcases (mem_updateFirst_iff h.workers).mp hb₁ with ⟨a, ha, hk, rfl⟩ | ⟨hb₁, -⟩
      · obtain rfl := eq_of_key_eq h.workers ha hmem (hk.trans hworker.symm)
        exact batchSound_publish h ha hrest rfl rfl
      · exact (h.batches b₁ hb₁).mono hprefix fun ev hev _ => hev
  | @commit worker b hb =>
    obtain ⟨hmem, hworker⟩ := mem_of_batchOf hb
    refine ⟨by rw [b.map_id_commitTo]; exact h.ids, h.workers.sublist (List.filter_sublist.map _),
      nodup_locked_closed h worker, fun ev hev => (rowSound_commitTo h hmem hev).mono hprefix, ?_,
      hpublished⟩
    intro b' hb'
    obtain ⟨hb', hne⟩ := mem_closed_iff.mp hb'
    refine (h.batches b' hb').mono hprefix fun ev hev hlocked => ?_
    -- the other transactions have locked other rows
    refine (mem_commitTo h.ids (h.nodup_written hmem)).mpr (Or.inl ⟨hev, fun p hp hid => hne ?_⟩)
    have hsame :=
      h.eq_of_mem_locked hb' hmem hlocked (Batch.mem_locked_iff.mpr (Or.inl ⟨p, hp, hid⟩))
    rw [hsame, hworker]
  | @rollback worker =>
    exact ⟨h.ids, h.workers.sublist (List.filter_sublist.map _), nodup_locked_closed h worker,
      fun ev hev => (h.rows ev hev).mono hprefix,
      fun b hb => (h.batches b (mem_closed_iff.mp hb).1).mono hprefix fun ev hev _ => hev,
      hpublished⟩

/-- The invariant holds in every state of a run. -/
theorem outboxSound_run (hmax : 1 ≤ maxAttempts) (h : OutboxSound maxAttempts s)
    (cs : List OutboxCommand) : OutboxSound maxAttempts ((outboxMachine maxAttempts).run s cs) :=
  Machine.run_invariant (fun _ _ _ h hok => outboxSound_step hmax h hok) h cs

/-- It holds of an empty outbox. -/
lemma outboxSound_empty : OutboxSound maxAttempts .empty := by
  constructor <;> simp [OutboxSystem.empty, OutboxSystem.locked]

/-! ## Rows that are sent or failed -/

/-- A row that is sent or failed is not published. -/
lemma OutboxStep.publicationsOf_eq (hstep : OutboxStep maxAttempts s c s')
    (h : OutboxSound maxAttempts s) (hev : ev ∈ s.rows) (hne : ev.status ≠ .pending) :
    s'.publicationsOf ev.id = s.publicationsOf ev.id := by
  induction hstep with
  | @publish worker outcome now b ev' rest hb hrest =>
    obtain ⟨hev', hpending⟩ :=
      (h.batches b (mem_of_batchOf hb).1).rest ev' (hrest ▸ List.mem_cons_self)
    have hid : ev'.id ≠ ev.id := fun hid => hne (eq_of_key_eq h.ids hev' hev hid ▸ hpending)
    simp [OutboxSystem.publicationsOf, hid]
  | _ => rfl

/-- A row stays in the outbox with its message. -/
lemma exists_kept_run (hmax : 1 ≤ maxAttempts) (h : OutboxSound maxAttempts s) (hev : ev ∈ s.rows)
    (cs : List OutboxCommand) : ∃ ev' ∈ ((outboxMachine maxAttempts).run s cs).rows,
      ev'.id = ev.id ∧ ev'.message = ev.message := by
  have hrun := Machine.run_invariant (M := outboxMachine maxAttempts)
    (I := fun t => OutboxSound maxAttempts t ∧ ∃ ev' ∈ t.rows, ev'.id = ev.id ∧
      ev'.message = ev.message)
    ?_ ⟨h, ev, hev, rfl, rfl⟩ cs
  · exact hrun.2
  · rintro t c t' ⟨ht, ev₁, hev₁, hid, hmessage⟩ hok
    obtain ⟨ev₂, hev₂, hid', hmessage', -⟩ := (outboxStep_of_ok hok).kept ht hev₁
    exact ⟨outboxSound_step hmax ht hok, ev₂, hev₂, hid'.trans hid, hmessage'.trans hmessage⟩

/-- A row that is sent or failed stays as it is, and its message is not published again. -/
lemma settled_run (hmax : 1 ≤ maxAttempts) (h : OutboxSound maxAttempts s) (hev : ev ∈ s.rows)
    (hne : ev.status ≠ .pending) (cs : List OutboxCommand) :
    ev ∈ ((outboxMachine maxAttempts).run s cs).rows ∧
      ev.id ∉ ((outboxMachine maxAttempts).run s cs).locked ∧
      ((outboxMachine maxAttempts).run s cs).publicationsOf ev.id = s.publicationsOf ev.id := by
  have hrun := Machine.run_invariant (M := outboxMachine maxAttempts)
    (I := fun t => OutboxSound maxAttempts t ∧ ev ∈ t.rows ∧
      t.publicationsOf ev.id = s.publicationsOf ev.id) ?_ ⟨h, hev, rfl⟩ cs
  · obtain ⟨hsound, hmem, hpub⟩ := hrun
    exact ⟨hmem, fun hlocked => hne (hsound.pending_of_locked hmem hlocked), hpub⟩
  · rintro t c t' ⟨ht, hmem, hpub⟩ hok
    have hstep := outboxStep_of_ok hok
    obtain ⟨ev', hev', -, -, hsame⟩ := hstep.kept ht hmem
    exact ⟨outboxSound_step hmax ht hok, hsame hne ▸ hev',
      (hstep.publicationsOf_eq ht hmem hne).trans hpub⟩

/-! ## Accepted once -/

/-- The rows that are still to be published were not accepted. -/
lemma AcceptedOnce.acceptances_eq_zero (ha : AcceptedOnce s) (h : OutboxSound maxAttempts s)
    (hb : b ∈ s.batches) (hev : ev ∈ b.rest) : s.acceptances ev.id = 0 := by
  by_contra hne
  obtain ⟨hmem, hpending⟩ := (h.batches b hb).rest ev hev
  rcases (ha ev.id).2 (Nat.pos_of_ne_zero hne)
    with ⟨ev', hev', hid, hsent⟩ | ⟨b', hb', at', hwritten⟩
  · rw [eq_of_key_eq h.ids hev' hmem hid, hpending] at hsent
    cases hsent
  · exact h.ne_of_written hb hb' hwritten hev rfl

/-- A publish adds what was accepted. -/
lemma acceptances_publish {id id' : Int} {message : OutboxMessage} {accepted : Bool}
    (hpub : s'.published = s.published ++ [⟨id, message, accepted⟩]) :
    s'.acceptances id' = s.acceptances id' + if id = id' ∧ accepted then 1 else 0 := by
  simp [OutboxSystem.acceptances, hpub, List.countP_append, List.countP_cons]

/-- While nothing is rolled back, every step keeps messages from being accepted twice. -/
lemma acceptedOnce_step (hc : ∀ worker, c ≠ .rollback worker) (h : OutboxSound maxAttempts s)
    (ha : AcceptedOnce s) (hok : (outboxMachine maxAttempts).step s c = .ok s') :
    AcceptedOnce s' := by
  have hstep := outboxStep_of_ok hok
  intro id
  have hrow : (∃ ev ∈ s.rows, ev.id = id ∧ ev.status = .sent) →
      ∃ ev ∈ s'.rows, ev.id = id ∧ ev.status = .sent := by
    rintro ⟨ev, hev, hid, hsent⟩
    obtain ⟨ev', hev', -, -, hsame⟩ := hstep.kept h hev
    obtain rfl := hsame (by simp [hsent])
    exact ⟨ev', hev', hid, hsent⟩
  induction hstep with
  | addEvent => exact ⟨(ha id).1, fun hpos => ((ha id).2 hpos).imp_left hrow⟩
  | claim =>
    refine ⟨(ha id).1, fun hpos => ((ha id).2 hpos).imp_right ?_⟩
    rintro ⟨b, hb, hwritten⟩
    exact ⟨b, List.mem_append_left _ hb, hwritten⟩
  | @publish worker outcome now b ev rest hb hrest =>
    obtain ⟨hmem, hworker⟩ := mem_of_batchOf hb
    have hzero := ha.acceptances_eq_zero h hmem (hrest ▸ List.mem_cons_self)
    rw [acceptances_publish (s := s) rfl]
    by_cases hnew : ev.id = id ∧ outcome.isOk
    · -- the message is accepted for the first time, and the transaction marks its row
      obtain ⟨rfl, hisOk⟩ := hnew
      rw [hzero]
      refine ⟨by simp [hisOk], fun _ => Or.inr ?_⟩
      match outcome with
      | .ok () =>
        exact ⟨_, (mem_updateFirst_iff h.workers).mpr (Or.inl ⟨b, hmem, hworker, rfl⟩), now,
          List.mem_append_right _ (List.mem_singleton.mpr rfl)⟩
      | .error err => cases hisOk
    · rw [if_neg hnew, add_zero]
      refine ⟨(ha id).1, fun hpos => ((ha id).2 hpos).imp_right ?_⟩
      rintro ⟨b', hb', publishedAt, hwritten⟩
      by_cases hk : b'.worker = worker
      · exact ⟨_, (mem_updateFirst_iff h.workers).mpr (Or.inl ⟨b', hb', hk, rfl⟩), publishedAt,
          List.mem_append_left _ hwritten⟩
      · exact ⟨b', (mem_updateFirst_iff h.workers).mpr (Or.inr ⟨hb', hk⟩), publishedAt, hwritten⟩
  | @commit worker b hb =>
    obtain ⟨hmem, hworker⟩ := mem_of_batchOf hb
    refine ⟨(ha id).1, fun hpos => ?_⟩
    rcases (ha id).2 hpos with hsent | ⟨b', hb', publishedAt, hwritten⟩
    · exact Or.inl (hrow hsent)
    · by_cases hk : b'.worker = worker
      · -- the mark of the transaction is stored
        obtain rfl := eq_of_key_eq h.workers hb' hmem (hk.trans hworker.symm)
        obtain ⟨ev, hev, hid, -, -⟩ := (h.batches b' hmem).written _ hwritten
        cases hid
        exact Or.inl ⟨_, (mem_commitTo h.ids (h.nodup_written hmem)).mpr
          (Or.inr ⟨ev, hev, _, hwritten, rfl⟩), rfl, rfl⟩
      · exact Or.inr ⟨b', mem_closed_iff.mpr ⟨hb', hk⟩, publishedAt, hwritten⟩
  | rollback => exact absurd rfl (hc _)

/-! ## All runs -/

/-- In all runs of services and workers on an outbox, rows are neither lost nor forged. -/
theorem outbox_reliable (hmax : 1 ≤ maxAttempts) (cs : List OutboxCommand) :
    OutboxReliable maxAttempts cs ((outboxMachine maxAttempts).run .empty cs) := by
  have h := outboxSound_run hmax outboxSound_empty cs
  constructor
  · intro ev hev hsent
    obtain ⟨p, hp, hacc⟩ := List.countP_pos_iff.mp ((h.rows ev hev).sent hsent).2
    obtain ⟨hid, haccepted⟩ : p.rowId = ev.id ∧ p.accepted := by simpa using hacc
    obtain ⟨ev', hev', hid', hmessage⟩ := h.published p hp
    obtain rfl := eq_of_key_eq h.ids hev' hev (hid'.trans hid)
    exact ⟨p, hp, hid, hmessage.symm, haccepted⟩
  · intro ev hev hfailed
    exact (h.rows ev hev).failed hfailed ▸ (h.rows ev hev).attempts_le
  · intro ev hev
    cases hstatus : ev.status with
    | pending => exact ((h.rows ev hev).pending hstatus).le
    | sent => exact ((h.rows ev hev).sent hstatus).1.le
    | failed => exact ((h.rows ev hev).failed hstatus).le
  · exact fun ev hev cs' => exists_kept_run hmax h hev cs'
  · exact fun ev hev hne cs' => settled_run hmax h hev hne cs'
  · exact h.published
  · intro hcs ev hev
    have hrun := Machine.run_invariant_of_forall (M := outboxMachine maxAttempts)
      (I := fun t => OutboxSound maxAttempts t ∧ AcceptedOnce t)
      (P := fun c => ∀ worker, c ≠ .rollback worker)
      (fun t c t' hc ht hok => ⟨outboxSound_step hmax ht.1 hok, acceptedOnce_step hc ht.1 ht.2 hok⟩)
      ⟨outboxSound_empty, fun id => ⟨Nat.zero_le _, fun hpos => absurd hpos (lt_irrefl 0)⟩⟩ hcs
    exact (hrun.2 ev.id).1

/-- One message, published at the second attempt. -/
def publishedAtSecondAttempt : List OutboxCommand :=
  [.addEvent ⟨"e", "game.started", "{}"⟩ 1, .claim 0 50, .publish 0 (.error "closed") 5, .commit 0,
    .claim 1 50, .publish 1 (.ok ()) 6, .commit 1]

/-- One message: it is sent, after one failure. -/
theorem outbox_reliable_second_attempt : 1 ≤ 20 ∧
    ((outboxMachine 20).run .empty publishedAtSecondAttempt).rows.map
      (fun ev => (ev.status, ev.attempts)) =
      [(.sent, 1)] ∧
    OutboxReliable 20 publishedAtSecondAttempt
      ((outboxMachine 20).run .empty publishedAtSecondAttempt) :=
  ⟨by decide, by decide, outbox_reliable (by decide) _⟩

end PokerRoom
