import PokerRoom.Game.HandCount
import PokerRoom.Game.Positions
import PokerRoom.Hand.LedgerAccount
import Mathlib.Data.List.DropRight

/-!
# Stacks from hand to hand

The next hand is dealt from the snapshot, which a settlement copies from the players of its round;
corrections of a completed hand change these players and not the snapshot.  `stacks_carry_over_iff`
says that the stacks carry over to the next hand exactly when such corrections cancel out.
-/

namespace PokerRoom

open Foundation

/-! ## Definitions -/

/-- The entries recorded since the last completion of a round. -/
def sinceCompletion (q : RoundTables) : List HandLedgerEntry :=
  q.ledger.rtakeWhile fun e => decide (e.entryType ≠ .roundCompleted)

/-- What was recorded since the completion of a round adds up to nothing for each of its players. -/
def CorrectionsBalance (q : RoundTables) : Prop :=
  ∀ p ∈ q.players, booked (·.stackWeight p.playerId) (sinceCompletion q) = 0

instance : DecidablePred CorrectionsBalance := fun q =>
  inferInstanceAs (Decidable (∀ p ∈ q.players, _))

/-- The stacks of a round carry over to the next one. -/
structure CarriedOver (q r : RoundTables) : Prop where
  /-- A player of the next round starts with his stack of the previous one. -/
  stack : ∀ p ∈ r.players, ∃ p' ∈ q.players, p'.playerId = p.playerId ∧
    p.stackRemaining + p.committedThisHand = p'.stackRemaining
  /-- He is dealt in exactly when it is positive. -/
  dealt_iff : ∀ p' ∈ q.players,
    (∃ p ∈ r.players, p.playerId = p'.playerId) ↔ 0 < p'.stackRemaining

/-- The command starts a round. -/
def GameCommand.StartsRound : GameCommand → Prop
  | .startRound _ _ _ => True
  | _ => False

instance : DecidablePred GameCommand.StartsRound
  | .startRound _ _ _ => .isTrue trivial
  | .round _ _ _ | .advanceBlinds _ | .pauseTable | .resumeTable | .recordHandCompleted _
  | .endGame _ => .isFalse id

/-- The round was dealt, and its ledger accounts for its chips. -/
def Dealt (r : RoundTables) : Prop :=
  ∃ d : Deal, SeatedAs d.toRoundSetup r ∧ AmountsNonneg r

/-- The snapshot and the last round: nobody but the players of the round plays on, and after its
completion the snapshot has the stacks these had before the entries recorded since. -/
structure SnapshotOf (snapshot : RoomConfig) (q : RoundTables) : Prop where
  /-- Nobody else plays. -/
  others : ∀ p ∈ snapshot.players, p.plays = true → p.playerId ∈ q.players.map (·.playerId)
  /-- The players of the round. -/
  rows : ∀ rp ∈ q.players, ∃ p ∈ snapshot.players, p.playerId = rp.playerId ∧
    (q.round.status = .completed → (p.plays = true ↔ 0 < p.chipCount) ∧
      rp.stackRemaining = p.chipCount + booked (·.stackWeight rp.playerId) (sinceCompletion q))

/-- The invariant of a game whose hands are not reopened. -/
structure CarryInvariant (g : GameTables) : Prop where
  /-- The stored rows are sound. -/
  stored : Stored g
  /-- The positions are held. -/
  held : PositionsHeld g
  /-- The players of the room have identifiers. -/
  ids_ne : ∀ p ∈ g.snapshot.players, p.playerId ≠ ""
  /-- The blinds of its levels are not negative. -/
  blinds : ∀ bl ∈ g.snapshot.blindLevels, 0 ≤ bl.smallBlind ∧ 0 ≤ bl.bigBlind
  /-- The rounds were dealt. -/
  dealt : ∀ r ∈ g.rounds, Dealt r
  /-- Only the last round is active. -/
  last_active : ∀ r ∈ g.rounds, r.round.status = .active → g.rounds.getLast? = some r
  /-- The snapshot goes with the last round. -/
  snapshot : ∀ q ∈ g.rounds.getLast?, SnapshotOf g.snapshot q

variable {g g' : GameTables} {q r r' : RoundTables} {snapshot : RoomConfig} {clock : Clock}
  {ids : Uuids}

/-! ## The ledger since the completion -/

/-- Entries that complete nothing are added to those since the last completion. -/
lemma sinceCompletion_append {es : List HandLedgerEntry} (h : r'.ledger = r.ledger ++ es)
    (hes : ∀ e ∈ es, e.entryType ≠ .roundCompleted) :
    sinceCompletion r' = sinceCompletion r ++ es := by
  unfold sinceCompletion
  rw [h]
  clear h
  induction es using List.reverseRecOn with
  | nil => simp
  | append_singleton es e ih =>
    obtain ⟨hes, he⟩ := List.forall_mem_append.mp hes
    rw [← List.append_assoc, List.rtakeWhile_concat_pos _ _ _ (by simpa using he), ih hes,
      List.append_assoc]

/-- Nothing is recorded yet since a completion. -/
lemma sinceCompletion_settled {data : ResolveHandRequest} (hset : Settled r data ids r') :
    sinceCompletion r' = [] := by
  rw [hset.after]
  exact List.rtakeWhile_concat_neg _ _ _ (by simp [roundCompletedEntry])

/-! ## Dealt rounds -/

/-- A settlement is a step of its round. -/
lemma Settled.roundStep {data : ResolveHandRequest} (hset : Settled r data ids r') :
    RoundStep r (.resolveHand data ids) r' :=
  .settled rfl hset

/-- An accepted command keeps a round dealt. -/
lemma Dealt.step (h : Dealt r) {c : RoundCommand} (hstep : RoundStep r c r') : Dealt r' := by
  obtain ⟨d, hseat, hamounts⟩ := h
  obtain ⟨es, hb, -⟩ := hstep.booked hseat hamounts
  exact ⟨d, hseat.roundStep hstep, hamounts.of_booked hb⟩

/-- An accepted command keeps the players of a dealt round. -/
lemma Dealt.playerIds_eq (h : Dealt r) {c : RoundCommand} (hstep : RoundStep r c r') :
    r'.players.map (·.playerId) = r.players.map (·.playerId) := by
  obtain ⟨d, hseat, -⟩ := h
  rw [(hseat.roundStep hstep).playerIds, hseat.playerIds]

/-! ## The snapshot -/

/-- The snapshot goes with the round that is dealt from it. -/
lemma snapshotOf_tables {d : Deal}
    (hplayers : d.players = snapshot.activePlayers.map (·.seatPlayer)) :
    SnapshotOf snapshot (d.tables ids) := by
  have hnames : (d.tables ids).players.map (·.playerId) =
      snapshot.activePlayers.map (·.playerId) := by
    rw [(seatedAs_tables d.toRoundSetup ids).playerIds, hplayers, List.map_map]
    rfl
  constructor
  · intro p hp hplays
    rw [hnames]
    exact List.mem_map_of_mem (mem_activePlayers.mpr ⟨hp, hplays⟩)
  · intro rp hrp
    have hmem := List.mem_map_of_mem (f := fun rp : RoundPlayer => rp.playerId) hrp
    rw [hnames] at hmem
    obtain ⟨p, hp, hid⟩ := List.mem_map.mp hmem
    exact ⟨p, (mem_activePlayers.mp hp).1, hid, fun hover => by cases hover⟩

/-- A command that settles nothing keeps the snapshot going with its round. -/
lemma SnapshotOf.acted (h : SnapshotOf snapshot q) (hdealt : Dealt q) {c : RoundCommand}
    {q' : RoundTables} (hstep : RoundStep q c q') (hc : c.settlement? q = none) :
    SnapshotOf snapshot q' := by
  obtain ⟨d, hseat, hamounts⟩ := hdealt
  obtain ⟨es, hb, -⟩ := hstep.booked hseat hamounts
  have hes : ∀ e ∈ es, e.entryType ≠ .roundCompleted := hstep.unsettled_entries hc hb.ledger
  constructor
  · rw [Dealt.playerIds_eq ⟨d, hseat, hamounts⟩ hstep]
    exact h.others
  · intro rp' hrp'
    obtain ⟨rp, hrp, hid, hstack⟩ := hb.stack rp' hrp'
    obtain ⟨p, hp, hpid, hover⟩ := h.rows rp hrp
    refine ⟨p, hp, hpid.trans hid, fun hstatus => ?_⟩
    obtain ⟨hplays, hchips⟩ := hover ((hstep.unsettled hc).2 hstatus)
    refine ⟨hplays, ?_⟩
    dsimp only at hid hstack
    rw [sinceCompletion_append hb.ledger hes, booked_append, hstack, hchips, hid, add_assoc]

/-- A settlement writes the stacks of its round to the snapshot. -/
lemma SnapshotOf.settled (h : SnapshotOf g.snapshot r) (hsnapshot : g.snapshot.Constraints)
    (hdealt : Dealt r) {data : ResolveHandRequest} (hset : Settled r data ids r') :
    SnapshotOf (g.settled r r' clock).snapshot r' := by
  have hnames := hdealt.playerIds_eq hset.roundStep
  have hmem := fun p : PlayerConfig => mem_syncRoomSnapshotPlayersFromRound (p := p)
    hsnapshot.playerIds hset.constraints.playerIds
  constructor
  · intro p hp hplays
    rcases (hmem p).mp hp with ⟨rp, hrp, p₀, -, hid, rfl⟩ | ⟨hp₀, hnone⟩
    · exact List.mem_map.mpr ⟨rp, hrp, hid.symm⟩
    · rw [hnames]
      exact h.others p hp₀ hplays
  · intro rp hrp
    have hrow := List.mem_map_of_mem (f := fun rp : RoundPlayer => rp.playerId) hrp
    rw [hnames] at hrow
    obtain ⟨rp₀, hrp₀, hid₀⟩ := List.mem_map.mp hrow
    obtain ⟨p, hp, hid, -⟩ := h.rows rp₀ hrp₀
    have hnonneg := (hset.constraints.players rp hrp).1
    refine ⟨p.withStack rp.stackRemaining,
      (hmem _).mpr (Or.inl ⟨rp, hrp, p, hp, hid.trans hid₀, rfl⟩),
      hid.trans hid₀, fun _ => ⟨?_, ?_⟩⟩
    · rw [PlayerConfig.plays_iff]
      simp only [PlayerConfig.withStack, decide_eq_true_eq, decide_eq_false_iff_not]
      omega
    · rw [sinceCompletion_settled hset, booked_nil, add_zero]
      exact (max_eq_left hnonneg).symm

/-! ## One command -/

/-- The last round after the rows of a round are replaced. -/
lemma getLast?_putRound (h : Stored g) (hr : r ∈ g.rounds)
    (hid : r'.round.roundId = r.round.roundId)
    {q' : RoundTables} (hq' : (g.putRound r').rounds.getLast? = some q') :
    ∃ q, g.rounds.getLast? = some q ∧ (q = r ∧ q' = r' ∨ q ≠ r ∧ q' = q) := by
  have hlast := getLast?_updateFirst (k := r'.round.roundId) (f := fun _ => r') h.1.roundIds
  obtain ⟨q, hq, heq⟩ := Option.map_eq_some_iff.mp (hlast.symm.trans hq')
  refine ⟨q, hq, ?_⟩
  split at heq
  · next hk =>
    exact Or.inl ⟨eq_of_key_eq h.1.roundIds (List.mem_of_getLast? hq) hr (hk.trans hid), heq.symm⟩
  · next hk => exact Or.inr ⟨fun hqr => hk (hqr ▸ hid.symm), heq.symm⟩

/-- A round that is started is dealt from the snapshot. -/
lemma CarryInvariant.exists_deal (h : CarryInvariant g) (hstatus : g.game.status = .active)
    {level : BlindLevelConfig} (hlevel : g.roundLevel = some level) {roundId : String}
    (hdeal : createRound (g.roundSetup level roundId) ids = .ok r) :
    ∃ d : Deal, d.players = g.snapshot.activePlayers.map (·.seatPlayer) ∧ r = d.tables ids := by
  have htwo := (h.held (by simp [hstatus])).two_le
  obtain ⟨d, hd⟩ :=
    exists_deal_of_snapshot h.stored.1.snapshot h.ids_ne h.blinds htwo hlevel roundId
  rw [← hd] at hdeal
  refine ⟨d, ?_, (createRound_eq_ok_iff.mp hdeal).2.2⟩
  rw [hd]
  rfl

/-- Only the last round is active after the rows of a round are replaced that was active if it
is. -/
lemma CarryInvariant.last_active_putRound (h : CarryInvariant g) (hr : r ∈ g.rounds)
    (hid : r'.round.roundId = r.round.roundId)
    (hactive : r'.round.status = .active → r.round.status = .active) :
    ∀ q ∈ (g.putRound r').rounds, q.round.status = .active →
      (g.putRound r').rounds.getLast? = some q := by
  have hnd := h.stored.1.roundIds
  have hlast := getLast?_updateFirst (k := r'.round.roundId) (f := fun _ => r') hnd
  intro q hq hstatus
  rcases (mem_putRound_iff hnd).mp hq with ⟨r₁, hr₁, hid₁, rfl⟩ | ⟨hq₀, hne⟩
  · refine hlast.trans ?_
    rw [h.last_active r hr (hactive hstatus), Option.map_some, if_pos hid.symm]
  · refine hlast.trans ?_
    rw [h.last_active q hq₀ hstatus, Option.map_some, if_neg hne]

/-- A snapshot that goes with the last round goes with it after the rows of a round are replaced. -/
lemma CarryInvariant.snapshot_putRound (h : CarryInvariant g) (hr : r ∈ g.rounds)
    (hid : r'.round.roundId = r.round.roundId)
    (hsame : g.rounds.getLast? ≠ some r → snapshot = g.snapshot)
    (hr' : g.rounds.getLast? = some r → SnapshotOf snapshot r') :
    ∀ q ∈ (g.putRound r').rounds.getLast?, SnapshotOf snapshot q := by
  intro q' hq'
  obtain ⟨q, hq, ⟨rfl, rfl⟩ | ⟨hne, rfl⟩⟩ := getLast?_putRound h.stored hr hid hq'
  · exact hr' hq
  · rw [hsame fun hlast => hne (Option.some.inj (hq.symm.trans hlast))]
    exact h.snapshot q' hq

/-- Starting a round keeps the invariant. -/
lemma CarryInvariant.started (h : CarryInvariant g) (hstatus : g.game.status = .active)
    (hnone : ∀ r ∈ g.rounds, r.round.status ≠ .active) {level : BlindLevelConfig}
    (hlevel : g.roundLevel = some level) {roundId : String}
    (hdeal : createRound (g.roundSetup level roundId) ids = .ok r)
    (hstored : Stored { g with rounds := g.rounds ++ [r] }) :
    CarryInvariant { g with rounds := g.rounds ++ [r] } := by
  obtain ⟨d, hplayers, rfl⟩ := h.exists_deal hstatus hlevel hdeal
  have hlast : (g.rounds ++ [d.tables ids]).getLast? = some (d.tables ids) := List.getLast?_concat
  refine ⟨hstored, h.held, h.ids_ne, h.blinds, ?_, ?_, ?_⟩
  · rw [List.forall_mem_append, List.forall_mem_singleton]
    exact ⟨h.dealt, d, seatedAs_tables _ ids, amountsNonneg_tables d ids⟩
  · rw [List.forall_mem_append, List.forall_mem_singleton]
    exact ⟨fun q hq hactive => absurd hactive (hnone q hq), fun _ => hlast⟩
  · intro q hq
    obtain rfl := Option.some.inj (hlast.symm.trans hq)
    exact snapshotOf_tables hplayers

/-- An accepted command that reopens nothing keeps the invariant. -/
lemma CarryInvariant.of_ok {c : GameCommand} (h : CarryInvariant g) (hc : ¬ c.IsReopening)
    (hok : gameMachine.step g c = .ok g') : CarryInvariant g' := by
  have hstored := h.stored.of_ok hok
  have hheld := h.held.of_ok hok
  obtain ⟨hstep, -⟩ := game_step_cases hok
  cases hstep with
  | started hstatus hnone hlevel hdeal => exact h.started hstatus hnone hlevel hdeal hstored
  | @acted roundId c clock r r' hfind hcs hstep =>
    obtain ⟨hr, -⟩ := find?_roundId hfind
    have hround := round_step_cases (h.stored.2 r hr).playerIds hstep
    have hactive : r'.round.status = .active → r.round.status = .active := by
      intro hactive
      rcases hround.status_cases with ⟨data, ids, rfl, -⟩ | ⟨-, hover | hsame⟩
      · exact absurd trivial hc
      · rw [hover] at hactive
        cases hactive
      · exact hsame.symm.trans hactive
    exact ⟨hstored, hheld, h.ids_ne, h.blinds, forall_putRound h.dealt ((h.dealt r hr).step hround),
      h.last_active_putRound hr hround.roundId_eq hactive,
      h.snapshot_putRound hr hround.roundId_eq (fun _ => rfl) fun hlast =>
        (h.snapshot r hlast).acted (h.dealt r hr) hround hcs⟩
  | @settled roundId c clock r r' data ids hcs hset =>
    have hr := settlement?_mem hcs
    have hid := hset.round_eq.1
    have hlast := h.last_active r hr hset.status
    exact ⟨hstored, hheld, ids_ne_settled h.ids_ne, h.blinds,
      forall_putRound h.dealt ((h.dealt r hr).step hset.roundStep),
      h.last_active_putRound hr hid fun _ => hset.status,
      h.snapshot_putRound hr hid (fun hne => absurd hlast hne) fun _ =>
        (h.snapshot r hlast).settled h.stored.1.snapshot (h.dealt r hr) hset⟩
  | administered hadm hstatus =>
    exact ⟨hstored, hheld, h.ids_ne, h.blinds, h.dealt, h.last_active, h.snapshot⟩

/-- A new game has no round. -/
lemma carryInvariant_of_startGame {existing : Option Game} {room : RoomDetail}
    {activated : Except Rejection Unit} {gameId : String} {now : Int}
    (hstart : startGame existing room.toRoomConfig activated gameId now = .ok g) :
    CarryInvariant g := by
  have hnew := gameStarted_of_startGame hstart
  obtain ⟨hids, hblinds⟩ := hnew.snapshot_sound
  refine ⟨(stored_of_startGame hstart).1, hnew.positionsHeld, hids, hblinds, ?_, ?_, ?_⟩
  · simp [hnew.rounds]
  · simp [hnew.rounds]
  · simp [hnew.rounds]

/-! ## Starting the next round -/

/-- The players of a round dealt from a snapshot, with the rows they are dealt from. -/
lemma dealt_from_snapshot {d : Deal}
    (hplayers : d.players = snapshot.activePlayers.map (·.seatPlayer)) {p : RoundPlayer}
    (hp : p ∈ (d.tables ids).players) :
    ∃ p₀ ∈ snapshot.players, p₀.plays = true ∧ p₀.playerId = p.playerId ∧
      p.stackRemaining + p.committedThisHand = p₀.chipCount := by
  have hmem : p.playerId ∈ d.players.map (·.playerId) := by
    rw [← (seatedAs_tables d.toRoundSetup ids).playerIds]
    exact List.mem_map_of_mem hp
  obtain ⟨sp, hsp, hid⟩ := List.mem_map.mp hmem
  have hchips := ((chipsConserved_tables d ids).players p hp).stack_add_hand
  rw [← hid, dealt_of_mem hsp] at hchips
  rw [hplayers] at hsp
  obtain ⟨p₀, hp₀, rfl⟩ := List.mem_map.mp hsp
  obtain ⟨hmem₀, hplays⟩ := mem_activePlayers.mp hp₀
  exact ⟨p₀, hmem₀, hplays, hid, hchips⟩

/-- A player of the snapshot who plays is dealt into a round dealt from it. -/
lemma exists_dealt_from_snapshot {d : Deal}
    (hplayers : d.players = snapshot.activePlayers.map (·.seatPlayer)) {p₀ : PlayerConfig}
    (hp₀ : p₀ ∈ snapshot.players) (hplays : p₀.plays = true) (ids : Uuids) :
    ∃ p ∈ (d.tables ids).players, p.playerId = p₀.playerId := by
  have hsp : p₀.seatPlayer ∈ d.players := by
    rw [hplayers]
    exact List.mem_map_of_mem (mem_activePlayers.mpr ⟨hp₀, hplays⟩)
  have hmem := List.mem_map_of_mem (f := fun sp : SeatPlayer => sp.playerId) hsp
  rw [← (seatedAs_tables d.toRoundSetup ids).playerIds] at hmem
  exact List.mem_map.mp hmem

/-- A player of a completed round has some chips in the snapshot, and is dealt into the next round
with these chips exactly when there are any. -/
lemma SnapshotOf.dealt_row (h : SnapshotOf snapshot q) (hover : q.round.status = .completed)
    (hsnapshot : snapshot.Constraints) {d : Deal}
    (hplayers : d.players = snapshot.activePlayers.map (·.seatPlayer)) {rp : RoundPlayer}
    (hrp : rp ∈ q.players) (ids : Uuids) :
    ∃ chips, 0 ≤ chips ∧
      rp.stackRemaining = chips + booked (·.stackWeight rp.playerId) (sinceCompletion q) ∧
      ((∃ p ∈ (d.tables ids).players, p.playerId = rp.playerId) ↔ 0 < chips) ∧
      ∀ p ∈ (d.tables ids).players, p.playerId = rp.playerId →
        p.stackRemaining + p.committedThisHand = chips := by
  obtain ⟨p₀, hp₀, hid, hrow⟩ := h.rows rp hrp
  obtain ⟨hplays, hstack⟩ := hrow hover
  -- the player is dealt from this row of the snapshot
  have hsame : ∀ p ∈ (d.tables ids).players, p.playerId = rp.playerId → p₀.plays = true ∧
      p.stackRemaining + p.committedThisHand = p₀.chipCount := by
    intro p hp hpid
    obtain ⟨p₁, hp₁, hplays₁, hid₁, hchips⟩ := dealt_from_snapshot hplayers hp
    obtain rfl := eq_of_key_eq hsnapshot.playerIds hp₁ hp₀ (hid₁.trans (hpid.trans hid.symm))
    exact ⟨hplays₁, hchips⟩
  refine ⟨p₀.chipCount, hsnapshot.chipCounts p₀ hp₀, hstack, ?_,
    fun p hp hpid => (hsame p hp hpid).2⟩
  rw [← hplays]
  constructor
  · rintro ⟨p, hp, hpid⟩
    exact (hsame p hp hpid).1
  · intro hplays₀
    obtain ⟨p, hp, hpid⟩ := exists_dealt_from_snapshot hplayers hp₀ hplays₀ ids
    exact ⟨p, hp, hpid.trans hid⟩

/-- The stacks of a completed round carry over to a round dealt from its snapshot exactly when what
was recorded since cancels out. -/
lemma SnapshotOf.carriedOver_iff (h : SnapshotOf snapshot q) (hover : q.round.status = .completed)
    (hq : q.Constraints) (hsnapshot : snapshot.Constraints) {d : Deal}
    (hplayers : d.players = snapshot.activePlayers.map (·.seatPlayer)) :
    CarriedOver q (d.tables ids) ↔ CorrectionsBalance q := by
  constructor
  · intro hcarried rp hrp
    obtain ⟨chips, hnonneg, hstack, hdealt, hchips⟩ :=
      h.dealt_row hover hsnapshot hplayers hrp ids
    have hrest := (hq.players rp hrp).1
    by_cases hpos : 0 < chips
    · obtain ⟨p, hp, hid⟩ := hdealt.mpr hpos
      obtain ⟨rp', hrp', hid', hstack'⟩ := hcarried.stack p hp
      obtain rfl := eq_of_key_eq hq.playerIds hrp' hrp (hid'.trans hid)
      have hcarry := hchips p hp hid
      omega
    · have hzero := (hcarried.dealt_iff rp hrp).not.mp (hdealt.not.mpr hpos)
      omega
  · intro hbalance
    constructor
    · intro p hp
      obtain ⟨p₀, hp₀, hplays, hid, -⟩ := dealt_from_snapshot hplayers hp
      obtain ⟨rp, hrp, hid'⟩ := List.mem_map.mp (h.others p₀ hp₀ hplays)
      obtain ⟨chips, -, hstack, -, hchips⟩ :=
        h.dealt_row hover hsnapshot hplayers hrp ids
      have hcarry := hchips p hp (hid.symm.trans hid'.symm)
      rw [hbalance rp hrp, add_zero] at hstack
      exact ⟨rp, hrp, hid'.trans hid, hcarry.trans hstack.symm⟩
    · intro rp hrp
      obtain ⟨chips, -, hstack, hdealt, -⟩ := h.dealt_row hover hsnapshot hplayers hrp ids
      rw [hbalance rp hrp, add_zero] at hstack
      rw [hstack]
      exact hdealt

/-! ## Every run -/

/-- **When stacks carry over to the next hand.** In every run of commands on a game started from a
room in which no hand is reopened, the stacks of the last round carry over to the round that is
started next, and exactly the players with chips are dealt in, if and only if what was recorded on
that round since its completion adds up to nothing for each of its players. -/
theorem stacks_carry_over_iff {existing : Option Game} {room : RoomDetail}
    {activated : Except Rejection Unit} {gameId : String} {now : Int} {g₀ : GameTables}
    (hstart : startGame existing room.toRoomConfig activated gameId now = .ok g₀)
    {cs : List GameCommand} (hcs : ∀ c ∈ cs, ¬ c.IsReopening) :
    ∀ t ∈ gameMachine.trace g₀ cs, t.command.StartsRound →
      ∀ q ∈ t.before.rounds.getLast?, ∀ r ∈ t.after.rounds.getLast?,
        CarriedOver q r ↔ CorrectionsBalance q := by
  rintro ⟨g, c, g'⟩ ht hc q hq r hr
  have hinv := Machine.trace_invariant_of_forall (I := CarryInvariant)
    (P := fun t : Transition GameTables GameCommand => ¬ t.command.IsReopening)
    (fun _ _ _ hc h hok => h.of_ok hc hok) (carryInvariant_of_startGame hstart)
    (fun t ht => hcs t.command (Machine.command_mem_of_mem_trace ht)) _ ht
  obtain ⟨hinv, hok, -⟩ := hinv
  dsimp only at hinv hok hc hq hr
  obtain ⟨hstep, -⟩ := game_step_cases hok
  cases hstep with
  | started hstatus hnone hlevel hdeal =>
    obtain ⟨d, hplayers, rfl⟩ := hinv.exists_deal hstatus hlevel hdeal
    obtain rfl := Option.some.inj (List.getLast?_concat.symm.trans hr)
    have hmem : q ∈ g.rounds := List.mem_of_getLast? hq
    have hover : q.round.status = .completed := by
      cases hstatus' : q.round.status with
      | active => exact absurd hstatus' (hnone q hmem)
      | completed => rfl
    exact (hinv.snapshot q hq).carriedOver_iff hover (hinv.stored.2 q hmem) hinv.stored.1.snapshot
      hplayers
  | acted | settled => cases hc
  | administered hadm hstatus =>
    cases c with
    | startRound | round => cases hadm
    | advanceBlinds | pauseTable | resumeTable | recordHandCompleted | endGame => cases hc

/-- The stacks after a hand that is folded and settled carry over to the next one. -/
theorem stacks_carry_over_iff_headsUp :
    ∃ t ∈ gameMachine.trace headsUpGame secondHand, ∃ q ∈ t.before.rounds.getLast?,
      ∃ r ∈ t.after.rounds.getLast?, CarriedOver q r := by
  obtain ⟨t, ht, hc, q, hq, r, hr, hbalance⟩ : ∃ t ∈ gameMachine.trace headsUpGame secondHand,
      t.command.StartsRound ∧ ∃ q ∈ t.before.rounds.getLast?, ∃ r ∈ t.after.rounds.getLast?,
        CorrectionsBalance q := by
    decide
  exact ⟨t, ht, q, hq, r, hr, (stacks_carry_over_iff
    (show startGame none headsUpRoom.toRoomConfig (.ok ()) "game" 0 = .ok headsUpGame by decide)
    (by decide) t ht hc q hq r hr).mpr hbalance⟩

/-- A game in which a stack is adjusted between two hands. -/
def adjustedBetweenHands : List GameCommand :=
  foldedGame foldedHandPayout ++
    [.round "round" (.adjustStack ⟨"bob", 5, bob_ne, none, none⟩ (named ["more"])) fun _ => 0,
      .startRound controllerStart "second" (named ["sb2", "bb2"])]

/-- An adjustment of a stack between two hands is lost in the next one. -/
theorem adjustment_not_carried_over :
    ¬ ∀ (existing : Option Game) (room : RoomDetail) (activated : Except Rejection Unit)
      (gameId : String) (now : Int) (g₀ : GameTables),
      startGame existing room.toRoomConfig activated gameId now = .ok g₀ →
      ∀ cs : List GameCommand, (∀ c ∈ cs, ¬ c.IsReopening) →
        ∀ t ∈ gameMachine.trace g₀ cs, t.command.StartsRound →
          ∀ q ∈ t.before.rounds.getLast?, ∀ r ∈ t.after.rounds.getLast?, CarriedOver q r := by
  intro h
  obtain ⟨t, ht, hc, q, hq, r, hr, p, hp, hlost⟩ :
      ∃ t ∈ gameMachine.trace headsUpGame adjustedBetweenHands, t.command.StartsRound ∧
        ∃ q ∈ t.before.rounds.getLast?, ∃ r ∈ t.after.rounds.getLast?, ∃ p ∈ r.players,
          ∀ p' ∈ q.players, p'.playerId = p.playerId →
            p.stackRemaining + p.committedThisHand ≠ p'.stackRemaining := by
    decide
  have hcarried := h none headsUpRoom (.ok ()) "game" 0 headsUpGame (by decide)
    adjustedBetweenHands (by decide) t ht hc q hq r hr
  obtain ⟨p', hp', hid, hstack⟩ := hcarried.stack p hp
  exact hlost p' hp' hid hstack

end PokerRoom
