import PokerRoom.Hand.Chips
import PokerRoom.Hand.RoundRun

/-!
# Retries

A bet is recorded under the idempotency key of its request, and a later request with this key is
compared with the recorded bet.  The recorded bet holds what the action amounted to, the request
what the client asked for: `retries_idempotent_iff` says that retries are idempotent exactly when
the two are the same.
-/

namespace PokerRoom

open Foundation

/-! ## Definitions -/

/-- Two requests ask for the same: the same player, action and amount. -/
def PlaceBet.SamePayload (data data' : PlaceBet) : Prop :=
  data'.playerId = data.playerId ∧
    BetAction.ofValue? (upper data'.action) = BetAction.ofValue? (upper data.action) ∧
    data'.amount = data.amount

/-- The retries of a request that was answered with a bet are idempotent from the rows it left on,
whatever happens on the round in between. -/
structure RetriesIdempotent (data : PlaceBet) (b : Bet) (r₁ : RoundTables) : Prop where
  /-- The same request is answered with the same bet and changes nothing. -/
  retry : ∀ cs ids, placeBet (roundMachine.run r₁ cs) data ids = .ok (b, roundMachine.run r₁ cs)
  /-- A request for another legal action under the same key is refused. -/
  conflict : ∀ cs (data' : PlaceBet) ids, data'.idempotencyKey = data.idempotencyKey →
    BetAction.ofValue? (upper data'.action) ≠ none → ¬ data.SamePayload data' →
    ∃ message, placeBet (roundMachine.run r₁ cs) data' ids =
      .error (.domain ⟨.idempotencyConflict, message⟩)

/-- A player who asks for an amount with an action asks for what it amounts to: for no chips with a
fold or a check, for the chips he owes with a call, for the new total with a raise if he has
committed nothing, for his stack with an all-in, and for less than his stack otherwise. -/
def AsksForEffect (g : Round) (p : RoundPlayer) (a : BetAction) (amount : Int) : Prop :=
  match a with
  | .fold | .check => amount = 0
  | .call => amount = g.currentHighestBet - p.committedThisStreet ∧ amount < p.stackRemaining
  | .bet => amount < p.stackRemaining
  | .raise => p.committedThisStreet = 0 ∧ amount < p.stackRemaining
  | .allIn => amount = p.stackRemaining

instance (g : Round) (p : RoundPlayer) (a : BetAction) (amount : Int) :
    Decidable (AsksForEffect g p a amount) := by
  unfold AsksForEffect
  split <;> infer_instance

/-- The request asks for what its action amounts to. -/
def PlaceBet.Verbatim (data : PlaceBet) (r : RoundTables) : Prop :=
  ∀ p ∈ r.players, p.playerId = data.playerId →
    ∀ a ∈ BetAction.ofValue? (upper data.action), AsksForEffect r.round p a data.amount

instance (data : PlaceBet) (r : RoundTables) : Decidable (data.Verbatim r) :=
  inferInstanceAs (Decidable (∀ p ∈ r.players, p.playerId = data.playerId → _))

variable {r r' r₁ : RoundTables} {data data' : PlaceBet} {ids : Uuids} {b : Bet} {p : PlayerState}
  {a : BetAction} {v : ValidatedAction}

/-! ## The recorded bet -/

/-- A request whose key is found is compared with the recorded bet. -/
lemma placeBet_of_existing (ha : BetAction.ofValue? (upper data.action) = some a)
    (hfound : data.existing r = some b) :
    placeBet r data ids =
      if b.playerId ≠ data.playerId ∨ b.action ≠ a ∨ b.amount ≠ data.amount then
        .error (.domain ⟨.idempotencyConflict, "Idempotency key '" ++
          data.idempotencyKey.getD "" ++ "' already used in round " ++ r.round.roundId ++
          " with a different payload"⟩)
      else .ok (b, r) := by
  simp only [placeBet, ha, hfound]

/-- The recorded bets stay recorded in every run. -/
lemma bets_prefix_run (h : r.Constraints) (cs : List RoundCommand) :
    r.bets <+: (roundMachine.run r cs).bets := by
  refine (Machine.run_invariant (I := fun r' : RoundTables => r'.Constraints ∧
    r.bets <+: r'.bets) ?_
    ⟨h, List.prefix_refl _⟩ cs).2
  rintro r' c r'' ⟨hcons, hprefix⟩ hok
  have hstep := round_step_cases hcons.playerIds hok
  exact ⟨hstep.constraints hcons, hprefix.trans hstep.bets_prefix⟩

/-- Where a request is found recorded as it stands its retries are idempotent, and only there. -/
lemma retriesIdempotent_iff (h : r₁.Constraints)
    (ha : BetAction.ofValue? (upper data.action) = some a) (hfound : data.existing r₁ = some b) :
    RetriesIdempotent data b r₁ ↔
      b.playerId = data.playerId ∧ b.action = a ∧ b.amount = data.amount := by
  constructor
  · intro hretry
    have hok := hretry.retry [] fun _ => ""
    rw [Machine.run_nil, placeBet_of_existing ha hfound] at hok
    split at hok
    · cases hok
    · next hsame =>
      push Not at hsame
      exact hsame
  · rintro ⟨hplayer, haction, hamount⟩
    refine ⟨fun cs ids => ?_, fun cs data' ids hkey hlegal hother => ?_⟩
    · have hfound' : data.existing (roundMachine.run r₁ cs) = some b :=
        existing_of_prefix (bets_prefix_run h cs) hfound rfl
      rw [placeBet_of_existing ha hfound', if_neg]
      simp [hplayer, haction, hamount]
    · have hfound' := existing_of_prefix (bets_prefix_run h cs) hfound hkey
      obtain ⟨a', ha'⟩ := Option.ne_none_iff_exists'.mp hlegal
      rw [placeBet_of_existing ha' hfound', if_pos]
      · exact ⟨_, rfl⟩
      · by_contra hsame
        push Not at hsame
        obtain ⟨hplayer', haction', hamount'⟩ := hsame
        refine hother ⟨hplayer'.symm.trans hplayer, ?_, hamount'.symm.trans hamount⟩
        rw [ha', ha, ← haction', haction]

/-- An accepted action is recorded as it was requested exactly when the request asks for what it
amounts to. -/
lemma BetApplied.verbatim_iff (hnd : (r.players.map (·.playerId)).Nodup)
    (happ : BetApplied r data ids p a v r') :
    (v.action = a ∧ v.amount = data.amount) ↔ data.Verbatim r := by
  obtain ⟨hp, hid⟩ := happ.accepted.mem
  have hone : data.Verbatim r ↔ AsksForEffect r.round p a data.amount := by
    constructor
    · exact fun h => h p hp hid a happ.word
    · intro h q hq hqid a' ha'
      obtain rfl := eq_of_key_eq hnd hq hp (hqid.trans hid.symm)
      obtain rfl := Option.some.inj (happ.word.symm.trans ha')
      exact h
  have hout := happ.accepted.outcome
  have hhighest : (buildHandContext r.round r.players).currentHighestBet =
    r.round.currentHighestBet := rfl
  rw [hone]
  unfold AsksForEffect
  cases hout with
  | fold | check => simp [eq_comm]
  | call _ howes hlt =>
    simp only [true_and]
    omega
  | callAllIn _ howes hle =>
    simp only [reduceCtorEq, false_and, false_iff]
    omega
  | bet _ hopen hpos hlt => simpa using hlt
  | betAllIn _ hopen hpos hall => simp [hall]
  | raise _ hbet hpos hadd hlt =>
    simp only [true_and]
    omega
  | raiseAllIn _ hbet hpos hadd hall =>
    simp only [reduceCtorEq, false_and, false_iff]
    omega
  | allIn _ hpos => simp [eq_comm]

/-! ## Every accepted request -/

/-- A request that is answered names one of the actions. -/
lemma word_of_placeBet_eq_ok (hok : placeBet r data ids = .ok (b, r₁)) :
    ∃ a, BetAction.ofValue? (upper data.action) = some a := by
  cases ha : BetAction.ofValue? (upper data.action) with
  | none => simp [placeBet, ha] at hok
  | some a => exact ⟨a, rfl⟩

/-- **When retries are idempotent.**  The retries of an accepted request with an idempotency key are
idempotent exactly when the request was a retry itself, or asks for what its action amounts to. -/
theorem retries_idempotent_iff (h : r.Constraints) {key : String}
    (hkey : data.idempotencyKey = some key) (hne : key ≠ "")
    (hok : placeBet r data ids = .ok (b, r₁)) :
    RetriesIdempotent data b r₁ ↔ data.existing r ≠ none ∨ data.Verbatim r := by
  obtain ⟨a, ha⟩ := word_of_placeBet_eq_ok hok
  rcases placeBet_cases h.playerIds hok with ⟨hfound, rfl⟩ | ⟨p, a', v, happ, rfl⟩
  · refine iff_of_true ((retriesIdempotent_iff h ha hfound).mpr ?_) (Or.inl (by simp [hfound]))
    rw [placeBet_of_existing ha hfound] at hok
    split at hok
    · cases hok
    · next hsame =>
      push Not at hsame
      exact hsame
  · obtain rfl := Option.some.inj (happ.word.symm.trans ha)
    have hfound := happ.existing (by rw [hkey, truthy_some hne]; simp)
    rw [retriesIdempotent_iff happ.constraints ha hfound]
    simp only [recordBetAction, true_and, happ.fresh, ne_eq, not_true_eq_false, false_or]
    exact happ.verbatim_iff h.playerIds

/-- The bet of the opener of a street may be retried at any time. -/
theorem retries_idempotent_iff_headsUp :
    ∃ b r₁, RetriesIdempotent
      { playerId := "bob", action := "bet", amount := 10, idempotencyKey := some "key" } b r₁ ∧
      b.amount = 10 := by
  obtain ⟨⟨b, r₁⟩, hok⟩ : ∃ out, placeBet
      (bettingMachine.run (headsUp.tables headsUpIds)
        [.send "alice" "call" 0 "b1" "e1", .advanceStreet])
      { playerId := "bob", action := "bet", amount := 10, idempotencyKey := some "key" }
      (named ["b2", "e2"]) = .ok out := ⟨_, rfl⟩
  refine ⟨b, r₁, (retries_idempotent_iff (by decide) rfl (by decide) hok).mpr
    (Or.inr (by decide)), ?_⟩
  cases hok
  rfl

/-- The retry of a call that leaves the amount to the server is refused. -/
theorem call_retry_refused :
    ¬ ∀ (r r₁ : RoundTables) (data : PlaceBet) (ids : Uuids) (b : Bet) (key : String),
      r.Constraints →
      data.idempotencyKey = some key → key ≠ "" → placeBet r data ids = .ok (b, r₁) →
      RetriesIdempotent data b r₁ := by
  intro h
  have hretry := h (headsUp.tables headsUpIds) _
    { playerId := "alice", action := "call", amount := 0, idempotencyKey := some "key" }
    (named ["b1", "e1"]) _ "key" (by decide) rfl (by decide) rfl
  have hok := hretry.retry [] (named ["b2", "e2"])
  exact absurd hok (by decide)

end PokerRoom
