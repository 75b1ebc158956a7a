import PokerRoom.Hand.RoundRun

/-!
# What the version of a round detects

A client sends the version it has read with its next bet, and the bet is refused when the round has
another version by then.  Bets, advances of the street and settlements raise the version; the
corrections write to the same rows and leave it as it was.  `versions_detect_iff` says that the
version detects every change of a run exactly when nothing was corrected in it.
-/

namespace PokerRoom

open Foundation

/-! ## Definitions -/

/-- The transition is a retry that was answered with the bet recorded before. -/
def IsRetry (t : Transition RoundTables RoundCommand) : Prop :=
  match t.command with
  | .betting (.placeBet data _) => data.existing t.before ≠ none
  | _ => False

/-- The version of a round detects every change of a run, from every state that a client may have
read in it. -/
structure VersionDetects (r₀ : RoundTables) (cs : List RoundCommand) : Prop where
  /-- The version has grown when anything but retries was carried out since the round was read. -/
  grows : ∀ read since, read ++ since <+: cs →
    (∃ t ∈ roundMachine.trace (roundMachine.run r₀ read) since, ¬ IsRetry t) →
    (roundMachine.run r₀ read).round.stateVersion <
      (roundMachine.run r₀ (read ++ since)).round.stateVersion
  /-- A bet that expects the version that was read is applied to what was read. -/
  identical : ∀ read since, read ++ since <+: cs →
    ∀ (data : PlaceBet) (ids : Uuids) (r' : RoundTables),
    data.expectedVersion = some (roundMachine.run r₀ read).round.stateVersion →
    data.existing (roundMachine.run r₀ (read ++ since)) = none →
    roundMachine.step (roundMachine.run r₀ (read ++ since))
      (.betting (.placeBet data ids)) = .ok r' →
    (roundMachine.run r₀ (read ++ since)).round = (roundMachine.run r₀ read).round ∧
      (roundMachine.run r₀ (read ++ since)).players = (roundMachine.run r₀ read).players

variable {r r' : RoundTables} {d : Deal} {c : RoundCommand} {cs : List RoundCommand}

/-! ## One command -/

/-- The version a service reads is the stored one. -/
lemma RoundTables.Constraints.version_eq (h : r.Constraints) :
    r.round.version = r.round.stateVersion := Round.version_eq h.round.2.2.2

/-- An accepted command that corrects nothing raises the version, unless it is an answered retry,
which changes nothing. -/
lemma retry_or_raised (h : r.Constraints) (hcorr : ¬ c.IsCorrection)
    (hok : roundMachine.step r c = .ok r') :
    (IsRetry ⟨r, c, r'⟩ ∧ r' = r) ∨
      (¬ IsRetry ⟨r, c, r'⟩ ∧ r'.round.stateVersion = r.round.stateVersion + 1) := by
  have hversion := h.version_eq
  have hsettle : ∀ {data ids}, Settled r data ids r' →
      r'.round.stateVersion = r.round.stateVersion + 1 := by
    intro data ids hset
    rw [hset.after, ← hversion]
    rfl
  cases c with
  | betting c =>
    cases c with
    | placeBet data ids =>
      rcases placeBet_step_cases h.playerIds hok with ⟨hfound, rfl⟩ | ⟨hfresh, p, a, v, happ⟩
      · exact Or.inl ⟨hfound, rfl⟩
      · refine Or.inr ⟨not_not.mpr hfresh, ?_⟩
        rw [happ.after, ← hversion]
        rfl
    | advanceStreet =>
      obtain ⟨⟨res, r''⟩, hadv, rfl⟩ := map_eq_ok_iff.mp hok
      refine Or.inr ⟨not_false, ?_⟩
      cases (advanceStreet_eq_ok_iff.mp hadv).2.outcome with
      | settleHand | showdown | nextStreet => rw [← hversion]
  | resolveHand data ids => exact Or.inr ⟨not_false, hsettle (settleRound_eq_ok_iff.mp hok)⟩
  | declareWinner data ids =>
    obtain ⟨request, hrequest, hset⟩ := bind_eq_ok_iff.mp hok
    exact Or.inr ⟨not_false, hsettle (settleRound_eq_ok_iff.mp hset)⟩
  | reverseAction | adjustStack | reopenHand | correctPayout => exact absurd trivial hcorr

/-- An accepted correction leaves the version as it was. -/
lemma version_of_correction (h : r.Constraints) (hcorr : c.IsCorrection)
    (hok : roundMachine.step r c = .ok r') :
    r'.round.stateVersion = r.round.stateVersion ∧ ¬ IsRetry ⟨r, c, r'⟩ := by
  cases round_step_cases h.playerIds hok with
  | retried | bet | street => cases hcorr
  | settled hc hset =>
    cases c with
    | betting | resolveHand | declareWinner => cases hcorr
    | reverseAction | adjustStack | reopenHand | correctPayout => cases hc
  | reversed hrev =>
    obtain ⟨pot, hround⟩ := hrev.round_eq.1
    rw [hround]
    exact ⟨rfl, not_false⟩
  | adjusted | reopened | corrected => exact ⟨rfl, not_false⟩

/-! ## Every run -/

/-- A run that corrects nothing raises the version, unless it consists of answered retries and
changes nothing. -/
lemma unchanged_or_raised (h : r.Constraints)
    (hcorr : ∀ t ∈ roundMachine.trace r cs, ¬ t.command.IsCorrection) :
    (roundMachine.run r cs = r ∧ ∀ t ∈ roundMachine.trace r cs, IsRetry t) ∨
      r.round.stateVersion < (roundMachine.run r cs).round.stateVersion := by
  induction cs generalizing r with
  | nil => exact Or.inl ⟨rfl, by simp [Machine.trace]⟩
  | cons c cs ih =>
    rw [Machine.run_cons]
    cases hs : roundMachine.step r c with
    | ok r' =>
      rw [Machine.trace_cons_of_ok hs] at hcorr ⊢
      obtain ⟨hfirst, hrest⟩ := List.forall_mem_cons.mp hcorr
      have hcons := (round_step_cases h.playerIds hs).constraints h
      rw [Machine.exec_of_ok hs]
      rcases retry_or_raised h hfirst hs with ⟨hretry, rfl⟩ | ⟨-, hraised⟩
      · rcases ih h hrest with ⟨hrun, hall⟩ | hlt
        · exact Or.inl ⟨hrun, List.forall_mem_cons.mpr ⟨hretry, hall⟩⟩
        · exact Or.inr hlt
      · right
        rcases ih hcons hrest with ⟨hrun, -⟩ | hlt
        · rw [hrun]
          omega
        · omega
    | error e =>
      rw [Machine.trace_cons_of_error hs] at hcorr ⊢
      rw [Machine.exec_of_error hs]
      exact ih h hcorr

/-- A bet that is applied with an expected version finds the round at this version. -/
lemma version_of_expected (h : r.Constraints) {data : PlaceBet} {ids : Uuids} {n : Int}
    (hexpected : data.expectedVersion = some n) (hfresh : data.existing r = none)
    (hok : roundMachine.step r (.betting (.placeBet data ids)) = .ok r') :
    r.round.stateVersion = n := by
  rcases placeBet_step_cases h.playerIds hok with ⟨hfound, -⟩ | ⟨-, p, a, v, happ⟩
  · exact absurd hfresh hfound
  · exact h.version_eq.symm.trans (happ.expected n hexpected)

/-- **What the version detects.**  The version of a round detects every change of a run exactly when
the run corrects nothing: no action is reversed, no stack adjusted, no hand reopened and no payout
corrected. -/
theorem versions_detect_iff {ids : Uuids} {r₀ : RoundTables}
    (hdeal : createRound d.toRoundSetup ids = .ok r₀) (cs : List RoundCommand) :
    VersionDetects r₀ cs ↔ ∀ t ∈ roundMachine.trace r₀ cs, ¬ t.command.IsCorrection := by
  have hcons : r₀.Constraints := (createRound_eq_ok_iff.mp hdeal).2.1
  constructor
  · intro hdetects t ht hcorr
    obtain ⟨pre, post, rfl, hbefore, hok⟩ := Machine.exists_of_mem_trace ht
    have hcons' : t.before.Constraints := hbefore ▸ constraints_run hcons pre
    obtain ⟨hversion, hretry⟩ := version_of_correction hcons' hcorr hok
    have hgrows := hdetects.grows pre [t.command] ⟨post, by simp⟩
    rw [Machine.run_append, ← hbefore, Machine.trace_cons_of_ok hok, Machine.run_cons,
      Machine.run_nil, Machine.exec_of_ok hok, hversion] at hgrows
    exact lt_irrefl _ (hgrows ⟨_, List.mem_cons_self, hretry⟩)
  · intro hnone
    -- between the read and the bet nothing was corrected either
    have hsince : ∀ read since, read ++ since <+: cs →
        ∀ t ∈ roundMachine.trace (roundMachine.run r₀ read) since, ¬ t.command.IsCorrection := by
      rintro read since ⟨rest, rfl⟩ t ht
      refine hnone t ?_
      rw [Machine.trace_append, Machine.trace_append]
      exact List.mem_append_left _ (List.mem_append_right _ ht)
    constructor
    · rintro read since hprefix ⟨t, ht, hretry⟩
      rw [Machine.run_append]
      rcases unchanged_or_raised (constraints_run hcons read) (hsince read since hprefix) with
        ⟨-, hall⟩ | hlt
      · exact absurd (hall t ht) hretry
      · exact hlt
    · intro read since hprefix data ids r' hexpected hfresh hok
      have hversion := version_of_expected (constraints_run hcons _) hexpected hfresh hok
      rw [Machine.run_append] at hversion ⊢
      rcases unchanged_or_raised (constraints_run hcons read) (hsince read since hprefix) with
        ⟨hrun, -⟩ | hlt
      · rw [hrun]
        exact ⟨rfl, rfl⟩
      · omega

/-- The version detects the changes of a hand that is folded and settled. -/
theorem versions_detect_iff_headsUp : VersionDetects (headsUp.tables headsUpIds) foldedHand :=
  (versions_detect_iff
    (show createRound headsUp.toRoundSetup headsUpIds = .ok (headsUp.tables headsUpIds) by decide)
    foldedHand).mpr (by decide)

/-- A stack may be adjusted between the read and a bet that expects the version that was read. -/
theorem adjusted_stack_undetected :
    ¬ ∀ (d : Deal) (ids : Uuids) (r₀ : RoundTables), createRound d.toRoundSetup ids = .ok r₀ →
      ∀ cs : List RoundCommand, VersionDetects r₀ cs := by
  intro h
  have hdetects := h headsUp headsUpIds (headsUp.tables headsUpIds) (by decide)
    [.adjustStack ⟨"alice", 50, by decide, none, none⟩ (named ["adjusted"])]
  have hsame := hdetects.identical [] _ (List.prefix_refl _)
    { playerId := "alice", action := "call", amount := 0, expectedVersion := some 1 }
    (named ["b1", "e1"]) _ (by decide) (by decide) rfl
  exact absurd hsame.2 (by decide)

end PokerRoom
