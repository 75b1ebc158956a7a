import PokerRoom.Domain.Ledger.HandHistory
import PokerRoom.Hand.StreetEnd

/-!
# The timeline of a round

`build_hand_timeline` reads the streets of a hand from markers in its ledger, which no command
writes.  `timeline_faithful_iff` says that a timeline shows the streets of its round, with every bet
under the street it was placed on, exactly as long as the hand stays on its first street.
-/

namespace PokerRoom

open Foundation

/-! ## Definitions -/

/-- The timeline of a round. -/
def RoundTables.timeline (r : RoundTables) : HandTimeline :=
  buildHandTimeline r.round.roundId (r.ledger.map (·.toLedgerRow))

/-- The transition changes the street. -/
def ChangesStreet (t : Transition RoundTables RoundCommand) : Prop :=
  t.after.round.street ≠ t.before.round.street

instance : DecidablePred ChangesStreet := fun t =>
  inferInstanceAs (Decidable (t.after.round.street ≠ t.before.round.street))

/-- The streets a run went through. -/
def visitedStreets (r₀ : RoundTables) (cs : List RoundCommand) : List Street :=
  r₀.round.street ::
    ((roundMachine.trace r₀ cs).filter fun t => ChangesStreet t).map (·.after.round.street)

/-- The bets a transition placed. -/
def betsOf (t : Transition RoundTables RoundCommand) : List HandLedgerEntry :=
  (t.after.ledger.drop t.before.ledger.length).filter fun e => e.entryType = .betPlaced

/-- The timeline of the round shows the streets a run went through, and every bet under the street
the round was on when it was placed. -/
structure TimelineFaithful (r₀ : RoundTables) (cs : List RoundCommand) : Prop where
  /-- The streets. -/
  streets : (roundMachine.run r₀ cs).timeline.streets.map (·.street) =
    (visitedStreets r₀ cs).map (·.value)
  /-- The bets. -/
  bets : ∀ t ∈ roundMachine.trace r₀ cs, ∀ e ∈ betsOf t,
    ∃ s ∈ (roundMachine.run r₀ cs).timeline.streets, s.street = t.before.round.street.value ∧
      ∃ a ∈ s.actions, a.Records e.toLedgerRow

/-- The command takes the hand off its street: it settles the round, or advances the street while at
least two players are in the hand. -/
def MovesOn (r : RoundTables) : RoundCommand → Prop
  | .betting .advanceStreet => 2 ≤ (r.players.filter fun p => p.InHand).length
  | .resolveHand _ _ | .declareWinner _ _ => True
  | _ => False

instance (r : RoundTables) : DecidablePred (MovesOn r)
  | .betting .advanceStreet =>
    inferInstanceAs (Decidable (2 ≤ (r.players.filter fun p => p.InHand).length))
  | .resolveHand _ _ | .declareWinner _ _ => .isTrue trivial
  | .betting (.placeBet _ _) | .reverseAction _ _ | .adjustStack _ _ | .reopenHand _ _
  | .correctPayout _ _ => .isFalse id

variable {r r' r₀ : RoundTables} {d : Deal} {ids : Uuids} {c : RoundCommand}
    {cs : List RoundCommand}

/-! ## The street -/

/-- An advance of a contested hand leaves the first street behind, any other one changes nothing. -/
lemma StreetAdvanced.leaves_or_stays (hadv : StreetAdvanced r r') :
    (2 ≤ (r.players.filter fun p => p.InHand).length ∧ r'.round.street ≠ .preFlop) ∨
      ((r.players.filter fun p => p.InHand).length ≤ 1 ∧ r'.round.street = r.round.street) := by
  have hsettle : r.streetEnd.action = .settleHand ↔ _ := streetEnd_settleHand_iff_inHand
  by_cases hfew : (r.players.filter fun p => p.InHand).length ≤ 1
  · have hsame := mt hadv.street_ne_iff.mp (not_not.mpr (hsettle.mpr hfew))
    exact Or.inr ⟨hfew, not_not.mp hsame⟩
  · refine Or.inl ⟨not_le.mp hfew, ?_⟩
    rw [hadv.after]
    unfold StreetAdvanceResult.write
    cases haction : r.streetEnd.action with
    | settleHand => exact absurd (hsettle.mp haction) hfew
    | showdown => simp
    | nextStreet =>
      obtain ⟨s, hs, hindex⟩ := exists_nextStreet haction
      simp only [hs, Option.getD_some]
      rintro rfl
      simp [Street.index] at hindex

/-- A command that takes the hand off its street leaves the first street behind, any other one stays
on the street. -/
lemma RoundStep.leaves_or_stays (hstep : RoundStep r c r') :
    (MovesOn r c ∧ r'.round.street ≠ .preFlop) ∨
      (¬ MovesOn r c ∧ r'.round.street = r.round.street) := by
  cases hstep with
  | retried | adjusted | reopened | corrected => exact Or.inr ⟨id, rfl⟩
  | bet happ => exact Or.inr ⟨id, by rw [happ.after]; rfl⟩
  | street hadv =>
    exact hadv.leaves_or_stays.imp_right fun h => ⟨not_le.mpr (Nat.lt_succ_of_le h.1), h.2⟩
  | settled hc hset =>
    have hmoves : MovesOn r c := by
      cases c with
      | resolveHand | declareWinner => trivial
      | betting | reverseAction | adjustStack | reopenHand | correctPayout => cases hc
    refine Or.inl ⟨hmoves, ?_⟩
    rw [hset.after]
    simp [ResolveHandRequest.write]
  | reversed hrev =>
    obtain ⟨pot, h⟩ := hrev.round_eq.1
    exact Or.inr ⟨id, by rw [h]⟩

/-! ## The ledger -/

/-- The ledger of a round never holds a marker. -/
lemma no_marker_run (hdeal : createRound d.toRoundSetup ids = .ok r₀) (cs : List RoundCommand) :
    ∀ e ∈ (roundMachine.run r₀ cs).ledger, e.entryType ≠ .streetDealt := by
  have hcommand : ∀ c : RoundCommand, ∀ t ∈ c.entryTypes, t ≠ .streetDealt := by
    intro c
    unfold RoundCommand.entryTypes
    split <;> decide
  refine (round_run_invariant hdeal (I := fun r => ∀ e ∈ r.ledger, e.entryType ≠ .streetDealt) ?_ ?_
    cs).2
  · intro r c r' _ hI hstep
    obtain ⟨es, hledger, hkinds⟩ := hstep.appended
    rw [hledger, List.forall_mem_append]
    exact ⟨hI, fun e he => hcommand c _ (hkinds e he)⟩
  · obtain ⟨-, -, rfl⟩ := createRound_eq_ok_iff.mp hdeal
    intro e he
    rcases entryType_of_mem_tables he with h | h <;> rw [h] <;> decide

/-- The only street of a timeline is the first one, and every entry of a bet is filed there. -/
lemma timeline_run (hdeal : createRound d.toRoundSetup ids = .ok r₀) (cs : List RoundCommand) :
    ∃ s, (roundMachine.run r₀ cs).timeline.streets = [s] ∧ s.street = Street.preFlop.value ∧
      ∀ e ∈ (roundMachine.run r₀ cs).ledger, e.entryType = .betPlaced →
        ∃ a ∈ s.actions, a.Records e.toLedgerRow := by
  have hmarker := no_marker_run hdeal cs
  generalize roundMachine.run r₀ cs = r at hmarker ⊢
  have hnone : ∀ es ⊆ r.ledger, streetMarkers (es.map (·.toLedgerRow)) = [] := by
    intro es hes
    rw [streetMarkers, List.filter_eq_nil_iff]
    intro row hrow
    obtain ⟨e, he, rfl⟩ := List.mem_map.mp hrow
    simpa using hmarker e (hes he)
  have hnames := buildHandTimeline_streets r.round.roundId (r.ledger.map (·.toLedgerRow))
  rw [hnone _ (List.Subset.refl _)] at hnames
  obtain ⟨s, hs, hname⟩ := List.map_eq_singleton_iff.mp hnames
  refine ⟨s, hs, hname, fun e he hbet => ?_⟩
  obtain ⟨pre, post, hsplit⟩ := List.append_of_mem he
  have hfiles := buildHandTimeline_files r.round.roundId (pre.map (·.toLedgerRow))
    (post.map (·.toLedgerRow)) (e := e.toLedgerRow) (Or.inr (Or.inr hbet))
  rw [hnone pre (by rw [hsplit]; exact List.subset_append_left _ _), ← List.map_cons,
    ← List.map_append, ← hsplit, hs] at hfiles
  obtain ⟨s', hs', hrec⟩ := hfiles
  obtain rfl := Option.some.inj hs'
  exact hrec

/-! ## Every run -/

/-- What holds of the transitions of a run. -/
lemma transition_spec (hdeal : createRound d.toRoundSetup ids = .ok r₀)
    {t : Transition RoundTables RoundCommand} (ht : t ∈ roundMachine.trace r₀ cs) :
    RoundStep t.before t.command t.after ∧ t.after.ledger <+: (roundMachine.run r₀ cs).ledger := by
  have hcons₀ : r₀.Constraints := (createRound_eq_ok_iff.mp hdeal).2.1
  obtain ⟨pre, post, rfl, hbefore, hok⟩ := Machine.exists_of_mem_trace ht
  have hcons : t.before.Constraints := hbefore ▸ constraints_run hcons₀ pre
  have hstep := round_step_cases hcons.playerIds hok
  refine ⟨hstep, ?_⟩
  rw [Machine.run_append, ← hbefore, Machine.run_cons, Machine.exec_of_ok hok]
  exact ledger_prefix_run (hstep.constraints hcons) post

/-- A new round is on the first street. -/
lemma createRound_street (hdeal : createRound d.toRoundSetup ids = .ok r₀) :
    r₀.round.street = .preFlop := by
  obtain ⟨-, -, rfl⟩ := createRound_eq_ok_iff.mp hdeal
  rfl

/-- A run that never changes the street stays on the first one. -/
lemma first_street_of_stays (hdeal : createRound d.toRoundSetup ids = .ok r₀)
    (hstays : ∀ t ∈ roundMachine.trace r₀ cs, ¬ ChangesStreet t)
    {t : Transition RoundTables RoundCommand} (ht : t ∈ roundMachine.trace r₀ cs) :
    t.before.round.street = .preFlop ∧ t.after.round.street = .preFlop := by
  have hstreets := Machine.trace_invariant_of_forall (M := roundMachine)
    (I := fun r => r.round.street = .preFlop) (fun r c r' hstay hI _ => (not_not.mp hstay).trans hI)
    (createRound_street hdeal) hstays t ht
  exact ⟨hstreets.1, hstreets.2.2⟩

/-- A run stays on the first street exactly when no accepted command takes the hand off its
street. -/
lemma stays_iff (hdeal : createRound d.toRoundSetup ids = .ok r₀) :
    (∀ t ∈ roundMachine.trace r₀ cs, ¬ ChangesStreet t) ↔
      ∀ t ∈ roundMachine.trace r₀ cs, ¬ MovesOn t.before t.command := by
  constructor
  · intro hstays t ht hmoves
    rcases (transition_spec hdeal ht).1.leaves_or_stays with ⟨-, hleft⟩ | ⟨hno, -⟩
    · exact hleft (first_street_of_stays hdeal hstays ht).2
    · exact hno hmoves
  · intro hno t ht hchanges
    rcases (transition_spec hdeal ht).1.leaves_or_stays with ⟨hmoves, -⟩ | ⟨-, hsame⟩
    · exact hno t ht hmoves
    · exact hchanges hsame

/-- **When the timeline is faithful.** After every run of commands on a dealt round the timeline
shows the streets the round went through, with every bet under the street the round was on when it
was placed, exactly when no accepted command of the run has settled the round, or advanced the
street while at least two players were in the hand. -/
theorem timeline_faithful_iff (hdeal : createRound d.toRoundSetup ids = .ok r₀)
    (cs : List RoundCommand) :
    TimelineFaithful r₀ cs ↔ ∀ t ∈ roundMachine.trace r₀ cs, ¬ MovesOn t.before t.command := by
  obtain ⟨s, hs, hname, hfiled⟩ := timeline_run hdeal cs
  rw [← stays_iff hdeal]
  constructor
  · intro h t ht hchanges
    have hlength := congrArg List.length h.streets
    rw [hs] at hlength
    simp only [visitedStreets, List.map_cons, List.map_nil, List.length_cons, List.length_nil,
      List.length_map, List.length_eq_zero_iff, right_eq_add, List.filter_eq_nil_iff] at hlength
    exact hlength t ht (by simpa using hchanges)
  · intro hstays
    have hnone : (roundMachine.trace r₀ cs).filter (fun t => ChangesStreet t) = [] :=
      List.filter_eq_nil_iff.mpr fun t ht => by simpa using hstays t ht
    have hvisited : visitedStreets r₀ cs = [.preFlop] := by
      rw [visitedStreets, hnone, createRound_street hdeal]
      rfl
    refine ⟨by rw [hs, hvisited]; simp [hname], fun t ht e he => ?_⟩
    obtain ⟨hmem, hbet⟩ := List.mem_filter.mp he
    have hledger := (transition_spec hdeal ht).2.subset (List.mem_of_mem_drop hmem)
    rw [hs, (first_street_of_stays hdeal hstays ht).1]
    exact ⟨s, List.mem_singleton_self s, hname, hfiled e hledger (by simpa using hbet)⟩

/-- Before the flop heads-up the timeline is faithful. -/
theorem timeline_faithful_iff_headsUp :
    TimelineFaithful (headsUp.tables headsUpIds)
      [.betting (.send "alice" "raise" 6 "b1" "e1"), .betting (.send "bob" "call" 0 "b2" "e2")] :=
  (timeline_faithful_iff
    (show createRound headsUp.toRoundSetup headsUpIds = .ok (headsUp.tables headsUpIds) by decide)
    [.betting (.send "alice" "raise" 6 "b1" "e1"),
      .betting (.send "bob" "call" 0 "b2" "e2")]).mpr (by decide)

/-- A check on the flop is filed before it. -/
theorem flop_filed_before_flop :
    ¬ ∀ (d : Deal) (ids : Uuids) (r₀ : RoundTables), createRound d.toRoundSetup ids = .ok r₀ →
      ∀ cs : List RoundCommand, TimelineFaithful r₀ cs := by
  intro h
  have hfaithful := h headsUp headsUpIds (headsUp.tables headsUpIds) (by decide)
    [.betting (.send "alice" "call" 0 "b1" "e1"), .betting .advanceStreet,
      .betting (.send "bob" "check" 0 "b2" "e2")]
  exact absurd hfaithful.streets (by decide)

end PokerRoom
