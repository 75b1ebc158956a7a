import PokerRoom.Hand.Closure

/-!
# Who has spoken on a street

The service keeps no record of who has acted on a street; it closes the betting as soon as nobody
owes chips.  A player who has the bet to match in front of him already when the street opens, as the
big blind has before the flop and as everybody has after it, is therefore passed over unless he
opens the street or somebody raises.

A `StreetHistory` is carried along the run and lists the accepted actions of the current street.
`StreetInvariant` relates it to the stored commitments, and `everybody_heard_iff` says exactly which
closing action leaves somebody unheard.
-/

namespace PokerRoom

open Foundation

/-! ## The history of a street -/

/-- An accepted action: who acted, and whether the bet to match was raised. -/
structure StreetAction where
  /-- The player who acted. -/
  playerId : String
  /-- He raised the bet to match. -/
  raised : Bool
deriving DecidableEq

/-- A street so far. -/
structure StreetHistory where
  /-- The rows when the betting on the street opened. -/
  opening : RoundTables
  /-- The accepted actions on the street, the last one first. -/
  actions : List StreetAction

/-- Record an accepted command: an action unless it was an answered retry, and a street that
opens. -/
def StreetHistory.record (r : RoundTables) (c : BettingCommand) (r' : RoundTables)
    (h : StreetHistory) : StreetHistory :=
  match c with
  | .placeBet data _ =>
    if r' = r then h
    else
      { h with
        actions := ⟨data.playerId,
          decide (r.round.currentHighestBet < r'.round.currentHighestBet)⟩ :: h.actions }
  | .advanceStreet => if r'.round.isActionClosed then h else ⟨r', []⟩

/-- The history of the current street after a run of the betting. -/
def streetHistory (r₀ : RoundTables) (cs : List BettingCommand) : StreetHistory :=
  ((bettingMachine.instrument StreetHistory.record).run (r₀, ⟨r₀, []⟩) cs).2

/-- Somebody raised the bet to match. -/
def Raised (actions : List StreetAction) : Prop := ∃ x ∈ actions, x.raised = true

/-- The player who made the last raise, if there was one. -/
def lastRaiser (actions : List StreetAction) : Option String :=
  (actions.find? (·.raised)).map (·.playerId)

/-- The player has acted on the street, and the last raise was his or he has acted since. -/
def HasSpoken (playerId : String) (actions : List StreetAction) : Prop :=
  (∃ x ∈ actions, x.playerId = playerId) ∧
    ∀ b ∈ lastRaiser actions,
      b = playerId ∨ ∃ x ∈ actions.takeWhile fun y => !y.raised, x.playerId = playerId

instance (playerId : String) (actions : List StreetAction) :
    Decidable (HasSpoken playerId actions) := inferInstanceAs (Decidable (_ ∧ _))

/-- Everybody who could act when the street opened and still can has spoken. -/
def EverybodyHeard (r : RoundTables) (h : StreetHistory) : Prop :=
  ∀ q ∈ r.players, q.CanAct → (∃ o ∈ h.opening.players, o.playerId = q.playerId ∧ o.CanAct) →
    HasSpoken q.playerId h.actions

instance (r : RoundTables) (h : StreetHistory) : Decidable (EverybodyHeard r h) :=
  inferInstanceAs (Decidable (∀ q ∈ r.players, _))

/-- The action of the player `p` passes over the player `q`, who can act: `q` has committed less
than the bet that results, or he had committed that much already when the street opened, and did not
open it. -/
def PassesOver (r : RoundTables) (h : StreetHistory) (p : RoundPlayer) (a : BetAction)
    (amount : Int) (q : RoundPlayer) : Prop :=
  q ≠ p ∧ q.CanAct ∧
    (q.committedThisStreet < max r.round.currentHighestBet (requestedTotal r.round p a amount) ∨
      h.opening.round.actingPlayerId ≠ some q.playerId ∧
        ∃ o ∈ h.opening.players, o.playerId = q.playerId ∧
          max r.round.currentHighestBet (requestedTotal r.round p a amount) ≤ o.committedThisStreet)

instance (r : RoundTables) (h : StreetHistory) (p : RoundPlayer) (a : BetAction) (amount : Int)
    (q : RoundPlayer) : Decidable (PassesOver r h p a amount q) :=
  inferInstanceAs (Decidable (_ ∧ _ ∧ _))

/-- The action a request names passes over somebody. -/
def PlaceBet.PassesOver (data : PlaceBet) (r : RoundTables) (h : StreetHistory) : Prop :=
  ∃ p ∈ r.players, p.playerId = data.playerId ∧
    ∃ a ∈ BetAction.ofValue? (upper data.action), ∃ q ∈ r.players,
      PokerRoom.PassesOver r h p a data.amount q

instance (data : PlaceBet) (r : RoundTables) (h : StreetHistory) :
    Decidable (data.PassesOver r h) := inferInstanceAs (Decidable (∃ p ∈ r.players, _))

/-! ## Speaking -/

variable {x : StreetAction} {actions : List StreetAction} {playerId : String}

/-- Nobody raised before the first action. -/
@[simp] lemma not_raised_nil : ¬ Raised [] := by simp [Raised]

/-- Somebody raised when the last action raises or an earlier one did. -/
@[simp] lemma raised_cons : Raised (x :: actions) ↔ x.raised = true ∨ Raised actions := by
  simp [Raised]

/-- Nobody has spoken before the first action. -/
@[simp] lemma not_hasSpoken_nil : ¬ HasSpoken playerId [] := by simp [HasSpoken]

/-- A player has spoken when the last action was his, or when it raised nothing and he had spoken
before. -/
lemma hasSpoken_cons :
    HasSpoken playerId (x :: actions) ↔
      x.playerId = playerId ∨ x.raised = false ∧ HasSpoken playerId actions := by
  unfold HasSpoken lastRaiser
  cases hr : x.raised with
  | true => simp [hr]; tauto
  | false => by_cases hx : x.playerId = playerId <;> simp [hr, hx]

/-! ## The history and the stored rows -/

variable {r r' : RoundTables} {d : Deal} {h : StreetHistory} {data : PlaceBet} {ids : Uuids}
  {p : PlayerState} {a : BetAction} {v : ValidatedAction}

/-- What the history of a street says about the stored rows while the betting is open. -/
structure StreetInvariant (s : RoundSetup) (r : RoundTables) (h : StreetHistory) : Prop where
  /-- The invariants of the betting held when the street opened. -/
  opening : BettingInvariant s h.opening
  /-- Whoever can act could act then. -/
  could_act : ∀ q ∈ r.players, q.CanAct →
    ∃ o ∈ h.opening.players, o.playerId = q.playerId ∧ o.CanAct
  /-- Whoever has spoken has matched the bet. -/
  spoken : ∀ q ∈ r.players, q.CanAct → HasSpoken q.playerId h.actions →
    q.committedThisStreet = r.round.currentHighestBet
  /-- After a raise, whoever has not spoken has not matched the bet. -/
  unspoken_raised : Raised h.actions → ∀ q ∈ r.players, q.CanAct →
    ¬ HasSpoken q.playerId h.actions → q.committedThisStreet < r.round.currentHighestBet
  /-- Without a raise, whoever has not spoken has committed what he had when the street opened. -/
  unspoken_unraised : ¬ Raised h.actions → ∀ q ∈ r.players, q.CanAct →
    ¬ HasSpoken q.playerId h.actions → ∀ o ∈ h.opening.players, o.playerId = q.playerId →
    o.committedThisStreet = q.committedThisStreet
  /-- Without a raise, only a player who opened the street or owed chips then has spoken. -/
  spoken_unraised : ¬ Raised h.actions → ∀ o ∈ h.opening.players,
    HasSpoken o.playerId h.actions → h.opening.round.actingPlayerId = some o.playerId ∨
      o.committedThisStreet < h.opening.round.currentHighestBet
  /-- A raise has increased the bet to match. -/
  highest_raised : Raised h.actions →
    h.opening.round.currentHighestBet < r.round.currentHighestBet
  /-- Without a raise the bet to match is the one the street opened with. -/
  highest_unraised : ¬ Raised h.actions →
    r.round.currentHighestBet = h.opening.round.currentHighestBet
  /-- Before the first action the turn is with the player who opens the street. -/
  fresh : h.actions = [] → r.round.actingPlayerId = h.opening.round.actingPlayerId
  /-- After it the player who has the turn owes chips. -/
  owes : h.actions ≠ [] → ∀ q ∈ r.players, r.round.actingPlayerId = some q.playerId →
    q.committedThisStreet < r.round.currentHighestBet
  /-- Without a raise, and after the first action, the player who opened the street has spoken. -/
  opener : ¬ Raised h.actions → h.actions ≠ [] → ∀ id ∈ h.opening.round.actingPlayerId,
    HasSpoken id h.actions

/-- The history of a street that opens says nothing yet. -/
lemma streetInvariant_opening (hinv : BettingInvariant d.toRoundSetup r) :
    StreetInvariant d.toRoundSetup r ⟨r, []⟩ where
  opening := hinv
  could_act q hq hcan := ⟨q, hq, rfl, hcan⟩
  spoken _ _ _ hspoken := absurd hspoken not_hasSpoken_nil
  unspoken_raised hraised := absurd hraised not_raised_nil
  unspoken_unraised _ q hq _ _ o ho hid := by
    rw [eq_of_key_eq hinv.seated.ids_nodup ho hq hid]
  spoken_unraised _ _ _ hspoken := absurd hspoken not_hasSpoken_nil
  highest_raised hraised := absurd hraised not_raised_nil
  highest_unraised _ := rfl
  fresh _ := rfl
  owes hne := absurd rfl hne
  opener _ hne := absurd rfl hne

/-- The history of a street after an action of the player. -/
def StreetHistory.acted (h : StreetHistory) (playerId : String) (raised : Bool) : StreetHistory :=
  { h with actions := ⟨playerId, raised⟩ :: h.actions }

/-- The player who acts owes chips, or he opens the street. -/
lemma StreetInvariant.actor_owes (hinv : BettingInvariant d.toRoundSetup r)
    (hstreet : StreetInvariant d.toRoundSetup r h) (happ : BetApplied r data ids p a v r') :
    h.actions = [] ∧ h.opening.round.actingPlayerId = some p.playerId ∨
      h.actions ≠ [] ∧ p.committedThisStreet < r.round.currentHighestBet := by
  have hacting := happ.acting hinv
  by_cases hfirst : h.actions = []
  · exact Or.inl ⟨hfirst, (hstreet.fresh hfirst).symm.trans hacting⟩
  · exact Or.inr ⟨hfirst, hstreet.owes hfirst p happ.accepted.mem.1 hacting⟩

/-- After an action that raises nothing the actor had opened the street, or he had committed less
than the bet to match when it opened. -/
lemma StreetInvariant.actor_opening (hinv : BettingInvariant d.toRoundSetup r)
    (hstreet : StreetInvariant d.toRoundSetup r h) (happ : BetApplied r data ids p a v r')
    (hraised : ¬ Raised h.actions) {o : RoundPlayer} (ho : o ∈ h.opening.players)
    (hid : o.playerId = p.playerId) :
    h.opening.round.actingPlayerId = some o.playerId ∨
      o.committedThisStreet < h.opening.round.currentHighestBet := by
  have hp := happ.accepted.mem.1
  have hcan := happ.accepted.permitted.canAct
  rcases hstreet.actor_owes hinv happ with ⟨-, hopener⟩ | ⟨-, howes⟩
  · exact Or.inl (hid ▸ hopener)
  · have hunspoken : ¬ HasSpoken p.playerId h.actions := fun hspoken =>
      howes.ne (hstreet.spoken p hp hcan hspoken)
    right
    rw [hstreet.unspoken_unraised hraised p hp hcan hunspoken o ho hid,
      ← hstreet.highest_unraised hraised]
    exact howes

/-- Whoever can act after an applied bet is the acting player, or somebody else who could act
before. -/
lemma BetApplied.mem_cases (hinv : BettingInvariant d.toRoundSetup r)
    (happ : BetApplied r data ids p a v r') {q : RoundPlayer} (hq : q ∈ r'.players) :
    q = p.act v ∨ q ∈ r.players ∧ p.playerId ≠ q.playerId := by
  refine ((happ.mem_iff hinv).mp hq).imp_right fun ⟨hq, hne⟩ => ⟨hq, fun hid => hne ?_⟩
  exact eq_of_key_eq hinv.seated.ids_nodup hq happ.accepted.mem.1 hid.symm

/-- Whoever can act after an applied bet could act when the street opened. -/
lemma StreetInvariant.could_act_of_betApplied (hinv : BettingInvariant d.toRoundSetup r)
    (hstreet : StreetInvariant d.toRoundSetup r h) (happ : BetApplied r data ids p a v r')
    {q : RoundPlayer} (hq : q ∈ r'.players) (hcan : q.CanAct) :
    ∃ o ∈ h.opening.players, o.playerId = q.playerId ∧ o.CanAct := by
  rcases happ.mem_cases hinv hq with rfl | ⟨hq, -⟩
  · exact hstreet.could_act p happ.accepted.mem.1 happ.accepted.permitted.canAct
  · exact hstreet.could_act q hq hcan

/-- After an applied bet the player who has the turn owes chips. -/
lemma BetApplied.next_owes (hinv' : BettingInvariant d.toRoundSetup r')
    (happ : BetApplied r data ids p a v r') (hopen : r'.round.isActionClosed = false)
    {q : RoundPlayer} (hq : q ∈ r'.players) (hacting : r'.round.actingPlayerId = some q.playerId) :
    q.committedThisStreet < r'.round.currentHighestBet := by
  obtain ⟨c, hc, hnext, howes, -⟩ := happ.open_spec hinv'.seated hopen
  rw [eq_of_key_eq hinv'.seated.ids_nodup hq hc (Option.some.inj (hacting.symm.trans hnext))]
  exact howes.2

/-- An action that raises the bet to match keeps the relation of the history and the stored rows:
only its player has spoken since. -/
lemma StreetInvariant.raised (hinv : BettingInvariant d.toRoundSetup r)
    (hinv' : BettingInvariant d.toRoundSetup r') (hstreet : StreetInvariant d.toRoundSetup r h)
    (happ : BetApplied r data ids p a v r') (hopen : r'.round.isActionClosed = false)
    (hlt : r.round.currentHighestBet < r'.round.currentHighestBet) :
    StreetInvariant d.toRoundSetup r' (h.acted p.playerId true) := by
  have hspoken : ∀ id, HasSpoken id (h.acted p.playerId true).actions ↔ p.playerId = id := by
    simp [StreetHistory.acted, hasSpoken_cons]
  have hraised : Raised (h.acted p.playerId true).actions := by simp [StreetHistory.acted]
  have hmatched : h.opening.round.currentHighestBet ≤ r.round.currentHighestBet := by
    by_cases hr : Raised h.actions
    · exact (hstreet.highest_raised hr).le
    · exact (hstreet.highest_unraised hr).ge
  constructor
  · exact hstreet.opening
  · exact fun q hq hcan => hstreet.could_act_of_betApplied hinv happ hq hcan
  · intro q hq hcan hsp
    rcases happ.mem_cases hinv hq with rfl | ⟨-, hne⟩
    · exact happ.act_eq_highest hinv hcan
    · exact absurd ((hspoken _).mp hsp) hne
  · intro _ q hq _ hsp
    rcases happ.mem_cases hinv hq with rfl | ⟨hq, -⟩
    · exact absurd ((hspoken _).mpr rfl) hsp
    · exact (hinv.state.le_highest q hq).trans_lt hlt
  · exact fun hno => absurd hraised hno
  · exact fun hno => absurd hraised hno
  · exact fun _ => hmatched.trans_lt hlt
  · exact fun hno => absurd hraised hno
  · exact fun hnil => absurd hnil (List.cons_ne_nil _ _)
  · exact fun _ q hq hacting => happ.next_owes hinv' hopen hq hacting
  · exact fun hno => absurd hraised hno

/-- An action that leaves the bet to match as it was keeps the relation of the history and the
stored rows: whoever had spoken has, and so has its player. -/
lemma StreetInvariant.stayed (hinv : BettingInvariant d.toRoundSetup r)
    (hinv' : BettingInvariant d.toRoundSetup r') (hstreet : StreetInvariant d.toRoundSetup r h)
    (happ : BetApplied r data ids p a v r') (hopen : r'.round.isActionClosed = false)
    (heq : r'.round.currentHighestBet = r.round.currentHighestBet) :
    StreetInvariant d.toRoundSetup r' (h.acted p.playerId false) := by
  have hspoken : ∀ id, HasSpoken id (h.acted p.playerId false).actions ↔
      p.playerId = id ∨ HasSpoken id h.actions := by
    simp [StreetHistory.acted, hasSpoken_cons]
  have hraised : Raised (h.acted p.playerId false).actions ↔ Raised h.actions := by
    simp [StreetHistory.acted]
  constructor
  · exact hstreet.opening
  · exact fun q hq hcan => hstreet.could_act_of_betApplied hinv happ hq hcan
  · intro q hq hcan hsp
    rcases happ.mem_cases hinv hq with rfl | ⟨hq, hne⟩
    · exact happ.act_eq_highest hinv hcan
    · rw [heq]
      exact hstreet.spoken q hq hcan (((hspoken _).mp hsp).resolve_left hne)
  · intro hr q hq hcan hsp
    rcases happ.mem_cases hinv hq with rfl | ⟨hq, -⟩
    · exact absurd ((hspoken _).mpr (Or.inl rfl)) hsp
    · rw [heq]
      exact hstreet.unspoken_raised (hraised.mp hr) q hq hcan fun hs =>
        hsp ((hspoken _).mpr (Or.inr hs))
  · intro hr q hq hcan hsp
    rcases happ.mem_cases hinv hq with rfl | ⟨hq, -⟩
    · exact absurd ((hspoken _).mpr (Or.inl rfl)) hsp
    · exact hstreet.unspoken_unraised (mt hraised.mpr hr) q hq hcan fun hs =>
        hsp ((hspoken _).mpr (Or.inr hs))
  · intro hr o ho hsp
    rcases (hspoken _).mp hsp with hid | hs
    · exact hstreet.actor_opening hinv happ (mt hraised.mpr hr) ho hid.symm
    · exact hstreet.spoken_unraised (mt hraised.mpr hr) o ho hs
  · exact fun hr => (hstreet.highest_raised (hraised.mp hr)).trans_eq heq.symm
  · exact fun hr => heq.trans (hstreet.highest_unraised (mt hraised.mpr hr))
  · exact fun hnil => absurd hnil (List.cons_ne_nil _ _)
  · exact fun _ q hq hacting => happ.next_owes hinv' hopen hq hacting
  · intro hr _ id hid
    rcases hstreet.actor_owes hinv happ with ⟨-, hopener⟩ | ⟨hne, -⟩
    · exact (hspoken _).mpr (Or.inl (Option.some.inj (hopener.symm.trans hid)))
    · exact (hspoken _).mpr (Or.inr (hstreet.opener (mt hraised.mpr hr) hne id hid))

/-! ## Every run -/

/-- What is recorded of an applied bet. -/
lemma BetApplied.record_eq (happ : BetApplied r data ids p a v r') :
    h.record r (.placeBet data ids) r' = h.acted p.playerId
      (decide (r.round.currentHighestBet < r'.round.currentHighestBet)) := by
  have hne : r' ≠ r := by
    intro heq
    have hversion : r'.round.stateVersion = r.round.version + 1 := by rw [happ.round_eq]; rfl
    have := happ.stored
    rw [heq] at hversion
    omega
  simp only [StreetHistory.record, if_neg hne, StreetHistory.acted, happ.accepted.mem.2]

/-- An accepted command of the betting keeps the relation of the history and the stored rows. -/
lemma StreetInvariant.step (hinv : BettingInvariant d.toRoundSetup r)
    (hstreet : r.round.isActionClosed = false → StreetInvariant d.toRoundSetup r h)
    {c : BettingCommand} (hstep : bettingMachine.step r c = .ok r')
    (hopen : r'.round.isActionClosed = false) :
    StreetInvariant d.toRoundSetup r' (h.record r c r') := by
  have hinv' := hinv.step hstep
  rcases betting_step_cases hinv.seated.ids_nodup hstep with
    ⟨rfl, data, ids, rfl⟩ | ⟨data, ids, p, a, v, rfl, happ⟩ | ⟨rfl, hadv⟩
  · rw [StreetHistory.record, if_pos rfl]
    exact hstreet hopen
  · have hstreet := hstreet happ.accepted.permitted.open_
    rw [happ.record_eq]
    by_cases hlt : r.round.currentHighestBet < r'.round.currentHighestBet
    · rw [decide_eq_true hlt]
      exact hstreet.raised hinv hinv' happ hopen hlt
    · rw [decide_eq_false hlt]
      refine hstreet.stayed hinv hinv' happ hopen (le_antisymm (not_lt.mp hlt) ?_)
      rw [happ.highest_eq]
      exact le_highestAfter
  · rw [StreetHistory.record, if_neg (by simp [hopen])]
    exact streetInvariant_opening hinv'

/-- The history of every run and the stored rows are related while the betting is open. -/
theorem streetInvariant_run {ids₀ : Uuids} {r₀ : RoundTables}
    (hdeal : createRound d.toRoundSetup ids₀ = .ok r₀) (cs : List BettingCommand)
    (hopen : (bettingMachine.run r₀ cs).round.isActionClosed = false) :
    StreetInvariant d.toRoundSetup (bettingMachine.run r₀ cs) (streetHistory r₀ cs) := by
  have hinv₀ := bettingInvariant_of_createRound hdeal
  have hrun := Machine.instrument_invariant (M := bettingMachine) StreetHistory.record
    (I := fun r h => BettingInvariant d.toRoundSetup r ∧
      (r.round.isActionClosed = false → StreetInvariant d.toRoundSetup r h))
    (fun _ _ _ _ hI hstep => ⟨hI.1.step hstep, StreetInvariant.step hI.1 hI.2 hstep⟩)
    ⟨hinv₀, fun _ => streetInvariant_opening hinv₀⟩ cs
  exact hrun.2 hopen

/-- **When everybody is heard.** After an applied bet everybody who could act when the street opened
and still can has spoken, exactly when the action passes over nobody. -/
theorem StreetInvariant.everybodyHeard_iff (hinv : BettingInvariant d.toRoundSetup r)
    (hstreet : StreetInvariant d.toRoundSetup r h) (happ : BetApplied r data ids p a v r') :
    EverybodyHeard r' (h.record r (.placeBet data ids) r') ↔
      ¬ ∃ q ∈ r.players, PassesOver r h p a data.amount q := by
  have hp := happ.accepted.mem.1
  have hle : ∀ q ∈ r.players, q.committedThisStreet ≤ r.round.currentHighestBet :=
    hinv.state.le_highest
  have hhigh := happ.highest_eq_max hinv
  have hspoken : ∀ q ∈ r.players, q ≠ p →
      (HasSpoken q.playerId (h.record r (.placeBet data ids) r').actions ↔
        r'.round.currentHighestBet ≤ r.round.currentHighestBet ∧
          HasSpoken q.playerId h.actions) := by
    intro q hq hne
    have hid : p.playerId ≠ q.playerId := fun hid =>
      hne (eq_of_key_eq hinv.seated.ids_nodup hq hp hid.symm)
    rw [happ.record_eq]
    simp [StreetHistory.acted, hasSpoken_cons, hid]
  constructor
  · rintro hall ⟨q, hq, hne, hcan, hpass⟩
    have hopening := hstreet.could_act q hq hcan
    obtain ⟨hkept, hsp⟩ := (hspoken q hq hne).mp
      (hall q ((happ.mem_iff hinv).mpr (Or.inr ⟨hq, hne⟩)) hcan (by
        rw [happ.record_eq]; exact hopening))
    have hmatch := hstreet.spoken q hq hcan hsp
    rw [← hhigh] at hpass
    rcases hpass with hless | ⟨hnot, o, ho, hid, hhad⟩
    · omega
    · by_cases hr : Raised h.actions
      · have hraise := hstreet.highest_raised hr
        have hole := hstreet.opening.state.le_highest o ho
        omega
      · have hsame := hstreet.highest_unraised hr
        rcases hstreet.spoken_unraised hr o ho (hid ▸ hsp) with hopener | hless
        · exact hnot (hid ▸ hopener)
        · omega
  · intro hno q hq hcan _
    rcases happ.mem_cases hinv hq with rfl | ⟨hq, hid⟩
    · rw [happ.record_eq, StreetHistory.acted, hasSpoken_cons]
      exact Or.inl rfl
    have hne : q ≠ p := fun heq => hid (heq ▸ rfl)
    obtain ⟨o, ho, hoid, -⟩ := hstreet.could_act q hq hcan
    have hpass : ¬ PassesOver r h p a data.amount q := fun hpass => hno ⟨q, hq, hpass⟩
    rw [PassesOver, ← hhigh] at hpass
    have hmatched : r'.round.currentHighestBet ≤ q.committedThisStreet :=
      not_lt.mp fun hless => hpass ⟨hne, hcan, Or.inl hless⟩
    have hkept := hmatched.trans (hle q hq)
    refine (hspoken q hq hne).mpr ⟨hkept, ?_⟩
    by_contra hunspoken
    by_cases hr : Raised h.actions
    · have := hstreet.unspoken_raised hr q hq hcan hunspoken
      omega
    have hhad := hstreet.unspoken_unraised hr q hq hcan hunspoken o ho hoid
    have hopener : h.opening.round.actingPlayerId = some q.playerId := by
      by_contra hnot
      exact hpass ⟨hne, hcan, Or.inr ⟨hnot, o, ho, hoid, by omega⟩⟩
    rcases hstreet.actor_owes hinv happ with ⟨-, hactor⟩ | ⟨hacted, -⟩
    · exact hid (Option.some.inj (hactor.symm.trans hopener))
    · exact hunspoken (hstreet.opener hr hacted _ hopener)

/-- **Nobody is skipped, exactly when.** In every run of the betting of a dealt hand, when an action
closes the betting while at least two players are in the hand, everybody who could act when the
street opened and still can has acted on it, and has acted since the last raise unless that was his
own, exactly when the action passes over nobody: nobody else who can act has committed less than the
bet that results, or had committed as much when the street opened without opening it. -/
theorem everybody_heard_iff {ids₀ : Uuids} {r₀ : RoundTables}
    (hdeal : createRound d.toRoundSetup ids₀ = .ok r₀) (cs : List BettingCommand)
    (data : PlaceBet) (ids : Uuids) (r' : RoundTables)
    (hstep : bettingMachine.step (bettingMachine.run r₀ cs) (.placeBet data ids) = .ok r')
    (hclosing : ClosingAction ⟨bettingMachine.run r₀ cs, .placeBet data ids, r'⟩ data ids)
    (_ : 2 ≤ (r'.players.filter fun p => p.hasFolded = false).length) :
    EverybodyHeard r' (streetHistory r₀ (cs ++ [.placeBet data ids])) ↔
      ¬ data.PassesOver (bettingMachine.run r₀ cs) (streetHistory r₀ cs) := by
  obtain ⟨hinv, -, -, p, a, v, happ⟩ :=
    hclosing.betApplied hdeal (Machine.mem_trace_of_step cs hstep)
  have hstreet := streetInvariant_run hdeal cs hclosing.open_before
  have hhistory : streetHistory r₀ (cs ++ [.placeBet data ids]) =
      (streetHistory r₀ cs).record (bettingMachine.run r₀ cs) (.placeBet data ids) r' := by
    rw [streetHistory, Machine.instrument_run_concat _ _ hstep]
    rfl
  rw [hhistory, hstreet.everybodyHeard_iff hinv happ, not_iff_not]
  obtain ⟨hp, hid⟩ := happ.accepted.mem
  constructor
  · exact fun ⟨q, hq, hpass⟩ => ⟨p, hp, hid, a, happ.word, q, hq, hpass⟩
  · rintro ⟨p', hp', hid', a', hword', q, hq, hpass⟩
    obtain rfl := eq_of_key_eq hinv.seated.ids_nodup hp' hp (hid'.trans hid.symm)
    obtain rfl := Option.some.inj (hword'.symm.trans happ.word)
    exact ⟨q, hq, hpass⟩

/-- A call of a raise heads-up closes the betting with both players heard. -/
theorem everybody_heard_iff_headsUp :
    EverybodyHeard
      (bettingMachine.run (headsUp.tables headsUpIds)
        [.send "alice" "raise" 6 "b1" "e1", .send "bob" "call" 0 "b2" "e2"])
      (streetHistory (headsUp.tables headsUpIds)
        [.send "alice" "raise" 6 "b1" "e1", .send "bob" "call" 0 "b2" "e2"]) :=
  (everybody_heard_iff
    (show createRound headsUp.toRoundSetup headsUpIds = .ok (headsUp.tables headsUpIds) by decide)
    [.send "alice" "raise" 6 "b1" "e1"]
    { playerId := "bob", action := "call", amount := 0 } (named ["b2", "e2"])
    (bettingMachine.run (headsUp.tables headsUpIds)
      [.send "alice" "raise" 6 "b1" "e1", .send "bob" "call" 0 "b2" "e2"])
    (by decide) ⟨rfl, by decide, by decide⟩ (by decide)).mpr (by decide)

/-- A call of the small blind heads-up closes the betting before the big blind has spoken. -/
theorem call_skips_big_blind :
    ¬ ∀ (d : Deal) (ids₀ : Uuids) (r₀ : RoundTables), 0 < d.bigBlind →
      createRound d.toRoundSetup ids₀ = .ok r₀ → ∀ (cs : List BettingCommand) data ids r',
      bettingMachine.step (bettingMachine.run r₀ cs) (.placeBet data ids) = .ok r' →
      ClosingAction ⟨bettingMachine.run r₀ cs, .placeBet data ids, r'⟩ data ids →
      2 ≤ (r'.players.filter fun p => p.hasFolded = false).length →
      EverybodyHeard r' (streetHistory r₀ (cs ++ [.placeBet data ids])) := by
  intro h
  have hheard := h headsUp headsUpIds (headsUp.tables headsUpIds) (by decide) (by decide) []
    { playerId := "alice", action := "call", amount := 0 } (named ["b1", "e1"])
    (bettingMachine.run (headsUp.tables headsUpIds) [.send "alice" "call" 0 "b1" "e1"])
    (by decide) ⟨rfl, by decide, by decide⟩ (by decide)
  exact absurd hheard (by decide)

end PokerRoom
