import PokerRoom.Foundation.FirstCommit
import PokerRoom.Application.Transactions
import PokerRoom.Hand.Reversal

/-!
# Two settlements, two reversals

A settlement checks that the round is active, a reversal that its entry is not reversed yet, on what
is committed when they read it.  Neither check is made again when they commit, and no constraint of
the database stands in for it.  `once_only_iff` says that two settlements of a round, or two
reversals of one entry, take effect once exactly when the first of them commits before the other one
has made its check.
-/

namespace PokerRoom

open Foundation

/-! ## Definitions -/

/-- The identifiers drawn for several requests: no two of them agree, and none is in the ledger. -/
structure FreshIds {ι : Type} (ids : ι → Uuids) (r : RoundTables) : Prop where
  /-- No two identifiers agree. -/
  injective : ∀ i j n m, ids i n = ids j m → i = j ∧ n = m
  /-- None is in the ledger. -/
  unused : ∀ i n, ids i n ∉ r.ledger.map (·.entryId)

/-- Two settlements of a round, before their first steps. -/
abbrev twoSettlements (requests : Bool → ResolveHandRequest) (ids : Bool → Uuids)
    (r₀ : RoundTables) :
    System Bool RoundTables Reply Rejection :=
  System.start (fun i => (requests i).handler (ids i)) r₀

/-- Two reversals of a round, before their first steps. -/
abbrev twoReversals (requests : Bool → ReverseActionRequest) (ids : Bool → Uuids)
    (r₀ : RoundTables) :
    System Bool RoundTables Reply Rejection :=
  System.start (fun i => (requests i).handler (ids i)) r₀

/-- The round passes the checks of a settlement. -/
structure ResolveHandRequest.Passes (data : ResolveHandRequest) (r : RoundTables) : Prop where
  /-- The checks of the round. -/
  round : data.checkRound r.round = .ok ()
  /-- The validation of the payouts. -/
  payouts : ∃ pots, liftDomain (validatePayoutsAgainstSidePots r.players data.payouts) = .ok pots

/-- At most one of the settlements is committed, and the ledger has gained its payouts and one entry
that completes the round, or nothing. -/
structure SettledOnce (requests : Bool → ResolveHandRequest) (ids : Bool → Uuids) (r₀ : RoundTables)
    (after : System Bool RoundTables Reply Rejection) : Prop where
  /-- At most one is committed. -/
  commits : after.commits.length ≤ 1
  /-- What the ledger has gained. -/
  ledger : after.store.ledger = r₀.ledger ++
    after.commits.flatMap fun i => (requests i).entries r₀ (ids i)

variable {r r' r₀ r₁ : RoundTables} {gameRound : Round} {roundPlayers : List RoundPlayer}

/-! ## Stale writes -/

/-- What a column holds after a flush was there before, or is new. -/
lemma writeColumn_of {α : Type} [DecidableEq α] {P : α → Prop} {read new stored : α} (hnew : P new)
    (hstored : P stored) : P (writeColumn read new stored) := by
  unfold writeColumn
  split
  · exact hstored
  · exact hnew

/-- Rows whose keys agree one by one agree in the key. -/
lemma eq_of_mem_zip {α β : Type} {f : α → β} {l l' : List α} (h : l'.map f = l.map f) {q : α × α}
    (hq : q ∈ l.zip l') : f q.2 = f q.1 := by
  induction l generalizing l' with
  | nil => simp at hq
  | cons a l ih =>
    match l' with
    | [] => simp at hq
    | a' :: l' =>
      rw [List.map_cons, List.map_cons, List.cons.injEq] at h
      rw [List.zip_cons_cons, List.mem_cons] at hq
      rcases hq with rfl | hq
      · exact h.1
      · exact ih h.2 hq

/-- A flush of players keeps what the changes have not changed. -/
lemma map_flushPlayers {β : Type} {f : RoundPlayer → β} {read new stored : List RoundPlayer}
    (hf : ∀ q ∈ read.zip new, ∀ p, f (q.1.flushColumns q.2 p) = f p) :
    (flushPlayers read new stored).map f = stored.map f := by
  rw [flushPlayers, List.map_map]
  apply List.map_congr_left
  intro p _
  simp only [Function.comp_apply]
  split
  · next old changed hfind => exact hf _ (List.mem_of_find?_eq_some hfind) p
  · rfl

/-- A flush of players that are not in the red leaves nobody in the red. -/
lemma flushPlayers_nonNegative {read new stored : List RoundPlayer}
    (hnew : ∀ p ∈ new, p.NonNegative) (hstored : ∀ p ∈ stored, p.NonNegative) :
    ∀ p ∈ flushPlayers read new stored, p.NonNegative := by
  intro q hq
  obtain ⟨p, hp, rfl⟩ := List.mem_map.mp hq
  have hold := hstored p hp
  split
  · next old changed hfind =>
    have hchanged := hnew changed (List.of_mem_zip (List.mem_of_find?_eq_some hfind)).2
    exact ⟨writeColumn_of hchanged.1 hold.1, writeColumn_of hchanged.2.1 hold.2.1,
      writeColumn_of hchanged.2.2 hold.2.2⟩
  · exact hold

/-- Rows that were read at some moment, changed and flushed satisfy the constraints if the changes
keep the seating and the bets and satisfy the others. -/
lemma flushColumns_constraints {write : RoundTables → RoundTables} {changed : RoundTables}
    (hwrite : write { r with round := gameRound, players := roundPlayers } = changed)
    (hcons : r.Constraints) (hround : changed.round.NonNegative)
    (hplayers : ∀ p ∈ changed.players, p.NonNegative)
    (hids : changed.players.map (·.playerId) = roundPlayers.map (·.playerId))
    (hseats : changed.players.map (·.seatNumber) = roundPlayers.map (·.seatNumber))
    (hbets : changed.bets = r.bets) (hpayouts : ∀ p ∈ changed.payouts, 0 ≤ p.amount)
    (hentries : (changed.ledger.map (·.entryId)).Nodup) :
    (r.flushColumns gameRound roundPlayers write).Constraints := by
  subst hwrite
  have hkeep : ∀ {β : Type} [DecidableEq β] (f : RoundPlayer → β),
      (∀ old new p, f (PlayerState.flushColumns old new p) = writeColumn (f old) (f new) (f p)) →
      (write { r with round := gameRound, players := roundPlayers }).players.map f =
        roundPlayers.map f →
      (r.flushColumns gameRound roundPlayers write).players.map f = r.players.map f := by
    intro β _ f hf hmap
    apply map_flushPlayers
    intro q hq p
    rw [hf, eq_of_mem_zip hmap hq, writeColumn_unchanged]
  have hold := hcons.round
  constructor
  · exact ⟨writeColumn_of hround.1 hold.1, writeColumn_of hround.2.1 hold.2.1,
      writeColumn_of hround.2.2.1 hold.2.2.1, writeColumn_of hround.2.2.2 hold.2.2.2⟩
  · exact flushPlayers_nonNegative hplayers hcons.players
  · rw [hkeep (·.playerId) (fun _ _ _ => rfl) hids]
    exact hcons.playerIds
  · rw [hkeep (·.seatNumber) (fun _ _ _ => rfl) hseats]
    exact hcons.seatNumbers
  · exact hbets.symm ▸ hcons.bets
  · exact hbets.symm ▸ hcons.betIds
  · exact hbets.symm ▸ hcons.idempotencyKeys
  · exact hpayouts
  · exact hentries

/-! ## New identifiers -/

/-- The identifiers of one of several requests are unused. -/
lemma FreshIds.unused_one {ι : Type} {ids : ι → Uuids} (h : FreshIds ids r) (i : ι) :
    Unused (ids i) r :=
  ⟨fun n m hnm => (h.injective i i n m hnm).2, h.unused i⟩

/-- The identifiers of a request are unused after another one has appended its entries. -/
lemma FreshIds.unused_other {ι : Type} {ids : ι → Uuids} (h : FreshIds ids r) {i j : ι}
    (hji : j ≠ i) {es : List HandLedgerEntry} (hes : ∀ e ∈ es, ∃ n, e.entryId = ids i n)
    (hledger : r'.ledger = r.ledger ++ es) : Unused (ids j) r' := by
  refine ⟨(h.unused_one j).injective, fun n hn => ?_⟩
  rw [hledger, List.map_append, List.mem_append] at hn
  rcases hn with hn | hn
  · exact h.unused j n hn
  · obtain ⟨e, he, heid⟩ := List.mem_map.mp hn
    obtain ⟨m, hm⟩ := hes e he
    exact hji (h.injective j i n m (heid.symm.trans hm)).1

/-! ## Settlements -/

section

variable {data data' : ResolveHandRequest} {ids ids' : Uuids}

/-- A settlement of rows that were read at some moment is not refused, whatever happened since. -/
lemma ResolveHandRequest.exists_commit (data : ResolveHandRequest) (hcons : r.Constraints)
    (hround : gameRound.NonNegative) (hplayers : ∀ p ∈ roundPlayers, p.NonNegative)
    (hids : Unused ids r) :
    ∃ r', data.commit ids gameRound roundPlayers r = .ok (.resolved, r') := by
  have hflush : (r.flushColumns gameRound roundPlayers (data.write · ids)).Constraints := by
    refine flushColumns_constraints rfl hcons ?_ (foldl_award_nonNegative data.awards_pos hplayers)
      (map_foldl_award fun _ _ => rfl) (map_foldl_award fun _ _ => rfl) rfl
      (data.payouts_nonneg hcons.payouts) ?_
    · refine ⟨hround.1, hround.2.1, hround.2.2.1, ?_⟩
      have hversion := Round.version_eq hround.2.2.2
      change 1 ≤ gameRound.version + 1
      have := hround.2.2.2
      omega
    · have hread : Unused ids { r with round := gameRound, players := roundPlayers } :=
        ⟨hids.injective, hids.not_mem⟩
      exact data.entryIds_nodup hread hcons.entryIds
  refine ⟨r.flushColumns gameRound roundPlayers (data.write · ids), ?_⟩
  rw [ResolveHandRequest.commit, RoundTables.flush_eq_ok_iff.mpr ⟨hflush, rfl⟩]
  rfl

/-- A settlement that commits alone settles the round as `settleRound` does. -/
lemma settled_of_commits (hcons : r.Constraints) {reply : Reply}
    (h : (data.handler ids).Commits r reply r') : Settled r data ids r' := by
  have hexec := h.exec
  rw [ResolveHandRequest.exec_handler hcons.playerIds] at hexec
  obtain ⟨r'', hsettle, heq⟩ := map_eq_ok_iff.mp hexec
  obtain ⟨-, rfl⟩ := Prod.mk.inj heq
  exact settleRound_eq_ok_iff.mp hsettle

/-- The ledger gains the entries of a settlement. -/
lemma Settled.ledger_eq (hset : Settled r data ids r') :
    r'.ledger = r.ledger ++ data.entries r ids := by
  rw [hset.after]
  exact List.append_assoc _ _ _

/-- The validation of payouts does not look at the stacks. -/
lemma Settled.validate_eq (hset : Settled r data' ids' r') (payouts : List PotPayout) :
    validatePayoutsAgainstSidePots r'.players payouts =
      validatePayoutsAgainstSidePots r.players payouts := by
  have hpots : computedPots r'.players = computedPots r.players := by
    rw [hset.after]
    exact congrArg calculateSidePots (map_foldl_award fun _ _ => rfl)
  unfold validatePayoutsAgainstSidePots
  rw [hpots]

/-- The stages of a settlement once it has read the round. -/
inductive ResolveStage (data : ResolveHandRequest) (ids : Uuids) (r₀ : RoundTables)
    (p : Handler) : Prop
  /-- It has checked the round. -/
  | checked (check : data.checkRound r₀.round = .ok ()) (stage : p = data.readPlayers ids r₀.round)
  /-- It has passed its checks. -/
  | passed (pass : data.Passes r₀) (stage : p = .commit (data.commit ids r₀.round r₀.players))
  /-- It has not passed them. -/
  | failed (fail : ¬ data.Passes r₀) {e : Rejection} (stage : p = .failed e)

/-- The first step of a settlement checks the round. -/
lemma resolveStage_handler :
    ResolveStage data ids r₀ ((data.handler ids).progress r₀) := by
  simp only [ResolveHandRequest.handler, Transaction.progress]
  cases hcheck : data.checkRound r₀.round with
  | ok u => exact .checked hcheck rfl
  | error e => exact .failed (fun h => by rw [h.round] at hcheck; cases hcheck) rfl

/-- The next step of a settlement that nobody has overtaken. -/
lemma ResolveStage.progress {p : Handler} (h : ResolveStage data ids r₀ p) (hcons : r₀.Constraints)
    (hids : Unused ids r₀) : ResolveStage data ids r₀ (p.progress r₀) := by
  cases h with
  | checked check stage =>
    rw [stage]
    simp only [ResolveHandRequest.readPlayers, Transaction.progress]
    cases hpayouts : liftDomain (validatePayoutsAgainstSidePots r₀.players data.payouts) with
    | ok pots => exact .passed ⟨check, pots, hpayouts⟩ rfl
    | error e =>
      refine .failed (fun h => ?_) rfl
      obtain ⟨pots, hpots⟩ := h.payouts
      rw [hpots] at hpayouts
      cases hpayouts
  | passed pass stage =>
    obtain ⟨r', hcommit⟩ := data.exists_commit hcons hcons.round hcons.players hids
    rw [stage]
    simp only [Transaction.progress, hcommit]
    exact .passed pass rfl
  | failed fail stage =>
    rw [stage]
    exact .failed fail rfl

/-- When another settlement commits, a settlement that has read the round before commits exactly if
it passes its checks, and one that has not does not. -/
lemma resolve_commits_iff (hcons : r₀.Constraints) {i j : Bool} {ids : Bool → Uuids}
    (hfresh : FreshIds ids r₀) (hji : j ≠ i) (requests : Bool → ResolveHandRequest) {reply : Reply}
    (hfirst : ((requests i).handler (ids i)).Commits r₀ reply r₁) (n : ℕ) :
    (∃ reply' r',
      ((Transaction.progress r₀)^[n] ((requests j).handler (ids j))).Commits r₁ reply' r') ↔
        0 < n ∧ (requests j).Passes r₀ := by
  have hset := settled_of_commits hcons hfirst
  have hids₁ : Unused (ids j) r₁ := by
    refine hfresh.unused_other hji (fun e he => ?_) hset.ledger_eq
    have hid := List.mem_map_of_mem (f := (·.entryId)) he
    rw [ResolveHandRequest.entryIds] at hid
    obtain ⟨m, -, hm⟩ := List.mem_map.mp hid
    exact ⟨m, hm.symm⟩
  cases n with
  | zero =>
    -- the round that it reads is completed
    refine iff_of_false ?_ (by simp)
    rintro ⟨reply', r', hcommits⟩
    have hactive := (settled_of_commits hset.constraints hcommits).status
    rw [hset.after] at hactive
    cases hactive
  | succ n =>
    rw [Function.iterate_succ_apply]
    have hstage : ResolveStage (requests j) (ids j) r₀
        ((Transaction.progress r₀)^[n] (((requests j).handler (ids j)).progress r₀)) :=
      Function.Iterate.rec _ resolveStage_handler
        (fun _ h => h.progress hcons (hfresh.unused_one j)) n
    generalize (Transaction.progress r₀)^[n] (((requests j).handler (ids j)).progress r₀) =
      p at hstage ⊢
    cases hstage with
    | checked check stage =>
      rw [stage]
      simp only [ResolveHandRequest.readPlayers, Transaction.commits_read_iff,
        Transaction.commits_check_iff, Transaction.commits_commit_iff, hset.validate_eq]
      constructor
      · rintro ⟨reply', r', pots, hpots, -⟩
        exact ⟨Nat.succ_pos n, check, pots, hpots⟩
      · rintro ⟨-, -, pots, hpots⟩
        obtain ⟨r', hcommit⟩ := (requests j).exists_commit hset.constraints hcons.round
          hset.constraints.players hids₁
        exact ⟨.resolved, r', pots, hpots, hcommit⟩
    | passed pass stage =>
      obtain ⟨r', hcommit⟩ := (requests j).exists_commit hset.constraints hcons.round
        hcons.players hids₁
      rw [stage]
      exact iff_of_true ⟨.resolved, r', .commit hcommit⟩ ⟨Nat.succ_pos n, pass⟩
    | failed fail stage =>
      rw [stage]
      refine iff_of_false ?_ fun h => fail h.2
      rintro ⟨reply', r', hcommits⟩
      cases hcommits

/-- At most one of two settlements takes effect exactly when the first of them commits before the
other one has read the round, unless the other one does not pass its checks. -/
lemma settledOnce_iff (hcons : r₀.Constraints) {ids : Bool → Uuids} (hfresh : FreshIds ids r₀)
    (requests : Bool → ResolveHandRequest) {schedule : List Bool}
    (hended : ∀ i, (((twoSettlements requests ids r₀).run schedule).pending i).Ended) :
    SettledOnce requests ids r₀ ((twoSettlements requests ids r₀).run schedule) ↔
      ¬ System.PassedBeforeCommit (twoSettlements requests ids r₀) 0
        (fun i => (requests i).Passes r₀) schedule := by
  rw [← System.commits_length_le_one_iff (by decide)
    (fun i j n reply s₁ hji hfirst =>
      resolve_commits_iff hcons hfresh hji requests hfirst n) hended]
  refine ⟨fun h => h.commits, fun hle => ⟨hle, ?_⟩⟩
  match hcommits : ((twoSettlements requests ids r₀).run schedule).commits with
  | [] =>
    have hstore := (System.before_commit (c := twoSettlements requests ids r₀) hcommits).1
    rw [hstore]
    simp [System.start]
  | [i] =>
    obtain ⟨reply, halone⟩ := System.run_one_commit hcommits
    rw [(settled_of_commits hcons halone).ledger_eq]
    simp
  | i :: j :: rest =>
    rw [hcommits] at hle
    simp at hle

end

/-! ## Reversals -/

section

variable {data : ReverseActionRequest} {ids : Uuids} {original : HandLedgerEntry} {reply : Reply}

/-- A reversal that is written to rows that were read at some moment is not refused, whatever
happened since. -/
lemma ReverseActionRequest.exists_commit (data : ReverseActionRequest) (original : HandLedgerEntry)
    (hcons : r.Constraints) (hround : gameRound.NonNegative)
    (hplayers : ∀ p ∈ roundPlayers, p.NonNegative) (hids : Unused ids r) :
    ∃ reply r', data.commit ids original gameRound roundPlayers r = .ok (reply, r') := by
  have hentries : ((r.ledger ++ [reversalEntry original data ids]).map (·.entryId)).Nodup :=
    hids.append (n := 1) hcons.entryIds rfl
  have hflush : (r.flushColumns gameRound roundPlayers
      (data.write original · ids)).Constraints := by
    rcases data.write_cases original { r with round := gameRound, players := roundPlayers } ids with
      ⟨name, -, hpos, hw⟩ | ⟨-, hw⟩
    · refine flushColumns_constraints hw hcons ⟨le_max_left _ _, hround.2⟩
        (forall_updateFirst hplayers fun p hp _ => ?_) (map_updateFirst_of_eq _ fun _ => rfl)
        (map_updateFirst_of_eq _ fun _ => rfl) rfl hcons.payouts hentries
      exact ⟨add_nonneg (hplayers p hp).1 hpos.le, le_max_left _ _, le_max_left _ _⟩
    · exact flushColumns_constraints hw hcons hround hplayers rfl rfl rfl hcons.payouts hentries
  refine ⟨.reversed (reversalEntry original data ids),
    r.flushColumns gameRound roundPlayers (data.write original · ids), ?_⟩
  rw [ReverseActionRequest.commit, RoundTables.flush_eq_ok_iff.mpr ⟨hflush, rfl⟩]
  rfl

/-- A reversal that commits alone reverses the entry as `reverseAction` does. -/
lemma reversed_of_commits (hcons : r.Constraints) (h : (data.handler ids).Commits r reply r') :
    ∃ original, Reversed r data ids original r' := by
  have hexec := h.exec
  rw [ReverseActionRequest.exec_handler hcons.playerIds] at hexec
  obtain ⟨⟨entry, r''⟩, hreverse, heq⟩ := map_eq_ok_iff.mp hexec
  obtain ⟨-, rfl⟩ := Prod.mk.inj heq
  obtain ⟨original, hreversed, -⟩ := reverseAction_eq_ok_iff.mp hreverse
  exact ⟨original, hreversed⟩

/-- A reversal that is to read the ledger does not commit once the entry is reversed. -/
lemma not_commits_readLedger (hreversed : some data.originalEntryId ∈ reversedIds r.ledger) :
    ¬ (data.readLedger ids original gameRound).Commits r reply r' := by
  rw [ReverseActionRequest.readLedger, Transaction.commits_read_iff, Transaction.commits_check_iff]
  rintro ⟨_, hnew, -⟩
  exact data.checkNotReversed_eq_ok_iff.mp hnew hreversed

/-- Neither does one that is to read the entry. -/
lemma not_commits_readOriginal (hreversed : some data.originalEntryId ∈ reversedIds r.ledger) :
    ¬ (data.readOriginal ids gameRound).Commits r reply r' := by
  rw [ReverseActionRequest.readOriginal, Transaction.commits_read_iff]
  split
  · intro h
    cases h
  · rw [Transaction.commits_check_iff]
    rintro ⟨-, -, h⟩
    exact not_commits_readLedger hreversed h

/-- A reversal has made its checks, and has read the round. -/
def ReversalPassed (data : ReverseActionRequest) (ids : Uuids) (original : HandLedgerEntry)
    (r₀ : RoundTables) (p : Handler) : Prop :=
  p = data.readPlayers ids original r₀.round ∨
    p = .commit (data.commit ids original r₀.round r₀.players)

/-- A reversal that has made its checks has made them still after a step. -/
lemma ReversalPassed.progress {p : Handler} (h : ReversalPassed data ids original r₀ p)
    (hcons : r₀.Constraints) (hids : Unused ids r₀) :
    ReversalPassed data ids original r₀ (p.progress r₀) := by
  obtain ⟨reply, r', hcommit⟩ := data.exists_commit original hcons hcons.round hcons.players hids
  rcases h with rfl | rfl
  · unfold ReverseActionRequest.readPlayers
    split
    · exact Or.inr rfl
    · next hchips =>
      left
      simp only [Transaction.progress, hcommit, ReverseActionRequest.readPlayers, if_neg hchips]
  · right
    simp only [Transaction.progress, hcommit]

/-- A reversal that has made its checks commits, whatever happened since. -/
lemma ReversalPassed.commits {p : Handler} (h : ReversalPassed data ids original r₀ p)
    (hcons₀ : r₀.Constraints) (hcons : r.Constraints) (hids : Unused ids r) :
    ∃ reply r', p.Commits r reply r' := by
  rcases h with rfl | rfl
  · obtain ⟨reply, r', hcommit⟩ :=
      data.exists_commit original hcons hcons₀.round hcons.players hids
    unfold ReverseActionRequest.readPlayers
    split
    · exact ⟨reply, r', .read (.commit hcommit)⟩
    · exact ⟨reply, r', .commit hcommit⟩
  · obtain ⟨reply, r', hcommit⟩ :=
      data.exists_commit original hcons hcons₀.round hcons₀.players hids
    exact ⟨reply, r', .commit hcommit⟩

/-- When another reversal of the same entry commits, a reversal that has read the ledger before
commits, and one that has not does not. -/
lemma reverse_commits_iff (hcons : r₀.Constraints) {i j : Bool} {ids : Bool → Uuids}
    (hfresh : FreshIds ids r₀) (hji : j ≠ i) (requests : Bool → ReverseActionRequest)
    (hsame : (requests j).originalEntryId = (requests i).originalEntryId)
    (hfirst : ((requests i).handler (ids i)).Commits r₀ reply r₁) (n : ℕ) :
    (∃ reply' r',
      ((Transaction.progress r₀)^[n] ((requests j).handler (ids j))).Commits r₁ reply' r') ↔
        2 < n ∧ True := by
  obtain ⟨original, hrev⟩ := reversed_of_commits hcons hfirst
  have hfound := hrev.found
  have hnew := hrev.not_reversed
  rw [← hsame] at hfound hnew
  have hreversed : some (requests j).originalEntryId ∈ reversedIds r₁.ledger := by
    rw [hrev.ledger_eq, hsame]
    simp [reversedIds, reversalEntry]
  -- the first two steps read the round and the entry
  have hfirstStep : ((requests j).handler (ids j)).progress r₀ =
      (requests j).readOriginal (ids j) r₀.round := rfl
  have hsecondStep : ((requests j).readOriginal (ids j) r₀.round).progress r₀ =
      (requests j).readLedger (ids j) original r₀.round := by
    simp only [ReverseActionRequest.readOriginal, Transaction.progress, hfound,
      require_of hrev.not_correction, Transaction.check_ok]
  obtain _ | _ | _ | n := n
  · refine iff_of_false ?_ (by simp)
    rintro ⟨reply', r', hcommits⟩
    exact not_commits_readOriginal hreversed (Transaction.commits_read_iff.mp hcommits)
  · refine iff_of_false ?_ (by simp)
    rintro ⟨reply', r', hcommits⟩
    exact not_commits_readOriginal hreversed hcommits
  · refine iff_of_false ?_ (by simp)
    rintro ⟨reply', r', hcommits⟩
    rw [Function.iterate_succ_apply, hfirstStep, Function.iterate_succ_apply,
      hsecondStep] at hcommits
    exact not_commits_readLedger hreversed hcommits
  · have hthirdStep : ((requests j).readLedger (ids j) original r₀.round).progress r₀ =
        (requests j).readPlayers (ids j) original r₀.round := by
      have hcheck := (requests j).checkNotReversed_eq_ok_iff (u := ()).mpr hnew
      simp only [ReverseActionRequest.readLedger, Transaction.progress, hcheck,
        Transaction.check_ok]
    rw [Function.iterate_succ_apply, hfirstStep, Function.iterate_succ_apply, hsecondStep,
      Function.iterate_succ_apply, hthirdStep]
    have hpassed : ReversalPassed (requests j) (ids j) original r₀ ((Transaction.progress r₀)^[n]
        ((requests j).readPlayers (ids j) original r₀.round)) :=
      Function.Iterate.rec _ (Or.inl rfl) (fun _ h => h.progress hcons (hfresh.unused_one j)) n
    refine iff_of_true (hpassed.commits hcons hrev.constraints ?_) ⟨by omega, trivial⟩
    refine hfresh.unused_other hji (fun e he => ?_) hrev.ledger_eq
    exact ⟨0, by rw [List.mem_singleton.mp he]; rfl⟩

/-- Every commit of a reversal records one reversal of its entry. -/
lemma ReverseActionRequest.commitsOnly_handler (data : ReverseActionRequest) (ids : Uuids) :
    (data.handler ids).CommitsOnly fun r r' =>
      reversedIds r'.ledger = reversedIds r.ledger ++ [some data.originalEntryId] := by
  have hcommit : ∀ original gameRound roundPlayers r reply r',
      data.commit ids original gameRound roundPlayers r = .ok (reply, r') →
      reversedIds r'.ledger = reversedIds r.ledger ++ [some data.originalEntryId] := by
    intro original gameRound roundPlayers r reply r' hcommit
    obtain ⟨r'', hflush, hreply⟩ := bind_eq_ok_iff.mp hcommit
    obtain ⟨-, rfl⟩ := Prod.mk.inj (Except.ok.inj hreply)
    obtain ⟨-, rfl⟩ := RoundTables.flush_eq_ok_iff.mp hflush
    change reversedIds (data.write original _ ids).ledger = _
    rw [data.ledger_write, reversedIds_append]
    simp [reversedIds, reversalEntry]
  intro r r₁
  simp only
  split
  · trivial
  · refine .check fun _ r₂ => .check fun _ => ?_
    unfold ReverseActionRequest.readPlayers
    split
    · exact fun r₃ => hcommit _ _ _
    · exact fun r₃ => hcommit _ _ _ r₃

/-- At most one reversal of the entry is recorded after two requests to reverse it exactly when the
first of them commits before the other one has read the ledger. -/
lemma reversedOnce_iff (hcons : r₀.Constraints) (hnd : (reversedIds r₀.ledger).Nodup)
    {ids : Bool → Uuids} (hfresh : FreshIds ids r₀) (requests : Bool → ReverseActionRequest)
    {entryId : String} (hentry : ∀ i, (requests i).originalEntryId = entryId) {schedule : List Bool}
    (hended : ∀ i, (((twoReversals requests ids r₀).run schedule).pending i).Ended) :
    (reversedIds ((twoReversals requests ids r₀).run schedule).store.ledger).count
      (some entryId) ≤ 1 ↔
      ¬ System.PassedBeforeCommit (twoReversals requests ids r₀) 2 (fun _ => True) schedule := by
  rw [← System.commits_length_le_one_iff (by decide)
    (fun i j n reply r₁ hji hfirst => reverse_commits_iff hcons hfresh hji requests
      ((hentry j).trans (hentry i).symm) hfirst n) hended]
  -- every commit records one reversal of the entry
  have hcount := Discipline.induction_of_commitsOnly
    (fun i => (requests i).commitsOnly_handler (ids i))
    (I := fun done r => (reversedIds r.ledger).count (some entryId) =
      (reversedIds r₀.ledger).count (some entryId) + done.length)
    (fun i done r r' hrecord hI => by
      rw [hrecord, List.count_append, hI, hentry i, List.count_singleton_self, List.length_append,
        List.length_singleton, add_assoc]) (s := r₀) rfl schedule
  rw [hcount]
  constructor
  · intro h
    omega
  · intro hle
    match hcommits : ((twoReversals requests ids r₀).run schedule).commits with
    | [] => simpa using List.nodup_iff_count_le_one.mp hnd (some entryId)
    | [i] =>
      -- it was not reversed before
      obtain ⟨reply, halone⟩ := System.run_one_commit hcommits
      obtain ⟨original, hrev⟩ := reversed_of_commits hcons halone
      have hzero := List.count_eq_zero.mpr hrev.not_reversed
      rw [hentry i] at hzero
      simp [hzero]
    | i :: j :: rest =>
      rw [hcommits] at hle
      simp at hle

end

/-! ## Every schedule -/

/-- The entries of a settlement reverse nothing. -/
lemma ResolveHandRequest.reversedIds_entries (data : ResolveHandRequest) (r : RoundTables)
    (ids : Uuids) : reversedIds (data.entries r ids) = [] := by
  apply reversedIds_eq_nil
  intro e he
  rcases List.mem_append.mp he with he | he
  · obtain ⟨n, hn, rfl⟩ := List.mem_mapIdx.mp he
    exact LedgerEntryType.noConfusion
  · rw [List.mem_singleton.mp he]
    exact LedgerEntryType.noConfusion

/-- An accepted command on a round records no second reversal of an entry. -/
lemma RoundStep.reversedIds_nodup {c : RoundCommand} (hstep : RoundStep r c r')
    (h : (reversedIds r.ledger).Nodup) : (reversedIds r'.ledger).Nodup := by
  have hother : ∀ {e : HandLedgerEntry}, e.entryType ≠ .actionReversed →
      (reversedIds (r.ledger ++ [e])).Nodup := by
    intro e he
    rwa [reversedIds_concat_of_ne r.ledger he]
  cases hstep with
  | retried => exact h
  | bet happ =>
    rw [happ.after]
    exact hother LedgerEntryType.noConfusion
  | street hadv => cases hadv.outcome with
    | settleHand | showdown | nextStreet => exact h
  | settled hc hset =>
    rwa [hset.ledger_eq, reversedIds_append, ResolveHandRequest.reversedIds_entries,
      List.append_nil]
  | @reversed data ids original _ hrev =>
    have hone : reversedIds [reversalEntry original data ids] = [some data.originalEntryId] := rfl
    rw [hrev.ledger_eq, reversedIds_append, hone, ← List.concat_eq_append]
    exact h.concat hrev.not_reversed
  | adjusted | reopened | corrected => exact hother LedgerEntryType.noConfusion

/-- In every run of commands on a dealt round no entry is reversed twice. -/
lemma reversedIds_nodup_run {d : Deal} {ids₀ : Uuids} {rd : RoundTables}
    (hdeal : createRound d.toRoundSetup ids₀ = .ok rd) (cs : List RoundCommand) :
    (reversedIds (roundMachine.run rd cs).ledger).Nodup := by
  refine (round_run_invariant hdeal (I := fun r => (reversedIds r.ledger).Nodup)
    (fun r c r' _ h hstep => hstep.reversedIds_nodup h) ?_ cs).2
  obtain ⟨-, -, rfl⟩ := createRound_eq_ok_iff.mp hdeal
  rw [reversedIds_eq_nil]
  · exact List.nodup_nil
  · intro e he
    rcases ((commitmentLedger_tables d ids₀).commits e he).kind with hkind | hkind | hkind <;>
      rw [hkind] <;> exact LedgerEntryType.noConfusion

/-- **When settlements and reversals take effect once.** Take a dealt round after any run of
commands, and let two requests to resolve the hand, or two requests to reverse the same ledger
entry, interleave on it in any way until both have ended.  At most one settlement is committed and
the ledger gains its entries alone, exactly when the first commit does not come after the other
request, if that one passes its checks, has read the round; at most one reversal of the entry is
recorded exactly when the first commit does not come after the other request has read the ledger. -/
theorem once_only_iff {d : Deal} {ids₀ : Uuids} {rd : RoundTables}
    (hdeal : createRound d.toRoundSetup ids₀ = .ok rd) (cs : List RoundCommand) {ids : Bool → Uuids}
    (hfresh : FreshIds ids (roundMachine.run rd cs)) (schedule : List Bool) :
    (∀ requests : Bool → ResolveHandRequest,
      (∀ i,
        (((twoSettlements requests ids (roundMachine.run rd cs)).run schedule).pending i).Ended) →
      (SettledOnce requests ids (roundMachine.run rd cs)
          ((twoSettlements requests ids (roundMachine.run rd cs)).run schedule) ↔
        ¬ System.PassedBeforeCommit (twoSettlements requests ids (roundMachine.run rd cs)) 0
          (fun i => (requests i).Passes (roundMachine.run rd cs)) schedule)) ∧
    ∀ (requests : Bool → ReverseActionRequest) (entryId : String),
      (∀ i, (requests i).originalEntryId = entryId) →
      (∀ i, (((twoReversals requests ids (roundMachine.run rd cs)).run schedule).pending i).Ended) →
      ((reversedIds ((twoReversals requests ids (roundMachine.run rd cs)).run
          schedule).store.ledger).count (some entryId) ≤ 1 ↔
        ¬ System.PassedBeforeCommit (twoReversals requests ids (roundMachine.run rd cs)) 2
          (fun _ => True) schedule) := by
  have hcons : (roundMachine.run rd cs).Constraints :=
    constraints_run (createRound_eq_ok_iff.mp hdeal).2.1 cs
  exact ⟨fun requests hended => settledOnce_iff hcons hfresh requests hended,
    fun requests entryId hentry hended =>
      reversedOnce_iff hcons (reversedIds_nodup_run hdeal cs) hfresh requests hentry hended⟩

/-- Identifiers drawn for two requests: the digit of the request and as many marks as were drawn
before. -/
def drawn (i : Bool) : Uuids := fun n =>
  String.ofList ((if i then '1' else '0') :: List.replicate n '+')

/-- They are new where no identifier begins with one of the digits. -/
lemma freshIds_drawn (h : ∀ e ∈ r.ledger, e.entryId.toList.head? ≠ some '0' ∧
    e.entryId.toList.head? ≠ some '1') : FreshIds drawn r := by
  have hlist : ∀ i n, (drawn i n).toList = (if i then '1' else '0') :: List.replicate n '+' :=
    fun i n => String.toList_ofList
  constructor
  · intro i j n m heq
    have hcons := congrArg String.toList heq
    rw [hlist, hlist, List.cons.injEq] at hcons
    refine ⟨?_, by simpa using congrArg List.length hcons.2⟩
    have hdigit := hcons.1
    revert hdigit
    cases i <;> cases j <;> decide
  · intro i n hmem
    obtain ⟨e, he, hid⟩ := List.mem_map.mp hmem
    have hhead := h e he
    rw [hid, hlist] at hhead
    cases i
    · exact hhead.1 rfl
    · exact hhead.2 rfl

/-- A hand is settled and asked to be settled again; its big blind is reversed and asked to be
reversed again. -/
theorem once_only_iff_headsUp :
    (SettledOnce (fun _ => foldedHandPayout) drawn (headsUp.tables headsUpIds)
        ((twoSettlements (fun _ => foldedHandPayout) drawn (headsUp.tables headsUpIds)).run
          [false, false, false, true, true, true, true, true]) ↔
      ¬ System.PassedBeforeCommit
        (twoSettlements (fun _ => foldedHandPayout) drawn (headsUp.tables headsUpIds)) 0
        (fun _ => foldedHandPayout.Passes (headsUp.tables headsUpIds))
        [false, false, false, true, true, true, true, true]) ∧
    ((reversedIds ((twoReversals (fun _ => { originalEntryId := "bb" }) drawn
          (headsUp.tables headsUpIds)).run
          [true, true, true, true, true, false, false, false]).store.ledger).count (some "bb") ≤ 1 ↔
      ¬ System.PassedBeforeCommit
        (twoReversals (fun _ => { originalEntryId := "bb" }) drawn (headsUp.tables headsUpIds)) 2
        (fun _ => True) [true, true, true, true, true, false, false, false]) := by
  have hdeal : createRound headsUp.toRoundSetup headsUpIds = .ok (headsUp.tables headsUpIds) := by
    decide
  have hfresh : FreshIds drawn (roundMachine.run (headsUp.tables headsUpIds) []) :=
    freshIds_drawn (by decide)
  exact ⟨(once_only_iff hdeal [] hfresh [false, false, false, true, true, true, true, true]).1
      (fun _ => foldedHandPayout) (by decide),
    (once_only_iff hdeal [] hfresh [true, true, true, true, true, false, false, false]).2
      (fun _ => { originalEntryId := "bb" }) "bb" (by simp) (by decide)⟩

/-- Two settlements that have both read the round are both committed, and two reversals that have
both read the ledger are both recorded. -/
theorem settled_and_reversed_twice :
    (¬ ∀ (d : Deal) (ids₀ : Uuids) (rd : RoundTables), createRound d.toRoundSetup ids₀ = .ok rd →
      ∀ (cs : List RoundCommand) (ids : Bool → Uuids), FreshIds ids (roundMachine.run rd cs) →
      ∀ (schedule : List Bool) (requests : Bool → ResolveHandRequest),
      (∀ i,
        (((twoSettlements requests ids (roundMachine.run rd cs)).run schedule).pending i).Ended) →
      SettledOnce requests ids (roundMachine.run rd cs)
        ((twoSettlements requests ids (roundMachine.run rd cs)).run schedule)) ∧
    ¬ ∀ (d : Deal) (ids₀ : Uuids) (rd : RoundTables), createRound d.toRoundSetup ids₀ = .ok rd →
      ∀ (cs : List RoundCommand) (ids : Bool → Uuids), FreshIds ids (roundMachine.run rd cs) →
      ∀ (schedule : List Bool) (requests : Bool → ReverseActionRequest) (entryId : String),
      (∀ i, (requests i).originalEntryId = entryId) →
      (∀ i, (((twoReversals requests ids (roundMachine.run rd cs)).run schedule).pending i).Ended) →
      (reversedIds ((twoReversals requests ids (roundMachine.run rd cs)).run
        schedule).store.ledger).count (some entryId) ≤ 1 := by
  have hdeal : createRound headsUp.toRoundSetup headsUpIds = .ok (headsUp.tables headsUpIds) := by
    decide
  constructor
  · intro h
    have honce := h headsUp headsUpIds _ hdeal [.betting (.send "alice" "fold" 0 "b1" "e1")] drawn
      (freshIds_drawn (by decide)) [false, true, false, true, false, true]
      (fun _ => foldedHandPayout) (by decide)
    exact absurd honce.commits (by decide)
  · intro h
    have honce := h headsUp headsUpIds _ hdeal [] drawn (freshIds_drawn (by decide))
      [false, false, false, true, true, true, false, false, true, true]
      (fun _ => { originalEntryId := "bb" }) "bb" (by simp) (by decide)
    exact absurd honce (by decide)

end PokerRoom
