import PokerRoom.Foundation.Transactions
import Mathlib.Logic.Function.Iterate

/-!
# The first commit

Until somebody commits, every client has carried out alone as many steps of its transaction as it
had turns (`before_commit`).  When two clients commit, the first one commits as if it ran alone, and
the second one goes on, on the store that the first one leaves, with what it has to do by then
(`run_two_commits`).

`commits_length_le_one_iff` is the rule for requests that check and then act.  Where the second of
two requests commits exactly if it is acceptable and has passed its check before, at most one of two
requests commits exactly if the other one has not passed its check by the time of the first commit.
-/

namespace Foundation

namespace Transaction

variable {σ ρ ε : Type*} {p : Transaction σ ρ ε} {s s' : σ} {reply : ρ}

/-- What is left of a transaction after a step of it alone, as long as it does not commit. -/
def progress (s : σ) : Transaction σ ρ ε → Transaction σ ρ ε
  | read next => next s
  | compute next => next
  | commit write =>
    match write s with
    | .ok _ => commit write
    | .error e => failed e
  | answered reply => answered reply
  | failed e => failed e

/-- A transaction commits alone exactly if it does so after a step of it alone. -/
lemma commits_progress_iff : (p.progress s).Commits s reply s' ↔ p.Commits s reply s' := by
  cases p with
  | read next => exact commits_read_iff.symm
  | compute next => exact ⟨.compute, fun h => by cases h; assumption⟩
  | commit write =>
    simp only [progress]
    split
    · rfl
    · next e hwrite =>
      refine iff_of_false (fun h => by cases h) fun h => ?_
      rw [commits_commit_iff, hwrite] at h
      cases h
  | answered | failed => rfl

/-- A transaction that commits alone does so however many steps of it were carried out before. -/
lemma commits_iterate_progress_iff (n : ℕ) :
    ((progress s)^[n] p).Commits s reply s' ↔ p.Commits s reply s' := by
  induction n with
  | zero => rfl
  | succ n ih => rw [Function.iterate_succ_apply', commits_progress_iff, ih]

/-- A transaction that has still to commit has not ended. -/
lemma Commits.not_ended (h : p.Commits s reply s') : ¬ p.Ended := by
  cases h with
  | read | compute | commit => exact id

end Transaction

namespace System

variable {ι σ ρ ε : Type*} [DecidableEq ι] {c : System ι σ ρ ε} {i j : ι} {schedule : List ι}

/-! ## Before the first commit -/

/-- The turn of a client is a step of its transaction alone, or its commit. -/
lemma turn_cases (c : System ι σ ρ ε) (i : ι) :
    ((c.turn i).store = c.store ∧ (c.turn i).commits = c.commits ∧
        (c.turn i).pending i = (c.pending i).progress c.store) ∨
      ∃ write reply s, c.pending i = .commit write ∧ write c.store = .ok (reply, s) ∧
        c.turn i = ⟨s, Function.update c.pending i (.answered reply), c.commits ++ [i]⟩ := by
  have hspec := turn_spec c i
  generalize c.turn i = c' at hspec ⊢
  cases hspec with
  | idle h =>
    refine Or.inl ⟨rfl, rfl, ?_⟩
    cases hp : c.pending i with
    | answered | failed => rfl
    | read | compute | commit => rw [hp] at h; exact h.elim
  | read h => exact Or.inl ⟨rfl, rfl, by simp [h, Transaction.progress]⟩
  | compute h => exact Or.inl ⟨rfl, rfl, by simp [h, Transaction.progress]⟩
  | refused h hwrite => exact Or.inl ⟨rfl, rfl, by simp [h, hwrite, Transaction.progress]⟩
  | @committed write reply s h hwrite => exact Or.inr ⟨write, reply, s, h, hwrite, rfl⟩

/-- As long as nobody commits the store stays, and every client carries out its transaction
alone. -/
theorem before_commit (hnone : (c.run schedule).commits = c.commits) :
    (c.run schedule).store = c.store ∧ ∀ i, (c.run schedule).pending i =
      (Transaction.progress c.store)^[schedule.count i] (c.pending i) := by
  revert hnone
  refine run_induction (I := fun taken c' => c'.commits = c.commits → c'.store = c.store ∧
    ∀ i, c'.pending i = (Transaction.progress c.store)^[taken.count i] (c.pending i))
    (fun _ => ⟨rfl, fun _ => rfl⟩) ?_ schedule
  intro taken i hI hnone
  have hbefore : (c.run taken).commits = c.commits :=
    ((hnone ▸ commits_prefix_turn (c.run taken) i).eq_of_length_le
      (commits_prefix_run c taken).length_le)
  obtain ⟨hstore, hpending⟩ := hI hbefore
  have hstep : ((c.run taken).turn i).store = c.store ∧
      ((c.run taken).turn i).pending i = ((c.run taken).pending i).progress c.store := by
    rcases turn_cases (c.run taken) i with ⟨hsame, -, hprogress⟩ | ⟨write, reply, s, -, -, hturn⟩
    · exact ⟨hsame.trans hstore, hstore ▸ hprogress⟩
    · rw [hturn] at hnone
      have hlength := congrArg List.length (hnone.trans hbefore.symm)
      simp at hlength
  refine ⟨hstep.1, fun j => ?_⟩
  by_cases hji : j = i
  · subst hji
    rw [hstep.2, hpending, List.count_append, List.count_singleton_self,
      Function.iterate_succ_apply']
  · rw [turn_pending_of_ne hji, hpending j, List.count_append, List.count_cons_of_ne (Ne.symm hji),
      List.count_nil, Nat.add_zero]

/-- A client who has ended does nothing. -/
lemma turn_of_ended (h : (c.pending i).Ended) : c.turn i = c := by
  have hspec := turn_spec c i
  generalize c.turn i = c' at hspec ⊢
  cases hspec with
  | idle => rfl
  | read hp | compute hp =>
    rw [hp] at h
    exact h.elim
  | committed hp | refused hp =>
    rw [hp] at h
    exact h.elim

/-- When everybody has ended nothing happens any more. -/
lemma run_of_ended (hidle : ∀ i, (c.pending i).Ended) : c.run schedule = c := by
  induction schedule with
  | nil => rfl
  | cons i schedule ih =>
    change (c.turn i).run schedule = c
    rw [turn_of_ended (hidle i), ih]

/-- When everybody else has ended, a client who commits does so as if it ran alone. -/
theorem run_alone (hidle : ∀ j ≠ i, (c.pending j).Ended)
    (hcommit : (c.run schedule).commits = c.commits ++ [i]) :
    ∃ reply, (c.pending i).Commits c.store reply (c.run schedule).store := by
  induction schedule generalizing c with
  | nil => simp at hcommit
  | cons j schedule ih =>
    change ((c.turn j).run schedule).commits = _ at hcommit
    change ∃ reply, (c.pending i).Commits c.store reply ((c.turn j).run schedule).store
    by_cases hji : j = i
    · subst hji
      have hothers : ∀ k ≠ j, ((c.turn j).pending k).Ended := fun k hk => by
        rw [turn_pending_of_ne hk]
        exact hidle k hk
      rcases turn_cases c j with ⟨hstore, hsame, hprogress⟩ | ⟨write, reply, s, h, hwrite, hturn⟩
      · obtain ⟨reply, hreply⟩ := ih hothers (hsame ▸ hcommit)
        rw [hprogress, hstore, Transaction.commits_progress_iff] at hreply
        exact ⟨reply, hreply⟩
      · rw [hturn] at hcommit ⊢
        rw [(before_commit hcommit).1, h]
        exact ⟨reply, .commit hwrite⟩
    · rw [turn_of_ended (hidle j hji)] at hcommit ⊢
      exact ih hidle hcommit

/-- When everybody else has ended, a client who would commit alone has committed once it has
ended. -/
theorem commits_of_ended {reply : ρ} {s' : σ} (hidle : ∀ j ≠ i, (c.pending j).Ended)
    (hcommits : (c.pending i).Commits c.store reply s')
    (hended : ((c.run schedule).pending i).Ended) :
    (c.run schedule).commits = c.commits ++ [i] := by
  induction schedule generalizing c with
  | nil => exact absurd hended hcommits.not_ended
  | cons j schedule ih =>
    change (((c.turn j).run schedule).pending i).Ended at hended
    change ((c.turn j).run schedule).commits = _
    by_cases hji : j = i
    · subst hji
      have hothers : ∀ k ≠ j, ((c.turn j).pending k).Ended := fun k hk => by
        rw [turn_pending_of_ne hk]
        exact hidle k hk
      rcases turn_cases c j with ⟨hstore, hsame, hprogress⟩ | ⟨write, reply, s, h, hwrite, hturn⟩
      · rw [← hsame]
        refine ih hothers ?_ hended
        rw [hprogress, hstore, Transaction.commits_progress_iff]
        exact hcommits
      · -- nobody has anything left to do
        have hall : ∀ k, ((c.turn j).pending k).Ended := fun k => by
          by_cases hk : k = j
          · simp [hk, hturn, Transaction.Ended]
          · exact hothers k hk
        rw [run_of_ended hall, hturn]
    · rw [turn_of_ended (hidle j hji)] at hended ⊢
      exact ih hidle hcommits hended

/-! ## Two clients -/

variable {ts : ι → Transaction σ ρ ε} {s : σ} {pre post : List ι}

/-- The first one who commits does so as if it ran alone. -/
lemma first_commit (hpre : ((start ts s).run pre).commits = [])
    (hfirst : ((start ts s).run (pre ++ [i])).commits = [i]) :
    ∃ reply s₁, (ts i).Commits s reply s₁ ∧ (start ts s).run (pre ++ [i]) =
      ⟨s₁, Function.update ((start ts s).run pre).pending i (.answered reply), [i]⟩ := by
  obtain ⟨hstore, hpending⟩ := before_commit (c := start ts s) hpre
  rw [run_concat] at hfirst ⊢
  rcases turn_cases ((start ts s).run pre) i
    with ⟨-, hsame, -⟩ | ⟨write, reply, s₁, h, hwrite, hturn⟩
  · rw [hsame, hpre] at hfirst
    cases hfirst
  · refine ⟨reply, s₁, ?_, by rw [hturn, hpre, List.nil_append]⟩
    rw [hstore] at hwrite
    rw [hpending i] at h
    exact (Transaction.commits_iterate_progress_iff (pre.count i)).mp (h ▸ .commit hwrite)

/-- The first commit happens at some turn. -/
lemma exists_first_commit {rest : List ι} (h : ((start ts s).run schedule).commits = i :: rest) :
    ∃ pre post, schedule = pre ++ i :: post ∧ ((start ts s).run pre).commits = [] ∧
      ((start ts s).run (pre ++ [i])).commits = [i] := by
  induction schedule using List.reverseRecOn generalizing rest with
  | nil => cases h
  | append_singleton taken j ih =>
    have hearlier : ∀ {rest}, ((start ts s).run taken).commits = i :: rest →
        ∃ pre post, taken ++ [j] = pre ++ i :: post ∧ ((start ts s).run pre).commits = [] ∧
          ((start ts s).run (pre ++ [i])).commits = [i] := by
      intro rest hrest
      obtain ⟨pre, post, rfl, hpre, hfirst⟩ := ih hrest
      exact ⟨pre, post ++ [j], by simp, hpre, hfirst⟩
    have hj := run_concat (start ts s) taken j
    -- the last turn commits nothing, or the first commit, or a later one
    rcases turn_store_or ((start ts s).run taken) j with ⟨-, hsame⟩ | hlast
    · rw [hj, hsame] at h
      exact hearlier h
    · cases hcommits : ((start ts s).run taken).commits with
      | nil =>
        rw [hj, hlast, hcommits] at h
        obtain rfl := (List.cons.inj h).1
        exact ⟨taken, [], rfl, hcommits, by rw [hj, hlast, hcommits]; rfl⟩
      | cons k done =>
        rw [hj, hlast, hcommits] at h
        obtain rfl := (List.cons.inj h).1
        exact hearlier hcommits

/-- When one client commits, it does so as if it ran alone. -/
theorem run_one_commit (hcommits : ((start ts s).run schedule).commits = [i]) :
    ∃ reply, (ts i).Commits s reply ((start ts s).run schedule).store := by
  obtain ⟨pre, post, rfl, hpre, hfirst⟩ := exists_first_commit hcommits
  obtain ⟨reply, s₁, halone, hrun⟩ := first_commit hpre hfirst
  have hstore : ((start ts s).run (pre ++ i :: post)).store = s₁ := by
    rw [run_split] at hcommits ⊢
    rw [(before_commit (hcommits.trans hfirst.symm)).1, hrun]
  exact ⟨reply, hstore ▸ halone⟩

/-- When one of two clients is answered, everybody but the other one has ended. -/
lemma others_ended {pending : ι → Transaction σ ρ ε} {reply : ρ} (hall : ∀ k, k = i ∨ k = j) :
    ∀ k ≠ j, (Function.update pending i (.answered reply) k).Ended := by
  intro k hk
  rw [(hall k).resolve_right hk, Function.update_self]
  trivial

/-- When two clients commit, the first one commits as if it ran alone, and the second one carries
out alone what it still has to do by then. -/
theorem run_two_commits (hall : ∀ k, k = i ∨ k = j) (hji : j ≠ i)
    (hpre : ((start ts s).run pre).commits = [])
    (hfirst : ((start ts s).run (pre ++ [i])).commits = [i])
    (hcommits : ((start ts s).run (pre ++ i :: post)).commits = [i, j]) :
    ∃ s₁ reply reply', (ts i).Commits s reply s₁ ∧
      ((Transaction.progress s)^[pre.count j] (ts j)).Commits s₁ reply'
        ((start ts s).run (pre ++ i :: post)).store := by
  obtain ⟨reply, s₁, halone, hrun⟩ := first_commit hpre hfirst
  rw [run_split, hrun] at hcommits ⊢
  obtain ⟨reply', hreply'⟩ := run_alone (others_ended hall) hcommits
  simp only [Function.update_of_ne hji, (before_commit (c := start ts s) hpre).2 j] at hreply'
  exact ⟨s₁, reply, reply', halone, hreply'⟩

/-- Of two clients none commits, or one, or each of them once. -/
lemma commits_cases (htwo : ∀ i j : ι, j ≠ i → ∀ l, l = i ∨ l = j) (ts : ι → Transaction σ ρ ε)
    (s : σ) (schedule : List ι) : ((start ts s).run schedule).commits = [] ∨
      (∃ i, ((start ts s).run schedule).commits = [i]) ∨
      ∃ i j, j ≠ i ∧ ((start ts s).run schedule).commits = [i, j] := by
  have hnd := (commits_nodup ts s schedule).1
  generalize ((start ts s).run schedule).commits = l at hnd
  match l with
  | [] => exact Or.inl rfl
  | [i] => exact Or.inr (Or.inl ⟨i, rfl⟩)
  | [i, j] => exact Or.inr (Or.inr ⟨i, j, by simpa [eq_comm] using hnd, rfl⟩)
  | i :: j :: l :: rest =>
    -- there is no third client
    rcases htwo i j (by rintro rfl; simp at hnd) l with rfl | rfl <;> simp at hnd

/-- When one of two clients commits, the other one has committed once it has ended, if it commits
with what it still has to do by then. -/
theorem two_commits_of_ended (hall : ∀ k, k = i ∨ k = j) (hji : j ≠ i)
    (hpre : ((start ts s).run pre).commits = [])
    (hfirst : ((start ts s).run (pre ++ [i])).commits = [i])
    (hlast : ∀ reply s₁, (ts i).Commits s reply s₁ →
      ∃ reply' s', ((Transaction.progress s)^[pre.count j] (ts j)).Commits s₁ reply' s')
    (hended : (((start ts s).run (pre ++ i :: post)).pending j).Ended) :
    ((start ts s).run (pre ++ i :: post)).commits = [i, j] := by
  obtain ⟨reply, s₁, halone, hrun⟩ := first_commit hpre hfirst
  obtain ⟨reply', s', hreply'⟩ := hlast reply s₁ halone
  rw [run_split, hrun] at hended ⊢
  have hj : (Function.update ((start ts s).run pre).pending i (.answered reply) j).Commits s₁
      reply' s' := by
    rw [Function.update_of_ne hji, (before_commit (c := start ts s) hpre).2 j]
    exact hreply'
  exact commits_of_ended (others_ended hall) hj hended

/-! ## Check, then act -/

/-- The first commit of a run comes when another client has taken more than `k` turns, and is
acceptable. -/
def PassedBeforeCommit (c : System ι σ ρ ε) (k : ℕ) (A : ι → Prop) (schedule : List ι) : Prop :=
  ∃ pre post i j, schedule = pre ++ i :: post ∧ (c.run pre).commits = [] ∧
    (c.run (pre ++ [i])).commits = [i] ∧ j ≠ i ∧ k < pre.count j ∧ A j

/-- The rule for two requests that check and then act: where the second one commits exactly if it is
acceptable and has taken the turn in which it checks by the time of the first commit, at most one of
two requests that have ended has committed exactly if the other one was not that far. -/
theorem commits_length_le_one_iff {k : ℕ} {A : ι → Prop}
    (htwo : ∀ i j : ι, j ≠ i → ∀ l, l = i ∨ l = j)
    (hcheck : ∀ i j n reply s₁, j ≠ i → (ts i).Commits s reply s₁ →
      ((∃ reply' s', ((Transaction.progress s)^[n] (ts j)).Commits s₁ reply' s') ↔ k < n ∧ A j))
    (hended : ∀ i, (((start ts s).run schedule).pending i).Ended) :
    ((start ts s).run schedule).commits.length ≤ 1 ↔
      ¬ PassedBeforeCommit (start ts s) k A schedule := by
  constructor
  · rintro hle ⟨pre, post, i, j, rfl, hpre, hfirst, hji, hpassed⟩
    rw [two_commits_of_ended (htwo i j hji) hji hpre hfirst
      (fun reply s₁ halone => (hcheck i j _ reply s₁ hji halone).mpr hpassed) (hended j)] at hle
    simp at hle
  · intro hnone
    by_contra hlong
    rcases commits_cases htwo ts s schedule with hnil | ⟨i, hone⟩ | ⟨i, j, hji, hcommits⟩
    · simp [hnil] at hlong
    · simp [hone] at hlong
    obtain ⟨pre, post, rfl, hpre, hfirst⟩ := exists_first_commit hcommits
    obtain ⟨s₁, reply, reply', halone, hreply'⟩ :=
      run_two_commits (htwo i j hji) hji hpre hfirst hcommits
    exact hnone ⟨pre, post, i, j, rfl, hpre, hfirst, hji,
      (hcheck i j _ reply s₁ hji halone).mp ⟨reply', _, hreply'⟩⟩

/-! ## Any number of clients -/

variable {mid : List ι}

/-- The next commit of a schedule happens at some turn. -/
lemma exists_next_commit {rest : List ι} (h : (c.run schedule).commits = c.commits ++ j :: rest) :
    ∃ mid post, schedule = mid ++ j :: post ∧ (c.run mid).commits = c.commits ∧
      (c.run (mid ++ [j])).commits = c.commits ++ [j] := by
  induction schedule generalizing c with
  | nil => simp at h
  | cons k schedule ih =>
    change ((c.turn k).run schedule).commits = _ at h
    rcases turn_store_or c k with ⟨-, hsame⟩ | hcommit
    · obtain ⟨mid, post, rfl, hmid, hnext⟩ := ih (c := c.turn k) (hsame ▸ h)
      exact ⟨k :: mid, post, rfl, hmid.trans hsame, hnext.trans (by rw [hsame])⟩
    · -- what is committed stays, so this is the commit that was asked for
      obtain ⟨later, hlater⟩ := commits_prefix_run (c.turn k) schedule
      rw [hcommit, h, List.append_assoc, List.append_cancel_left_eq] at hlater
      obtain rfl := (List.cons.inj hlater).1
      exact ⟨[], schedule, rfl, rfl, hcommit⟩

/-- Whoever commits next does so as if it ran alone from here. -/
lemma next_commit (hmid : (c.run mid).commits = c.commits)
    (hnext : (c.run (mid ++ [j])).commits = c.commits ++ [j]) :
    ∃ reply s', (c.pending j).Commits c.store reply s' := by
  obtain ⟨hstore, hpending⟩ := before_commit hmid
  rw [run_concat] at hnext
  rcases turn_cases (c.run mid) j with ⟨-, hsame, -⟩ | ⟨write, reply, s', h, hwrite, -⟩
  · simp [hsame, hmid] at hnext
  · rw [hstore] at hwrite
    rw [hpending j] at h
    exact ⟨reply, s', (Transaction.commits_iterate_progress_iff (mid.count j)).mp
      (h ▸ .commit hwrite)⟩

/-- A client who has ended while nobody committed would not have committed alone. -/
lemma not_commits_of_ended (hnone : (c.run schedule).commits = c.commits)
    (hended : ((c.run schedule).pending j).Ended) {reply : ρ} {s' : σ} :
    ¬ (c.pending j).Commits c.store reply s' := by
  rw [(before_commit hnone).2 j] at hended
  exact fun h => ((Transaction.commits_iterate_progress_iff _).mpr h).not_ended hended

/-- What another client has still to do at the first commit. -/
lemma pending_at_first_commit (hpre : ((start ts s).run pre).commits = []) (hji : j ≠ i) :
    ((start ts s).run (pre ++ [i])).pending j = (Transaction.progress s)^[pre.count j] (ts j) := by
  rw [run_concat, turn_pending_of_ne hji, (before_commit (c := start ts s) hpre).2 j]
  rfl

/-- The first commit of a run comes when another client has taken a number of turns that is critical
for it. -/
def CriticalAtCommit (c : System ι σ ρ ε) (Q : ι → ℕ → Prop) (schedule : List ι) : Prop :=
  ∃ pre post i j, schedule = pre ++ i :: post ∧ (c.run pre).commits = [] ∧
    (c.run (pre ++ [i])).commits = [i] ∧ j ≠ i ∧ Q j (pre.count j)

/-- The rule for any number of requests of which one should succeed: where another one commits after
the first commit exactly if it has taken a critical number of turns by then, at most one of the
requests has committed when all have ended, exactly if none of them was at a critical point when the
first one committed. -/
theorem commits_length_le_one_iff_critical {Q : ι → ℕ → Prop}
    (hcheck : ∀ i j n reply s₁, j ≠ i → (ts i).Commits s reply s₁ →
      ((∃ reply' s', ((Transaction.progress s)^[n] (ts j)).Commits s₁ reply' s') ↔ Q j n))
    (hended : ∀ i, (((start ts s).run schedule).pending i).Ended) :
    ((start ts s).run schedule).commits.length ≤ 1 ↔
      ¬ CriticalAtCommit (start ts s) Q schedule := by
  constructor
  · rintro hle ⟨pre, post, i, j, rfl, hpre, hfirst, hji, hcritical⟩
    obtain ⟨reply, s₁, halone, hrun⟩ := first_commit hpre hfirst
    obtain ⟨reply', s', hcommits⟩ := (hcheck i j _ reply s₁ hji halone).mpr hcritical
    have hended := hended j
    have hnone : (((start ts s).run (pre ++ [i])).run post).commits =
        ((start ts s).run (pre ++ [i])).commits := by
      refine ((commits_prefix_run _ post).eq_of_length_le ?_).symm
      rw [← run_split, hfirst]
      exact hle
    rw [run_split] at hended
    have hstill : (((start ts s).run (pre ++ [i])).pending j).Commits
        ((start ts s).run (pre ++ [i])).store reply' s' := by
      rw [pending_at_first_commit hpre hji, hrun]
      exact hcommits
    exact not_commits_of_ended hnone hended hstill
  · intro hnone
    by_contra hlong
    match hcommits : ((start ts s).run schedule).commits with
    | [] => simp [hcommits] at hlong
    | [i] => simp [hcommits] at hlong
    | i :: j :: rest =>
      obtain ⟨pre, post, rfl, hpre, hfirst⟩ := exists_first_commit hcommits
      obtain ⟨reply, s₁, halone, hrun⟩ := first_commit hpre hfirst
      rw [run_split] at hcommits
      have hlater : (((start ts s).run (pre ++ [i])).run post).commits =
          ((start ts s).run (pre ++ [i])).commits ++ j :: rest :=
            hcommits.trans (by rw [hfirst]; rfl)
      obtain ⟨mid, post', rfl, hmid, hnext⟩ := exists_next_commit hlater
      obtain ⟨reply', s', hcommit⟩ := next_commit hmid hnext
      have hji : j ≠ i := by
        rintro rfl
        rw [hrun] at hcommit
        simp only [Function.update_self] at hcommit
        cases hcommit
      rw [pending_at_first_commit hpre hji, hrun] at hcommit
      exact hnone ⟨pre, _, i, j, rfl, hpre, hfirst, hji,
        (hcheck i j _ reply s₁ hji halone).mp ⟨reply', s', hcommit⟩⟩

end System

/-! ## Under a discipline -/

/-- Under a discipline a client who runs alone, and does not commit, keeps its assertion. -/
lemma Discipline.iterate_progress {ι σ ρ ε : Type*} {G : σ → Prop} {R : σ → σ → Prop}
    {L : ι → σ → Transaction σ ρ ε → Prop} (h : Discipline G R L) {i : ι} {s : σ}
    {p : Transaction σ ρ ε} (hG : G s) (hL : L i s p) (n : ℕ) :
    L i s ((Transaction.progress s)^[n] p) := by
  refine Function.Iterate.rec (L i s) hL (fun p hp => ?_) n
  cases p with
  | read next => exact h.read i s next hG hp
  | compute next => exact h.compute i s next hG hp
  | commit write =>
    simp only [Transaction.progress]
    split
    · exact hp
    · next e hwrite => exact h.refuse i s write e hG hp hwrite
  | answered | failed => exact hp

end Foundation
