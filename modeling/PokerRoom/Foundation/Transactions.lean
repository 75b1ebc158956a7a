import Mathlib.Data.List.Induction
import Mathlib.Data.List.Nodup
import Mathlib.Logic.Function.Basic

/-!
# Transactions on a shared store

A request handler reads committed data in several statements, computes, and commits what it writes
in one last step.  A `Transaction` is what a handler still has to do, and `Transaction.exec` carries
it out alone.  A `System` of clients carries out their transactions on one store, one step of a
client at each turn, and lists the clients who have committed in the order of their commits.

The rules are those of rely and guarantee.  A `Discipline` consists of an invariant of the store, a
relation that every commit guarantees, and an assertion for what each client still has to do that
survives the commits of the others; it holds after every schedule (`Discipline.run`), and where
every commit writes what an operation would have written at this moment, the store is what the
operations leave in the order of the commits (`Discipline.serial`).
-/

namespace Foundation

universe u v

/-- What a request handler still has to do. -/
inductive Transaction (σ ρ ε : Type*)
  /-- Read committed data and go on with what was read. -/
  | read (next : σ → Transaction σ ρ ε)
  /-- Compute and go on. -/
  | compute (next : Transaction σ ρ ε)
  /-- Commit what is to be written, unless it cannot be written. -/
  | commit (write : σ → Except ε (ρ × σ))
  /-- Nothing: the request is answered. -/
  | answered (reply : ρ)
  /-- Nothing: the request is rejected. -/
  | failed (e : ε)

namespace Transaction

variable {σ ρ ε : Type*}

/-- Carry a transaction out alone. -/
def exec : Transaction σ ρ ε → σ → Except ε (ρ × σ)
  | read next, s => exec (next s) s
  | compute next, s => exec next s
  | commit write, s => write s
  | answered reply, s => .ok (reply, s)
  | failed e, _ => .error e

/-- Go on with the result of a check, or reject the request. -/
def check {α : Type*} (x : Except ε α) (next : α → Transaction σ ρ ε) : Transaction σ ρ ε :=
  match x with
  | .ok a => next a
  | .error e => failed e

/-- A check that passes. -/
@[simp] lemma check_ok {α : Type*} (a : α) (next : α → Transaction σ ρ ε) :
    check (.ok a) next = next a := rfl

/-- A check is carried out first. -/
lemma exec_check {σ ρ α : Type v} {ε : Type u} {x : Except ε α} {next : α → Transaction σ ρ ε}
    {s : σ} : (check x next).exec s = x >>= fun a => (next a).exec s := by
  cases x <;> rfl

/-- Carried out alone, the transaction commits with this reply and leaves this store. -/
inductive Commits (s : σ) : Transaction σ ρ ε → ρ → σ → Prop
  /-- It reads first. -/
  | read {next : σ → Transaction σ ρ ε} {reply : ρ} {s' : σ} (h : Commits s (next s) reply s') :
    Commits s (.read next) reply s'
  /-- It computes first. -/
  | compute {next : Transaction σ ρ ε} {reply : ρ} {s' : σ} (h : Commits s next reply s') :
    Commits s (.compute next) reply s'
  /-- It writes. -/
  | commit {write : σ → Except ε (ρ × σ)} {reply : ρ} {s' : σ} (h : write s = .ok (reply, s')) :
    Commits s (.commit write) reply s'

/-- A transaction that commits succeeds. -/
lemma Commits.exec {p : Transaction σ ρ ε} {s s' : σ} {reply : ρ} (h : p.Commits s reply s') :
    p.exec s = .ok (reply, s') := by
  induction h with
  | read _ ih => exact ih
  | compute _ ih => exact ih
  | commit h => exact h

/-- After a check a transaction commits exactly when the check passes and the rest commits. -/
lemma commits_check_iff {α : Type*} {x : Except ε α} {next : α → Transaction σ ρ ε} {s s' : σ}
    {reply : ρ} :
    (check x next).Commits s reply s' ↔ ∃ a, x = .ok a ∧ (next a).Commits s reply s' := by
  cases x with
  | ok a => exact ⟨fun h => ⟨a, rfl, h⟩, fun ⟨_, ha, h⟩ => by cases ha; exact h⟩
  | error e => exact iff_of_false (fun h => by cases h) fun ⟨_, ha, _⟩ => by cases ha

/-- A transaction that reads commits exactly when the rest does on what is stored. -/
lemma commits_read_iff {next : σ → Transaction σ ρ ε} {s s' : σ} {reply : ρ} :
    (read next).Commits s reply s' ↔ (next s).Commits s reply s' :=
  ⟨fun h => by cases h; assumption, .read⟩

/-- A transaction that is to write commits exactly what it writes. -/
lemma commits_commit_iff {write : σ → Except ε (ρ × σ)} {s s' : σ} {reply : ρ} :
    (commit write : Transaction σ ρ ε).Commits s reply s' ↔ write s = .ok (reply, s') :=
  ⟨fun h => by cases h; assumption, .commit⟩

/-- Every commit of the transaction relates the stores as `Q` says. -/
def CommitsOnly (Q : σ → σ → Prop) : Transaction σ ρ ε → Prop
  | read next => ∀ s, CommitsOnly Q (next s)
  | compute next => CommitsOnly Q next
  | commit write => ∀ s reply s', write s = .ok (reply, s') → Q s s'
  | answered _ | failed _ => True

/-- A check commits nothing itself. -/
lemma CommitsOnly.check {Q : σ → σ → Prop} {α : Type*} {x : Except ε α}
    {next : α → Transaction σ ρ ε} (h : ∀ a, (next a).CommitsOnly Q) :
    (check x next).CommitsOnly Q := by
  cases x with
  | ok a => exact h a
  | error e => trivial

/-- Unless it commits, the transaction is answered only as `P` allows. -/
def AnswersOnly (P : ρ → Prop) : Transaction σ ρ ε → Prop
  | read next => ∀ s, AnswersOnly P (next s)
  | compute next => AnswersOnly P next
  | commit _ | failed _ => True
  | answered reply => P reply

/-- A check answers nothing itself. -/
lemma AnswersOnly.check {P : ρ → Prop} {α : Type*} {x : Except ε α}
    {next : α → Transaction σ ρ ε} (h : ∀ a, (next a).AnswersOnly P) :
    (check x next).AnswersOnly P := by
  cases x with
  | ok a => exact h a
  | error e => trivial

/-- A transaction that is only answered when it commits succeeds exactly when it commits. -/
lemma commits_iff_exec {p : Transaction σ ρ ε} (h : p.AnswersOnly fun _ => False) {s s' : σ}
    {reply : ρ} : p.Commits s reply s' ↔ p.exec s = .ok (reply, s') := by
  refine ⟨Commits.exec, fun hexec => ?_⟩
  induction p with
  | read next ih => exact .read (ih s (h s) hexec)
  | compute next ih => exact .compute (ih h hexec)
  | commit write => exact .commit hexec
  | answered reply => exact h.elim
  | failed e => cases hexec

/-- Nothing is left to do. -/
def Ended : Transaction σ ρ ε → Prop
  | answered _ | failed _ => True
  | _ => False

instance : DecidablePred (Ended : Transaction σ ρ ε → Prop)
  | answered _ | failed _ => .isTrue trivial
  | read _ | compute _ | commit _ => .isFalse id

end Transaction

/-- Clients on a shared store. -/
structure System (ι σ ρ ε : Type*) where
  /-- The committed data. -/
  store : σ
  /-- What each client still has to do. -/
  pending : ι → Transaction σ ρ ε
  /-- The clients who have committed, in the order of their commits. -/
  commits : List ι

namespace System

variable {ι σ ρ ε : Type*} [DecidableEq ι]

/-- The clients before their first turns. -/
def start (ts : ι → Transaction σ ρ ε) (s : σ) : System ι σ ρ ε := ⟨s, ts, []⟩

/-- The next step of a client. -/
def turn (c : System ι σ ρ ε) (i : ι) : System ι σ ρ ε :=
  match c.pending i with
  | .read next => { c with pending := Function.update c.pending i (next c.store) }
  | .compute next => { c with pending := Function.update c.pending i next }
  | .commit write =>
    match write c.store with
    | .ok (reply, s) =>
      { store := s
        pending := Function.update c.pending i (.answered reply)
        commits := c.commits ++ [i] }
    | .error e => { c with pending := Function.update c.pending i (.failed e) }
  | .answered _ | .failed _ => c

/-- The clients take turns as scheduled. -/
def run (c : System ι σ ρ ε) (schedule : List ι) : System ι σ ρ ε := schedule.foldl turn c

/-- What the turn of a client does. -/
inductive Turn (c : System ι σ ρ ε) (i : ι) : System ι σ ρ ε → Prop
  /-- A client who has nothing left to do does nothing. -/
  | idle (h : (c.pending i).Ended) : Turn c i c
  /-- The client reads. -/
  | read {next : σ → Transaction σ ρ ε} (h : c.pending i = .read next) :
    Turn c i { c with pending := Function.update c.pending i (next c.store) }
  /-- The client computes. -/
  | compute {next : Transaction σ ρ ε} (h : c.pending i = .compute next) :
    Turn c i { c with pending := Function.update c.pending i next }
  /-- The client commits. -/
  | committed {write : σ → Except ε (ρ × σ)} {reply : ρ} {s : σ} (h : c.pending i = .commit write)
    (hwrite : write c.store = .ok (reply, s)) :
    Turn c i
      { store := s
        pending := Function.update c.pending i (.answered reply)
        commits := c.commits ++ [i] }
  /-- What the client writes is refused. -/
  | refused {write : σ → Except ε (ρ × σ)} {e : ε} (h : c.pending i = .commit write)
    (hwrite : write c.store = .error e) :
    Turn c i { c with pending := Function.update c.pending i (.failed e) }

variable {c : System ι σ ρ ε} {i j : ι} {schedule : List ι}

/-- A turn does one of these. -/
lemma turn_spec (c : System ι σ ρ ε) (i : ι) : Turn c i (c.turn i) := by
  unfold turn
  split
  · next h => exact .read h
  · next h => exact .compute h
  · next write h =>
    split
    · next hwrite => exact .committed h hwrite
    · next hwrite => exact .refused h hwrite
  · next h => exact .idle (by rw [h]; trivial)
  · next h => exact .idle (by rw [h]; trivial)

/-- No turns change nothing. -/
@[simp] lemma run_nil : c.run [] = c := rfl

/-- A schedule goes on where its first part ended. -/
lemma run_append (c : System ι σ ρ ε) (schedule schedule' : List ι) :
    c.run (schedule ++ schedule') = (c.run schedule).run schedule' :=
  List.foldl_append

/-- The last turn of a schedule. -/
lemma run_concat (c : System ι σ ρ ε) (schedule : List ι) (i : ι) :
    c.run (schedule ++ [i]) = (c.run schedule).turn i := by
  rw [run_append]
  rfl

/-- A schedule goes on after one of its turns. -/
lemma run_split (c : System ι σ ρ ε) (taken rest : List ι) (i : ι) :
    c.run (taken ++ i :: rest) = (c.run (taken ++ [i])).run rest := by
  rw [← run_append, List.append_assoc, List.singleton_append]

/-- The invariant rule for schedules, for invariants that may look at the turns taken so far. -/
theorem run_induction {I : List ι → System ι σ ρ ε → Prop} (h₀ : I [] c)
    (hturn : ∀ taken i, I taken (c.run taken) → I (taken ++ [i]) ((c.run taken).turn i))
    (schedule : List ι) : I schedule (c.run schedule) := by
  induction schedule using List.reverseRecOn with
  | nil => exact h₀
  | append_singleton taken i ih =>
    rw [run_concat]
    exact hturn taken i ih

/-- The turn of a client leaves the others where they were. -/
lemma turn_pending_of_ne (h : j ≠ i) : (c.turn i).pending j = c.pending j := by
  have hupdate : ∀ p, Function.update c.pending i p j = c.pending j :=
    fun p => Function.update_of_ne h _ _
  have hspec := turn_spec c i
  generalize c.turn i = c' at hspec ⊢
  cases hspec with
  | idle => rfl
  | read | compute | committed | refused => exact hupdate _

/-- A client who takes no turn stays where it was. -/
lemma run_pending_of_not_mem (h : j ∉ schedule) : (c.run schedule).pending j = c.pending j := by
  refine run_induction (I := fun taken c' => j ∉ taken → c'.pending j = c.pending j)
    (fun _ => rfl) ?_ schedule h
  intro taken i ih hj
  rw [List.mem_append, List.mem_singleton, not_or] at hj
  rw [turn_pending_of_ne hj.2]
  exact ih hj.1

/-- A client who reads goes on with what it has read. -/
lemma turn_pending_read {next : σ → Transaction σ ρ ε} (h : c.pending i = .read next) :
    (c.turn i).pending i = next c.store := by
  unfold turn
  rw [h]
  exact Function.update_self ..

/-- A client whose transaction can only be committed or has ended has ended after its next turn. -/
lemma turn_pending_ended (h : (∃ write, c.pending i = .commit write) ∨ (c.pending i).Ended) :
    ((c.turn i).pending i).Ended := by
  have hself : ∀ {p : Transaction σ ρ ε}, p.Ended → (Function.update c.pending i p i).Ended := by
    intro p hp
    rwa [Function.update_self]
  have hspec := turn_spec c i
  generalize c.turn i = c' at hspec ⊢
  cases hspec with
  | idle hended => exact hended
  | committed | refused => exact hself trivial
  | read hp | compute hp =>
    rcases h with ⟨write, hcommit⟩ | hended
    · rw [hp] at hcommit
      cases hcommit
    · rw [hp] at hended
      cases hended

/-- The reply with which the next turn of a client commits, if it does. -/
def due (c : System ι σ ρ ε) (i : ι) : Option ρ :=
  match c.pending i with
  | .commit write => (write c.store).toOption.map (·.1)
  | _ => none

/-- A client commits when a commit is due, and otherwise leaves the store alone. -/
lemma turn_store_cases (c : System ι σ ρ ε) (i : ι) :
    (c.due i = none ∧ (c.turn i).store = c.store) ∨
      ∃ write reply, c.pending i = .commit write ∧ c.due i = some reply ∧
        write c.store = .ok (reply, (c.turn i).store) := by
  have hspec := turn_spec c i
  generalize c.turn i = c' at hspec ⊢
  unfold due
  cases hspec with
  | idle h =>
    refine Or.inl ⟨?_, rfl⟩
    split
    · next hcommit =>
      rw [hcommit] at h
      cases h
    · rfl
  | read h | compute h =>
    rw [h]
    exact Or.inl ⟨rfl, rfl⟩
  | refused h hwrite =>
    rw [h]
    exact Or.inl ⟨by simp only [hwrite]; rfl, rfl⟩
  | @committed write reply s h hwrite =>
    rw [h]
    exact Or.inr ⟨write, reply, rfl, by simp only [hwrite]; rfl, hwrite⟩

/-- Commits are final. -/
lemma commits_prefix_turn (c : System ι σ ρ ε) (i : ι) : c.commits <+: (c.turn i).commits := by
  have hspec := turn_spec c i
  generalize c.turn i = c' at hspec ⊢
  cases hspec with
  | idle | read | compute | refused => exact List.prefix_refl _
  | committed => exact List.prefix_append _ _

/-- Commits are final in every schedule. -/
lemma commits_prefix_run (c : System ι σ ρ ε) (schedule : List ι) :
    c.commits <+: (c.run schedule).commits :=
  run_induction (I := fun _ c' => c.commits <+: c'.commits) (List.prefix_refl _)
    (fun _ i h => h.trans (commits_prefix_turn _ i)) schedule

/-- A turn changes the store only by a commit of its client. -/
lemma turn_store_or (c : System ι σ ρ ε) (i : ι) :
    ((c.turn i).store = c.store ∧ (c.turn i).commits = c.commits) ∨
      (c.turn i).commits = c.commits ++ [i] := by
  have hspec := turn_spec c i
  generalize c.turn i = c' at hspec ⊢
  cases hspec with
  | idle | read | compute | refused => exact Or.inl ⟨rfl, rfl⟩
  | committed => exact Or.inr rfl

/-- A client who never commits never changes the store. -/
theorem store_eq_of_not_mem {taken rest : List ι} (hi : i ∉ (c.run (taken ++ i :: rest)).commits) :
    (c.run (taken ++ [i])).store = (c.run taken).store := by
  rw [run_split] at hi
  rw [run_concat] at hi ⊢
  rcases turn_store_or (c.run taken) i with ⟨hsame, -⟩ | hcommit
  · exact hsame
  · refine absurd ?_ hi
    refine (commits_prefix_run _ rest).subset ?_
    rw [hcommit]
    exact List.mem_append_right _ List.mem_cons_self

/-- Nobody commits twice, and whoever has committed is answered. -/
theorem commits_nodup (ts : ι → Transaction σ ρ ε) (s : σ) (schedule : List ι) :
    ((start ts s).run schedule).commits.Nodup ∧ ∀ i ∈ ((start ts s).run schedule).commits,
      ∃ reply, ((start ts s).run schedule).pending i = .answered reply := by
  refine run_induction (I := fun _ c => c.commits.Nodup ∧
    ∀ i ∈ c.commits, ∃ reply, c.pending i = .answered reply) ⟨List.nodup_nil, by simp [start]⟩ ?_
    schedule
  rintro taken i ⟨hnd, hanswered⟩
  generalize (start ts s).run taken = c at hnd hanswered ⊢
  -- a client who is not answered yet has not committed
  have hnew : ∀ {p}, c.pending i = p → (∀ reply, p ≠ .answered reply) → i ∉ c.commits := by
    rintro p rfl hp hi
    obtain ⟨reply, hreply⟩ := hanswered i hi
    exact hp reply hreply
  have hkeep : ∀ {p q}, c.pending i = p → (∀ reply, p ≠ .answered reply) → ∀ j ∈ c.commits,
      ∃ reply, Function.update c.pending i q j = .answered reply := by
    intro p q hp hne j hj
    have hji : j ≠ i := fun h => hnew hp hne (h ▸ hj)
    rw [Function.update_of_ne hji]
    exact hanswered j hj
  have hspec := turn_spec c i
  generalize c.turn i = c' at hspec ⊢
  cases hspec with
  | idle => exact ⟨hnd, hanswered⟩
  | read h | compute h => exact ⟨hnd, hkeep h (by simp)⟩
  | refused h => exact ⟨hnd, hkeep h (by simp)⟩
  | @committed write reply s' h hwrite =>
    refine ⟨List.nodup_append.mpr ⟨hnd, List.nodup_singleton i, ?_⟩, fun j hj => ?_⟩
    · rintro j hj k hk rfl
      rw [List.mem_singleton] at hk
      exact hnew h (by simp) (hk ▸ hj)
    · rcases List.mem_append.mp hj with hj | hj
      · exact hkeep h (by simp) j hj
      · rw [List.mem_singleton] at hj
        exact ⟨reply, by rw [hj]; exact Function.update_self ..⟩

/-- A client who has not committed is answered only as his transaction allows. -/
theorem answersOnly_of_not_mem {P : ι → ρ → Prop} {ts : ι → Transaction σ ρ ε} {s : σ}
    (hts : ∀ i, (ts i).AnswersOnly (P i)) {schedule : List ι}
    (hi : i ∉ ((start ts s).run schedule).commits) :
    (((start ts s).run schedule).pending i).AnswersOnly (P i) := by
  refine run_induction (I := fun _ c => ∀ i ∉ c.commits, (c.pending i).AnswersOnly (P i))
    (fun i _ => hts i) ?_ schedule i hi
  intro taken i hI
  generalize (start ts s).run taken = c at hI ⊢
  intro j hj
  have hbefore := hI j fun h => hj ((commits_prefix_turn c i).subset h)
  by_cases hji : j = i
  · subst hji
    have hself : ∀ {p}, p.AnswersOnly (P j) →
        (Function.update c.pending j p j).AnswersOnly (P j) := by
      intro p hp
      rwa [Function.update_self]
    have hspec := turn_spec c j
    generalize c.turn j = c' at hspec hj ⊢
    cases hspec with
    | idle => exact hbefore
    | read h =>
      rw [h] at hbefore
      exact hself (hbefore c.store)
    | compute h =>
      rw [h] at hbefore
      exact hself hbefore
    | refused => exact hself (p := .failed _) trivial
    | committed => exact absurd (List.mem_append_right _ List.mem_cons_self) hj
  · rw [turn_pending_of_ne hji]
    exact hbefore

end System

/-! ## Rely and guarantee -/

/-- A discipline of the clients: an invariant `G` of the store, a relation `R` that every commit
guarantees, and an assertion `L` for what each client still has to do, on which the others can
rely. -/
structure Discipline {ι σ ρ ε : Type*} (G : σ → Prop) (R : σ → σ → Prop)
    (L : ι → σ → Transaction σ ρ ε → Prop) : Prop where
  /-- Reading keeps the assertion. -/
  read : ∀ i s next, G s → L i s (.read next) → L i s (next s)
  /-- Computing keeps the assertion. -/
  compute : ∀ i s next, G s → L i s (.compute next) → L i s next
  /-- A commit keeps the invariant, guarantees the relation, and leaves the client answered. -/
  commit : ∀ i s write reply s', G s → L i s (.commit write) → write s = .ok (reply, s') →
    G s' ∧ R s s' ∧ L i s' (.answered reply)
  /-- A refused commit leaves the client rejected. -/
  refuse : ∀ i s write e, G s → L i s (.commit write) → write s = .error e → L i s (.failed e)
  /-- The assertion survives the commits of the others. -/
  rely : ∀ i s s' p, G s → R s s' → L i s p → L i s' p

namespace Discipline

variable {ι σ ρ ε : Type*} [DecidableEq ι] {G : σ → Prop} {R : σ → σ → Prop}
  {L : ι → σ → Transaction σ ρ ε → Prop} {c : System ι σ ρ ε}

/-- A turn keeps the invariant and the assertions. -/
lemma turn (h : Discipline G R L) (hG : G c.store) (hL : ∀ i, L i c.store (c.pending i)) (i : ι) :
    G (c.turn i).store ∧ ∀ j, L j (c.turn i).store ((c.turn i).pending j) := by
  have hupdate : ∀ {s p}, L i s p → (∀ j, j ≠ i → L j s (c.pending j)) →
      ∀ j, L j s (Function.update c.pending i p j) := by
    intro s p hp hothers j
    by_cases hji : j = i
    · subst hji
      rwa [Function.update_self]
    · rw [Function.update_of_ne hji]
      exact hothers j hji
  have hi := hL i
  have hspec := System.turn_spec c i
  generalize c.turn i = c' at hspec ⊢
  cases hspec with
  | idle => exact ⟨hG, hL⟩
  | read hp =>
    rw [hp] at hi
    exact ⟨hG, hupdate (h.read i _ _ hG hi) fun j _ => hL j⟩
  | compute hp =>
    rw [hp] at hi
    exact ⟨hG, hupdate (h.compute i _ _ hG hi) fun j _ => hL j⟩
  | refused hp hwrite =>
    rw [hp] at hi
    exact ⟨hG, hupdate (h.refuse i _ _ _ hG hi hwrite) fun j _ => hL j⟩
  | committed hp hwrite =>
    rw [hp] at hi
    obtain ⟨hG', hR, hL'⟩ := h.commit i _ _ _ _ hG hi hwrite
    exact ⟨hG', hupdate hL' fun j _ => h.rely j _ _ _ hG hR (hL j)⟩

omit [DecidableEq ι] in
/-- Under the discipline a transaction that commits alone comes to a commit with its assertion. -/
lemma commits (h : Discipline G R L) {i : ι} {s s' : σ} {p : Transaction σ ρ ε}
    {reply : ρ} (hG : G s) (hL : L i s p) (hcommits : p.Commits s reply s') :
    ∃ write, L i s (.commit write) ∧ write s = .ok (reply, s') := by
  induction hcommits with
  | read _ ih => exact ih (h.read i s _ hG hL)
  | compute _ ih => exact ih (h.compute i s _ hG hL)
  | commit hwrite => exact ⟨_, hL, hwrite⟩

/-- The rule of rely and guarantee: the invariant and the assertions hold after every schedule. -/
theorem run (h : Discipline G R L) (hG : G c.store) (hL : ∀ i, L i c.store (c.pending i))
    (schedule : List ι) :
    G (c.run schedule).store ∧ ∀ i, L i (c.run schedule).store ((c.run schedule).pending i) :=
  System.run_induction (I := fun _ c => G c.store ∧ ∀ i, L i c.store (c.pending i)) ⟨hG, hL⟩
    (fun _ i hI => h.turn hI.1 hI.2 i) schedule

/-- The invariant rule for commits: what holds of the store at first, and is kept by every commit
under the discipline, holds after every schedule.  The invariant may look at the clients who have
committed so far. -/
theorem commits_induction (h : Discipline G R L) {I : List ι → σ → Prop}
    (hcommit : ∀ i done s write reply s', G s → L i s (.commit write) → write s = .ok (reply, s') →
      I done s → I (done ++ [i]) s')
    {ts : ι → Transaction σ ρ ε} {s : σ} (hG : G s) (hL : ∀ i, L i s (ts i)) (h₀ : I [] s)
    (schedule : List ι) :
    I ((System.start ts s).run schedule).commits ((System.start ts s).run schedule).store := by
  refine System.run_induction (c := System.start ts s) (I := fun _ c => I c.commits c.store) h₀ ?_
    schedule
  intro taken i hI
  obtain ⟨hG', hL'⟩ := h.run (c := System.start ts s) hG hL taken
  generalize (System.start ts s).run taken = c at hI hG' hL' ⊢
  have hi := hL' i
  have hspec := System.turn_spec c i
  generalize c.turn i = c' at hspec ⊢
  cases hspec with
  | idle | read | compute | refused => exact hI
  | committed hp hwrite =>
    rw [hp] at hi
    exact hcommit i _ _ _ _ _ hG' hi hwrite hI

/-- The serialisation rule: where every commit writes what the operation of its client would have
written at this moment, the operations of the clients who have committed leave the store, in the
order of the commits. -/
theorem serial (h : Discipline G R L) {op : ι → σ → Except ε σ}
    (hop : ∀ i s write reply s', G s → L i s (.commit write) → write s = .ok (reply, s') →
      op i s = .ok s')
    {ts : ι → Transaction σ ρ ε} {s : σ} (hG : G s) (hL : ∀ i, L i s (ts i)) (schedule : List ι) :
    ((System.start ts s).run schedule).commits.foldlM (fun s i => op i s) s =
      .ok ((System.start ts s).run schedule).store := by
  refine h.commits_induction (I := fun done s' => done.foldlM (fun s i => op i s) s =
    .ok s') ?_ hG hL
    rfl schedule
  intro i done s₁ write reply s' hG' hi hwrite hserial
  rw [List.foldlM_append, hserial]
  exact (bind_pure _).trans (hop i _ _ _ _ hG' hi hwrite)

/-- Transactions whose commits are known keep what these commits keep. -/
theorem induction_of_commitsOnly {Q : ι → σ → σ → Prop} {ts : ι → Transaction σ ρ ε}
    (hts : ∀ i, (ts i).CommitsOnly (Q i)) {I : List ι → σ → Prop}
    (hcommit : ∀ i done s s', Q i s s' → I done s → I (done ++ [i]) s') {s : σ} (h₀ : I [] s)
    (schedule : List ι) :
    I ((System.start ts s).run schedule).commits ((System.start ts s).run schedule).store := by
  have hdiscipline : Discipline (fun _ : σ => True) (fun _ _ => True)
      fun i _ (p : Transaction σ ρ ε) => p.CommitsOnly (Q i) :=
    ⟨fun i s next _ h => h s, fun i s next _ h => h,
      fun i s write reply s' _ _ _ => ⟨trivial, trivial,
      trivial⟩, fun i s write e _ _ _ => trivial, fun i s s' p _ _ h => h⟩
  refine hdiscipline.commits_induction (fun i done s write reply s' _ h hwrite => ?_) trivial hts h₀
    schedule
  exact hcommit i done s s' (h s reply s' hwrite)

end Discipline

end Foundation
