import Mathlib.Algebra.BigOperators.Group.List.Basic
import Mathlib.Order.WellFounded
import Mathlib.Data.Set.Finite.Basic
import Mathlib.Order.Interval.Finset.Nat

/-!
# Guarded machines

A service that answers one request at a time either carries a command out or rejects it with an
error; a rejected command leaves the stored state as it was.  A `Machine` is such a step function,
`Machine.run` executes a list of requests, and `Machine.trace` lists the transitions that were
carried out.

The rules are stated once here: an invariant that every accepted command preserves holds in every
state a run reaches (`run_invariant`) and on both ends of every transition of its trace
(`trace_invariant`), and a property that an accepted command keeps exactly under a condition holds
throughout a run exactly when all its transitions meet the condition (`forall_run_take_iff`).  A
measure of the states grows by the weights of the transitions (`run_measure`), and it is higher
before a transition than after an earlier one only when one in between has raised it
(`exists_raise_between`).  A run has no more transitions of a kind than a budget of its states has
grown by (`trace_count_le`), and transitions of a bounded kind are finitely many in every infinite
sequence of requests (`finite_setOf_step`); a sequence that raises such a budget until a goal is
reached reaches it (`exists_run_goal`).  `Machine.instrument` runs a machine together with a history
that is folded along the accepted transitions; it never changes what the machine itself does
(`instrument_run_fst`) and has an invariant rule of its own (`instrument_invariant`).
-/

namespace Foundation

/-- A machine whose step either accepts a command and yields the next state, or rejects it. -/
structure Machine (σ κ ε : Type*) where
  /-- The outcome of one command in one state. -/
  step : σ → κ → Except ε σ

/-- One accepted command together with the states before and after it. -/
structure Transition (σ κ : Type*) where
  /-- The state the command was accepted in. -/
  before : σ
  /-- The accepted command. -/
  command : κ
  /-- The state it left. -/
  after : σ

namespace Machine

variable {σ κ ε η : Type*} (M : Machine σ κ ε)

/-- The state after one request: a rejected command leaves the state unchanged. -/
def exec (s : σ) (c : κ) : σ :=
  match M.step s c with
  | .ok s' => s'
  | .error _ => s

/-- The state after a list of requests. -/
def run (s : σ) (cs : List κ) : σ := cs.foldl M.exec s

/-- The transitions a list of requests carries out, in order. -/
def trace (s : σ) : List κ → List (Transition σ κ)
  | [] => []
  | c :: cs =>
    match M.step s c with
    | .ok s' => ⟨s, c, s'⟩ :: trace s' cs
    | .error _ => trace s cs

/-- The machine that also folds a history along its accepted transitions. -/
def instrument (upd : σ → κ → σ → η → η) : Machine (σ × η) κ ε where
  step s c := (M.step s.1 c).map fun s' => (s', upd s.1 c s' s.2)

variable {M}

/-- A run of no requests stays where it is. -/
@[simp] lemma run_nil (s : σ) : M.run s [] = s := rfl

/-- A run executes its first request and then the others. -/
@[simp] lemma run_cons (s : σ) (c : κ) (cs : List κ) : M.run s (c :: cs) = M.run (M.exec s c) cs :=
  rfl

/-- An accepted request moves to the state its step yields. -/
lemma exec_of_ok {s s' : σ} {c : κ} (h : M.step s c = .ok s') : M.exec s c = s' := by
  simp [exec, h]

/-- A rejected request leaves the state as it was. -/
lemma exec_of_error {s : σ} {c : κ} {e : ε} (h : M.step s c = .error e) : M.exec s c = s := by
  simp [exec, h]

/-- An accepted request is the first transition of a run that starts with it. -/
lemma trace_cons_of_ok {s s' : σ} {c : κ} {cs : List κ} (h : M.step s c = .ok s') :
    M.trace s (c :: cs) = ⟨s, c, s'⟩ :: M.trace s' cs := by
  rw [trace, h]

/-- A rejected request is no transition. -/
lemma trace_cons_of_error {s : σ} {c : κ} {cs : List κ} {e : ε} (h : M.step s c = .error e) :
    M.trace s (c :: cs) = M.trace s cs := by
  rw [trace, h]

/-- What holds of the state, and of every state an accepted command leads to, holds after a
request. -/
lemma exec_induction {P : σ → Prop} {s : σ} {c : κ} (h0 : P s)
    (hstep : ∀ s', M.step s c = .ok s' → P s') : P (M.exec s c) := by
  cases h : M.step s c with
  | ok s' => rw [exec_of_ok h]; exact hstep s' h
  | error e => rw [exec_of_error h]; exact h0

/-- The invariant rule for runs. -/
theorem run_invariant {I : σ → Prop} (hstep : ∀ s c s', I s → M.step s c = .ok s' → I s')
    {s : σ} (h0 : I s) (cs : List κ) : I (M.run s cs) := by
  induction cs generalizing s with
  | nil => exact h0
  | cons c cs ih => exact ih (exec_induction h0 fun s' h => hstep s c s' h0 h)

/-- A machine that carries out the commands of another one runs them as that one does. -/
lemma run_map {κ' : Type*} {M' : Machine σ κ' ε} {f : κ' → κ}
    (h : ∀ s c, M.step s (f c) = M'.step s c) (s : σ) (cs : List κ') :
    M.run s (cs.map f) = M'.run s cs := by
  induction cs generalizing s with
  | nil => rfl
  | cons c cs ih =>
    have hexec : M.exec s (f c) = M'.exec s c := by rw [exec, exec, h]
    rw [List.map_cons, run_cons, run_cons, hexec, ih]

/-- The invariant rule for runs whose requests all lie in a given class. -/
theorem run_invariant_of_forall {I : σ → Prop} {P : κ → Prop}
    (hstep : ∀ s c s', P c → I s → M.step s c = .ok s' → I s')
    {s : σ} (h0 : I s) {cs : List κ} (hcs : ∀ c ∈ cs, P c) : I (M.run s cs) := by
  induction cs generalizing s with
  | nil => exact h0
  | cons c cs ih =>
    have hc : P c := hcs c List.mem_cons_self
    exact ih (exec_induction h0 fun s' h => hstep s c s' hc h0 h)
      fun c' hc' => hcs c' (List.mem_cons_of_mem c hc')

/-- A transition of a run carries out the request that follows some first part of the run. -/
lemma exists_of_mem_trace {s : σ} {cs : List κ} {t : Transition σ κ} (ht : t ∈ M.trace s cs) :
    ∃ pre post, cs = pre ++ t.command :: post ∧ t.before = M.run s pre ∧
      M.step t.before t.command = .ok t.after := by
  induction cs generalizing s with
  | nil => simp [trace] at ht
  | cons c cs ih =>
    cases hs : M.step s c with
    | ok s' =>
      rw [trace_cons_of_ok hs] at ht
      rcases List.mem_cons.mp ht with rfl | ht
      · exact ⟨[], cs, rfl, rfl, hs⟩
      · obtain ⟨pre, post, rfl, hbefore, hstep⟩ := ih ht
        exact ⟨c :: pre, post, rfl, by rw [run_cons, exec_of_ok hs, hbefore], hstep⟩
    | error e =>
      rw [trace_cons_of_error hs] at ht
      obtain ⟨pre, post, rfl, hbefore, hstep⟩ := ih ht
      exact ⟨c :: pre, post, rfl, by rw [run_cons, exec_of_error hs, hbefore], hstep⟩

/-- The transitions that follow one transition of a run are transitions of the run that goes on
after it. -/
lemma exists_of_cons_sublist_trace {s : σ} {cs : List κ} {t : Transition σ κ}
    {ts : List (Transition σ κ)} (h : List.Sublist (t :: ts) (M.trace s cs)) :
    ∃ pre post, cs = pre ++ t.command :: post ∧ t.before = M.run s pre ∧
      M.step t.before t.command = .ok t.after ∧ List.Sublist ts (M.trace t.after post) := by
  induction cs generalizing s with
  | nil => cases h
  | cons c cs ih =>
    have hlater : ∀ {s'}, M.exec s c = s' → List.Sublist (t :: ts) (M.trace s' cs) →
        ∃ pre post, c :: cs = pre ++ t.command :: post ∧ t.before = M.run s pre ∧
          M.step t.before t.command = .ok t.after ∧ List.Sublist ts (M.trace t.after post) := by
      intro s' hexec hrest
      obtain ⟨pre, post, rfl, hbefore, hstep, hts⟩ := ih hrest
      exact ⟨c :: pre, post, rfl, by rw [run_cons, hexec, hbefore], hstep, hts⟩
    cases hs : M.step s c with
    | ok s' =>
      rw [trace_cons_of_ok hs] at h
      rcases List.cons_sublist_cons'.mp h with hrest | ⟨rfl, hts⟩
      · exact hlater (exec_of_ok hs) hrest
      · exact ⟨[], cs, rfl, rfl, hs, hts⟩
    | error e =>
      rw [trace_cons_of_error hs] at h
      exact hlater (exec_of_error hs) h

/-- Of two different transitions of a run one comes first. -/
lemma sublist_trace_or {s : σ} {cs : List κ} {t t' : Transition σ κ} (ht : t ∈ M.trace s cs)
    (ht' : t' ∈ M.trace s cs) (hne : t ≠ t') :
    List.Sublist [t, t'] (M.trace s cs) ∨ List.Sublist [t', t] (M.trace s cs) := by
  obtain ⟨pre, post, htrace⟩ := List.append_of_mem ht
  rw [htrace] at ht' ⊢
  rcases List.mem_append.mp ht' with ht' | ht'
  · exact Or.inr ((List.singleton_sublist.mpr ht').append
      (List.singleton_sublist.mpr List.mem_cons_self))
  · have hpost : t' ∈ post := (List.mem_cons.mp ht').resolve_left hne.symm
    exact Or.inl (((List.singleton_sublist.mpr hpost).cons_cons t).trans
      (List.sublist_append_right _ _))

/-- A transition carries out one of the requests. -/
lemma command_mem_of_mem_trace {s : σ} {cs : List κ} {t : Transition σ κ} (ht : t ∈ M.trace s cs) :
    t.command ∈ cs := by
  obtain ⟨pre, post, rfl, -, -⟩ := exists_of_mem_trace ht
  exact List.mem_append_right pre List.mem_cons_self

/-- The invariant rule for the transitions of a run that all lie in a given class: the invariant
holds before and after each of them, and each of them is a step of the machine. -/
theorem trace_invariant_of_forall {I : σ → Prop} {P : Transition σ κ → Prop}
    (hstep : ∀ s c s', P ⟨s, c, s'⟩ → I s → M.step s c = .ok s' → I s') {s : σ} (h0 : I s)
    {cs : List κ} (hP : ∀ t ∈ M.trace s cs, P t) :
    ∀ t ∈ M.trace s cs, I t.before ∧ M.step t.before t.command = .ok t.after ∧ I t.after := by
  induction cs generalizing s with
  | nil => simp [trace]
  | cons c cs ih =>
    intro t ht
    cases hs : M.step s c with
    | ok s' =>
      rw [trace_cons_of_ok hs] at ht hP
      obtain ⟨hfirst, hrest⟩ := List.forall_mem_cons.mp hP
      have hs' : I s' := hstep s c s' hfirst h0 hs
      rcases List.mem_cons.mp ht with rfl | ht
      · exact ⟨h0, hs, hs'⟩
      · exact ih hs' hrest t ht
    | error e =>
      rw [trace_cons_of_error hs] at ht hP
      exact ih h0 hP t ht

/-- The invariant rule for a run and what it has carried out so far. -/
theorem run_trace_invariant {I : σ → List (Transition σ κ) → Prop}
    (hstep : ∀ s ts c s', I s ts → M.step s c = .ok s' → I s' (ts ++ [⟨s, c, s'⟩])) {s : σ}
    {ts : List (Transition σ κ)} (h0 : I s ts) (cs : List κ) :
    I (M.run s cs) (ts ++ M.trace s cs) := by
  induction cs generalizing s ts with
  | nil =>
    rw [trace, List.append_nil]
    exact h0
  | cons c cs ih =>
    rw [run_cons]
    cases hs : M.step s c with
    | ok s' =>
      rw [exec_of_ok hs, trace_cons_of_ok hs, List.append_cons]
      exact ih (hstep s ts c s' h0 hs)
    | error e =>
      rw [exec_of_error hs, trace_cons_of_error hs]
      exact ih h0

/-- The invariant rule for a run whose transitions all lie in a given class. -/
theorem run_invariant_of_trace {I : σ → Prop} {P : Transition σ κ → Prop}
    (hstep : ∀ s c s', P ⟨s, c, s'⟩ → I s → M.step s c = .ok s' → I s') {s : σ} (h0 : I s)
    {cs : List κ} (hP : ∀ t ∈ M.trace s cs, P t) : I (M.run s cs) := by
  refine run_trace_invariant (I := fun s ts => (∀ t ∈ ts, P t) → I s)
    (fun s ts c s' hs hok hts => ?_)
    (fun _ => h0 : (∀ t ∈ ([] : List (Transition σ κ)), P t) → I s) cs hP
  obtain ⟨hbefore, hlast⟩ := List.forall_mem_append.mp hts
  exact hstep s c s' (hlast _ List.mem_cons_self) (hs hbefore) hok

/-- The invariant rule for the transitions of a run. -/
theorem trace_invariant {I : σ → Prop} (hstep : ∀ s c s', I s → M.step s c = .ok s' → I s')
    {s : σ} (h0 : I s) (cs : List κ) :
    ∀ t ∈ M.trace s cs, I t.before ∧ M.step t.before t.command = .ok t.after ∧ I t.after :=
  trace_invariant_of_forall (P := fun _ => True) (fun s c s' _ => hstep s c s') h0
    fun _ _ => trivial

/-- The rule for what a transition of a run leaves behind: what holds after it and is kept by the
commands that may follow it holds before every later transition. -/
theorem later_of_sublist_trace {I P : σ → Prop} {R : κ → κ → Prop}
    (hI : ∀ s c s', I s → M.step s c = .ok s' → I s') {s : σ} (h0 : I s) {cs : List κ}
    (hR : cs.Pairwise R) {t t' : Transition σ κ} (h : List.Sublist [t, t'] (M.trace s cs))
    (hafter : I t.before → M.step t.before t.command = .ok t.after → P t.after)
    (hkept : ∀ s c s', R t.command c → I s → P s → M.step s c = .ok s' → P s') :
    I t'.before ∧ P t'.before ∧ M.step t'.before t'.command = .ok t'.after := by
  obtain ⟨pre, post, rfl, hbefore, hstep, hrest⟩ := exists_of_cons_sublist_trace h
  have hI₀ : I t.before := hbefore ▸ run_invariant hI h0 pre
  have hpost : ∀ c ∈ post, R t.command c :=
    (List.pairwise_cons.mp (List.pairwise_append.mp hR).2.1).1
  have ht' : t' ∈ M.trace t.after post := List.singleton_sublist.mp hrest
  have hinv := trace_invariant_of_forall (M := M) (I := fun s => I s ∧ P s)
    (P := fun t'' => R t.command t''.command)
    (fun s c s' hc hs hok => ⟨hI s c s' hs.1 hok, hkept s c s' hc hs.1 hs.2 hok⟩)
    ⟨hI _ _ _ hI₀ hstep, hafter hI₀ hstep⟩
    (fun t'' ht'' => hpost _ (command_mem_of_mem_trace ht'')) t' ht'
  exact ⟨hinv.1.1, hinv.1.2, hinv.2.1⟩

section Measure

variable {A : Type*} [LinearOrder A] {g : σ → A}

/-- A measure that no step lowers is at least as high before a transition of a run as at its
start. -/
lemma measure_le_of_mem_trace (hstep : ∀ s c s', M.step s c = .ok s' → g s ≤ g s') {s : σ}
    {cs : List κ} {t : Transition σ κ} (ht : t ∈ M.trace s cs) : g s ≤ g t.before := by
  obtain ⟨pre, post, -, hbefore, -⟩ := exists_of_mem_trace ht
  rw [hbefore]
  exact run_invariant (I := fun s' => g s ≤ g s') (fun _ c _ hle hok => hle.trans (hstep _ c _ hok))
    le_rfl pre

/-- A measure that no step lowers is at least as high before a later transition as after an earlier
one. -/
lemma measure_le_of_sublist_trace (hstep : ∀ s c s', M.step s c = .ok s' → g s ≤ g s') {s : σ}
    {cs : List κ} {t t' : Transition σ κ} (h : List.Sublist [t, t'] (M.trace s cs)) :
    g t.after ≤ g t'.before := by
  obtain ⟨_, _, -, -, -, hrest⟩ := exists_of_cons_sublist_trace h
  exact measure_le_of_mem_trace hstep (List.singleton_sublist.mp hrest)

/-- Where a measure is higher before a transition than at the start of the run, a transition in
between has raised it. -/
lemma exists_raise_of_lt {s : σ} {cs : List κ} {t : Transition σ κ} (ht : t ∈ M.trace s cs)
    (hlt : g s < g t.before) :
    ∃ u, List.Sublist [u, t] (M.trace s cs) ∧ g u.before < g u.after := by
  induction cs generalizing s with
  | nil => simp [trace] at ht
  | cons c cs ih =>
    cases hs : M.step s c with
    | ok s' =>
      rw [trace_cons_of_ok hs] at ht ⊢
      rcases List.mem_cons.mp ht with rfl | ht
      · exact absurd hlt (lt_irrefl _)
      · by_cases hraise : g s < g s'
        · exact ⟨⟨s, c, s'⟩, (List.singleton_sublist.mpr ht).cons_cons _, hraise⟩
        · obtain ⟨u, hu, hraised⟩ := ih ht ((not_lt.mp hraise).trans_lt hlt)
          exact ⟨u, hu.cons _, hraised⟩
    | error e =>
      rw [trace_cons_of_error hs] at ht ⊢
      exact ih ht hlt

/-- Where a measure is higher before a later transition than after an earlier one, a transition in
between has raised it. -/
lemma exists_raise_between {s : σ} {cs : List κ} {t t' : Transition σ κ}
    (h : List.Sublist [t, t'] (M.trace s cs)) (hlt : g t.after < g t'.before) :
    ∃ u, List.Sublist [t, u, t'] (M.trace s cs) ∧ g u.before < g u.after := by
  induction cs generalizing s with
  | nil => cases h
  | cons c cs ih =>
    cases hs : M.step s c with
    | ok s' =>
      rw [trace_cons_of_ok hs] at h ⊢
      rcases List.cons_sublist_cons'.mp h with hrest | ⟨rfl, hmem⟩
      · obtain ⟨u, hu, hraised⟩ := ih hrest
        exact ⟨u, hu.cons _, hraised⟩
      · obtain ⟨u, hu, hraised⟩ := exists_raise_of_lt (List.singleton_sublist.mp hmem) hlt
        exact ⟨u, hu.cons_cons _, hraised⟩
    | error e =>
      rw [trace_cons_of_error hs] at h ⊢
      exact ih h

end Measure

/-- The exactness rule: where an accepted command keeps `I` exactly when its transition satisfies
`P`, all states of a run satisfy `I` exactly when all its transitions satisfy `P`. -/
theorem forall_run_take_iff {I J : σ → Prop} {P : Transition σ κ → Prop}
    (hJ : ∀ s c s', J s → M.step s c = .ok s' → J s')
    (hstep : ∀ s c s', J s → I s → M.step s c = .ok s' → (I s' ↔ P ⟨s, c, s'⟩))
    {s : σ} (hJ0 : J s) (h0 : I s) (cs : List κ) :
    (∀ k, I (M.run s (cs.take k))) ↔ ∀ t ∈ M.trace s cs, P t := by
  induction cs generalizing s with
  | nil => simp [trace, h0]
  | cons c cs ih =>
    cases hs : M.step s c with
    | ok s' =>
      have hrun : ∀ k, M.run s ((c :: cs).take (k + 1)) = M.run s' (cs.take k) := fun k => by
        rw [List.take_succ_cons, run_cons, exec_of_ok hs]
      have hP := hstep s c s' hJ0 h0 hs
      have hJ' := hJ s c s' hJ0 hs
      rw [trace_cons_of_ok hs, List.forall_mem_cons]
      constructor
      · intro h
        have hI : I s' := by
          have h1 := h (0 + 1)
          rw [hrun] at h1
          exact h1
        exact ⟨hP.mp hI, (ih hJ' hI).mp fun k => hrun k ▸ h (k + 1)⟩
      · rintro ⟨hPt, htail⟩ k
        have hI := hP.mpr hPt
        cases k with
        | zero => exact h0
        | succ k => rw [hrun]; exact (ih hJ' hI).mpr htail k
    | error e =>
      have hrun : ∀ k, M.run s ((c :: cs).take (k + 1)) = M.run s (cs.take k) := fun k => by
        rw [List.take_succ_cons, run_cons, exec_of_error hs]
      rw [trace_cons_of_error hs, ← ih hJ0 h0]
      constructor
      · exact fun h k => hrun k ▸ h (k + 1)
      · intro h k
        cases k with
        | zero => exact h0
        | succ k => rw [hrun]; exact h k

/-- The budget rule: where every accepted command keeps a budget of the states from shrinking, and
every transition of a kind makes it grow, a run has no more transitions of the kind than the budget
has grown by. -/
theorem trace_count_le {I : σ → Prop} {P : Transition σ κ → Prop} [DecidablePred P] {budget : σ → ℤ}
    (hstep : ∀ s c s', I s → M.step s c = .ok s' →
      I s' ∧ budget s + (if P ⟨s, c, s'⟩ then 1 else 0) ≤ budget s') {s : σ} (h0 : I s)
        (cs : List κ) :
    budget s + ((M.trace s cs).filter fun t => P t).length ≤ budget (M.run s cs) := by
  induction cs generalizing s with
  | nil => simp [trace]
  | cons c cs ih =>
    rw [run_cons]
    cases hs : M.step s c with
    | ok s' =>
      obtain ⟨hI, hcost⟩ := hstep s c s' h0 hs
      have hrest := ih hI
      rw [exec_of_ok hs, trace_cons_of_ok hs]
      by_cases hP : P ⟨s, c, s'⟩
      · rw [if_pos hP] at hcost
        rw [List.filter_cons_of_pos (by simpa using hP), List.length_cons]
        push_cast
        omega
      · rw [if_neg hP] at hcost
        rw [List.filter_cons_of_neg (by simpa using hP)]
        omega
    | error e =>
      rw [exec_of_error hs, trace_cons_of_error hs]
      exact ih h0

/-- The measure rule for runs whose requests all lie in a given class: a measure of the states to
which every accepted command adds the weight of its transition is, after a run, its initial value
plus the weights of the transitions. -/
theorem run_measure_of_forall {A : Type*} [AddMonoid A] {I : σ → Prop} {P : κ → Prop} {m : σ → A}
    {w : Transition σ κ → A}
    (hstep : ∀ s c s', P c → I s → M.step s c = .ok s' → I s' ∧ m s' = m s + w ⟨s, c, s'⟩) {s : σ}
    (h0 : I s) {cs : List κ} (hcs : ∀ c ∈ cs, P c) :
    m (M.run s cs) = m s + ((M.trace s cs).map w).sum := by
  induction cs generalizing s with
  | nil => simp [trace]
  | cons c cs ih =>
    obtain ⟨hc, hcs⟩ := List.forall_mem_cons.mp hcs
    rw [run_cons]
    cases hs : M.step s c with
    | ok s' =>
      obtain ⟨hI, hm⟩ := hstep s c s' hc h0 hs
      rw [exec_of_ok hs, trace_cons_of_ok hs, ih hI hcs, hm, List.map_cons,
        List.sum_cons, add_assoc]
    | error e =>
      rw [exec_of_error hs, trace_cons_of_error hs]
      exact ih h0 hcs

/-- The measure rule: a measure of the states to which every accepted command adds the weight of its
transition is, after a run, its initial value plus the weights of the transitions. -/
theorem run_measure {A : Type*} [AddMonoid A] {I : σ → Prop} {m : σ → A} {w : Transition σ κ → A}
    (hstep : ∀ s c s', I s → M.step s c = .ok s' → I s' ∧ m s' = m s + w ⟨s, c, s'⟩) {s : σ}
    (h0 : I s) (cs : List κ) : m (M.run s cs) = m s + ((M.trace s cs).map w).sum :=
  run_measure_of_forall (P := fun _ => True) (fun s c s' _ => hstep s c s') h0 fun _ _ => trivial

/-- The transitions of a longer run are those of the shorter one and the ones that follow. -/
lemma trace_append (s : σ) (cs cs' : List κ) :
    M.trace s (cs ++ cs') = M.trace s cs ++ M.trace (M.run s cs) cs' := by
  induction cs generalizing s with
  | nil => rfl
  | cons c cs ih =>
    rw [List.cons_append, run_cons]
    cases hs : M.step s c with
    | ok s' =>
      rw [exec_of_ok hs, trace_cons_of_ok hs, trace_cons_of_ok hs, ih, List.cons_append]
    | error e => rw [exec_of_error hs, trace_cons_of_error hs, trace_cons_of_error hs, ih]

/-- Where no finite part of an infinite sequence of requests carries out more than `B` transitions
of a kind, only finitely many requests of the sequence are carried out as one. -/
theorem finite_setOf_step {P : Transition σ κ → Prop} [DecidablePred P] {s : σ} {f : ℕ → κ} {B : ℕ}
    (h : ∀ n, ((M.trace s ((List.range n).map f)).filter fun t => P t).length ≤ B) :
    {n | ∃ s', M.step (M.run s ((List.range n).map f)) (f n) = .ok s' ∧
      P ⟨M.run s ((List.range n).map f), f n, s'⟩}.Finite := by
  set count : ℕ → ℕ := fun n => ((M.trace s ((List.range n).map f)).filter fun t => P t).length
    with hcount
  have htrace : ∀ n, M.trace s ((List.range (n + 1)).map f) = M.trace s ((List.range n).map f) ++
      M.trace (M.run s ((List.range n).map f)) [f n] := fun n => by
    rw [List.range_succ, List.map_append, trace_append]
    rfl
  have hmono : Monotone count := monotone_nat_of_le_succ fun n => by
    simp only [hcount, htrace, List.filter_append, List.length_append]
    exact Nat.le_add_right _ _
  -- from the point on where the count is largest none is carried out any more
  set N := Function.argmin fun n => B - count n
  have hmax : ∀ n, count n ≤ count N := fun n => by
    have hle : B - count N ≤ B - count n := Function.argmin_le (fun n => B - count n) n
    have hn := h n
    have hN := h N
    simp only [hcount] at hle ⊢
    omega
  refine (Set.finite_lt_nat N).subset fun n hn => ?_
  obtain ⟨s', hs, hP⟩ := hn
  by_contra hle
  have hgrow : count (n + 1) = count n + 1 := by
    simp [hcount, htrace, trace, hs, hP]
  have hbound := hmax (n + 1)
  have hN := hmono (not_lt.mp hle)
  omega

/-- The progress rule: where every request of an infinite sequence that finds the goal unreached
raises a bounded measure, the goal is reached before the measure is used up. -/
theorem exists_run_goal {I G : σ → Prop} {m : σ → ℤ} {B : ℤ}
    (hI : ∀ s c s', I s → M.step s c = .ok s' → I s') (hbound : ∀ s, I s → m s ≤ B)
    {s : σ} (h0 : I s) {f : ℕ → κ}
    (hraise : ∀ n, ¬ G (M.run s ((List.range n).map f)) →
      ∃ s', M.step (M.run s ((List.range n).map f)) (f n) = .ok s' ∧
        m (M.run s ((List.range n).map f)) + 1 ≤ m s') :
    ∃ n : ℕ, (n : ℤ) ≤ B - m s ∧ G (M.run s ((List.range n).map f)) := by
  by_contra hnever
  push Not at hnever
  have hfar : ∀ n : ℕ, (n : ℤ) ≤ B - m s + 1 → m s + n ≤ m (M.run s ((List.range n).map f)) := by
    intro n
    induction n with
    | zero => simp
    | succ n ih =>
      intro hn
      push_cast at hn ⊢
      obtain ⟨s', hok, hle⟩ := hraise n (hnever n (by omega))
      have hrun : M.run s ((List.range (n + 1)).map f) = s' := by
        rw [List.range_succ, List.map_append, run, List.foldl_append]
        exact exec_of_ok hok
      rw [hrun]
      have := ih (by omega)
      omega
  have hstart := hbound s h0
  have hend := hfar (B - m s + 1).toNat (by omega)
  have hlast := hbound _ (run_invariant hI h0 ((List.range (B - m s + 1).toNat).map f))
  omega

/-- A command accepted after a run is a transition of the longer run. -/
lemma mem_trace_of_step {s s' : σ} (cs : List κ) {c : κ} (h : M.step (M.run s cs) c = .ok s') :
    ⟨M.run s cs, c, s'⟩ ∈ M.trace s (cs ++ [c]) := by
  induction cs generalizing s with
  | nil =>
    rw [run_nil] at h ⊢
    rw [List.nil_append, trace_cons_of_ok h]
    exact List.mem_cons_self
  | cons c' cs ih =>
    rw [run_cons] at h ⊢
    rw [List.cons_append]
    cases hs : M.step s c' with
    | ok t =>
      rw [exec_of_ok hs] at h ⊢
      rw [trace_cons_of_ok hs]
      exact List.mem_cons_of_mem _ (ih h)
    | error e =>
      rw [exec_of_error hs] at h ⊢
      rw [trace_cons_of_error hs]
      exact ih h

/-- A run of a longer list of requests goes on where the run of the shorter one ended. -/
lemma run_append (s : σ) (cs cs' : List κ) : M.run s (cs ++ cs') = M.run (M.run s cs) cs' :=
  List.foldl_append

/-- A step of the machine and its history is a step of the machine, and the history folded along. -/
lemma instrument_step_eq_ok_iff {upd : σ → κ → σ → η → η} {s s' : σ} {h h' : η} {c : κ} :
    (M.instrument upd).step (s, h) c = .ok (s', h') ↔ M.step s c = .ok s' ∧ h' = upd s c s' h := by
  simp only [instrument]
  cases M.step s c with
  | ok t =>
    simp only [Except.map, Except.ok.injEq, Prod.mk.injEq]
    constructor
    · rintro ⟨rfl, rfl⟩; exact ⟨rfl, rfl⟩
    · rintro ⟨rfl, rfl⟩; exact ⟨rfl, rfl⟩
  | error e => simp [Except.map]

/-- The history never changes what the machine does. -/
theorem instrument_run_fst (upd : σ → κ → σ → η → η) (s : σ) (h : η) (cs : List κ) :
    ((M.instrument upd).run (s, h) cs).1 = M.run s cs := by
  induction cs generalizing s h with
  | nil => rfl
  | cons c cs ih =>
    rw [run_cons, run_cons]
    cases hs : M.step s c with
    | ok s' =>
      rw [exec_of_ok hs, exec_of_ok (instrument_step_eq_ok_iff.mpr ⟨hs, rfl⟩)]
      exact ih s' (upd s c s' h)
    | error e =>
      have hi : (M.instrument upd).step (s, h) c = .error e := by
        simp [instrument, hs, Except.map]
      rw [exec_of_error hs, exec_of_error hi]
      exact ih s h

/-- A command accepted after a run extends the history of the run. -/
lemma instrument_run_concat (upd : σ → κ → σ → η → η) {s s' : σ} (h : η) {cs : List κ} {c : κ}
    (hstep : M.step (M.run s cs) c = .ok s') :
    (M.instrument upd).run (s, h) (cs ++ [c]) =
      (s', upd (M.run s cs) c s' ((M.instrument upd).run (s, h) cs).2) := by
  have hfst := instrument_run_fst (M := M) upd s h cs
  rw [run_append, run_cons, run_nil]
  apply exec_of_ok
  rw [← hfst] at hstep ⊢
  exact instrument_step_eq_ok_iff.mpr ⟨hstep, rfl⟩

/-- The invariant rule for a machine and its history, on requests that all lie in a given class. -/
theorem instrument_invariant_of_forall (upd : σ → κ → σ → η → η) {I : σ → η → Prop} {P : κ → Prop}
    (hstep : ∀ s h c s', P c → I s h → M.step s c = .ok s' → I s' (upd s c s' h))
    {s : σ} {h : η} (h0 : I s h) {cs : List κ} (hcs : ∀ c ∈ cs, P c) :
    I (M.run s cs) ((M.instrument upd).run (s, h) cs).2 := by
  have hrun := run_invariant_of_forall (M := M.instrument upd) (I := fun p => I p.1 p.2) (P := P)
    (s := (s, h)) ?_ h0 hcs
  · rwa [instrument_run_fst] at hrun
  · rintro ⟨s, h⟩ c ⟨s', h'⟩ hc hI hok
    obtain ⟨hs, rfl⟩ := instrument_step_eq_ok_iff.mp hok
    exact hstep s h c s' hc hI hs

/-- The invariant rule for a machine and its history. -/
theorem instrument_invariant (upd : σ → κ → σ → η → η) {I : σ → η → Prop}
    (hstep : ∀ s h c s', I s h → M.step s c = .ok s' → I s' (upd s c s' h))
    {s : σ} {h : η} (h0 : I s h) (cs : List κ) :
    I (M.run s cs) ((M.instrument upd).run (s, h) cs).2 :=
  instrument_invariant_of_forall upd (P := fun _ => True)
    (fun s h c s' _ => hstep s h c s') h0 fun _ _ => trivial

/-- The transitions of a machine and its history are those of the machine. -/
lemma instrument_trace (upd : σ → κ → σ → η → η) (s : σ) (h : η) (cs : List κ) :
    ((M.instrument upd).trace (s, h) cs).map (fun t => ⟨t.before.1, t.command, t.after.1⟩) =
      M.trace s cs := by
  induction cs generalizing s h with
  | nil => rfl
  | cons c cs ih =>
    cases hs : M.step s c with
    | ok s' =>
      rw [trace_cons_of_ok hs, trace_cons_of_ok (instrument_step_eq_ok_iff.mpr ⟨hs, rfl⟩),
        List.map_cons, ih]
    | error e =>
      have hi : (M.instrument upd).step (s, h) c = .error e := by
        simp [instrument, hs, Except.map]
      rw [trace_cons_of_error hs, trace_cons_of_error hi]
      exact ih s h

/-- The exactness rule for a machine and its history. -/
theorem instrument_run_take_iff (upd : σ → κ → σ → η → η) {I : σ → η → Prop} {J : σ → Prop}
    {P : Transition σ κ → Prop} (hJ : ∀ s c s', J s → M.step s c = .ok s' → J s')
    (hstep : ∀ s h c s', J s → I s h → M.step s c = .ok s' → (I s' (upd s c s' h) ↔ P ⟨s, c, s'⟩))
    {s : σ} {h : η} (hJ0 : J s) (h0 : I s h) (cs : List κ) :
    (∀ k, I (M.run s (cs.take k)) ((M.instrument upd).run (s, h) (cs.take k)).2) ↔
      ∀ t ∈ M.trace s cs, P t := by
  have hiff := forall_run_take_iff (M := M.instrument upd) (I := fun p => I p.1 p.2)
    (J := fun p => J p.1) (P := fun t => P ⟨t.before.1, t.command, t.after.1⟩)
    (fun _ _ _ hj hok => hJ _ _ _ hj (instrument_step_eq_ok_iff.mp hok).1)
    (fun p c p' hj hi hok => by
      obtain ⟨s, h⟩ := p
      obtain ⟨s', h'⟩ := p'
      obtain ⟨hs, rfl⟩ := instrument_step_eq_ok_iff.mp hok
      exact hstep s h c s' hj hi hs) (s := (s, h)) hJ0 h0 cs
  simp only [instrument_run_fst] at hiff
  rw [hiff, ← instrument_trace upd s h cs, List.forall_mem_map]

end Machine

end Foundation
