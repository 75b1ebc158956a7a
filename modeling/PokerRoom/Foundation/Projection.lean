import PokerRoom.Foundation.Machine

/-!
# Machines that write events

A machine writes events as it accepts commands; a rejected command writes none.  A consumer folds
the events into a view.  When the view of a state follows the events of every step, replaying the
events of a run yields the view of the state that the run has reached (`replay_events`), and it does
so at every moment (`events_append`).  Where a step may change what a part of the view shows only if
it writes an event about this part, no change is missed in any run (`exists_event_of_ne`).
-/

namespace Foundation

namespace Machine

variable {σ κ ε ω ν : Type*} {M : Machine σ κ ε} {write : σ → κ → σ → List ω}

/-- The events that a run writes. -/
def events (M : Machine σ κ ε) (write : σ → κ → σ → List ω) (s : σ) (cs : List κ) : List ω :=
  (M.trace s cs).flatMap fun t => write t.before t.command t.after

/-- An accepted command writes its events before those of the rest of the run. -/
lemma events_cons_of_ok {s s' : σ} {c : κ} {cs : List κ} (h : M.step s c = .ok s') :
    M.events write s (c :: cs) = write s c s' ++ M.events write s' cs := by
  rw [events, trace_cons_of_ok h, List.flatMap_cons, events]

/-- A rejected command writes nothing. -/
lemma events_cons_of_error {s : σ} {c : κ} {e : ε} {cs : List κ} (h : M.step s c = .error e) :
    M.events write s (c :: cs) = M.events write s cs := by
  rw [events, trace_cons_of_error h, events]

/-- A longer run writes further events. -/
theorem events_append (s : σ) (cs ds : List κ) :
    M.events write s (cs ++ ds) = M.events write s cs ++ M.events write (M.run s cs) ds := by
  rw [events, trace_append, List.flatMap_append, events, events]

/-- Replaying the events of a run yields the view of the state that it has reached, when the view
follows the events of every step from a state with the invariant. -/
theorem replay_events {I : σ → Prop} {apply : ν → ω → ν} {view : σ → ν}
    (hI : ∀ s c s', I s → M.step s c = .ok s' → I s')
    (hstep : ∀ s c s', I s → M.step s c = .ok s' → (write s c s').foldl apply (view s) = view s')
    {s : σ} (h₀ : I s) (cs : List κ) :
    (M.events write s cs).foldl apply (view s) = view (M.run s cs) := by
  induction cs generalizing s with
  | nil => rfl
  | cons c cs ih =>
    rw [run_cons]
    cases hs : M.step s c with
    | ok s' =>
      rw [events_cons_of_ok hs, exec_of_ok hs, List.foldl_append, hstep s c s' h₀ hs]
      exact ih (hI s c s' h₀ hs)
    | error e =>
      rw [events_cons_of_error hs, exec_of_error hs]
      exact ih h₀

/-- When a step changes what is shown only if it writes an event of a kind, what is shown has
changed in a run only if an event of this kind was written. -/
theorem exists_event_of_ne {I : σ → Prop} {shown : σ → ν} {P : ω → Prop}
    (hI : ∀ s c s', I s → M.step s c = .ok s' → I s')
    (hstep : ∀ s c s', I s → M.step s c = .ok s' → shown s' ≠ shown s → ∃ e ∈ write s c s', P e)
    {s : σ} (h₀ : I s) {cs : List κ} (hne : shown (M.run s cs) ≠ shown s) :
    ∃ e ∈ M.events write s cs, P e := by
  induction cs generalizing s with
  | nil => exact absurd rfl hne
  | cons c cs ih =>
    rw [run_cons] at hne
    cases hs : M.step s c with
    | ok s' =>
      rw [exec_of_ok hs] at hne
      rw [events_cons_of_ok hs]
      by_cases hsame : shown s' = shown s
      · obtain ⟨e, he, hP⟩ := ih (hI s c s' h₀ hs) (hsame ▸ hne)
        exact ⟨e, List.mem_append_right _ he, hP⟩
      · obtain ⟨e, he, hP⟩ := hstep s c s' h₀ hs hsame
        exact ⟨e, List.mem_append_left _ he, hP⟩
    | error e =>
      rw [exec_of_error hs] at hne
      rw [events_cons_of_error hs]
      exact ih h₀ hne

end Machine

end Foundation
