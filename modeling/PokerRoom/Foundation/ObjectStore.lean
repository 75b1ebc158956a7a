import PokerRoom.Foundation.Machine
import Mathlib.Logic.Function.Basic

/-!
# Stores of independent objects

A store holds objects under identifiers, and every object is run by one and the same machine.  An
`ObjectEvent` creates an object, carries a command out on it, or deletes it; `Machine.apply` is what
it does to the store.

Only the events about an object decide what becomes of it: an object that is there was created, and
it has been run by the commands on it since (`exists_birth`), so what the machine keeps holds of
every object of the store (`forall_of_foldl_apply`).
-/

namespace Foundation

variable {ι τ κ ε : Type*}

/-- What happens to an object of a store. -/
inductive ObjectEvent (ι τ κ : Type*)
  /-- It is created. -/
  | created (i : ι) (t : τ)
  /-- A command is carried out on it. -/
  | acted (i : ι) (c : κ)
  /-- It is deleted. -/
  | deleted (i : ι)

/-- The object it happens to. -/
def ObjectEvent.target : ObjectEvent ι τ κ → ι
  | .created i _ => i
  | .acted i _ => i
  | .deleted i => i

namespace Machine

variable [DecidableEq ι] {N : Machine τ κ ε} {m m' : ι → Option τ} {i : ι} {e : ObjectEvent ι τ κ}
  {es : List (ObjectEvent ι τ κ)}

/-- What an event does to a store whose objects are run by the machine. -/
def apply (N : Machine τ κ ε) (m : ι → Option τ) : ObjectEvent ι τ κ → ι → Option τ
  | .created i t => Function.update m i (some t)
  | .acted i c => Function.update m i ((m i).map fun t => N.exec t c)
  | .deleted i => Function.update m i none

/-- An event leaves the other objects alone. -/
lemma apply_of_ne (h : e.target ≠ i) : N.apply m e i = m i := by
  cases e with
  | created j t => exact Function.update_of_ne (Ne.symm h) _ _
  | acted j c => exact Function.update_of_ne (Ne.symm h) _ _
  | deleted j => exact Function.update_of_ne (Ne.symm h) _ _

/-- A command that is carried out on an object, in a store that is the same elsewhere. -/
lemma apply_acted {c : κ} {t t' : τ} (ht : m i = some t) (hstep : N.step t c = .ok t')
    (hi : m' i = some t') (hne : ∀ j ≠ i, m' j = m j) : N.apply m (.acted i c) = m' := by
  funext j
  by_cases hj : j = i
  · subst hj
    rw [apply, Function.update_self, ht, Option.map_some, exec_of_ok hstep, hi]
  · rw [apply, Function.update_of_ne hj, hne j hj]

/-- An object that is there was created, and the commands on it have been carried out since. -/
theorem exists_birth {t : τ} (h : es.foldl N.apply (fun _ => none) i = some t) :
    ∃ before t₀ cs, (es.filter fun e => e.target = i) = before ++
      .created i t₀ :: cs.map (.acted i) ∧
      t = N.run t₀ cs := by
  induction es using List.reverseRecOn generalizing t with
  | nil => cases h
  | append_singleton es e ih =>
    rw [List.foldl_append, List.foldl_cons, List.foldl_nil] at h
    rw [List.filter_append, List.filter_singleton]
    by_cases hi : e.target = i
    · subst hi
      rw [decide_eq_true rfl, cond_true]
      cases e with
      | created j t₀ =>
        have ht : t₀ = t := by simpa [apply, ObjectEvent.target] using h
        exact ⟨_, t₀, [], rfl, ht.symm⟩
      | acted j c =>
        rw [apply, ObjectEvent.target, Function.update_self] at h
        obtain ⟨t', ht', rfl⟩ := Option.map_eq_some_iff.mp h
        obtain ⟨before, t₀, cs, hes, rfl⟩ := ih ht'
        refine ⟨before, t₀, cs ++ [c], ?_, ?_⟩
        · rw [hes, List.map_append, List.append_assoc, List.cons_append]
          rfl
        · rw [run_append]
          rfl
      | deleted j => simp [apply, ObjectEvent.target] at h
    · rw [apply_of_ne hi] at h
      obtain ⟨before, t₀, cs, hes, ht⟩ := ih h
      exact ⟨before, t₀, cs, by rw [hes, decide_eq_false hi, cond_false, List.append_nil], ht⟩

/-- What created objects satisfy and the machine keeps holds of every object of the store. -/
theorem forall_of_foldl_apply {P : τ → Prop} (hP : ∀ s c s', P s → N.step s c = .ok s' → P s')
    (hcreated : ∀ i t, .created i t ∈ es → P t) {t : τ}
    (h : es.foldl N.apply (fun _ => none) i = some t) : P t := by
  obtain ⟨before, t₀, cs, hes, rfl⟩ := exists_birth h
  have hmem : ObjectEvent.created i t₀ ∈ es.filter fun e => e.target = i := by
    rw [hes]
    exact List.mem_append_right _ List.mem_cons_self
  exact run_invariant hP (hcreated i t₀ (List.mem_filter.mp hmem).1) cs

end Machine

end Foundation
