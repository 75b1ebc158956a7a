import Mathlib.Algebra.BigOperators.Group.List.Basic

/-!
# Replaying a log

A log is replayed by folding its entries into a state.  A measure of the state to which every entry
adds a fixed weight is, after the replay, its initial value plus the weights of the entries
(`foldl_measure`); a property that entries only establish holds after it when some entry establishes
it (`foldl_exists_iff`).  Entries are often numbered as they are written; `map_mapIdx_of_eq` forgets
the numbers.
-/

namespace Foundation

variable {σ ε M : Type*} [AddMonoid M]

/-- An additive measure of a replayed log. -/
theorem foldl_measure {apply : σ → ε → σ} (m : σ → M) (w : ε → M)
    (h : ∀ s e, m (apply s e) = m s + w e) (s : σ) (log : List ε) :
    m (log.foldl apply s) = m s + (log.map w).sum := by
  induction log generalizing s with
  | nil => simp
  | cons e log ih => rw [List.foldl_cons, ih, h, List.map_cons, List.sum_cons, add_assoc]

/-- A property of the state that an entry establishes or keeps holds after the replay exactly when
it held before or some entry of the log establishes it. -/
theorem foldl_exists_iff {σ ε : Type*} {apply : σ → ε → σ} {P : σ → Prop} {q : ε → Prop}
    (h : ∀ s e, P (apply s e) ↔ P s ∨ q e) (s : σ) (log : List ε) :
    P (log.foldl apply s) ↔ P s ∨ ∃ e ∈ log, q e := by
  induction log generalizing s with
  | nil => simp
  | cons e log ih => rw [List.foldl_cons, ih, h, List.exists_mem_cons_iff, or_assoc]

/-- A view of numbered entries that does not depend on the numbers. -/
lemma map_mapIdx_of_eq {α β γ : Type*} {f : ℕ → α → β} {v : β → γ} {g : α → γ}
    (h : ∀ i a, v (f i a) = g a) (l : List α) : (l.mapIdx f).map v = l.map g := by
  refine List.ext_getElem (by simp) fun i _ _ => ?_
  simp [h]

end Foundation
