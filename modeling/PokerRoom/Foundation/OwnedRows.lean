import PokerRoom.Foundation.KeyedTable

/-!
# Tables whose rows belong to owners

One table holds the rows of many owners.  `ownedBy owner row i l` lists what the rows of the owner
`i` say, in the order of the table.  Rows of one owner are appended, updated and deleted without a
trace in what the others own (`ownedBy_updateFirst`, `ownedBy_filter_ne`), so that a table with
distinct keys can be read as one table for each owner.
-/

namespace Foundation

variable {α β κ ι : Type*} [DecidableEq ι] [DecidableEq κ] {owner : α → ι} {row : α → β} {i j : ι}
  {l l' : List α} {a : α}

/-- The rows of an owner. -/
def ownedBy (owner : α → ι) (row : α → β) (i : ι) (l : List α) : List β :=
  (l.filter fun a => owner a = i).map row

/-- An empty table holds nothing of anyone. -/
@[simp] lemma ownedBy_nil : ownedBy owner row i [] = [] := rfl

/-- The rows of an owner in two tables one after the other. -/
@[simp] lemma ownedBy_append : ownedBy owner row i (l ++ l') = ownedBy owner row i l ++
    ownedBy owner row i l' := by
  rw [ownedBy, List.filter_append, List.map_append, ownedBy, ownedBy]

/-- A first row that belongs to the owner. -/
lemma ownedBy_cons_self (h : owner a = i) :
    ownedBy owner row i (a :: l) = row a :: ownedBy owner row i l := by
  simp [ownedBy, h]

/-- A first row that belongs to another owner. -/
lemma ownedBy_cons_of_ne (h : owner a ≠ i) :
    ownedBy owner row i (a :: l) = ownedBy owner row i l := by
  simp [ownedBy, h]

/-- A row that is appended for its owner shows among his rows only. -/
lemma ownedBy_concat : ownedBy owner row (owner a)
    (l ++ [a]) = ownedBy owner row (owner a) l ++ [row a] ∧
    ∀ j ≠ owner a, ownedBy owner row j (l ++ [a]) = ownedBy owner row j l := by
  refine ⟨?_, fun j hj => ?_⟩
  · rw [ownedBy_append, ownedBy_cons_self rfl, ownedBy_nil]
  · rw [ownedBy_append, ownedBy_cons_of_ne (Ne.symm hj), ownedBy_nil, List.append_nil]

/-- A row of an owner is a row of the table that belongs to him. -/
lemma mem_ownedBy_iff {b : β} : b ∈ ownedBy owner row i l ↔ ∃ a ∈ l, owner a = i ∧ row a = b := by
  simp [ownedBy, and_assoc]

/-- Nobody owns rows in a table without rows of his. -/
lemma ownedBy_eq_nil (h : ∀ a ∈ l, owner a ≠ i) : ownedBy owner row i l = [] := by
  rw [ownedBy, List.filter_eq_nil_iff.mpr fun a ha => by simp [h a ha], List.map_nil]

/-- All rows of a table that is written for one owner are his. -/
lemma ownedBy_map_self {γ : Type*} {f : γ → α} {rows : List γ} (h : ∀ c, owner (f c) = i) :
    ownedBy owner row i (rows.map f) = rows.map (row ∘ f) := by
  induction rows with
  | nil => rfl
  | cons c rows ih =>
    rw [List.map_cons, ownedBy_cons_self (h c), ih, List.map_cons, Function.comp_apply]

/-- Rows that are chosen by what they say are chosen among the rows of an owner. -/
lemma filter_ownedBy {p : β → Bool} :
    (ownedBy owner row i l).filter p = ownedBy owner row i (l.filter fun a => p (row a)) := by
  rw [ownedBy, List.filter_map, ownedBy, List.filter_filter, List.filter_filter]
  simp only [Function.comp_apply, Bool.and_comm]

omit [DecidableEq κ] in
/-- The keys of the rows of an owner are distinct where all keys are. -/
lemma nodup_map_ownedBy {key : α → κ} {key' : β → κ} (hkey : ∀ a, key' (row a) = key a)
    (hnd : (l.map key).Nodup) : ((ownedBy owner row i l).map key').Nodup := by
  rw [ownedBy, List.map_map, show key' ∘ row = key from funext hkey]
  exact hnd.sublist (List.filter_sublist.map key)

/-- A row that is rewritten stays with its owner, and is rewritten there. -/
lemma ownedBy_updateFirst {key : α → κ} {key' : β → κ} {k : κ} {f : α → α} {f' : β → β}
    (hkey : ∀ a, key' (row a) = key a) (hrow : ∀ a, row (f a) = f' (row a))
    (howner : ∀ a, owner (f a) = owner a) (hi : ∀ a ∈ l, key a = k → owner a = i) :
    ownedBy owner row i (updateFirst key k f l) =
      updateFirst key' k f' (ownedBy owner row i l) := by
  induction l with
  | nil => rfl
  | cons a l ih =>
    have hl := ih fun b hb => hi b (List.mem_cons_of_mem a hb)
    by_cases hk : key a = k
    · have ha : owner a = i := hi a List.mem_cons_self hk
      rw [updateFirst, if_pos hk, ownedBy_cons_self ((howner a).trans ha),
        ownedBy_cons_self ha, updateFirst,
        if_pos ((hkey a).trans hk), hrow]
    · rw [updateFirst, if_neg hk]
      by_cases ha : owner a = i
      · rw [ownedBy_cons_self ha, ownedBy_cons_self ha, updateFirst, if_neg (hkey a ▸ hk), hl]
      · rw [ownedBy_cons_of_ne ha, ownedBy_cons_of_ne ha, hl]

/-- A row that is rewritten does not show among the rows of another owner. -/
lemma ownedBy_updateFirst_of_ne {key : α → κ} {k : κ} {f : α → α}
    (howner : ∀ a, owner (f a) = owner a) (hj : ∀ a ∈ l, key a = k → owner a ≠ j) :
    ownedBy owner row j (updateFirst key k f l) = ownedBy owner row j l := by
  induction l with
  | nil => rfl
  | cons a l ih =>
    have hl := ih fun b hb => hj b (List.mem_cons_of_mem a hb)
    by_cases hk : key a = k
    · have ha : owner a ≠ j := hj a List.mem_cons_self hk
      rw [updateFirst, if_pos hk, ownedBy_cons_of_ne ((howner a).trans_ne ha),
        ownedBy_cons_of_ne ha]
    · rw [updateFirst, if_neg hk]
      by_cases ha : owner a = j
      · rw [ownedBy_cons_self ha, ownedBy_cons_self ha, hl]
      · rw [ownedBy_cons_of_ne ha, ownedBy_cons_of_ne ha, hl]

/-- Nothing is left of an owner whose rows are deleted, and everything of the others. -/
lemma ownedBy_filter_ne :
    ownedBy owner row j (l.filter fun a => owner a ≠ i) =
      if j = i then [] else ownedBy owner row j l := by
  rw [ownedBy, List.filter_filter]
  split
  · next h =>
    rw [List.filter_eq_nil_iff.mpr fun a _ => by simp [h], List.map_nil]
  · next h =>
    rw [ownedBy]
    refine congrArg (List.map row) (List.filter_congr fun a _ => ?_)
    by_cases ha : owner a = j
    · simp [ha, h]
    · simp [ha]

/-- The rows of one owner are replaced by others of his. -/
lemma ownedBy_replace {γ : Type*} {f : γ → α} {rows : List γ} (h : ∀ c, owner (f c) = i) :
    ownedBy owner row j ((l.filter fun a => owner a ≠ i) ++ rows.map f) =
      if j = i then rows.map (row ∘ f) else ownedBy owner row j l := by
  rw [ownedBy_append, ownedBy_filter_ne]
  by_cases hj : j = i
  · rw [if_pos hj, if_pos hj, hj, ownedBy_map_self h, List.nil_append]
  · have hnone : ownedBy owner row j (rows.map f) = [] := by
      refine ownedBy_eq_nil fun a ha => ?_
      obtain ⟨c, -, rfl⟩ := List.mem_map.mp ha
      exact (h c).trans_ne (Ne.symm hj)
    rw [if_neg hj, if_neg hj, hnone, List.append_nil]

end Foundation
