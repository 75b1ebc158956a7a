import Mathlib.Data.List.Nodup
import Mathlib.Algebra.BigOperators.Group.List.Basic
import Mathlib.Tactic.Abel
import Mathlib.Tactic.Ring

/-!
# Tables of rows addressed by a key

A table is a list of rows; `updateFirst key k f` rewrites the first row whose key is `k`.  When no
two rows share a key the update is the pointwise rewriting of the table (`updateFirst_eq_map`), a
lookup by key is membership (`find?_key_eq_some_iff`), and an additive measure of the table changes
by what the one row contributes (`sum_map_updateFirst`).  `upsert` also appends the row when it is
missing; it changes what a lookup finds under its own key and nothing else (`find?_upsert`).

`Grown` compares a table with a later one in which rows have been spent and others were appended.
`Only` says that a table has one row of a kind, and its rules what an update makes of it.  `Moved`
compares two tables by a measure of their rows: the measure of every row has moved by what is booked
on its key.  Moves compose (`Moved.trans`), and a measure that is a function of the key before a
move is one after it (`Moved.eq_add`).
-/

namespace Foundation

variable {α β κ M : Type*} [DecidableEq κ] {key : α → κ} {k : κ} {f : α → α} {l : List α}

/-- Rewrite the first row whose key is `k`; a table without such a row is left alone. -/
def updateFirst (key : α → κ) (k : κ) (f : α → α) : List α → List α
  | [] => []
  | a :: l => if key a = k then f a :: l else a :: updateFirst key k f l

/-- A view that the rewriting does not change reads the same from the updated table. -/
lemma map_updateFirst_of_eq (g : α → β) (hg : ∀ a, g (f a) = g a) :
    (updateFirst key k f l).map g = l.map g := by
  induction l with
  | nil => rfl
  | cons a l ih =>
    by_cases ha : key a = k
    · simp [updateFirst, ha, hg]
    · simp [updateFirst, ha, ih]

/-- An update that leaves a projection of the rows alone keeps it free of duplicates. -/
lemma nodup_map_updateFirst (g : α → β) (hg : ∀ a, g (f a) = g a) (h : (l.map g).Nodup) :
    ((updateFirst key k f l).map g).Nodup := by
  rwa [map_updateFirst_of_eq g hg]

/-- Rewriting the row of a key into one with the same key keeps the keys. -/
lemma map_key_updateFirst (hf : ∀ a, key (f a) = k) :
    (updateFirst key k f l).map key = l.map key := by
  induction l with
  | nil => rfl
  | cons a l ih =>
    by_cases ha : key a = k
    · simp [updateFirst, ha, hf]
    · simp [updateFirst, ha, ih]

/-- A row of the updated table is an old row or the rewriting of a row with the key. -/
lemma mem_of_mem_updateFirst {b : α} (hb : b ∈ updateFirst key k f l) :
    b ∈ l ∨ ∃ a ∈ l, key a = k ∧ b = f a := by
  induction l with
  | nil => simp [updateFirst] at hb
  | cons a l ih =>
    by_cases ha : key a = k
    · rw [updateFirst, if_pos ha] at hb
      rcases List.mem_cons.mp hb with rfl | hb
      · exact Or.inr ⟨a, List.mem_cons_self, ha, rfl⟩
      · exact Or.inl (List.mem_cons_of_mem a hb)
    · rw [updateFirst, if_neg ha] at hb
      rcases List.mem_cons.mp hb with rfl | hb
      · exact Or.inl List.mem_cons_self
      · rcases ih hb with h | ⟨c, hc, hk, rfl⟩
        · exact Or.inl (List.mem_cons_of_mem a h)
        · exact Or.inr ⟨c, List.mem_cons_of_mem a hc, hk, rfl⟩

/-- A row that does not carry the key is kept. -/
lemma mem_updateFirst_of_ne {a : α} (ha : a ∈ l) (hne : key a ≠ k) : a ∈ updateFirst key k f l := by
  induction l with
  | nil => exact ha
  | cons b l ih =>
    rcases List.mem_cons.mp ha with rfl | ha
    · rw [updateFirst, if_neg hne]
      exact List.mem_cons_self
    · rw [updateFirst]
      split
      · exact List.mem_cons_of_mem _ ha
      · exact List.mem_cons_of_mem _ (ih ha)

/-- A row that replaces the row of a key is in the table. -/
lemma mem_updateFirst_const {b : α} (h : ∃ a ∈ l, key a = k) :
    b ∈ updateFirst key k (fun _ => b) l := by
  induction l with
  | nil => simp at h
  | cons a l ih =>
    by_cases ha : key a = k
    · rw [updateFirst, if_pos ha]
      exact List.mem_cons_self
    · rw [updateFirst, if_neg ha]
      obtain ⟨c, hc, hk⟩ := h
      rcases List.mem_cons.mp hc with rfl | hc
      · exact absurd hk ha
      · exact List.mem_cons_of_mem a (ih ⟨c, hc, hk⟩)

/-- A table without a row for the key is left alone. -/
lemma updateFirst_of_forall_ne (h : ∀ a ∈ l, key a ≠ k) : updateFirst key k f l = l := by
  induction l with
  | nil => rfl
  | cons a l ih =>
    rw [updateFirst, if_neg (h a List.mem_cons_self),
      ih fun b hb => h b (List.mem_cons_of_mem a hb)]

/-- With distinct keys the update rewrites exactly the rows whose key is `k`. -/
lemma updateFirst_eq_map (hnd : (l.map key).Nodup) :
    updateFirst key k f l = l.map fun a => if key a = k then f a else a := by
  induction l with
  | nil => rfl
  | cons a l ih =>
    rw [List.map_cons, List.nodup_cons] at hnd
    by_cases ha : key a = k
    · have hne : ∀ b ∈ l, key b ≠ k := fun b hb hk =>
        hnd.1 (List.mem_map.mpr ⟨b, hb, hk.trans ha.symm⟩)
      have hrest : l.map (fun b => if key b = k then f b else b) = l := by
        rw [List.map_congr_left fun b hb => if_neg (hne b hb), List.map_id']
      rw [updateFirst, if_pos ha, List.map_cons, if_pos ha, hrest]
    · rw [updateFirst, if_neg ha, List.map_cons, if_neg ha, ih hnd.2]

/-- A lookup by key finds a row of the table that carries the key. -/
lemma mem_of_find?_key {a : α} (h : l.find? (fun b => key b = k) = some a) :
    a ∈ l ∧ key a = k :=
  ⟨List.mem_of_find?_eq_some h, by simpa using List.find?_some h⟩

/-- A lookup by key fails exactly when no row carries the key. -/
lemma find?_key_eq_none_iff :
    l.find? (fun b => key b = k) = none ↔ ∀ a ∈ l, key a ≠ k := by
  simp [List.find?_eq_none]

omit [DecidableEq κ] in
/-- Two rows of a table with distinct keys that carry the same key are the same row. -/
lemma eq_of_key_eq (hnd : (l.map key).Nodup) {a b : α} (ha : a ∈ l) (hb : b ∈ l)
    (hk : key a = key b) : a = b :=
  List.inj_on_of_nodup_map hnd ha hb hk

omit [DecidableEq κ] in
/-- A row appended to a table keeps the keys distinct exactly when they were and no row has its
key. -/
lemma nodup_map_concat_iff {a : α} :
    ((l ++ [a]).map key).Nodup ↔ (l.map key).Nodup ∧ ∀ b ∈ l, key b ≠ key a := by
  rw [List.map_append, List.map_singleton, ← List.concat_eq_append, List.nodup_concat, and_comm,
    List.mem_map]
  simp only [not_exists, not_and, ne_eq]

/-- With distinct keys a row is the only one with its key. -/
lemma filter_key_eq_singleton_iff (hnd : (l.map key).Nodup) {a : α} :
    l.filter (fun b => key b = k) = [a] ↔ a ∈ l ∧ key a = k := by
  constructor
  · intro h
    have ha : a ∈ l.filter fun b => key b = k := h ▸ List.mem_singleton_self a
    simpa using List.mem_filter.mp ha
  · rintro ⟨ha, rfl⟩
    refine (List.perm_singleton.mp
      ((List.perm_ext_iff_of_nodup ?_ (List.nodup_singleton a)).mpr fun b => ?_))
    · exact (hnd.of_map key).filter _
    · rw [List.mem_filter, List.mem_singleton, decide_eq_true_eq]
      constructor
      · rintro ⟨hb, hk⟩
        exact eq_of_key_eq hnd hb ha hk
      · rintro rfl
        exact ⟨ha, rfl⟩

/-- With distinct keys a lookup by key is membership. -/
lemma find?_key_eq_some_iff (hnd : (l.map key).Nodup) {a : α} :
    l.find? (fun b => key b = k) = some a ↔ a ∈ l ∧ key a = k := by
  refine ⟨mem_of_find?_key, fun ⟨ha, hk⟩ => ?_⟩
  cases h : l.find? (fun b => key b = k) with
  | none => exact absurd hk (find?_key_eq_none_iff.mp h a ha)
  | some b =>
    obtain ⟨hb, hkb⟩ := mem_of_find?_key h
    rw [eq_of_key_eq hnd hb ha (hkb.trans hk.symm)]

/-- With distinct keys a lookup by key does not depend on the order of the rows. -/
lemma find?_key_eq_of_perm {l' : List α} (hnd : (l.map key).Nodup) (hperm : l.Perm l') :
    (l.find? fun b => key b = k) = l'.find? fun b => key b = k := by
  have hnd' : (l'.map key).Nodup := (hperm.map key).nodup_iff.mp hnd
  ext a
  rw [find?_key_eq_some_iff hnd, find?_key_eq_some_iff hnd', hperm.mem_iff]

/-- Updated in any order, a table with distinct keys has the same rows. -/
lemma updateFirst_perm {l' : List α} (hnd : (l.map key).Nodup) (hperm : l.Perm l') :
    (updateFirst key k f l).Perm (updateFirst key k f l') := by
  rw [updateFirst_eq_map hnd, updateFirst_eq_map ((hperm.map key).nodup_iff.mp hnd)]
  exact hperm.map _

/-- The rows of the updated table: the rewriting of the row with the key, and every other row. -/
lemma mem_updateFirst_iff (hnd : (l.map key).Nodup) {b : α} :
    b ∈ updateFirst key k f l ↔
      (∃ a ∈ l, key a = k ∧ b = f a) ∨ (b ∈ l ∧ key b ≠ k) := by
  rw [updateFirst_eq_map hnd, List.mem_map]
  constructor
  · rintro ⟨a, ha, rfl⟩
    by_cases hk : key a = k
    · rw [if_pos hk]; exact Or.inl ⟨a, ha, hk, rfl⟩
    · rw [if_neg hk]; exact Or.inr ⟨ha, hk⟩
  · rintro (⟨a, ha, hk, rfl⟩ | ⟨hb, hk⟩)
    · exact ⟨a, ha, if_pos hk⟩
    · exact ⟨b, hb, if_neg hk⟩

/-- The last row of the updated table is the last row, rewritten if it carries the key. -/
lemma getLast?_updateFirst (hnd : (l.map key).Nodup) :
    (updateFirst key k f l).getLast? = l.getLast?.map fun a => if key a = k then f a else a := by
  rw [updateFirst_eq_map hnd, List.getLast?_map]

/-- A view of the rows follows the rewriting of a row. -/
lemma map_updateFirst_view {v : α → β} {vkey : β → κ} (hkey : ∀ a, vkey (v a) = key a) {h : β → β}
    (hf : ∀ a ∈ l, key a = k → v (f a) = h (v a)) :
    (updateFirst key k f l).map v = updateFirst vkey k h (l.map v) := by
  induction l with
  | nil => rfl
  | cons a l ih =>
    rw [List.map_cons, updateFirst, updateFirst, hkey]
    split
    · next hk => rw [List.map_cons, hf a List.mem_cons_self hk]
    · rw [List.map_cons, ih fun b hb => hf b (List.mem_cons_of_mem _ hb)]

/-- What holds of every row, and of the rewriting of the row with the key, holds of every row of
the updated table. -/
lemma forall_updateFirst {P : α → Prop} (h : ∀ a ∈ l, P a)
    (hf : ∀ a ∈ l, key a = k → P (f a)) : ∀ b ∈ updateFirst key k f l, P b := by
  intro b hb
  rcases mem_of_mem_updateFirst hb with hb | ⟨a, ha, hk, rfl⟩
  · exact h b hb
  · exact hf a ha hk

/-- An additive measure of a table with distinct keys changes by what the rewritten row
contributes. -/
lemma sum_map_updateFirst [AddCommGroup M] (g : α → M) (hnd : (l.map key).Nodup) {a : α}
    (ha : a ∈ l) (hk : key a = k) :
    ((updateFirst key k f l).map g).sum = (l.map g).sum + (g (f a) - g a) := by
  induction l with
  | nil => simp at ha
  | cons b l ih =>
    rw [List.map_cons, List.nodup_cons] at hnd
    rcases List.mem_cons.mp ha with rfl | hmem
    · rw [updateFirst, if_pos hk, List.map_cons, List.map_cons, List.sum_cons, List.sum_cons]
      abel
    · have hb : key b ≠ k := fun hb =>
        hnd.1 (List.mem_map.mpr ⟨a, hmem, hk.trans hb.symm⟩)
      rw [updateFirst, if_neg hb, List.map_cons, List.map_cons, List.sum_cons, List.sum_cons,
        ih hnd.2 hmem]
      abel

/-- The number of rows of a kind in a table with distinct keys changes by what the rewritten row
contributes. -/
lemma length_filter_updateFirst {p : α → Prop} [DecidablePred p] (hnd : (l.map key).Nodup) {a : α}
    (ha : a ∈ l) (hk : key a = k) :
    (((updateFirst key k f l).filter fun b => p b).length : ℤ) =
      (l.filter fun b => p b).length + ((if p (f a) then 1 else 0) - if p a then 1 else 0) := by
  have hcount : ∀ l : List α, (l.map fun b => if p b then (1 : ℤ) else 0).sum =
      (l.filter fun b => p b).length := by
    intro l
    induction l with
    | nil => rfl
    | cons b l ih =>
      by_cases hb : p b
      · rw [List.map_cons, List.sum_cons, ih,
          List.filter_cons_of_pos (by simpa using hb), if_pos hb,
          List.length_cons]
        push_cast
        ring
      · rw [List.map_cons, List.sum_cons, ih,
          List.filter_cons_of_neg (by simpa using hb), if_neg hb,
          zero_add]
  have hsum := sum_map_updateFirst (f := f) (fun b => if p b then (1 : ℤ) else 0) hnd ha hk
  rwa [hcount, hcount] at hsum

/-- An additive measure of a table after rewriting the rows of several distinct keys, by what every
rewritten row contributes. -/
lemma sum_map_foldl_updateFirst {ρ : Type*} [AddCommGroup M] (g : α → M) {rkey : ρ → κ}
    {f : ρ → α → α} (hf : ∀ r a, key (f r a) = key a) {rows : List ρ} (hnd : (l.map key).Nodup)
    (hrows : (rows.map rkey).Nodup) {v : ρ → M}
    (hrow : ∀ r ∈ rows, ∃ a ∈ l, key a = rkey r ∧ g (f r a) - g a = v r) :
    ((rows.foldl (fun l r => updateFirst key (rkey r) (f r) l) l).map g).sum =
      (l.map g).sum + (rows.map v).sum := by
  induction rows generalizing l with
  | nil => simp
  | cons r rows ih =>
    rw [List.map_cons, List.nodup_cons] at hrows
    obtain ⟨⟨a, ha, hk, hv⟩, hrest⟩ := List.forall_mem_cons.mp hrow
    have hkeys : (updateFirst key (rkey r) (f r) l).map key = l.map key :=
      map_updateFirst_of_eq _ (hf r)
    rw [List.foldl_cons, ih (hkeys ▸ hnd) hrows.2 fun r' hr' => ?_,
      sum_map_updateFirst g hnd ha hk, hv, List.map_cons, List.sum_cons, add_assoc]
    -- the rows of the other keys are still there
    obtain ⟨b, hb, hk', hv'⟩ := hrest r' hr'
    have hne : key b ≠ rkey r := fun h =>
      hrows.1 (List.mem_map.mpr ⟨r', hr', hk'.symm.trans h⟩)
    exact ⟨b, (mem_updateFirst_iff hnd).mpr (Or.inr ⟨hb, hne⟩), hk', hv'⟩

/-- Rewriting the rows of several distinct keys one after the other rewrites every row by the one
that carries its key. -/
lemma foldl_updateFirst_eq_map {ρ : Type*} {rkey : ρ → κ} {f : ρ → α → α}
    (hf : ∀ r a, key (f r a) = key a) {rows : List ρ} (hnd : (l.map key).Nodup)
    (hrows : (rows.map rkey).Nodup) :
    rows.foldl (fun l r => updateFirst key (rkey r) (f r) l) l =
      l.map fun a => ((rows.find? fun r => rkey r = key a).map fun r => f r a).getD a := by
  induction rows generalizing l with
  | nil => simp
  | cons r rows ih =>
    rw [List.map_cons, List.nodup_cons] at hrows
    have hkeys : (updateFirst key (rkey r) (f r) l).map key = l.map key :=
      map_updateFirst_of_eq _ (hf r)
    rw [List.foldl_cons, ih (hkeys ▸ hnd) hrows.2, updateFirst_eq_map hnd, List.map_map]
    apply List.map_congr_left
    intro a _
    by_cases ha : key a = rkey r
    · -- no later row carries the key again
      have hnone : rows.find? (fun r' => rkey r' = rkey r) = none :=
        find?_key_eq_none_iff.mpr fun r' hr' hk => hrows.1 (List.mem_map.mpr ⟨r', hr', hk⟩)
      simp [ha, hf, hnone]
    · simp [ha, Ne.symm ha]

/-- Rewrite the first row whose key is `k`, appending the row `a` before when there is none. -/
def upsert (key : α → κ) (k : κ) (a : α) (f : α → α) (l : List α) : List α :=
  if ∃ b ∈ l, key b = k then updateFirst key k f l else l ++ [f a]

/-- A lookup in an updated table finds the rewritten row under its key, and what it found before
under any other. -/
lemma find?_updateFirst (hf : ∀ a, key (f a) = key a) (k' : κ) :
    (updateFirst key k f l).find? (fun b => key b = k') =
      if k' = k then (l.find? fun b => key b = k).map f else l.find? fun b => key b = k' := by
  induction l with
  | nil => simp [updateFirst]
  | cons a l ih =>
    by_cases ha : key a = k
    · by_cases hk : k' = k
      · subst hk
        simp [updateFirst, ha, hf]
      · have hne : key a ≠ k' := fun h => hk (h.symm.trans ha)
        simp [updateFirst, ha, hf, hk, Ne.symm hk]
    · rw [updateFirst, if_neg ha, List.find?_cons, ih, List.find?_cons, List.find?_cons]
      by_cases hk : k' = k
      · subst hk
        simp [ha]
      · simp [hk]

/-- A lookup under another key finds what it found before the row was replaced. -/
lemma find?_updateFirst_of_ne (hf : ∀ a, key (f a) = k) {k' : κ} (hne : k' ≠ k) :
    ((updateFirst key k f l).find? fun b => key b = k') = l.find? fun b => key b = k' := by
  induction l with
  | nil => rfl
  | cons a l ih =>
    rw [updateFirst]
    split
    · next ha =>
      have hold : ¬ key a = k' := fun h => hne (h.symm.trans ha)
      have hnew : ¬ key (f a) = k' := fun h => hne (h.symm.trans (hf a))
      simp [hold, hnew]
    · rw [List.find?_cons, List.find?_cons, ih]

/-- A lookup after an upsert finds the rewritten or new row under its key, and what it found before
under any other. -/
lemma find?_upsert (hf : ∀ a, key (f a) = key a) {a : α} (ha : key a = k) (k' : κ) :
    (upsert key k a f l).find? (fun b => key b = k') =
      if k' = k then some (f ((l.find? fun b => key b = k).getD a))
      else l.find? fun b => key b = k' := by
  unfold upsert
  split
  · next hex =>
    rw [find?_updateFirst hf]
    split
    · obtain ⟨b, hb, hk⟩ := hex
      cases hfind : l.find? fun b => key b = k with
      | none => exact absurd hk (find?_key_eq_none_iff.mp hfind b hb)
      | some c => rfl
    · rfl
  · next hno =>
    push Not at hno
    have hnone : l.find? (fun b => key b = k) = none := find?_key_eq_none_iff.mpr hno
    rw [List.find?_append]
    by_cases hk : k' = k
    · subst hk
      simp [hnone, hf, ha]
    · have hne : key (f a) ≠ k' := by rw [hf, ha]; exact Ne.symm hk
      simp [hk, hne]

/-- An upsert keeps the keys distinct. -/
lemma nodup_upsert (hf : ∀ a, key (f a) = key a) {a : α} (ha : key a = k)
    (hnd : (l.map key).Nodup) :
    ((upsert key k a f l).map key).Nodup := by
  unfold upsert
  split
  · exact nodup_map_updateFirst key hf hnd
  · next hno =>
    push Not at hno
    refine nodup_map_concat_iff.mpr ⟨hnd, fun b hb heq => hno b hb ?_⟩
    rw [heq, hf, ha]

/-! ## Spending rows -/

section Grown

omit [DecidableEq κ]

variable {spent : α → Prop} {fresh : κ → Prop} {l' : List α}

/-- A table has grown: every row is kept under its key and stays spent once it is, and every other
row carries a fresh key. -/
structure Grown (key : α → κ) (spent : α → Prop) (fresh : κ → Prop) (l l' : List α) : Prop where
  /-- Rows are kept. -/
  kept : ∀ a ∈ l, ∃ a' ∈ l', key a' = key a ∧ (spent a → spent a')
  /-- Other rows are fresh. -/
  grown : ∀ a' ∈ l', key a' ∈ l.map key ∨ fresh (key a')

/-- A table that stays as it is has grown. -/
lemma grown_refl (l : List α) : Grown key spent fresh l l :=
  ⟨fun a ha => ⟨a, ha, rfl, id⟩, fun _ ha => Or.inl (List.mem_map_of_mem ha)⟩

/-- A table grows when its rows are rewritten and others are appended. -/
lemma grown_map_append {g : α → α} {new : List α}
    (hg : ∀ a ∈ l, key (g a) = key a ∧ (spent a → spent (g a))) (hnew : ∀ a ∈ new, fresh (key a)) :
    Grown key spent fresh l (l.map g ++ new) := by
  constructor
  · exact fun a ha => ⟨g a, List.mem_append_left _ (List.mem_map_of_mem ha), hg a ha⟩
  · intro a' ha'
    rcases List.mem_append.mp ha' with ha' | ha'
    · obtain ⟨a, ha, rfl⟩ := List.mem_map.mp ha'
      exact Or.inl (List.mem_map.mpr ⟨a, ha, (hg a ha).1.symm⟩)
    · exact Or.inr (hnew a' ha')

/-- A table grows when rows are appended. -/
lemma grown_append {new : List α} (hnew : ∀ a ∈ new, fresh (key a)) :
    Grown key spent fresh l (l ++ new) := by
  have hgrown : Grown key spent fresh l (l.map id ++ new) :=
    grown_map_append (fun _ _ => ⟨rfl, id⟩) hnew
  rwa [List.map_id] at hgrown

/-- A row of a kind, told by its key, is stored after the table has grown. -/
lemma Grown.exists_kept (h : Grown key spent fresh l l') {P : κ → Prop} (hP : ∃ a ∈ l, P (key a)) :
    ∃ a ∈ l', P (key a) := by
  obtain ⟨a, ha, hk⟩ := hP
  obtain ⟨a', ha', hk', -⟩ := h.kept a ha
  exact ⟨a', ha', hk'.symm ▸ hk⟩

/-- A spent row of a kind is stored after the table has grown. -/
lemma Grown.exists_spent (h : Grown key spent fresh l l') {P : κ → Prop}
    (hP : ∃ a ∈ l, P (key a) ∧ spent a) : ∃ a ∈ l', P (key a) ∧ spent a := by
  obtain ⟨a, ha, hk, hs⟩ := hP
  obtain ⟨a', ha', hk', hs'⟩ := h.kept a ha
  exact ⟨a', ha', hk'.symm ▸ hk, hs' hs⟩

end Grown

/-! ## The one row of a kind -/

section Only

variable {P : α → Prop} {a b : α}

/-- A row is the only one of a kind in a table. -/
structure Only (P : α → Prop) (a : α) (l : List α) : Prop where
  /-- It is in the table. -/
  mem : a ∈ l
  /-- It is of the kind. -/
  holds : P a
  /-- No other row is. -/
  unique : ∀ b ∈ l, P b → b = a

omit [DecidableEq κ] in
/-- Rows of another kind may be appended. -/
lemma Only.append (h : Only P a l) {new : List α} (hnew : ∀ b ∈ new, ¬ P b) :
    Only P a (l ++ new) where
  mem := List.mem_append_left _ h.mem
  holds := h.holds
  unique b hb hP := by
    rcases List.mem_append.mp hb with hb | hb
    · exact h.unique b hb hP
    · exact absurd hP (hnew b hb)

omit [DecidableEq κ] in
/-- A row that is appended is the only one of its kind when there was none. -/
lemma only_concat (h : ∀ b ∈ l, ¬ P b) (ha : P a) : Only P a (l ++ [a]) where
  mem := List.mem_append_right _ (List.mem_singleton.mpr rfl)
  holds := ha
  unique b hb hP := by
    rcases List.mem_append.mp hb with hb | hb
    · exact absurd hP (h b hb)
    · exact List.mem_singleton.mp hb

/-- The only row of a kind is rewritten into a row of the kind. -/
lemma Only.updateFirst_self (h : Only P a l) (hnd : (l.map key).Nodup) (hf : P (f a)) :
    Only P (f a) (updateFirst key (key a) f l) where
  mem := (mem_updateFirst_iff hnd).mpr (Or.inl ⟨a, h.mem, rfl, rfl⟩)
  holds := hf
  unique b hb hP := by
    rcases (mem_updateFirst_iff hnd).mp hb with ⟨c, hc, hk, rfl⟩ | ⟨hb, hk⟩
    · rw [eq_of_key_eq hnd hc h.mem hk]
    · exact absurd (congrArg key (h.unique b hb hP)) hk

/-- Another row is rewritten, and not into a row of the kind. -/
lemma Only.updateFirst_of_ne (h : Only P a l) (hnd : (l.map key).Nodup) (hk : key a ≠ k)
    (hf : ∀ b ∈ l, key b = k → ¬ P (f b)) : Only P a (updateFirst key k f l) where
  mem := (mem_updateFirst_iff hnd).mpr (Or.inr ⟨h.mem, hk⟩)
  holds := h.holds
  unique b hb hP := by
    rcases (mem_updateFirst_iff hnd).mp hb with ⟨c, hc, hk', rfl⟩ | ⟨hb, -⟩
    · exact absurd hP (hf c hc hk')
    · exact h.unique b hb hP

/-- The only row of a kind is rewritten into one of another kind. -/
lemma Only.forall_not_updateFirst (h : Only P a l) (hnd : (l.map key).Nodup) (hf : ¬ P (f a)) :
    ∀ b ∈ updateFirst key (key a) f l, ¬ P b := by
  intro b hb hP
  rcases (mem_updateFirst_iff hnd).mp hb with ⟨c, hc, hk, rfl⟩ | ⟨hb, hk⟩
  · rw [eq_of_key_eq hnd hc h.mem hk] at hP
    exact hf hP
  · exact hk (congrArg key (h.unique b hb hP))

omit [DecidableEq κ] in
/-- There is one row of the kind. -/
lemma Only.countP_eq_one [DecidablePred P] (h : Only P a l) (hnd : (l.map key).Nodup) :
    l.countP (fun b => P b) = 1 := by
  classical
  have hcount : l.countP (fun b => P b) = l.count a := by
    apply List.countP_congr
    intro b hb
    constructor
    · intro hP
      simpa using h.unique b hb (by simpa using hP)
    · intro hba
      obtain rfl : b = a := by simpa using hba
      simpa using h.holds
  rw [hcount]
  exact List.count_eq_one_of_mem hnd.of_map h.mem

end Only

/-! ## Moving a measure -/

section Moved

variable [AddCommMonoid M] {m : α → M} {w w' : κ → M} {l' l'' : List α}

/-- Every row of the second table is a row of the first, under the same key, whose measure has moved
by what is booked on the key. -/
def Moved (key : α → κ) (m : α → M) (w : κ → M) (l l' : List α) : Prop :=
  ∀ b ∈ l', ∃ a ∈ l, key a = key b ∧ m b = m a + w (key a)

omit [DecidableEq κ] in
/-- Moving by what is booked agrees with moving by something equal on the keys of the table. -/
lemma Moved.congr (h : Moved key m w l l') (hw : ∀ a ∈ l, w (key a) = w' (key a)) :
    Moved key m w' l l' := by
  intro b hb
  obtain ⟨a, ha, hkey, hm⟩ := h b hb
  exact ⟨a, ha, hkey, by rw [hm, hw a ha]⟩

omit [DecidableEq κ] in
/-- A table rewritten row by row moves by what each row contributes. -/
lemma moved_map {g : α → α} (hkey : ∀ a ∈ l, key (g a) = key a)
    (hm : ∀ a ∈ l, m (g a) = m a + w (key a)) : Moved key m w l (l.map g) := by
  intro b hb
  obtain ⟨a, ha, rfl⟩ := List.mem_map.mp hb
  exact ⟨a, ha, (hkey a ha).symm, hm a ha⟩

omit [DecidableEq κ] in
/-- A table left alone moves by nothing. -/
lemma moved_refl (hw : ∀ a ∈ l, w (key a) = 0) : Moved key m w l l :=
  fun a ha => ⟨a, ha, rfl, by rw [hw a ha, add_zero]⟩

omit [DecidableEq κ] in
/-- A table whose keys and measures are those of another moves by nothing. -/
lemma moved_of_map_eq (h : (l'.map fun b => (key b, m b)) = l.map fun a => (key a, m a))
    (hw : ∀ a ∈ l, w (key a) = 0) : Moved key m w l l' := by
  intro b hb
  have hmem : (key b, m b) ∈ l.map fun a => (key a, m a) := by
    rw [← h]
    exact List.mem_map_of_mem hb
  obtain ⟨a, ha, heq⟩ := List.mem_map.mp hmem
  obtain ⟨hkey, hm⟩ := Prod.mk.inj heq
  exact ⟨a, ha, hkey, by rw [hw a ha, add_zero, hm]⟩

omit [DecidableEq κ] in
/-- Two moves after each other add up. -/
lemma Moved.trans (h : Moved key m w l l') (h' : Moved key m w' l' l'') :
    Moved key m (fun k => w k + w' k) l l'' := by
  intro c hc
  obtain ⟨b, hb, hbc, hmc⟩ := h' c hc
  obtain ⟨a, ha, hab, hmb⟩ := h b hb
  exact ⟨a, ha, hab.trans hbc, by rw [hmc, hmb, hab, add_assoc]⟩

/-- Updating the row of one key moves the measure by what is booked on that key. -/
lemma moved_updateFirst (hnd : (l.map key).Nodup) (hkey : ∀ a, key (f a) = key a)
    (hm : ∀ a ∈ l, key a = k → m (f a) = m a + w k) (hw : ∀ a ∈ l, key a ≠ k → w (key a) = 0) :
    Moved key m w l (updateFirst key k f l) := by
  rw [updateFirst_eq_map hnd]
  refine moved_map (fun a _ => ?_) fun a ha => ?_
  · split
    · exact hkey a
    · rfl
  · by_cases hk : key a = k
    · rw [if_pos hk, hm a ha hk, hk]
    · rw [if_neg hk, hw a ha hk, add_zero]

omit [DecidableEq κ] in
/-- A measure that is a function of the key moves with the key. -/
lemma Moved.eq_add (h : Moved key m w l l') {W : κ → M} (hW : ∀ a ∈ l, m a = W (key a)) :
    ∀ b ∈ l', m b = W (key b) + w (key b) := by
  intro b hb
  obtain ⟨a, ha, hkey, hm⟩ := h b hb
  rw [hm, hW a ha, hkey]

end Moved

/-! ## Sums over a table -/

/-- A sum over the rows of a key is the contribution of its row. -/
lemma sum_map_ite_key [AddCommMonoid M] (g : α → M) (hnd : (l.map key).Nodup) {a : α} (ha : a ∈ l) :
    (l.map fun b => if key b = key a then g b else 0).sum = g a := by
  induction l with
  | nil => simp at ha
  | cons b l ih =>
    rw [List.map_cons, List.nodup_cons] at hnd
    rw [List.map_cons, List.sum_cons]
    rcases List.mem_cons.mp ha with rfl | hmem
    · have hrest : (l.map fun b => if key b = key a then g b else 0).sum = 0 := by
        apply List.sum_eq_zero
        rw [List.forall_mem_map]
        exact fun c hc => if_neg fun hk => hnd.1 (List.mem_map.mpr ⟨c, hc, hk⟩)
      rw [if_pos rfl, hrest, add_zero]
    · have hb : key b ≠ key a := fun hk => hnd.1 (List.mem_map.mpr ⟨a, hmem, hk.symm⟩)
      rw [if_neg hb, zero_add, ih hnd.2 hmem]

/-- A sum over a table is the sum over its rows key by key. -/
lemma sum_map_eq_sum_fibers [AddCommMonoid M] (g : α → M) {ks : List κ} (hks : ks.Nodup)
    (hl : ∀ a ∈ l, key a ∈ ks) :
    (l.map g).sum = (ks.map fun k => ((l.filter fun a => key a = k).map g).sum).sum := by
  induction l with
  | nil => simp
  | cons a l ih =>
    obtain ⟨ha, hl⟩ := List.forall_mem_cons.mp hl
    have hcons : (fun k => (((a :: l).filter fun b => key b = k).map g).sum) =
        fun k => (if k = key a then g a else 0) + ((l.filter fun b => key b = k).map g).sum := by
      funext k
      by_cases hk : key a = k
      · simp [hk]
      · simp [hk, Ne.symm hk]
    have hone : (ks.map fun k => if k = key a then g a else 0).sum = g a :=
      sum_map_ite_key (fun _ => g a) (by simpa using hks) ha
    rw [List.map_cons, List.sum_cons, ih hl, hcons, List.sum_map_add, hone]

omit [DecidableEq κ] in
/-- Rows that contribute nothing may be left out of a sum. -/
lemma sum_map_filter_of_eq_zero [AddCommMonoid M] {p : α → Bool} (g : α → M)
    (h : ∀ a ∈ l, p a = false → g a = 0) : ((l.filter p).map g).sum = (l.map g).sum := by
  induction l with
  | nil => rfl
  | cons a l ih =>
    have ih := ih fun b hb => h b (List.mem_cons_of_mem a hb)
    cases hp : p a with
    | true => rw [List.filter_cons_of_pos hp, List.map_cons, List.map_cons, List.sum_cons,
        List.sum_cons, ih]
    | false => rw [List.filter_cons_of_neg (by simp [hp]), List.map_cons, List.sum_cons, ih,
        h a List.mem_cons_self hp, zero_add]

end Foundation
