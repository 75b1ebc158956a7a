import Mathlib.Data.List.Sort
import Mathlib.Data.List.Rotate
import Mathlib.Data.List.Perm.Subperm
import Mathlib.Order.Basic

/-!
# Going round a table clockwise

Items sit on the seats of a round table; seats are numbered in a linear order and the lowest seat
follows the highest one.  `Before cur x y` says that going clockwise from `cur` one meets `x` before
`y`, and `sweep key cur l` lists the items in the order in which they are met.

The rules: the sweep is a rearrangement of the items (`sweep_perm`), it is sorted by the clockwise
order (`sweep_pairwise`), and searching it finds the first item met clockwise that satisfies a test
(`find?_sweep_eq_some_iff`).  `IsNext l cur x` says that `x` is the first seat of a list met after
`cur`; in an ascending list it is the next one, and after the last one the first (`isNext_getElem`).
-/

namespace Foundation

variable {σ α : Type*} [LinearOrder σ]

/-! ## The clockwise order -/

/-- Going clockwise from `cur`, seat `x` is met before seat `y`; `cur` itself is met last. -/
def Before (cur x y : σ) : Prop := (cur < x ∧ (y ≤ cur ∨ x < y)) ∨ (x < y ∧ y ≤ cur)

instance (cur x y : σ) : Decidable (Before cur x y) :=
  inferInstanceAs (Decidable ((cur < x ∧ (y ≤ cur ∨ x < y)) ∨ (x < y ∧ y ≤ cur)))

variable {cur x y z : σ}

/-- No seat is met before itself. -/
lemma not_before_self : ¬ Before cur x x := by
  rintro (⟨hcur, hle | hlt⟩ | ⟨hlt, -⟩)
  · exact absurd hcur (not_lt.mpr hle)
  · exact lt_irrefl x hlt
  · exact lt_irrefl x hlt

/-- The clockwise order is transitive. -/
lemma Before.trans (hxy : Before cur x y) (hyz : Before cur y z) : Before cur x z := by
  rcases hxy with ⟨hx, hy | hxy⟩ | ⟨hxy, hy⟩
  · rcases hyz with ⟨hcy, -⟩ | ⟨-, hz⟩
    · exact absurd hcy (not_lt.mpr hy)
    · exact Or.inl ⟨hx, Or.inl hz⟩
  · rcases hyz with ⟨-, hz | hyz⟩ | ⟨-, hz⟩
    · exact Or.inl ⟨hx, Or.inl hz⟩
    · exact Or.inl ⟨hx, Or.inr (hxy.trans hyz)⟩
    · exact Or.inl ⟨hx, Or.inl hz⟩
  · rcases hyz with ⟨hcy, -⟩ | ⟨hyz, hz⟩
    · exact absurd hcy (not_lt.mpr hy)
    · exact Or.inr ⟨hxy.trans hyz, hz⟩

/-- Two seats are not met before each other. -/
lemma Before.asymm (hxy : Before cur x y) : ¬ Before cur y x :=
  fun hyx => not_before_self (hxy.trans hyx)

/-- Of two different seats one is met before the other. -/
lemma before_or_before (cur : σ) (hne : x ≠ y) : Before cur x y ∨ Before cur y x := by
  rcases lt_or_gt_of_ne hne with hlt | hlt
  · by_cases hy : y ≤ cur
    · exact Or.inl (Or.inr ⟨hlt, hy⟩)
    · by_cases hx : x ≤ cur
      · exact Or.inr (Or.inl ⟨not_le.mp hy, Or.inl hx⟩)
      · exact Or.inl (Or.inl ⟨not_le.mp hx, Or.inr hlt⟩)
  · by_cases hx : x ≤ cur
    · exact Or.inr (Or.inr ⟨hlt, hx⟩)
    · by_cases hy : y ≤ cur
      · exact Or.inl (Or.inl ⟨not_le.mp hx, Or.inl hy⟩)
      · exact Or.inr (Or.inl ⟨not_le.mp hy, Or.inr hlt⟩)

/-- Every other seat is met before one comes back to the start. -/
lemma before_start (hne : x ≠ cur) : Before cur x cur := by
  rcases lt_or_gt_of_ne hne with hlt | hlt
  · exact Or.inr ⟨hlt, le_rfl⟩
  · exact Or.inl ⟨hlt, Or.inl le_rfl⟩

/-- What is met on the way from `z` to `y` is met before `cur`, or is `cur`, or is met on the way
from `cur` to `y`. -/
lemma Before.split {w : σ} (hw : Before z w y) (cur : σ) :
    Before z w cur ∨ w = cur ∨ Before cur w y := by
  unfold Before at *
  grind

/-- What is met after `z` going clockwise from `cur` is met before `cur` going clockwise from
`z`. -/
lemma Before.restart (hcz : Before cur z x) (hne : x ≠ cur) : Before z x cur := by
  unfold Before at *
  grind

/-- What is met after `z` is met in the same order going clockwise from `z`. -/
lemma Before.advance (hzx : Before cur z x) (hxy : Before cur x y) : Before z x y := by
  unfold Before at *
  grind

/-! ## The next seat -/

section

/-- Of the seats `l`, the seat `x` is met first going clockwise from `cur`. -/
def IsNext (l : List σ) (cur x : σ) : Prop := x ∈ l ∧ ∀ y ∈ l, y = x ∨ Before cur x y

instance (l : List σ) (cur x : σ) : Decidable (IsNext l cur x) :=
  inferInstanceAs (Decidable (x ∈ l ∧ ∀ y ∈ l, y = x ∨ Before cur x y))

variable {l : List σ}

/-- At most one seat is met first. -/
lemma IsNext.unique (hx : IsNext l cur x) (hy : IsNext l cur y) : x = y := by
  rcases hx.2 y hy.1 with heq | hxy
  · exact heq.symm
  · rcases hy.2 x hx.1 with heq | hyx
    · exact heq
    · exact absurd hyx hxy.asymm

/-- The seat met first is the lowest one above the start, or the lowest one of all when there is
none above it. -/
lemma isNext_iff :
    IsNext l cur x ↔ x ∈ l ∧
      ((cur < x ∧ ∀ y ∈ l, cur < y → x ≤ y) ∨ ((∀ y ∈ l, y ≤ cur) ∧ ∀ y ∈ l, x ≤ y)) := by
  refine and_congr_right fun hx => ⟨fun hfirst => ?_, ?_⟩
  · by_cases hcur : cur < x
    · refine Or.inl ⟨hcur, fun y hy hlt => ?_⟩
      rcases hfirst y hy with rfl | ⟨-, hle | hxy⟩ | ⟨-, hle⟩
      · exact le_rfl
      · exact absurd hlt (not_lt.mpr hle)
      · exact hxy.le
      · exact absurd hlt (not_lt.mpr hle)
    · have hall : ∀ y ∈ l, y ≤ cur ∧ x ≤ y := by
        intro y hy
        rcases hfirst y hy with rfl | ⟨hlt, -⟩ | ⟨hxy, hle⟩
        · exact ⟨not_lt.mp hcur, le_rfl⟩
        · exact absurd hlt hcur
        · exact ⟨hle, hxy.le⟩
      exact Or.inr ⟨fun y hy => (hall y hy).1, fun y hy => (hall y hy).2⟩
  · rintro (⟨hcur, hleast⟩ | ⟨hle, hleast⟩) y hy
    · by_cases hlt : cur < y
      · rcases (hleast y hy hlt).eq_or_lt with heq | hxy
        · exact Or.inl heq.symm
        · exact Or.inr (Or.inl ⟨hcur, Or.inr hxy⟩)
      · exact Or.inr (Or.inl ⟨hcur, Or.inl (not_lt.mp hlt)⟩)
    · rcases (hleast y hy).eq_or_lt with heq | hxy
      · exact Or.inl heq.symm
      · exact Or.inr (Or.inr ⟨hxy, hle y hy⟩)

/-- In an ascending list the first seat is the lowest one. -/
lemma head_le_of_pairwise (hasc : l.Pairwise (· < ·)) (hlen : 0 < l.length) (hy : y ∈ l) :
    l[0] ≤ y := by
  obtain ⟨j, hj, rfl⟩ := List.getElem_of_mem hy
  rcases Nat.eq_zero_or_pos j with rfl | hpos
  · exact le_rfl
  · exact (List.pairwise_iff_getElem.mp hasc 0 j hlen hj hpos).le

/-- In an ascending list the seat after another one is the next one, and after the last one the
first. -/
lemma isNext_getElem (hasc : l.Pairwise (· < ·)) {i : ℕ} (hi : i < l.length) :
    IsNext l l[i] (l.get ⟨(i + 1) % l.length, Nat.mod_lt _ (Nat.zero_lt_of_lt hi)⟩) := by
  have hlt := List.pairwise_iff_getElem.mp hasc
  rw [isNext_iff]
  refine ⟨List.getElem_mem _, ?_⟩
  by_cases hlast : i + 1 < l.length
  · left
    simp only [Nat.mod_eq_of_lt hlast]
    refine ⟨hlt i (i + 1) hi hlast (Nat.lt_succ_self i), fun y hy habove => ?_⟩
    obtain ⟨j, hj, rfl⟩ := List.getElem_of_mem hy
    rcases Nat.lt_trichotomy j (i + 1) with hj' | rfl | hj'
    · rcases (Nat.lt_succ_iff.mp hj').eq_or_lt with rfl | hji
      · exact absurd habove (lt_irrefl _)
      · exact absurd habove (hlt j i hj hi hji).asymm
    · exact le_rfl
    · exact (hlt (i + 1) j hlast hj hj').le
  · right
    have hwrap : (i + 1) % l.length = 0 := by
      rw [show i + 1 = l.length by omega, Nat.mod_self]
    simp only [hwrap]
    refine ⟨fun y hy => ?_, fun y hy => head_le_of_pairwise hasc (Nat.zero_lt_of_lt hi) hy⟩
    obtain ⟨j, hj, rfl⟩ := List.getElem_of_mem hy
    rcases (show j ≤ i by omega).eq_or_lt with rfl | hji
    · exact le_rfl
    · exact (hlt j i hj hi hji).le

/-- From a start that is no seat of an ascending list the first seat is met first exactly when no
seats lie on both sides of the start. -/
lemma isNext_head_iff (hasc : l.Pairwise (· < ·)) (hlen : 0 < l.length) (hcur : cur ∉ l) :
    IsNext l cur l[0] ↔ (∀ y ∈ l, cur < y) ∨ ∀ y ∈ l, y < cur := by
  have hhead : ∀ y ∈ l, l[0] ≤ y := fun y hy => head_le_of_pairwise hasc hlen hy
  have hmem : l[0] ∈ l := List.getElem_mem hlen
  rw [isNext_iff]
  constructor
  · rintro ⟨-, ⟨hlt, -⟩ | ⟨hle, -⟩⟩
    · exact Or.inl fun y hy => hlt.trans_le (hhead y hy)
    · exact Or.inr fun y hy => (hle y hy).lt_of_ne fun heq => hcur (heq ▸ hy)
  · rintro (habove | hbelow)
    · exact ⟨hmem, Or.inl ⟨habove _ hmem, fun y hy _ => hhead y hy⟩⟩
    · exact ⟨hmem, Or.inr ⟨fun y hy => (hbelow y hy).le, hhead⟩⟩

/-- Which seat is met first does not depend on how the seats are listed. -/
lemma isNext_congr {l' : List σ} (h : ∀ y, y ∈ l ↔ y ∈ l') : IsNext l cur x ↔ IsNext l' cur x := by
  unfold IsNext
  simp only [h]

/-- When there is another seat than the start, the start is not met first. -/
lemma IsNext.ne_start (hx : IsNext l cur x) (hy : y ∈ l) (hne : y ≠ cur) : x ≠ cur := by
  rintro rfl
  rcases hx.2 y hy with heq | hbefore
  · exact hne heq
  · exact absurd (before_start hne) hbefore.asymm

/-- Of at least two distinct seats one is another than the start. -/
lemma exists_mem_ne (hnd : l.Nodup) (htwo : 2 ≤ l.length) (cur : σ) : ∃ y ∈ l, y ≠ cur := by
  by_contra hall
  push Not at hall
  have hsub : l ⊆ [cur] := fun y hy => List.mem_singleton.mpr (hall y hy)
  have hlen := (hnd.subperm hsub).length_le
  rw [List.length_singleton] at hlen
  omega

/-- Of two seats, the one after the next one is the start. -/
lemma IsNext.back (hnd : l.Nodup) (htwo : l.length = 2) (hcur : cur ∈ l) (hx : IsNext l cur x)
    (hy : IsNext l x y) : y = cur := by
  obtain ⟨a, ha, hane⟩ := exists_mem_ne hnd htwo.ge cur
  obtain ⟨b, hb, hbne⟩ := exists_mem_ne hnd htwo.ge x
  by_contra hne
  have hthree : [cur, x, y].Nodup := by
    simp [(hx.ne_start ha hane).symm, (hy.ne_start hb hbne).symm, Ne.symm hne]
  have hsub : [cur, x, y] ⊆ l := by
    simp [hcur, hx.1, hy.1]
  have hlen : 3 ≤ l.length := (hthree.subperm hsub).length_le
  omega

/-- In an ascending list the seat at the index after that of a seat is the next one. -/
lemma exists_isNext (hasc : l.Pairwise (· < ·)) (hcur : cur ∈ l) :
    ∃ x, l[(l.idxOf cur + 1) % l.length]? = some x ∧ IsNext l cur x := by
  have hi : l.idxOf cur < l.length := List.idxOf_lt_length_of_mem hcur
  have hj : (l.idxOf cur + 1) % l.length < l.length := Nat.mod_lt _ (Nat.zero_lt_of_lt hi)
  have hnext := isNext_getElem hasc hi
  rw [List.getElem_idxOf hi] at hnext
  exact ⟨l[(l.idxOf cur + 1) % l.length], List.getElem?_eq_getElem hj, hnext⟩

end

/-! ## The sweep -/

variable (key : α → σ) (c : σ) (l : List α)

/-- The items in ascending order of their seats; items on one seat keep their order. -/
def bySeat : List α := l.insertionSort fun a b => key a ≤ key b

/-- The items in the order in which they are met going clockwise from `c`: from the first one on a
seat above `c` to the end of the ascending order, and then from its beginning. -/
def sweep : List α :=
  (bySeat key l).rotate (((bySeat key l).findIdx? fun a => c < key a).getD 0)

variable {key c l}

/-- Sorting by seat rearranges the items. -/
lemma bySeat_perm : (bySeat key l).Perm l := List.perm_insertionSort _ l

/-- Sorting by seat keeps the items. -/
@[simp] lemma mem_bySeat {a : α} : a ∈ bySeat key l ↔ a ∈ l := bySeat_perm.mem_iff

/-- Items on distinct seats are sorted strictly. -/
lemma bySeat_pairwise (hnd : (l.map key).Nodup) :
    (bySeat key l).Pairwise fun a b => key a < key b := by
  have hle : (bySeat key l).Pairwise fun a b => key a ≤ key b := by
    refine @List.pairwise_insertionSort α (fun a b => key a ≤ key b) _ ⟨fun a b => le_total _ _⟩
      ⟨fun a b c => le_trans⟩ l
  have hne : (bySeat key l).Pairwise fun a b => key a ≠ key b :=
    List.pairwise_map.mp ((bySeat_perm.map key).nodup_iff.mpr hnd)
  exact (hle.and hne).imp fun h => lt_of_le_of_ne h.1 h.2

/-- Items listed in ascending order of their seats are in the order sorting gives them. -/
lemma eq_bySeat {o : List α} (hasc : o.Pairwise fun a b => key a < key b) (hperm : o.Perm l) :
    o = bySeat key l := by
  have hnd : (l.map key).Nodup :=
    ((hperm.map key).nodup_iff).mp ((List.pairwise_map.mpr hasc).imp ne_of_lt)
  exact (hperm.trans bySeat_perm.symm).eq_of_pairwise
    (fun a b _ _ hab hba => absurd hba hab.asymm) hasc (bySeat_pairwise hnd)

/-- How items on distinct seats are sorted does not depend on how they are listed. -/
lemma bySeat_eq_of_perm {l' : List α} (hnd : (l.map key).Nodup) (hperm : l.Perm l') :
    bySeat key l = bySeat key l' :=
  eq_bySeat (bySeat_pairwise hnd) (bySeat_perm.trans hperm)

/-- Neither does how they are swept. -/
lemma sweep_eq_of_perm {l' : List α} (hnd : (l.map key).Nodup) (hperm : l.Perm l') :
    sweep key c l = sweep key c l' := by
  unfold sweep
  rw [bySeat_eq_of_perm hnd hperm]

/-- The sweep rearranges the items. -/
lemma sweep_perm : (sweep key c l).Perm l := (List.rotate_perm _ _).trans bySeat_perm

/-- The sweep keeps the items. -/
@[simp] lemma mem_sweep {a : α} : a ∈ sweep key c l ↔ a ∈ l := sweep_perm.mem_iff

/-- The sweep meets the items in clockwise order. -/
theorem sweep_pairwise (hnd : (l.map key).Nodup) :
    (sweep key c l).Pairwise fun a b => Before c (key a) (key b) := by
  have hsorted := bySeat_pairwise hnd
  unfold sweep
  generalize bySeat key l = o at hsorted
  cases hi : o.findIdx? fun a => c < key a with
  | none =>
    have hle : ∀ b ∈ o, key b ≤ c := by simpa [List.findIdx?_eq_none_iff] using hi
    rw [Option.getD_none, List.rotate_zero]
    exact List.Pairwise.imp_of_mem (fun _ hb h => Or.inr ⟨h, hle _ hb⟩) hsorted
  | some i =>
    obtain ⟨hlt, hgt, hbefore⟩ := List.findIdx?_eq_some_iff_getElem.mp hi
    have htake : ∀ b ∈ o.take i, key b ≤ c := by
      intro b hb
      obtain ⟨j, hj, rfl⟩ := List.mem_take_iff_getElem.mp hb
      simpa using hbefore j (by omega)
    have hdrop : ∀ b ∈ o.drop i, c < key b := by
      intro b hb
      obtain ⟨j, hj, rfl⟩ := List.mem_drop_iff_getElem.mp hb
      have hgt' : c < key o[i] := by simpa using hgt
      rcases Nat.eq_zero_or_pos j with rfl | hpos
      · simpa using hgt'
      · exact hgt'.trans (List.pairwise_iff_getElem.mp hsorted i (i + j) hlt (by omega) (by omega))
    rw [Option.getD_some, List.rotate_eq_drop_append_take hlt.le, List.pairwise_append]
    refine ⟨?_, ?_, ?_⟩
    · exact List.Pairwise.imp_of_mem (fun ha _ h => Or.inl ⟨hdrop _ ha, Or.inr h⟩)
        (hsorted.sublist (List.drop_sublist i o))
    · exact List.Pairwise.imp_of_mem (fun _ hb h => Or.inr ⟨h, htake _ hb⟩)
        (hsorted.sublist (List.take_sublist i o))
    · exact fun a ha b hb => Or.inl ⟨hdrop a ha, Or.inl (htake b hb)⟩

/-- In a list sorted by an asymmetric relation, a search finds an item that passes the test and
comes before every other one that does. -/
lemma find?_eq_some_iff_of_pairwise {R : α → α → Prop} {p : α → Bool} {o : List α}
    (hR : ∀ a b, R a b → ¬ R b a) (ho : o.Pairwise R) {a : α} :
    o.find? p = some a ↔ a ∈ o ∧ p a = true ∧ ∀ b ∈ o, p b = true → b = a ∨ R a b := by
  induction o with
  | nil => simp
  | cons c o ih =>
    obtain ⟨hc, ho⟩ := List.pairwise_cons.mp ho
    rw [List.find?_cons]
    cases hp : p c with
    | true =>
      simp only [Option.some.injEq]
      constructor
      · rintro rfl
        refine ⟨List.mem_cons_self, hp, fun b hb _ => ?_⟩
        rcases List.mem_cons.mp hb with rfl | hb
        · exact Or.inl rfl
        · exact Or.inr (hc b hb)
      · rintro ⟨ha, -, hfirst⟩
        rcases hfirst c List.mem_cons_self hp with h | h
        · exact h
        · rcases List.mem_cons.mp ha with rfl | ha
          · rfl
          · exact absurd h (hR _ _ (hc a ha))
    | false =>
      rw [ih ho]
      constructor
      · rintro ⟨ha, hpa, hfirst⟩
        refine ⟨List.mem_cons_of_mem c ha, hpa, fun b hb hpb => ?_⟩
        rcases List.mem_cons.mp hb with rfl | hb
        · rw [hp] at hpb; cases hpb
        · exact hfirst b hb hpb
      · rintro ⟨ha, hpa, hfirst⟩
        refine ⟨?_, hpa, fun b hb => hfirst b (List.mem_cons_of_mem c hb)⟩
        rcases List.mem_cons.mp ha with rfl | ha
        · rw [hp] at hpa; cases hpa
        · exact ha

/-- Searching the sweep finds the first item met clockwise that passes the test. -/
theorem find?_sweep_eq_some_iff (hnd : (l.map key).Nodup) {p : α → Bool} {a : α} :
    (sweep key c l).find? p = some a ↔
      a ∈ l ∧ p a = true ∧ ∀ b ∈ l, p b = true → b = a ∨ Before c (key a) (key b) := by
  rw [find?_eq_some_iff_of_pairwise (fun _ _ h => h.asymm) (sweep_pairwise hnd)]
  simp only [mem_sweep]

/-- The item met first is the first one on a higher seat, or else the one on the lowest seat. -/
lemma head?_sweep :
    (sweep key c l).head? = ((bySeat key l).find? fun a => c < key a).or (bySeat key l).head? := by
  unfold sweep
  generalize bySeat key l = o
  cases hi : o.findIdx? fun a => c < key a with
  | none =>
    have hnone : o.find? (fun a => c < key a) = none := by
      simpa [List.findIdx?_eq_none_iff, List.find?_eq_none] using hi
    simp [hnone]
  | some i =>
    obtain ⟨hlt, hgt, hbefore⟩ := List.findIdx?_eq_some_iff_getElem.mp hi
    have hsome : o.find? (fun a => c < key a) = some o[i] :=
      List.find?_eq_some_iff_getElem.mpr ⟨hgt, i, hlt, rfl, fun j hj => by simpa using hbefore j hj⟩
    rw [Option.getD_some, List.rotate_eq_drop_append_take hlt.le, hsome,
      List.drop_eq_getElem_cons hlt]
    rfl

end Foundation
