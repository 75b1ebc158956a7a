import Mathlib.Algebra.BigOperators.Group.List.Basic
import Mathlib.Algebra.Order.Ring.Defs
import Mathlib.Tactic.Ring
import Mathlib.Tactic.Linarith

/-!
# Slicing quantities at levels

A list of quantities, in ascending order, is cut at the levels at which some quantity ends.  The
slices up to a cap hold what the quantities hold up to the cap.
-/

namespace PokerRoom.WaterFilling

/-! ## The steps between the levels -/

section Steps

variable {α : Type*} [LinearOrder α]

/-- The intervals between the levels above the bottom, from the bottom up. -/
def steps : α → List α → List (α × α)
  | _, [] => []
  | bottom, level :: levels =>
    if level ≤ bottom then steps bottom levels else (bottom, level) :: steps level levels

/-- A step starts at the bottom or above and rises to one of the levels. -/
lemma bounds_of_mem_steps {bottom : α} {levels : List α} {s : α × α}
    (hs : s ∈ steps bottom levels) : bottom ≤ s.1 ∧ s.1 < s.2 ∧ s.2 ∈ levels := by
  induction levels generalizing bottom with
  | nil => simp [steps] at hs
  | cons level levels ih =>
    rw [steps] at hs
    split at hs
    · obtain ⟨hbottom, hlt, hmem⟩ := ih hs
      exact ⟨hbottom, hlt, List.mem_cons_of_mem _ hmem⟩
    · next hgt =>
      rcases List.mem_cons.mp hs with rfl | hs
      · exact ⟨le_rfl, lt_of_not_ge hgt, List.mem_cons_self⟩
      · obtain ⟨hbottom, hlt, hmem⟩ := ih hs
        exact ⟨(le_of_not_ge hgt).trans hbottom, hlt, List.mem_cons_of_mem _ hmem⟩

/-- Each step ends before the later ones begin. -/
lemma pairwise_steps (bottom : α) (levels : List α) :
    (steps bottom levels).Pairwise fun s t => s.2 ≤ t.1 := by
  induction levels generalizing bottom with
  | nil => exact List.Pairwise.nil
  | cons level levels ih =>
    rw [steps]
    split
    · exact ih bottom
    · exact List.pairwise_cons.mpr ⟨fun t ht => (bounds_of_mem_steps ht).1, ih level⟩

/-- Every level above the bottom ends a step. -/
lemma exists_step_of_mem {bottom level : α} {levels : List α}
    (hsorted : levels.Pairwise (· ≤ ·)) (hlevel : level ∈ levels) (hbottom : bottom < level) :
    ∃ lo, (lo, level) ∈ steps bottom levels := by
  induction levels generalizing bottom with
  | nil => simp at hlevel
  | cons first levels ih =>
    obtain ⟨hfirst, hsorted⟩ := List.pairwise_cons.mp hsorted
    rw [steps]
    split
    · next hle =>
      refine ih hsorted ((List.mem_cons.mp hlevel).resolve_left ?_) hbottom
      rintro rfl
      exact hbottom.not_ge hle
    · rcases List.mem_cons.mp hlevel with rfl | hmem
      · exact ⟨bottom, List.mem_cons_self⟩
      · rcases (hfirst level hmem).eq_or_lt with rfl | hlt
        · exact ⟨bottom, List.mem_cons_self⟩
        · obtain ⟨lo, hlo⟩ := ih hsorted hmem hlt
          exact ⟨lo, List.mem_cons_of_mem _ hlo⟩

/-- Around the step that ends at a level, the steps before it start below the level and those after
it do not. -/
lemma exists_steps_split {bottom level : α} {levels : List α}
    (hsorted : levels.Pairwise (· ≤ ·)) (hlevel : level ∈ levels) (hbottom : bottom < level) :
    ∃ below lo above, steps bottom levels = below ++ (lo, level) :: above ∧
      lo < level ∧ (∀ s ∈ below, s.1 < level) ∧ ∀ s ∈ above, level ≤ s.1 := by
  obtain ⟨lo, hmem⟩ := exists_step_of_mem hsorted hlevel hbottom
  have hlt : lo < level := (bounds_of_mem_steps hmem).2.1
  obtain ⟨below, above, hsteps⟩ := List.append_of_mem hmem
  have hpairwise := pairwise_steps bottom levels
  rw [hsteps, List.pairwise_append, List.pairwise_cons] at hpairwise
  obtain ⟨-, ⟨habove, -⟩, hbelow⟩ := hpairwise
  refine ⟨below, lo, above, hsteps, hlt, fun s hs => ?_, habove⟩
  have hs' : s ∈ steps bottom levels := hsteps ▸ List.mem_append_left _ hs
  have hrise : s.1 < s.2 := (bounds_of_mem_steps hs').2.1
  exact (hrise.trans_le (hbelow s hs _ List.mem_cons_self)).trans hlt

/-- No step comes before the one that ends at a level exactly when no level lies between the bottom
and that level. -/
lemma steps_below_eq_nil_iff {bottom lo hi : α} {levels : List α} {below above : List (α × α)}
    (hsorted : levels.Pairwise (· ≤ ·)) (hsteps : steps bottom levels = below ++
      (lo, hi) :: above) :
    below = [] ↔ ∀ level ∈ levels, bottom < level → hi ≤ level := by
  have hpairwise := pairwise_steps bottom levels
  rw [hsteps, List.pairwise_append, List.pairwise_cons] at hpairwise
  obtain ⟨-, ⟨habove, -⟩, hbelow⟩ := hpairwise
  constructor
  · rintro rfl level hlevel hbottom
    obtain ⟨start, hstart⟩ := exists_step_of_mem hsorted hlevel hbottom
    have hrise : start < level := (bounds_of_mem_steps hstart).2.1
    rw [hsteps, List.nil_append, List.mem_cons] at hstart
    rcases hstart with hstart | hstart
    · exact (Prod.ext_iff.mp hstart).2.ge
    · exact (habove _ hstart).trans hrise.le
  · intro hlevels
    rw [List.eq_nil_iff_forall_not_mem]
    intro s hs
    have hmem : s ∈ steps bottom levels := hsteps ▸ List.mem_append_left _ hs
    have hlast : (lo, hi) ∈ steps bottom levels :=
      hsteps ▸ List.mem_append_right _ List.mem_cons_self
    obtain ⟨hstart, hrise, hend⟩ := bounds_of_mem_steps hmem
    have hle : s.2 ≤ lo := hbelow s hs _ List.mem_cons_self
    have hlt : lo < hi := (bounds_of_mem_steps hlast).2.1
    exact (hlevels s.2 hend (hstart.trans_lt hrise)).not_gt (hle.trans_lt hlt)

/-- No step above the cap starts below it. -/
lemma filter_steps_eq_nil {bottom cap : α} (levels : List α) (hcap : cap ≤ bottom) :
    (steps bottom levels).filter (fun s => s.1 < cap) = [] := by
  refine List.filter_eq_nil_iff.mpr fun s hs => ?_
  have := hcap.trans (bounds_of_mem_steps hs).1
  simpa using this

section Below

variable {bottom lo hi level : α} {levels : List α} {below above : List (α × α)}
  (hsorted : levels.Pairwise (· ≤ ·)) (hsteps : steps bottom levels = below ++ (lo, hi) :: above)
  (hlevel : level ∈ levels) (hbottom : bottom < level) (hlt : level < hi)

include hsorted hsteps hlevel hbottom hlt

/-- A level below the end of a step does not lie inside the step. -/
lemma level_le_of_lt : level ≤ lo := by
  obtain ⟨start, hstart⟩ := exists_step_of_mem hsorted hlevel hbottom
  have hrise : start < level := (bounds_of_mem_steps hstart).2.1
  have hpairwise := pairwise_steps bottom levels
  rw [hsteps] at hstart hpairwise
  obtain ⟨-, hlater, hbefore⟩ := List.pairwise_append.mp hpairwise
  rcases List.mem_append.mp hstart with hs | hs
  · exact hbefore _ hs _ List.mem_cons_self
  · rcases List.mem_cons.mp hs with hs | hs
    · exact absurd (Prod.ext_iff.mp hs).2 hlt.ne
    · have hstarts : hi ≤ start := (List.pairwise_cons.mp hlater).1 _ hs
      exact absurd (hstarts.trans_lt hrise) hlt.not_gt

/-- The steps that start below a level come before every step that ends above it. -/
lemma filter_steps_of_lt : (steps bottom levels).filter (fun s => s.1 < level) =
    below.filter fun s => s.1 < level := by
  have hlo := level_le_of_lt hsorted hsteps hlevel hbottom hlt
  have hpairwise := pairwise_steps bottom levels
  rw [hsteps] at hpairwise
  have hlater := (List.pairwise_append.mp hpairwise).2.1
  rw [hsteps, List.filter_append, List.append_right_eq_self, List.filter_eq_nil_iff]
  intro s hs
  rcases List.mem_cons.mp hs with rfl | hs
  · simpa using hlo
  · have hstarts : hi ≤ s.1 := (List.pairwise_cons.mp hlater).1 s hs
    simpa using hlt.le.trans hstarts

end Below

end Steps

/-! ## What the slices hold -/

section Amounts

variable {α : Type*} [CommRing α] [LinearOrder α] [IsStrictOrderedRing α]

/-- What the slice of a step holds: its height for every quantity that reaches into it. -/
def sliceAmount (qs : List α) (s : α × α) : α :=
  (s.2 - s.1) * (qs.filter fun q => s.1 < q).length

/-- A slice that some quantity reaches into holds a positive amount. -/
lemma sliceAmount_pos {qs : List α} {s : α × α} {q : α} (hs : s.1 < s.2) (hq : q ∈ qs)
    (hreach : s.1 < q) : 0 < sliceAmount qs s := by
  have hlength : 0 < (qs.filter fun q => s.1 < q).length :=
    List.length_pos_of_mem (List.mem_filter.mpr ⟨hq, by simpa using hreach⟩)
  exact mul_pos (sub_pos.mpr hs) (Nat.cast_pos.mpr hlength)

/-- Raising the bottom by a slice takes the height of the slice from every quantity that reaches
into it, when no quantity ends inside the slice. -/
lemma sum_capped_raise {qs : List α} {bottom level cap : α} (hlevel : bottom ≤ level)
    (hcap : level ≤ cap) (hqs : ∀ q ∈ qs, q ≤ bottom ∨ level ≤ q) :
    (qs.map fun q => max 0 (min q cap - bottom)).sum =
      sliceAmount qs (bottom, level) + (qs.map fun q => max 0 (min q cap - level)).sum := by
  induction qs with
  | nil => simp [sliceAmount]
  | cons q qs ih =>
    obtain ⟨hq, hqs⟩ := List.forall_mem_cons.mp hqs
    have ih := ih hqs
    simp only [sliceAmount] at ih ⊢
    rw [List.map_cons, List.sum_cons, List.map_cons, List.sum_cons, ih, List.filter_cons]
    by_cases hreach : bottom < q
    · have hlq : level ≤ q := hq.resolve_left hreach.not_ge
      have hmin : level ≤ min q cap := le_min hlq hcap
      rw [if_pos (by simpa using hreach), List.length_cons, max_eq_right (by linarith),
        max_eq_right (by linarith)]
      push_cast
      ring
    · have hqb : q ≤ bottom := le_of_not_gt hreach
      have hmin : min q cap ≤ bottom := (min_le_left q cap).trans hqb
      rw [if_neg (by simpa using hreach), max_eq_left (by linarith), max_eq_left (by linarith)]
      ring

/-- Nothing of a quantity lies between the cap and the cap. -/
lemma sum_capped_self (qs : List α) (cap : α) :
    (qs.map fun q => max 0 (min q cap - cap)).sum = 0 := by
  refine List.sum_eq_zero fun x hx => ?_
  obtain ⟨q, -, rfl⟩ := List.mem_map.mp hx
  exact max_eq_left (by linarith [min_le_right q cap])

/-- The slices that start below the cap hold what the quantities hold between the bottom and the
cap. -/
theorem sum_slices_below (qs : List α) {bottom cap : α} {levels : List α}
    (hsorted : levels.Pairwise (· ≤ ·)) (hqs : ∀ q ∈ qs, q ≤ bottom ∨ q ∈ levels)
    (hcap : cap ∈ bottom :: levels) (hbottom : bottom ≤ cap) :
    (((steps bottom levels).filter fun s => s.1 < cap).map (sliceAmount qs)).sum =
      (qs.map fun q => max 0 (min q cap - bottom)).sum := by
  -- the induction raises the bottom to the level of each slice
  induction levels generalizing bottom with
  | nil =>
    obtain rfl : cap = bottom := by simpa using hcap
    rw [sum_capped_self]
    rfl
  | cons level levels ih =>
    obtain ⟨hfirst, hsorted⟩ := List.pairwise_cons.mp hsorted
    rw [steps]
    split
    · next hle =>
      refine ih hsorted (fun q hq => ?_) ?_ hbottom
      · rcases hqs q hq with hq | hq
        · exact .inl hq
        · rcases List.mem_cons.mp hq with rfl | hq
          · exact .inl hle
          · exact .inr hq
      · rcases List.mem_cons.mp hcap with rfl | hcap
        · exact List.mem_cons_self
        · rcases List.mem_cons.mp hcap with rfl | hcap
          · exact List.mem_cons.mpr (.inl (hle.antisymm hbottom))
          · exact List.mem_cons_of_mem _ hcap
    · next hgt =>
      have hlevel : bottom < level := lt_of_not_ge hgt
      rcases hbottom.eq_or_lt with rfl | hlt
      · rw [List.filter_cons_of_neg (by simp), filter_steps_eq_nil levels hlevel.le,
          sum_capped_self]
        rfl
      have hmem : cap ∈ level :: levels := (List.mem_cons.mp hcap).resolve_left hlt.ne'
      have hcapLevel : level ≤ cap := by
        rcases List.mem_cons.mp hmem with rfl | hmem
        · exact le_rfl
        · exact hfirst cap hmem
      rw [List.filter_cons_of_pos (by simpa using hlt), List.map_cons, List.sum_cons,
        sum_capped_raise hlevel.le hcapLevel, ih hsorted ?_ hmem hcapLevel]
      · intro q hq
        rcases hqs q hq with hq | hq
        · exact .inl (hq.trans hlevel.le)
        · exact (List.mem_cons.mp hq).imp le_of_eq id
      · intro q hq
        rcases hqs q hq with hq | hq
        · exact .inl hq
        · rcases List.mem_cons.mp hq with rfl | hq
          · exact .inr le_rfl
          · exact .inr (hfirst q hq)

end Amounts

end PokerRoom.WaterFilling
