import Mathlib.Logic.Basic

/-!
# Checks that can fail

A command checks its preconditions one after another and fails at the first one that does not hold.
`require` is one check and `checkAll` a check of every item of a list; the rules below read off from
a success that every check passed.  `found` turns a missing row into an error, and `scalarOneOrNone`
reads the row a query should find at most once.
-/

namespace Foundation

universe u v

variable {ε : Type u} {α β : Type v}

/-- Fail with the error unless the condition holds. -/
def require (p : Prop) [Decidable p] (e : ε) : Except ε Unit := if p then .ok () else .error e

/-- Check every item, failing at the first one that does not pass. -/
def checkAll (check : α → Except ε Unit) : List α → Except ε Unit
  | [] => .ok ()
  | a :: l =>
    match check a with
    | .ok () => checkAll check l
    | .error e => .error e

/-- Read the only row, if there is one; several rows are an error. -/
def scalarOneOrNone (several : ε) : List α → Except ε (Option α)
  | [] => .ok none
  | [a] => .ok (some a)
  | _ => .error several

/-- The row that was read, or the error of a missing one. -/
def found (missing : ε) : Option α → Except ε α
  | some a => .ok a
  | none => .error missing

/-- A check passes exactly when its condition holds. -/
lemma require_eq_ok_iff {p : Prop} [Decidable p] {e : ε} {u : Unit} :
    require p e = .ok u ↔ p := by
  unfold require
  split <;> simp [*]

/-- A check whose condition holds passes. -/
lemma require_of {p : Prop} [Decidable p] {e : ε} (h : p) : require p e = .ok () := if_pos h

/-- A row is found exactly when it was read. -/
lemma found_eq_ok_iff {missing : ε} {o : Option α} {a : α} :
    found missing o = .ok a ↔ o = some a := by
  cases o <;> simp [found]

/-- All items pass exactly when each one does. -/
lemma checkAll_eq_ok_iff {check : α → Except ε Unit} {l : List α} {u : Unit} :
    checkAll check l = .ok u ↔ ∀ a ∈ l, check a = .ok () := by
  induction l with
  | nil => simp [checkAll]
  | cons a l ih =>
    rw [checkAll, List.forall_mem_cons]
    cases h : check a with
    | ok v => simp only [ih, true_and]
    | error e => simp

/-- A sequence of two steps succeeds exactly when the first does and the second does on its
result. -/
lemma bind_eq_ok_iff {x : Except ε α} {f : α → Except ε β} {b : β} :
    (x >>= f) = .ok b ↔ ∃ a, x = .ok a ∧ f a = .ok b := by
  cases x with
  | ok a =>
    constructor
    · intro h
      exact ⟨a, rfl, h⟩
    · rintro ⟨a', ha, h⟩
      rw [Except.ok.inj ha]
      exact h
  | error e =>
    constructor
    · intro h
      cases h
    · rintro ⟨a', ha, -⟩
      cases ha

/-- A mapped computation succeeds exactly when the computation does. -/
lemma map_eq_ok_iff {x : Except ε α} {f : α → β} {b : β} :
    x.map f = .ok b ↔ ∃ a, x = .ok a ∧ f a = b := by
  cases x <;> simp [Except.map]

/-- A computation whose errors are translated succeeds exactly when the computation does. -/
lemma mapError_eq_ok_iff {ε' : Type u} {x : Except ε α} {f : ε → ε'} {a : α} :
    x.mapError f = .ok a ↔ x = .ok a := by
  constructor
  · intro h
    cases x with
    | ok b => exact congrArg Except.ok (Except.ok.inj h)
    | error e => cases h
  · rintro rfl
    rfl

/-- The result of a sequence of two steps is rewritten at its end. -/
lemma map_bind_except {γ : Type v} {x : Except ε α} {f : α → Except ε β} {g : β → γ} :
    (x >>= f).map g = x >>= fun a => (f a).map g := by
  cases x <;> rfl

/-- No row is read exactly when there is none. -/
lemma scalarOneOrNone_eq_none_iff {several : ε} {l : List α} :
    scalarOneOrNone several l = .ok none ↔ l = [] := by
  match l with
  | [] => simp [scalarOneOrNone]
  | [a] => simp [scalarOneOrNone]
  | a :: b :: l => simp [scalarOneOrNone]

/-- A row is read exactly when it is the only one. -/
lemma scalarOneOrNone_eq_some_iff {several : ε} {l : List α} {a : α} :
    scalarOneOrNone several l = .ok (some a) ↔ l = [a] := by
  match l with
  | [] => simp [scalarOneOrNone]
  | [b] => simp [scalarOneOrNone]
  | b :: c :: l => simp [scalarOneOrNone]

/-- Whether there is a row to read does not depend on what is read from the rows. -/
lemma map_isSome_scalarOneOrNone_map {several : ε} {l : List α} {f : α → β} :
    (scalarOneOrNone several (l.map f)).map (·.isSome) =
      (scalarOneOrNone several l).map (·.isSome) := by
  match l with
  | [] => rfl
  | [a] => rfl
  | a :: b :: l => rfl

/-- Reading the only row fails exactly when there are several. -/
lemma scalarOneOrNone_ne_error_iff {several : ε} {l : List α} :
    scalarOneOrNone several l ≠ .error several ↔ l.length ≤ 1 := by
  match l with
  | [] => simp [scalarOneOrNone]
  | [a] => simp [scalarOneOrNone]
  | a :: b :: l => simp [scalarOneOrNone]

end Foundation
