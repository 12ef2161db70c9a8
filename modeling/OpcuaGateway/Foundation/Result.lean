import Mathlib.Data.List.Forall2
import Mathlib.Tactic.Common

namespace result

variable {A B E : Type}

/-- One binding step of a computation that succeeds. -/
theorem bind_eq_ok_iff {x : Except E A} {f : A → Except E B} {y : B} :
    (x >>= f) = .ok y ↔ ∃ a, x = .ok a ∧ f a = .ok y := by
  cases x <;> simp [bind, Except.bind]

/-- One binding step of a computation that fails: there, or after it. -/
theorem bind_eq_error_iff {x : Except E A} {f : A → Except E B} {e : E} :
    (x >>= f) = .error e ↔ x = .error e ∨ ∃ a, x = .ok a ∧ f a = .error e := by
  cases x <;> simp [bind, Except.bind]

theorem mapError_eq_ok_iff {E' : Type} {x : Except E A} {f : E → E'} {a : A} :
    x.mapError f = .ok a ↔ x = .ok a := by
  cases x <;> simp [Except.mapError]

theorem mapError_eq_error_iff {E' : Type} {x : Except E A} {f : E → E'} {e' : E'} :
    x.mapError f = .error e' ↔ ∃ e, x = .error e ∧ f e = e' := by
  cases x <;> simp [Except.mapError]

theorem map_eq_ok_iff {x : Except E A} {f : A → B} {y : B} :
    x.map f = .ok y ↔ ∃ a, x = .ok a ∧ f a = y := by
  cases x <;> simp [Except.map]

theorem toOption_eq_some {x : Except E A} {a : A} : x.toOption = some a ↔ x = .ok a := by
  cases x <;> simp [Except.toOption]

/-- A list is mapped through when each of its items is. -/
theorem mapM_eq_ok_iff {f : A → Except E B} {xs : List A} {ys : List B} :
    xs.mapM f = .ok ys ↔ List.Forall₂ (fun x y => f x = .ok y) xs ys := by
  induction xs generalizing ys with
  | nil => cases ys <;> simp [pure, Except.pure]
  | cons x rest ih =>
    rw [List.mapM_cons, bind_eq_ok_iff]
    constructor
    · rintro ⟨y, hy, hrest⟩
      obtain ⟨others, hothers, hys⟩ := bind_eq_ok_iff.mp hrest
      cases hys
      exact .cons hy (ih.mp hothers)
    · intro h
      cases h with
      | cons hy hrest => exact ⟨_, hy, bind_eq_ok_iff.mpr ⟨_, ih.mpr hrest, rfl⟩⟩

/-- A list that corresponds to the results of a partial function is that of the
results, and there is one for each item. -/
theorem forall₂_some_iff {f : A → Option B} {xs : List A} {ys : List B} :
    List.Forall₂ (fun x y => f x = some y) xs ys ↔ ys = xs.filterMap f ∧ ∀ x ∈ xs, (f x).isSome := by
  induction xs generalizing ys with
  | nil => simp
  | cons x rest ih =>
    rw [List.forall₂_cons_left_iff, List.forall_mem_cons, List.filterMap_cons]
    cases hx : f x with
    | none => simp
    | some y =>
      simp only [Option.some.injEq, ih]
      constructor
      · rintro ⟨y', ys', rfl, ⟨rfl, hrest⟩, rfl⟩
        exact ⟨rfl, rfl, hrest⟩
      · rintro ⟨rfl, -, hrest⟩
        exact ⟨y, _, rfl, ⟨rfl, hrest⟩, rfl⟩

/-- A list is not mapped through when one of its items is not. -/
theorem mapM_eq_none_iff {f : A → Option B} {xs : List A} : xs.mapM f = none ↔ ∃ x ∈ xs, f x = none := by
  induction xs with
  | nil => simp
  | cons x rest ih =>
    simp only [List.mapM_cons, List.mem_cons, or_and_right, exists_or, exists_eq_left, ← ih]
    cases f x with
    | none => simp
    | some y => cases rest.mapM f <;> simp

/-- Keeping the results that satisfy a condition is keeping them item by item. -/
theorem filterMap_mapM_filter {C : Type} {f f' : A → Option B} {read : B → Option C} {p : C → Bool} {xs : List A}
    (h : ∀ x ∈ xs, (f' x).map read = (f x).map fun y => (read y).filter p) :
    (xs.mapM f').map (·.filterMap read) = ((xs.mapM f).map (·.filterMap read)).map (·.filter p) := by
  induction xs with
  | nil => rfl
  | cons x rest ih =>
    obtain ⟨hx, hrest⟩ := List.forall_mem_cons.mp h
    have hothers := ih hrest
    rw [List.mapM_cons, List.mapM_cons]
    cases hfound : f x with
    | none =>
      rw [hfound, Option.map_none, Option.map_eq_none_iff] at hx
      rw [hx]
      rfl
    | some y =>
      rw [hfound, Option.map_some] at hx
      obtain ⟨y', hy', hread⟩ := Option.map_eq_some_iff.mp hx
      rw [hy']
      cases hall : rest.mapM f with
      | none =>
        rw [hall, Option.map_none, Option.map_none, Option.map_eq_none_iff] at hothers
        rw [hothers]
        rfl
      | some ys =>
        rw [hall, Option.map_some, Option.map_some] at hothers
        obtain ⟨ys', hys', hreads⟩ := Option.map_eq_some_iff.mp hothers
        rw [hys']
        refine congrArg some ?_
        change (y' :: ys').filterMap read = ((y :: ys).filterMap read).filter p
        rw [List.filterMap_cons, List.filterMap_cons, hread, hreads]
        cases read y with
        | none => rfl
        | some c => cases hc : p c <;> simp [Option.filter, hc]

/-- What is kept of a list has the keys of a sublist. -/
theorem map_filterMap_sublist {K : Type} {f : A → Option B} {key : A → K} {key' : B → K} {xs : List A}
    (h : ∀ x y, f x = some y → key' y = key x) : ((xs.filterMap f).map key').Sublist (xs.map key) := by
  induction xs with
  | nil => exact .slnil
  | cons x rest ih =>
    rw [List.filterMap_cons]
    cases hx : f x with
    | none => exact ih.cons _
    | some y =>
      rw [List.map_cons, List.map_cons, h x y hx]
      exact ih.cons_cons _

/-- The error is that of some item. -/
theorem exists_of_mapM_eq_error {f : A → Except E B} {xs : List A} {e : E} (h : xs.mapM f = .error e) :
    ∃ x ∈ xs, f x = .error e := by
  induction xs with
  | nil => cases h
  | cons x rest ih =>
    rw [List.mapM_cons] at h
    cases hx : f x with
    | error e' =>
      rw [hx] at h
      cases h
      exact ⟨x, List.mem_cons_self, hx⟩
    | ok y =>
      rw [hx] at h
      cases hrest : rest.mapM f with
      | error e' =>
        rw [hrest] at h
        cases h
        obtain ⟨other, hother, herror⟩ := ih hrest
        exact ⟨other, List.mem_cons_of_mem _ hother, herror⟩
      | ok others =>
        rw [hrest] at h
        cases h

end result
