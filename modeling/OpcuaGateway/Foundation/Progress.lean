import Mathlib.Algebra.GroupWithZero.Nat
import Mathlib.Order.WellFounded
import OpcuaGateway.Foundation.Transition

namespace transition.Machine

variable {State Label : Type} (m : Machine State Label) (own : State → Label → Prop) (done : State → Prop)

/-- Whatever own moves are made from here and in whatever order, they come to an end,
and they do not before the system is done. -/
inductive Inevitable : State → Prop
  | intro {s : State} (hlive : ¬ done s → ∃ l next, own s l ∧ m.step s l = some next)
      (hnext : ∀ l next, own s l → m.step s l = some next → Inevitable next) : Inevitable s

variable {m own done}

/-- Own moves that descend a well-founded order, and that are there until the system is
done, make it inevitable that it gets done. -/
theorem inevitable_of_measure {A : Type} {r : A → A → Prop} (hwf : WellFounded r) (measure : State → A)
    (Inv : State → Prop)
    (hstep : ∀ s l next, Inv s → own s l → m.step s l = some next → Inv next ∧ r (measure next) (measure s))
    (hlive : ∀ s, Inv s → ¬ done s → ∃ l next, own s l ∧ m.step s l = some next) {s : State} (hs : Inv s) :
    m.Inevitable own done s := by
  obtain ⟨a, ha⟩ : ∃ a, measure s = a := ⟨_, rfl⟩
  induction a using hwf.induction generalizing s with
  | _ a ih =>
    refine .intro (hlive s hs) fun l next hown hmove => ?_
    obtain ⟨hinv, hless⟩ := hstep s l next hs hown hmove
    exact ih _ (ha ▸ hless) hinv rfl

end transition.Machine

namespace transition

/-- Where one of several parties has less to do and the others as much as before, there
is less to do. -/
theorem sum_map_set_lt {A : Type} (f : A → Nat) {xs : List A} {i : Nat} {x y : A} (hx : xs[i]? = some x)
    (hless : f y < f x) : ((xs.set i y).map f).sum < (xs.map f).sum := by
  induction xs generalizing i with
  | nil => cases hx
  | cons head rest ih =>
    cases i with
    | zero =>
      cases hx
      rw [List.set_cons_zero, List.map_cons, List.map_cons, List.sum_cons, List.sum_cons]
      omega
    | succ i =>
      have hrest := ih hx
      rw [List.set_cons_succ, List.map_cons, List.map_cons, List.sum_cons, List.sum_cons]
      omega

end transition
