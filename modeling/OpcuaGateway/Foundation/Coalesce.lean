import Mathlib.Tactic.Common

namespace coalesce

variable {A : Type}

/-- Some of the values, in order, and the last one among them. -/
structure Coalesces (values kept : List A) : Prop where
  sublist : kept.Sublist values
  last : kept.getLast? = values.getLast?

theorem Coalesces.refl (values : List A) : Coalesces values values := ⟨.refl values, rfl⟩

/-- Only the last value is kept. -/
theorem coalesces_last (values : List A) : Coalesces values values.getLast?.toList := by
  cases hlast : values.getLast? with
  | none =>
    rw [List.getLast?_eq_none_iff.mp hlast]
    exact .refl []
  | some last =>
    refine ⟨List.singleton_sublist.mpr (List.mem_of_getLast? hlast), ?_⟩
    rw [hlast]
    rfl

/-- Values that come in groups can be coalesced group by group. -/
theorem Coalesces.append {values kept values' kept' : List A} (h : Coalesces values kept) (h' : Coalesces values' kept') :
    Coalesces (values ++ values') (kept ++ kept') := by
  refine ⟨h.sublist.append h'.sublist, ?_⟩
  rw [List.getLast?_append, List.getLast?_append, h.last, h'.last]

end coalesce
