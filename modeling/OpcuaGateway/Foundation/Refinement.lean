import OpcuaGateway.Foundation.Transition

namespace transition

/-- Every move of one machine is a move of another or none at all, seen through an
abstraction of the states that satisfy an invariant. -/
structure Refinement {State Label State' Label' : Type} (m : Machine State Label) (m' : Machine State' Label') where
  Inv : State → Prop
  abs : State → State'
  /-- The move of the other machine; a move that it does not see has none. -/
  seen : State → Label → Option Label'
  start : ∀ s, m.start s → Inv s ∧ m'.start (abs s)
  kept : ∀ s l next, Inv s → m.step s l = some next → Inv next
  hidden : ∀ s l next, Inv s → m.step s l = some next → seen s l = none → abs next = abs s
  shown : ∀ s l next l', Inv s → m.step s l = some next → seen s l = some l' → m'.step (abs s) l' = some (abs next)

namespace Refinement

variable {State Label State' Label' : Type} {m : Machine State Label} {m' : Machine State' Label'}
  (r : Refinement m m')

theorem inv {s : State} (h : m.Reachable s) : r.Inv s :=
  h.invariant r.Inv (fun s hstart => (r.start s hstart).1) fun s l next hinv _ hstep => r.kept s l next hinv hstep

/-- A run is a run of the other machine, over the moves that it sees. -/
theorem exec {s final : State} {ls : List Label} (hinv : r.Inv s) (hrun : m.exec s ls = some final) :
    m'.exec (r.abs s) (m.emitted r.seen s ls) = some (r.abs final) := by
  induction ls generalizing s with
  | nil =>
    cases hrun
    rfl
  | cons l ls ih =>
    obtain ⟨next, hmove, hrest⟩ := m.exec_cons_eq_some.mp hrun
    have hnext := ih (r.kept s l next hinv hmove) hrest
    rw [Machine.emitted, hmove, Option.elim_some]
    cases hseen : r.seen s l with
    | none =>
      rw [← r.hidden s l next hinv hmove hseen]
      exact hnext
    | some l' =>
      rw [Option.toList_some, List.singleton_append, Machine.exec_cons, r.shown s l next l' hinv hmove hseen]
      exact hnext

theorem reachable {s : State} (h : m.Reachable s) : m'.Reachable (r.abs s) := by
  induction h with
  | start hstart => exact .start (r.start _ hstart).2
  | @step s next l hreach _ hmove ih =>
    cases hseen : r.seen s l with
    | none =>
      rw [r.hidden s l next (r.inv hreach) hmove hseen]
      exact ih
    | some l' => exact .step ih trivial (r.shown s l next l' (r.inv hreach) hmove hseen)

/-- A guard on the moves that are seen carries over. -/
theorem guarded {guard : State → Label → Prop} {guard' : State' → Label' → Prop}
    (himp : ∀ s l l', guard s l → r.seen s l = some l' → guard' (r.abs s) l') {s : State} {ls : List Label}
    (hinv : r.Inv s) (hguard : m.Guarded guard s ls) :
    m'.Guarded guard' (r.abs s) (m.emitted r.seen s ls) := by
  induction ls generalizing s with
  | nil => trivial
  | cons l ls ih =>
    rw [Machine.emitted]
    cases hmove : m.step s l with
    | none =>
      rw [Option.elim_none, List.append_nil]
      cases hseen : r.seen s l with
      | none => trivial
      | some l' => exact ⟨himp s l l' hguard.1 hseen, fun _ _ => trivial⟩
    | some next =>
      have hnext := ih (r.kept s l next hinv hmove) (hguard.2 next hmove)
      rw [Option.elim_some]
      cases hseen : r.seen s l with
      | none =>
        rw [r.hidden s l next hinv hmove hseen] at hnext
        exact hnext
      | some l' =>
        refine ⟨himp s l l' hguard.1 hseen, fun other hother => ?_⟩
        rw [r.shown s l next l' hinv hmove hseen] at hother
        cases hother
        exact hnext

end Refinement

end transition
