import Mathlib.Data.List.Induction
import Mathlib.Tactic.Common

namespace transition

/-- A labelled transition system. A label carries every choice of the
scheduler and of the environment, so one move is a function of state and label
and `none` means that the move is not enabled. -/
structure Machine (State Label : Type) where
  start : State → Prop
  step : State → Label → Option State

/-- A move that is enabled under a condition. -/
def when {State : Type} (condition : Prop) [Decidable condition] (next : State) : Option State :=
  if condition then some next else none

@[simp] theorem when_eq_some {State : Type} {condition : Prop} [Decidable condition]
    {next final : State} : when condition next = some final ↔ condition ∧ next = final := by
  unfold when
  split <;> simp_all

namespace Machine

variable {State Label : Type} (m : Machine State Label)

/-- The state after a whole run, if every move of it is enabled. -/
def exec : State → List Label → Option State
  | s, [] => some s
  | s, l :: ls => (m.step s l).bind fun next => exec next ls

/-- What the moves of a run put out, in order. -/
def emitted {A : Type} (emit : State → Label → Option A) : State → List Label → List A
  | _, [] => []
  | s, l :: ls => (emit s l).toList ++ (m.step s l).elim [] fun next => emitted emit next ls

/-- Every move of the run satisfies `guard` in the state it is taken from. -/
def Guarded (guard : State → Label → Prop) : State → List Label → Prop
  | _, [] => True
  | s, l :: ls => guard s l ∧ ∀ next, m.step s l = some next → Guarded guard next ls

/-- The states a run can reach when each of its moves satisfies `guard` in the
state it is taken from. -/
inductive ReachableUnder (guard : State → Label → Prop) : State → Prop
  | start {s : State} (hstart : m.start s) : ReachableUnder guard s
  | step {s next : State} {l : Label} (hreach : ReachableUnder guard s)
      (hguard : guard s l) (hstep : m.step s l = some next) : ReachableUnder guard next

/-- The states some run can reach. -/
abbrev Reachable : State → Prop := m.ReachableUnder fun _ _ => True

@[simp] theorem exec_nil (s : State) : m.exec s [] = some s := rfl

@[simp] theorem exec_cons (s : State) (l : Label) (ls : List Label) :
    m.exec s (l :: ls) = (m.step s l).bind fun next => m.exec next ls := rfl

theorem exec_append (s : State) (first second : List Label) :
    m.exec s (first ++ second) = (m.exec s first).bind fun mid => m.exec mid second := by
  induction first generalizing s with
  | nil => rfl
  | cons l ls ih =>
    simp only [List.cons_append, exec_cons, Option.bind_assoc]
    congr 1
    funext next
    exact ih next

theorem exec_cons_eq_some {s final : State} {l : Label} {ls : List Label} :
    m.exec s (l :: ls) = some final ↔ ∃ next, m.step s l = some next ∧ m.exec next ls = some final := by
  simp [Option.bind_eq_some_iff]

variable {m}

/-- A predicate that holds at every start and survives every guarded move holds
in every state a guarded run reaches. -/
theorem ReachableUnder.invariant {guard : State → Label → Prop} (Inv : State → Prop)
    (hstart : ∀ s, m.start s → Inv s)
    (hstep : ∀ s l next, Inv s → guard s l → m.step s l = some next → Inv next)
    {s : State} (h : m.ReachableUnder guard s) : Inv s := by
  induction h with
  | start h => exact hstart _ h
  | step _ hguard hmove ih => exact hstep _ _ _ ih hguard hmove

/-- A guarded run extends a guarded reachable state. -/
theorem ReachableUnder.exec {guard : State → Label → Prop} {s final : State} {ls : List Label}
    (h : m.ReachableUnder guard s) (hguard : m.Guarded guard s ls)
    (hrun : m.exec s ls = some final) : m.ReachableUnder guard final := by
  induction ls generalizing s with
  | nil =>
    cases hrun
    exact h
  | cons l ls ih =>
    obtain ⟨next, hmove, hrest⟩ := m.exec_cons_eq_some.mp hrun
    exact ih (.step h hguard.1 hmove) (hguard.2 next hmove) hrest

/-- A guarded run, move by move. -/
theorem guarded_cons {guard : State → Label → Prop} {s next : State} {l : Label} {ls : List Label}
    (hguard : guard s l) (hstep : m.step s l = some next) (hrest : m.Guarded guard next ls) :
    m.Guarded guard s (l :: ls) := by
  refine ⟨hguard, fun other hother => ?_⟩
  obtain rfl : next = other := Option.some.inj (hstep.symm.trans hother)
  exact hrest

theorem guarded_true (s : State) (ls : List Label) : m.Guarded (fun _ _ => True) s ls := by
  induction ls generalizing s with
  | nil => trivial
  | cons l ls ih => exact ⟨trivial, fun next _ => ih next⟩

/-- A guard that every label of a run meets in any state. -/
theorem guarded_of_forall {guard : State → Label → Prop} {s : State} {ls : List Label}
    (h : ∀ l ∈ ls, ∀ s, guard s l) : m.Guarded guard s ls := by
  induction ls generalizing s with
  | nil => trivial
  | cons l ls ih =>
    exact ⟨h l List.mem_cons_self s, fun next _ => ih fun l' hmem => h l' (List.mem_cons_of_mem _ hmem)⟩

/-- An unrestricted run extends a reachable state. -/
theorem Reachable.exec {s final : State} {ls : List Label} (h : m.Reachable s)
    (hrun : m.exec s ls = some final) : m.Reachable final :=
  ReachableUnder.exec h (guarded_true s ls) hrun

/-- What holds before a run and survives each of its guarded moves holds after
the run. -/
theorem exec_invariant {guard : State → Label → Prop} (Inv : State → Prop)
    (hstep : ∀ s l next, Inv s → guard s l → m.step s l = some next → Inv next)
    {s final : State} {ls : List Label} (hguard : m.Guarded guard s ls) (hinv : Inv s)
    (hrun : m.exec s ls = some final) : Inv final := by
  induction ls generalizing s with
  | nil =>
    cases hrun
    exact hinv
  | cons l ls ih =>
    obtain ⟨next, hmove, hrest⟩ := m.exec_cons_eq_some.mp hrun
    exact ih (hguard.2 next hmove) (hstep _ _ _ hinv hguard.1 hmove) hrest

/-- The unguarded form of `exec_invariant`. -/
theorem exec_preserves (Inv : State → Prop)
    (hstep : ∀ s l next, Inv s → m.step s l = some next → Inv next)
    {s final : State} {ls : List Label} (hinv : Inv s) (hrun : m.exec s ls = some final) :
    Inv final :=
  exec_invariant Inv (fun s l next hi _ h => hstep s l next hi h) (guarded_true s ls) hinv hrun

/-- What may speak of the moves made so far: it holds after a whole run if each
move keeps it. -/
theorem exec_history (Inv : List Label → State → Prop)
    (hstep : ∀ before s l next, Inv before s → m.step s l = some next → Inv (before ++ [l]) next)
    {before : List Label} {s final : State} {ls : List Label} (hinv : Inv before s)
    (hrun : m.exec s ls = some final) : Inv (before ++ ls) final := by
  induction ls generalizing before s with
  | nil =>
    cases hrun
    rw [List.append_nil]
    exact hinv
  | cons l ls ih =>
    obtain ⟨next, hmove, hrest⟩ := m.exec_cons_eq_some.mp hrun
    have hend := ih (hstep before s l next hinv hmove) hrest
    rwa [List.append_assoc, List.singleton_append] at hend

/-- What may speak of the moves made and of what they put out. -/
theorem exec_emitted {A : Type} {emit : State → Label → Option A} (Inv : List Label → List A → State → Prop)
    (hstep : ∀ before out s l next, Inv before out s → m.step s l = some next →
      Inv (before ++ [l]) (out ++ (emit s l).toList) next)
    {before : List Label} {out : List A} {s final : State} {ls : List Label} (hinv : Inv before out s)
    (hrun : m.exec s ls = some final) : Inv (before ++ ls) (out ++ m.emitted emit s ls) final := by
  induction ls generalizing before out s with
  | nil =>
    cases hrun
    rw [emitted, List.append_nil, List.append_nil]
    exact hinv
  | cons l ls ih =>
    obtain ⟨next, hmove, hrest⟩ := m.exec_cons_eq_some.mp hrun
    have hend := ih (hstep before out s l next hinv hmove) hrest
    rw [List.append_assoc, List.singleton_append, List.append_assoc] at hend
    rwa [emitted, hmove, Option.elim_some]

/-- A run that is not guarded has a first part, reaching a state from which the
next move is taken although the guard forbids it. -/
theorem exists_unguarded_move {guard : State → Label → Prop} {s final : State} {ls : List Label}
    (hrun : m.exec s ls = some final) (hnot : ¬ m.Guarded guard s ls) :
    ∃ before l after mid next, ls = before ++ l :: after ∧ m.exec s before = some mid ∧
      ¬ guard mid l ∧ m.step mid l = some next ∧ m.exec next after = some final := by
  induction ls generalizing s with
  | nil => exact absurd trivial hnot
  | cons l ls ih =>
    obtain ⟨next, hmove, hrest⟩ := m.exec_cons_eq_some.mp hrun
    by_cases hguard : guard s l
    · have htail : ¬ m.Guarded guard next ls := by
        intro h
        refine hnot ⟨hguard, fun other hother => ?_⟩
        rw [hmove] at hother
        cases hother
        exact h
      obtain ⟨before, l', after, mid, next', hsplit, hbefore, hbad, hstep, hafter⟩ := ih hrest htail
      refine ⟨l :: before, l', after, mid, next', by rw [hsplit]; rfl, ?_, hbad, hstep, hafter⟩
      rw [exec_cons, hmove]
      exact hbefore
    · exact ⟨[], l, ls, s, next, rfl, rfl, hguard, hmove, hrest⟩

end Machine

/-- Where a step keeps what holds exactly if it is good, it holds along a whole run
exactly if every step of the run is good. -/
theorem foldl_inv_iff {State Label : Type} {step : State → Label → State} {Inv : State → Prop}
    {Good : State → Label → Prop} (hstep : ∀ s l, Inv s → (Inv (step s l) ↔ Good s l)) {s : State} (hs : Inv s)
    (ls : List Label) :
    (∀ seen, seen <+: ls → Inv (seen.foldl step s)) ↔
      ∀ seen l, seen ++ [l] <+: ls → Good (seen.foldl step s) l := by
  constructor
  · intro hall seen l hseen
    have hbefore := hall seen ((List.prefix_append seen [l]).trans hseen)
    have hafter := hall (seen ++ [l]) hseen
    rw [List.foldl_append] at hafter
    exact (hstep _ l hbefore).mp hafter
  · intro hgood seen hseen
    induction seen using List.reverseRecOn with
    | nil => exact hs
    | append_singleton before l ih =>
      rw [List.foldl_append]
      exact (hstep _ l (ih ((List.prefix_append before [l]).trans hseen))).mpr (hgood before l hseen)

end transition
