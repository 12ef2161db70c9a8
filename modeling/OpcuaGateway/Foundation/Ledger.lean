import Mathlib.Data.List.Infix
import Mathlib.Logic.Function.Basic
import Mathlib.Tactic.Common

namespace ledger

/-- A value to be published under a key, and whether publishing it succeeds. -/
structure Attempt (K V : Type) where
  key : K
  value : V
  succeeds : Bool

variable {K V : Type} (keeps : K → Bool)

/-- The value is sent unless it is remembered as the one before. Keys that nothing
is kept of are sent every time. -/
def Sends (memory : K → Option V) (attempt : Attempt K V) : Prop :=
  keeps attempt.key = true → memory attempt.key ≠ some attempt.value

/-- A value that is sent and then remembered. -/
structure IsTransition (memory : K → Option V) (attempt : Attempt K V) : Prop where
  kept : keeps attempt.key = true
  new : memory attempt.key ≠ some attempt.value

variable {keeps} {memory published : K → Option V} {attempt : Attempt K V}

theorem IsTransition.sends (h : IsTransition keeps memory attempt) : Sends keeps memory attempt := fun _ => h.new

/-- What is sent without being a transition belongs to a key nothing is kept of. -/
theorem Sends.unkept (h : Sends keeps memory attempt) (hnot : ¬ IsTransition keeps memory attempt) :
    keeps attempt.key = false := by
  by_contra hkept
  have hkept : keeps attempt.key = true := by simpa using hkept
  exact hnot ⟨hkept, h hkept⟩

theorem sends_of_unkept (h : keeps attempt.key = false) : Sends keeps memory attempt := by
  intro hkept
  rw [h] at hkept
  cases hkept

variable [DecidableEq K]

/-- The memory behind an attempt, whatever came of it. -/
def remember (keeps : K → Bool) (memory : K → Option V) (attempt : Attempt K V) : K → Option V :=
  if keeps attempt.key = true then Function.update memory attempt.key (some attempt.value) else memory

theorem remember_of_unkept (h : keeps attempt.key = false) : remember keeps memory attempt = memory := by
  rw [remember, if_neg (by simp [h])]

theorem remember_self (h : keeps attempt.key = true) :
    remember keeps memory attempt attempt.key = some attempt.value := by
  rw [remember, if_pos h, Function.update_self]

theorem remember_of_ne {k : K} (h : k ≠ attempt.key) : remember keeps memory attempt k = memory k := by
  rw [remember]
  split
  · exact Function.update_of_ne h _ _
  · rfl

/-- A value that is remembered already changes nothing. -/
theorem remember_of_not_sends (h : ¬ Sends keeps memory attempt) : remember keeps memory attempt = memory := by
  rw [Sends, Classical.not_imp, not_not] at h
  rw [remember, if_pos h.1, ← h.2, Function.update_eq_self]

/-- An attempt changes the memory exactly when it is a transition. -/
theorem remember_eq_iff : remember keeps memory attempt = memory ↔ ¬ IsTransition keeps memory attempt := by
  constructor
  · intro hsame htransition
    refine htransition.new ?_
    rw [← @remember_self K V keeps memory attempt _ htransition.kept, hsame]
  · intro hnot
    by_cases hsends : Sends keeps memory attempt
    · exact remember_of_unkept (hsends.unkept hnot)
    · exact remember_of_not_sends hsends

/-- What was published last, once an attempt has been accepted. -/
def record (published : K → Option V) (attempt : Attempt K V) : K → Option V :=
  Function.update published attempt.key (some attempt.value)

/-- The memory of every key that is kept is what was published last under it. -/
def InSync (keeps : K → Bool) (memory published : K → Option V) : Prop :=
  ∀ k, keeps k = true → memory k = published k

/-- An attempt that is not sent leaves both as they are. -/
theorem InSync.skip (h : InSync keeps memory published) (hskip : ¬ Sends keeps memory attempt) :
    InSync keeps (remember keeps memory attempt) published := by
  rw [remember_of_not_sends hskip]
  exact h

theorem InSync.accept (h : InSync keeps memory published) :
    InSync keeps (remember keeps memory attempt) (record published attempt) := by
  intro k hkept
  rw [record, Function.update_apply]
  by_cases hk : k = attempt.key
  · subst hk
    rw [if_pos rfl, remember_self hkept]
  · rw [if_neg hk, remember_of_ne hk]
    exact h k hkept

/-- An attempt that fails keeps the memory right exactly when it was no transition. -/
theorem InSync.fail_iff (h : InSync keeps memory published) :
    InSync keeps (remember keeps memory attempt) published ↔ ¬ IsTransition keeps memory attempt := by
  constructor
  · intro hafter htransition
    have hkey := hafter attempt.key htransition.kept
    rw [remember_self htransition.kept, ← h attempt.key htransition.kept] at hkey
    exact htransition.new hkey.symm
  · intro hnot
    rw [remember_eq_iff.mpr hnot]
    exact h

/-- An attempt keeps the memory right exactly if it is no transition that fails. -/
theorem InSync.step_iff {accepted : Prop} [Decidable accepted] (h : InSync keeps memory published)
    (haccepted : accepted ↔ Sends keeps memory attempt ∧ attempt.succeeds = true) :
    InSync keeps (remember keeps memory attempt) (if accepted then record published attempt else published) ↔
      ¬ (IsTransition keeps memory attempt ∧ attempt.succeeds = false) := by
  by_cases hsends : Sends keeps memory attempt
  · cases hsucceeds : attempt.succeeds with
    | true =>
      rw [if_pos (haccepted.mpr ⟨hsends, hsucceeds⟩)]
      exact iff_of_true h.accept (by simp)
    | false =>
      rw [if_neg (by simp [haccepted, hsucceeds]), h.fail_iff]
      simp
  · rw [if_neg fun hboth => hsends (haccepted.mp hboth).1]
    exact iff_of_true (h.skip hsends) fun hboth => hsends hboth.1.sends

end ledger
