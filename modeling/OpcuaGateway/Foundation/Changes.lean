import Mathlib.Data.List.Chain
import Mathlib.Data.List.Forall2
import Mathlib.Logic.Function.Basic
import Mathlib.Tactic.Common

namespace readings

variable {K V : Type} [DecidableEq K]

/-- What is remembered of every key after a list of readings. -/
def latestFrom (memory : K → Option V) : List (K × V) → K → Option V
  | [] => memory
  | (k, v) :: rest => latestFrom (Function.update memory k (some v)) rest

def latest (k : K) (readings : List (K × V)) : Option V := latestFrom (fun _ => none) readings k

theorem latestFrom_append (memory : K → Option V) (first second : List (K × V)) :
    latestFrom memory (first ++ second) = latestFrom (latestFrom memory first) second := by
  induction first generalizing memory with
  | nil => rfl
  | cons head rest ih => exact ih _

theorem latestFrom_concat (memory : K → Option V) (readings : List (K × V)) (k : K) (v : V) :
    latestFrom memory (readings ++ [(k, v)]) k = some v := by
  rw [latestFrom_append]
  exact Function.update_self ..

variable {K' : Type} [DecidableEq K'] {embed : K → K'}

/-- Readings whose keys are renamed apart are remembered under the new keys, and
nothing else changes. -/
theorem latestFrom_map (hembed : Function.Injective embed) (memory : K' → Option V) (readings : List (K × V)) :
    (∀ k, latestFrom memory (readings.map (Prod.map embed id)) (embed k) =
      latestFrom (memory ∘ embed) readings k) ∧
    ∀ k', (∀ k, k' ≠ embed k) → latestFrom memory (readings.map (Prod.map embed id)) k' = memory k' := by
  induction readings generalizing memory with
  | nil => exact ⟨fun k => rfl, fun k' _ => rfl⟩
  | cons head rest ih =>
    obtain ⟨k, v⟩ := head
    obtain ⟨hinside, houtside⟩ := ih (Function.update memory (embed k) (some v))
    refine ⟨fun q => ?_, fun k' hk' => ?_⟩
    · refine (hinside q).trans ?_
      rw [Function.update_comp_eq_of_injective memory hembed k (some v)]
      rfl
    · refine (houtside k' hk').trans ?_
      exact Function.update_of_ne (hk' k) _ _

variable [DecidableEq V]

/-- The readings that differ from what is remembered of their key. -/
def changesFrom (memory : K → Option V) : List (K × V) → List (K × V)
  | [] => []
  | (k, v) :: rest =>
    if memory k = some v then changesFrom memory rest
    else (k, v) :: changesFrom (Function.update memory k (some v)) rest

/-- The readings that are the first of their key or differ from the one before. -/
def changes (readings : List (K × V)) : List (K × V) := changesFrom (fun _ => none) readings

theorem changesFrom_append (memory : K → Option V) (first second : List (K × V)) :
    changesFrom memory (first ++ second) =
      changesFrom memory first ++ changesFrom (latestFrom memory first) second := by
  induction first generalizing memory with
  | nil => rfl
  | cons head rest ih =>
    obtain ⟨k, v⟩ := head
    simp only [List.cons_append, changesFrom, latestFrom]
    split
    · rename_i hsame
      rw [ih, ← hsame, Function.update_eq_self]
    · rw [ih, List.cons_append]

/-- Leaving out what is no change loses nothing of what is remembered. -/
theorem latestFrom_changesFrom (memory : K → Option V) (readings : List (K × V)) :
    latestFrom memory (changesFrom memory readings) = latestFrom memory readings := by
  induction readings generalizing memory with
  | nil => rfl
  | cons head rest ih =>
    obtain ⟨k, v⟩ := head
    simp only [changesFrom, latestFrom]
    split
    · rename_i hsame
      rw [ih, ← hsame, Function.update_eq_self]
    · exact ih _

/-- The last change is the latest reading of its key. -/
theorem latest_of_getLast_changes {readings : List (K × V)} {k : K} {v : V}
    (h : (changes readings).getLast? = some (k, v)) : latest k readings = some v := by
  obtain ⟨before, hsplit⟩ := List.getLast?_eq_some_iff.mp h
  rw [latest, ← latestFrom_changesFrom, ← changes, hsplit, latestFrom_concat]

/-- The first reading is a change. -/
theorem changes_eq_nil_iff {readings : List (K × V)} : changes readings = [] ↔ readings = [] := by
  cases readings <;> simp [changes, changesFrom]

theorem exists_getLast_changes {readings : List (K × V)} (h : readings ≠ []) :
    ∃ k v, (changes readings).getLast? = some (k, v) ∧ latest k readings = some v := by
  have hchanges : changes readings ≠ [] := fun hnil => h (changes_eq_nil_iff.mp hnil)
  obtain ⟨⟨k, v⟩, hlast⟩ := Option.isSome_iff_exists.mp (List.getLast?_isSome.mpr hchanges)
  exact ⟨k, v, hlast, latest_of_getLast_changes hlast⟩

theorem changesFrom_map (hembed : Function.Injective embed) (memory : K' → Option V)
    (readings : List (K × V)) :
    changesFrom memory (readings.map (Prod.map embed id)) =
      (changesFrom (memory ∘ embed) readings).map (Prod.map embed id) := by
  induction readings generalizing memory with
  | nil => rfl
  | cons head rest ih =>
    obtain ⟨k, v⟩ := head
    simp only [List.map_cons, Prod.map_apply, id_eq, changesFrom, Function.comp_apply]
    split
    · exact ih memory
    · rw [ih, Function.update_comp_eq_of_injective memory hembed k (some v)]
      rfl

/-- Lists that correspond element by element correspond at their ends. -/
theorem getLast_of_forall₂ {A B : Type} {R : A → B → Prop} {as : List A} {bs : List B}
    (h : List.Forall₂ R as bs) {a : A} (hlast : as.getLast? = some a) :
    ∃ b, bs.getLast? = some b ∧ R a b := by
  induction h with
  | nil => cases hlast
  | @cons a' b' as bs hhead htail ih =>
    cases htail with
    | nil =>
      obtain rfl : a' = a := by simpa using hlast
      exact ⟨b', rfl, hhead⟩
    | cons hnext hrest => exact ih hlast

section Stream

variable {A : Type} {stream xs : List A}

/-- No element of a list is the one before it exactly when its neighbours differ and
its first element is not the last one of the stream it continues. -/
theorem forall_ne_last_iff :
    (∀ before x after, xs = before ++ x :: after → (stream ++ before).getLast? ≠ some x) ↔
      xs.IsChain (· ≠ ·) ∧ ∀ y ∈ stream.getLast?, y ∉ xs.head? := by
  induction xs generalizing stream with
  | nil => simp
  | cons head rest ih =>
    have hsplit : (∀ before x after, head :: rest = before ++ x :: after → (stream ++ before).getLast? ≠ some x) ↔
        stream.getLast? ≠ some head ∧
          ∀ before x after, rest = before ++ x :: after → (stream ++ [head] ++ before).getLast? ≠ some x := by
      constructor
      · intro h
        refine ⟨by simpa using h [] head rest rfl, fun before x after hrest => ?_⟩
        have hlater := h (head :: before) x after (by rw [hrest]; rfl)
        rwa [List.append_assoc]
      · rintro ⟨hhead, hrest⟩ before x after heq
        cases before with
        | nil =>
          obtain ⟨rfl, -⟩ := List.cons.inj heq
          simpa using hhead
        | cons first before =>
          obtain ⟨rfl, htail⟩ := List.cons.inj heq
          have hlater := hrest before x after htail
          rwa [List.append_assoc] at hlater
    rw [hsplit, ih, List.isChain_cons, List.getLast?_concat]
    simp only [Option.mem_def, List.head?_cons, Option.some.injEq, forall_eq']
    constructor
    · rintro ⟨hhead, hchain, hnext⟩
      exact ⟨⟨fun y hy hsame => hnext (hsame ▸ hy), hchain⟩, fun y hy hsame => hhead (hsame ▸ hy)⟩
    · rintro ⟨⟨hnext, hchain⟩, hhead⟩
      exact ⟨fun hsame => hhead head hsame rfl, hchain, fun hsame => hnext head hsame rfl⟩

/-- Neighbours that differ and yet equal the element before them leave room for one. -/
theorem length_le_one_of_forall_eq_last (hchain : xs.IsChain (· ≠ ·))
    (hsame : ∀ before x after, xs = before ++ x :: after → (stream ++ before).getLast? = some x) :
    xs.length ≤ 1 := by
  cases xs with
  | nil => exact Nat.zero_le 1
  | cons first rest =>
    cases rest with
    | nil => exact Nat.le_refl 1
    | cons second rest =>
      have hsecond := hsame [first] second rest rfl
      rw [List.getLast?_concat, Option.some.injEq] at hsecond
      exact absurd hsecond (List.isChain_cons_cons.mp hchain).1

/-- What holds of each result of a list, with the results before it, holds of each
split of the results. -/
theorem forall_filterMap_split_iff {B : Type} {f : A → Option B} {as : List A} {P : List B → B → Prop} :
    (∀ j a b, as[j]? = some a → f a = some b → P ((as.take j).filterMap f) b) ↔
      ∀ before b after, as.filterMap f = before ++ b :: after → P before b := by
  constructor
  · intro h before b after hsplit
    obtain ⟨first, second, rfl, rfl, hsecond⟩ := List.filterMap_eq_append_iff.mp hsplit
    obtain ⟨skipped, a, rest, rfl, hskipped, hresult, -⟩ := List.filterMap_eq_cons_iff.mp hsecond
    have hindex : (first ++ (skipped ++ a :: rest))[(first ++ skipped).length]? = some a := by
      rw [← List.append_assoc]
      simp
    have hbefore := h _ a b hindex hresult
    rwa [← List.append_assoc, List.take_left', List.filterMap_append, List.filterMap_eq_nil_iff.mpr hskipped,
      List.append_nil] at hbefore
    rfl
  · intro h j a b hindex hresult
    obtain ⟨hlt, rfl⟩ := List.getElem?_eq_some_iff.mp hindex
    refine h _ b ((as.drop (j + 1)).filterMap f) ?_
    calc as.filterMap f
        = (as.take j ++ as[j] :: as.drop (j + 1)).filterMap f := by
          rw [← List.drop_eq_getElem_cons hlt, List.take_append_drop]
      _ = (as.take j).filterMap f ++ b :: (as.drop (j + 1)).filterMap f := by
          rw [List.filterMap_append, List.filterMap_cons_some hresult]

end Stream

end readings
