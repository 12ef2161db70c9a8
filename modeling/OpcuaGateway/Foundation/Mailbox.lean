import Mathlib.Data.List.Induction
import Mathlib.Tactic.Common

namespace mailbox

/-- What becomes of a value that is offered without waiting for room. -/
inductive Offer where
  | sent
  | full
  | closed
  deriving DecidableEq

inductive Event (A : Type) where
  | offered (a : A) (outcome : Offer)
  | received (a : A)
  deriving DecidableEq

def Event.sent? {A : Type} : Event A → Option A
  | .offered a .sent => some a
  | _ => none

def Event.received? {A : Type} : Event A → Option A
  | .received a => some a
  | _ => none

/-- A bounded channel, with all that happened at it, oldest first. -/
structure Mailbox (A : Type) where
  queue : List A
  history : List (Event A)
  deriving DecidableEq

variable {A : Type}

def sentIn (history : List (Event A)) : List A := history.filterMap Event.sent?

def receivedIn (history : List (Event A)) : List A := history.filterMap Event.received?

theorem sentIn_concat (history : List (Event A)) (event : Event A) :
    sentIn (history ++ [event]) = sentIn history ++ event.sent?.toList := by
  rw [sentIn, List.filterMap_append]
  cases hevent : event.sent? <;> simp [sentIn, hevent]

theorem receivedIn_concat (history : List (Event A)) (event : Event A) :
    receivedIn (history ++ [event]) = receivedIn history ++ event.received?.toList := by
  rw [receivedIn, List.filterMap_append]
  cases hevent : event.received? <;> simp [receivedIn, hevent]

/-- An event after some others. A value is turned away exactly when the values that were
sent and not received fill the channel, and what is received is the oldest of these. -/
def Admissible (capacity : Nat) (before : List (Event A)) : Event A → Prop
  | .offered _ .sent => (sentIn before).length < (receivedIn before).length + capacity
  | .offered _ .full => (sentIn before).length = (receivedIn before).length + capacity
  | .offered _ .closed => True
  | .received a => (sentIn before)[(receivedIn before).length]? = some a

/-- The history of a first-in first-out channel of that capacity. -/
def Faithful (capacity : Nat) (history : List (Event A)) : Prop :=
  ∀ before event after, history = before ++ event :: after → Admissible capacity before event

theorem faithful_nil (capacity : Nat) : Faithful capacity ([] : List (Event A)) := by
  intro before event after hsplit
  cases before <;> cases hsplit

theorem Faithful.concat {capacity : Nat} {history : List (Event A)} (h : Faithful capacity history) {event : Event A}
    (hevent : Admissible capacity history event) : Faithful capacity (history ++ [event]) := by
  intro before other after hsplit
  cases after using List.reverseRecOn with
  | nil =>
    obtain ⟨rfl, heq⟩ := List.append_inj' hsplit rfl
    cases heq
    exact hevent
  | append_singleton after last =>
    rw [← List.cons_append, ← List.append_assoc] at hsplit
    exact h before other after (List.append_inj' hsplit rfl).1

namespace Mailbox

variable (box : Mailbox A)

def empty : Mailbox A := ⟨[], []⟩

/-- Offer a value. The receiver is there or not. -/
def offer (capacity : Nat) (attended : Bool) (a : A) : Mailbox A :=
  if attended = false then { box with history := box.history ++ [.offered a .closed] }
  else if box.queue.length < capacity then
    { queue := box.queue ++ [a], history := box.history ++ [.offered a .sent] }
  else { box with history := box.history ++ [.offered a .full] }

/-- Receive the oldest value. -/
def receive : Option (A × Mailbox A) :=
  match box.queue with
  | [] => none
  | a :: rest => some (a, { queue := rest, history := box.history ++ [.received a] })

/-- The queue holds what was sent and not received. -/
structure Kept (capacity : Nat) : Prop where
  books : sentIn box.history = receivedIn box.history ++ box.queue
  bounded : box.queue.length ≤ capacity
  faithful : Faithful capacity box.history

variable {box} {capacity : Nat}

theorem kept_empty (capacity : Nat) : (empty : Mailbox A).Kept capacity where
  books := rfl
  bounded := Nat.zero_le capacity
  faithful := faithful_nil capacity

theorem Kept.waiting (h : box.Kept capacity) :
    (sentIn box.history).length = (receivedIn box.history).length + box.queue.length := by
  rw [h.books, List.length_append]

/-- A value that is turned away leaves the queue as it is. -/
theorem Kept.turnedAway (h : box.Kept capacity) {a : A} {outcome : Offer} (houtcome : outcome ≠ .sent)
    (hadmissible : Admissible capacity box.history (.offered a outcome)) :
    ({ box with history := box.history ++ [.offered a outcome] } : Mailbox A).Kept capacity where
  books := by
    rw [sentIn_concat, receivedIn_concat, h.books]
    cases outcome with
    | sent => exact absurd rfl houtcome
    | full => simp [Event.sent?, Event.received?]
    | closed => simp [Event.sent?, Event.received?]
  bounded := h.bounded
  faithful := h.faithful.concat hadmissible

theorem Kept.offer (h : box.Kept capacity) (attended : Bool) (a : A) : (box.offer capacity attended a).Kept capacity := by
  have hwaiting := h.waiting
  have hbounded := h.bounded
  unfold Mailbox.offer
  split
  · exact h.turnedAway (by simp) trivial
  · split
    · rename_i hroom
      refine ⟨?_, ?_, h.faithful.concat ?_⟩
      · rw [sentIn_concat, receivedIn_concat, h.books]
        simp [Event.sent?, Event.received?]
      · rw [List.length_append, List.length_singleton]
        omega
      · change (sentIn box.history).length < (receivedIn box.history).length + capacity
        omega
    · apply h.turnedAway (by simp)
      change (sentIn box.history).length = (receivedIn box.history).length + capacity
      omega

theorem receive_eq_some {a : A} {next : Mailbox A} :
    box.receive = some (a, next) ↔
      ∃ rest, box.queue = a :: rest ∧ next = { queue := rest, history := box.history ++ [.received a] } := by
  unfold receive
  cases hqueue : box.queue with
  | nil => simp
  | cons head rest =>
    simp only [Option.some.injEq, Prod.mk.injEq, List.cons.injEq]
    constructor
    · rintro ⟨rfl, rfl⟩
      exact ⟨rest, ⟨rfl, rfl⟩, rfl⟩
    · rintro ⟨rest, ⟨rfl, rfl⟩, rfl⟩
      exact ⟨rfl, rfl⟩

theorem receivedIn_receive {a : A} {next : Mailbox A} (h : box.receive = some (a, next)) :
    receivedIn next.history = receivedIn box.history ++ [a] := by
  obtain ⟨rest, -, rfl⟩ := receive_eq_some.mp h
  exact receivedIn_concat box.history (.received a)

theorem receivedIn_offer (attended : Bool) (a : A) :
    receivedIn (box.offer capacity attended a).history = receivedIn box.history := by
  have hsame : ∀ outcome, receivedIn (box.history ++ [.offered a outcome]) = receivedIn box.history := by
    intro outcome
    rw [receivedIn_concat]
    exact List.append_nil _
  unfold offer
  split
  · exact hsame .closed
  · split
    · exact hsame .sent
    · exact hsame .full

theorem Kept.receive (h : box.Kept capacity) {a : A} {next : Mailbox A} (hreceive : box.receive = some (a, next)) :
    next.Kept capacity := by
  have hreceived := receivedIn_receive hreceive
  obtain ⟨rest, hqueue, rfl⟩ := receive_eq_some.mp hreceive
  have hbooks := h.books
  have hbounded := h.bounded
  rw [hqueue] at hbooks hbounded
  rw [List.length_cons] at hbounded
  have holdest : Admissible capacity box.history (.received a) := by
    change (sentIn box.history)[(receivedIn box.history).length]? = some a
    rw [hbooks, List.getElem?_append_right (Nat.le_refl _), Nat.sub_self]
    rfl
  refine ⟨?_, Nat.le_of_succ_le hbounded, h.faithful.concat holdest⟩
  rw [sentIn_concat, hreceived, hbooks]
  simp [Event.sent?]

/-- Values are turned away as closed only where nobody is there to receive them. -/
theorem closed_of_offer {attended : Bool} {a b : A}
    (hmem : .offered b .closed ∈ (box.offer capacity attended a).history) :
    attended = false ∨ .offered b .closed ∈ box.history := by
  unfold offer at hmem
  split at hmem
  · exact Or.inl (by assumption)
  · right
    split at hmem
    · simpa using hmem
    · simpa using hmem

end Mailbox

end mailbox
