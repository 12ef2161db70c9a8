import Mathlib.Data.List.Induction
import Mathlib.Tactic.Common

namespace watch

/-- A channel that keeps the last value sent, with all the values there ever were. The
version of a value is its place among them. -/
structure Channel (A : Type) where
  initial : A
  sent : List A
  /-- The sender is gone. -/
  closed : Bool

/-- A receiver remembers the version it has seen. A clone of it has seen the same. -/
structure Receiver where
  seen : Nat
  deriving DecidableEq

/-- What waiting for a change comes to: one, or the end of the sender. -/
inductive Change where
  | changed
  | senderGone
  deriving DecidableEq

namespace Channel

variable {A : Type} (channel : Channel A)

def version : Nat := channel.sent.length

/-- The last value sent. -/
def value : A := channel.sent.getLast?.getD channel.initial

def valueAt (version : Nat) : Option A := (channel.initial :: channel.sent)[version]?

def send (a : A) : Channel A := { channel with sent := channel.sent ++ [a] }

def close : Channel A := { channel with closed := true }

/-- The receiver after it has read the value. -/
def borrow_and_update (_receiver : Receiver) : Receiver := ⟨channel.version⟩

/-- Ready when there is a newer version or the sender is gone. A change that is
pending is seen first. -/
def changed (receiver : Receiver) : Option Change :=
  if receiver.seen ≠ channel.version then some .changed
  else if channel.closed then some .senderGone
  else none

theorem valueAt_version : channel.valueAt channel.version = some channel.value := by
  obtain ⟨initial, sent, closed⟩ := channel
  cases sent using List.reverseRecOn with
  | nil => rfl
  | append_singleton sent a => simp [valueAt, version, value]

/-- Sending adds a version and leaves the earlier ones. -/
theorem valueAt_send {n : Nat} (hle : n ≤ channel.version) (a : A) :
    (channel.send a).valueAt n = channel.valueAt n := by
  have hlt : n < (channel.initial :: channel.sent).length := Nat.lt_succ_of_le hle
  have hsplit : channel.initial :: (channel.sent ++ [a]) = (channel.initial :: channel.sent) ++ [a] := rfl
  rw [valueAt, valueAt, send, hsplit, List.getElem?_append_left hlt]

@[simp] theorem version_send (a : A) : (channel.send a).version = channel.version + 1 := by
  simp [version, send]

@[simp] theorem version_close : channel.close.version = channel.version := rfl

@[simp] theorem valueAt_close (n : Nat) : channel.close.valueAt n = channel.valueAt n := rfl

/-- A receiver for which nothing is ready has seen the last value. -/
theorem changed_eq_none_iff {receiver : Receiver} :
    channel.changed receiver = none ↔ receiver.seen = channel.version ∧ channel.closed = false := by
  unfold changed
  split
  · rename_i hnewer
    simp [hnewer]
  · rename_i hseen
    simp [not_not.mp hseen]

theorem closed_of_senderGone {receiver : Receiver} (h : channel.changed receiver = some .senderGone) :
    channel.closed = true := by
  unfold changed at h
  split at h
  · cases h
  · exact (Option.ite_none_right_eq_some.mp h).1

end Channel

end watch
