import Mathlib.Tactic.Common

namespace precedence

variable {M : Type} {admits : List M → M → Prop}

/-- Each of the messages may be appended behind the log and the messages in front
of it. -/
def Admitted (admits : List M → M → Prop) : List M → List M → Prop
  | _, [] => True
  | log, message :: rest => admits log message ∧ Admitted admits (log ++ [message]) rest

/-- What may be appended to a log may be appended to every log with more messages. -/
def Persistent (admits : List M → M → Prop) : Prop :=
  ∀ log log' message, log ⊆ log' → admits log message → admits log' message

@[simp] theorem admitted_nil (log : List M) : Admitted admits log [] := trivial

theorem admitted_append {log first second : List M} :
    Admitted admits log (first ++ second) ↔ Admitted admits log first ∧ Admitted admits (log ++ first) second := by
  induction first generalizing log with
  | nil => simp
  | cons message rest ih =>
    rw [List.cons_append, Admitted, Admitted, ih, List.append_assoc, List.singleton_append, and_assoc]

theorem admitted_singleton {log : List M} {message : M} : Admitted admits log [message] ↔ admits log message := by
  simp [Admitted]

/-- Messages that other writers append first take nothing away. -/
theorem Admitted.mono (hpersistent : Persistent admits) {log log' messages : List M} (hsub : log ⊆ log')
    (h : Admitted admits log messages) : Admitted admits log' messages := by
  induction messages generalizing log log' with
  | nil => trivial
  | cons message rest ih =>
    obtain ⟨hhead, hrest⟩ := h
    have hlonger : log ++ [message] ⊆ log' ++ [message] := by
      intro other hmem
      rcases List.mem_append.mp hmem with hmem | hmem
      · exact List.mem_append_left _ (hsub hmem)
      · exact List.mem_append_right _ hmem
    exact ⟨hpersistent _ _ _ hsub hhead, ih hlonger hrest⟩

/-- In an admitted log every message was admitted by those before it. -/
theorem Admitted.at_split {before after : List M} {message : M}
    (h : Admitted admits [] (before ++ message :: after)) : admits before message := by
  have htail := (admitted_append.mp h).2
  rw [List.nil_append] at htail
  exact htail.1

/-- Appending a message that is admitted keeps a log admitted. -/
theorem Admitted.append_singleton {log : List M} {message : M} (h : Admitted admits [] log)
    (hmessage : admits log message) : Admitted admits [] (log ++ [message]) :=
  admitted_append.mpr ⟨h, admitted_singleton.mpr hmessage⟩

end precedence
