import OpcuaGateway.Tedge.Topic

open text

namespace tedge.topic

/-- A run of the collapse loop to its end. -/
inductive Collapses : List Char → List Char → Prop
  | stop {cs : List Char} (hdone : containsDoubleDash cs = false) : Collapses cs cs
  | again {cs out : List Char} (hfound : containsDoubleDash cs = true)
      (hrest : Collapses (replaceDoubleDash cs) out) : Collapses cs out

/-- The shape of an identifier that sanitizing leaves as it is. -/
structure NormalForm (id : String) : Prop where
  nonempty : id ≠ ""
  written : ∀ c ∈ id.toList, isIdChar c
  no_double_dash : ¬ ['-', '-'] <:+: id.toList
  no_dash_first : id.toList.head? ≠ some '-'
  no_dash_last : id.toList.getLast? ≠ some '-'

/-- One level of a topic that messages can be published to: it neither spans
levels nor stands for other levels. -/
structure TopicLevel (id : String) : Prop where
  nonempty : id ≠ ""
  one_level : splitAll '/' id.toList = [id.toList]
  no_wildcard : '+' ∉ id.toList ∧ '#' ∉ id.toList
  no_null : '\x00' ∉ id.toList

theorem containsDoubleDash_eq_true_iff {cs : List Char} :
    containsDoubleDash cs = true ↔ ['-', '-'] <:+: cs := by
  fun_induction containsDoubleDash cs with
  | case1 c d rest ih =>
    have hhead : ['-', '-'] <+: c :: d :: rest ↔ c = '-' ∧ d = '-' := by
      simp only [List.cons_prefix_cons, List.nil_prefix, and_true]
      exact ⟨fun h => ⟨h.1.symm, h.2.symm⟩, fun h => ⟨h.1.symm, h.2.symm⟩⟩
    rw [List.infix_cons_iff, hhead, ← ih, Bool.or_eq_true, Bool.and_eq_true, beq_iff_eq, beq_iff_eq]
  | case2 cs hshort =>
    refine iff_of_false Bool.false_ne_true fun hpart => ?_
    have hlength : 2 ≤ cs.length := hpart.length_le
    match cs with
    | [] => simp at hlength
    | [_] => simp at hlength
    | c :: d :: rest => exact hshort c d rest rfl

theorem length_replaceDoubleDash_le (cs : List Char) : (replaceDoubleDash cs).length ≤ cs.length := by
  fun_induction replaceDoubleDash cs with
  | case1 rest ih =>
    simp only [List.length_cons]
    omega
  | case2 c rest _ ih =>
    simp only [List.length_cons]
    omega
  | case3 => exact Nat.le_refl _

/-- The measure of the collapse loop. -/
theorem length_replaceDoubleDash_lt {cs : List Char} (h : containsDoubleDash cs = true) :
    (replaceDoubleDash cs).length < cs.length := by
  fun_induction replaceDoubleDash cs with
  | case1 rest ih =>
    have hrest := length_replaceDoubleDash_le rest
    simp only [List.length_cons]
    omega
  | case2 c rest hhead ih =>
    have hlater : containsDoubleDash rest = true := by
      cases rest with
      | nil => cases h
      | cons d rest =>
        rw [containsDoubleDash, Bool.or_eq_true, Bool.and_eq_true, beq_iff_eq, beq_iff_eq] at h
        refine h.resolve_left fun hdashes => ?_
        exact hhead rest hdashes.1 (congrArg (· :: rest) hdashes.2)
    have hrest := ih hlater
    simp only [List.length_cons]
    omega
  | case3 => cases h

/-- As many passes as there are characters reach the end of the loop. -/
theorem collapses_collapseLoop {n : Nat} {cs : List Char} (hn : cs.length ≤ n) :
    Collapses cs (collapseLoop n cs) := by
  induction n generalizing cs with
  | zero =>
    have hnil : cs = [] := List.length_eq_zero_iff.mp (by omega)
    rw [hnil]
    exact .stop rfl
  | succ n ih =>
    rw [collapseLoop]
    cases hfound : containsDoubleDash cs with
    | false => exact .stop hfound
    | true =>
      have hshorter := length_replaceDoubleDash_lt hfound
      exact .again hfound (ih (by omega))

theorem Collapses.no_double_dash {cs out : List Char} (h : Collapses cs out) : ¬ ['-', '-'] <:+: out := by
  induction h with
  | stop hdone =>
    rw [← containsDoubleDash_eq_true_iff, hdone]
    exact Bool.false_ne_true
  | again _ _ ih => exact ih

/-- The loop has one result. -/
theorem Collapses.unique {cs out out' : List Char} (h : Collapses cs out) (h' : Collapses cs out') :
    out = out' := by
  induction h with
  | stop hdone =>
    cases h' with
    | stop => rfl
    | again hfound => exact absurd (hdone.symm.trans hfound) Bool.false_ne_true
  | again hfound _ ih =>
    cases h' with
    | stop hdone => exact absurd (hdone.symm.trans hfound) Bool.false_ne_true
    | again _ hrest => exact ih hrest

theorem isIdChar.sanitizeChar_eq {c : Char} (h : isIdChar c) : sanitizeChar c = c := if_pos h

theorem isIdChar.ne {c d : Char} (hc : isIdChar c) (hd : ¬ isIdChar d) : c ≠ d := fun heq => hd (heq ▸ hc)

/-- What the collapse loop leaves of an input. -/
def collapsed (input : String) : List Char :=
  let out := input.toList.map sanitizeChar
  collapseLoop out.length out

theorem sanitize_id_eq (input : String) :
    sanitize_id input =
      if trimMatches (· == '-') (collapsed input) = [] then "unnamed"
      else String.ofList (trimMatches (· == '-') (collapsed input)) := rfl

theorem collapses_collapsed (input : String) : Collapses (input.toList.map sanitizeChar) (collapsed input) :=
  collapses_collapseLoop (Nat.le_refl _)

theorem normalForm_unnamed : NormalForm "unnamed" where
  nonempty := by decide
  written := by
    have hall : "unnamed".toList.all (fun c => decide (isIdChar c)) = true := by decide
    exact fun c hc => of_decide_eq_true (List.all_eq_true.mp hall c hc)
  no_double_dash := by
    rw [← containsDoubleDash_eq_true_iff]
    decide
  no_dash_first := by decide
  no_dash_last := by decide

theorem normalForm_sanitize_id (input : String) : NormalForm (sanitize_id input) := by
  rw [sanitize_id_eq]
  split
  · exact normalForm_unnamed
  · rename_i hsome
    have hpart := trimMatches_isInfix (· == '-') (collapsed input)
    have hno := (collapses_collapsed input).no_double_dash
    constructor
    · exact mt String.ofList_eq_empty_iff.mp hsome
    · intro c hc
      rw [String.toList_ofList] at hc
      obtain ⟨d, -, rfl⟩ := List.mem_map.mp (mem_of_mem_collapseLoop (hpart.subset hc))
      exact sanitizeChar_isIdChar d
    · rw [String.toList_ofList]
      exact fun hdouble => hno (hdouble.trans hpart)
    · rw [String.toList_ofList]
      exact fun hfirst => absurd (trimMatches_head? hfirst) (by decide)
    · rw [String.toList_ofList]
      exact fun hlast => absurd (trimMatches_getLast? hlast) (by decide)

theorem collapseLoop_eq_self {cs : List Char} (h : ¬ ['-', '-'] <:+: cs) (n : Nat) : collapseLoop n cs = cs := by
  cases n with
  | zero => rfl
  | succ n =>
    rw [← containsDoubleDash_eq_true_iff] at h
    rw [collapseLoop, if_neg h]

/-- Nothing is replaced, collapsed or trimmed in a normal form. -/
theorem NormalForm.sanitize_id_eq_self {id : String} (h : NormalForm id) : sanitize_id id = id := by
  have hmap : id.toList.map sanitizeChar = id.toList := by
    rw [List.map_congr_left fun c hc => (h.written c hc).sanitizeChar_eq, List.map_id']
  have hcollapsed : collapsed id = id.toList := by
    simp only [collapsed, hmap]
    exact collapseLoop_eq_self h.no_double_dash _
  have htrimmed : trimMatches (· == '-') id.toList = id.toList := by
    apply trimMatches_eq_self
    · intro c hc
      exact beq_false_of_ne fun heq => h.no_dash_first (heq ▸ hc)
    · intro c hc
      exact beq_false_of_ne fun heq => h.no_dash_last (heq ▸ hc)
  have hsome : id.toList ≠ [] := mt String.toList_eq_nil_iff.mp h.nonempty
  rw [sanitize_id_eq, hcollapsed, htrimmed, if_neg hsome, String.ofList_toList]

theorem normalForm_iff {id : String} : NormalForm id ↔ sanitize_id id = id :=
  ⟨NormalForm.sanitize_id_eq_self, fun hfixed => hfixed ▸ normalForm_sanitize_id id⟩

theorem NormalForm.topicLevel {id : String} (h : NormalForm id) : TopicLevel id where
  nonempty := h.nonempty
  one_level := splitAll_of_notMem fun hmem => (h.written _ hmem).ne (by decide) rfl
  no_wildcard := by
    refine ⟨fun hmem => ?_, fun hmem => ?_⟩
    · exact (h.written _ hmem).ne (by decide) rfl
    · exact (h.written _ hmem).ne (by decide) rfl
  no_null := fun hmem => (h.written _ hmem).ne (by decide) rfl

/-- Sanitizing ends for every input, in a normal form that is one level of a
topic, and the normal forms are the identifiers that it leaves as they are. -/
theorem sanitize_id_normal_form (input : String) :
    (∃! out, Collapses (input.toList.map sanitizeChar) out ∧
      sanitize_id input =
        if trimMatches (· == '-') out = [] then "unnamed" else String.ofList (trimMatches (· == '-') out)) ∧
    NormalForm (sanitize_id input) ∧ TopicLevel (sanitize_id input) ∧
    sanitize_id (sanitize_id input) = sanitize_id input ∧ (NormalForm input ↔ sanitize_id input = input) := by
  have hnormal := normalForm_sanitize_id input
  have hloop := collapses_collapsed input
  refine ⟨⟨collapsed input, ⟨hloop, sanitize_id_eq input⟩, ?_⟩, hnormal, hnormal.topicLevel, ?_, ?_⟩
  · exact fun out hout => hout.1.unique hloop
  · exact hnormal.sanitize_id_eq_self
  · exact normalForm_iff

end tedge.topic
