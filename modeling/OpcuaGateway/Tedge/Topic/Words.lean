import Mathlib.Data.List.Induction
import OpcuaGateway.Tedge.Topic.NormalForm

open text

namespace tedge.topic

def isWordChar (c : Char) : Bool :=
  decide (('a' ≤ c ∧ c ≤ 'z') ∨ ('A' ≤ c ∧ c ≤ 'Z') ∨ ('0' ≤ c ∧ c ≤ '9') ∨ c = '_')

/-- The words of a name: its runs of ASCII letters, digits and underscores, in lower
case. A name without any has the one word `unnamed`. -/
def nameWords (name : String) : List (List Char) :=
  let runs := (name.toList.splitOnP fun c => !isWordChar c).filter (!·.isEmpty)
  if runs = [] then ["unnamed".toList] else runs.map (List.map to_ascii_lowercase)

example : nameWords "Pump01 / cooling+line" = ["pump01".toList, "cooling".toList, "line".toList] := by decide

/-- Words with dashes between them. -/
def joinWords (words : List (List Char)) : String := String.ofList (List.intercalate ['-'] words)

section Pieces

theorem dash_notMem_of_splitOn {cs piece : List Char} (h : piece ∈ cs.splitOn '-') : '-' ∉ piece := by
  induction cs generalizing piece with
  | nil =>
    rw [List.mem_singleton.mp h]
    exact List.not_mem_nil
  | cons c rest ih =>
    rw [List.splitOn_cons_eq_if_modifyHead] at h
    obtain ⟨first, others, hrest⟩ := List.exists_cons_of_ne_nil (List.splitOn_ne_nil '-' rest)
    rw [hrest] at h ih
    split at h
    · rcases List.mem_cons.mp h with rfl | hmem
      · exact List.not_mem_nil
      · exact ih hmem
    · rename_i hc
      rcases List.mem_cons.mp h with rfl | hmem
      · have hfirst := ih List.mem_cons_self
        refine List.not_mem_cons_of_ne_of_not_mem ?_ hfirst
        rintro rfl
        exact hc (beq_self_eq_true '-')
      · exact ih (List.mem_cons_of_mem _ hmem)

/-- What stands between the dashes of a text. -/
def pieces (cs : List Char) : List (List Char) := (cs.splitOn '-').filter (!·.isEmpty)

theorem pieces_append_dash (before after : List Char) : pieces (before ++ '-' :: after) = pieces before ++ pieces after := by
  have hsplit : (before ++ '-' :: after).splitOn '-' = before.splitOn '-' ++ after.splitOn '-' :=
    List.splitOnP_append_cons before after (beq_self_eq_true '-')
  rw [pieces, hsplit, List.filter_append]
  rfl

@[simp] theorem pieces_nil : pieces [] = [] := rfl

@[simp] theorem pieces_dash (rest : List Char) : pieces ('-' :: rest) = pieces rest := pieces_append_dash [] rest

/-- Replacing two dashes by one moves no piece. -/
theorem pieces_replaceDoubleDash (before cs : List Char) :
    pieces (before ++ replaceDoubleDash cs) = pieces (before ++ cs) := by
  fun_induction replaceDoubleDash cs generalizing before with
  | case1 rest ih =>
    have hrest := ih (before ++ ['-'])
    simp only [List.append_assoc, List.singleton_append] at hrest
    rw [hrest]
    simp only [pieces_append_dash, pieces_dash]
  | case2 c rest _ ih => simpa using ih (before ++ [c])
  | case3 => rfl

theorem pieces_collapseLoop (n : Nat) (cs : List Char) : pieces (collapseLoop n cs) = pieces cs := by
  induction n generalizing cs with
  | zero => rfl
  | succ n ih =>
    rw [collapseLoop]
    split
    · rw [ih]
      exact pieces_replaceDoubleDash [] cs
    · rfl

theorem pieces_dropWhile (cs : List Char) : pieces (cs.dropWhile (· == '-')) = pieces cs := by
  induction cs with
  | nil => rfl
  | cons c rest ih =>
    rw [List.dropWhile_cons]
    split
    · rename_i hdash
      rw [ih, beq_iff_eq.mp hdash, pieces_dash]
    · rfl

/-- A text without dashes at its end has the same pieces. -/
theorem pieces_rdropWhile (cs : List Char) : pieces (cs.reverse.dropWhile (· == '-')).reverse = pieces cs := by
  induction cs using List.reverseRecOn with
  | nil => rfl
  | append_singleton rest c ih =>
    rw [List.reverse_append, List.reverse_singleton, List.singleton_append, List.dropWhile_cons]
    split
    · rename_i hdash
      rw [ih, beq_iff_eq.mp hdash, pieces_append_dash, pieces_nil, List.append_nil]
    · simp

theorem pieces_trimMatches (cs : List Char) : pieces (trimMatches (· == '-') cs) = pieces cs := by
  rw [trimMatches, pieces_rdropWhile, pieces_dropWhile]

/-- Behind the first piece of a text in which no two dashes meet and that ends with
none, no piece is empty. -/
theorem tail_splitOn_ne_nil {cs : List Char} (hdouble : ¬ ['-', '-'] <:+: cs) (hlast : cs.getLast? ≠ some '-') :
    ∀ piece ∈ (cs.splitOn '-').tail, piece ≠ [] := by
  induction cs with
  | nil => simp
  | cons c rest ih =>
    have hrest := fun hinfix => hdouble (List.infix_cons hinfix)
    by_cases hc : c = '-'
    · subst hc
      cases rest with
      | nil => exact absurd rfl hlast
      | cons d rest =>
        have hd : d ≠ '-' := by
          rintro rfl
          exact hdouble ⟨[], rest, rfl⟩
        have htail := ih hrest (by simpa using hlast)
        obtain ⟨first, others, hsplit⟩ := List.exists_cons_of_ne_nil (List.splitOn_ne_nil '-' rest)
        rw [List.splitOn_cons_eq_if_modifyHead, if_neg (by simpa using hd), hsplit] at htail
        rw [List.splitOn_cons_eq_if_modifyHead, if_pos (beq_self_eq_true '-'), List.tail_cons,
          List.splitOn_cons_eq_if_modifyHead, if_neg (by simpa using hd), hsplit]
        intro piece hmem
        rcases List.mem_cons.mp hmem with rfl | hmem
        · simp
        · exact htail piece hmem
    · have htail : ((c :: rest).splitOn '-').tail = (rest.splitOn '-').tail := by
        rw [List.splitOn_cons_eq_if_modifyHead, if_neg (by simpa using hc)]
        cases rest.splitOn '-' <;> rfl
      rw [htail]
      refine ih hrest fun hdash => hlast ?_
      rw [List.getLast?_cons, hdash]
      rfl

/-- A normal form is its pieces with dashes between them. -/
theorem NormalForm.eq_join {id : String} (h : NormalForm id) : id = joinWords (pieces id.toList) := by
  have hsplit : pieces id.toList = id.toList.splitOn '-' := by
    refine List.filter_eq_self.mpr fun piece hmem => ?_
    have hne : piece ≠ [] := by
      cases hcs : id.toList with
      | nil => exact absurd (String.toList_eq_nil_iff.mp hcs) h.nonempty
      | cons c rest =>
        have htail := tail_splitOn_ne_nil h.no_double_dash h.no_dash_last
        have hc : c ≠ '-' := by
          rintro rfl
          exact h.no_dash_first (by rw [hcs]; rfl)
        obtain ⟨first, others, hrest⟩ := List.exists_cons_of_ne_nil (List.splitOn_ne_nil '-' rest)
        rw [hcs, List.splitOn_cons_eq_if_modifyHead, if_neg (by simpa using hc), hrest] at hmem htail
        rcases List.mem_cons.mp hmem with rfl | hmem
        · simp
        · exact htail piece hmem
    simpa using hne
  rw [joinWords, hsplit, List.intercalate_splitOn, String.ofList_toList]

end Pieces

section Names

theorem toNat_to_ascii_lowercase {c : Char} (h : 'A' ≤ c ∧ c ≤ 'Z') : (to_ascii_lowercase c).toNat = c.toNat + 32 := by
  have hhi : c.toNat ≤ 90 := h.2
  have hvalid : (c.toNat + 32).isValidChar := Or.inl (by omega)
  rw [to_ascii_lowercase, if_pos h, Char.ofNat, dif_pos hvalid]
  rfl

/-- A character of a word is kept, in lower case. -/
theorem sanitizeChar_of_word {c : Char} (h : isWordChar c = true) :
    sanitizeChar c = to_ascii_lowercase c ∧ sanitizeChar c ≠ '-' := by
  by_cases hupper : 'A' ≤ c ∧ c ≤ 'Z'
  · have hlo : 65 ≤ c.toNat := hupper.1
    have hhi : c.toNat ≤ 90 := hupper.2
    have hother : ¬ isIdChar c := by
      rintro (⟨hlower, -⟩ | ⟨-, hdigit⟩ | rfl | rfl)
      · have hlower : 97 ≤ c.toNat := hlower
        omega
      · have hdigit : c.toNat ≤ 57 := hdigit
        omega
      · exact absurd hlo (by decide)
      · exact absurd hhi (by decide)
    have hchar : sanitizeChar c = to_ascii_lowercase c := (if_neg hother).trans (if_pos hupper)
    refine ⟨hchar, fun hdash => ?_⟩
    have hvalue := toNat_to_ascii_lowercase hupper
    rw [← hchar, hdash] at hvalue
    have hnumber : '-'.toNat = 45 := rfl
    omega
  · have hother : ('a' ≤ c ∧ c ≤ 'z') ∨ ('0' ≤ c ∧ c ≤ '9') ∨ c = '_' := by
      rcases of_decide_eq_true h with hlower | hupper' | hrest
      · exact Or.inl hlower
      · exact absurd hupper' hupper
      · exact Or.inr hrest
    have hchar : sanitizeChar c = c := if_pos (hother.imp_right fun hrest => hrest.imp_right Or.inr)
    refine ⟨by rw [hchar, to_ascii_lowercase, if_neg hupper], ?_⟩
    rw [hchar]
    rintro rfl
    revert h
    decide

/-- Any other character becomes a dash. -/
theorem sanitizeChar_of_not_word {c : Char} (h : isWordChar c = false) : sanitizeChar c = '-' := by
  have hnot := of_decide_eq_false h
  simp only [not_or] at hnot
  obtain ⟨hlower, hupper, hdigit, hunderscore⟩ := hnot
  by_cases hdash : c = '-'
  · subst hdash
    rfl
  · rw [sanitizeChar, if_neg (by simp [hlower, hdigit, hunderscore, hdash]), if_neg hupper]

/-- The dashes of the sanitized text stand where no word does. -/
theorem splitOn_map_sanitizeChar (cs : List Char) :
    (cs.map sanitizeChar).splitOn '-' = (cs.splitOnP fun c => !isWordChar c).map (List.map to_ascii_lowercase) := by
  induction cs with
  | nil => rfl
  | cons c rest ih =>
    rw [List.map_cons, List.splitOn_cons_eq_if_modifyHead, List.splitOnP_cons_eq_if_modifyHead, ih]
    cases hword : isWordChar c with
    | true =>
      obtain ⟨hchar, hdash⟩ := sanitizeChar_of_word hword
      rw [if_neg (by simpa using hdash), hchar]
      cases rest.splitOnP fun c => !isWordChar c <;> rfl
    | false =>
      rw [sanitizeChar_of_not_word hword]
      rfl

theorem pieces_sanitized (cs : List Char) :
    pieces (cs.map sanitizeChar) =
      ((cs.splitOnP fun c => !isWordChar c).filter (!·.isEmpty)).map (List.map to_ascii_lowercase) := by
  rw [pieces, splitOn_map_sanitizeChar, List.filter_map]
  congr 2
  funext run
  simp

/-- An identifier has the words of the name it is made of. -/
theorem sanitize_id_eq_join (name : String) : sanitize_id name = joinWords (nameWords name) := by
  have hpieces : pieces (trimMatches (· == '-') (collapsed name)) = pieces (name.toList.map sanitizeChar) := by
    rw [pieces_trimMatches, collapsed, pieces_collapseLoop]
  rw [pieces_sanitized] at hpieces
  by_cases hnone : trimMatches (· == '-') (collapsed name) = []
  · rw [hnone, pieces_nil, eq_comm, List.map_eq_nil_iff] at hpieces
    rw [sanitize_id_eq, if_pos hnone, nameWords, if_pos hpieces]
    rfl
  · have hnormal := normalForm_sanitize_id name
    rw [sanitize_id_eq, if_neg hnone] at hnormal ⊢
    have hjoin := hnormal.eq_join
    rw [String.toList_ofList, hpieces] at hjoin
    have hruns : (name.toList.splitOnP fun c => !isWordChar c).filter (!·.isEmpty) ≠ [] := by
      intro hruns
      rw [hruns] at hjoin
      exact hnormal.nonempty hjoin
    rw [nameWords, if_neg hruns]
    exact hjoin

theorem nameWords_ne_nil (name : String) : nameWords name ≠ [] := by
  rw [nameWords]
  split
  · simp
  · rename_i hruns
    simpa using hruns

theorem dash_notMem_nameWords {name : String} {word : List Char} (h : word ∈ nameWords name) : '-' ∉ word := by
  rw [nameWords] at h
  split at h
  · rw [List.mem_singleton.mp h]
    decide
  · rw [← pieces_sanitized] at h
    exact dash_notMem_of_splitOn (List.mem_of_mem_filter h)

theorem intercalate_append {A : Type} (sep : List A) {xs ys : List (List A)} (hxs : xs ≠ []) (hys : ys ≠ []) :
    List.intercalate sep (xs ++ ys) = List.intercalate sep xs ++ sep ++ List.intercalate sep ys := by
  induction xs with
  | nil => exact absurd rfl hxs
  | cons x rest ih =>
    cases rest with
    | nil =>
      obtain ⟨y, others, rfl⟩ := List.exists_cons_of_ne_nil hys
      simp [List.intercalate_cons_cons]
    | cons next rest =>
      have hrest := ih (List.cons_ne_nil _ _)
      rw [List.cons_append, List.cons_append, List.intercalate_cons_cons, ← List.cons_append, hrest,
        List.intercalate_cons_cons]
      simp only [List.append_assoc]

theorem joinWords_append {words other : List (List Char)} (hwords : words ≠ []) (hother : other ≠ []) :
    joinWords (words ++ other) = joinWords words ++ "-" ++ joinWords other := by
  rw [joinWords, intercalate_append ['-'] hwords hother, String.ofList_append, String.ofList_append]
  rfl

theorem joinWords_inj {words other : List (List Char)} (hwords : words ≠ []) (hother : other ≠ [])
    (hclean : ∀ word ∈ words, '-' ∉ word) (hclean' : ∀ word ∈ other, '-' ∉ word) :
    joinWords words = joinWords other ↔ words = other := by
  refine ⟨fun h => ?_, fun h => h ▸ rfl⟩
  have hlists := congrArg (List.splitOn '-') (String.ofList_injective h)
  rwa [List.splitOn_intercalate '-' hclean hwords, List.splitOn_intercalate '-' hclean' hother] at hlists

end Names

end tedge.topic
