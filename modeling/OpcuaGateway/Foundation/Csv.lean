import OpcuaGateway.Foundation.Text

namespace csv

/-- The characters that a field without quotes cannot hold. -/
def isSpecial (c : Char) : Bool := c == ',' || c == '"' || c == '\r' || c == '\n'

def IsPlain (field : List Char) : Prop := ∀ c ∈ field, isSpecial c = false

instance (field : List Char) : Decidable (IsPlain field) := List.decidableBAll _ field

/-- The rest of a quoted field and what follows its closing quote. -/
def readQuoted : List Char → Option (List Char × List Char)
  | [] => none
  | '"' :: '"' :: rest => (readQuoted rest).map fun parts => ('"' :: parts.1, parts.2)
  | '"' :: rest => some ([], rest)
  | c :: rest => (readQuoted rest).map fun parts => (c :: parts.1, parts.2)

/-- A field without quotes goes up to the next comma. -/
def readPlain : List Char → Option (List Char × List Char)
  | [] => some ([], [])
  | c :: rest =>
    if c = ',' then some ([], c :: rest)
    else if isSpecial c then none
    else (readPlain rest).map fun parts => (c :: parts.1, parts.2)

def readField : List Char → Option (List Char × List Char)
  | '"' :: rest => readQuoted rest
  | cs => readPlain cs

/-- The fields of a record. The first argument bounds their number. -/
def readRecord : Nat → List Char → Option (List (List Char))
  | 0, _ => none
  | n + 1, cs =>
    match readField cs with
    | some (field, []) => some [field]
    | some (field, ',' :: rest) => (readRecord n rest).map (field :: ·)
    | _ => none

/-- One line of comma separated values, in which quotes are doubled inside a quoted
field. -/
def decode (line : String) : Option (List String) :=
  (readRecord (line.length + 1) line.toList).map fun fields => fields.map String.ofList

def escape (value : List Char) : List Char := value.flatMap fun c => if c = '"' then ['"', '"'] else [c]

theorem escape_cons_quote (value : List Char) : escape ('"' :: value) = '"' :: '"' :: escape value := rfl

theorem escape_cons {c : Char} (hc : c ≠ '"') (value : List Char) : escape (c :: value) = c :: escape value := by
  rw [escape, List.flatMap_cons, if_neg hc]
  rfl

/-- The scan for the closing quote stops behind the escaped text. -/
theorem readQuoted_escape (value : List Char) {rest : List Char} (hrest : rest.head? ≠ some '"') :
    readQuoted (escape value ++ '"' :: rest) = some (value, rest) := by
  induction value with
  | nil =>
    cases rest with
    | nil => rfl
    | cons c rest =>
      have hc : c ≠ '"' := fun heq => hrest (congrArg some heq)
      simp [escape, readQuoted, hc]
  | cons c value ih =>
    by_cases hc : c = '"'
    · rw [hc, escape_cons_quote, List.cons_append, List.cons_append, readQuoted, ih]
      rfl
    · simp [escape_cons hc, readQuoted, hc, ih]

/-- Whatever a quoted field is read as, it was written escaped. -/
theorem eq_of_readQuoted {cs value rest : List Char} (h : readQuoted cs = some (value, rest)) :
    cs = escape value ++ '"' :: rest := by
  induction cs using readQuoted.induct generalizing value with
  | case1 => cases h
  | case2 tail ih =>
    rw [readQuoted, Option.map_eq_some_iff] at h
    obtain ⟨⟨inner, after⟩, hinner, heq⟩ := h
    cases heq
    rw [escape_cons_quote, ih hinner]
    rfl
  | case3 tail hquote =>
    simp only [readQuoted] at h
    cases h
    rfl
  | case4 c tail hpair hquote ih =>
    simp only [readQuoted, Option.map_eq_some_iff] at h
    obtain ⟨⟨inner, after⟩, hinner, heq⟩ := h
    cases heq
    rw [escape_cons hquote, ih hinner]
    rfl

theorem readPlain_of_isPlain {field : List Char} (hplain : IsPlain field) (rest : List Char) :
    readPlain (field ++ ',' :: rest) = some (field, ',' :: rest) := by
  induction field with
  | nil => rfl
  | cons c field ih =>
    obtain ⟨hc, hfield⟩ := List.forall_mem_cons.mp hplain
    have hcomma : c ≠ ',' := by
      rintro rfl
      exact absurd hc (by decide)
    rw [List.cons_append, readPlain, if_neg hcomma, hc, if_neg Bool.false_ne_true, ih hfield]
    rfl

theorem isPlain_of_readPlain {field rest after : List Char}
    (h : readPlain (field ++ ',' :: rest) = some (field, after)) : IsPlain field := by
  induction field with
  | nil => exact List.forall_mem_nil _
  | cons c field ih =>
    rw [List.cons_append, readPlain] at h
    by_cases hcomma : c = ','
    · rw [if_pos hcomma] at h
      cases h
    · rw [if_neg hcomma] at h
      by_cases hc : isSpecial c = true
      · rw [if_pos hc] at h
        cases h
      · rw [if_neg hc, Option.map_eq_some_iff] at h
        obtain ⟨⟨inner, tail⟩, hinner, heq⟩ := h
        cases heq
        exact List.forall_mem_cons.mpr ⟨Bool.eq_false_iff.mpr hc, ih hinner⟩

/-- A text cannot start with more quotes than it has, so none is its own escape
behind a quote. -/
theorem escape_ne_self {value rest tail : List Char} (quotes : Nat) :
    value ++ ',' :: rest ≠ List.replicate (quotes + 1) '"' ++ (escape value ++ tail) := by
  induction value generalizing quotes with
  | nil =>
    intro h
    rw [List.replicate_succ] at h
    exact absurd (List.cons.inj h).1 (by decide)
  | cons c value ih =>
    intro h
    rw [List.replicate_succ] at h
    obtain ⟨rfl, hrest⟩ := List.cons.inj h
    apply ih (quotes + 1)
    rw [List.replicate_succ', List.replicate_succ', List.append_assoc, List.append_assoc]
    simpa [escape_cons_quote] using hrest

theorem readField_of_isPlain {field : List Char} (hplain : IsPlain field) (rest : List Char) :
    readField (field ++ ',' :: rest) = some (field, ',' :: rest) := by
  have hread := readPlain_of_isPlain hplain rest
  cases field with
  | nil => exact hread
  | cons c field =>
    have hc : c ≠ '"' := by
      rintro rfl
      exact absurd (hplain '"' List.mem_cons_self) (by decide)
    rw [← hread]
    simp [readField, hc]

/-- A field that is written without quotes is read back only when it is plain. -/
theorem isPlain_of_readField {field rest after : List Char}
    (h : readField (field ++ ',' :: rest) = some (field, after)) : IsPlain field := by
  cases field with
  | nil => exact List.forall_mem_nil _
  | cons c field =>
    by_cases hc : c = '"'
    · rw [hc] at h
      exact absurd (eq_of_readQuoted h) (escape_ne_self 1)
    · apply @isPlain_of_readPlain _ rest after
      simpa [readField, hc] using h

theorem readRecord_of_readField {n : Nat} {cs field rest : List Char}
    (h : readField cs = some (field, ',' :: rest)) :
    readRecord (n + 1) cs = (readRecord n rest).map (field :: ·) := by
  rw [readRecord, h]
  rfl

/-- Only the field that is read first can be the first one of the record. -/
theorem readField_of_readRecord {n : Nat} {cs field : List Char} {fields : List (List Char)}
    (h : readRecord n cs = some (field :: fields)) : ∃ after, readField cs = some (field, after) := by
  cases n with
  | zero => cases h
  | succ n =>
    rw [readRecord] at h
    cases hread : readField cs with
    | none =>
      rw [hread] at h
      cases h
    | some parts =>
      obtain ⟨first, after⟩ := parts
      rw [hread] at h
      cases after with
      | nil =>
        cases h
        exact ⟨_, rfl⟩
      | cons c after =>
        by_cases hc : c = ','
        · subst hc
          obtain ⟨rest, -, heq⟩ := Option.map_eq_some_iff.mp h
          cases heq
          exact ⟨_, rfl⟩
        · simp [hc] at h

/-- A field without quotes in front of others is read back exactly when it is plain. -/
theorem readRecord_raw_iff {n : Nat} {field rest : List Char} {fields : List (List Char)} :
    readRecord (n + 1) (field ++ ',' :: rest) = some (field :: fields) ↔
      IsPlain field ∧ readRecord n rest = some fields := by
  constructor
  · intro h
    obtain ⟨after, hread⟩ := readField_of_readRecord h
    have hplain := isPlain_of_readField hread
    refine ⟨hplain, ?_⟩
    rw [readRecord_of_readField (readField_of_isPlain hplain rest), Option.map_eq_some_iff] at h
    obtain ⟨others, hothers, heq⟩ := h
    rw [hothers, (List.cons.inj heq).2]
  · rintro ⟨hplain, hrest⟩
    rw [readRecord_of_readField (readField_of_isPlain hplain rest), hrest]
    rfl

/-- A quoted field at the end is always read back. -/
theorem readRecord_quoted (n : Nat) (value : List Char) :
    readRecord (n + 1) ('"' :: escape value ++ ['"']) = some [value] := by
  have hread : readField ('"' :: escape value ++ ['"']) = some (value, []) :=
    readQuoted_escape value (by simp)
  rw [readRecord, hread]

/-- A quote before an escaped text stays alone. -/
theorem quote_escape_ne_escape (value other : List Char) : '"' :: escape value ≠ escape other := by
  induction value generalizing other with
  | nil =>
    cases other with
    | nil => simp [escape]
    | cons c other =>
      by_cases hc : c = '"'
      · simp [hc, escape]
      · simp [escape_cons hc, Ne.symm hc]
  | cons d value ih =>
    intro h
    cases other with
    | nil => cases h
    | cons c other =>
      by_cases hc : c = '"'
      · rw [hc, escape_cons_quote] at h
        have hrest := (List.cons.inj h).2
        by_cases hd : d = '"'
        · rw [hd, escape_cons_quote] at hrest
          exact ih other (List.cons.inj hrest).2
        · rw [escape_cons hd] at hrest
          exact hd (List.cons.inj hrest).1
      · rw [escape_cons hc] at h
        exact hc (List.cons.inj h).1.symm

/-- What follows a character that is no quote in an escaped text is escaped too. -/
theorem escaped_of_split {value before after : List Char} {c : Char} (hc : c ≠ '"')
    (h : escape value = before ++ c :: after) : ∃ rest, after = escape rest := by
  induction value generalizing before with
  | nil =>
    rw [escape, List.flatMap_nil] at h
    simp at h
  | cons d value ih =>
    by_cases hd : d = '"'
    · rw [hd, escape_cons_quote] at h
      match before, h with
      | [], h => exact absurd (List.cons.inj h).1.symm hc
      | [_], h => exact absurd (List.cons.inj (List.cons.inj h).2).1.symm hc
      | _ :: _ :: before, h => exact ih (List.cons.inj (List.cons.inj h).2).2
    · rw [escape_cons hd] at h
      cases before with
      | nil => exact ⟨value, (List.cons.inj h).2.symm⟩
      | cons first before => exact ih (List.cons.inj h).2

theorem eq_of_readPlain {cs field rest : List Char} (h : readPlain cs = some (field, rest)) :
    cs = field ++ rest ∧ IsPlain field := by
  induction cs generalizing field with
  | nil =>
    cases h
    exact ⟨rfl, List.forall_mem_nil _⟩
  | cons c cs ih =>
    rw [readPlain] at h
    by_cases hcomma : c = ','
    · rw [if_pos hcomma] at h
      cases h
      exact ⟨rfl, List.forall_mem_nil _⟩
    · rw [if_neg hcomma] at h
      by_cases hc : isSpecial c = true
      · rw [if_pos hc] at h
        cases h
      · rw [if_neg hc, Option.map_eq_some_iff] at h
        obtain ⟨⟨inner, tail⟩, hinner, heq⟩ := h
        cases heq
        obtain ⟨rfl, hplain⟩ := ih hinner
        exact ⟨rfl, List.forall_mem_cons.mpr ⟨Bool.eq_false_iff.mpr hc, hplain⟩⟩

/-- A field was written plainly or in quotes. -/
theorem readField_cases {cs field rest : List Char} (h : readField cs = some (field, rest)) :
    (cs = field ++ rest ∧ IsPlain field) ∨ cs = '"' :: escape field ++ '"' :: rest := by
  unfold readField at h
  split at h
  · rw [eq_of_readQuoted h]
    exact Or.inr rfl
  · exact Or.inl (eq_of_readPlain h)

theorem IsPlain.not_mem {field : List Char} (h : IsPlain field) {c : Char} (hc : isSpecial c = true) : c ∉ field := by
  intro hmem
  rw [h c hmem] at hc
  cases hc

/-- The end of a quoted field is no field. -/
theorem readField_escape_ne (value field : List Char) : readField (escape value ++ ['"']) ≠ some (field, []) := by
  intro h
  rcases readField_cases h with ⟨heq, hplain⟩ | heq
  · rw [List.append_nil] at heq
    have hquote : '"' ∈ field := by simp [← heq]
    exact hplain.not_mem (by decide) hquote
  · exact quote_escape_ne_escape field value (List.append_cancel_right heq).symm

/-- Something before a comma and a quoted field is not one field with them. -/
theorem readField_before_quoted_ne (start value field : List Char) :
    readField (start ++ ',' :: ('"' :: escape value ++ ['"'])) ≠ some (field, []) := by
  intro h
  rcases readField_cases h with ⟨heq, hplain⟩ | heq
  · have hcomma : ',' ∈ field := by
      rw [List.append_nil] at heq
      simp [← heq]
    exact hplain.not_mem (by decide) hcomma
  · have hsplit : '"' :: escape field = start ++ ',' :: ('"' :: escape value) := by
      refine (List.append_cancel_right (?_ : _ ++ ['"'] = _ ++ ['"'])).symm
      simpa using heq
    cases start with
    | nil => cases hsplit
    | cons first start =>
      obtain ⟨rest, hrest⟩ := escaped_of_split (by decide) (List.cons.inj hsplit).2
      exact quote_escape_ne_escape value rest hrest

/-- The one field of a record takes all of it. -/
theorem readField_of_single {n : Nat} {cs field : List Char} (h : readRecord n cs = some [field]) :
    readField cs = some (field, []) := by
  cases n with
  | zero => cases h
  | succ n =>
    rw [readRecord] at h
    split at h
    · rename_i hread
      cases h
      exact hread
    · obtain ⟨rest, hrest, heq⟩ := Option.map_eq_some_iff.mp h
      cases heq
      cases n <;> simp [readRecord] at hrest
      split at hrest <;> simp_all
    · cases h

theorem readRecord_cons {n : Nat} {cs field : List Char} {fields : List (List Char)}
    (h : readRecord (n + 1) cs = some (field :: fields)) (hmore : fields ≠ []) :
    ∃ rest, readField cs = some (field, ',' :: rest) ∧ readRecord n rest = some fields := by
  rw [readRecord] at h
  split at h
  · cases h
    exact absurd rfl hmore
  · rename_i rest hread
    obtain ⟨others, hothers, heq⟩ := Option.map_eq_some_iff.mp h
    cases heq
    exact ⟨rest, hread, hothers⟩
  · cases h

/-- What follows a comma inside a quoted field is not one field. -/
theorem readField_after_comma_ne {value before rest : List Char}
    (h : '"' :: escape value ++ ['"'] = before ++ ',' :: rest) (field : List Char) :
    readField rest ≠ some (field, []) := by
  rcases List.append_eq_append_iff.mp h with ⟨between, -, hquote⟩ | ⟨between, hinside, hrest⟩
  · match between, hquote with
    | [], hquote => exact absurd (List.cons.inj hquote).1 (by decide)
    | _ :: between, hquote => simp at hquote
  · cases between with
    | nil => exact absurd (List.cons.inj hrest).1 (by decide)
    | cons first between =>
      obtain ⟨rfl, rfl⟩ := List.cons.inj hrest
      cases before with
      | nil => exact absurd (List.cons.inj hinside).1 (by decide)
      | cons quote before =>
        obtain ⟨last, rfl⟩ := escaped_of_split (by decide) (List.cons.inj hinside).2
        exact readField_escape_ne last field

/-- Only the comma in front of the quoted field can end the text that is read first. -/
theorem eq_of_single_rest {start value written rest other : List Char}
    (h : start ++ ',' :: ('"' :: escape value ++ ['"']) = written ++ ',' :: rest)
    (hsingle : readField rest = some (other, [])) : start = written ∧ rest = '"' :: escape value ++ ['"'] := by
  rcases List.append_eq_append_iff.mp h with ⟨between, hwritten, htail⟩ | ⟨between, hstart, hrest⟩
  · cases between with
    | nil => exact ⟨by simpa using hwritten.symm, (List.cons.inj htail).2.symm⟩
    | cons first between =>
      have hinside := (List.cons.inj htail).2
      exact absurd hsingle (readField_after_comma_ne hinside other)
  · cases between with
    | nil => exact ⟨by simpa using hstart, (List.cons.inj hrest).2⟩
    | cons first between =>
      rw [(List.cons.inj hrest).2] at hsingle
      exact absurd hsingle (readField_before_quoted_ne between value other)

/-- Of a text before a quoted field, the record has the text as it is written when it
is plain, and what it quotes when it is a quoted field itself. -/
theorem readRecord_before_quoted_iff {n : Nat} {start value field other : List Char} :
    readRecord (n + 2) (start ++ ',' :: ('"' :: escape value ++ ['"'])) = some [field, other] ↔
      ((start = field ∧ IsPlain field) ∨ start = '"' :: escape field ++ ['"']) ∧ other = value := by
  constructor
  · intro h
    obtain ⟨rest, hread, hrest⟩ := readRecord_cons h (by simp)
    have hsingle := readField_of_single hrest
    have hboth {written : List Char}
        (hwritten : start ++ ',' :: ('"' :: escape value ++ ['"']) = written ++ ',' :: rest) :
        start = written ∧ other = value := by
      obtain ⟨hstart, rfl⟩ := eq_of_single_rest hwritten hsingle
      rw [readRecord_quoted] at hrest
      cases hrest
      exact ⟨hstart, rfl⟩
    rcases readField_cases hread with ⟨hwritten, hplain⟩ | hwritten
    · obtain ⟨hstart, hother⟩ := hboth hwritten
      exact ⟨Or.inl ⟨hstart, hplain⟩, hother⟩
    · obtain ⟨hstart, hother⟩ := hboth (hwritten.trans (List.append_assoc _ ['"'] _).symm)
      exact ⟨Or.inr hstart, hother⟩
  · rintro ⟨⟨rfl, hplain⟩ | rfl, rfl⟩
    · exact readRecord_raw_iff.mpr ⟨hplain, readRecord_quoted n _⟩
    · have hread : readField ('"' :: escape field ++ ['"'] ++ ',' :: ('"' :: escape other ++ ['"'])) =
          some (field, ',' :: ('"' :: escape other ++ ['"'])) := by
        rw [List.append_assoc]
        exact readQuoted_escape field (by simp)
      rw [readRecord_of_readField hread, readRecord_quoted]
      rfl

theorem decode_eq_some_iff {line : String} {fields : List String} :
    decode line = some fields ↔ readRecord (line.length + 1) line.toList = some (fields.map String.toList) := by
  rw [decode, Option.map_eq_some_iff]
  constructor
  · rintro ⟨lists, hread, rfl⟩
    rw [hread, List.map_map]
    have hid : String.toList ∘ String.ofList = id := funext fun cs => String.toList_ofList
    rw [hid, List.map_id]
  · exact fun hread => ⟨_, hread, by simp⟩

example : decode "502,c8y_Restart,\"says \"\"no\"\", loudly\"" = some ["502", "c8y_Restart", "says \"no\", loudly"] := by
  decide

end csv
