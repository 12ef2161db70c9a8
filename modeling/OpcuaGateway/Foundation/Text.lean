import Mathlib.Data.List.TakeWhile
import Mathlib.Data.String.Basic
import Mathlib.Tactic.Common

namespace text

/-- The code points with the Unicode property `White_Space`. -/
def is_whitespace (c : Char) : Bool :=
  let n := c.toNat
  (9 ≤ n && n ≤ 13) || n == 32 || n == 133 || n == 160 || n == 5760 ||
    (8192 ≤ n && n ≤ 8202) || n == 8232 || n == 8233 || n == 8239 || n == 8287 || n == 12288

/-- Drop the matching characters at both ends. -/
def trimMatches (p : Char → Bool) (cs : List Char) : List Char :=
  ((cs.dropWhile p).reverse.dropWhile p).reverse

def trim (s : String) : String := String.ofList (trimMatches is_whitespace s.toList)

/-- Nothing is left after trimming. -/
def isBlank (s : String) : Bool := trim s == ""

/-- Trimming takes matching characters only. -/
theorem mem_trimMatches {p : Char → Bool} {c : Char} {cs : List Char} (hmem : c ∈ cs) (hc : p c = false) :
    c ∈ trimMatches p cs := by
  have hdrop : ∀ {ds : List Char}, c ∈ ds → c ∈ ds.dropWhile p := by
    intro ds hds
    rw [← List.takeWhile_append_dropWhile (p := p) (l := ds), List.mem_append] at hds
    refine hds.resolve_left fun htake => ?_
    have hmatch := List.mem_takeWhile_imp htake
    rw [hc] at hmatch
    cases hmatch
  exact List.mem_reverse.mpr (hdrop (List.mem_reverse.mpr (hdrop hmem)))

theorem trimMatches_eq_nil_iff {p : Char → Bool} {cs : List Char} :
    trimMatches p cs = [] ↔ ∀ c ∈ cs, p c = true := by
  constructor
  · intro hnil c hmem
    by_contra hc
    have hkept := mem_trimMatches hmem (by simpa using hc)
    rw [hnil] at hkept
    cases hkept
  · intro hall
    have hdrop : cs.dropWhile p = [] := List.dropWhile_eq_nil_iff.mpr hall
    rw [trimMatches, hdrop]
    rfl

theorem trimMatches_isInfix (p : Char → Bool) (cs : List Char) : trimMatches p cs <:+: cs := by
  have hback : ((cs.dropWhile p).reverse.dropWhile p).reverse <:+: cs.dropWhile p := by
    rw [← List.reverse_infix, List.reverse_reverse]
    exact (List.dropWhile_suffix p).isInfix
  exact hback.trans (List.dropWhile_suffix p).isInfix

theorem trimMatches_getLast? {p : Char → Bool} {c : Char} {cs : List Char}
    (h : (trimMatches p cs).getLast? = some c) : p c = false := by
  rw [trimMatches, List.getLast?_reverse] at h
  have hnot := List.head?_dropWhile_not p (cs.dropWhile p).reverse
  rw [h] at hnot
  exact hnot

theorem trimMatches_head? {p : Char → Bool} {c : Char} {cs : List Char}
    (h : (trimMatches p cs).head? = some c) : p c = false := by
  have hprefix : trimMatches p cs <+: cs.dropWhile p := by
    rw [trimMatches, ← List.reverse_suffix, List.reverse_reverse]
    exact List.dropWhile_suffix p
  obtain ⟨rest, hrest⟩ := hprefix
  have hhead : (cs.dropWhile p).head? = some c := by
    rw [← hrest, List.head?_append, h, Option.some_or]
  have hnot := List.head?_dropWhile_not p cs
  rw [hhead] at hnot
  exact hnot

/-- A text with no matching character at either end stays as it is. -/
theorem trimMatches_eq_self {p : Char → Bool} {cs : List Char} (hhead : ∀ c, cs.head? = some c → p c = false)
    (hlast : ∀ c, cs.getLast? = some c → p c = false) : trimMatches p cs = cs := by
  have hkeep : ∀ {ds : List Char}, (∀ c, ds.head? = some c → p c = false) → ds.dropWhile p = ds := by
    intro ds hds
    cases ds with
    | nil => rfl
    | cons d rest => rw [List.dropWhile_cons, hds d rfl, if_neg Bool.false_ne_true]
  have hlast' : ∀ c, cs.reverse.head? = some c → p c = false := by
    intro c hc
    rw [List.head?_reverse] at hc
    exact hlast c hc
  rw [trimMatches, hkeep hhead, hkeep hlast', List.reverse_reverse]

/-- Trimming leaves nothing blank that was not blank. -/
theorem isBlank_trim {s : String} (h : isBlank s = false) : isBlank (trim s) = false := by
  have hiff : ∀ {t : String}, isBlank t = true ↔ ∀ c ∈ t.toList, is_whitespace c = true := by
    intro t
    rw [isBlank, beq_iff_eq, trim, String.ofList_eq_empty_iff, trimMatches_eq_nil_iff]
  by_contra hblank
  have hall := hiff.mp (Bool.not_eq_false _ ▸ hblank)
  refine Bool.false_ne_true (h.symm.trans (hiff.mpr fun c hmem => ?_))
  by_contra hc
  refine hc (hall c ?_)
  rw [trim, String.toList_ofList]
  exact mem_trimMatches hmem (by simpa using hc)

def to_ascii_lowercase (c : Char) : Char :=
  if 'A' ≤ c ∧ c ≤ 'Z' then Char.ofNat (c.toNat + 32) else c

def lowercase (s : String) : String := String.ofList (s.toList.map to_ascii_lowercase)

def eq_ignore_ascii_case (a b : String) : Bool := lowercase a == lowercase b

def starts_with (pre s : String) : Bool := pre.toList.isPrefixOf s.toList

def ends_with (suffix s : String) : Bool := suffix.toList.isSuffixOf s.toList

/-- The parts before and after the first occurrence of `sep`. -/
def splitOnce (sep : Char) : List Char → Option (List Char × List Char)
  | [] => none
  | c :: rest =>
    if c = sep then some ([], rest)
    else (splitOnce sep rest).map fun parts => (c :: parts.1, parts.2)

theorem splitOnce_eq_some_iff {sep : Char} {cs before after : List Char} :
    splitOnce sep cs = some (before, after) ↔ cs = before ++ sep :: after ∧ sep ∉ before := by
  induction cs generalizing before with
  | nil => simp [splitOnce]
  | cons c rest ih =>
    rw [splitOnce]
    by_cases hc : c = sep
    · subst hc
      rw [if_pos rfl]
      cases before with
      | nil => simp [eq_comm]
      | cons d before =>
        refine iff_of_false (by simp) fun h => h.2 ?_
        rw [(List.cons.inj h.1).1]
        exact List.mem_cons_self
    · rw [if_neg hc, Option.map_eq_some_iff]
      constructor
      · rintro ⟨⟨head, tail⟩, hsplit, heq⟩
        cases heq
        obtain ⟨hrest, hnot⟩ := ih.mp hsplit
        exact ⟨congrArg (c :: ·) hrest, List.not_mem_cons_of_ne_of_not_mem (Ne.symm hc) hnot⟩
      · rintro ⟨heq, hnot⟩
        cases before with
        | nil => exact absurd (List.cons.inj heq).1 hc
        | cons d before =>
          obtain ⟨rfl, hrest⟩ := List.cons.inj heq
          exact ⟨(before, after), ih.mpr ⟨hrest, fun hmem => hnot (List.mem_cons_of_mem _ hmem)⟩, rfl⟩

theorem splitOnce_eq_none_iff {sep : Char} {cs : List Char} : splitOnce sep cs = none ↔ sep ∉ cs := by
  induction cs with
  | nil => simp [splitOnce]
  | cons c rest ih =>
    rw [splitOnce]
    by_cases hc : c = sep
    · simp [hc]
    · rw [if_neg hc, Option.map_eq_none_iff, ih, List.mem_cons, not_or]
      exact ⟨fun hrest => ⟨Ne.symm hc, hrest⟩, fun h => h.2⟩

/-- A text up to its first separator determines what stands on both sides. -/
theorem append_sep_inj {sep : Char} {a b rest rest' : List Char} (ha : sep ∉ a) (hb : sep ∉ b)
    (h : a ++ sep :: rest = b ++ sep :: rest') : a = b ∧ rest = rest' := by
  have hfirst : splitOnce sep (a ++ sep :: rest) = some (a, rest) := splitOnce_eq_some_iff.mpr ⟨rfl, ha⟩
  have hsecond : splitOnce sep (b ++ sep :: rest') = some (b, rest') := splitOnce_eq_some_iff.mpr ⟨rfl, hb⟩
  rw [h, hsecond] at hfirst
  obtain ⟨hhead, htail⟩ := Prod.mk.inj (Option.some.inj hfirst)
  exact ⟨hhead.symm, htail.symm⟩

/-- A text from its last separator on, likewise. -/
theorem append_sep_inj_right {sep : Char} {a b before before' : List Char} (ha : sep ∉ a) (hb : sep ∉ b)
    (h : before ++ sep :: a = before' ++ sep :: b) : before = before' ∧ a = b := by
  have hreversed : a.reverse ++ sep :: before.reverse = b.reverse ++ sep :: before'.reverse := by
    simpa using congrArg List.reverse h
  obtain ⟨hlast, hbefore⟩ := append_sep_inj (mt List.mem_reverse.mp ha) (mt List.mem_reverse.mp hb) hreversed
  exact ⟨List.reverse_inj.mp hbefore, List.reverse_inj.mp hlast⟩

/-- The parts between all occurrences of `sep`; there is always at least one. -/
def splitAll (sep : Char) : List Char → List (List Char)
  | [] => [[]]
  | c :: rest =>
    if c = sep then [] :: splitAll sep rest
    else
      match splitAll sep rest with
      | [] => [[c]]
      | part :: parts => (c :: part) :: parts

theorem splitAll_append_sep {sep : Char} {part : List Char} (h : sep ∉ part) (rest : List Char) :
    splitAll sep (part ++ sep :: rest) = part :: splitAll sep rest := by
  induction part with
  | nil => rw [List.nil_append, splitAll, if_pos rfl]
  | cons c part ih =>
    have hc : c ≠ sep := fun heq => h (heq ▸ List.mem_cons_self)
    have hpart : sep ∉ part := fun hmem => h (List.mem_cons_of_mem _ hmem)
    rw [List.cons_append, splitAll, if_neg hc, ih hpart]

theorem splitAll_of_notMem {sep : Char} {part : List Char} (h : sep ∉ part) : splitAll sep part = [part] := by
  induction part with
  | nil => rfl
  | cons c part ih =>
    have hc : c ≠ sep := fun heq => h (heq ▸ List.mem_cons_self)
    have hpart : sep ∉ part := fun hmem => h (List.mem_cons_of_mem _ hmem)
    rw [splitAll, if_neg hc, ih hpart]

/-- Parts that were joined are found again. -/
theorem splitAll_intercalate {sep : Char} {parts : List (List Char)} (hparts : parts ≠ [])
    (h : ∀ part ∈ parts, sep ∉ part) : splitAll sep (List.intercalate [sep] parts) = parts := by
  induction parts with
  | nil => exact absurd rfl hparts
  | cons part rest ih =>
    obtain ⟨hpart, hrest⟩ := List.forall_mem_cons.mp h
    cases rest with
    | nil =>
      rw [List.intercalate_singleton]
      exact splitAll_of_notMem hpart
    | cons next rest =>
      have hjoined : List.intercalate [sep] (part :: next :: rest) =
          part ++ sep :: List.intercalate [sep] (next :: rest) := by
        rw [List.intercalate_cons_cons, List.append_assoc]
        rfl
      rw [hjoined, splitAll_append_sep hpart, ih (List.cons_ne_nil _ _) hrest]

theorem splitAll_ne_nil (sep : Char) (cs : List Char) : splitAll sep cs ≠ [] := by
  cases cs with
  | nil => simp [splitAll]
  | cons c rest =>
    rw [splitAll]
    split
    · simp
    · split <;> simp

/-- There is one part more than there are separators. -/
theorem length_splitAll (sep : Char) (cs : List Char) : (splitAll sep cs).length = cs.count sep + 1 := by
  induction cs with
  | nil => rfl
  | cons c rest ih =>
    rw [splitAll, List.count_cons]
    by_cases hc : c = sep
    · simp [hc, ih]
    · rw [if_neg hc]
      cases hrest : splitAll sep rest with
      | nil => exact absurd hrest (splitAll_ne_nil sep rest)
      | cons part parts =>
        rw [hrest] at ih
        simpa [hc] using ih

/-- The part after the last occurrence of `sep`, all of the text if there is none. -/
def afterLast (sep : Char) (s : String) : String :=
  String.ofList ((splitAll sep s.toList).getLast?.getD [])

def digit (c : Char) : Option Nat :=
  if '0' ≤ c ∧ c ≤ '9' then some (c.toNat - '0'.toNat) else none

/-- The value of a possibly empty run of decimal digits. -/
def digits (cs : List Char) : Option Nat :=
  cs.foldlM (fun n c => (digit c).map fun d => 10 * n + d) 0

/-- Decimal parsing into an unsigned integer below `bound`: one optional plus
sign and at least one digit. -/
def parse_unsigned (bound : Nat) (s : String) : Option Nat :=
  let body :=
    match s.toList with
    | '+' :: rest => rest
    | cs => cs
  if body = [] then none
  else (digits body).filter (· < bound)

theorem parse_unsigned_of_ne {c : Char} (rest : List Char) (hplus : c ≠ '+') (bound : Nat) :
    parse_unsigned bound (String.ofList (c :: rest)) = (digits (c :: rest)).filter (· < bound) := by
  simp only [parse_unsigned, String.toList_ofList]
  split
  · rename_i heq
    exact absurd (List.cons.inj heq).1 hplus
  · exact if_neg (List.cons_ne_nil c rest)

/-- The digits of a number read as that number. -/
theorem digits_toDigits (n : Nat) : digits (Nat.toDigits 10 n) = some n := by
  have hfold : ∀ (cs : List Char) (start : Nat), (∀ c ∈ cs, c.isDigit = true) →
      cs.foldlM (fun n c => (digit c).map fun d => 10 * n + d) start = some (Nat.ofDigitChars 10 cs start) := by
    intro cs
    induction cs with
    | nil => exact fun start _ => (congrArg some (Nat.ofDigitChars_nil)).symm
    | cons c rest ih =>
      intro start hall
      obtain ⟨hc, hrest⟩ := List.forall_mem_cons.mp hall
      have hdigit : digit c = some (c.toNat - '0'.toNat) := by
        rw [Char.isDigit, Bool.and_eq_true, decide_eq_true_iff, decide_eq_true_iff] at hc
        exact if_pos hc
      rw [List.foldlM_cons, hdigit, Option.map_some, Nat.ofDigitChars_cons]
      exact ih _ hrest
  have hall : ∀ c ∈ Nat.toDigits 10 n, c.isDigit = true :=
    fun c hmem => Nat.isDigit_of_mem_toDigits (by omega) (by omega) hmem
  rw [digits, hfold _ _ hall, Nat.ofDigitChars_ten_toDigits]

/-- A number below the bound is read back from its text. -/
theorem parse_unsigned_toDigits {bound n : Nat} (hn : n < bound) :
    parse_unsigned bound (String.ofList (Nat.toDigits 10 n)) = some n := by
  have hread := digits_toDigits n
  have hall : ∀ c ∈ Nat.toDigits 10 n, c.isDigit = true :=
    fun c hmem => Nat.isDigit_of_mem_toDigits (by omega) (by omega) hmem
  cases hdigits : Nat.toDigits 10 n with
  | nil => exact absurd hdigits Nat.toDigits_ne_nil
  | cons c rest =>
    rw [hdigits] at hread hall
    have hplus : c ≠ '+' := by
      rintro rfl
      exact absurd (hall '+' List.mem_cons_self) (by decide)
    rw [parse_unsigned_of_ne rest hplus, hread, Option.filter_some, if_pos (by simpa using hn)]

/-- Replace every occurrence of `needle`, scanning from the left and resuming
behind each match. The first argument bounds the number of steps. -/
def replaceFrom : Nat → List Char → List Char → List Char → List Char
  | 0, _, _, cs => cs
  | _ + 1, _, _, [] => []
  | n + 1, needle, repl, c :: rest =>
    if needle.isPrefixOf (c :: rest) && !needle.isEmpty then
      repl ++ replaceFrom n needle repl ((c :: rest).drop needle.length)
    else c :: replaceFrom n needle repl rest

def replace (needle repl s : String) : String :=
  String.ofList (replaceFrom (s.length + 1) needle.toList repl.toList s.toList)

example : trim " \tplc-1\n" = "plc-1" := by decide
example : parse_unsigned 65536 "+65535" = some 65535 ∧ parse_unsigned 65536 "65536" = none := by decide
example : replace "${value}" "7" "level ${value}/${value}" = "level 7/7" := by decide

/-- Replacing one character works on each character alone. -/
theorem replaceFrom_char {c : Char} {repl : List Char} {n : Nat} {cs : List Char} (hn : cs.length < n) :
    replaceFrom n [c] repl cs = cs.flatMap fun d => if d = c then repl else [d] := by
  induction cs generalizing n with
  | nil => cases n <;> rfl
  | cons d rest ih =>
    cases n with
    | zero => cases hn
    | succ n =>
      have hrest : rest.length < n := by simpa using hn
      have hprefix : [c].isPrefixOf (d :: rest) = (c == d) := by simp [List.isPrefixOf]
      rw [replaceFrom, hprefix, List.flatMap_cons]
      by_cases hd : d = c
      · rw [if_pos (by simp [hd]), if_pos hd]
        exact congrArg (repl ++ ·) (ih hrest)
      · rw [if_neg (by simp [Ne.symm hd]), if_neg hd, ih hrest]
        rfl

end text
