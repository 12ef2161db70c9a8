import Mathlib.Tactic.Common

namespace pages

/-- The items on one page of a listing. Pages are counted from one. -/
def page {A : Type} (size number : Nat) (items : List A) : List A := (items.drop ((number - 1) * size)).take size

/-- What reading page after page comes to: the pages that were requested, and the
result. -/
structure Polled (E S : Type) where
  requested : List Nat
  result : Except E S

section Poll

variable {E P S : Type} (request : Nat → Except E P) (absorb : Nat → P → S → S) (stops : Nat → P → Bool)

/-- Request the pages from `number` on, at most as many as the first argument says. The
first page that fails ends it with the failure, one that `stops` with what was absorbed. -/
def poll : Nat → Nat → S → Polled E S
  | 0, _, state => ⟨[], .ok state⟩
  | budget + 1, number, state =>
    match request number with
    | .error error => ⟨[number], .error error⟩
    | .ok body =>
      let state := absorb number body state
      if stops number body then ⟨[number], .ok state⟩
      else
        let rest := poll budget (number + 1) state
        ⟨number :: rest.requested, rest.result⟩

variable {request absorb stops} in
theorem result_poll_of_error {number : Nat} {error : E} (h : request number = .error error) (budget : Nat) (state : S) :
    (poll request absorb stops (budget + 1) number state).result = .error error := by
  rw [poll, h]

variable {request absorb stops} in
theorem result_poll_of_stops {number : Nat} {body : P} (h : request number = .ok body)
    (hstop : stops number body = true) (budget : Nat) (state : S) :
    (poll request absorb stops (budget + 1) number state).result = .ok (absorb number body state) := by
  simp only [poll, h, hstop, if_true]

variable {request absorb stops} in
theorem result_poll_of_more {number : Nat} {body : P} (h : request number = .ok body)
    (hmore : stops number body = false) (budget : Nat) (state : S) :
    (poll request absorb stops (budget + 1) number state).result =
      (poll request absorb stops budget (number + 1) (absorb number body state)).result := by
  simp only [poll, h, hmore, Bool.false_eq_true, if_false]

/-- The pages are requested in order, each of them once. -/
theorem requested_poll (budget number : Nat) (state : S) :
    ∃ count ≤ budget, (poll request absorb stops budget number state).requested = List.range' number count := by
  induction budget generalizing number state with
  | zero => exact ⟨0, Nat.le_refl 0, rfl⟩
  | succ budget ih =>
    rw [poll]
    split
    · exact ⟨1, by omega, rfl⟩
    · dsimp only
      split
      · exact ⟨1, by omega, rfl⟩
      · rename_i body _ _
        obtain ⟨count, hcount, hrest⟩ := ih (number + 1) (absorb number body state)
        refine ⟨count + 1, by omega, ?_⟩
        rw [hrest]
        rfl

end Poll

section Listing

variable {A B : Type} {items : List A} {size number : Nat}

/-- A page and what follows it. -/
theorem page_append_take (hpos : 1 ≤ number) (count : Nat) :
    page size number items ++ (items.drop (number * size)).take count =
      (items.drop ((number - 1) * size)).take (size + count) := by
  have hnext : number * size = (number - 1) * size + size := by
    rw [← Nat.succ_mul]
    congr 1
    omega
  rw [page, hnext, List.take_add, List.drop_drop]

/-- A page that is not full ends the listing. -/
theorem length_le_of_short (hpos : 1 ≤ number) (hshort : (page size number items).length < size) :
    items.length ≤ number * size := by
  have hnext : number * size = (number - 1) * size + size := by
    rw [← Nat.succ_mul]
    congr 1
    omega
  rw [page, List.length_take, List.length_drop] at hshort
  omega

/-- A page that is numbered no lower than the count of pages ends the listing. -/
theorem length_le_of_total {total : Nat} (hcount : items.length ≤ total * size) (hlast : total ≤ number) :
    items.length ≤ number * size :=
  Nat.le_trans hcount (Nat.mul_le_mul_right size hlast)

/-- Each page of the listing is obtained and absorbed as what its items convert to, and
a page only stops the reading when nothing is listed behind it. -/
structure Serves {E P : Type} (items : List A) (size : Nat) (convert : A → Option B) (request : Nat → Except E P)
    (absorb : Nat → P → List B → List B) (stops : Nat → P → Bool) (number : Nat) (body : P) : Prop where
  obtained : request number = .ok body
  absorbed : ∀ out, absorb number body out = out ++ (page size number items).filterMap convert
  ended : stops number body = true → items.length ≤ number * size

variable {E P : Type} {convert : A → Option B} {request : Nat → Except E P} {absorb : Nat → P → List B → List B}
  {stops : Nat → P → Bool}

/-- What is read of a listing that is served from a page on: all of it within the budget. -/
theorem result_poll
    (hserves : ∀ number, 1 ≤ number → ∃ body, Serves items size convert request absorb stops number body)
    (budget : Nat) (hpos : 1 ≤ number) (out : List B) :
    (poll request absorb stops budget number out).result =
      .ok (out ++ ((items.drop ((number - 1) * size)).take (budget * size)).filterMap convert) := by
  induction budget generalizing number out with
  | zero => simp [poll]
  | succ budget ih =>
    obtain ⟨body, hbody⟩ := hserves number hpos
    have hsplit : (items.drop ((number - 1) * size)).take ((budget + 1) * size) =
        page size number items ++ (items.drop (number * size)).take (budget * size) := by
      rw [page_append_take hpos, Nat.succ_mul, Nat.add_comm]
    rw [hsplit, List.filterMap_append, ← List.append_assoc, ← hbody.absorbed]
    cases hstop : stops number body with
    | true =>
      -- nothing is left for the pages that are not requested
      rw [result_poll_of_stops hbody.obtained hstop, List.drop_eq_nil_of_le (hbody.ended hstop)]
      simp
    | false =>
      rw [result_poll_of_more hbody.obtained hstop, ih (by omega), Nat.add_sub_cancel]

/-- A listing within the budget is read completely. -/
theorem result_poll_complete
    (hserves : ∀ number, 1 ≤ number → ∃ body, Serves items size convert request absorb stops number body)
    {budget : Nat} (hfits : items.length ≤ budget * size) :
    (poll request absorb stops budget 1 []).result = .ok (items.filterMap convert) := by
  rw [result_poll hserves budget (Nat.le_refl 1), List.nil_append, Nat.sub_self, Nat.zero_mul, List.drop_zero,
    List.take_of_length_le hfits]

end Listing

end pages
