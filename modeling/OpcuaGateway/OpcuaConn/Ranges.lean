import OpcuaGateway.OpcuaConn.Subscription

open text mapping.model

namespace opcua_conn

/-- An index without a sign that is not too long for the client library. -/
def IndexFits (index : List Char) : Prop := index.head? ≠ some '+' ∧ index.length ≤ 10

/-- Bounds that enclose more than one element. -/
def BoundsFit (low high : List Char) : Prop := ∀ m n, digits low = some m → digits high = some n → m < n

/-- At most ten dimensions, of unsigned indices of at most ten digits, and with the
bounds of each in increasing order. -/
structure RangeFits (range : String) : Prop where
  dimensions : (splitAll ',' range.toList).length ≤ 10
  indices : ∀ dim ∈ splitAll ',' range.toList, ∀ index ∈ splitAll ':' dim, IndexFits index
  bounds : ∀ dim ∈ splitAll ',' range.toList, ∀ low high, splitAll ':' dim = [low, high] → BoundsFit low high

theorem digits_plus (cs : List Char) : digits ('+' :: cs) = none := by
  have hplus : digit '+' = none := by decide
  simp [digits, hplus]

/-- What the model takes for an index, the library does as well when it fits. -/
theorem isSome_rangeIndex_iff {index : List Char} (h : isIndex index = true) :
    (rangeIndex index).isSome = true ↔ IndexFits index := by
  unfold isIndex at h
  cases index with
  | nil => simp at h
  | cons c rest =>
    by_cases hplus : c = '+'
    · subst hplus
      simp [rangeIndex, digits_plus, IndexFits]
    · rw [parse_unsigned_of_ne rest hplus] at h
      have hdigits : ((digits (c :: rest)).filter (· < 2 ^ 32)).isSome = true := by simpa using h
      unfold rangeIndex IndexFits
      by_cases hlength : (c :: rest).length ≤ 10
      · have hshort : ¬ (c :: rest = [] ∨ 10 < (c :: rest).length) := by
          rintro (hnil | hlong)
          · cases hnil
          · omega
        rw [if_neg hshort]
        exact ⟨fun _ => ⟨by simpa using hplus, hlength⟩, fun _ => hdigits⟩
      · rw [if_pos (Or.inr (by omega))]
        exact ⟨fun hsome => absurd hsome (by simp), fun hfits => absurd hfits.2 hlength⟩

theorem digits_of_rangeIndex {index : List Char} {n : Nat} (h : rangeIndex index = some n) :
    digits index = some n := by
  unfold rangeIndex at h
  split at h
  · cases h
  · exact (Option.filter_eq_some_iff.mp h).1

theorem isRangeDimension_iff {dim : List Char} (h : isDimension dim = true) :
    isRangeDimension dim = true ↔
      (∀ index ∈ splitAll ':' dim, IndexFits index) ∧
        ∀ low high, splitAll ':' dim = [low, high] → BoundsFit low high := by
  unfold isDimension at h
  unfold isRangeDimension
  split at h
  · rename_i index hsplit
    rw [hsplit]
    simp only [List.forall_mem_singleton, isSome_rangeIndex_iff h]
    exact ⟨fun hfits => ⟨hfits, fun low high heq => by cases heq⟩, fun hfits => hfits.1⟩
  · rename_i low high hsplit
    simp only [hsplit]
    simp only [Bool.and_eq_true] at h
    have hlow := isSome_rangeIndex_iff h.1
    have hhigh := isSome_rangeIndex_iff h.2
    constructor
    · intro hdim
      split at hdim
      · rename_i m n hm hn
        have hindices : IndexFits low ∧ IndexFits high :=
          ⟨hlow.mp (by rw [hm]; rfl), hhigh.mp (by rw [hn]; rfl)⟩
        refine ⟨?_, ?_⟩
        · intro index hmem
          rcases List.mem_cons.mp hmem with rfl | hmem
          · exact hindices.1
          · rw [List.mem_singleton.mp hmem]
            exact hindices.2
        · intro low' high' heq m' n' hm' hn'
          cases heq
          cases hm'.symm.trans (digits_of_rangeIndex hm)
          cases hn'.symm.trans (digits_of_rangeIndex hn)
          simpa using hdim
      · cases hdim
    · rintro ⟨hindices, hbounds⟩
      obtain ⟨m, hm⟩ := Option.isSome_iff_exists.mp (hlow.mpr (hindices low (by simp)))
      obtain ⟨n, hn⟩ := Option.isSome_iff_exists.mp (hhigh.mpr (hindices high (by simp)))
      have hlt := hbounds low high rfl m n (digits_of_rangeIndex hm) (digits_of_rangeIndex hn)
      simp [hm, hn, hlt]
  · cases h

/-- Of the ranges the model accepts, the client library reads those that fit. -/
theorem parsesAsRange_iff {range : String} (h : is_numeric_range range = true) :
    parsesAsRange range = true ↔ RangeFits range := by
  unfold is_numeric_range at h
  simp only [Bool.and_eq_true, bne_iff_ne, List.all_eq_true] at h
  obtain ⟨hne, hdims⟩ := h
  unfold parsesAsRange
  simp only [Bool.or_eq_true, Bool.and_eq_true, beq_iff_eq, decide_eq_true_eq, List.all_eq_true, hne, false_or]
  constructor
  · rintro ⟨hcount, hall⟩
    refine ⟨hcount, ?_, ?_⟩
    · intro dim hmem
      exact ((isRangeDimension_iff (hdims dim hmem)).mp (hall dim hmem)).1
    · intro dim hmem
      exact ((isRangeDimension_iff (hdims dim hmem)).mp (hall dim hmem)).2
  · rintro ⟨hcount, hindices, hbounds⟩
    refine ⟨hcount, ?_⟩
    intro dim hmem
    exact (isRangeDimension_iff (hdims dim hmem)).mpr ⟨hindices dim hmem, hbounds dim hmem⟩

/-- The range of valid parameters is one the model accepts. -/
theorem is_numeric_range_of_is_valid {parameters : SubscriptionParameters} {range : String}
    (hvalid : parameters.is_valid = true) (hrange : parameters.index_range = some range) :
    is_numeric_range range = true := by
  obtain ⟨hmap, hne⟩ := Option.filter_eq_some_iff.mp hrange
  unfold SubscriptionParameters.is_valid at hvalid
  split at hvalid
  · cases hvalid
  · split at hvalid
    · cases hvalid
    · split at hvalid
      · cases hvalid
      · rename_i hranges
        rw [hmap] at hranges
        simp only [Option.any_some, Bool.and_eq_true, bne_iff_ne, Bool.not_eq_true', not_and,
          Bool.not_eq_false] at hranges
        exact hranges (by simpa using hne)

theorem requestOf_eq_error {item : MonitoredItemSpec} {error : ConnError} (h : requestOf item = .error error) :
    ∃ range, error = .InvalidRange range := by
  unfold requestOf at h
  split at h
  · cases h
  · cases h
    exact ⟨_, rfl⟩

theorem exists_requestOf_iff {item : MonitoredItemSpec} :
    (∃ request, requestOf item = .ok request) ↔
      ∀ range, item.index_range = some range → parsesAsRange range = true := by
  unfold requestOf
  cases hrange : item.index_range with
  | none => simp
  | some range => by_cases hparses : parsesAsRange range = true <;> simp [hparses]

/-- One request is made for all the items unless the range of one does not parse. -/
theorem exists_requests_iff {items : List MonitoredItemSpec} :
    (∃ requests, List.Forall₂ (fun item request => requestOf item = .ok request) items requests) ↔
      ∀ item ∈ items, ∀ range, item.index_range = some range → parsesAsRange range = true := by
  induction items with
  | nil => simp
  | cons item rest ih =>
    rw [List.forall_mem_cons, ← ih, ← exists_requestOf_iff]
    constructor
    · rintro ⟨requests, h⟩
      cases h with
      | cons hitem hrest => exact ⟨⟨_, hitem⟩, ⟨_, hrest⟩⟩
    · rintro ⟨⟨request, hitem⟩, ⟨requests, hrest⟩⟩
      exact ⟨request :: requests, .cons hitem hrest⟩

/-- Where the service itself reports no bad range, the request fails over one exactly
when it cannot be made for all the items. -/
theorem create_monitored_items_invalid_iff {connection : Connection}
    (hservice : ∀ subscription_id requests range,
      connection.createItems subscription_id requests ≠ .error (.InvalidRange range))
    (subscription_id : Nat) (items : List MonitoredItemSpec) :
    (∀ range, create_monitored_items connection subscription_id items ≠ .error (.InvalidRange range)) ↔
      ∃ requests, List.Forall₂ (fun item request => requestOf item = .ok request) items requests := by
  unfold create_monitored_items
  by_cases hempty : items.isEmpty = true
  · rw [List.isEmpty_iff.mp hempty]
    simp
  · rw [if_neg hempty]
    cases hrequests : items.mapM requestOf with
    | error error =>
      obtain ⟨item, hmem, hitem⟩ := result.exists_of_mapM_eq_error hrequests
      obtain ⟨range, rfl⟩ := requestOf_eq_error hitem
      constructor
      · intro hnone
        exact absurd rfl (hnone range)
      · rintro ⟨requests, hall⟩
        have hok := result.mapM_eq_ok_iff.mpr hall
        rw [hrequests] at hok
        cases hok
    | ok requests =>
      refine ⟨fun _ => ⟨requests, result.mapM_eq_ok_iff.mp hrequests⟩, fun _ range herror => ?_⟩
      dsimp only at herror
      cases hcreated : connection.createItems subscription_id requests with
      | ok created =>
        rw [hcreated] at herror
        cases herror
      | error error =>
        rw [hcreated] at herror
        cases herror
        exact hservice subscription_id requests range hcreated

end opcua_conn
