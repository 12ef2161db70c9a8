import OpcuaGateway.Foundation.Pages
import OpcuaGateway.Gateway.DeviceTypes
import OpcuaGateway.Mapping.Decode

open transition json mapping.model mapping.source gateway.config tedge.proxy

namespace gateway.device_types

/-- Inventory page size. -/
def PAGE_SIZE : Nat := 1000

/-- Upper bound on pages fetched per poll, so a misbehaving tenant cannot spin us forever. -/
def MAX_PAGES : Nat := 50

/-- Where in one poll a request is sent. Every place is passed at most once. -/
inductive FetchPlace where
  | object (index : Nat)
  | page (page : Nat)

/-- The proxy as one poll meets it. -/
abbrev FetchResponses := FetchPlace → Endpoint

/-- Read one managed object into a device type; one that cannot be read is ignored. -/
def read_managed_object (value : Value) : Option LoadedDeviceType :=
  (ManagedObject.deserialize value).bind from_managed_object

/-- The statistics name this page as the last one. -/
def isLast (page : Nat) (body : ManagedObjectPage) : Bool :=
  (body.statistics.bind (·.total_pages)).any (· ≤ page)

def isShort (body : ManagedObjectPage) : Bool := body.managed_objects.length < PAGE_SIZE

/-- The listing ends where its statistics say. Without them it ends with the first
page that is not full. -/
def endsListing (page : Nat) (body : ManagedObjectPage) : Bool :=
  match body.statistics.bind (·.total_pages) with
  | some total => total ≤ page
  | none => isShort body

section Fetch

variable (proxy : C8yProxy) (config : Config) (responses : FetchResponses)

/-- One page of the inventory; nothing if its body cannot be read. -/
def readPage (page : Nat) : Except ProxyError (Option ManagedObjectPage) :=
  (proxy.device_types (responses (.page page)) DEVICE_TYPE_MO_TYPE DEVICE_TYPE_FRAGMENT page PAGE_SIZE).map
    ManagedObjectPage.deserialize

section Collect

variable {A : Type} (read : Value → Option A)

/-- The managed objects with these ids, the first one at place `index`. -/
def fetchObjects : Nat → List String → List A → Except ProxyError (List A)
  | _, [], out => .ok out
  | index, id :: ids, out =>
    match proxy.managed_object (responses (.object index)) id with
    | .error error => .error error
    | .ok value => fetchObjects (index + 1) ids (out ++ (read value).toList)

/-- The pages from `page` on, at most as many as the first argument says. -/
def fetchPages : Nat → Nat → List A → Except ProxyError (List A)
  | 0, _, out => .ok out
  | remaining + 1, page, out =>
    match readPage proxy responses page with
    | .error error => .error error
    -- an unreadable page stops the poll
    | .ok none => .ok out
    | .ok (some body) =>
      let out := out ++ body.managed_objects.filterMap read
      if isLast page body || isShort body then .ok out else fetchPages remaining (page + 1) out

/-- What a poll collects when each managed object is read with `read`. -/
def collect : Except ProxyError (List A) :=
  if config.proxy.device_type_ids ≠ [] then fetchObjects proxy responses read 0 config.proxy.device_type_ids []
  else fetchPages proxy responses read MAX_PAGES 1 []

end Collect

/-- Fetch device types through the thin-edge proxy. -/
def fetch : Except ProxyError (List LoadedDeviceType) := collect proxy config responses read_managed_object

/-- The bodies of the pages from `page` to the end of the listing, if each of them is
obtained and understood and there are at most as many as the first argument says. -/
def pagesToEnd : Nat → Nat → Option (List ManagedObjectPage)
  | 0, _ => none
  | remaining + 1, page =>
    match readPage proxy responses page with
    | .ok (some body) =>
      if endsListing page body then some [body] else (pagesToEnd remaining (page + 1)).map (body :: ·)
    | _ => none

/-- The managed objects with these ids, if each of them is obtained. -/
def allObjects : Nat → List String → Option (List Value)
  | _, [] => some []
  | index, id :: ids =>
    match proxy.managed_object (responses (.object index)) id with
    | .ok value => (allObjects (index + 1) ids).map (value :: ·)
    | .error _ => none

/-- The managed objects of a complete poll. -/
def complete : Option (List Value) :=
  if config.proxy.device_type_ids ≠ [] then allObjects proxy responses 0 config.proxy.device_type_ids
  else (pagesToEnd proxy responses MAX_PAGES 1).map (·.flatMap (·.managed_objects))

/-- Every page up to this one was obtained, understood and followed by another request. -/
def Followed (page : Nat) : Prop :=
  ∀ earlier, 1 ≤ earlier → earlier < page → ∃ body, readPage proxy responses earlier = .ok (some body) ∧
    isLast earlier body = false ∧ isShort body = false

/-- The poll stops at this page although the listing goes on: the page cannot be
read, is short of its own statistics or is the last one within the page limit. -/
def TruncatedAt (page : Nat) : Prop :=
  readPage proxy responses page = .ok none ∨
    ∃ body, readPage proxy responses page = .ok (some body) ∧ endsListing page body = false ∧
      (isShort body = true ∨ page = MAX_PAGES)

/-- The poll takes a part of the listing for the whole. -/
def Truncated : Prop :=
  config.proxy.device_type_ids = [] ∧
    ∃ page, 1 ≤ page ∧ page ≤ MAX_PAGES ∧ Followed proxy responses page ∧ TruncatedAt proxy responses page

end Fetch

section Lemmas

variable {proxy : C8yProxy} {config : Config} {responses : FetchResponses} {A : Type} {read : Value → Option A}

theorem stops_of_endsListing {page : Nat} {body : ManagedObjectPage} (hends : endsListing page body = true) :
    (isLast page body || isShort body) = true := by
  unfold endsListing at hends
  unfold isLast
  split at hends
  · rename_i total htotal
    simpa [htotal] using Or.inl hends
  · simpa using Or.inr hends

/-- The result says what the listing is: all that is read of it behind `out`, or that
there is none. -/
def Reports (read : Value → Option A) (out : List A) (result : Except ProxyError (List A)) : Option (List Value) → Prop
  | some values => result = .ok (out ++ values.filterMap read)
  | none => ∃ error, result = .error error

theorem Reports.toOption_eq {out : List A} {result : Except ProxyError (List A)} {listing : Option (List Value)}
    (h : Reports read out result listing) : result.toOption = listing.map (out ++ ·.filterMap read) := by
  cases listing with
  | none =>
    obtain ⟨error, herror⟩ := h
    rw [herror]
    rfl
  | some values =>
    rw [Reports] at h
    rw [h]
    rfl

theorem Reports.append {out : List A} {result : Except ProxyError (List A)} (values : List Value)
    {listing : Option (List Value)} (h : Reports read (out ++ values.filterMap read) result listing) :
    Reports read out result (listing.map (values ++ ·)) := by
  cases listing with
  | none => exact h
  | some rest =>
    rw [Reports, List.append_assoc, ← List.filterMap_append] at h
    exact h

theorem fetchObjects_reports (index : Nat) (ids : List String) (out : List A) :
    Reports read out (fetchObjects proxy responses read index ids out) (allObjects proxy responses index ids) := by
  induction ids generalizing index out with
  | nil => simp [fetchObjects, allObjects, Reports]
  | cons id ids ih =>
    rw [allObjects, fetchObjects]
    cases proxy.managed_object (responses (.object index)) id with
    | error error => exact ⟨error, rfl⟩
    | ok value =>
      have hread : [value].filterMap read = (read value).toList := by
        cases hvalue : read value <;> simp [hvalue]
      have hrest := ih (index + 1) (out ++ (read value).toList)
      refine Reports.append [value] ?_
      rw [hread]
      exact hrest

theorem isLast_of_not_ends {page : Nat} {body : ManagedObjectPage} (hends : endsListing page body = false) :
    isLast page body = false := by
  unfold endsListing at hends
  unfold isLast
  split at hends
  · rename_i total htotal
    simpa [htotal] using hends
  · rename_i hnone
    rw [hnone, Option.any_none]

theorem Followed.succ {page : Nat} (hfollowed : Followed proxy responses page) {body : ManagedObjectPage}
    (hpage : readPage proxy responses page = .ok (some body)) (hlast : isLast page body = false)
    (hshort : isShort body = false) : Followed proxy responses (page + 1) := by
  intro earlier hpos hlt
  rcases Nat.lt_succ_iff_lt_or_eq.mp hlt with hlt | rfl
  · exact hfollowed earlier hpos hlt
  · exact ⟨body, hpage, hlast, hshort⟩

/-- A poll that is not truncated from this page on reports the rest of the listing. -/
theorem fetchPages_reports {remaining page : Nat} (out : List A) (hpos : 1 ≤ page) (hne : remaining ≠ 0)
    (hlimit : page + remaining = MAX_PAGES + 1) (hfollowed : Followed proxy responses page)
    (hwhole : ∀ later, page ≤ later → later ≤ MAX_PAGES → Followed proxy responses later →
      ¬ TruncatedAt proxy responses later) :
    Reports read out (fetchPages proxy responses read remaining page out)
      ((pagesToEnd proxy responses remaining page).map (·.flatMap (·.managed_objects))) := by
  induction remaining generalizing page out with
  | zero => exact absurd rfl hne
  | succ remaining ih =>
    have hhere := hwhole page le_rfl (by omega) hfollowed
    rw [fetchPages, pagesToEnd]
    cases hpage : readPage proxy responses page with
    | error error => exact ⟨error, rfl⟩
    | ok found =>
      cases found with
      | none => exact absurd (.inl hpage) hhere
      | some body =>
        cases hends : endsListing page body with
        | true => simp [hends, stops_of_endsListing hends, Reports]
        | false =>
          -- the listing goes on, and so does the poll: it has not reached its last page
          have hshort : isShort body = false := by
            by_contra hshort
            exact hhere (.inr ⟨body, hpage, hends, .inl (by simpa using hshort)⟩)
          have hmore : remaining ≠ 0 := by
            rintro rfl
            exact hhere (.inr ⟨body, hpage, hends, .inr (by omega)⟩)
          have hlast := isLast_of_not_ends hends
          have hnext := hfollowed.succ hpage hlast hshort
          have hrest := ih (out ++ body.managed_objects.filterMap read) (by omega) hmore (by omega) hnext
            (fun later hle => hwhole later (by omega))
          have hall := hrest.append body.managed_objects
          rw [Option.map_map] at hall
          simpa [hends, hlast, hshort, Option.map_map, Function.comp_def] using hall

/-- A poll that is not truncated reports all that a complete poll obtains. -/
theorem collect_reports (hwhole : ¬ Truncated proxy config responses) :
    Reports read [] (collect proxy config responses read) (complete proxy config responses) := by
  unfold collect complete
  split
  · exact fetchObjects_reports 0 _ []
  · rename_i hids
    have hfollowed : Followed proxy responses 1 := fun earlier hpos hlt => absurd hpos (by omega)
    refine fetchPages_reports [] le_rfl (by decide) (by decide) hfollowed fun later hle hlimit hlater hcut => ?_
    exact hwhole ⟨not_not.mp hids, later, hle, hlimit, hlater, hcut⟩

/-- A truncated poll is not told from a complete one: it reports a success. -/
theorem collect_ok_of_truncated (hcut : Truncated proxy config responses) :
    ∃ fresh, collect proxy config responses read = .ok fresh := by
  obtain ⟨hids, last, hpos, hlimit, hfollowed, hlast⟩ := hcut
  have hpages : ∀ remaining page out, 1 ≤ page → page ≤ last → page + remaining = MAX_PAGES + 1 →
      ∃ fresh, fetchPages proxy responses read remaining page out = .ok fresh := by
    intro remaining
    induction remaining with
    | zero => exact fun page out _ _ _ => ⟨out, rfl⟩
    | succ remaining ih =>
      intro page out hpage hle hsum
      rw [fetchPages]
      rcases Nat.eq_or_lt_of_le hle with rfl | hlt
      · rcases hlast with hnone | ⟨body, hbody, -, hstop⟩
        · exact ⟨out, by rw [hnone]⟩
        · rw [hbody]
          rcases hstop with hshort | rfl
          · exact ⟨_, by simp [hshort]; rfl⟩
          · obtain rfl : remaining = 0 := by omega
            exact ⟨_, by simp [fetchPages]; rfl⟩
      · obtain ⟨body, hbody, hnotLast, hfull⟩ := hfollowed page hpage hlt
        rw [hbody]
        simp only [hnotLast, hfull, Bool.or_self, Bool.false_eq_true, if_false]
        exact ih (page + 1) _ (by omega) (by omega) (by omega)
  rw [collect, if_neg (not_not.mpr hids)]
  exact hpages MAX_PAGES 1 [] le_rfl hpos rfl

section Compose

variable {B : Type} (convert : A → Option B)

theorem fetchObjects_bind (index : Nat) (ids : List String) (out : List A) :
    fetchObjects proxy responses (fun value => (read value).bind convert) index ids (out.filterMap convert) =
      (fetchObjects proxy responses read index ids out).map (·.filterMap convert) := by
  induction ids generalizing index out with
  | nil => rfl
  | cons id ids ih =>
    rw [fetchObjects, fetchObjects]
    cases proxy.managed_object (responses (.object index)) id with
    | error error => rfl
    | ok value =>
      have hread : ((read value).bind convert).toList = (read value).toList.filterMap convert := by
        cases read value with
        | none => rfl
        | some a => cases hconvert : convert a <;> simp [hconvert]
      simp only [hread, ← List.filterMap_append, ih]

theorem fetchPages_bind (remaining page : Nat) (out : List A) :
    fetchPages proxy responses (fun value => (read value).bind convert) remaining page (out.filterMap convert) =
      (fetchPages proxy responses read remaining page out).map (·.filterMap convert) := by
  induction remaining generalizing page out with
  | zero => rfl
  | succ remaining ih =>
    rw [fetchPages, fetchPages]
    cases readPage proxy responses page with
    | error error => rfl
    | ok found =>
      cases found with
      | none => rfl
      | some body =>
        simp only [← List.filterMap_filterMap, ← List.filterMap_append, ih]
        split <;> rfl

/-- Converting each object when it is read or all of them at the end is the same. -/
theorem collect_bind :
    collect proxy config responses (fun value => (read value).bind convert) =
      (collect proxy config responses read).map (·.filterMap convert) := by
  unfold collect
  split
  · exact fetchObjects_bind convert 0 _ []
  · exact fetchPages_bind convert _ _ []

end Compose

end Lemmas

section Pages

variable (proxy : C8yProxy) (responses : FetchResponses) {A : Type} (read : Value → Option A)

/-- What is read of a page behind `out`. -/
def absorbPage (body : Option ManagedObjectPage) (out : List A) : List A :=
  match body with
  | none => out
  | some body => out ++ body.managed_objects.filterMap read

def stopsAt (page : Nat) : Option ManagedObjectPage → Bool
  | none => true
  | some body => isLast page body || isShort body

/-- The same reading of the pages, with the pages that it requests. -/
def pollPages (remaining page : Nat) (out : List A) : pages.Polled ProxyError (List A) :=
  pages.poll (readPage proxy responses) (fun _ => absorbPage read) stopsAt remaining page out

theorem fetchPages_eq_pollPages (remaining page : Nat) (out : List A) :
    fetchPages proxy responses read remaining page out = (pollPages proxy responses read remaining page out).result := by
  induction remaining generalizing page out with
  | zero => rfl
  | succ remaining ih =>
    rw [fetchPages, pollPages]
    cases hpage : readPage proxy responses page with
    | error error => rw [pages.result_poll_of_error hpage]
    | ok found =>
      cases found with
      | none => rw [pages.result_poll_of_stops hpage rfl, absorbPage]
      | some body =>
        dsimp only
        cases hstop : isLast page body || isShort body with
        | true => rw [if_pos rfl, pages.result_poll_of_stops hpage hstop, absorbPage]
        | false => rw [if_neg Bool.false_ne_true, pages.result_poll_of_more hpage hstop, ih, pollPages, absorbPage]

/-- Every page of a listing is answered with its objects. Its statistics, if it has
them, count no fewer pages than there are. -/
structure ServesPages (objects : List Value) : Prop where
  page : ∀ page, 1 ≤ page → ∃ statistics,
    readPage proxy responses page = .ok (some ⟨pages.page PAGE_SIZE page objects, statistics⟩) ∧
      ∀ total, statistics.bind (·.total_pages) = some total → objects.length ≤ total * PAGE_SIZE

variable {proxy responses}

theorem ServesPages.serves {objects : List Value} (h : ServesPages proxy responses objects) (number : Nat)
    (hpos : 1 ≤ number) :
    ∃ body, pages.Serves objects PAGE_SIZE read (readPage proxy responses) (fun _ => absorbPage read) stopsAt number
      body := by
  obtain ⟨statistics, hpage, htotal⟩ := h.page number hpos
  refine ⟨_, hpage, fun out => rfl, fun hstop => ?_⟩
  rcases Bool.or_eq_true_iff.mp hstop with hlast | hshort
  · obtain ⟨total, hsome, hle⟩ := (Option.any_eq_true _ _).mp hlast
    exact pages.length_le_of_total (htotal total hsome) (of_decide_eq_true hle)
  · exact pages.length_le_of_short hpos (of_decide_eq_true hshort)

end Pages

inductive PollLabel where
  /-- The poll's requests are answered with these responses. -/
  | polled (responses : FetchResponses)
  | other (label : ProviderLabel)

section Run

variable (config : Config) (decoder : Decoder) (proxy : Option C8yProxy)

/-- The outcome of the fetch as the provider meets it. -/
def outcome (responses : FetchResponses) : Option (Except ProxyError (List ManagedObject)) :=
  proxy.map fun proxy => collect proxy config responses ManagedObject.deserialize

def pollStep (state : ProviderState) : PollLabel → Option ProviderState
  | .polled responses => runStep config decoder state (.fetched (outcome config proxy responses))
  | .other (.fetched _) => none
  | .other label => runStep config decoder state label

/-- The provider with its fetch: what it fetches is what the proxy answers. -/
def polling : Machine ProviderState PollLabel where
  start := (run config decoder).start
  step := pollStep config decoder proxy

/-- The managed objects that a poll obtains if it is a complete one. -/
def completed : PollLabel → Option (List Value)
  | .polled responses => proxy.bind fun proxy => complete proxy config responses
  | .other _ => none

/-- The managed objects of the last complete poll. -/
def lastComplete (labels : List PollLabel) : List Value := (labels.reverse.findSome? (completed config proxy)).getD []

def Whole : PollLabel → Prop
  | .polled responses => ∀ p, proxy = some p → ¬ Truncated p config responses
  | .other _ => True

end Run

section Pulled

variable {config : Config} {decoder : Decoder} {proxy : Option C8yProxy}

theorem lastComplete_concat (labels : List PollLabel) (label : PollLabel) :
    lastComplete config proxy (labels ++ [label]) =
      (completed config proxy label).getD (lastComplete config proxy labels) := by
  unfold lastComplete
  rw [List.reverse_append, List.reverse_singleton, List.singleton_append, List.findSome?_cons]
  cases completed config proxy label <;> rfl

theorem pulled_of_onFetch (state : ProviderState) (outcome : Option (Except ProxyError (List ManagedObject))) :
    (onFetch config state outcome).pulled =
      ((outcome.bind (·.toOption)).map (·.filterMap from_managed_object)).getD state.pulled := by
  cases outcome with
  | none => rfl
  | some result =>
    cases result with
    | ok objects => rfl
    | error error => cases htransient : error.is_transient <;> simp [onFetch, htransient, Except.toOption]

theorem pulled_of_readNext {state next : ProviderState} (hstep : readNext decoder state = some next) :
    next.pulled = state.pulled := by
  unfold readNext at hstep
  split at hstep
  · split at hstep <;> cases hstep <;> rfl
  · cases hstep
    rfl
  · cases hstep

theorem pulled_of_compare {state next : ProviderState} {consumers : Bool}
    (hstep : compare state consumers = some next) : next.pulled = state.pulled := by
  unfold compare at hstep
  split at hstep
  · dsimp only at hstep
    split at hstep
    · cases hstep
      rfl
    · split at hstep <;> cases hstep <;> rfl
  · cases hstep

/-- Only a fetch touches the pulled set. -/
theorem pulled_of_other {state next : ProviderState} {label : ProviderLabel}
    (hstep : pollStep config decoder proxy state (.other label) = some next) : next.pulled = state.pulled := by
  cases label with
  | fetched => cases hstep
  | wrote name file =>
    obtain ⟨-, hnext⟩ := when_eq_some.mp hstep
    rw [← hnext]
  | removed name =>
    cases hstep
    rfl
  | listed names =>
    simp only [pollStep, runStep] at hstep
    split at hstep
    · obtain ⟨-, hnext⟩ := when_eq_some.mp hstep
      rw [← hnext]
    · cases hstep
  | advance => exact pulled_of_readNext hstep
  | compared consumers => exact pulled_of_compare hstep
  | slept =>
    simp only [pollStep, runStep] at hstep
    split at hstep <;> cases hstep
    rfl
  | cancelled =>
    simp only [pollStep, runStep] at hstep
    split at hstep <;> cases hstep
    rfl

/-- What a poll obtains, if it is not truncated, is a complete poll or nothing. -/
theorem toOption_collect {proxy : C8yProxy} {responses : FetchResponses}
    (hwhole : ¬ Truncated proxy config responses) :
    ((collect proxy config responses ManagedObject.deserialize).toOption).map (·.filterMap from_managed_object) =
      (complete proxy config responses).map (·.filterMap read_managed_object) := by
  have hreports : (collect proxy config responses read_managed_object).toOption = _ :=
    (collect_reports hwhole).toOption_eq
  have hread : collect proxy config responses read_managed_object =
      (collect proxy config responses ManagedObject.deserialize).map (·.filterMap from_managed_object) :=
    collect_bind from_managed_object
  rw [hread] at hreports
  simp only [List.nil_append] at hreports
  rw [← hreports]
  cases collect proxy config responses ManagedObject.deserialize <;> rfl

/-- A poll that is not truncated replaces the pulled set by that of a complete poll or
leaves it as it was. -/
theorem pulled_of_pollStep {state next : ProviderState} {label : PollLabel} (hwhole : Whole config proxy label)
    (hstep : pollStep config decoder proxy state label = some next) :
    next.pulled = ((completed config proxy label).map (·.filterMap read_managed_object)).getD state.pulled := by
  cases label with
  | other label => exact pulled_of_other hstep
  | polled responses =>
    obtain ⟨-, hnext⟩ := when_eq_some.mp hstep
    rw [← hnext, pulled_of_onFetch]
    cases hproxy : proxy with
    | none => rfl
    | some p => simp only [outcome, completed, Option.map_some, Option.bind_some, toOption_collect (hwhole p hproxy)]

end Pulled

/-- In every run whose polls are not truncated, the pulled set is that of the last
complete poll. A poll that is not complete leaves it as it was. -/
theorem pulled_from_last_complete_poll (config : Config) (decoder : Decoder) (proxy : Option C8yProxy)
    {first final : ProviderState} {labels : List PollLabel} (hstart : (polling config decoder proxy).start first)
    (hwhole : ∀ label ∈ labels, Whole config proxy label)
    (hrun : (polling config decoder proxy).exec first labels = some final) :
    final.pulled = (lastComplete config proxy labels).filterMap read_managed_object := by
  induction labels using List.reverseRecOn generalizing final with
  | nil =>
    cases hrun
    obtain ⟨-, -, -, hpulled, -⟩ := hstart
    exact hpulled
  | append_singleton labels label ih =>
    rw [Machine.exec_append, Option.bind_eq_some_iff] at hrun
    obtain ⟨state, hbefore, hlast⟩ := hrun
    obtain ⟨next, hstep, hnext⟩ := Machine.exec_cons_eq_some _ |>.mp hlast
    cases hnext
    have hpulled := ih (fun other hmem => hwhole other (List.mem_append_left _ hmem)) hbefore
    have hother := hwhole label (List.mem_append_right _ List.mem_cons_self)
    rw [pulled_of_pollStep hother hstep, lastComplete_concat, hpulled]
    cases completed config proxy label <;> rfl

/-- A provider without mapping files that has not polled yet. -/
def idle : ProviderState where
  files := .empty
  history := []
  written := false
  pulled := []
  backoff := 1
  revision := .empty
  sent := []
  phase := .fetching

/-- A poll whose pages are all answered with this body. -/
def answeredWith (body : Value) : PollLabel := .polled fun _ _ => ⟨.answered 200 (some body), .failed⟩

/-- The page with the only device type of the tenant. -/
def pumpPage : Value :=
  .object [
    ("managedObjects", .array [.object [
      ("id", .string "pump"),
      (DEVICE_TYPE_FRAGMENT, .object [("name", .string "Pump")])]]),
    ("statistics", .object [("totalPages", .number (.PosInt 1))])]

/-- A poll and the rest of the provider's turn. -/
def turn (poll : PollLabel) : List PollLabel := [poll, .other (.listed []), .other (.compared true), .other .slept]

theorem idle_start (config : Config) (decoder : Decoder) (proxy : Option C8yProxy) :
    (polling config decoder proxy).start idle :=
  ⟨List.nodup_nil, rfl, rfl, rfl, rfl, rfl, rfl, rfl⟩

/-- The set of a complete poll is pulled. -/
theorem pulled_from_pump_page :
    ∃ final, (polling .default ⟨fun _ => none, fun _ => none⟩ (some ⟨"http://127.0.0.1:8001/c8y"⟩)).exec idle
        (turn (answeredWith pumpPage)) = some final ∧
      final.pulled = (lastComplete .default (some ⟨"http://127.0.0.1:8001/c8y"⟩)
        (turn (answeredWith pumpPage))).filterMap read_managed_object ∧ final.pulled.map (·.id) = ["pump"] := by
  have hwhole : ∀ label ∈ turn (answeredWith pumpPage),
      Whole .default (some ⟨"http://127.0.0.1:8001/c8y"⟩) label := by
    intro label hmem
    simp only [turn, List.mem_cons, List.not_mem_nil, or_false] at hmem
    rcases hmem with rfl | rfl | rfl | rfl
    · rintro p - ⟨-, page, hpos, -, -, hnone | ⟨body, hbody, hends, -⟩⟩
      · cases hnone
      · cases hbody
        simp [endsListing] at hends
        omega
    all_goals trivial
  refine ⟨_, rfl, ?_, rfl⟩
  exact pulled_from_last_complete_poll .default ⟨fun _ => none, fun _ => none⟩ _ (idle_start _ _ _) hwhole rfl

/-- A page that is no listing empties the pulled set. -/
theorem pulled_lost_to_unreadable_page :
    ¬ ∀ (config : Config) (decoder : Decoder) (proxy : Option C8yProxy) (first final : ProviderState)
        (labels : List PollLabel), (polling config decoder proxy).start first →
        (polling config decoder proxy).exec first labels = some final →
        final.pulled = (lastComplete config proxy labels).filterMap read_managed_object := by
  intro hall
  let decoder : Decoder := ⟨fun _ => none, fun _ => none⟩
  let labels := turn (answeredWith pumpPage) ++ turn (answeredWith (.string "Bad Gateway"))
  obtain ⟨final, hrun, hpulled⟩ : ∃ final,
      (polling .default decoder (some ⟨"http://127.0.0.1:8001/c8y"⟩)).exec idle labels = some final ∧
        final.pulled = [] := ⟨_, rfl, rfl⟩
  have hlast := hall .default decoder (some ⟨"http://127.0.0.1:8001/c8y"⟩) idle final labels
    (idle_start _ _ _) hrun
  rw [hpulled] at hlast
  have hsome : ((lastComplete .default (some ⟨"http://127.0.0.1:8001/c8y"⟩) labels).filterMap
      read_managed_object).length = 1 := rfl
  rw [← hlast] at hsome
  cases hsome

end gateway.device_types
