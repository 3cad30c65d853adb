import Mathlib.Logic.Function.Basic
import NplgMcp.Library.Run
import NplgMcp.Search.Repository

/-!
# Concurrent searches

Any number of calls of `search` of `repository.py` over one repository. Between two awaits a search
runs undisturbed, so that an action is what a search does from the end of one await to the next: it
waits for `_search_version_lock`, for the discovery of a search version while it holds the lock, and
for the page of results. At each of them it may be cancelled or miss its deadline, and who gets the
lock is anyone who waits for it. `search_version_refresh` says what holds of the version in every
run, and `searches_alone` that a search which runs undisturbed is `fetchResults`.
-/

open Library

namespace NplgMcp

/-! ## The model -/

/-- What the requests of a search depend on. -/
structure SearchArguments where
  normalizedQuery : String
  scope : Option String
  pageSize : ℕ
  offset : ℕ

/-- What a search has to show for its requests: the URL of the results, and what was got from it. -/
abbrev Fetched := Except Raised (String × HtmlPage × String)

/-- Where a search is, with the requests it has made. Before and during a discovery it has the
generation that it reported as stale; a cancelled search ends without an outcome. -/
inductive SearchPhase where
  | idle
  | waiting (stale : Option ℕ) (requests : ℕ)
  | discovering (stale : Option ℕ) (requests : ℕ)
  | requesting (marker : String) (generation : ℕ) (mayRefresh : Bool) (requests : ℕ)
  | ended (outcome : Option Fetched)

/-- What has happened: `_get_search_version` was called, a discovery replaced a generation,
`_get_search_version` returned a generation, and a page of results was requested. -/
inductive SearchEvent where
  | versionAsked (search : ℕ) (stale : Option ℕ)
  | discovered (search : ℕ) (stale : Option ℕ) (replaced : ℕ)
  | versionReturned (search : ℕ) (stale : Option ℕ) (generation : ℕ)
  | resultsRequested (search : ℕ)
  deriving DecidableEq, Repr

/-- The repository's search version, the search that holds `_search_version_lock`, where each search
is, and what has happened, the last first. -/
structure SearchService where
  version : SearchVersion := {}
  holder : Option ℕ := none
  searches : ℕ → SearchPhase := fun _ => .idle
  log : List SearchEvent := []

/-- A search is called, gets the lock, has the answer to its discovery or to its request for results
in a situation of the upstream, or is cancelled. -/
inductive SearchAction where
  | start (search : ℕ)
  | enter (search : ℕ)
  | discover (search : ℕ) (situation : Situation)
  | answer (search : ℕ) (situation : Situation)
  | interrupt (search : ℕ)

namespace SearchService

variable (service : SearchService)

/-- The service with a search in another phase. -/
def setPhase (search : ℕ) (phase : SearchPhase) : SearchService :=
  { service with searches := Function.update service.searches search phase }

/-- `_get_search_version` is called. -/
def ask (search : ℕ) (stale : Option ℕ) (requests : ℕ) : SearchService :=
  { service.setPhase search (.waiting stale requests) with
    log := .versionAsked search stale :: service.log }

/-- `_get_search_version` returns the version, and the results are requested: a search that has
reported a generation as stale reports no other. -/
def proceed (search : ℕ) (stale : Option ℕ) (marker : String) (requests : ℕ) : SearchService :=
  { service.setPhase search
      (.requesting marker service.version.generation stale.isNone requests) with
    log := .resultsRequested search ::
      .versionReturned search stale service.version.generation :: service.log }

/-- The lock is got: what is known is used unless it is stale. -/
def enter (search : ℕ) (stale : Option ℕ) (requests : ℕ) : SearchService :=
  let hold : SearchService :=
    { service.setPhase search (.discovering stale requests) with holder := some search }
  match service.version.marker with
  | none => hold
  | some marker =>
    if stale = none ∨ stale ≠ some service.version.generation then
      service.proceed search stale marker requests
    else hold

/-- The discovery has found a marker. -/
def found (search : ℕ) (stale : Option ℕ) (marker : String) (requests : ℕ) : SearchService :=
  { service with
      version := ⟨some marker, service.version.generation + 1⟩
      holder := none
      log := .discovered search stale service.version.generation :: service.log
    : SearchService }.proceed search stale marker requests

/-- The search ends, and has the lock no more. -/
def finish (search : ℕ) (outcome : Option Fetched) : SearchService :=
  { service.setPhase search (.ended outcome) with
    holder := if service.holder = some search then none else service.holder }

variable (r : NplgRepository) (arguments : ℕ → SearchArguments)

/-- The URL of the results a search asks for. -/
def request (search : ℕ) (marker : String) : String :=
  r.py.requestUrl (NplgRepository.searchBase (arguments search).scope)
    (NplgRepository.searchParams (arguments search).normalizedQuery (arguments search).pageSize
      (arguments search).offset marker)

/-- The results have been answered: where they are missing, the version is reported as stale once. -/
def answered (search : ℕ) (marker : String) (generation : ℕ) (mayRefresh : Bool) :
    Except Raised (HtmlPage × String) × ℕ → SearchService
  | (.ok fetched, _) =>
    service.finish search (some (.ok (request r arguments search marker, fetched)))
  | (.error raised, requests) =>
    if NplgRepository.isNotFound raised && mayRefresh then
      service.ask search (some generation) requests
    else service.finish search (some (.error raised))

/-- What an action does; it does nothing where the search waits for something else. -/
def step (service : SearchService) : SearchAction → SearchService
  | .start search =>
    match service.searches search with
    | .idle => service.ask search none 0
    | _ => service
  | .enter search =>
    match service.searches search, service.holder with
    | .waiting stale requests, none => service.enter search stale requests
    | _, _ => service
  | .discover search situation =>
    match service.searches search with
    | .discovering stale requests =>
      match r.discoverSearchVersion situation requests with
      | (.ok marker, requests) => service.found search stale marker requests
      | (.error raised, _) => service.finish search (some (.error raised))
    | _ => service
  | .answer search situation =>
    match service.searches search with
    | .requesting marker generation mayRefresh requests =>
      service.answered r arguments search marker generation mayRefresh
        (r.getText situation requests (request r arguments search marker))
    | _ => service
  | .interrupt search =>
    match service.searches search with
    | .idle => service
    | .ended _ => service
    | _ => service.finish search none

/-- The action is the end of a discovery that has found a marker. -/
def discovers : SearchAction → Bool
  | .discover search situation =>
    match service.searches search with
    | .discovering _ requests => (r.discoverSearchVersion situation requests).1.isOk
    | _ => false
  | _ => false

/-- How many discoveries have found a marker. -/
def discoveries (log : List SearchEvent) : ℕ :=
  log.countP fun
    | .discovered _ _ _ => true
    | _ => false

/-- How many discoveries the reports of a generation as stale have led to. -/
def rediscoveries (generation : ℕ) (log : List SearchEvent) : ℕ :=
  log.countP fun
    | .discovered _ stale _ => stale == some generation
    | _ => false

/-- How many generations a search has reported as stale. -/
def refreshes (search : ℕ) (log : List SearchEvent) : ℕ :=
  log.countP fun
    | .versionAsked asking stale => asking == search && stale.isSome
    | _ => false

/-- How many pages of results a search has requested. -/
def resultRequests (search : ℕ) (log : List SearchEvent) : ℕ :=
  log.countP fun
    | .resultsRequested asking => asking == search
    | _ => false

/-! ## What a step does -/

/-- The steps of the service. -/
inductive SearchStep (service : SearchService) : SearchService → Prop where
  | stay : SearchStep service service
  | call {search : ℕ} (hphase : service.searches search = .idle) :
      SearchStep service (service.ask search none 0)
  | reuse {search : ℕ} {stale : Option ℕ} {marker : String} {requests : ℕ}
      (hphase : service.searches search = .waiting stale requests)
      (hmarker : service.version.marker = some marker)
      (hfresh : stale ≠ some service.version.generation) :
      SearchStep service (service.proceed search stale marker requests)
  | hold {search : ℕ} {stale : Option ℕ} {requests : ℕ}
      (hphase : service.searches search = .waiting stale requests) (hholder : service.holder = none)
      (hstale : service.version.marker = none ∨ stale = some service.version.generation) :
      SearchStep service
        { service.setPhase search (.discovering stale requests) with holder := some search }
  | found {search : ℕ} {stale : Option ℕ} {before requests : ℕ} {marker : String}
      (hphase : service.searches search = .discovering stale before) :
      SearchStep service (service.found search stale marker requests)
  | report {search : ℕ} {marker : String} {generation before requests : ℕ}
      (hphase : service.searches search = .requesting marker generation true before) :
      SearchStep service (service.ask search (some generation) requests)
  | finish {search : ℕ} {outcome : Option Fetched} :
      SearchStep service (service.finish search outcome)

variable {service r arguments}

/-- The lock is got for what is known, or for a discovery. -/
theorem enter_cases {search : ℕ} {stale : Option ℕ} {requests : ℕ}
    (hphase : service.searches search = .waiting stale requests) (hholder : service.holder = none) :
    SearchStep service (service.enter search stale requests) := by
  unfold enter
  cases hmarker : service.version.marker with
  | none => exact .hold hphase hholder (.inl hmarker)
  | some marker =>
      by_cases hfresh : stale = none ∨ stale ≠ some service.version.generation
      · simp only [if_pos hfresh]
        refine .reuse hphase hmarker ?_
        rcases hfresh with rfl | hne
        · nofun
        · exact hne
      · simp only [if_neg hfresh]
        exact .hold hphase hholder (.inr (not_not.1 (not_or.1 hfresh).2))

/-- The results end the search, or have the version reported as stale. -/
theorem answered_cases {search : ℕ} {marker : String} {generation before : ℕ} {mayRefresh : Bool}
    (hphase : service.searches search = .requesting marker generation mayRefresh before)
    (fetched : Except Raised (HtmlPage × String) × ℕ) :
    SearchStep service
      (service.answered r arguments search marker generation mayRefresh fetched) := by
  obtain ⟨outcome, requests⟩ := fetched
  cases outcome with
  | ok fetched => exact .finish
  | error raised =>
      by_cases hrefresh : (NplgRepository.isNotFound raised && mayRefresh) = true
      · obtain rfl : mayRefresh = true := (Bool.and_eq_true_iff.1 hrefresh).2
        simp only [answered, if_pos hrefresh]
        exact .report hphase
      · simp only [answered, if_neg hrefresh]
        exact .finish

/-- Every action takes one of the steps. -/
theorem step_cases (action : SearchAction) :
    SearchStep service (service.step r arguments action) := by
  cases action with
  | start search =>
      cases hphase : service.searches search with
      | idle => simpa only [step, hphase] using SearchStep.call hphase
      | waiting | discovering | requesting | ended =>
          simpa only [step, hphase] using SearchStep.stay
  | enter search =>
      cases hphase : service.searches search with
      | waiting stale requests =>
          cases hholder : service.holder with
          | none => simpa only [step, hphase, hholder] using enter_cases hphase hholder
          | some holder => simpa only [step, hphase, hholder] using SearchStep.stay
      | idle | discovering | requesting | ended => simpa only [step, hphase] using SearchStep.stay
  | discover search situation =>
      cases hphase : service.searches search with
      | discovering stale requests =>
          simp only [step, hphase]
          cases hfound : r.discoverSearchVersion situation requests with
          | mk outcome requests =>
              cases outcome with
              | ok marker => exact .found hphase
              | error raised => exact .finish
      | idle | waiting | requesting | ended => simpa only [step, hphase] using SearchStep.stay
  | answer search situation =>
      cases hphase : service.searches search with
      | requesting marker generation mayRefresh requests =>
          simpa only [step, hphase] using answered_cases hphase _
      | idle | waiting | discovering | ended => simpa only [step, hphase] using SearchStep.stay
  | interrupt search =>
      cases hphase : service.searches search with
      | idle | ended => simpa only [step, hphase] using SearchStep.stay
      | waiting | discovering | requesting => simpa only [step, hphase] using SearchStep.finish

/-! ## The version -/

@[simp] theorem ask_version {search : ℕ} {stale : Option ℕ} {requests : ℕ} :
    (service.ask search stale requests).version = service.version := rfl

@[simp] theorem proceed_version {search : ℕ} {stale : Option ℕ} {marker : String} {requests : ℕ} :
    (service.proceed search stale marker requests).version = service.version := rfl

@[simp] theorem finish_version {search : ℕ} {outcome : Option Fetched} :
    (service.finish search outcome).version = service.version := rfl

@[simp] theorem enter_version {search : ℕ} {stale : Option ℕ} {requests : ℕ} :
    (service.enter search stale requests).version = service.version := by
  unfold enter
  split
  · rfl
  · split <;> rfl

@[simp] theorem answered_version {search : ℕ} {marker : String} {generation : ℕ} {mayRefresh : Bool}
    {fetched : Except Raised (HtmlPage × String) × ℕ} :
    (service.answered r arguments search marker generation mayRefresh fetched).version =
      service.version := by
  unfold answered
  split
  · rfl
  · split <;> rfl

/-- The version changes in a discovery that has found a marker, and in nothing else. -/
theorem step_version (action : SearchAction) :
    (service.discovers r action = true →
      (service.step r arguments action).version.generation = service.version.generation + 1) ∧
    (service.discovers r action = false →
      (service.step r arguments action).version = service.version) := by
  cases action with
  | start search | enter search | answer search situation | interrupt search =>
      refine ⟨nofun, fun _ => ?_⟩
      simp only [step]
      split <;> simp
  | discover search situation =>
      cases hphase : service.searches search with
      | discovering stale requests =>
          simp only [step, discovers, hphase]
          cases hfound : r.discoverSearchVersion situation requests with
          | mk outcome requests =>
              cases outcome with
              | ok marker => exact ⟨fun _ => rfl, nofun⟩
              | error raised => exact ⟨nofun, fun _ => rfl⟩
      | idle | waiting | requesting | ended => simp [step, discovers, hphase]

/-! ## What holds in every run -/

/-- The generation that a search has to do with. -/
def known : SearchPhase → Option ℕ
  | .waiting stale _ => stale
  | .discovering stale _ => stale
  | .requesting _ generation _ _ => some generation
  | _ => none

/-- How many generations a search in this phase may have reported as stale. -/
def reported : SearchPhase → ℕ
  | .waiting (some _) _ => 1
  | .discovering (some _) _ => 1
  | .requesting _ _ false _ => 1
  | .ended _ => 1
  | _ => 0

/-- How many pages of results a search in this phase may have requested. -/
def requested : SearchPhase → ℕ
  | .waiting (some _) _ => 1
  | .discovering (some _) _ => 1
  | .requesting _ _ true _ => 1
  | .requesting _ _ false _ => 2
  | .ended _ => 2
  | _ => 0

/-- What holds of the service at all times: who holds the lock discovers, what the searches know is
no newer than the version, what they discover again is the version, and the log has one discovery
for each generation and at most one for those who reported it. -/
structure Consistent (service : SearchService) : Prop where
  holder_of_discovering : ∀ {search stale requests},
    service.searches search = .discovering stale requests → service.holder = some search
  known_le : ∀ {search generation}, known (service.searches search) = some generation →
    generation ≤ service.version.generation ∧ service.version.marker ≠ none
  current : ∀ {search generation requests},
    service.searches search = .discovering (some generation) requests →
      generation = service.version.generation
  discoveries_eq : discoveries service.log = service.version.generation
  rediscoveries_le : ∀ generation, rediscoveries generation service.log ≤
    if generation < service.version.generation then 1 else 0
  returned_ne : ∀ {search generation returned},
    .versionReturned search (some generation) returned ∈ service.log → returned ≠ generation
  refreshes_le : ∀ search, refreshes search service.log ≤ reported (service.searches search)
  resultRequests_le : ∀ search,
    resultRequests search service.log ≤ requested (service.searches search)

/-- One search moves to a phase that is up to date, and whoever else has the lock keeps it. -/
theorem Consistent.move {next : SearchService} {search : ℕ} {phase : SearchPhase}
    (h : service.Consistent) (hsearches : next.searches = Function.update service.searches search phase)
    (hkeeps : ∀ other, other ≠ search → service.holder = some other →
      next.holder = some other ∧ next.version = service.version)
    (hnewer : service.version.generation ≤ next.version.generation ∧
      (service.version.marker ≠ none → next.version.marker ≠ none))
    (hdiscovering : ∀ stale requests, phase = .discovering stale requests →
      next.holder = some search ∧
        ∀ generation, stale = some generation → generation = next.version.generation)
    (hknown : ∀ generation, known phase = some generation →
      generation ≤ next.version.generation ∧ next.version.marker ≠ none)
    (hdiscoveries : discoveries next.log = next.version.generation)
    (hrediscoveries : ∀ generation, rediscoveries generation next.log ≤
      if generation < next.version.generation then 1 else 0)
    (hreturned : ∀ {search generation returned},
      .versionReturned search (some generation) returned ∈ next.log → returned ≠ generation)
    (hothers : ∀ other, other ≠ search → refreshes other next.log = refreshes other service.log ∧
      resultRequests other next.log = resultRequests other service.log)
    (hrefreshes : refreshes search next.log ≤ reported phase)
    (hrequests : resultRequests search next.log ≤ requested phase) : next.Consistent := by
  have hself : next.searches search = phase := by rw [hsearches, Function.update_self]
  have hother : ∀ {other}, other ≠ search → next.searches other = service.searches other :=
    fun hne => by rw [hsearches, Function.update_of_ne hne]
  refine ⟨?_, ?_, ?_, hdiscoveries, hrediscoveries, hreturned, ?_, ?_⟩
  · intro other stale requests hphase
    by_cases hne : other = search
    · subst hne
      exact (hdiscovering stale requests (hself ▸ hphase)).1
    · rw [hother hne] at hphase
      exact (hkeeps other hne (h.holder_of_discovering hphase)).1
  · intro other generation hphase
    by_cases hne : other = search
    · subst hne
      exact hknown generation (hself ▸ hphase)
    · rw [hother hne] at hphase
      obtain ⟨hle, hmarker⟩ := h.known_le hphase
      exact ⟨hle.trans hnewer.1, hnewer.2 hmarker⟩
  · intro other generation requests hphase
    by_cases hne : other = search
    · subst hne
      exact (hdiscovering _ requests (hself ▸ hphase)).2 generation rfl
    · rw [hother hne] at hphase
      rw [(hkeeps other hne (h.holder_of_discovering hphase)).2]
      exact h.current hphase
  · intro other
    by_cases hne : other = search
    · subst hne
      rwa [hself]
    · rw [hother hne, (hothers other hne).1]
      exact h.refreshes_le other
  · intro other
    by_cases hne : other = search
    · subst hne
      rwa [hself]
    · rw [hother hne, (hothers other hne).2]
      exact h.resultRequests_le other

/-- A search that ends has nothing left to be wrong about. -/
theorem Consistent.finish {search : ℕ} {outcome : Option Fetched} (h : service.Consistent) :
    (service.finish search outcome).Consistent := by
  have hrefreshes := h.refreshes_le search
  have hrequests := h.resultRequests_le search
  have hreported : reported (service.searches search) ≤ 1 := by unfold reported; split <;> omega
  have hrequested : requested (service.searches search) ≤ 2 := by unfold requested; split <;> omega
  refine h.move rfl ?_ ⟨le_rfl, id⟩ nofun nofun h.discoveries_eq h.rediscoveries_le h.returned_ne
    (fun _ _ => ⟨rfl, rfl⟩) (hrefreshes.trans hreported) (hrequests.trans hrequested)
  intro other hne hheld
  refine ⟨?_, rfl⟩
  change (if service.holder = some search then none else service.holder) = some other
  rw [hheld, if_neg fun hsame => hne (Option.some.inj hsame)]

/-- A search that asks for the version reports what it knows. -/
theorem Consistent.ask {search requests : ℕ} {stale : Option ℕ} (h : service.Consistent)
    (hknown : ∀ generation, stale = some generation →
      known (service.searches search) = some generation)
    (hreported : reported (service.searches search) = 0)
    (hrequested : requested (service.searches search) ≤ if stale.isSome then 1 else 0) :
    (service.ask search stale requests).Consistent := by
  have hrefreshes := h.refreshes_le search
  have hrequests := h.resultRequests_le search
  refine h.move rfl (fun _ _ hheld => ⟨hheld, rfl⟩) ⟨le_rfl, id⟩ nofun
    (fun generation hstale => h.known_le (hknown generation hstale)) ?_ ?_ ?_ ?_ ?_ ?_
  · exact h.discoveries_eq
  · exact h.rediscoveries_le
  · intro other generation returned hmem
    exact h.returned_ne ((List.mem_cons.1 hmem).resolve_left nofun)
  · intro other hne
    simp [SearchService.ask, refreshes, resultRequests, Ne.symm hne]
  · cases stale with
    | none =>
        have hsame : refreshes search (service.ask search none requests).log =
            refreshes search service.log := by
          simp [SearchService.ask, refreshes]
        exact hsame.trans_le (hrefreshes.trans_eq hreported)
    | some generation =>
        have hone : refreshes search (service.ask search (some generation) requests).log =
            refreshes search service.log + 1 := by
          simp [SearchService.ask, refreshes]
        exact hone.trans_le (Nat.add_le_add_right (hrefreshes.trans_eq hreported) 1)
  · have hsame : resultRequests search (service.ask search stale requests).log =
        resultRequests search service.log := by
      simp [SearchService.ask, resultRequests]
    rw [hsame]
    refine (hrequests.trans hrequested).trans ?_
    cases stale <;> simp [requested]

/-- A search that goes on with the version it has got knows it. -/
theorem Consistent.proceed {search before requests : ℕ} {stale : Option ℕ} {marker : String}
    (h : service.Consistent) (hmarker : service.version.marker ≠ none)
    (hphase : service.searches search = .waiting stale before ∨
      service.searches search = .discovering stale before)
    (hfresh : stale ≠ some service.version.generation) :
    (service.proceed search stale marker requests).Consistent := by
  have hrefreshes := h.refreshes_le search
  have hrequests := h.resultRequests_le search
  refine h.move rfl (fun _ _ hheld => ⟨hheld, rfl⟩) ⟨le_rfl, id⟩ nofun ?_ ?_ ?_ ?_ ?_ ?_ ?_
  · rintro generation hgeneration
    cases hgeneration
    exact ⟨le_rfl, hmarker⟩
  · exact h.discoveries_eq
  · exact h.rediscoveries_le
  · intro other generation returned hmem
    simp only [SearchService.proceed, List.mem_cons, reduceCtorEq, false_or,
      SearchEvent.versionReturned.injEq] at hmem
    rcases hmem with ⟨-, rfl, rfl⟩ | hmem
    · exact fun hsame => hfresh (congrArg some hsame.symm)
    · exact h.returned_ne hmem
  · intro other hne
    simp [SearchService.proceed, refreshes, resultRequests, Ne.symm hne]
  · have hsame : refreshes search (service.proceed search stale marker requests).log =
        refreshes search service.log := by
      simp [SearchService.proceed, refreshes]
    rw [hsame]
    refine hrefreshes.trans ?_
    rcases hphase with hphase | hphase <;> rw [hphase] <;> cases stale <;> simp [reported]
  · have hone : resultRequests search (service.proceed search stale marker requests).log =
        resultRequests search service.log + 1 := by
      simp [SearchService.proceed, resultRequests]
    rw [hone]
    refine (Nat.add_le_add_right hrequests 1).trans ?_
    rcases hphase with hphase | hphase <;> rw [hphase] <;> cases stale <;> simp [requested]

/-- The service with the version a search has found, which has yet to go on with it. -/
def publish (service : SearchService) (search : ℕ) (stale : Option ℕ) (before : ℕ) (marker : String) :
    SearchService :=
  { service.setPhase search (.waiting stale before) with
    version := ⟨some marker, service.version.generation + 1⟩
    holder := none
    log := .discovered search stale service.version.generation :: service.log }

/-- A discovery replaces the generation that was reported. -/
theorem Consistent.publish {search before : ℕ} {stale : Option ℕ} {marker : String}
    (h : service.Consistent) (hphase : service.searches search = .discovering stale before) :
    (service.publish search stale before marker).Consistent := by
  have hrefreshes := h.refreshes_le search
  have hrequests := h.resultRequests_le search
  rw [hphase] at hrefreshes hrequests
  refine h.move rfl ?_ ⟨Nat.le_succ _, nofun⟩ nofun ?_ ?_ ?_ ?_ (fun _ _ => ⟨rfl, rfl⟩) ?_ ?_
  · intro other hne hheld
    exact absurd (Option.some.inj (hheld.symm.trans (h.holder_of_discovering hphase))) hne
  · intro generation hstale
    have hle := (h.known_le (by rw [hphase]; exact hstale)).1
    exact ⟨hle.trans (Nat.le_succ _), nofun⟩
  · have hone : discoveries (service.publish search stale before marker).log =
        discoveries service.log + 1 := by
      simp [SearchService.publish, discoveries]
    rw [hone, h.discoveries_eq]
    rfl
  · intro generation
    have hcount : rediscoveries generation (service.publish search stale before marker).log =
        rediscoveries generation service.log + if stale = some generation then 1 else 0 := by
      simp [SearchService.publish, rediscoveries, List.countP_cons]
    have hle := h.rediscoveries_le generation
    have hcurrent : stale = some generation → generation = service.version.generation := by
      rintro rfl
      exact h.current hphase
    rw [hcount]
    change _ ≤ if generation < service.version.generation + 1 then 1 else 0
    by_cases hstale : stale = some generation
    · have heq := hcurrent hstale
      rw [if_neg (by omega)] at hle
      rw [if_pos hstale, if_pos (by omega)]
      exact Nat.add_le_add_right hle 1
    · rw [if_neg hstale, Nat.add_zero]
      refine hle.trans ?_
      split_ifs <;> omega
  · intro other generation returned hmem
    exact h.returned_ne ((List.mem_cons.1 hmem).resolve_left nofun)
  · cases stale <;> exact hrefreshes
  · cases stale <;> exact hrequests

/-- A search that has found a version goes on with it. -/
theorem Consistent.found {search before requests : ℕ} {stale : Option ℕ} {marker : String}
    (h : service.Consistent) (hphase : service.searches search = .discovering stale before) :
    (service.found search stale marker requests).Consistent := by
  have hsame : service.found search stale marker requests =
      (service.publish search stale before marker).proceed search stale marker requests := by
    simp [SearchService.found, SearchService.publish, SearchService.proceed, setPhase,
      Function.update_idem]
  rw [hsame]
  refine (h.publish hphase).proceed nofun (.inl (Function.update_self ..)) ?_
  intro hstale
  exact Nat.succ_ne_self _ (h.current (hphase.trans (congrArg (SearchPhase.discovering · before) hstale)))

/-- What every step keeps. -/
theorem Consistent.next {next : SearchService} (h : service.Consistent)
    (hstep : SearchStep service next) : next.Consistent := by
  cases hstep with
  | stay => exact h
  | call hphase =>
      exact h.ask nofun (by rw [hphase]; rfl) (by rw [hphase]; rfl)
  | reuse hphase hmarker hfresh =>
      exact h.proceed (by rw [hmarker]; nofun) (.inl hphase) hfresh
  | @hold search stale requests hphase hholder hstale =>
      have hrefreshes := h.refreshes_le search
      have hrequests := h.resultRequests_le search
      rw [hphase] at hrefreshes hrequests
      have hknown : ∀ generation, stale = some generation →
          generation ≤ service.version.generation ∧ service.version.marker ≠ none := by
        intro generation hsome
        exact h.known_le (by rw [hphase]; exact hsome)
      refine h.move rfl ?_ ⟨le_rfl, id⟩ ?_ hknown h.discoveries_eq h.rediscoveries_le h.returned_ne
        (fun _ _ => ⟨rfl, rfl⟩) ?_ ?_
      · intro other _ hheld
        rw [hholder] at hheld
        cases hheld
      · rintro _ _ hsame
        cases hsame
        refine ⟨rfl, fun generation hsome => ?_⟩
        have hcurrent := hstale.resolve_left (hknown generation hsome).2
        exact Option.some.inj (hsome.symm.trans hcurrent)
      · cases stale <;> exact hrefreshes
      · cases stale <;> exact hrequests
  | @found search stale before requests marker hphase =>
      exact h.found hphase
  | @report search marker generation before requests hphase =>
      exact h.ask (fun _ hsame => by rw [hphase, ← hsame]; rfl) (by rw [hphase]; rfl)
        (by rw [hphase]; exact le_rfl)
  | finish => exact h.finish

/-- Nothing has happened to begin with. -/
theorem consistent_initial : ({} : SearchService).Consistent where
  holder_of_discovering := nofun
  known_le := nofun
  current := nofun
  discoveries_eq := rfl
  rediscoveries_le := fun _ => Nat.zero_le _
  returned_ne := nofun
  refreshes_le := fun _ => le_rfl
  resultRequests_le := fun _ => le_rfl

/-- Every run is consistent. -/
theorem consistent_run (run : List SearchAction) :
    (run.foldl (step r arguments) {}).Consistent :=
  List.foldlRecOn run _ consistent_initial fun _ h action _ => h.next (step_cases action)

/-- **The search version.** In every run of any number of searches, an action adds one to the
generation if it is a discovery that has found a marker, and leaves the version alone if not;
whoever reports a generation as stale gets another one; the reports of a generation lead to one
discovery of it at most; and a search reports one generation and requests two pages of results at
most. -/
theorem search_version_refresh (r : NplgRepository) (arguments : ℕ → SearchArguments)
    (run : List SearchAction) :
    let service := run.foldl (step r arguments) {}
    (∀ action,
      (service.discovers r action = true →
        (service.step r arguments action).version.generation = service.version.generation + 1) ∧
      (service.discovers r action = false →
        (service.step r arguments action).version = service.version)) ∧
    service.version.generation = discoveries service.log ∧
    (∀ search generation returned,
      .versionReturned search (some generation) returned ∈ service.log → returned ≠ generation) ∧
    (∀ generation, rediscoveries generation service.log ≤ 1) ∧
    ∀ search, refreshes search service.log ≤ 1 ∧ resultRequests search service.log ≤ 2 := by
  have h : (run.foldl (step r arguments) {}).Consistent := consistent_run run
  refine ⟨step_version, h.discoveries_eq.symm, fun _ _ _ => h.returned_ne, ?_, ?_⟩
  · intro generation
    refine (h.rediscoveries_le generation).trans ?_
    split <;> omega
  · intro search
    refine ⟨(h.refreshes_le search).trans ?_, (h.resultRequests_le search).trans ?_⟩
    · unfold reported
      split <;> omega
    · unfold requested
      split <;> omega

/-! ## A search alone -/

/-- What a search does that runs undisturbed in one situation of the upstream; where it is done
earlier, the rest of the actions do nothing. -/
def alone (search : ℕ) (s : Situation) : List SearchAction :=
  [.start search, .enter search, .discover search s, .answer search s, .enter search,
    .discover search s, .answer search s]

/-- A search that has ended does nothing more. -/
theorem foldl_step_ended {search : ℕ} {outcome : Option Fetched} {s : Situation}
    (hended : service.searches search = .ended outcome) :
    service.step r arguments (.enter search) = service ∧
      service.step r arguments (.discover search s) = service ∧
      service.step r arguments (.answer search s) = service := by
  simp [step, hended]

/-- What `_get_search_version` comes to where the lock is free and nothing comes between. -/
def HasVersion (service : SearchService) (search : ℕ) (stale : Option ℕ) :
    Except Raised (String × SearchVersion) × ℕ → Prop
  | (.ok (marker, version), requests) =>
    service.searches search = .requesting marker version.generation stale.isNone requests ∧
      service.version = version ∧ service.holder = none
  | (.error raised, _) => service.searches search = .ended (some (.error raised))

/-- A discovery that nothing disturbs. -/
theorem hasVersion_discover {search requests : ℕ} {stale : Option ℕ} {s : Situation}
    (hphase : service.searches search = .discovering stale requests) :
    (service.step r arguments (.discover search s)).HasVersion search stale
      (((r.discoverSearchVersion s requests).1.map fun marker =>
        (marker, ⟨some marker, service.version.generation + 1⟩)),
        (r.discoverSearchVersion s requests).2) := by
  simp only [step, hphase]
  cases hfound : r.discoverSearchVersion s requests with
  | mk outcome requests =>
      cases outcome with
      | ok marker => exact ⟨Function.update_self .., rfl, rfl⟩
      | error raised => exact Function.update_self ..

/-- The lock is got, and the version with it or by a discovery. -/
theorem hasVersion_enter {search requests : ℕ} {stale : Option ℕ} {s : Situation}
    (hphase : service.searches search = .waiting stale requests) (hholder : service.holder = none) :
    ((service.step r arguments (.enter search)).step r arguments (.discover search s)).HasVersion
      search stale (r.getSearchVersion s service.version stale requests) := by
  have henter : service.step r arguments (.enter search) = service.enter search stale requests := by
    simp only [step, hphase, hholder]
  rw [henter, enter, NplgRepository.getSearchVersion]
  cases hmarker : service.version.marker with
  | none => exact hasVersion_discover (Function.update_self ..)
  | some marker =>
      by_cases hfresh : stale = none ∨ stale ≠ some service.version.generation
      · simp only [if_pos hfresh]
        have hself : (service.proceed search stale marker requests).searches search =
            .requesting marker service.version.generation stale.isNone requests :=
          Function.update_self ..
        have hstay : (service.proceed search stale marker requests).step r arguments
            (.discover search s) = service.proceed search stale marker requests := by
          simp only [step, hself]
        rw [hstay]
        exact ⟨hself, rfl, hholder⟩
      · simp only [if_neg hfresh]
        exact hasVersion_discover (Function.update_self ..)

/-- The last request for results ends the search. -/
theorem searches_answer {search generation requests : ℕ} {marker : String} {s : Situation}
    (hphase : service.searches search = .requesting marker generation false requests) :
    (service.step r arguments (.answer search s)).searches search =
      .ended (some ((r.getText s requests (request r arguments search marker)).1.map fun fetched =>
        (request r arguments search marker, fetched))) := by
  simp only [step, hphase]
  cases hgot : r.getText s requests (request r arguments search marker) with
  | mk outcome requests =>
      cases outcome with
      | ok fetched => exact Function.update_self ..
      | error raised =>
          simp only [answered, Bool.and_false, if_neg Bool.false_ne_true]
          exact Function.update_self ..

/-- The first request for results ends the search or is followed by another one. -/
theorem searches_results {search requests : ℕ} {marker : String} {version : SearchVersion}
    {s : Situation}
    (hphase : service.searches search = .requesting marker version.generation true requests)
    (hversion : service.version = version) (hholder : service.holder = none) :
    ([SearchAction.answer search s, .enter search, .discover search s, .answer search s].foldl
      (step r arguments) service).searches search =
      .ended (some (match r.getText s requests (request r arguments search marker) with
        | (.ok fetched, requests) =>
          ((.ok (request r arguments search marker, fetched), requests) : Fetched × ℕ)
        | (.error raised, requests) =>
          if NplgRepository.isNotFound raised then
            match r.getSearchVersion s version (some version.generation) requests with
            | (.error raised, requests) => (.error raised, requests)
            | (.ok (marker, _), requests) =>
              let (fetched, requests) := r.getText s requests (request r arguments search marker)
              (fetched.map fun fetched => (request r arguments search marker, fetched), requests)
          else (.error raised, requests)).1) := by
  subst hversion
  simp only [List.foldl_cons, List.foldl_nil]
  have hanswer : service.step r arguments (.answer search s) =
      service.answered r arguments search marker service.version.generation true
        (r.getText s requests (request r arguments search marker)) := by
    simp only [step, hphase]
  rw [hanswer]
  have hends : ∀ outcome : Option Fetched, ((((service.finish search outcome).step r arguments
      (.enter search)).step r arguments (.discover search s)).step r arguments
      (.answer search s)).searches search = .ended outcome := by
    intro outcome
    have hended : (service.finish search outcome).searches search = .ended outcome :=
      Function.update_self ..
    obtain ⟨henter, hdiscover, hanswer⟩ := @foldl_step_ended _ r arguments _ _ s hended
    rw [henter, hdiscover, hanswer, hended]
  cases hresults : r.getText s requests (request r arguments search marker) with
  | mk outcome requests =>
      cases outcome with
      | ok fetched => exact hends _
      | error raised =>
          cases hmissing : NplgRepository.isNotFound raised with
          | false => simpa only [answered, hmissing, Bool.false_and, if_neg Bool.false_ne_true]
              using hends _
          | true =>
              simp only [answered, hmissing, Bool.and_self, if_true]
              have hagain := @hasVersion_enter
                (service.ask search (some service.version.generation) requests) r arguments search
                requests (some service.version.generation) s (Function.update_self ..) hholder
              rw [ask_version] at hagain
              generalize ((service.ask search (some service.version.generation) requests).step r
                arguments (.enter search)).step r arguments (.discover search s) = second at hagain ⊢
              cases hgot : r.getSearchVersion s service.version (some service.version.generation)
                  requests with
              | mk outcome requests =>
                  rw [hgot] at hagain
                  cases outcome with
                  | error raised =>
                      rw [(@foldl_step_ended _ r arguments _ _ s hagain).2.2]
                      exact hagain
                  | ok got => exact searches_answer hagain.1

/-- A search that runs undisturbed does what `fetchResults` does. -/
theorem searches_alone {search : ℕ} {s : Situation} (hidle : service.searches search = .idle)
    (hholder : service.holder = none) (hversion : s.version = service.version) :
    ((alone search s).foldl (step r arguments) service).searches search =
      .ended (some (r.fetchResults s (arguments search).normalizedQuery (arguments search).scope
        (arguments search).pageSize (arguments search).offset).1) := by
  have hstart : service.step r arguments (.start search) = service.ask search none 0 := by
    simp only [step, hidle]
  have hfirst := @hasVersion_enter (service.ask search none 0) r arguments search 0 none s
    (Function.update_self ..) hholder
  rw [ask_version, ← hversion] at hfirst
  rw [alone, List.foldl_cons, List.foldl_cons, List.foldl_cons, hstart]
  generalize ((service.ask search none 0).step r arguments (.enter search)).step r arguments
    (.discover search s) = first at hfirst ⊢
  rw [NplgRepository.fetchResults]
  cases hgot : r.getSearchVersion s s.version none 0 with
  | mk outcome requests =>
      rw [hgot] at hfirst
      cases outcome with
      | error raised =>
          obtain ⟨henter, hdiscover, hanswer⟩ := @foldl_step_ended _ r arguments _ _ s hfirst
          simp only [List.foldl_cons, List.foldl_nil, hanswer, henter, hdiscover]
          exact hfirst
      | ok got =>
          obtain ⟨marker, version⟩ := got
          exact searches_results hfirst.1 hfirst.2.1 hfirst.2.2

end SearchService

end NplgMcp
