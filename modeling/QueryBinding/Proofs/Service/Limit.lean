import QueryBinding.Proofs.Catalog.Facet
import QueryBinding.Proofs.Query.Confinement
import QueryBinding.Proofs.Service.Handling
import QueryBinding.Proofs.Service.Passing
/-!
The limit of results. A service with a limit refuses listings that ask for more results, or for no
certain number, before it touches the engine. So whatever a middleware made of the page, a query is
only ever listed by a page within the limit. Counts have no page, and settings mean nothing to them.
-/
namespace QueryBinding

open Engine

/-! ### Pages -/

theorem Portion.length_between_le {α : Type} (xs : List α) {first max : Int} (nonneg : 0 ≤ first)
    (pos : 0 < max) : ((between xs first (first + max)).length : Int) ≤ max := by
  have start : ¬first < 0 := by omega
  have stop : ¬first + max < 0 := by omega
  simp only [between, bound, if_neg start, if_neg stop, List.length_drop, List.length_take]
  omega

namespace Page

variable {page : Page} {settings : Settings} {limit : Int}

/-- Asks for more results than the limit, or for no certain number. -/
def Exceeds (page : Page) (limit : Int) : Prop := ∀ max ∈ page.max, limit < max

theorem checkLimit_of_exceeds (limited : settings.maxResultsLimit = some limit)
    (exceeds : page.Exceeds limit) :
    page.checkLimit settings = .error (.invalidRequest (.limitExceeded limit)) := by
  unfold checkLimit
  simp only [limited]
  cases asks : page.max with
  | none => rfl
  | some max =>
    have more : limit < max := exceeds max asks
    simp only [if_pos more]

theorem exists_max_of_not_exceeds (within : ¬page.Exceeds limit) :
    ∃ max, page.max = some max ∧ 1 ≤ max ∧ max ≤ limit := by
  cases asks : page.max with
  | none => exact absurd (fun max mem => by simp [asks] at mem) within
  | some max =>
    have pos : 0 < max := page.max_pos max asks
    by_cases more : limit < max
    · refine absurd (fun other mem => ?_) within
      rw [asks] at mem
      cases mem
      exact more
    · exact ⟨max, rfl, by omega, by omega⟩

theorem checkLimit_of_not_exceeds (limited : settings.maxResultsLimit = some limit)
    (within : ¬page.Exceeds limit) : page.checkLimit settings = .ok () := by
  obtain ⟨max, asks, _, le⟩ := exists_max_of_not_exceeds within
  have notMore : ¬limit < max := by omega
  simp only [checkLimit, limited, asks, if_neg notMore]

theorem nonneg_first (page : Page) : 0 ≤ page.first.getD 0 := by
  cases starts : page.first with
  | none => exact Int.le_refl 0
  | some first => exact page.first_nonneg first starts

theorem length_resultsOn_le (within : ¬page.Exceeds limit) (e : Engine) :
    ((page.resultsOn settings e).length : Int) ≤ limit := by
  obtain ⟨max, asks, one_le, le⟩ := exists_max_of_not_exceeds within
  have paginated : page.isPaginated = true := by simp [isPaginated, asks]
  have short := Portion.length_between_le e.results page.nonneg_first (by omega : 0 < max)
  simp only [resultsOn, paginated, if_true, asks, Option.getD_some]
  omega

end Page

/-! ### Requests -/

/-- No listing but by pages, and no page of more results than the limit. -/
def Call.WithinLimit (limit : Int) (c : Call) : Prop :=
  c.name ≠ "list" ∧ (c.name = "list_page" → ∃ first max : Int,
    c.args = [.number first, .number max] ∧ 0 ≤ first ∧ 1 ≤ max ∧ max ≤ limit)

/-- Calls that are no members of the handle list nothing. -/
theorem Call.withinLimit_of_apart {limit : Int} (name : String) (args : List Datum)
    (apart : isMember name = false) : Call.WithinLimit limit ⟨name, args⟩ := by
  have member : isMember "list" = true ∧ isMember "list_page" = true := by
    decide +kernel
  constructor
  · rintro rfl
    rw [member.1] at apart
    cases apart
  · rintro rfl
    rw [member.2] at apart
    cases apart

namespace Request

variable {request : Request} {settings : Settings} {limit : Int}

/-- Is a listing whose page exceeds the limit. -/
def Exceeds (request : Request) (limit : Int) : Prop :=
  request.operation = .list ∧ request.page.Exceeds limit

theorem checkLimit_of_exceeds (limited : settings.maxResultsLimit = some limit)
    (exceeds : request.Exceeds limit) :
    request.checkLimit settings = .error (.invalidRequest (.limitExceeded limit)) := by
  rw [checkLimit, if_pos exceeds.1, Page.checkLimit_of_exceeds limited exceeds.2]

theorem checkLimit_of_not_exceeds (limited : settings.maxResultsLimit = some limit)
    (within : ¬request.Exceeds limit) : request.checkLimit settings = .ok () := by
  unfold checkLimit
  split
  · rename_i lists
    exact Page.checkLimit_of_not_exceeds limited fun exceeds => within ⟨lists, exceeds⟩
  · rfl

theorem withinLimit_terminalCall (within : ¬request.Exceeds limit) :
    (request.terminalCall settings).WithinLimit limit := by
  unfold terminalCall
  cases lists : request.operation with
  | count => simp [Call.WithinLimit]
  | list =>
    obtain ⟨max, asks, one_le, le⟩ :=
      Page.exists_max_of_not_exceeds fun exceeds => within ⟨lists, exceeds⟩
    simp only [asks, reduceCtorEq, and_false, if_false, Option.getD_some]
    exact ⟨by simp, fun _ => ⟨_, _, rfl, request.page.nonneg_first, one_le, le⟩⟩

theorem outcomeOn_eq_results {e : Engine} {listed : List Datum}
    (gives : request.outcomeOn settings e = .ok (.results listed)) :
    request.operation = .list ∧ listed = request.page.resultsOn settings e := by
  unfold outcomeOn at gives
  cases lists : request.operation with
  | count =>
    simp only [lists] at gives
    obtain ⟨total, _, same⟩ := map_eq_ok.1 gives
    cases same
  | list =>
    simp only [lists] at gives
    cases gives
    exact ⟨rfl, rfl⟩

end Request

/-! ### Services -/

namespace Service

variable {ρ : Type} {service : Service ρ} {request : Request} {limit : Int} {w : World}

/-- What fails before there is a handle is not reported as a plain invalid request. -/
theorem kind_reported_ne {kinds : List FailureKind} {type : QueryType} {failure : Failure}
    (early : failure.IsUsage ∨ type.Unsortable failure) :
    (reported kinds failure).kind ≠ .invalidRequest := by
  unfold reported
  split
  · exact fun same => nomatch same
  · rcases early with usage | ⟨field, _, rfl⟩
    · intro same
      have other : failure.isA .invalidRequest = false := usage.isA_eq_false (by decide)
      rw [Failure.isA, same] at other
      cases other
    · exact fun same => nomatch same

/-- What a limit means for a request, whatever page it comes with. -/
structure Limited (service : Service ρ) (limit : Int) (request : Request) (w : World) : Prop where
  /-- A listing beyond the limit is refused at once. -/
  refused : request.Exceeds limit →
    runFrom (service.handle request) w = (.error (.invalidRequest (.limitExceeded limit)), w)
  /-- Before the engine has given out a handle, nothing else is a plain invalid request. -/
  only : ∀ failure, (runFrom (service.handle request) w).1 = .error failure →
    failure.kind = .invalidRequest →
    (runFrom (service.handle request) w).2.engine.created = w.engine.created →
    request.Exceeds limit
  /-- Nothing else keeps a query from its handle, if it was made and its type hides nothing. -/
  touched : ∀ type : QueryType, type.Direct → type.Makes request.query →
    (runFrom (service.handle request) w).2.engine.created = w.engine.created →
    request.Exceeds limit
  /-- Once the query is built there is at most one call, and it is within the limit. -/
  calls : (runFrom (service.handle request) w).2.engine = w.engine ∨
    ∃ calls : List Call, calls.length ≤ 1 ∧ (∀ c ∈ calls, c.WithinLimit limit) ∧
      (runFrom (service.handle request) w).2.engine =
        (runFrom request.query.build w.engine).2.recordAll calls
  results : ∀ results, (runFrom (service.handle request) w).1 = .ok (.results results) →
    (results.length : Int) ≤ limit
  counts : request.operation = .count → ∀ settings,
    { service with settings }.handle request = service.handle request

theorem conclude_eq_results {outcome : Except Failure (Outcome Datum)} {results : List ρ}
    (gives : service.conclude outcome = .ok (.results results)) :
    ∃ listed, outcome = .ok (.results listed) ∧ results.length = listed.length := by
  cases outcome with
  | error failure => cases gives
  | ok outcome =>
    cases outcome with
    | count total => cases gives
    | results listed =>
      obtain ⟨mapped, maps, same⟩ := map_eq_ok.1 gives
      cases same
      exact ⟨listed, rfl, length_of_mapM_eq_ok maps⟩

theorem runFrom_handle_of_exceeds (limited : service.settings.maxResultsLimit = some limit)
    (exceeds : request.Exceeds limit) :
    runFrom (service.handle request) w = (.error (.invalidRequest (.limitExceeded limit)), w) :=
  runFrom_handle_of_limit service (Request.checkLimit_of_exceeds limited exceeds)

section Within

variable (limited : service.settings.maxResultsLimit = some limit)
  (within : ¬request.Exceeds limit)

include limited within

theorem runFrom_handle_within :
    runFrom (service.handle request) w =
      (service.conclude (runFrom (perform service.settings request) w.engine).1,
        { w with engine := (runFrom (perform service.settings request) w.engine).2 }) :=
  runFrom_handle service (Request.checkLimit_of_not_exceeds limited within)

theorem created_handle_ne {factory : String}
    (creates : (runFrom request.query.build w.engine).2.created = w.engine.created ++ [factory]) :
    (runFrom (service.handle request) w).2.engine.created ≠ w.engine.created := by
  have performed : (runFrom (perform service.settings request) w.engine).2.created =
      w.engine.created ++ [factory] := by
    rcases runFrom_perform_cases service.settings request w.engine with ⟨_, performs⟩ | performs
    · rw [performs, creates]
    · rw [performs, recordAll_created, creates]
  rw [runFrom_handle_within limited within, performed]
  intro same
  simpa using congrArg List.length same

theorem kind_handle_ne {failure : Failure}
    (fails : (runFrom (service.handle request) w).1 = .error failure)
    (untouched : (runFrom (service.handle request) w).2.engine.created = w.engine.created) :
    failure.kind ≠ .invalidRequest := by
  rcases request.query.runFrom_build_cases w.engine with ⟨early, builds, kinds⟩ | creates
  · rw [runFrom_handle_within limited within, runFrom_perform_of_error builds] at fails
    cases fails
    exact kind_reported_ne kinds
  · exact absurd untouched (created_handle_ne limited within creates)

theorem calls_handle :
    ∃ calls : List Call, calls.length ≤ 1 ∧ (∀ c ∈ calls, c.WithinLimit limit) ∧
      (runFrom (service.handle request) w).2.engine =
        (runFrom request.query.build w.engine).2.recordAll calls := by
  rw [runFrom_handle_within limited within]
  rcases runFrom_perform_cases service.settings request w.engine with ⟨_, performs⟩ | performs
  · rw [performs]
    exact ⟨[], by simp, by simp, recordAll_nil.symm⟩
  · rw [performs]
    refine ⟨[request.terminalCall service.settings], by simp, ?_, rfl⟩
    intro c mem
    rw [List.mem_singleton.1 mem]
    exact Request.withinLimit_terminalCall within

theorem length_results_le {results : List ρ}
    (gives : (runFrom (service.handle request) w).1 = .ok (.results results)) :
    (results.length : Int) ≤ limit := by
  rw [runFrom_handle_within limited within] at gives
  obtain ⟨listed, performed, same⟩ := conclude_eq_results gives
  rcases runFrom_perform_cases service.settings request w.engine with ⟨_, performs⟩ | performs
  · rw [performs] at performed
    cases performed
  · rw [performs] at performed
    cases fails : (runFrom request.query.build w.engine).2.failure with
    | some raised =>
      rw [fails] at performed
      cases performed
    | none =>
      rw [fails] at performed
      obtain ⟨lists, rfl⟩ := Request.outcomeOn_eq_results performed
      rw [same]
      exact Page.length_resultsOn_le (fun exceeds => within ⟨lists, exceeds⟩) _

end Within

/-- Settings mean nothing to a count. -/
theorem handle_of_count (counts : request.operation = .count) (settings : Settings) :
    { service with settings }.handle request = service.handle request := by
  obtain ⟨query, operation, page⟩ := request
  cases counts
  rfl

theorem limited_handle (limited : service.settings.maxResultsLimit = some limit)
    (request : Request) (w : World) : service.Limited limit request w where
  refused := runFrom_handle_of_exceeds limited
  only := by
    intro failure fails kind untouched
    by_cases exceeds : request.Exceeds limit
    · exact exceeds
    · exact absurd kind (kind_handle_ne limited exceeds fails untouched)
  touched := by
    intro type direct made untouched
    by_cases exceeds : request.Exceeds limit
    · exact exceeds
    · obtain ⟨criteria, ordered, listed⟩ := made.exists_ordering
      cases made.type_eq
      have creates := Query.created_build direct ordered listed w.engine
      exact absurd untouched (created_handle_ne limited exceeds creates)
  calls := by
    by_cases exceeds : request.Exceeds limit
    · left
      rw [runFrom_handle_of_exceeds limited exceeds]
    · right
      exact calls_handle limited exceeds
  results := by
    intro results gives
    by_cases exceeds : request.Exceeds limit
    · rw [runFrom_handle_of_exceeds limited exceeds] at gives
      cases gives
    · exact length_results_le limited exceeds gives
  counts := handle_of_count

/-- Queries whose calls are no members of the handle add no call beyond the limit to the log. -/
theorem confined_handle_adds (limited : service.settings.maxResultsLimit = some limit)
    (request : Request) (apart : request.query.type.CallsApart) (base : List Call) :
    Confined (fun w => Adds (Call.WithinLimit limit) base w.engine) (fun _ => True)
      (service.handle request) := by
  intro w added
  refine ⟨?_, fun _ _ => trivial⟩
  rcases (limited_handle limited request w).calls with same | ⟨calls, _, bounded, same⟩
  · rw [same]
    exact added
  · have builds : Confined (Adds (Call.WithinLimit limit) base) (fun _ => True)
        request.query.build :=
      Query.confined_build_adds apart Call.withinLimit_of_apart base
    rw [same]
    exact (builds w.engine added).1.recordAll bounded

end Service
end QueryBinding
