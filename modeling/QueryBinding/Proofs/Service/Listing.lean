import QueryBinding.Proofs.Catalog.Facet
import QueryBinding.Proofs.Service.History
/-!
Listings and counts of the same results. On an engine that does not fail, a listing without a page
gives all results in the form of the service, pages are portions of that, successive pages give it
as a whole, and a count is its length.
-/
namespace QueryBinding

open Engine

/-! ### Portions -/

theorem Portion.between_add {α : Type} (xs : List α) (first max : Nat) :
    between xs first (first + max : Int) = (xs.drop first).take max := by
  have start : ¬(first : Int) < 0 := by omega
  have stop : ¬(first + max : Int) < 0 := by omega
  have sum : (first + max : Int).toNat = first + max := by omega
  simp only [between, bound, if_neg start, if_neg stop, sum, Int.toNat_natCast, List.drop_take]
  by_cases within : first ≤ xs.length
  · rw [Nat.min_eq_left within, List.take_eq_take_iff, List.length_drop]
    omega
  · have beyond (n : Nat) (far : xs.length ≤ n) : xs.drop n = [] := List.drop_eq_nil_of_le far
    rw [beyond first (by omega), beyond (min first xs.length) (by omega), List.take_nil,
      List.take_nil]

/-- Portions of one size, one after the other, give what they reach of a list. -/
theorem flatten_portions {α : Type} (xs : List α) (size count : Nat) :
    ((List.range count).map fun k => (xs.drop (k * size)).take size).flatten =
      xs.take (count * size) := by
  induction count with
  | zero => simp
  | succ count ih =>
    -- The last portion starts where the portions before it end.
    rw [List.range_succ, List.map_append, List.flatten_append, ih, Nat.succ_mul, List.take_add]
    simp

/-- A bound of a page as a value; null leaves its side open. -/
def Datum.ofBound (bound : Option Nat) : Datum := bound.elim .null fun n => .number n

namespace Page

variable {α : Type}

/-- What a page with the given bounds shows of a list. -/
def portion (settings : Settings) (first max : Option Nat) (xs : List α) : List α :=
  if first = none ∧ max = none then xs
  else (xs.drop (first.getD 0)).take (max.getD settings.unboundedMaxResults.toNat)

theorem portion_map {β : Type} (f : α → β) (settings : Settings) (first max : Option Nat)
    (xs : List α) :
    portion settings first max (xs.map f) = (portion settings first max xs).map f := by
  unfold portion
  split
  · rfl
  · rw [List.map_take, List.map_drop]

theorem bindBound_ofBound (name : String) (bound : IntBound) (b : Option Nat)
    (admits : ∀ n ∈ b, bound.Admits n) :
    ∃ read, bindBound name bound (.ofBound b) = .ok read ∧ read.map (·.val) = b.map Int.ofNat := by
  cases b with
  | none => exact ⟨none, rfl, rfl⟩
  | some n =>
    have holds : bound.Admits n := admits n rfl
    have reads : readBounded bound (.number n) = .ok ⟨n, holds⟩ := dif_pos holds
    have optional : readOptional bound (.number n) = .ok (some ⟨n, holds⟩) := by
      simp only [readOptional, Datum.isNull, reads, Bool.false_eq_true, if_false]
      rfl
    refine ⟨some ⟨n, holds⟩, ?_, rfl⟩
    simp only [bindBound, Datum.ofBound, Option.elim_some, optional]

theorem of_ofBound (first max : Option Nat) (pos : ∀ n ∈ max, 1 ≤ n) :
    ∃ page, Page.of (.ofBound first) (.ofBound max) = .ok page ∧
      page.first = first.map Int.ofNat ∧ page.max = max.map Int.ofNat := by
  have admits : ∀ n ∈ first, (IntBound.atLeast 0).Admits n := fun n _ => Int.natCast_nonneg n
  have admits' : ∀ n ∈ max, (IntBound.above 0).Admits n :=
    fun n mem => Int.natCast_pos.2 (pos n mem)
  obtain ⟨low, reads, least⟩ := bindBound_ofBound firstName _ first admits
  obtain ⟨high, reads', most⟩ := bindBound_ofBound maxName _ max admits'
  exact ⟨⟨low.map (·.val), high.map (·.val), forall_mem_val low, forall_mem_val high⟩,
    by rw [Page.of, reads, reads']; rfl, least, most⟩

theorem resultsOn_eq_portion {page : Page} {first max : Option Nat}
    (starts : page.first = first.map Int.ofNat) (asks : page.max = max.map Int.ofNat)
    (settings : Settings) (e : Engine) :
    page.resultsOn settings e = portion settings first max e.results := by
  have unbounded : (settings.unboundedMaxResults.toNat : Int) = settings.unboundedMaxResults :=
    Int.toNat_of_nonneg (Int.le_trans (by decide) settings.one_le_unbounded)
  have start : (first.map Int.ofNat).getD 0 = (first.getD 0 : Nat) := by cases first <;> rfl
  have size : (max.map Int.ofNat).getD settings.unboundedMaxResults =
      (max.getD settings.unboundedMaxResults.toNat : Nat) := by
    cases max with
    | none => exact unbounded.symm
    | some n => rfl
  unfold resultsOn portion isPaginated
  rw [starts, asks, start, size, Portion.between_add]
  cases first <;> cases max <;> simp

end Page

/-! ### Results -/

namespace Service

variable {ρ : Type} {service : Service ρ} {request : Request} {e : Engine} {mapped : List ρ}

/-- The engine does not fail and has no count of its own, and the service maps all its results. -/
structure Maps (service : Service ρ) (e : Engine) (mapped : List ρ) : Prop where
  failure : e.failure = none
  total : e.total = none
  results : e.results.map service.toResult = mapped.map .ok

theorem Maps.length_eq (maps : service.Maps e mapped) : e.results.length = mapped.length := by
  have lengths := congrArg List.length maps.results
  rwa [List.length_map, List.length_map] at lengths

/-- Portions of the results are mapped to the portions of what all of them are mapped to. -/
theorem conclude_portion (maps : service.Maps e mapped) (first max : Option Nat) :
    service.conclude (.ok (.results (Page.portion service.settings first max e.results))) =
      .ok (.results (Page.portion service.settings first max mapped)) := by
  have portion : (Page.portion service.settings first max e.results).map service.toResult =
      (Page.portion service.settings first max mapped).map .ok := by
    rw [← Page.portion_map, ← Page.portion_map, maps.results]
  simp only [conclude, mapOutcome, mapM_eq_ok.2 portion]
  rfl

theorem conclude_count (maps : service.Maps e mapped) (counts : request.operation = .count) :
    service.conclude (request.outcomeOn service.settings e) = .ok (.count mapped.length) := by
  simp only [Request.outcomeOn, counts, maps.total, maps.length_eq]
  rfl

/-- What a service does without limits to a request whose query is built: it executes the query once
and gives what the engine has. -/
theorem runFrom_execute_of_builds (request : Request) (handOn : ∀ m ∈ service.middleware, m.HandsOn)
    (unlimited : service.settings.maxResultsLimit = none) (steady : request.query.type.Steady)
    {w : World} (maps : service.Maps w.engine mapped)
    (builds : (runFrom request.query.build w.engine).1 = .ok ()) :
    (runFrom (service.execute request) w).1 =
        service.conclude (request.outcomeOn service.settings w.engine) ∧
      (runFrom (service.execute request) w).2.engine =
        (runFrom request.query.build w.engine).2.recordAll
          [request.terminalCall service.settings] := by
  have within : request.checkLimit service.settings = .ok () := by
    simp only [Request.checkLimit, Page.checkLimit, unlimited, ite_self]
  have counted : w.engine.total ≠ some .null := by simp [maps.total]
  obtain ⟨result, calls, created, runs⟩ := Query.memoryless_build steady w.engine counted
  have built := runs w.engine rfl
  rw [built] at builds
  obtain rfl : result = .ok () := builds
  obtain ⟨u, same, gives, does⟩ :=
    Middleware.handsOn_chain handOn service.handle request w
  have outcome : request.outcomeOn service.settings (w.engine.extend calls created) =
      request.outcomeOn service.settings w.engine := rfl
  have performs : runFrom (perform service.settings request) w.engine = _ := runFrom_perform built
  have succeeds : (w.engine.extend calls created).failure = none := maps.failure
  unfold execute
  rw [gives, does, runFrom_handle service within, same, performs, built, outcome, succeeds]
  exact ⟨rfl, rfl⟩

/-- What listings and counts of one input give, if all results are those. -/
structure Lists (service : Service ρ) (input : QueryInput) (mapped : List ρ) (w : World) :
    Prop where
  all : (runFrom (service.list input .null .null) w).1 = .ok (.results mapped)
  page : ∀ first max : Nat, 1 ≤ max →
    (runFrom (service.list input (.number first) (.number max)) w).1 =
      .ok (.results ((mapped.drop first).take max))
  rest : ∀ first : Nat,
    (runFrom (service.list input (.number first) .null) w).1 =
      .ok (.results ((mapped.drop first).take service.settings.unboundedMaxResults.toNat))
  /-- Pages of one size, asked for one after the other, lose and repeat nothing. -/
  tiles : ∀ size count : Nat, 1 ≤ size → mapped.length ≤ count * size →
    ∃ pages : List (List ρ),
      (service.serveAll ((List.range count).map fun k =>
        .inquiry (.list input (.number (k * size : Nat)) (.number size))) w).1 =
          pages.map (fun page => .ok (.results page)) ∧
      pages.flatten = mapped
  count : (runFrom (service.count input) w).1 = .ok (.count mapped.length)
  /-- Listings and counts make the same calls before they are executed. -/
  calls : ∀ (first max : Option Nat), (∀ n ∈ max, 1 ≤ n) →
    let listed := (runFrom (service.list input (.ofBound first) (.ofBound max)) w).2.engine
    let counted := (runFrom (service.count input) w).2.engine
    listed.filterCalls = counted.filterCalls ∧ listed.orderingCalls = counted.orderingCalls

section Listing

variable {input : QueryInput} {q : Query} {w : World}

theorem Maps.unused (maps : service.Maps e mapped) : service.Maps e.unused mapped :=
  ⟨maps.failure, maps.total, maps.results⟩

theorem builds_unused (steady : q.type.Steady) (maps : service.Maps e mapped)
    (builds : (runFrom q.build e).1 = .ok ()) : (runFrom q.build e.unused).1 = .ok () := by
  have counted : e.total ≠ some .null := by simp [maps.total]
  obtain ⟨result, calls, created, runs⟩ := Query.memoryless_build steady e counted
  rw [runs e rfl] at builds
  rw [runs e.unused rfl]
  exact builds

theorem calls_recordAll_terminalCall (settings : Settings) (request : Request) (e : Engine) :
    (e.recordAll [request.terminalCall settings]).filterCalls = e.filterCalls ∧
      (e.recordAll [request.terminalCall settings]).orderingCalls = e.orderingCalls := by
  have isOrdering : (request.terminalCall settings).isOrdering = false := by
    unfold Request.terminalCall
    split
    · rfl
    · split
      · rfl
      · change (⟨"list_page", []⟩ : Call).isOrdering = false
        rfl
  have isFilter : (request.terminalCall settings).isFilter = false := by
    simp [Call.isFilter, Request.isTerminal_terminalCall]
  constructor
  · simp [Engine.filterCalls, isFilter]
  · simp [Engine.orderingCalls, isOrdering]

variable (accepts : service.queryType.ofInput input = .ok q)

include accepts

theorem list_ofBound (first max : Option Nat) (pos : ∀ n ∈ max, 1 ≤ n) :
    ∃ page : Page, service.list input (.ofBound first) (.ofBound max) =
        service.execute ⟨q, .list, page⟩ ∧
      ∀ e, page.resultsOn service.settings e =
        Page.portion service.settings first max e.results := by
  obtain ⟨page, reads, starts, asks⟩ := Page.of_ofBound first max pos
  refine ⟨page, ?_, Page.resultsOn_eq_portion starts asks service.settings⟩
  rw [list, accepts, reads]
  rfl

theorem count_eq : service.count input = service.execute { query := q, operation := .count } := by
  rw [count, accepts]
  rfl

variable (steady : service.queryType.Steady)

include steady

theorem steady_query : q.type.Steady := by
  have made : service.queryType.Makes q := ⟨.request input, accepts⟩
  rw [made.type_eq]
  exact steady

variable (handOn : ∀ m ∈ service.middleware, m.HandsOn)

include handOn

theorem recurs_list (first max : Option Nat) (pos : ∀ n ∈ max, 1 ≤ n) :
    Recurs (service.list input (.ofBound first) (.ofBound max)) := by
  obtain ⟨page, lists, _⟩ := list_ofBound accepts first max pos
  rw [lists]
  exact .handedOn (Middleware.handsOn_chain handOn)
    (recurs_handle service (steady_query accepts steady))

variable (unlimited : service.settings.maxResultsLimit = none) (maps : service.Maps w.engine mapped)
  (builds : (runFrom q.build w.engine).1 = .ok ())

include unlimited maps builds

theorem results_list (first max : Option Nat) (pos : ∀ n ∈ max, 1 ≤ n) :
    (runFrom (service.list input (.ofBound first) (.ofBound max)) w).1 =
      .ok (.results (Page.portion service.settings first max mapped)) := by
  obtain ⟨page, lists, shows⟩ := list_ofBound accepts first max pos
  obtain ⟨gives, _⟩ := runFrom_execute_of_builds ⟨q, .list, page⟩ handOn unlimited
    (steady_query accepts steady) maps builds
  rw [lists, gives, ← conclude_portion maps, ← shows]
  rfl

theorem tiles_list {size count : Nat} (pos : 1 ≤ size) (reaches : mapped.length ≤ count * size) :
    ∃ pages : List (List ρ),
      (service.serveAll ((List.range count).map fun k =>
        .inquiry (.list input (.number (k * size : Nat)) (.number size))) w).1 =
          pages.map (fun page => .ok (.results page)) ∧
      pages.flatten = mapped := by
  have bounded : ∀ n ∈ some size, 1 ≤ n := by simpa using pos
  let asks (k : Nat) : Demand := .inquiry (.list input (.number (k * size : Nat)) (.number size))
  let pages := (List.range count).map fun k => (mapped.drop (k * size)).take size
  let fresh : World := { w with engine := w.engine.unused }
  have recur : ∀ d ∈ (List.range count).map asks, Recurs (service.serve d) := by
    intro d mem
    obtain ⟨k, _, rfl⟩ := List.mem_map.1 mem
    exact recurs_list accepts steady handOn (some (k * size)) (some size) bounded
  have counted : w.engine.total ≠ some .null := by simp [maps.total]
  have built := builds_unused (steady_query accepts steady) maps builds
  have alone (k : Nat) : (runFrom (service.serve (asks k)) fresh).1 =
      .ok (.results ((mapped.drop (k * size)).take size)) :=
    results_list accepts steady handOn unlimited maps.unused built (some (k * size)) (some size)
      bounded
  have same : fresh.engine = w.engine.unused := rfl
  obtain ⟨answers, _⟩ := serveAll_alone recur counted same
  refine ⟨pages, ?_, ?_⟩
  · rw [answers, List.map_map, List.map_map]
    exact List.map_congr_left fun k _ => alone k
  · rw [flatten_portions, List.take_of_length_le reaches]

theorem calls_list (first max : Option Nat) (pos : ∀ n ∈ max, 1 ≤ n) :
    let listed := (runFrom (service.list input (.ofBound first) (.ofBound max)) w).2.engine
    let counted := (runFrom (service.count input) w).2.engine
    listed.filterCalls = counted.filterCalls ∧ listed.orderingCalls = counted.orderingCalls := by
  obtain ⟨page, lists, _⟩ := list_ofBound accepts first max pos
  have executes (request : Request) (same : request.query = q) :
      (runFrom (service.execute request) w).2.engine =
        (runFrom q.build w.engine).2.recordAll [request.terminalCall service.settings] := by
    cases same
    exact (runFrom_execute_of_builds request handOn unlimited (steady_query accepts steady) maps
      builds).2
  intro listed counted
  simp only [listed, counted, lists, count_eq accepts, executes, calls_recordAll_terminalCall,
    and_self]

theorem lists_of_builds : service.Lists input mapped w where
  all := results_list accepts steady handOn unlimited maps builds none none (by simp)
  page := by
    intro first max pos
    exact results_list accepts steady handOn unlimited maps builds (some first) (some max)
      (by simpa using pos)
  rest := by
    intro first
    exact results_list accepts steady handOn unlimited maps builds (some first) none (by simp)
  tiles := fun _ _ => tiles_list accepts steady handOn unlimited maps builds
  count := by
    obtain ⟨gives, _⟩ := runFrom_execute_of_builds { query := q, operation := .count } handOn
      unlimited (steady_query accepts steady) maps builds
    rw [count_eq accepts, gives, conclude_count maps rfl]
  calls := calls_list accepts steady handOn unlimited maps builds

end Listing

theorem builds_of_direct {q : Query} (made : service.queryType.Makes q)
    (direct : service.queryType.Direct) (quiet : e.rejects = []) :
    (runFrom q.build e).1 = .ok () := by
  have same := made.type_eq
  obtain ⟨criteria, ordered, listed⟩ := made.exists_ordering
  rw [← same] at direct listed
  rw [Query.ordering_eq_criteria (direct.visible _ (by simp [QueryType.operationNames]))] at ordered
  cases ordered
  rw [Query.runFrom_build direct listed quiet]

/-- What listings and counts give without limits on an engine that does not fail, behind middlewares
that hand requests on, if no call changes the handle. Every accepted input whose query is built
lists and counts as in `Lists`; and if the query type hides nothing, all queries are built. -/
theorem lists {input : QueryInput} {q : Query} {w : World}
    (handOn : ∀ m ∈ service.middleware, m.HandsOn)
    (unlimited : service.settings.maxResultsLimit = none) (steady : service.queryType.Steady)
    (accepts : service.queryType.ofInput input = .ok q) (maps : service.Maps w.engine mapped) :
    ((runFrom q.build w.engine).1 = .ok () → service.Lists input mapped w) ∧
      (service.queryType.Direct → w.engine.rejects = [] → (runFrom q.build w.engine).1 = .ok ()) :=
  ⟨lists_of_builds accepts steady handOn unlimited maps, fun direct quiet =>
    builds_of_direct ⟨.request input, accepts⟩ direct quiet⟩

theorem lists_resolved :
    let service : Service String :=
      { queryType := HistoricIncident.queryType
        toResult := fun d => .ok d.display
        middleware := [Middleware.propagation, Middleware.loggingAt (.number 20)] }
    let w : World := { engine := { results := [.number 1, .number 2, .number 3] } }
    let input : QueryInput := .parameters [("resolved", ["true"])]
    (runFrom (service.list input (.number 1) (.number 1)) w).1 = .ok (.results ["2"]) ∧
      (runFrom (service.count input) w).1 = .ok (.count 3) := by
  intro service w input
  have handOn : ∀ m ∈ service.middleware, m.HandsOn := by
    simp only [service, List.mem_cons, List.not_mem_nil, or_false, forall_eq_or_imp, forall_eq]
    exact ⟨Middleware.handsOn_propagation, Middleware.handsOn_logging 20⟩
  have direct : service.queryType.Direct := Catalog.direct .historicIncident
  have maps : service.Maps w.engine ["1", "2", "3"] := ⟨rfl, rfl, rfl⟩
  have accepts : service.queryType.ofInput input =
      .ok ⟨HistoricIncident.queryType, [("resolved", .flag true)], none⟩ := rfl
  obtain ⟨listed, builds⟩ := lists handOn rfl direct.callsApart.steady accepts maps
  have gives := listed (builds direct rfl)
  exact ⟨gives.page 1 1 (by decide), gives.count⟩

/-- A middleware may refuse counts; a field may be named like an attribute of the handle, so that no
query that sets it is built; and an ordering may be named like the member that makes the handle
anew, which loses the results. -/
theorem not_lists_of_refusal_or_name :
    let w : World := { engine := { results := [.number 1] } }
    (let service : Service Datum :=
      { queryType := HistoricIncident.queryType
        toResult := .ok
        middleware := [Middleware.denyCounts] }
    (runFrom (service.count (.parameters [])) w).1 =
      .error (.invalidRequest (.other "Counting is disabled"))) ∧
    (∃ type, Declaration.toQueryType
          { name := "T"
            fields := [("results", .text)]
            parameters := [{ name := "results", field := "results" }] } = .ok type ∧
      let service : Service Datum := { queryType := type, toResult := .ok }
      (runFrom (service.list (.parameters [("results", ["x"])]) .null .null) w).1 =
        .error (.misuse (.notCallable "list"))) ∧
    ∃ type, Declaration.toQueryType { name := "T", sortFields := [("a", "__init__")] } = .ok type ∧
      let service : Service Datum := { queryType := type, toResult := .ok }
      let sorted : RawParameters := [("sortBy", ["a"]), ("sortOrder", ["asc"])]
      (runFrom (service.list (.parameters sorted) .null .null) w).1 = .ok (.results []) :=
  ⟨rfl, ⟨_, rfl, rfl⟩, _, rfl, rfl⟩

end Service
end QueryBinding
