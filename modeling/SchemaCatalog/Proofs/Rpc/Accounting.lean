import SchemaCatalog.Http.Router
import SchemaCatalog.Proofs.Metrics.Counters
import SchemaCatalog.Proofs.Metrics.Exposition
import SchemaCatalog.Proofs.Rpc.Exchange
import SchemaCatalog.Proofs.Rpc.Protocol

/-!
# Accounting for calls

Whatever happens to a service, its metrics tell how many calls it has had: all in all, of each method, and of
all methods together that do not exist (`Service.run_accounts`). `called` says which bodies are calls that
count. Each of them is counted once, however it ends, under a method and an outcome of `labels`
(`Service.answer_cases`), so that a caller cannot make up new ones.
-/

namespace SchemaCatalog.Rpc

/-! ### What is counted -/

/-- The names of the methods that there are. -/
def methodNames : List String :=
  ["get_schema_element", "list_schemas", "get_schema_details", "expand_path"]

/-- The methods and the outcomes under which calls are counted. -/
def labels : Metrics.Labels where
  methods := "unknown" :: methodNames
  outcomes :=
    ["ok", "method_not_found", "not_found", "timeout", "too_large", "invalid_params", "internal"]
  separate := by decide +kernel

/-- The method that a body calls, if the call counts: the body is a request, and no health check. -/
def called (body : Bytes) : Option String :=
  match Request.codec.parse body with
  | .error _ => none
  | .ok r => if r.method = "health_check" then none else some r.method

/-- What happens to a service. -/
inductive Event where
  | call (body : Bytes) (elapsed : Duration)
  | change (change : Change)
  /-- The metrics are asked for, while the system tells `process` about the process. -/
  | scrape (process : List Metrics.Family) (r : Http.Request)
  | stop

/-- The method of a call that counts. -/
def Event.called? : Event → Option String
  | .call body _ => called body
  | _ => none

/-- The change to the catalog. -/
def Event.change? : Event → Option Change
  | .change c => some c
  | _ => none

namespace Service

/-- The service after something happened to it. -/
def step (s : Service) : Event → Service
  | .call body elapsed => (s.answer body elapsed).1
  | .change change => { s with catalog := (s.catalog.change change).1 }
  | .scrape process r => (s.routeMetrics process r).1
  | .stop => { s with stopped := true }

/-- The service after all that happened to it. -/
def run (s : Service) (events : List Event) : Service := events.foldl step s

end Service

/-- What metrics have to tell after calls of these methods. -/
structure Accounts (calls : List String) (m : Metrics) : Prop where
  handled : m.handled = calls.length
  served : ∀ name ∈ methodNames, m.handledBy name = calls.count name
  unknown : m.handledBy "unknown" = calls.countP fun name => name ∉ methodNames
  counters : ∀ c ∈ m.requests.values, c.method = "unknown" ∨ c.method ∈ methodNames
  histograms : ∀ (method : String) (h : Histogram), m.latency[method]? = some h →
    method = "unknown" ∨ method ∈ methodNames
  samples : ∀ method, m.samples method = m.handledBy method

/-! ### One call -/

theorem mem_methodNames_iff {method : String} :
    method ∈ methodNames ↔ ∃ call : Method, call.name = method := by
  constructor
  · intro h
    simp only [methodNames, List.mem_cons, List.not_mem_nil, or_false] at h
    rcases h with rfl | rfl | rfl | rfl
    · exact ⟨.getElement, rfl⟩
    · exact ⟨.listSchemas, rfl⟩
    · exact ⟨.getDetails, rfl⟩
    · exact ⟨.expandPath, rfl⟩
  · rintro ⟨call, rfl⟩
    cases call <;> decide

theorem Method.name_ne_unknown (call : Method) : call.name ≠ "unknown" := by
  cases call <;> decide

theorem Counts.mem_methods {method name : String} (h : Counts method name) : name ∈ labels.methods := by
  cases h with
  | known call => exact List.mem_cons_of_mem _ (mem_methodNames_iff.mpr ⟨call, rfl⟩)
  | unknown h => exact List.mem_cons_self

/-- A call is counted under the name of a method that there is only if it calls that method. -/
theorem Counts.eq_iff {method name name' : String} (h : Counts method name) (hname : name' ∈ methodNames) :
    name = name' ↔ method = name' := by
  cases h with
  | known call => rfl
  | unknown hunknown =>
    obtain ⟨call, rfl⟩ := mem_methodNames_iff.mp hname
    constructor
    · intro h
      exact absurd h.symm call.name_ne_unknown
    · intro h
      exact absurd h.symm (hunknown call)

/-- A call is counted as unknown if its method does not exist. -/
theorem Counts.eq_unknown_iff {method name : String} (h : Counts method name) :
    name = "unknown" ↔ method ∉ methodNames := by
  rw [mem_methodNames_iff]
  cases h with
  | known call => exact iff_of_false call.name_ne_unknown (not_not.mpr ⟨call, rfl⟩)
  | unknown hunknown => simpa using hunknown

/-- However a call ends, its outcome is one of those that calls are counted under. -/
theorem Service.outcome_mem (result : Except Refusal Json.Value) : outcome result ∈ labels.outcomes := by
  cases result with
  | ok v => exact List.mem_cons_self
  | error refusal =>
    cases refusal with
    | unknownMethod => decide
    | failed error => cases error <;> simp [outcome, Refusal.outcome, Error.outcome, labels]

namespace Service

variable {s : Service}

/-- A body that calls nothing leaves the service as it is; any other one is counted once. -/
theorem answer_cases (s : Service) (body : Bytes) (elapsed : Duration) :
    (called body = none ∧ (s.answer body elapsed).1 = s) ∨
      ∃ method name outcome, called body = some method ∧ Counts method name ∧
        outcome ∈ labels.outcomes ∧
        (s.answer body elapsed).1 =
          { s with metrics := s.metrics.observe name outcome elapsed } := by
  unfold called
  cases parse : Request.codec.parse body with
  | error e =>
    rw [s.answer_of_unreadable parse]
    exact .inl ⟨rfl, rfl⟩
  | ok r =>
    dsimp only
    by_cases health : r.method = healthCheck
    · have health' : r.method = "health_check" := health
      rw [s.answer_of_health parse health, if_pos health']
      exact .inl ⟨rfl, rfl⟩
    · have health' : r.method ≠ "health_check" := health
      rw [s.answer_of_parse parse health, s.conclude_service, if_neg health']
      exact .inr ⟨r.method, label r.method, _, rfl, counts_iff.mpr rfl, outcome_mem _, rfl⟩

/-! ### One step -/

/-- What a step does to the catalog. -/
theorem catalog_step (s : Service) (e : Event) :
    (s.step e).catalog = (s.catalog.run e.change?.toList).1 := by
  cases e with
  | call body elapsed =>
    obtain ⟨metrics, hframe⟩ := s.answer_frame body elapsed
    show (s.answer body elapsed).1.catalog = s.catalog
    rw [hframe]
  | change change => rfl
  | scrape process r =>
    show (s.routeMetrics process r).1.catalog = s.catalog
    rcases s.routeMetrics_frame process r with h | h <;> rw [h]
  | stop => rfl

/-- What a step does to the metrics: they stay regular, and a call that counts raises the sums that count
its method. -/
theorem regular_step (h : Metrics.Regular labels s.metrics) (e : Event) :
    Metrics.Regular labels (s.step e).metrics ∧
      ∀ p : String → Bool, (s.step e).metrics.total p =
        s.metrics.total p + e.called?.toList.countP fun method => p (label method) := by
  cases e with
  | call body elapsed =>
    show Metrics.Regular labels (s.answer body elapsed).1.metrics ∧ ∀ p : String → Bool,
      (s.answer body elapsed).1.metrics.total p =
        s.metrics.total p + (called body).toList.countP fun method => p (label method)
    rcases s.answer_cases body elapsed with
      ⟨hcalled, hsame⟩ | ⟨method, name, outcome, hcalled, hcounts, houtcome, hcounted⟩
    · rw [hcalled, hsame]
      exact ⟨h, fun p => rfl⟩
    · rw [hcalled, hcounted]
      refine ⟨h.observe hcounts.mem_methods houtcome elapsed, ?_⟩
      intro p
      have hlabel : label method = name := (counts_iff.mp hcounts).symm
      show (s.metrics.observe name outcome elapsed).total p =
        s.metrics.total p + [method].countP fun method => p (label method)
      rw [h.total_observe hcounts.mem_methods houtcome, List.countP_singleton, hlabel]
  | change change => exact ⟨h, fun p => rfl⟩
  | scrape process r =>
    show Metrics.Regular labels (s.routeMetrics process r).1.metrics ∧ ∀ p : String → Bool,
      (s.routeMetrics process r).1.metrics.total p = s.metrics.total p
    rcases s.routeMetrics_frame process r with hframe | hframe
    · rw [hframe]
      exact ⟨h, fun p => rfl⟩
    · rw [hframe]
      exact ⟨h.setSchemas _, fun p => rfl⟩
  | stop => exact ⟨h, fun p => rfl⟩

/-! ### A run -/

/-- Only the changes among what happens change the catalog. -/
theorem catalog_run (events : List Event) (s : Service) :
    (s.run events).catalog = (s.catalog.run (events.filterMap Event.change?)).1 := by
  induction events generalizing s with
  | nil => rfl
  | cons e rest ih =>
    have hstep := s.catalog_step e
    show ((s.step e).run rest).catalog = _
    rw [ih, hstep, List.filterMap_cons]
    cases e.change? <;> rfl

/-- Over a run the metrics stay regular, and their sums grow by the calls that they count. -/
theorem regular_run (events : List Event) {s : Service} (h : Metrics.Regular labels s.metrics) :
    Metrics.Regular labels (s.run events).metrics ∧
      ∀ p : String → Bool, (s.run events).metrics.total p = s.metrics.total p +
        (events.filterMap Event.called?).countP fun method => p (label method) := by
  induction events generalizing s with
  | nil => exact ⟨h, fun p => rfl⟩
  | cons e rest ih =>
    obtain ⟨hregular, htotal⟩ := regular_step h e
    obtain ⟨hrun, hsum⟩ := ih hregular
    refine ⟨hrun, ?_⟩
    intro p
    show ((s.step e).run rest).metrics.total p = _
    rw [hsum, htotal, Nat.add_assoc, List.filterMap_cons]
    cases e.called? with
    | none => simp
    | some method => simp [List.countP_cons, Nat.add_comm]

/-- Regular metrics whose sums are the numbers of calls account for the calls. -/
theorem accounts_of_regular {calls : List String} {m : Metrics} (h : Metrics.Regular labels m)
    (htotal : ∀ p : String → Bool, m.total p = calls.countP fun method => p (label method)) :
    Accounts calls m where
  handled := (htotal _).trans (by simp)
  served name hname := by
    refine (htotal _).trans ?_
    -- a method that there is counts under its own name, and nothing else does
    rw [List.count]
    congr 1
    funext method
    have hiff := (counts_iff.mpr (rfl : label method = label method)).eq_iff hname
    rw [Bool.eq_iff_iff, beq_iff_eq, beq_iff_eq]
    exact hiff
  unknown := by
    refine (htotal _).trans ?_
    congr 1
    funext method
    have hiff := (counts_iff.mpr (rfl : label method = label method)).eq_unknown_iff
    rw [Bool.eq_iff_iff, beq_iff_eq, decide_eq_true_iff]
    exact hiff
  counters c hc := by
    obtain ⟨key, hkey⟩ := mem_values_iff.mp hc
    exact List.mem_cons.mp (h.counter key c hkey).2.1
  histograms method histogram hh := List.mem_cons.mp (h.timed method histogram hh)
  samples := h.samples_eq

/-- A scrape is answered with the metrics, for which the schemas are counted anew. -/
theorem routeMetrics_get (s : Service) (process : List Metrics.Family) {r : Http.Request}
    (method : r.method = "GET") (path : r.path = "/metrics") :
    (s.routeMetrics process r).1.metrics = s.metrics.setSchemas s.catalog.size ∧
      (s.routeMetrics process r).2.body =
        (s.metrics.setSchemas s.catalog.size).exposition process := by
  rw [routeMetrics, if_pos path, method, if_pos (by decide)]
  dsimp only
  rw [Http.Request.getOnly, if_pos method]
  exact ⟨rfl, rfl⟩

/-- **The metrics account for every call.** After any run of a service, they tell how many calls it has had
that count: all in all, of each method that there is, and of all others together, which have one name. A
histogram has a time for each call. The next body raises one counter by one if it is a call that counts, and
otherwise none. Only changes change the catalog, and the next scrape tells how many schemas are in it, with
all digits as long as these fit a floating-point number, whatever the system tells about the process. -/
theorem run_accounts {n : Nat} (fresh : s.metrics = Metrics.empty.setSchemas n) (events : List Event) :
    Accounts (events.filterMap Event.called?) (s.run events).metrics ∧
    (s.run events).catalog = (s.catalog.run (events.filterMap Event.change?)).1 ∧
    (∀ body elapsed,
      ((s.run events).answer body elapsed).1.catalog = (s.run events).catalog ∧
      ((called body = none ∧
          ((s.run events).answer body elapsed).1.metrics = (s.run events).metrics) ∨
        ∃ method name outcome, called body = some method ∧ Counts method name ∧
          (s.run events).metrics.CountsOne ((s.run events).answer body elapsed).1.metrics name
            outcome)) ∧
    ∀ (process : List Metrics.Family) (r : Http.Request), r.method = "GET" → r.path = "/metrics" →
      ((s.run events).routeMetrics process r).1.metrics.schemas =
        Int64.ofNat (s.run events).catalog.size ∧
      ((s.run events).catalog.size < 2 ^ 53 →
        ∃ before rest, ((s.run events).routeMetrics process r).2.body =
          Metrics.ofLines (before ++ Metrics.schemasLines (s.run events).catalog.size ++ rest)) := by
  have hstart : Metrics.Regular labels s.metrics := by
    rw [fresh]
    exact (Metrics.regular_empty labels).setSchemas n
  have hzero (p : String → Bool) : s.metrics.total p = 0 := by
    rw [fresh]
    rfl
  obtain ⟨hregular, htotal⟩ := regular_run events hstart
  simp only [hzero, Nat.zero_add] at htotal
  refine ⟨accounts_of_regular hregular htotal, catalog_run events s, ?_, ?_⟩
  · intro body elapsed
    obtain ⟨metrics, hframe⟩ := (s.run events).answer_frame body elapsed
    refine ⟨by rw [hframe], ?_⟩
    rcases (s.run events).answer_cases body elapsed with
      ⟨hcalled, hsame⟩ | ⟨method, name, outcome, hcalled, hcounts, houtcome, hcounted⟩
    · exact .inl ⟨hcalled, by rw [hsame]⟩
    · refine .inr ⟨method, name, outcome, hcalled, hcounts, ?_⟩
      rw [hcounted]
      exact hregular.countsOne hcounts.mem_methods houtcome (Metrics.records_observe _ _ _ _)
  · intro process r hmethod hpath
    obtain ⟨hmetrics, hbody⟩ := (s.run events).routeMetrics_get process hmethod hpath
    refine ⟨by rw [hmetrics]; rfl, ?_⟩
    intro hcountable
    rw [hbody]
    exact (s.run events).metrics.exposition_setSchemas process hcountable

/-- Two calls of one method and one of a method that does not exist are counted, but neither a health check
nor a text that is no request. The scrape shows the schema that was put in between, whatever it shows about
open files. -/
theorem run_accounts_mixed :
    let request (method : String) : Bytes :=
      Utf8.encode ("\x7b\"jsonrpc\":\"2.0\",\"method\":\"" ++ method ++ "\",\"id\":1\x7d")
    let now : Duration := .ofSeconds 0
    let entry : Entry := ⟨⟨"a", "x", "1"⟩, .interfaces, .empty⟩
    let scrape : Http.Request := ⟨"GET", "/metrics", [], []⟩
    let process : List Metrics.Family :=
      [⟨"process_open_fds", "Number of open file descriptors.", "gauge", ["process_open_fds 9"]⟩]
    let s : Service := { metrics := Metrics.empty.setSchemas 0 }
    let events : List Event :=
      [.call (request "list_schemas") now, .scrape process scrape, .call (request "no_such_method") now,
       .change (.put entry), .call (request "health_check") now, .call (Utf8.encode "no request") now,
       .call (request "list_schemas") now]
    let after := s.run events
    after.metrics.handled = 3 ∧ after.metrics.handledBy "list_schemas" = 2 ∧
      after.metrics.handledBy "unknown" = 1 ∧ after.metrics.samples "unknown" = 1 ∧
      ∃ before rest, (after.routeMetrics process scrape).2.body =
        Metrics.ofLines (before ++ ["# HELP schema_registry_schemas Schemas currently registered",
          "# TYPE schema_registry_schemas gauge", "schema_registry_schemas 1"] ++ rest) := by
  intro request now entry scrape process s events after
  have fresh : s.metrics = Metrics.empty.setSchemas 0 := rfl
  obtain ⟨haccounts, hcatalog, _, hscrape⟩ := run_accounts fresh events
  have hcalls : events.filterMap Event.called? =
      ["list_schemas", "no_such_method", "list_schemas"] := by decide +kernel
  rw [hcalls] at haccounts
  have hsize : after.catalog.size = 1 := by
    have hput : (Catalog.empty.run [.put entry]).1.size = 1 := by decide +kernel
    rw [← hput]
    exact congrArg Catalog.size hcatalog
  refine ⟨haccounts.handled, haccounts.served "list_schemas" (by decide), haccounts.unknown,
    (haccounts.samples "unknown").trans haccounts.unknown, ?_⟩
  have hlines : Metrics.schemasLines after.catalog.size =
      ["# HELP schema_registry_schemas Schemas currently registered",
        "# TYPE schema_registry_schemas gauge", "schema_registry_schemas 1"] := by
    rw [hsize]
    decide +kernel
  rw [← hlines]
  exact (hscrape process scrape rfl (by decide +kernel)).2 (by rw [hcatalog]; decide +kernel)

end Service

end SchemaCatalog.Rpc
