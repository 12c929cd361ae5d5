import SchemaCatalog.Metrics.Basic
import SchemaCatalog.Proofs.Values
import Mathlib.Algebra.BigOperators.Group.List.Basic
import Mathlib.Algebra.GroupWithZero.Nat

/-!
# What the counters add up to

A counter is stored under its method and its outcome run together. If those come from `Labels`, of which no
two pairs run together to the same text, each pair has a counter of its own. Metrics of such calls are
`Regular`: all counters and histograms are those of the labels, and a histogram has as many times as its
method has calls.

`Records` says what becomes of metrics when a call is recorded. In regular ones it goes into one counter, by
one (`Regular.countsOne`), and so into the sums over counters (`Regular.total_observe`) and into one histogram
(`samples_observe`). The metrics stay regular (`Regular.observe`).
-/

namespace SchemaCatalog.Metrics

/-! ### Sums over counters -/

/-- How many calls were counted for the methods that `p` chooses, with any outcome. -/
def total (m : Metrics) (p : String → Bool) : Nat :=
  ((m.requests.values.filter fun c => p c.method).map RequestCounter.count).sum

/-- How many calls were counted. -/
def handled (m : Metrics) : Nat := m.total fun _ => true

/-- How many calls of a method were counted. -/
def handledBy (m : Metrics) (method : String) : Nat := m.total (· == method)

/-- How many times the histogram of a method has. -/
def samples (m : Metrics) (method : String) : Nat := (m.latency[method]?.map Histogram.count).getD 0

/-- From `m` to `m'`, a call of a method that had an outcome is recorded: the counter of the two, a new one if
there is none, is raised by one, the time goes into the histogram of the method, and all else stays. -/
structure Records (m m' : Metrics) (method outcome : String) (time : Duration) : Prop where
  raised : m'.requests[method ++ outcome]? =
    some { m.requestCounter method outcome with count := m.requestCount method outcome + 1 }
  others : ∀ key, key ≠ method ++ outcome → m'.requests[key]? = m.requests[key]?
  timed : m'.latency[method]? = some ((m.latency[method]?.getD {}).observe time)
  untimed : ∀ other, other ≠ method → m'.latency[other]? = m.latency[other]?
  schemas : m'.schemas = m.schemas

/-- From `m` to `m'`, the counter of a method and an outcome is raised by one, and all others stay. A counter
that is not there yet is at zero. -/
structure CountsOne (m m' : Metrics) (method outcome : String) : Prop where
  raised : m'.requests[method ++ outcome]? =
    some { method, outcome, count := m.requestCount method outcome + 1 }
  others : ∀ key, key ≠ method ++ outcome → m'.requests[key]? = m.requests[key]?

/-! ### Regular metrics -/

/-- Methods and outcomes that calls are counted under. They can be told apart when they are run together. -/
structure Labels where
  methods : List String
  outcomes : List String
  separate : ∀ method ∈ methods, ∀ method' ∈ methods, ∀ outcome ∈ outcomes, ∀ outcome' ∈ outcomes,
    method ++ outcome = method' ++ outcome' → method = method' ∧ outcome = outcome'

/-- Metrics of calls that are counted under these labels. -/
structure Regular (labels : Labels) (m : Metrics) : Prop where
  /-- A counter stands under its own method and outcome. -/
  counter : ∀ (key : String) (c : RequestCounter), m.requests[key]? = some c →
    key = c.method ++ c.outcome ∧ c.method ∈ labels.methods ∧ c.outcome ∈ labels.outcomes
  timed : ∀ (method : String) (h : Histogram), m.latency[method]? = some h → method ∈ labels.methods
  /-- A histogram has as many times as its method has calls. -/
  samples_eq : ∀ method, m.samples method = m.handledBy method

variable {labels : Labels} {m : Metrics} {method outcome : String}

theorem regular_empty (labels : Labels) : Regular labels empty where
  counter key c h := by
    have hnone : empty.requests[key]? = none := Std.TreeMap.getElem?_emptyc
    rw [hnone] at h
    cases h
  timed method h hm := by
    have hnone : empty.latency[method]? = none := Std.TreeMap.getElem?_emptyc
    rw [hnone] at hm
    cases hm
  samples_eq method := by
    have hnone : empty.latency[method]? = none := Std.TreeMap.getElem?_emptyc
    unfold samples
    rw [hnone]
    rfl

theorem Regular.setSchemas (h : Regular labels m) (n : Nat) : Regular labels (m.setSchemas n) :=
  ⟨h.counter, h.timed, h.samples_eq⟩

/-! ### Recording a call -/

theorem latency_observe (m : Metrics) (method outcome : String) (time : Duration) :
    (m.observe method outcome time).latency =
      m.latency.insert method ((m.latency[method]?.getD {}).observe time) :=
  rfl

theorem records_observe (m : Metrics) (method outcome : String) (time : Duration) :
    m.Records (m.observe method outcome time) method outcome time where
  raised := Std.TreeMap.getElem?_insert_self
  others _ hkey := getElem?_insert_of_ne hkey.symm _
  timed := Std.TreeMap.getElem?_insert_self
  untimed _ hother := getElem?_insert_of_ne hother.symm _
  schemas := rfl

/-- The time of a call that is recorded goes into the histogram of its method. -/
theorem samples_observe (m : Metrics) (method outcome : String) (time : Duration) (method' : String) :
    (m.observe method outcome time).samples method' =
      m.samples method' + if method == method' then 1 else 0 := by
  unfold samples
  rw [latency_observe]
  by_cases hmethod : method = method'
  · subst hmethod
    rw [Std.TreeMap.getElem?_insert_self]
    cases m.latency[method]? <;> simp [Histogram.observe]
  · rw [getElem?_insert_of_ne hmethod]
    simp [hmethod]

section Observe

variable (h : Regular labels m) (hm : method ∈ labels.methods) (ho : outcome ∈ labels.outcomes)
include h hm ho

/-- The counter of a method and an outcome is shown with these. -/
theorem Regular.requestCounter_eq :
    m.requestCounter method outcome = ⟨method, outcome, m.requestCount method outcome⟩ := by
  unfold requestCount requestCounter
  cases hc : m.requests[method ++ outcome]? with
  | none => rfl
  | some c =>
    obtain ⟨hkey, hm', ho'⟩ := h.counter _ c hc
    obtain ⟨rfl, rfl⟩ := labels.separate method hm c.method hm' outcome ho c.outcome ho' hkey
    rfl

theorem Regular.requests_observe (time : Duration) :
    (m.observe method outcome time).requests =
      m.requests.insert (method ++ outcome) ⟨method, outcome, m.requestCount method outcome + 1⟩ := by
  show m.requests.insert (method ++ outcome) _ = _
  rw [h.requestCounter_eq hm ho]

/-- A call that is recorded goes into one counter, by one. -/
theorem Regular.countsOne {m' : Metrics} {time : Duration} (records : m.Records m' method outcome time) :
    m.CountsOne m' method outcome where
  raised := by rw [records.raised, h.requestCounter_eq hm ho]
  others := records.others

/-- A call that is recorded raises the sums that its method is chosen for. -/
theorem Regular.total_observe (time : Duration) (p : String → Bool) :
    (m.observe method outcome time).total p = m.total p + if p method then 1 else 0 := by
  obtain ⟨others, hafter, hbefore⟩ := values_insert_perm m.requests (method ++ outcome)
    ⟨method, outcome, m.requestCount method outcome + 1⟩
  -- What the counter had before is among the old values only; all others are on both sides.
  have hold : ((m.requests[method ++ outcome]?.toList.filter fun c => p c.method).map
      RequestCounter.count).sum = if p method then m.requestCount method outcome else 0 := by
    cases hc : m.requests[method ++ outcome]? with
    | none =>
      have hzero : m.requestCount method outcome = 0 := by
        rw [requestCount, requestCounter, hc]
        rfl
      simp [hzero]
    | some c =>
      have hcounter : c = ⟨method, outcome, m.requestCount method outcome⟩ := by
        rw [← h.requestCounter_eq hm ho, requestCounter, hc]
        rfl
      rw [hcounter]
      by_cases hp : p method <;> simp [hp]
  unfold total
  rw [h.requests_observe hm ho, ((hafter.filter _).map _).sum_eq, ((hbefore.filter _).map _).sum_eq,
    List.filter_append, List.map_append, List.sum_append, hold, List.filter_cons]
  dsimp only
  split_ifs
  · rw [List.map_cons, List.sum_cons]
    dsimp only
    omega
  · omega

/-- Metrics stay regular when a call is recorded. -/
theorem Regular.observe (time : Duration) : Regular labels (m.observe method outcome time) where
  counter key c hc := by
    have hcounts := h.countsOne hm ho (m.records_observe method outcome time)
    by_cases hkey : key = method ++ outcome
    · rw [hkey, hcounts.raised] at hc
      obtain rfl := Option.some.inj hc
      exact ⟨hkey, hm, ho⟩
    · rw [hcounts.others key hkey] at hc
      exact h.counter key c hc
  timed method' histogram hh := by
    by_cases hmethod : method = method'
    · exact hmethod ▸ hm
    · rw [latency_observe, getElem?_insert_of_ne hmethod] at hh
      exact h.timed method' histogram hh
  samples_eq method' := by
    unfold handledBy
    rw [samples_observe, h.samples_eq, h.total_observe hm ho]
    rfl

end Observe

end SchemaCatalog.Metrics
