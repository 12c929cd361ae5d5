/-
  `Metrics` — how many calls were handled, how long they took, and how many schemas there are.

  Calls are counted by method and outcome, their times gathered by method in histograms. Two pairs of a
  method and an outcome that run together to one text share a counter, which shows the pair that came
  first. The bounds of a histogram are inclusive, and a time above all of them counts for the histogram
  only.
-/
import SchemaCatalog.Duration
import Std.Data.TreeMap.Basic

namespace SchemaCatalog

/-- The bounds of a histogram in ten-thousandths of a second, ascending. -/
def latencyBounds : List Nat := [5, 10, 50, 100, 500, 1000, 5000, 10000, 50000, 300000]

/-- A bound in seconds. -/
def boundSeconds (bound : Nat) : Binary64 := (Binary64.ofRatio false bound 10000).getD 0

/-- The times of calls. -/
structure Histogram where
  /-- How many times fell in each bucket: at most its bound, and above the bound before it. -/
  buckets : List Nat := latencyBounds.map fun _ => 0
  /-- The sum of the times in seconds, rounded after each one. -/
  sum : Binary64 := 0
  /-- How many times there are. As in the buckets there is no bound to it, where 64 bits would wrap
  around. -/
  count : Nat := 0
deriving DecidableEq, Repr, Inhabited

namespace Histogram

/-- Counts a time in the first bucket whose bound it does not exceed. -/
def bump (seconds : Binary64) : (bounds buckets : List Nat) → List Nat
  | bound :: bounds, n :: buckets =>
    if seconds.leMagnitude (boundSeconds bound) then (n + 1) :: buckets
    else n :: bump seconds bounds buckets
  | _, buckets => buckets

/-- Adds a time. -/
def observe (h : Histogram) (time : Duration) : Histogram :=
  { buckets := bump time.seconds latencyBounds h.buckets
    sum := (h.sum.addMagnitudes time.seconds).getD h.sum
    count := h.count + 1 }

end Histogram

/-- How many calls there were, with the method and the outcome that are shown for them. There is no bound to
the number, where 64 bits would wrap around: no service lives to see as many calls. -/
structure RequestCounter where
  method : String
  outcome : String
  count : Nat := 0
deriving DecidableEq, Repr, Inhabited

/-- Whether a counter is shown before or with another one: by method, then by outcome. -/
def RequestCounter.le (a b : RequestCounter) : Bool :=
  a.method < b.method || (a.method == b.method && (a.outcome < b.outcome || a.outcome == b.outcome))

/-- What is known about the calls handled so far. -/
structure Metrics where
  /-- The counters of calls, each under its method and outcome run together. -/
  requests : Std.TreeMap String RequestCounter := ∅
  /-- The times of the calls of each method. -/
  latency : Std.TreeMap String Histogram := ∅
  /-- How many schemas there were when that was last looked at, as a signed number of 64 bits. -/
  schemas : Int64 := 0

namespace Metrics

/-- Nothing observed. -/
def empty : Metrics := {}

/-- The counter of the calls of a method that had an outcome, a new one at zero if there is none. -/
def requestCounter (m : Metrics) (method outcome : String) : RequestCounter :=
  m.requests[method ++ outcome]?.getD { method, outcome }

/-- How many calls of a method had an outcome. -/
def requestCount (m : Metrics) (method outcome : String) : Nat :=
  (m.requestCounter method outcome).count

/-- Adds `n` to the calls of a method that had an outcome. -/
def addRequests (m : Metrics) (method outcome : String) (n : Nat) : Metrics :=
  let counter := m.requestCounter method outcome
  { m with
    requests := m.requests.insert (method ++ outcome) { counter with count := counter.count + n } }

/-- Asks how many calls of a method had an outcome; from then on the answer is shown even if it is
zero. -/
def ask (m : Metrics) (method outcome : String) : Metrics × Nat :=
  (m.addRequests method outcome 0, m.requestCount method outcome)

/-- Records a call. -/
def observe (m : Metrics) (method outcome : String) (time : Duration) : Metrics :=
  let counted := m.addRequests method outcome 1
  { counted with
    latency := counted.latency.insert method ((counted.latency[method]?.getD {}).observe time) }

/-- Records how many schemas there are. -/
def setSchemas (m : Metrics) (count : Nat) : Metrics := { m with schemas := Int64.ofNat count }

end Metrics

end SchemaCatalog
