/-
  `Exposition` — the metrics as lines of text.

  Each family has a line of help, a line with its type, and its samples; families are in ascending
  order of their names, samples in ascending order of their labels. A family without samples is not
  shown. The buckets of a histogram are shown added up.

  On some systems there are also families about the process that serves, such as the time and the memory
  that it takes. What they show is up to the system; they are shown among the others.
-/
import SchemaCatalog.Binary64.Shortest
import SchemaCatalog.Metrics.Basic

namespace SchemaCatalog.Metrics

/-- The media type of the text. -/
def mediaType : String := "text/plain; version=0.0.4"

/-- Numbers have a plain point, and whole numbers none. -/
def layout : Binary64.Layout := ⟨none, none, false, false⟩

/-- The text of a number. -/
def numberText (x : Binary64) : String := String.ofList (x.text layout)

/-- The text of a natural number, which is shown as the nearest floating-point number. -/
def countText (n : Nat) : String := numberText (Binary64.ofNat n)

/-- What stands for a character of a label's value. -/
def escapeChar (c : Char) : List Char :=
  if c = '\\' then ['\\', '\\']
  else if c = '"' then ['\\', '"']
  else if c = '\n' then ['\\', 'n']
  else [c]

/-- A label with its value. -/
def label (name value : String) : String :=
  name ++ "=\"" ++ String.ofList (value.toList.flatMap escapeChar) ++ "\""

/-- A line with a sample. -/
def sample (name : String) (labels : List String) (value : String) : String :=
  if labels.isEmpty then name ++ " " ++ value
  else name ++ "\x7b" ++ String.intercalate "," labels ++ "\x7d " ++ value

/-- Samples that are shown together. -/
structure Family where
  name : String
  help : String
  type : String
  /-- The lines with the samples. -/
  samples : List String
deriving DecidableEq, Repr, Inhabited

/-- The lines of a family. -/
def Family.lines (f : Family) : List String :=
  if f.samples.isEmpty then []
  else ("# HELP " ++ f.name ++ " " ++ f.help) :: ("# TYPE " ++ f.name ++ " " ++ f.type) :: f.samples

/-- The samples of the buckets of a histogram, each with the counts of those before it, which come to
`before` so far. -/
def bucketSamples (name method : String) (before : Nat) : (bounds buckets : List Nat) → List String
  | bound :: bounds, n :: buckets =>
    sample (name ++ "_bucket") [label "method" method, label "le" (numberText (boundSeconds bound))]
      (countText (before + n)) :: bucketSamples name method (before + n) bounds buckets
  | _, _ => []

/-- The samples of a histogram. -/
def histogramSamples (name method : String) (h : Histogram) : List String :=
  let labels := [label "method" method]
  bucketSamples name method 0 latencyBounds h.buckets ++
    [sample (name ++ "_bucket") [label "method" method, label "le" "+Inf"] (countText h.count),
     sample (name ++ "_sum") labels (numberText h.sum),
     sample (name ++ "_count") labels (countText h.count)]

/-- The text of the number of schemas. -/
def schemasText (m : Metrics) : String :=
  let n := m.schemas.toInt
  numberText { Binary64.ofNat n.natAbs with negative := decide (n < 0) }

/-- The family of the number of schemas. -/
def schemasFamily (m : Metrics) : Family :=
  let name := "schema_registry_schemas"
  ⟨name, "Schemas currently registered", "gauge", [sample name [] m.schemasText]⟩

/-- The family of the times of calls. -/
def latencyFamily (m : Metrics) : Family :=
  let name := "schema_rpc_request_duration_seconds"
  ⟨name, "RPC call latency", "histogram",
    m.latency.toList.flatMap fun (method, h) => histogramSamples name method h⟩

/-- The family of the numbers of calls. -/
def requestsFamily (m : Metrics) : Family :=
  let name := "schema_rpc_requests_total"
  ⟨name, "RPC calls handled, by method and outcome", "counter",
    (m.requests.values.mergeSort RequestCounter.le).map fun c =>
      sample name [label "method" c.method, label "outcome" c.outcome] (countText c.count)⟩

/-- All lines, with those of the families about the process. -/
def lines (process : List Family) (m : Metrics) : List String :=
  let families := process ++ [m.schemasFamily, m.latencyFamily, m.requestsFamily]
  (families.mergeSort fun a b => a.name ≤ b.name).flatMap Family.lines

/-- The text of lines. -/
def ofLines (lines : List String) : String := String.join (lines.map (· ++ "\n"))

/-- The whole text. -/
def exposition (process : List Family) (m : Metrics) : String := ofLines (m.lines process)

end SchemaCatalog.Metrics
