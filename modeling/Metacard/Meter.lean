import Metacard.Number.Binary64
/-!
# Measurements

What happens is noted as observations, oldest first. Each belongs to a series, named by a metric and
its labels, and the observations of a series add up to one measure: a count, the last level, or all
samples.

This is what `record_query`, `record_compile`, `set_schema_version` and the other recorders note.
-/

set_option autoImplicit false

namespace Metacard

inductive Observation where
  | operation (name status : String)
  | latency (name : String) (milliseconds : Option Nat)
  | hits (found : Nat)
  | compilation (succeeded : Bool)
  | failure (name kind : String)
  | schemaVersion (version : Nat)
  | schemaAttributes (size : Nat)
  | refresh (status : String)
  | enumerationFailure (group : String)
  deriving DecidableEq, Repr

/-- The name of a series: a metric with the values of its labels, in order of label. -/
structure Series where
  metric : String
  labels : List (String × String)
  deriving DecidableEq, Repr

inductive Measure where
  | counter (count : Nat)
  | gauge (level : Nat)
  | histogram (samples : List Nat)
  | latencies (samples : List (Option Nat))
  deriving DecidableEq, Repr

def Series.render (series : Series) : String :=
  series.metric ++ "\x7b" ++
    String.intercalate "," (series.labels.map fun label => label.1 ++ "=" ++ label.2) ++ "\x7d"

namespace Observation

def outcome (succeeded : Bool) : String :=
  if succeeded then "success" else "error"

def series : Observation → Series
  | .operation name status =>
      ⟨"catalog_query_operations_total", [("operation", name), ("status", status)]⟩
  | .latency name _ => ⟨"catalog_query_operation_seconds", [("operation", name)]⟩
  | .hits _ => ⟨"catalog_query_hits", []⟩
  | .compilation succeeded =>
      ⟨"catalog_query_compilations_total", [("status", outcome succeeded)]⟩
  | .failure name kind =>
      ⟨"catalog_query_errors_total", [("error_type", kind), ("operation", name)]⟩
  | .schemaVersion _ => ⟨"catalog_query_schema_version", []⟩
  | .schemaAttributes _ => ⟨"catalog_query_schema_attributes", []⟩
  | .refresh status => ⟨"catalog_query_schema_refresh_total", [("status", status)]⟩
  | .enumerationFailure group =>
      ⟨"catalog_query_enumeration_failures_total", [("group", group)]⟩

def addTo (observation : Observation) (measure : Option Measure) : Measure :=
  match observation, measure with
  | .latency _ time, some (.latencies samples) => .latencies (samples ++ [time])
  | .latency _ time, _ => .latencies [time]
  | .hits found, some (.histogram samples) => .histogram (samples ++ [found])
  | .hits found, _ => .histogram [found]
  | .schemaVersion version, _ => .gauge version
  | .schemaAttributes size, _ => .gauge size
  | _, some (.counter count) => .counter (count + 1)
  | _, _ => .counter 1

end Observation

/-- A time in seconds: the whole seconds and the rest, rounded one by one. -/
def Magnitude.ofMilliseconds (milliseconds : Nat) : Magnitude :=
  let whole := Magnitude.ofNat (milliseconds / 1000)
  let nanoseconds := Magnitude.ofNat (milliseconds % 1000 * 1000000)
  let rest := (nanoseconds.div? (.ofNat 1000000000)).getD .zero
  (whole.add? rest).getD .greatest

/-- The observations made so far, oldest first. -/
structure Meter where
  observations : List Observation
  deriving DecidableEq, Repr

namespace Meter

def empty : Meter where
  observations := []

instance : Inhabited Meter := ⟨empty⟩

def note (meter : Meter) (observation : Observation) : Meter where
  observations := meter.observations ++ [observation]

def count (meter : Meter) (observation : Observation) : Nat :=
  meter.observations.count observation

def addTo (observation : Observation) : List (Series × Measure) → List (Series × Measure)
  | [] => [(observation.series, observation.addTo none)]
  | entry :: rest =>
      if entry.1 = observation.series then (entry.1, observation.addTo (some entry.2)) :: rest
      else entry :: addTo observation rest

/-- The measures of all series, in the order in which the series were first observed. -/
def measures (meter : Meter) : List (Series × Measure) :=
  meter.observations.foldl (fun measures observation => addTo observation measures) []

/-- The measures of all series with the texts of their names, in ascending order of text. Series
with one text stay apart. -/
def report (meter : Meter) : List (String × Measure) :=
  (meter.measures.map fun entry => (entry.1.render, entry.2)).mergeSort fun left right =>
    left.1 ≤ right.1

@[simp]
theorem count_note (meter : Meter) (noted observation : Observation) :
    (meter.note noted).count observation =
      meter.count observation + if noted = observation then 1 else 0 := by
  simp [note, count, List.count_append, List.count_singleton, beq_iff_eq]

end Meter

end Metacard
