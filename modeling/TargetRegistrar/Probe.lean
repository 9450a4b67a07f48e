import TargetRegistrar.Http.Message
import TargetRegistrar.Metrics
import TargetRegistrar.Text

/-!
# Probes

The pages on which the controller can be observed: whether it is alive, whether it is ready, and its
counters. Pages can only be read; every other path is unknown.

The counters are shown in the text format of version 0.0.4: for each family a line of help, a line
with its type, and a line per series. Families are sorted by name and series by the values of their
labels; a family without series is left out.
-/

namespace TargetRegistrar.Metrics

/-! ## Counters as text -/

/-- A line of a family: what is added to the family's name, the labels, and the number. -/
structure Sample where
  /-- The rest of the name after that of the family. -/
  ending : String := ""
  /-- The labels with their values, sorted by label. -/
  labels : List (String × String)
  /-- The number as text. -/
  value : String

/-- The counters that share a name. -/
structure Family where
  name : String
  help : String
  kind : String
  samples : List Sample

/-- The value of a label between its quotes. -/
def escapedLabel (s : String) : String :=
  String.join <| s.toList.map fun c =>
    if c = '\\' then "\\\\" else if c = '\n' then "\\n" else if c = '"' then "\\\"" else c.toString

/-- The labels of a series; nothing if there are none. -/
def writtenLabels (labels : List (String × String)) : String :=
  if labels.isEmpty then ""
  else
    let texts := labels.map fun l => l.1 ++ "=\"" ++ escapedLabel l.2 ++ "\""
    "\x7b" ++ String.intercalate "," texts ++ "\x7d"

/-- The lines of a family. -/
def Family.write (f : Family) : String :=
  if f.samples.isEmpty then ""
  else
    "# HELP " ++ f.name ++ " " ++ f.help ++ "\n# TYPE " ++ f.name ++ " " ++ f.kind ++ "\n" ++
      String.join (f.samples.map fun s =>
        f.name ++ s.ending ++ writtenLabels s.labels ++ " " ++ s.value ++ "\n")

/-- The order of series: by the values of their labels, from the left. -/
def labelsLe : List String → List String → Bool
  | [], _ => true
  | _ :: _, [] => false
  | a :: as, b :: bs => a < b || (a = b && labelsLe as bs)

/-- The lines of counters under their label values. -/
def counterSamples (names : List String) (series : List (List String × Nat)) : List Sample :=
  (series.mergeSort fun a b => labelsLe a.1 b.1).map fun s =>
    { labels := names.zip s.1, value := toString s.2 }

/-- The lines of a histogram: one per bound, one without a bound, the sum and the number of
values. -/
def histogramSamples (h : Histogram) : List Sample :=
  (Histogram.cumulative 0 h.buckets).map (fun b =>
      { ending := "_bucket"
        labels := [("le", Text.shortestDecimal b.1)]
        value := toString b.2 }) ++
    [{ ending := "_bucket", labels := [("le", "+Inf")], value := toString h.count },
     { ending := "_sum", labels := [], value := Text.shortestDecimal h.sum },
     { ending := "_count", labels := [], value := toString h.count }]

/-- The series of the failed passes. -/
def errorSeries (m : Metrics) : List (List String × Nat) :=
  m.errors.entries.map fun e => ([e.1], e.2)

/-- The series of the remote operations. -/
def callSeries (m : Metrics) : List (List String × Nat) :=
  m.calls.entries.map fun e => ([e.1.1, e.1.2], e.2)

/-- The series of the scheduled repetitions. -/
def requeueSeries (m : Metrics) : List (List String × Nat) :=
  m.requeues.entries.map fun e => ([e.1], e.2)

/-- The families in the order of their names. -/
def families (m : Metrics) : List Family :=
  [⟨"mcp_gateway_gateway_calls_total", "Total number of gateway target API calls", "counter",
      counterSamples ["operation", "outcome"] m.callSeries⟩,
   ⟨"mcp_gateway_reconciliation_duration_seconds", "Duration of reconciliation in seconds",
      "histogram", histogramSamples m.durations⟩,
   ⟨"mcp_gateway_reconciliation_errors_total", "Total number of reconciliation errors", "counter",
      counterSamples ["kind"] m.errorSeries⟩,
   ⟨"mcp_gateway_reconciliations_total", "Total number of reconciliations", "counter",
      counterSamples [] [([], m.passes)]⟩,
   ⟨"mcp_gateway_requeues_total", "Total number of reconciliation requeues", "counter",
      counterSamples ["reason"] m.requeueSeries⟩]

/-- All counters as text. -/
def expose (m : Metrics) : String :=
  String.join (m.families.map Family.write)

end TargetRegistrar.Metrics

namespace TargetRegistrar

/-! ## Pages -/

/-- What the probes show. -/
structure Probe where
  ready : Bool := false
  metrics : Metrics := {}

namespace Probe

open Http

/-- The pages. -/
inductive Page where
  | health
  | readiness
  | metrics
  deriving DecidableEq, Repr

/-- The page at a path. -/
def Page.at? (path : String) : Option Page :=
  if path = "/healthz" then some .health
  else if path = "/readyz" then some .readiness
  else if path = "/metrics" then some .metrics
  else none

/-- A page of one word. -/
def plain (status : Nat) (text : String) : Response :=
  ⟨status, [("content-type", "text/plain; charset=utf-8")], text⟩

/-- A page as it is now. -/
def read (p : Probe) : Page → Response
  | .health => plain 200 "ok"
  | .readiness => if p.ready then plain 200 "ok" else plain 503 "not ready"
  | .metrics => ⟨200, [("content-type", "text/plain; version=0.0.4")], p.metrics.expose⟩

/-- The response to a request: `HEAD` reads a page without its body, and any other method than `GET`
is refused. -/
def respond (p : Probe) (method path : String) : Response :=
  match Page.at? path with
  | none => ⟨404, [], ""⟩
  | some page =>
    if method = "GET" then p.read page
    else if method = "HEAD" then { p.read page with body := "" }
    else ⟨405, [], ""⟩

end Probe

end TargetRegistrar
