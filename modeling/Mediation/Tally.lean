import Mediation.Duration
import Mediation.Number.Shortest
import Mediation.SocketAddress

/-!
# Tallies

The engine counts what happens: counters that only grow, two histograms of times, and a gauge of
the requests that wait for a reply. A `Tally` lists what was counted, the latest first, so the value
of a counter is how often it occurs in the list.
-/

set_option autoImplicit false

namespace Mediation

/-- The counters. -/
inductive Counter
  | repliesMatched
  | repliesTimedOut
  | repliesEarly
  | repliesOrphaned
  | repliesMalformed
  | redeliveries
  | failuresHandled
  | redeliveryExhausted
  | rollbacks
  | exchangesCompleted
  | exchangesFailed
  | exchangesRolledBack
deriving DecidableEq, Repr

namespace Counter

def all : List Counter :=
  [repliesMatched, repliesTimedOut, repliesEarly, repliesOrphaned, repliesMalformed, redeliveries,
   failuresHandled, redeliveryExhausted, rollbacks, exchangesCompleted, exchangesFailed,
   exchangesRolledBack]

/-- The name under which a counter is published. -/
def name : Counter → String
  | repliesMatched => "courier_replies_matched_total"
  | repliesTimedOut => "courier_replies_timed_out_total"
  | repliesEarly => "courier_replies_early_total"
  | repliesOrphaned => "courier_replies_orphaned_total"
  | repliesMalformed => "courier_replies_malformed_total"
  | redeliveries => "courier_redeliveries_total"
  | failuresHandled => "courier_failures_handled_total"
  | redeliveryExhausted => "courier_redelivery_exhausted_total"
  | rollbacks => "courier_rollbacks_total"
  | exchangesCompleted => "courier_exchanges_completed_total"
  | exchangesFailed => "courier_exchanges_failed_total"
  | exchangesRolledBack => "courier_exchanges_rolled_back_total"

def help : Counter → String
  | repliesMatched => "Total number of replies matched to an outstanding request"
  | repliesTimedOut => "Total number of requests finalised by the timeout sweep"
  | repliesEarly => "Total number of replies that arrived before their request was registered"
  | repliesOrphaned => "Total number of replies dropped because no request matched"
  | repliesMalformed => "Total number of replies dropped because they had no correlation id"
  | redeliveries => "Total number of redelivery attempts"
  | failuresHandled => "Total number of failures converted to a normal outcome"
  | redeliveryExhausted =>
    "Total number of failures propagated after redelivery was exhausted"
  | rollbacks => "Total number of rollback outcomes"
  | exchangesCompleted => "Total number of exchanges that completed"
  | exchangesFailed => "Total number of exchanges that ended with a failure"
  | exchangesRolledBack => "Total number of exchanges that ended rolled back"

end Counter

/-- The histograms. -/
inductive Histogram
  | replyLatency
  | exchangeDuration
deriving DecidableEq, Repr

namespace Histogram

def all : List Histogram := [replyLatency, exchangeDuration]

/-- The name under which a histogram is published. -/
def name : Histogram → String
  | replyLatency => "courier_reply_latency_seconds"
  | exchangeDuration => "courier_exchange_duration_seconds"

def help : Histogram → String
  | replyLatency => "Time between registering a request and resolving it"
  | exchangeDuration => "Time taken to run an exchange through a pipeline"

end Histogram

/-- The gauge of requests that wait for a reply. -/
def pendingGaugeName : String := "courier_pending_requests"

def pendingGaugeHelp : String := "Number of requests awaiting a reply"

/-- The kinds of metrics. -/
inductive MetricKind
  | counter
  | gauge
  | histogram
deriving DecidableEq, Repr

namespace MetricKind

def name : MetricKind → String
  | counter => "counter"
  | gauge => "gauge"
  | histogram => "histogram"

end MetricKind

/-- The description and the kind of a published metric. -/
def describeMetric? (name : String) : Option (String × MetricKind) :=
  if name = pendingGaugeName then some (pendingGaugeHelp, .gauge)
  else match Counter.all.find? fun counter => counter.name = name with
    | some counter => some (counter.help, .counter)
    | none =>
      (Histogram.all.find? fun histogram => histogram.name = name).map fun histogram =>
        (histogram.help, .histogram)

/-! ## Tallies -/

/-- What has been counted. -/
structure Tally where
  counted : List Counter
  observed : List (Histogram × Duration)
deriving Repr

namespace Tally

def empty : Tally := { counted := [], observed := [] }

instance : Inhabited Tally := ⟨empty⟩

def count (tally : Tally) (counter : Counter) : Tally :=
  { tally with counted := counter :: tally.counted }

def observe (tally : Tally) (histogram : Histogram) (time : Duration) : Tally :=
  { tally with observed := (histogram, time) :: tally.observed }

/-- Counts one more, with the time that it took. -/
def countTimed (tally : Tally) (counter : Counter) (histogram : Histogram) (time : Duration) :
    Tally :=
  (tally.count counter).observe histogram time

def append (tally other : Tally) : Tally :=
  { counted := tally.counted ++ other.counted, observed := tally.observed ++ other.observed }

def value (tally : Tally) (counter : Counter) : Nat := tally.counted.count counter

def times (tally : Tally) (histogram : Histogram) : List Duration :=
  (tally.observed.filter fun entry => entry.1 = histogram).map (·.2)

end Tally

/-! ## Buckets -/

/-- The upper bounds of the buckets of both histograms: the decimal digits of each bound and the
exponent of the last of them, under the text that the bound is published with. -/
def bucketBounds : List (String × Nat × Int) :=
  [("0.001", 1, -3), ("0.005", 5, -3), ("0.01", 1, -2), ("0.025", 25, -3), ("0.05", 5, -2),
   ("0.1", 1, -1), ("0.25", 25, -2), ("0.5", 5, -1), ("1", 1, 0), ("2.5", 25, -1), ("5", 5, 0),
   ("10", 10, 0), ("30", 30, 0)]

/-- Whether a time falls at or below a bound. -/
def Duration.within (d : Duration) (digits : Nat) (exponent : Int) : Bool :=
  match Binary64.ofDecimal? digits exponent with
  | some bound => d.inSeconds.le bound
  | none => false

/-- How many times fall at or below each bound, and how many there are. -/
def bucketCounts (times : List Duration) : List (String × Nat) :=
  (bucketBounds.map fun (label, digits, exponent) =>
    (label, times.countP fun time => time.within digits exponent)) ++ [("+Inf", times.length)]

namespace Tally

/-- The counters and histogram counts that are not zero, under their published names. -/
def published (tally : Tally) : List (String × Nat) :=
  let counters := Counter.all.map fun counter => (counter.name, tally.value counter)
  let histograms := Histogram.all.map fun histogram =>
    (histogram.name ++ "_count", (tally.times histogram).length)
  (counters ++ histograms).filter fun entry => entry.2 ≠ 0

/-- The buckets that are not empty, under their published names. -/
def publishedBuckets (tally : Tally) : List (String × Nat) :=
  let buckets := Histogram.all.flatMap fun histogram =>
    (bucketCounts (tally.times histogram)).map fun (label, count) =>
      (histogram.name ++ "_bucket\x7ble=\"" ++ label ++ "\"\x7d", count)
  buckets.filter fun entry => entry.2 ≠ 0

end Tally

/-! ## The gauge -/

/-- What the gauge shows for a number of requests: gauges are doubles, so a large number is shown
rounded, and as no more than the largest number of 64 bits. -/
def gaugeReading (requests : Nat) : Nat := (Binary64.ofNat requests).truncate (UInt64.size - 1)

/-! ## Publishing errors -/

/-- Why metrics could not be published. -/
inductive MetricsError
  | build (reason : String)
  | install (address : SocketAddress) (reason : String)
deriving DecidableEq, Repr

namespace MetricsError

def text : MetricsError → String
  | build reason => "Failed to build metrics exporter: " ++ reason
  | install address reason =>
    "Failed to install metrics exporter on " ++ address.text ++ ": " ++ reason

end MetricsError

end Mediation
