import Sluice.Metrics.Histogram
import Sluice.Time.Rfc3339

/-!
# The counters of the process

A `Counter` is something that is counted, `Metrics` holds the counts, which are words of 64 bits and
start again at zero after the last, and two histograms of durations in milliseconds.  `get_add` says
what adding to one counter does to all of them.
-/

namespace Sluice

open Json (Value)

/-- What is counted. -/
inductive Counter where
  | batchesReceived
  | eventsReceived
  /-- Events submitted to the internal route. -/
  | internalEventsReceived
  /-- Requests that were refused because there were too many. -/
  | rateLimitedRequests
  /-- Batches rejected by the deny-list. -/
  | batchesDenied
  /-- Batches cut off by the deny-list. -/
  | batchesTruncated
  /-- Loads of the deny-list. -/
  | denyListReloads
  | permitsRequested
  /-- Requests for a permit that failed. -/
  | permitErrors
  /-- Permits for nothing. -/
  | quotaExhausted
  /-- Events that no permit covered. -/
  | eventsDropped
  /-- Releases of allowance. -/
  | releases
  /-- Releases that failed. -/
  | releaseErrors
  | noticesSent
  /-- Notices that could not be sent. -/
  | noticeErrors
  /-- Events that the sink acknowledged. -/
  | eventsForwarded
  /-- Failures of the sink. -/
  | sinkErrors
deriving DecidableEq, Repr

namespace Counter

/-- All counters, in the order of reports. -/
def all : List Counter :=
  [.batchesReceived, .eventsReceived, .internalEventsReceived, .rateLimitedRequests,
    .batchesDenied, .batchesTruncated, .denyListReloads, .permitsRequested, .permitErrors,
    .quotaExhausted, .eventsDropped, .releases, .releaseErrors, .noticesSent, .noticeErrors,
    .eventsForwarded, .sinkErrors]

/-- The name of a counter in reports. -/
def name : Counter → String
  | .batchesReceived => "batches_received"
  | .eventsReceived => "events_received"
  | .internalEventsReceived => "internal_events_received"
  | .rateLimitedRequests => "rate_limited_requests"
  | .batchesDenied => "batches_denied"
  | .batchesTruncated => "batches_truncated_by_deny_list"
  | .denyListReloads => "deny_list_reloads"
  | .permitsRequested => "permits_requested"
  | .permitErrors => "permit_errors"
  | .quotaExhausted => "quota_exhausted"
  | .eventsDropped => "events_dropped_by_quota"
  | .releases => "releases"
  | .releaseErrors => "release_errors"
  | .noticesSent => "limit_notices_sent"
  | .noticeErrors => "limit_notice_errors"
  | .eventsForwarded => "events_forwarded"
  | .sinkErrors => "sink_errors"

/-- The place of a counter among all. -/
def index (c : Counter) : Fin all.length := ⟨all.idxOf c, by cases c <;> decide⟩

theorem get_index (c : Counter) : all.get c.index = c := by cases c <;> rfl

theorem index_inj {c d : Counter} : c.index = d.index ↔ c = d :=
  ⟨fun h => (get_index c).symm.trans ((congrArg all.get h).trans (get_index d)), congrArg index⟩

end Counter

/-- The counts of the process. -/
structure Metrics where
  /-- The counts, by the places of their counters. -/
  counts : Vector UInt64 Counter.all.length
  /-- How long batches took that were not rejected. -/
  publishLatency : Histogram
  /-- How long the sink took. -/
  sinkLatency : Histogram
deriving DecidableEq

namespace Metrics

def zero : Metrics := ⟨Vector.replicate _ 0, .empty, .empty⟩

def get (m : Metrics) (c : Counter) : UInt64 := m.counts[c.index]

/-- The metrics with more on one counter. -/
def add (m : Metrics) (c : Counter) (n : UInt64) : Metrics :=
  { m with counts := m.counts.set c.index (m.get c + n) }

/-- The metrics with one more time for a batch, in milliseconds. -/
def observePublish (m : Metrics) (time : UInt64) : Metrics :=
  { m with publishLatency := m.publishLatency.observe time }

/-- The metrics with one more time for the sink, in milliseconds. -/
def observeSink (m : Metrics) (time : UInt64) : Metrics :=
  { m with sinkLatency := m.sinkLatency.observe time }

@[simp] theorem get_zero (c : Counter) : zero.get c = 0 := by simp [zero, get]

theorem get_add (m : Metrics) (c d : Counter) (n : UInt64) :
    (m.add c n).get d = if c = d then m.get d + n else m.get d := by
  simp only [get, add, Fin.getElem_fin, Vector.getElem_set, Fin.val_inj, Counter.index_inj]
  split
  · rename_i h
    rw [h]
  · rfl

@[simp] theorem get_observePublish (m : Metrics) (time : UInt64) (c : Counter) :
    (m.observePublish time).get c = m.get c := rfl

@[simp] theorem get_observeSink (m : Metrics) (time : UInt64) (c : Counter) :
    (m.observeSink time).get c = m.get c := rfl

/-- The metrics as they are reported at a point in time. -/
def report (m : Metrics) (now : Timestamp) : Value :=
  .object <|
    ("timestamp", .string now.text) ::
      (Counter.all.map fun c => (c.name, .whole (m.get c).toNat)) ++
    [("publish_latency_mean_ms", .double m.publishLatency.mean),
      ("sink_latency_mean_ms", .double m.sinkLatency.mean),
      ("publish_latency_buckets", .list (m.publishLatency.buckets.map fun (bound, n) =>
        .list [.whole bound.toNat, .whole n.toNat]))]

end Metrics

end Sluice
