import BackendBoilerplate.Lib.JsValue
import BackendBoilerplate.Lib.Observable
import Mathlib.Data.Rat.Defs

/-!
`MetricsInterceptor` around the observable of a handler. The request is counted in the
callbacks on values and on an error: what emits no value is not counted when it completes,
and what emits several is counted as often.
-/
namespace BackendBoilerplate
open JavaScript Rx

structure MetricLabels where
  method : String
  route : String
  status : JsVal

/-- The increments of `http_requests_total` and the observations of
`http_request_duration_seconds`. -/
structure HttpMetrics where
  requestsTotal : List MetricLabels
  requestDuration : List (MetricLabels × ℚ)

/-- What the interceptor reads of a request. -/
structure MeteredRequest where
  method : String
  routePath : Option String
  url : String

/-- A value, and the status of the response and the time at which it is emitted. -/
structure EmittedValue where
  value : JsVal
  statusCode : Nat
  now : Int

/-- What a handler failed with, and when. -/
structure HandlerError where
  error : JsVal
  now : Int

namespace MetricsInterceptor

/-- `request.route?.path || request.url`. -/
def route (request : MeteredRequest) : String :=
  (request.routePath.filter (· ≠ "")).getD request.url

/-- The counter and the histogram, under the same labels. -/
def record (metrics : HttpMetrics) (labels : MetricLabels) (duration : ℚ) : HttpMetrics :=
  { requestsTotal := metrics.requestsTotal ++ [labels]
    requestDuration := metrics.requestDuration ++ [(labels, duration)] }

section
variable (request : MeteredRequest) (startTime : Int)

def recordNext (metrics : HttpMetrics) (emitted : EmittedValue) : HttpMetrics :=
  record metrics ⟨request.method, route request, .num (toString emitted.statusCode)⟩
    ((emitted.now - startTime : Int) / 1000)

def onNext : Callback HandlerError HttpMetrics EmittedValue := fun metrics emitted =>
  (.ok (), recordNext request startTime metrics emitted)

/-- `error.status` of what has no properties. -/
def cannotReadStatus (of : String) : JsVal :=
  .obj [("message", .str ("Cannot read properties of " ++ of ++ " (reading 'status')"))]

def onError : Callback HandlerError HttpMetrics HandlerError := fun metrics failure =>
  match failure.error with
  | .undefined => (.error ⟨cannotReadStatus "undefined", failure.now⟩, metrics)
  | .null => (.error ⟨cannotReadStatus "null", failure.now⟩, metrics)
  | error =>
      (.ok (), record metrics ⟨request.method, route request, (error.prop "status").or (.num "500")⟩
        ((failure.now - startTime : Int) / 1000))

def intercept (emissions : Emissions HandlerError EmittedValue) (metrics : HttpMetrics) :
    Emissions HandlerError EmittedValue × HttpMetrics :=
  tap (onNext request startTime) (onError request startTime) emissions.ending emissions.values
    metrics

end

end MetricsInterceptor

/-- One increment and one observation more. -/
structure CountedOnce (before after : HttpMetrics) : Prop where
  request : after.requestsTotal.length = before.requestsTotal.length + 1
  duration : after.requestDuration.length = before.requestDuration.length + 1

/-- The end of an observable at which its request is counted: an error whose status can be
read. -/
def CountedEnding : Ending HandlerError → Prop
  | .error failure => failure.error ≠ .undefined ∧ failure.error ≠ .null
  | _ => False

namespace MetricsInterceptor
variable (request : MeteredRequest) (startTime : Int)

/-- Both metrics grow together. -/
def GrownBy (n : Nat) (before after : HttpMetrics) : Prop :=
  after.requestsTotal.length = before.requestsTotal.length + n ∧
    after.requestDuration.length = before.requestDuration.length + n

theorem countedOnce_iff {n : Nat} {before after : HttpMetrics} (h : GrownBy n before after) :
    CountedOnce before after ↔ n = 1 := by
  constructor
  · intro once
    have := h.1.symm.trans once.request
    omega
  · rintro rfl
    exact ⟨h.1, h.2⟩

theorem grownBy_record (metrics : HttpMetrics) (labels : MetricLabels) (duration : ℚ) :
    GrownBy 1 metrics (record metrics labels duration) := by
  simp [GrownBy, record]

theorem GrownBy.trans {m n : Nat} {a b c : HttpMetrics} (h : GrownBy m a b) (h' : GrownBy n b c) :
    GrownBy (m + n) a c := by
  obtain ⟨hrequests, hdurations⟩ := h
  obtain ⟨hrequests', hdurations'⟩ := h'
  constructor <;> omega

/-- Every value counts once more. -/
theorem grownBy_values (values : List EmittedValue) (metrics : HttpMetrics) :
    GrownBy values.length metrics (values.foldl (recordNext request startTime) metrics) := by
  induction values generalizing metrics with
  | nil => exact ⟨rfl, rfl⟩
  | cons emitted values ih =>
      rw [List.foldl_cons, List.length_cons, Nat.add_comm]
      exact (grownBy_record _ _ _).trans (ih _)

theorem grownBy_ending (ending : Ending HandlerError) (metrics : HttpMetrics) :
    CountedEnding ending ∧
        GrownBy 1 metrics (tapEnding (onError request startTime) metrics ending).2 ∨
      ¬ CountedEnding ending ∧
        GrownBy 0 metrics (tapEnding (onError request startTime) metrics ending).2 := by
  cases ending with
  | complete => exact .inr ⟨id, rfl, rfl⟩
  | unsubscribed => exact .inr ⟨id, rfl, rfl⟩
  | error failure =>
      obtain ⟨error, now⟩ := failure
      cases error with
      | undefined => exact .inr ⟨fun h => h.1 rfl, rfl, rfl⟩
      | null => exact .inr ⟨fun h => h.2 rfl, rfl, rfl⟩
      | _ => exact .inl ⟨⟨nofun, nofun⟩, grownBy_record _ _ _⟩

/-- What the handler emits passes through, and so does its end, but that an error without
properties is replaced. -/
theorem intercept_eq (emissions : Emissions HandlerError EmittedValue) (metrics : HttpMetrics) :
    intercept request startTime emissions metrics =
      (⟨emissions.values, (tapEnding (onError request startTime)
          (emissions.values.foldl (recordNext request startTime) metrics) emissions.ending).1⟩,
        (tapEnding (onError request startTime)
          (emissions.values.foldl (recordNext request startTime) metrics) emissions.ending).2) :=
  tap_of_returns (fun _ _ => rfl) emissions.ending emissions.values metrics

end MetricsInterceptor

/-- A request is counted once exactly if its handler emits one value and no error of which it
is counted, or fails with one and has emitted nothing; of an observable without an end it
is counted once at the time of its first value only. -/
theorem request_counted_once_iff (request : MeteredRequest) (startTime : Int)
    (metrics : HttpMetrics) :
    (∀ emissions : Emissions HandlerError EmittedValue,
      CountedOnce metrics
          (MetricsInterceptor.intercept request startTime emissions metrics).2 ↔
        emissions.values.length = 1 ∧ ¬ CountedEnding emissions.ending ∨
          emissions.values = [] ∧ CountedEnding emissions.ending) ∧
    ∀ (unbounded : Nat → EmittedValue) n,
      CountedOnce metrics (MetricsInterceptor.intercept request startTime
          ⟨(List.range n).map unbounded, .unsubscribed⟩ metrics).2 ↔ n = 1 := by
  have finite (emissions : Emissions HandlerError EmittedValue) :
      CountedOnce metrics
          (MetricsInterceptor.intercept request startTime emissions metrics).2 ↔
        emissions.values.length = 1 ∧ ¬ CountedEnding emissions.ending ∨
          emissions.values = [] ∧ CountedEnding emissions.ending := by
    have values := MetricsInterceptor.grownBy_values request startTime emissions.values metrics
    rw [MetricsInterceptor.intercept_eq, ← List.length_eq_zero_iff]
    cases MetricsInterceptor.grownBy_ending request startTime emissions.ending
        (emissions.values.foldl (MetricsInterceptor.recordNext request startTime) metrics) with
    | inl counted =>
        rw [MetricsInterceptor.countedOnce_iff (values.trans counted.2)]
        simp [counted.1]
    | inr uncounted =>
        rw [MetricsInterceptor.countedOnce_iff (values.trans uncounted.2)]
        simp [uncounted.1]
  refine ⟨finite, fun unbounded n => ?_⟩
  rw [finite]
  simp [CountedEnding]

/-! A stream of two events that the client leaves, and a handler that emits nothing. -/

def eventsRequest : MeteredRequest :=
  ⟨"GET", some "/api/v1/streaming/events", "/api/v1/streaming/events"⟩

def noMetrics : HttpMetrics := ⟨[], []⟩

/-- The stream is counted twice, and what completes without a value is not counted. -/
theorem request_not_counted_once :
    (MetricsInterceptor.intercept eventsRequest 0
        ⟨[⟨.undefined, 200, 1000⟩, ⟨.undefined, 200, 2000⟩], .unsubscribed⟩
        noMetrics).2.requestsTotal.length = 2 ∧
      (MetricsInterceptor.intercept eventsRequest 0 ⟨[], .complete⟩
        noMetrics).2.requestsTotal.length = 0 := by
  exact ⟨rfl, rfl⟩

end BackendBoilerplate
