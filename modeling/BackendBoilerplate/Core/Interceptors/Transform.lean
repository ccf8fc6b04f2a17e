import BackendBoilerplate.Lib.JsValue

/-!
`TransformInterceptor`: the envelope around every answer. It is the only global
interceptor that touches an answer, so what a service returns is what
`JSON.stringify` sees.
-/
namespace BackendBoilerplate
open JavaScript

/-- What the interceptor reads of a request. -/
structure RequestHead where
  method : String
  path : String
  requestId : Option String
  deriving DecidableEq, Repr

/-- `GET` on a path that matches `/^\/(?:api\/)?metrics(?:\/.*)?$/` up to its query. -/
def RequestHead.scrape (head : RequestHead) : Bool :=
  let path := head.path.toList.takeWhile (· ≠ '?')
  head.method == "GET" && ["/metrics", "/api/metrics"].any fun base =>
    path == base.toList || (base.toList ++ ['/']).isPrefixOf path

/-- `iso` is `Date.prototype.toISOString`, of the time at which the answer goes out. -/
def TransformInterceptor.intercept (iso : Int → String) (head : RequestHead) (now : Int)
    (data : JsVal) : JsVal :=
  if head.scrape then data
  else if data.hasOwn "success" then data
  else
    .obj [("success", .bool true), ("data", data), ("timestamp", .str (iso now)),
      ("requestId", optional head.requestId)]

/-- Under any other name, the envelope shows what the answer in it shows. -/
theorem shows_intercept {iso : Int → String} {key : String} {head : RequestHead} {now : Int}
    {data : JsVal} (hkey : key ∉ ["success", "data", "timestamp", "requestId"]) :
    Shows iso key (TransformInterceptor.intercept iso head now data) ↔ Shows iso key data := by
  rw [TransformInterceptor.intercept]
  split
  · rfl
  · split
    · rfl
    · simp only [List.mem_cons, List.not_mem_nil, or_false, not_or, eq_comm (a := key)] at hkey
      simp [hkey]

end BackendBoilerplate
