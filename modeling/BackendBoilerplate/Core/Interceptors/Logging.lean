import BackendBoilerplate.Shared.MaskUtil

/-!
What a request leaves in the log. Its body is masked there, and two bodies that differ only
where the mask shows nothing leave the same entry.
-/
namespace BackendBoilerplate
open JavaScript MaskUtil

structure LoggedRequest where
  method : String
  url : String
  headers : String → Option String
  body : JsonValue

/-- The entry for an incoming request. -/
structure RequestEntry where
  type : String := "REQUEST"
  requestId : Option String
  method : String
  url : String
  body : JsonValue

/-- The first entry that `intercept` logs; where the masking throws, the request fails. -/
def LoggingInterceptor.logRequest (request : LoggedRequest) : Except JsError RequestEntry :=
  (maskObject request.body).map fun body =>
    { requestId := request.headers "x-request-id"
      method := request.method
      url := request.url
      body }

/-- The masked value is the value with its sensitive properties masked, and nothing else. -/
def ExactlyMasked (v : ParsedValue) : Prop := maskObject v.value = .ok (maskedExactly v.value)

/-- The bodies agree outside sensitive properties, and in what a mask may show of those. -/
def AgreeMasked (v w : ParsedValue) : Prop :=
  v.value.AgreeBut (fun key => decide (NamesSensitive key)) (fun a b => visible a = visible b)
    w.value

/-- For all bodies that `JSON.parse` builds, the masking is exact at every depth, and bodies that
agree in what it may show leave the same entry, exactly when no object that it comes to has a
property named `__proto__` and every sensitive value has a text and is not `false`. -/
theorem masking_exact_iff (request : LoggedRequest) (v w : ParsedValue) :
    (ExactlyMasked v ∧ ExactlyMasked w ∧
        (AgreeMasked v w →
          LoggingInterceptor.logRequest { request with body := v.value } =
            LoggingInterceptor.logRequest { request with body := w.value })) ↔
      Clean v.value ∧ Clean w.value := by
  rw [← maskObject_eq_iff v.value v.apart, ← maskObject_eq_iff w.value w.apart]
  constructor
  · exact fun h => ⟨h.1, h.2.1⟩
  · rintro ⟨hv, hw⟩
    refine ⟨hv, hw, fun hagree => ?_⟩
    have hsame : maskedExactly v.value = maskedExactly w.value :=
      JsonTree.AgreeBut.rewriteAt_eq (fun a b h => by rw [h]) v.value w.value hagree
    rw [LoggingInterceptor.logRequest, LoggingInterceptor.logRequest]
    dsimp only
    rw [hv, hw, hsame]

/-- An object with one property. -/
def ofProperty (key : String) (v : ParsedValue) : ParsedValue :=
  ⟨.obj [(units key, v.value)], List.nodup_singleton _, v.apart, trivial⟩

/-- A property named `__proto__` is dropped, a sensitive object with a property named `toString`
makes the masking throw, and `false` is masked as if its text were not of five characters. -/
theorem masking_not_exact :
    ¬ ExactlyMasked (ofProperty "__proto__" ⟨.num (units "1"), trivial⟩) ∧
      ¬ ExactlyMasked
        (ofProperty "password" (ofProperty "toString" ⟨.num (units "1"), trivial⟩)) ∧
      ¬ ExactlyMasked (ofProperty "token" ⟨.bool false, trivial⟩) := by
  refine ⟨fun h => ?_, fun h => ?_, fun h => ?_⟩
  · cases h
  · cases h
  · cases h

end BackendBoilerplate
