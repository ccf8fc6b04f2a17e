import BackendBoilerplate.Lib.JsValue

/-!
`HttpExceptionFilter`, which answers for everything that is thrown. The code of an answer
is decided in three places: it stays what it was set to at first, it is looked up by the
status or given by the exception, or the message turns out to be a list.
-/
namespace BackendBoilerplate
open JavaScript

inductive ErrorCode where
  | authUnauthorized
  | authForbidden
  | authInvalidCredentials
  | authTokenExpired
  | authTokenInvalid
  | authUserInactive
  | userNotFound
  | userAlreadyExists
  | userEmailInUse
  | validationError
  | invalidInput
  | databaseError
  | recordNotFound
  | duplicateEntry
  | fileTooLarge
  | fileTypeNotAllowed
  | fileUploadFailed
  | rateLimitExceeded
  | featureDisabled
  | featureNotFound
  | duplicateRequest
  | internalServerError
  | serviceUnavailable
  | badRequest
  | notFound
  deriving DecidableEq, Repr

namespace ErrorCode

def text : ErrorCode → String
  | authUnauthorized => "AUTH_UNAUTHORIZED"
  | authForbidden => "AUTH_FORBIDDEN"
  | authInvalidCredentials => "AUTH_INVALID_CREDENTIALS"
  | authTokenExpired => "AUTH_TOKEN_EXPIRED"
  | authTokenInvalid => "AUTH_TOKEN_INVALID"
  | authUserInactive => "AUTH_USER_INACTIVE"
  | userNotFound => "USER_NOT_FOUND"
  | userAlreadyExists => "USER_ALREADY_EXISTS"
  | userEmailInUse => "USER_EMAIL_IN_USE"
  | validationError => "VALIDATION_ERROR"
  | invalidInput => "INVALID_INPUT"
  | databaseError => "DATABASE_ERROR"
  | recordNotFound => "RECORD_NOT_FOUND"
  | duplicateEntry => "DUPLICATE_ENTRY"
  | fileTooLarge => "FILE_TOO_LARGE"
  | fileTypeNotAllowed => "FILE_TYPE_NOT_ALLOWED"
  | fileUploadFailed => "FILE_UPLOAD_FAILED"
  | rateLimitExceeded => "RATE_LIMIT_EXCEEDED"
  | featureDisabled => "FEATURE_DISABLED"
  | featureNotFound => "FEATURE_NOT_FOUND"
  | duplicateRequest => "DUPLICATE_REQUEST"
  | internalServerError => "INTERNAL_SERVER_ERROR"
  | serviceUnavailable => "SERVICE_UNAVAILABLE"
  | badRequest => "BAD_REQUEST"
  | notFound => "NOT_FOUND"

def js (code : ErrorCode) : JsVal := .str code.text

/-- The codes that blame the server; all others blame the request. -/
def ofServer : ErrorCode → Bool
  | databaseError | fileUploadFailed | internalServerError | serviceUnavailable => true
  | _ => false

@[simp] theorem js_inj {c d : ErrorCode} : c.js = d.js ↔ c = d := by
  refine ⟨fun h => ?_, congrArg js⟩
  have htext : c.text = d.text := JsVal.str.inj h
  cases c <;> cases d <;> first | rfl | exact absurd htext (by decide)

end ErrorCode

/-- `ERROR_MESSAGES[ErrorCode.INTERNAL_SERVER_ERROR]`. -/
def internalServerErrorMessage : String := "Internal server error"

/-- `ERROR_MESSAGES[ErrorCode.VALIDATION_ERROR]`. -/
def validationErrorMessage : String := "Validation failed"

/-- What can be thrown: an `HttpException` with the status and response it was made with,
another `Error`, or anything else. -/
inductive Thrown where
  | http (status : Nat) (response : JsVal)
  | error (message : String)
  | other (v : JsVal)

/-- `new UnauthorizedException(message)` and its siblings. -/
def Thrown.described (status : Nat) (description message : String) : Thrown :=
  .http status (.obj [("message", .str message), ("error", .str description),
    ("statusCode", .num (toString status))])

/-- `String(v)` of a value that is no object. -/
def primitiveText : JsVal → String
  | .undefined => "undefined"
  | .bool b => toString b
  | .num text => text
  | .str s => s
  | _ => ""

namespace HttpExceptionFilter

def mapStatusToErrorCode : Nat → ErrorCode
  | 400 => .badRequest
  | 401 => .authUnauthorized
  | 403 => .authForbidden
  | 404 => .notFound
  | 429 => .rateLimitExceeded
  | 503 => .serviceUnavailable
  | _ => .internalServerError

/-- What an answer says: `status`, `errorCode`, `message` and `details`. -/
structure Answer where
  status : Nat
  errorCode : JsVal
  message : JsVal
  details : JsVal

/-- The branches of `catch`. Reading a property of a response that is null throws. -/
def answer : Thrown → Option Answer
  | .http status response =>
      if response.isObject then
        match response with
        | .null => none
        | response =>
            match response.prop "message" with
            | .arr messages =>
                some ⟨status, ErrorCode.validationError.js, .str validationErrorMessage,
                  .arr messages⟩
            | message =>
                some ⟨status, (response.prop "errorCode").or (mapStatusToErrorCode status).js,
                  message.or (.str internalServerErrorMessage), response.prop "details"⟩
      else
        some ⟨status, ErrorCode.internalServerError.js, .str (primitiveText response), .undefined⟩
  | .error message => some ⟨500, ErrorCode.internalServerError.js, .str message, .undefined⟩
  | .other _ =>
      some ⟨500, ErrorCode.internalServerError.js, .str internalServerErrorMessage, .undefined⟩

/-- The status and the body that are written, unless the filter throws. -/
def catch_ (iso : Int → String) (requestId : JsVal) (now : Int) (exception : Thrown) :
    Option (Nat × JsVal) :=
  (answer exception).map fun a => (a.status,
    .obj [("success", .bool false),
      ("error", .obj [("code", a.errorCode), ("message", a.message), ("details", a.details)]),
      ("timestamp", .str (iso now)), ("requestId", requestId)])

end HttpExceptionFilter

/-- The code in a body. -/
def errorCodeOf (body : JsVal) : JsVal := (body.prop "error").prop "code"

/-- The code of an answer does not blame the server for what a 4xx status says of the request,
nor the request for what a 5xx status says of the server. -/
structure CodeFits (status : Nat) (code : JsVal) : Prop where
  client : 400 ≤ status → status < 500 → code ≠ ErrorCode.internalServerError.js
  server : 500 ≤ status → status < 600 → ∀ c : ErrorCode, c.ofServer = false → code ≠ c.js

/-- Neither a code nor a list of messages comes with the response. -/
def Unlabelled (response : JsVal) : Prop :=
  (response.prop "errorCode").truthy = false ∧ ∀ messages, response.prop "message" ≠ .arr messages

/-- Where the code that is decided on fits: a response that is no object gets no code of
its own, a list is taken for a rejected request, and the table by status has gaps. -/
def Thrown.WellCoded : Thrown → Prop
  | .http status response =>
      (response.isObject = false → ¬ (400 ≤ status ∧ status < 500)) ∧
      (∀ messages, response.prop "message" = .arr messages → ¬ (500 ≤ status ∧ status < 600)) ∧
      ((∀ messages, response.prop "message" ≠ .arr messages) →
        (response.prop "errorCode").truthy → CodeFits status (response.prop "errorCode")) ∧
      (Unlabelled response → 400 ≤ status → status < 500 → status ∈ [400, 401, 403, 404, 429])
  | _ => True

namespace HttpExceptionFilter

theorem catch_some {iso : Int → String} {requestId : JsVal} {now : Int} {exception : Thrown}
    {written : Nat × JsVal} (h : catch_ iso requestId now exception = some written) :
    ∃ a, answer exception = some a ∧ written.1 = a.status ∧
      errorCodeOf written.2 = a.errorCode := by
  obtain ⟨a, ha, rfl⟩ := Option.map_eq_some_iff.mp h
  exact ⟨a, ha, rfl, rfl⟩

theorem mapStatusToErrorCode_eq_internal {status : Nat} :
    mapStatusToErrorCode status = .internalServerError ↔
      status ∉ [400, 401, 403, 404, 429, 503] := by
  unfold mapStatusToErrorCode
  split <;> simp_all

/-- The table never blames the request for a 5xx status, and blames the server for the 4xx
statuses that it does not list. -/
theorem codeFits_mapStatus {status : Nat} :
    CodeFits status (mapStatusToErrorCode status).js ↔
      (400 ≤ status → status < 500 → status ∈ [400, 401, 403, 404, 429]) := by
  constructor
  · intro h hge hlt
    by_contra hgap
    refine h.client hge hlt (congrArg ErrorCode.js (mapStatusToErrorCode_eq_internal.mpr ?_))
    simp only [List.mem_cons, List.not_mem_nil, or_false, not_or] at hgap ⊢
    omega
  · intro h
    refine ⟨fun hge hlt heq => ?_, fun hge hlt c hc heq => ?_⟩
    · have hgap := mapStatusToErrorCode_eq_internal.mp (ErrorCode.js_inj.mp heq)
      have hlisted := h hge hlt
      simp only [List.mem_cons, List.not_mem_nil, or_false, not_or] at hgap hlisted
      omega
    · have hcode := ErrorCode.js_inj.mp heq
      unfold mapStatusToErrorCode at hcode
      split at hcode <;> first | omega | (subst hcode; cases hc)

theorem codeFits_internal {status : Nat} :
    CodeFits status ErrorCode.internalServerError.js ↔ ¬ (400 ≤ status ∧ status < 500) := by
  constructor
  · intro h hclient
    exact h.client hclient.1 hclient.2 rfl
  · intro h
    refine ⟨fun hge hlt => absurd ⟨hge, hlt⟩ h, fun _ _ c hc heq => ?_⟩
    obtain rfl := ErrorCode.js_inj.mp heq
    cases hc

theorem codeFits_validation {status : Nat} :
    CodeFits status ErrorCode.validationError.js ↔ ¬ (500 ≤ status ∧ status < 600) := by
  constructor
  · intro h hserver
    exact h.server hserver.1 hserver.2 .validationError rfl rfl
  · intro h
    refine ⟨fun _ _ heq => ?_, fun hge hlt => absurd ⟨hge, hlt⟩ h⟩
    cases ErrorCode.js_inj.mp heq

section
variable {status : Nat} {response : JsVal} {a : Answer}

theorem answer_string (h : response.isObject = false) :
    answer (.http status response) =
      some ⟨status, ErrorCode.internalServerError.js, .str (primitiveText response), .undefined⟩ := by
  unfold answer
  dsimp only
  rw [h, if_neg Bool.false_ne_true]

theorem answer_list {messages : List JsVal} (h : response.prop "message" = .arr messages) :
    answer (.http status response) =
      some ⟨status, ErrorCode.validationError.js, .str validationErrorMessage, .arr messages⟩ := by
  cases response with
  | obj props => simp only [answer, JsVal.isObject, if_true, h]
  | _ => cases h

theorem answer_object (hobject : response.isObject = true)
    (h : ∀ messages, response.prop "message" ≠ .arr messages)
    (ha : answer (.http status response) = some a) :
    a.status = status ∧
      a.errorCode = (response.prop "errorCode").or (mapStatusToErrorCode status).js := by
  unfold answer at ha
  dsimp only at ha
  rw [if_pos hobject] at ha
  split at ha
  · cases ha
  · split at ha
    · next messages hlist => exact absurd hlist (h messages)
    · rw [← Option.some.inj ha]
      exact ⟨rfl, rfl⟩

theorem unlabelled_of_not_isObject (h : response.isObject = false) : Unlabelled response := by
  cases response <;> first | exact ⟨rfl, nofun⟩ | cases h

/-- A response that is no object blames the server. -/
theorem codeFits_string (hobject : response.isObject = false)
    (ha : answer (.http status response) = some a) :
    CodeFits a.status a.errorCode ↔ (Thrown.http status response).WellCoded := by
  have unlabelled := unlabelled_of_not_isObject hobject
  rw [answer_string hobject] at ha
  rw [← Option.some.inj ha, codeFits_internal]
  constructor
  · intro h
    refine ⟨fun _ => h, fun messages hlist => ?_, fun _ htruthy => ?_, fun _ hge hlt => ?_⟩
    · exact absurd hlist (unlabelled.2 messages)
    · rw [unlabelled.1] at htruthy
      cases htruthy
    · exact absurd ⟨hge, hlt⟩ h
  · intro h
    exact h.1 hobject

/-- A list of messages blames the request. -/
theorem codeFits_list {messages : List JsVal} (hobject : response.isObject = true)
    (hlist : response.prop "message" = .arr messages)
    (ha : answer (.http status response) = some a) :
    CodeFits a.status a.errorCode ↔ (Thrown.http status response).WellCoded := by
  rw [answer_list hlist] at ha
  rw [← Option.some.inj ha, codeFits_validation]
  constructor
  · intro h
    refine ⟨fun hstring => ?_, fun _ _ => h, fun hnone => ?_, fun hnone => ?_⟩
    · cases hobject.symm.trans hstring
    · exact absurd hlist (hnone messages)
    · exact absurd hlist (hnone.2 messages)
  · intro h
    exact h.2.1 messages hlist

/-- Any other object gets the code that it brings, else the one of its status. -/
theorem codeFits_object (hobject : response.isObject = true)
    (hnone : ∀ messages, response.prop "message" ≠ .arr messages)
    (ha : answer (.http status response) = some a) :
    CodeFits a.status a.errorCode ↔ (Thrown.http status response).WellCoded := by
  obtain ⟨hstatus, hcode⟩ := answer_object hobject hnone ha
  have hstring : response.isObject ≠ false := by simp [hobject]
  rw [hstatus, hcode, JsVal.or]
  by_cases htruthy : (response.prop "errorCode").truthy = true
  · rw [if_pos htruthy]
    constructor
    · intro h
      refine ⟨fun h' => absurd h' hstring, fun messages h' => absurd h' (hnone messages),
        fun _ _ => h, fun unlabelled => ?_⟩
      rw [unlabelled.1] at htruthy
      cases htruthy
    · intro h
      exact h.2.2.1 hnone htruthy
  · rw [if_neg htruthy, codeFits_mapStatus]
    constructor
    · intro h
      exact ⟨fun h' => absurd h' hstring, fun messages h' => absurd h' (hnone messages),
        fun _ h' => absurd h' htruthy, fun _ => h⟩
    · intro h
      exact h.2.2.2 ⟨Bool.eq_false_iff.mpr htruthy, hnone⟩

/-- The code of an answer fits its status exactly if the exception is well coded. -/
theorem codeFits_answer {exception : Thrown} (ha : answer exception = some a) :
    CodeFits a.status a.errorCode ↔ exception.WellCoded := by
  cases exception with
  | error message =>
      rw [← Option.some.inj ha]
      exact iff_of_true (codeFits_internal.mpr fun h => absurd h.2 (Nat.lt_irrefl 500)) trivial
  | other v =>
      rw [← Option.some.inj ha]
      exact iff_of_true (codeFits_internal.mpr fun h => absurd h.2 (Nat.lt_irrefl 500)) trivial
  | http status response =>
      cases hobject : response.isObject with
      | false => exact codeFits_string hobject ha
      | true =>
          by_cases hlist : ∃ messages, response.prop "message" = .arr messages
          · obtain ⟨messages, hmessages⟩ := hlist
            exact codeFits_list hobject hmessages ha
          · exact codeFits_object hobject (not_exists.mp hlist) ha

/-- What code a response without one gets. -/
theorem answer_unlabelled (h : Unlabelled response) (ha : answer (.http status response) = some a) :
    a.errorCode = if response.isObject then (mapStatusToErrorCode status).js
      else ErrorCode.internalServerError.js := by
  cases hobject : response.isObject with
  | false =>
      rw [answer_string hobject] at ha
      rw [← Option.some.inj ha]
      rfl
  | true =>
      have hfalsy : ¬ (response.prop "errorCode").truthy = true := by
        rw [h.1]
        exact Bool.false_ne_true
      rw [(answer_object hobject h.2 ha).2, JsVal.or, if_neg hfalsy, if_pos rfl]

end

end HttpExceptionFilter

/-- The code in a body fits the status exactly if the exception is well coded, and two
responses without a code get the same one for a status exactly if they are of one kind, or
the status is none that the table lists. -/
theorem error_codes_fit_iff (iso : Int → String) (requestId : JsVal) (now : Int) :
    (∀ exception written, HttpExceptionFilter.catch_ iso requestId now exception = some written →
      (CodeFits written.1 (errorCodeOf written.2) ↔ exception.WellCoded)) ∧
    ∀ status a b writtenA writtenB, Unlabelled a → Unlabelled b →
      HttpExceptionFilter.catch_ iso requestId now (.http status a) = some writtenA →
      HttpExceptionFilter.catch_ iso requestId now (.http status b) = some writtenB →
      (errorCodeOf writtenA.2 = errorCodeOf writtenB.2 ↔
        a.isObject = b.isObject ∨ status ∉ [400, 401, 403, 404, 429, 503]) := by
  refine ⟨fun exception written h => ?_, fun status a b writtenA writtenB ha hb hA hB => ?_⟩
  · obtain ⟨answer, hanswer, hstatus, hcode⟩ := HttpExceptionFilter.catch_some h
    rw [hstatus, hcode]
    exact HttpExceptionFilter.codeFits_answer hanswer
  · obtain ⟨answerA, hanswerA, -, hcodeA⟩ := HttpExceptionFilter.catch_some hA
    obtain ⟨answerB, hanswerB, -, hcodeB⟩ := HttpExceptionFilter.catch_some hB
    rw [hcodeA, hcodeB, HttpExceptionFilter.answer_unlabelled ha hanswerA,
      HttpExceptionFilter.answer_unlabelled hb hanswerB,
      ← HttpExceptionFilter.mapStatusToErrorCode_eq_internal]
    cases a.isObject <;> cases b.isObject <;> simp [eq_comm]

/-! The exceptions of a sign-up whose address is taken, and of the throttler. -/

def addressTaken : Thrown := .described 409 "Conflict" "User with this email already exists"

def throttled : Thrown := .http 429 (.str "ThrottlerException: Too Many Requests")

/-- The conflict blames the server, and so does the throttler's answer, unlike one of the
same status with an object in it. -/
theorem error_codes_misfit :
    (∃ body, HttpExceptionFilter.catch_ (fun _ => "") .undefined 0 addressTaken = some (409, body) ∧
      errorCodeOf body = ErrorCode.internalServerError.js ∧
        ¬ CodeFits 409 (errorCodeOf body)) ∧
    (∃ body, HttpExceptionFilter.catch_ (fun _ => "") .undefined 0 throttled = some (429, body) ∧
      errorCodeOf body = ErrorCode.internalServerError.js) ∧
    ∃ body, HttpExceptionFilter.catch_ (fun _ => "") .undefined 0
        (.described 429 "Too Many Requests" "ThrottlerException: Too Many Requests") =
          some (429, body) ∧
      errorCodeOf body = ErrorCode.rateLimitExceeded.js := by
  refine ⟨⟨_, rfl, rfl, fun h => ?_⟩, ⟨_, rfl, rfl⟩, ⟨_, rfl, rfl⟩⟩
  exact h.client (by decide) (by decide) rfl

end BackendBoilerplate
